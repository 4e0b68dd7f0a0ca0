import Mathlib.Data.List.Dedup
import Vasi.Productization

/-!
# Reading stored configuration back

Each validator is applied again to what it returned. A field is stable when the
validator leaves it as it is; a profile whose fields are all stable is returned
unchanged when its stored document is read and validated, whatever order the
store keeps its members in. Admission documents are always stable. An address
is stable when its lower-case form is normalised and not too long, and a short
name derived from a display name when the cut leaves no white space at its end.
-/
namespace Vasi.StoredConfiguration

open JsValue Validation CanonicalJson IsoTime Admission Productization

/-! ## Stored members -/

/-- A member that is not stored, because it is undefined or absent. -/
theorem lookup_readBackMembers_none (order : Members → Members) {members : Members}
    {key : JsString} (distinct : (members.map Prod.fst).Nodup)
    (missing : Value.member members key = .undefined) :
    (readBackMembers order members).lookup key = none := by
  induction members with
  | nil => rfl
  | cons entry rest inductionHypothesis =>
      obtain ⟨first, value⟩ := entry
      obtain ⟨fresh, distinctRest⟩ := List.nodup_cons.mp distinct
      by_cases same : key = first
      · subst same
        have undefined : value = .undefined := by simpa [Value.member] using missing
        subst undefined
        have absent : Value.member rest key = .undefined := by
          have none : rest.lookup key = none := by
            rw [List.lookup_eq_none_iff]
            intro other member
            have apart : key ≠ other.1 := fun same =>
              fresh (List.mem_map.mpr ⟨other, member, same.symm⟩)
            simpa using apart
          simp [Value.member, none]
        simpa [readBackMembers, Value.isUndefined] using inductionHypothesis distinctRest absent
      · have later : Value.member rest key = .undefined := by
          simpa [Value.member, List.lookup_cons, beq_eq_false_iff_ne.mpr same] using missing
        rw [readBackMembers]
        split
        · exact inductionHypothesis distinctRest later
        · simpa [List.lookup_cons, beq_eq_false_iff_ne.mpr same] using
            inductionHypothesis distinctRest later

section Stored

variable {order : Members → Members} (rearranges : ∀ members, (order members).Perm members)

include rearranges in
/-- A stored object passes the check of its keys, and each of its members reads
as the stored form of the member. -/
theorem strictObject_stored (members : Members) (name : JsString) (allowedKeys : List JsString)
    (distinct : (members.map Prod.fst).Nodup) (allowed : ∀ key ∈ members.map Prod.fst,
      key ∈ allowedKeys) :
    ∃ stored, strictObject (readBack order (.object members)) name allowedKeys = .ok stored ∧
      ∀ key, Value.member stored key = readBack order (Value.member members key) := by
  have same := rearranges (readBackMembers order members)
  have keys := readBackMembers_keys order members
  refine ⟨order (readBackMembers order members), ?_, fun key => ?_⟩
  · have none : (propertyOrder (order (readBackMembers order members))).find?
        (fun entry => entry.1 ∉ allowedKeys) = none := by
      rw [List.find?_eq_none]
      intro entry member
      have inside := same.mem_iff.mp ((propertyOrder_perm _).mem_iff.mp member)
      simpa using allowed entry.1 (keys.subset (List.mem_map_of_mem inside))
    simp only [strictObject, strictObjectWith, readBack, none]
  · have found := lookup_perm same.symm (distinct.sublist keys) key
    rw [Value.member, ← found]
    cases present : members.lookup key with
    | none =>
        have missing : Value.member members key = .undefined := by simp [Value.member, present]
        rw [lookup_readBackMembers_none order distinct missing, missing]
        rfl
    | some value =>
        have read : Value.member members key = value := by simp [Value.member, present]
        cases defined : value.isUndefined with
        | true =>
            obtain rfl : value = .undefined := by cases value <;> simp_all [Value.isUndefined]
            rw [lookup_readBackMembers_none order distinct read, read]
            rfl
        | false =>
            rw [lookup_readBackMembers order distinct present defined, read]
            rfl

end Stored

/-- What passes the key check is an object with the members that are read. -/
theorem strictObject_object {value : Value} {name : JsString} {allowedKeys : List JsString}
    {members : Members} (read : strictObject value name allowedKeys = .ok members) :
    value = .object members := by
  cases value with
  | object own =>
      simp only [strictObject, strictObjectWith] at read
      split at read
      · cases read
      · cases read
        rfl
  | _ => cases read

@[simp] theorem isText_string (text : JsString) (order : Members → Members) :
    isText (readBack order (.string text)) text = true := by simp [isText, readBack]

/-- A whole number in range is accepted as it is. -/
theorem safeInteger_stored (order : Members → Members) (field : JsString) {value minimum maximum : ℕ}
    (inside : minimum ≤ value ∧ value ≤ maximum) (safe : maximum ≤ 2 ^ 53 - 1) :
    safeInteger (readBack order (wholeNumber value)) field minimum maximum = .ok value := by
  have integer : JsNumber.isSafeInteger (.finite (value : ℚ)) = true := by
    have small : (value : ℤ).natAbs ≤ 2 ^ 53 - 1 := by omega
    exact decide_eq_true small
  have read : readBack order (wholeNumber value) = .number (.finite value) := rfl
  have number : ((JsNumber.finite (value : ℚ)).toRat?.getD 0).num = value := rfl
  rw [read, safeInteger, safeIntegerWith]
  dsimp only
  rw [if_pos integer, number, if_neg (by omega)]
  rfl

/-! ## Trimming -/

theorem trim_part (text : JsString) : (trim text).IsInfix text :=
  (List.rdropWhile_prefix _ _).isInfix.trans (List.dropWhile_suffix _).isInfix

/-- A string without white space at its ends is trimmed already. -/
theorem trim_eq_self {text : JsString}
    (starts : ∀ unit, text.head? = some unit → isWhiteSpace unit = false)
    (ends : ∀ unit, text.getLast? = some unit → isWhiteSpace unit = false) : trim text = text := by
  have front : text.dropWhile isWhiteSpace = text := by
    cases text with
    | nil => rfl
    | cons unit rest => simp [starts unit rfl]
  rw [trim, front, List.rdropWhile_eq_self_iff]
  intro nonempty white
  have last := ends _ (List.getLast?_eq_getLast_of_ne_nil nonempty)
  simp_all

/-- Trimming leaves no white space at the ends. -/
theorem trim_ends (text : JsString) :
    (∀ unit, (trim text).head? = some unit → isWhiteSpace unit = false) ∧
      ∀ unit, (trim text).getLast? = some unit → isWhiteSpace unit = false := by
  constructor
  · intro unit first
    have prefixed : trim text <+: text.dropWhile isWhiteSpace := List.rdropWhile_prefix _ _
    have start := List.head?_dropWhile_not isWhiteSpace text
    obtain ⟨rest, whole⟩ := prefixed
    rw [← whole] at start
    cases shape : trim text with
    | nil => simp [shape] at first
    | cons head tail =>
        rw [shape] at first start
        simp only [List.head?_cons, Option.some.injEq] at first
        subst first
        simpa using start
  · intro unit last
    by_contra white
    have nonempty : trim text ≠ [] := by
      rintro empty
      simp [empty] at last
    have other := List.rdropWhile_last_not isWhiteSpace (text.dropWhile isWhiteSpace) nonempty
    rw [List.getLast?_eq_getLast_of_ne_nil nonempty, Option.some.injEq] at last
    rw [← last] at white
    exact white (Bool.eq_false_of_not_eq_true other)

@[simp] theorem trim_trim (text : JsString) : trim (trim text) = trim text :=
  trim_eq_self (trim_ends text).1 (trim_ends text).2

/-! ## Fields -/

section Fields

variable {platform : TextPlatform}

/-- A string that a bounded string check returns unchanged. -/
structure Settled (platform : TextPlatform) (minimum maximum : ℕ) (text : JsString) : Prop where
  normal : platform.normalizeNFC text = text
  trimmed : trim text = text
  inside : minimum ≤ text.length ∧ text.length ≤ maximum
  clean : text.any isControl = false

theorem boundedString_settled {minimum maximum : ℕ} {text : JsString}
    (settled : Settled platform minimum maximum text) (field : JsString) :
    boundedString platform (.string text) field minimum maximum = .ok text := by
  have inside := settled.inside
  simp only [boundedString, settled.normal, settled.trimmed, settled.clean]
  rw [if_neg]
  simp only [Bool.false_eq_true, or_false]
  omega

/-- What a bounded string check returns is settled: trimming keeps a normal form. -/
theorem boundedString_ok {value : Value} {field : JsString} {minimum maximum : ℕ}
    {text : JsString}
    (accepted : boundedString platform value field minimum maximum = .ok text) :
    Settled platform minimum maximum text ∧
      ∃ original, value = .string original ∧ text = trim (platform.normalizeNFC original) := by
  cases value with
  | string original =>
      simp only [boundedString] at accepted
      split at accepted
      case isTrue => cases accepted
      case isFalse inside =>
        cases accepted
        push Not at inside
        refine ⟨⟨?_, trim_trim _, ⟨inside.1, inside.2.1⟩, by simpa using inside.2.2⟩,
          original, rfl, rfl⟩
        exact platform.normalizeNFC_part _ _ (trim_part _) (platform.normalizeNFC_idem _)
  | _ => cases accepted

/-- A string without white space has none at its ends. -/
theorem trim_visible {text : JsString} (visible : text.any isWhiteSpace = false) :
    trim text = text := by
  rw [List.any_eq_false] at visible
  refine trim_eq_self (fun unit first => ?_) (fun unit last => ?_)
  · simpa using visible unit (List.mem_of_mem_head? first)
  · simpa using visible unit (List.mem_of_mem_getLast? last)

/-- A bounded string that fits a pattern is returned unchanged. -/
theorem patternString_ok {value : Value} {field message : JsString} {maximum : ℕ}
    {pattern : JsString → Bool} {text : JsString}
    (accepted : patternString platform value field maximum pattern message = .ok text) :
    Settled platform 1 maximum text ∧ pattern text = true := by
  obtain ⟨normalized, bounded, accepted⟩ := bind_ok accepted
  split at accepted
  case isTrue fits =>
    cases accepted
    exact ⟨(boundedString_ok bounded).1, fits⟩
  case isFalse => cases accepted

theorem patternString_settled {maximum : ℕ} {pattern : JsString → Bool} {text : JsString}
    (settled : Settled platform 1 maximum text ∧ pattern text = true) (field message : JsString) :
    patternString platform (.string text) field maximum pattern message = .ok text := by
  rw [patternString, boundedString_settled settled.1]
  simp [bind, Except.bind, settled.2, pure, Except.pure]

/-! ### Colors -/

/-- A lower-case color. -/
def SettledColor (platform : TextPlatform) (text : JsString) : Prop :=
  isColor text = true ∧ platform.toLowerCase text = text

theorem color_settled {text : JsString} (settled : SettledColor platform text) (field : JsString) :
    color platform (.string text) field = .ok text := by
  simp only [color, settled.1, settled.2, if_true]

theorem asciiLower_idem (unit : CodeUnit) : asciiLower (asciiLower unit) = asciiLower unit := by
  have lower : isUpperLetter (asciiLower unit) = false := by
    unfold asciiLower
    split
    case isTrue capital =>
      simp only [isUpperLetter, Bool.and_eq_true, decide_eq_true_eq] at capital
      have value : (Fin.ofNat 65536 (unit.val + 32)).val = unit.val + 32 :=
        Nat.mod_eq_of_lt (by omega)
      simp only [isUpperLetter, value, Bool.and_eq_false_iff, decide_eq_false_iff_not]
      omega
    case isFalse other => simpa using other
  rw [asciiLower, lower, if_neg (by simp)]

theorem map_asciiLower_idem (text : JsString) :
    (text.map asciiLower).map asciiLower = text.map asciiLower := by
  rw [List.map_map]
  exact List.map_congr_left fun unit _ => asciiLower_idem unit

/-- A visible ASCII code unit. -/
def isGraphic (unit : CodeUnit) : Bool := 33 ≤ unit.val && unit.val ≤ 126

theorem isGraphic_plain {unit : CodeUnit} (graphic : isGraphic unit = true) :
    unit.val < 128 ∧ isWhiteSpace unit = false ∧ isControl unit = false := by
  simp only [isGraphic, Bool.and_eq_true, decide_eq_true_eq] at graphic
  refine ⟨by omega, ?_, ?_⟩
  · simp only [isWhiteSpace, Bool.or_eq_false_iff, decide_eq_false_iff_not, List.mem_cons,
      List.not_mem_nil, or_false, not_or, Bool.and_eq_false_iff]
    omega
  · simp only [isControl, Bool.or_eq_false_iff, decide_eq_false_iff_not, beq_eq_false_iff_ne]
    omega

theorem lowerHex_graphic {unit : CodeUnit} (digit : isLowerHex (asciiLower unit) = true) :
    isGraphic unit = true := by
  unfold asciiLower at digit
  simp only [isGraphic, Bool.and_eq_true, decide_eq_true_eq]
  split at digit
  case isTrue capital =>
    simp only [isUpperLetter, Bool.and_eq_true, decide_eq_true_eq] at capital
    omega
  case isFalse =>
    simp only [isLowerHex, isDigit, Bool.or_eq_true, Bool.and_eq_true,
      decide_eq_true_eq] at digit
    omega

/-- What lower-cases to a hexadecimal digit is ASCII. -/
theorem lowerHex_ascii {unit : CodeUnit} (digit : isLowerHex (asciiLower unit) = true) :
    unit.val < 128 := (isGraphic_plain (lowerHex_graphic digit)).1

theorem color_ok {value : Value} {field text : JsString}
    (accepted : color platform value field = .ok text) : SettledColor platform text := by
  cases value with
  | string original =>
      simp only [color] at accepted
      split at accepted
      case isFalse => cases accepted
      case isTrue fits =>
        cases accepted
        refine ⟨?_, platform.toLowerCase_idem original⟩
        cases original with
        | nil => simp [isColor] at fits
        | cons first rest =>
            simp only [isColor, Bool.and_eq_true, decide_eq_true_eq, beq_iff_eq,
              List.all_eq_true] at fits
            obtain ⟨⟨rfl, length⟩, digits⟩ := fits
            have ascii : isAscii (35 :: rest) = true := by
              simp only [isAscii, List.all_cons, Bool.and_eq_true, decide_eq_true_eq,
                List.all_eq_true]
              exact ⟨by decide, fun unit member => lowerHex_ascii (digits unit member)⟩
            rw [platform.toLowerCase_ascii _ ascii]
            have mark : asciiLower 35 = 35 := by decide
            simp only [List.map_cons, mark, isColor, decide_true, Bool.true_and, List.length_map,
              length, beq_self_eq_true, List.all_map, List.all_eq_true, Function.comp_apply,
              asciiLower_idem]
            exact digits
  | _ => cases accepted

/-! ### Addresses -/

/-- An address that the address check returns unchanged. -/
def SettledEmail (platform : TextPlatform) (text : JsString) : Prop :=
  Settled platform 3 320 text ∧ platform.toLowerCase text = text ∧ isEmail text = true

theorem email_settled {text : JsString} (settled : SettledEmail platform text)
    (field : JsString) : email platform (.string text) field = .ok text := by
  rw [email, boundedString_settled settled.1]
  simp [bind, Except.bind, settled.2.1, settled.2.2, pure, Except.pure]

/-- An address whose lower-case form is normalised and not too long. -/
def AddressStable (platform : TextPlatform) (value : Value) : Prop :=
  ∀ text, value = .string text →
    let lowered := platform.toLowerCase (trim (platform.normalizeNFC text))
    platform.normalizeNFC lowered = lowered ∧ lowered.length ≤ 320

/-- The parts of an accepted address. -/
theorem isEmail_parts {text : JsString} (address : isEmail text = true) :
    3 ≤ text.length ∧ text.any isWhiteSpace = false := by
  simp only [isEmail, Bool.and_eq_true, decide_eq_true_eq, List.all_eq_true] at address
  obtain ⟨⟨⟨name, domain⟩, _⟩, visible⟩ := address
  constructor
  · have whole := congrArg List.length
      (List.takeWhile_append_dropWhile (p := fun unit => decide (unit ≠ 64)) (l := text))
    have first := List.length_pos_of_ne_nil name
    have last := List.length_pos_of_ne_nil domain
    rw [List.length_append] at whole
    rw [List.length_tail] at last
    simp only [ne_eq] at whole first last
    omega
  · rw [List.any_eq_false]
    intro unit member
    simpa using visible unit member

/-- An accepted address is its own lower-case form, without white space. -/
theorem email_ok {value : Value} {field text : JsString}
    (accepted : email platform value field = .ok text) :
    ∃ original, value = .string original ∧
      text = platform.toLowerCase (trim (platform.normalizeNFC original)) ∧
      platform.toLowerCase text = text ∧ isEmail text = true ∧ trim text = text ∧
      3 ≤ text.length ∧ text.any isControl = false := by
  obtain ⟨normalized, bounded, accepted⟩ := bind_ok accepted
  obtain ⟨settled, original, rfl, rfl⟩ := boundedString_ok bounded
  dsimp only at accepted
  split at accepted
  case isFalse => cases accepted
  case isTrue address =>
    cases accepted
    obtain ⟨long, visible⟩ := isEmail_parts address
    exact ⟨original, rfl, rfl, platform.toLowerCase_idem _, address, trim_visible visible, long,
      platform.toLowerCase_control _ settled.clean⟩

theorem email_stable {value : Value} {field text : JsString}
    (accepted : email platform value field = .ok text) (stable : AddressStable platform value) :
    SettledEmail platform text := by
  obtain ⟨original, rfl, shape, lower, address, trimmed, long, clean⟩ := email_ok accepted
  obtain ⟨normal, short⟩ := stable original rfl
  rw [← shape] at normal short
  exact ⟨⟨normal, trimmed, ⟨long, short⟩, clean⟩, lower, address⟩

/-- An address that was accepted twice is settled: composing the lower-case form
gives a lower-case form. -/
theorem email_twice {value : Value} {field otherField first second : JsString}
    (once : email platform value field = .ok first)
    (again : email platform (.string first) otherField = .ok second) :
    SettledEmail platform second := by
  obtain ⟨_, _, shape, lower, address, _⟩ := email_ok once
  obtain ⟨original, same, secondShape, secondLower, secondAddress, trimmed, long, clean⟩ :=
    email_ok again
  obtain rfl : first = original := by simpa using same
  have visible := platform.normalizeNFC_visible first (isEmail_parts address).2
  have composed : second = platform.normalizeNFC first := by
    rw [secondShape, trim_visible visible, shape]
    exact platform.toLowerCase_normalizeNFC _
  obtain ⟨normalized, bounded, _⟩ := bind_ok again
  obtain ⟨settled, source, sameSource, rfl⟩ := boundedString_ok bounded
  obtain rfl : first = source := by simpa using sameSource
  have short := settled.inside.2
  rw [trim_visible visible, ← composed] at short
  refine ⟨⟨?_, trimmed, ⟨long, short⟩, clean⟩, secondLower, secondAddress⟩
  rw [composed, platform.normalizeNFC_idem]

/-! ### Identifiers and hosts -/

theorem alphanumeric_graphic {unit : CodeUnit}
    (letter : (isLowerLetter (asciiLower unit) || isDigit unit) = true) :
    isGraphic unit = true := by
  simp only [isGraphic, Bool.and_eq_true, decide_eq_true_eq]
  rw [Bool.or_eq_true] at letter
  rcases letter with lower | digit
  · unfold asciiLower at lower
    split at lower
    case isTrue capital =>
      simp only [isUpperLetter, Bool.and_eq_true, decide_eq_true_eq] at capital
      omega
    case isFalse =>
      simp only [isLowerLetter, Bool.and_eq_true, decide_eq_true_eq] at lower
      omega
  · simp only [isDigit, Bool.and_eq_true, decide_eq_true_eq] at digit
    omega

/-- Visible ASCII text is normalised, trimmed and without control codes. -/
theorem graphic_settled {minimum maximum : ℕ} {text : JsString}
    (graphic : ∀ unit ∈ text, isGraphic unit = true)
    (inside : minimum ≤ text.length ∧ text.length ≤ maximum) :
    Settled platform minimum maximum text := by
  have plain := fun unit member => isGraphic_plain (graphic unit member)
  refine ⟨platform.normalizeNFC_ascii text ?_, trim_visible ?_, inside, ?_⟩
  · simpa [isAscii, List.all_eq_true] using fun unit member => (plain unit member).1
  · simpa [List.any_eq_false] using fun unit member => (plain unit member).2.1
  · simpa [List.any_eq_false] using fun unit member => (plain unit member).2.2

theorem isUuid_graphic {text : JsString} (identifier : isUuid text = true) :
    ∀ unit ∈ text, isGraphic unit = true := by
  intro unit member
  simp only [isUuid, Bool.and_eq_true, List.all_eq_true] at identifier
  obtain ⟨index, bound, same⟩ := List.mem_iff_getElem.mp member
  have entry := identifier.1.2 (unit, index) (by
    rw [List.mem_zipIdx_iff_getElem?]
    simp [bound, same])
  dsimp only at entry
  split at entry
  · obtain rfl : unit = 45 := by simpa using entry
    decide
  · simp only [isLowerHex, isDigit, Bool.or_eq_true, Bool.and_eq_true,
      decide_eq_true_eq] at entry
    simp only [isGraphic, Bool.and_eq_true, decide_eq_true_eq]
    omega

/-- What the identifier check returns it returns again. -/
theorem uuid_settled {value : Value} {field text : JsString}
    (accepted : uuid platform value field = .ok text) (otherField : JsString) :
    uuid platform (.string text) otherField = .ok text := by
  have shape : isUuid text = true ∧ platform.toLowerCase text = text := by
    unfold uuid at accepted
    cases value with
    | string original =>
        dsimp only at accepted
        split at accepted
        case isTrue fits =>
          cases accepted
          exact ⟨fits, platform.toLowerCase_idem _⟩
        case isFalse => cases accepted
    | _ =>
        dsimp only at accepted
        rw [if_neg (by decide)] at accepted
        cases accepted
  have settled : Settled platform 0 text.length text :=
    graphic_settled (isUuid_graphic shape.1) ⟨Nat.zero_le _, le_rfl⟩
  unfold uuid
  dsimp only
  rw [settled.normal, settled.trimmed, shape.2, if_pos shape.1]

theorem isHost_graphic {text : JsString} (host : isHost text = true) :
    ∀ unit ∈ text, isGraphic unit = true := by
  intro unit member
  simp only [isHost, Bool.or_eq_true, Bool.and_eq_true, List.all_eq_true] at host
  rcases host with ⟨_, every⟩ | ⟨⟨⟨_, first⟩, last⟩, every⟩
  · rcases every unit member with letter | mark
    · exact alphanumeric_graphic (by simpa [Bool.or_eq_true] using letter)
    · simp only [decide_eq_true_eq, List.mem_cons, List.not_mem_nil, or_false] at mark
      simp only [isGraphic, Bool.and_eq_true, decide_eq_true_eq]
      omega
  · cases text with
    | nil => cases member
    | cons head tail =>
        obtain rfl : head = 91 := by simpa using first
        rcases List.mem_cons.mp member with rfl | inside
        · decide
        · have nonempty : tail ≠ [] := List.ne_nil_of_mem inside
          have ends : tail.getLast nonempty = 93 := by
            simpa [List.getLast?_cons, List.getLast?_eq_getLast_of_ne_nil nonempty] using last
          rw [← List.dropLast_append_getLast nonempty, List.mem_append, ends] at inside
          rcases inside with inner | final
          · rcases every unit inner with digit | colon
            · exact lowerHex_graphic digit
            · obtain rfl : unit = 58 := by simpa using colon
              decide
          · obtain rfl : unit = 93 := by simpa using final
            decide

/-- What the host check returns it returns again. -/
theorem hostEntry_settled {value : Value} {field text : JsString}
    (accepted : hostEntry platform value field = .ok text) (otherField : JsString) :
    hostEntry platform (.string text) otherField = .ok text := by
  obtain ⟨normalized, bounded, accepted⟩ := bind_ok accepted
  obtain ⟨settled, -⟩ := boundedString_ok bounded
  dsimp only at accepted
  split at accepted
  case isFalse => cases accepted
  case isTrue host =>
    cases accepted
    have graphic := isHost_graphic host
    have ascii : isAscii (platform.toLowerCase normalized) = true := by
      simpa [isAscii, List.all_eq_true] using
        fun unit member => (isGraphic_plain (graphic unit member)).1
    have length := platform.toLowerCase_length normalized ascii
    have again : Settled platform 1 253 (platform.toLowerCase normalized) :=
      graphic_settled graphic (length ▸ settled.inside)
    rw [hostEntry, boundedString_settled again]
    simp [bind, Except.bind, platform.toLowerCase_idem, host, pure, Except.pure]

/-! ### Lists -/

theorem sortedSet_idem (texts : List JsString) : sortedSet (sortedSet texts) = sortedSet texts := by
  have distinct : (sortedSet texts).Nodup :=
    (List.perm_insertionSort _ _).nodup_iff.mpr (List.nodup_dedup texts)
  have sorted : (sortedSet texts).Pairwise (· ≤ ·) := List.pairwise_insertionSort _ _
  conv_lhs => rw [sortedSet, distinct.dedup]
  exact sorted.insertionSort_eq

theorem mem_sortedSet {text : JsString} {texts : List JsString} :
    text ∈ sortedSet texts ↔ text ∈ texts := by
  rw [sortedSet, (List.perm_insertionSort _ _).mem_iff, List.mem_dedup]

theorem sortedSet_length (texts : List JsString) : (sortedSet texts).length ≤ texts.length := by
  rw [sortedSet, (List.perm_insertionSort _ _).length_eq]
  exact (List.dedup_sublist texts).length_le

/-- Every result of a successful traversal comes from one of its items. -/
theorem mapM_ok {α β ε : Type} {visit : α → Except ε β} {items : List α} {results : List β}
    (visited : items.mapM visit = .ok results) :
    results.length = items.length ∧
      ∀ result ∈ results, ∃ item ∈ items, visit item = .ok result := by
  induction items generalizing results with
  | nil =>
      cases visited
      simp
  | cons item rest inductionHypothesis =>
      rw [List.mapM_cons] at visited
      obtain ⟨head, first, visited⟩ := bind_ok visited
      obtain ⟨tail, later, visited⟩ := bind_ok visited
      cases visited
      obtain ⟨length, origin⟩ := inductionHypothesis later
      refine ⟨by simp [length], fun result member => ?_⟩
      rcases List.mem_cons.mp member with rfl | member
      · exact ⟨item, by simp, first⟩
      · obtain ⟨source, inside, same⟩ := origin result member
        exact ⟨source, by simp [inside], same⟩

/-- A traversal of strings that each visit returns gives the strings. -/
theorem mapM_settled {ε : Type} {visit : Value → Except ε JsString} {texts : List JsString}
    (settled : ∀ text ∈ texts, visit (.string text) = .ok text) :
    (texts.map Value.string).mapM visit = .ok texts := by
  induction texts with
  | nil => rfl
  | cons text rest inductionHypothesis =>
      rw [List.forall_mem_cons] at settled
      rw [List.map_cons, List.mapM_cons, settled.1, inductionHypothesis settled.2]
      rfl

@[simp] theorem readBack_textList (order : Members → Members) (texts : List JsString) :
    readBack order (textList texts) = textList texts := by
  have items : readBackItems order (texts.map .string) = texts.map .string := by
    induction texts with
    | nil => rfl
    | cons text rest inductionHypothesis =>
        simp [readBackItems, readBack, Value.isUndefined, inductionHypothesis]
  simp [textList, readBack, items]

/-- A list that a list check returns unchanged. -/
structure SettledList (entry : Value → JsString → Checked JsString) (texts : List JsString) :
    Prop where
  sorted : sortedSet texts = texts
  few : texts.length ≤ 256
  settled : ∀ text ∈ texts, ∀ field, entry (.string text) field = .ok text

theorem allowedList_settled {entry : Value → JsString → Checked JsString} {texts : List JsString}
    (settled : SettledList entry texts) (field : JsString) :
    allowedList entry (textList texts) field = .ok texts := by
  have few := settled.few
  rw [textList, allowedList, List.length_map, if_neg (by omega),
    mapM_settled fun text member => settled.settled text member field]
  simp [Except.map, settled.sorted]

theorem allowedList_ok {entry : Value → JsString → Checked JsString} {value : Value}
    {field : JsString} {texts : List JsString}
    (accepted : allowedList entry value field = .ok texts) :
    sortedSet texts = texts ∧ texts.length ≤ 256 ∧
      ∃ items, value = .array items ∧ ∀ text ∈ texts, ∃ item ∈ items, entry item field = .ok text := by
  cases value with
  | array items =>
      rw [allowedList] at accepted
      split at accepted
      case isTrue => cases accepted
      case isFalse few =>
        cases visited : items.mapM fun item => entry item field with
        | error failure => simp [visited, Except.map] at accepted
        | ok results =>
            simp only [visited, Except.map, Except.ok.injEq] at accepted
            subst accepted
            obtain ⟨length, origin⟩ := mapM_ok visited
            have short := sortedSet_length results
            exact ⟨sortedSet_idem results, by omega, items, rfl, fun text member =>
              origin text (mem_sortedSet.mp member)⟩
  | _ => cases accepted

/-! ## Tenant profiles -/

/-- A tenant profile that its validator returns unchanged. -/
structure SettledTenantProfile (platform : TextPlatform) (profile : TenantProfile) : Prop where
  accentColor : SettledColor platform profile.accentColor
  displayName : Settled platform 2 160 profile.displayName
  primaryColor : SettledColor platform profile.primaryColor
  shortName : Settled platform 2 48 profile.shortName
  supportEmail : ∀ address ∈ profile.supportEmail, SettledEmail platform address
  retention : Settled platform 1 128 profile.defaultRetentionProfile ∧
    isProfileName profile.defaultRetentionProfile = true
  maxActiveRequests : 1 ≤ profile.maxActiveRequests ∧ profile.maxActiveRequests ≤ 1000000
  maxArtifactBytes :
    1048576 ≤ profile.maxArtifactBytes ∧ profile.maxArtifactBytes ≤ 10995116277760
  perArtifact : 1024 ≤ profile.maxArtifactBytesPerArtifact ∧
    profile.maxArtifactBytesPerArtifact ≤ 1073741824
  within : profile.maxArtifactBytesPerArtifact ≤ profile.maxArtifactBytes
  maxIntegrations : 0 ≤ profile.maxIntegrations ∧ profile.maxIntegrations ≤ 100
  maxMembers : 1 ≤ profile.maxMembers ∧ profile.maxMembers ≤ 100000
  maxWorkflows : 1 ≤ profile.maxWorkflows ∧ profile.maxWorkflows ≤ 100000

theorem optionalEmail_settled {address : Option JsString}
    (settled : ∀ text ∈ address, SettledEmail platform text) (order : Members → Members)
    (field : JsString) :
    optionalEmail platform (readBack order (nullableText address)) field = .ok address := by
  cases address with
  | none => rfl
  | some text =>
      have accepted := email_settled (settled text rfl) field
      have long := (settled text rfl).1.inside.1
      cases text with
      | nil => simp at long
      | cons unit rest =>
          change (email platform (.string (unit :: rest)) field).map some = _
          rw [accepted]
          rfl

theorem optionalEmail_stable {value : Value} {field : JsString} {address : Option JsString}
    (accepted : optionalEmail platform value field = .ok address)
    (stable : AddressStable platform value) :
    ∀ text ∈ address, SettledEmail platform text := by
  rintro text member
  have found : ∃ inner, email platform value field = .ok inner ∧ address = some inner := by
    unfold optionalEmail at accepted
    split at accepted
    · cases accepted
      cases member
    · cases accepted
      cases member
    · cases accepted
      cases member
    · cases inner : email platform value field with
      | error failure => simp [inner, Except.map] at accepted
      | ok result =>
          simp only [inner, Except.map, Except.ok.injEq] at accepted
          exact ⟨result, rfl, accepted.symm⟩
  obtain ⟨inner, checked, rfl⟩ := found
  cases member
  exact email_stable checked stable

/-- A settled profile is returned unchanged when its stored document is read. -/
theorem validateTenantProfile_settled {order : Members → Members}
    (rearranges : ∀ members, (order members).Perm members) {profile : TenantProfile}
    (settled : SettledTenantProfile platform profile) :
    validateTenantProfile platform (readBack order profile.toValue) = .ok profile := by
  obtain ⟨input, inputRead, inputMember⟩ := strictObject_stored rearranges
    profile.members (js "tenant profile")
    [js "branding", js "policies", js "quotas", js "schema"]
    (show ([js "branding", js "policies", js "quotas", js "schema"] : List JsString).Nodup
      by decide) (fun key member => member)
  obtain ⟨branding, brandingRead, brandingMember⟩ := strictObject_stored rearranges
    profile.branding (js "tenant branding")
    [js "accentColor", js "displayName", js "primaryColor", js "shortName",
      js "supportEmail"]
    (show ([js "accentColor", js "displayName", js "primaryColor", js "shortName",
      js "supportEmail"] : List JsString).Nodup by decide) (fun key member => member)
  obtain ⟨policies, policiesRead, policiesMember⟩ := strictObject_stored rearranges
    profile.policies (js "tenant policies")
    [js "defaultRetentionProfile"]
    (show ([js "defaultRetentionProfile"] : List JsString).Nodup by decide)
    (fun key member => member)
  obtain ⟨quotas, quotasRead, quotasMember⟩ := strictObject_stored rearranges
    profile.quotas (js "tenant quotas")
    [js "maxActiveRequests", js "maxArtifactBytes",
      js "maxArtifactBytesPerArtifact", js "maxIntegrations", js "maxMembers",
      js "maxWorkflows"]
    (show ([js "maxActiveRequests", js "maxArtifactBytes", js "maxArtifactBytesPerArtifact",
      js "maxIntegrations", js "maxMembers", js "maxWorkflows"] : List JsString).Nodup by decide)
    (fun key member => member)
  have schema : isText (Value.member input (js "schema")) TENANT_PROFILE_SCHEMA = true := by
    rw [inputMember]
    exact isText_string TENANT_PROFILE_SCHEMA order
  have brandingAt : strictObject (Value.member input (js "branding")) (js "tenant branding")
      [js "accentColor", js "displayName", js "primaryColor", js "shortName",
        js "supportEmail"] = .ok branding := by
    rw [inputMember]
    exact brandingRead
  have policiesAt : strictObject (Value.member input (js "policies")) (js "tenant policies")
      [js "defaultRetentionProfile"] = .ok policies := by
    rw [inputMember]
    exact policiesRead
  have quotasAt : strictObject (Value.member input (js "quotas")) (js "tenant quotas")
      [js "maxActiveRequests", js "maxArtifactBytes", js "maxArtifactBytesPerArtifact",
        js "maxIntegrations", js "maxMembers", js "maxWorkflows"] = .ok quotas := by
    rw [inputMember]
    exact quotasRead
  have total : safeInteger (Value.member quotas (js "maxArtifactBytes")) (js "maxArtifactBytes")
      1048576 10995116277760 = .ok profile.maxArtifactBytes := by
    rw [quotasMember]
    exact safeInteger_stored order _ settled.maxArtifactBytes (by norm_num)
  have single : safeInteger (Value.member quotas (js "maxArtifactBytesPerArtifact"))
      (js "maxArtifactBytesPerArtifact") 1024 1073741824 =
        .ok profile.maxArtifactBytesPerArtifact := by
    rw [quotasMember]
    exact safeInteger_stored order _ settled.perArtifact (by norm_num)
  have accent : color platform (Value.member branding (js "accentColor")) (js "accentColor") =
      .ok profile.accentColor := by
    rw [brandingMember]
    exact color_settled settled.accentColor _
  have display : boundedString platform (Value.member branding (js "displayName"))
      (js "displayName") 2 160 = .ok profile.displayName := by
    rw [brandingMember]
    exact boundedString_settled settled.displayName _
  have primary : color platform (Value.member branding (js "primaryColor")) (js "primaryColor") =
      .ok profile.primaryColor := by
    rw [brandingMember]
    exact color_settled settled.primaryColor _
  have short : boundedString platform (Value.member branding (js "shortName"))
      (js "shortName") 2 48 = .ok profile.shortName := by
    rw [brandingMember]
    exact boundedString_settled settled.shortName _
  have support : optionalEmail platform (Value.member branding (js "supportEmail"))
      (js "supportEmail") = .ok profile.supportEmail := by
    rw [brandingMember]
    exact optionalEmail_settled settled.supportEmail order _
  have retention : profileName platform
      (Value.member policies (js "defaultRetentionProfile")) =
        .ok profile.defaultRetentionProfile := by
    rw [policiesMember]
    exact patternString_settled settled.retention _ _
  have requests : safeInteger (Value.member quotas (js "maxActiveRequests"))
      (js "maxActiveRequests") 1 1000000 = .ok profile.maxActiveRequests := by
    rw [quotasMember]
    exact safeInteger_stored order _ settled.maxActiveRequests (by norm_num)
  have integrations : safeInteger (Value.member quotas (js "maxIntegrations"))
      (js "maxIntegrations") 0 100 = .ok profile.maxIntegrations := by
    rw [quotasMember]
    exact safeInteger_stored order _ settled.maxIntegrations (by norm_num)
  have people : safeInteger (Value.member quotas (js "maxMembers"))
      (js "maxMembers") 1 100000 = .ok profile.maxMembers := by
    rw [quotasMember]
    exact safeInteger_stored order _ settled.maxMembers (by norm_num)
  have workflows : safeInteger (Value.member quotas (js "maxWorkflows"))
      (js "maxWorkflows") 1 100000 = .ok profile.maxWorkflows := by
    rw [quotasMember]
    exact safeInteger_stored order _ settled.maxWorkflows (by norm_num)
  rw [validateTenantProfile, TenantProfile.toValue, inputRead]
  simp only [bind, Except.bind, schema, brandingAt, policiesAt, quotasAt, total, single, accent,
    display, primary, short, support, retention, requests, integrations, people, workflows,
    not_true_eq_false, if_false, not_lt.mpr settled.within, pure, Except.pure]

/-- A profile that was accepted with a stable address is settled. -/
theorem validateTenantProfile_ok {value : Value} {profile : TenantProfile}
    (accepted : validateTenantProfile platform value = .ok profile)
    (stable : AddressStable platform ((value.get (js "branding")).get (js "supportEmail"))) :
    SettledTenantProfile platform profile := by
  unfold validateTenantProfile at accepted
  obtain ⟨input, read, accepted⟩ := bind_ok accepted
  split at accepted
  · cases accepted
  obtain ⟨branding, brandingRead, accepted⟩ := bind_ok accepted
  obtain ⟨policies, -, accepted⟩ := bind_ok accepted
  obtain ⟨quotas, -, accepted⟩ := bind_ok accepted
  obtain ⟨maxArtifactBytes, total, accepted⟩ := bind_ok accepted
  obtain ⟨maxArtifactBytesPerArtifact, single, accepted⟩ := bind_ok accepted
  split at accepted
  · cases accepted
  rename_i within
  obtain ⟨accentColor, accent, accepted⟩ := bind_ok accepted
  obtain ⟨displayName, display, accepted⟩ := bind_ok accepted
  obtain ⟨primaryColor, primary, accepted⟩ := bind_ok accepted
  obtain ⟨shortName, short, accepted⟩ := bind_ok accepted
  obtain ⟨supportEmail, support, accepted⟩ := bind_ok accepted
  obtain ⟨defaultRetentionProfile, retention, accepted⟩ := bind_ok accepted
  obtain ⟨maxActiveRequests, requests, accepted⟩ := bind_ok accepted
  obtain ⟨maxIntegrations, integrations, accepted⟩ := bind_ok accepted
  obtain ⟨maxMembers, people, accepted⟩ := bind_ok accepted
  obtain ⟨maxWorkflows, workflows, accepted⟩ := bind_ok accepted
  cases accepted
  have address : (value.get (js "branding")).get (js "supportEmail") =
      Value.member branding (js "supportEmail") := by
    rw [strictObject_object read, Value.get, strictObject_object brandingRead, Value.get]
  rw [address] at stable
  exact {
    accentColor := color_ok accent
    displayName := (boundedString_ok display).1
    primaryColor := color_ok primary
    shortName := (boundedString_ok short).1
    supportEmail := optionalEmail_stable support stable
    retention := patternString_ok retention
    maxActiveRequests := safeIntegerWith_range requests
    maxArtifactBytes := safeIntegerWith_range total
    perArtifact := safeIntegerWith_range single
    within := not_lt.mp within
    maxIntegrations := safeIntegerWith_range integrations
    maxMembers := safeIntegerWith_range people
    maxWorkflows := safeIntegerWith_range workflows }

/-- The short name cut from a display name ends in no white space. -/
def CutsCleanly (platform : TextPlatform) (name : Value) : Prop :=
  ∀ text, name = .string text → ∀ unit,
    ((trim (platform.normalizeNFC text)).take 48).getLast? = some unit → isWhiteSpace unit = false

/-- A default profile is settled when its short name was cut cleanly. -/
theorem defaultTenantProfile_ok {name : Value} {profile : TenantProfile}
    (accepted : defaultTenantProfile platform name = .ok profile)
    (clean : CutsCleanly platform name) : SettledTenantProfile platform profile := by
  obtain ⟨displayName, bounded, accepted⟩ := bind_ok accepted
  cases accepted
  obtain ⟨settled, text, rfl, rfl⟩ := boundedString_ok bounded
  have inside := settled.inside
  have lowerColor : ∀ text : JsString, isColor text = true → isAscii text = true →
      text.map asciiLower = text → SettledColor platform text := fun text color ascii lower =>
    ⟨color, (platform.toLowerCase_ascii text ascii).trans lower⟩
  have accent : SettledColor platform (js "#2e5b4e") :=
    lowerColor _ (by decide) (by decide) (by decide)
  have primary : SettledColor platform (js "#183e34") :=
    lowerColor _ (by decide) (by decide) (by decide)
  have retention : Settled platform 1 128 (js "tenant_default") ∧
      isProfileName (js "tenant_default") = true :=
    ⟨graphic_settled (List.all_eq_true.mp (by decide)) (by decide), by decide⟩
  exact {
    accentColor := accent
    displayName := settled
    primaryColor := primary
    shortName := {
      normal := platform.normalizeNFC_part _ _ (List.take_prefix _ _).isInfix settled.normal
      trimmed := trim_eq_self
        (fun unit first => (trim_ends (platform.normalizeNFC text)).1 unit (by
          rw [← first, List.head?_take, if_neg (by decide)])) (clean text rfl)
      inside := by
        rw [List.length_take]
        omega
      clean := by
        rw [List.any_eq_false]
        intro unit member
        have whole := settled.clean
        rw [List.any_eq_false] at whole
        exact whole unit (List.mem_of_mem_take member) }
    supportEmail := fun address member => by cases member
    retention
    maxActiveRequests := ⟨by norm_num, by norm_num⟩
    maxArtifactBytes := ⟨by norm_num, by norm_num⟩
    perArtifact := ⟨by norm_num, by norm_num⟩
    within := by norm_num
    maxIntegrations := ⟨by norm_num, by norm_num⟩
    maxMembers := ⟨by norm_num, by norm_num⟩
    maxWorkflows := ⟨by norm_num, by norm_num⟩ }

/-! ## Installation profiles -/

/-- The adapter allowlist of a settled profile. -/
structure SettledAdapters (platform : TextPlatform) (allow : List JsString) : Prop where
  sorted : sortedSet allow = allow
  nonempty : allow ≠ []
  few : allow.length ≤ BUILT_IN_ADAPTERS.length
  known : ∀ id ∈ allow, id ∈ BUILT_IN_ADAPTERS
  disabled : js "disabled" ∈ allow
  tokens : ∀ id ∈ allow, ∀ field, token platform (.string id) field = .ok id

theorem adapterAllowlist_settled {allow : List JsString} (settled : SettledAdapters platform allow) :
    adapterAllowlist platform (textList allow) = .ok allow := by
  have few := settled.few
  have positive := List.length_pos_of_ne_nil settled.nonempty
  rw [textList, adapterAllowlist, List.length_map, if_neg (by omega),
    mapM_settled fun id member => settled.tokens id member (js "adapter")]
  simp only [bind, Except.bind, settled.sorted]
  rw [if_neg]
  · rfl
  · push Not
    exact ⟨settled.known, settled.disabled⟩

theorem adapterAllowlist_ok {value : Value} {allow : List JsString}
    (accepted : adapterAllowlist platform value = .ok allow) : SettledAdapters platform allow := by
  cases value with
  | array items =>
      rw [adapterAllowlist] at accepted
      split at accepted
      case isTrue => cases accepted
      case isFalse sized =>
        obtain ⟨results, visited, accepted⟩ := bind_ok accepted
        dsimp only at accepted
        split at accepted
        case isTrue => cases accepted
        case isFalse supported =>
          cases accepted
          push Not at sized supported
          obtain ⟨length, origin⟩ := mapM_ok visited
          have short := sortedSet_length results
          refine ⟨sortedSet_idem results, List.ne_nil_of_mem supported.2, by omega, supported.1,
            supported.2, fun id member field => ?_⟩
          obtain ⟨item, _, accepted⟩ := origin id (mem_sortedSet.mp member)
          exact patternString_settled (patternString_ok accepted) _ _
  | _ => cases accepted

/-- An installation profile that its validator returns unchanged. -/
structure SettledInstallationProfile (platform : TextPlatform) (profile : InstallationProfile) :
    Prop where
  allow : SettledAdapters platform profile.allow
  clientIds : ∀ texts ∈ profile.microsoftGraphAllowedClientIds, SettledList (uuid platform) texts
  senders : ∀ texts ∈ profile.microsoftGraphAllowedSenders, SettledList (email platform) texts
  tenantIds : ∀ texts ∈ profile.microsoftGraphAllowedTenantIds, SettledList (uuid platform) texts
  scanners : ∀ texts ∈ profile.malwareScannerAllowedHosts,
    SettledList (hostEntry platform) texts
  smtp : SettledList (hostEntry platform) profile.smtpAllowedHosts
  webhook : SettledList (hostEntry platform) profile.webhookAllowedHosts
  organizationName : Settled platform 2 120 profile.organizationName
  productName : Settled platform 2 80 profile.productName
  supportEmail : SettledEmail platform profile.supportEmail
  maxTenants : 1 ≤ profile.maxTenants ∧ profile.maxTenants ≤ 1000000

theorem optionalList_settled {entry : Value → JsString → Checked JsString}
    {texts : Option (List JsString)} (settled : ∀ list ∈ texts, SettledList entry list)
    (order : Members → Members) (field : JsString) :
    optionalList (allowedList entry) (readBack order (optionalTextList texts)) field =
      .ok texts := by
  cases texts with
  | none => rfl
  | some list =>
      have accepted := allowedList_settled (settled list rfl) field
      rw [optionalTextList, readBack_textList, optionalList, if_neg (by simp [textList, Value.isUndefined]),
        accepted]
      rfl

theorem optionalList_ok {entry : Value → JsString → Checked JsString} {value : Value}
    {field : JsString} {texts : Option (List JsString)}
    (accepted : optionalList (allowedList entry) value field = .ok texts) :
    ∀ list ∈ texts, allowedList entry value field = .ok list := by
  unfold optionalList at accepted
  split at accepted
  · cases accepted
    intro list member
    cases member
  · cases found : allowedList entry value field with
    | error failure => simp [found, Except.map] at accepted
    | ok result =>
        simp only [found, Except.map, Except.ok.injEq] at accepted
        subst accepted
        rintro list ⟨⟩
        rfl

/-- A settled profile is returned unchanged when its stored document is read. -/
theorem validateInstallationProfile_settled {order : Members → Members}
    (rearranges : ∀ members, (order members).Perm members) {profile : InstallationProfile}
    (settled : SettledInstallationProfile platform profile) :
    validateInstallationProfile platform (readBack order profile.toValue) = .ok profile := by
  obtain ⟨input, inputRead, inputMember⟩ := strictObject_stored rearranges
    profile.members (js "installation profile")
    [js "adapters", js "deployment", js "product", js "provisioning",
      js "schema"]
    (show ([js "adapters", js "deployment", js "product", js "provisioning", js "schema"] :
      List JsString).Nodup by decide) (fun key member => member)
  obtain ⟨deployment, deploymentRead, deploymentMember⟩ := strictObject_stored rearranges
    profile.deployment (js "installation deployment")
    [js "engineDatabaseBoundary", js "mode", js "publicIngress"]
    (show ([js "engineDatabaseBoundary", js "mode", js "publicIngress"] : List JsString).Nodup
      by decide) (fun key member => member)
  obtain ⟨product, productRead, productMember⟩ := strictObject_stored rearranges
    profile.product (js "installation product")
    [js "organizationName", js "productName", js "supportEmail"]
    (show ([js "organizationName", js "productName", js "supportEmail"] : List JsString).Nodup
      by decide) (fun key member => member)
  obtain ⟨provisioning, provisioningRead, provisioningMember⟩ := strictObject_stored rearranges
    profile.provisioning (js "installation provisioning")
    [js "maxTenants", js "mode"]
    (show ([js "maxTenants", js "mode"] : List JsString).Nodup by decide)
    (fun key member => member)
  obtain ⟨adapters, adaptersRead, adaptersMember⟩ := strictObject_stored rearranges
    profile.adapters (js "installation adapters")
    [js "allow", js "microsoftGraphAllowedClientIds",
      js "microsoftGraphAllowedSenders", js "microsoftGraphAllowedTenantIds",
      js "malwareScannerAllowedHosts", js "smtpAllowedHosts", js "webhookAllowedHosts"]
    (show ([js "allow", js "microsoftGraphAllowedClientIds", js "microsoftGraphAllowedSenders",
      js "microsoftGraphAllowedTenantIds", js "malwareScannerAllowedHosts",
      js "smtpAllowedHosts", js "webhookAllowedHosts"] : List JsString).Nodup by decide)
    (fun key member => member)
  have schema : isText (Value.member input (js "schema")) INSTALLATION_PROFILE_SCHEMA = true := by
    rw [inputMember]
    exact isText_string INSTALLATION_PROFILE_SCHEMA order
  have deploymentAt : strictObject (Value.member input (js "deployment"))
      (js "installation deployment")
      [js "engineDatabaseBoundary", js "mode", js "publicIngress"] = .ok deployment := by
    rw [inputMember]
    exact deploymentRead
  have productAt : strictObject (Value.member input (js "product")) (js "installation product")
      [js "organizationName", js "productName", js "supportEmail"] = .ok product := by
    rw [inputMember]
    exact productRead
  have provisioningAt : strictObject (Value.member input (js "provisioning"))
      (js "installation provisioning") [js "maxTenants", js "mode"] = .ok provisioning := by
    rw [inputMember]
    exact provisioningRead
  have adaptersAt : strictObject (Value.member input (js "adapters"))
      (js "installation adapters") [js "allow", js "microsoftGraphAllowedClientIds",
        js "microsoftGraphAllowedSenders", js "microsoftGraphAllowedTenantIds",
        js "malwareScannerAllowedHosts", js "smtpAllowedHosts", js "webhookAllowedHosts"] =
        .ok adapters := by
    rw [inputMember]
    exact adaptersRead
  have mode : Value.member deployment (js "mode") = .string (deploymentMode profile.saas) := by
    rw [deploymentMember]
    rfl
  have selfHosted : isText (.string (deploymentMode profile.saas)) (js "self_hosted") =
      !profile.saas := by
    cases profile.saas <;> decide
  have saas : isText (.string (deploymentMode profile.saas)) (js "saas") = profile.saas := by
    cases profile.saas <;> decide
  have boundary : isText (Value.member deployment (js "engineDatabaseBoundary"))
      (js "dedicated") = true := by
    rw [deploymentMember]
    exact isText_string (js "dedicated") order
  have ingress : isText (Value.member deployment (js "publicIngress"))
      (js "gateway_only") = true := by
    rw [deploymentMember]
    exact isText_string (js "gateway_only") order
  have administrators : isText (Value.member provisioning (js "mode"))
      (js "administrators_only") = true := by
    rw [provisioningMember]
    exact isText_string (js "administrators_only") order
  have allow : adapterAllowlist platform (Value.member adapters (js "allow")) =
      .ok profile.allow := by
    rw [adaptersMember]
    refine Eq.trans ?_ (adapterAllowlist_settled settled.allow)
    exact congrArg _ (readBack_textList order profile.allow)
  have clientIds : optionalList (allowedUUIDs platform)
      (Value.member adapters (js "microsoftGraphAllowedClientIds"))
      (js "microsoftGraphAllowedClientIds") = .ok profile.microsoftGraphAllowedClientIds := by
    rw [adaptersMember]
    exact optionalList_settled settled.clientIds order _
  have senders : optionalList (allowedEmails platform)
      (Value.member adapters (js "microsoftGraphAllowedSenders"))
      (js "microsoftGraphAllowedSenders") = .ok profile.microsoftGraphAllowedSenders := by
    rw [adaptersMember]
    exact optionalList_settled settled.senders order _
  have tenantIds : optionalList (allowedUUIDs platform)
      (Value.member adapters (js "microsoftGraphAllowedTenantIds"))
      (js "microsoftGraphAllowedTenantIds") = .ok profile.microsoftGraphAllowedTenantIds := by
    rw [adaptersMember]
    exact optionalList_settled settled.tenantIds order _
  have scanners : optionalList (allowedHosts platform)
      (Value.member adapters (js "malwareScannerAllowedHosts"))
      (js "malwareScannerAllowedHosts") = .ok profile.malwareScannerAllowedHosts := by
    rw [adaptersMember]
    exact optionalList_settled settled.scanners order _
  have smtp : allowedHosts platform (Value.member adapters (js "smtpAllowedHosts"))
      (js "smtpAllowedHosts") = .ok profile.smtpAllowedHosts := by
    rw [adaptersMember]
    refine Eq.trans ?_ (allowedList_settled settled.smtp (js "smtpAllowedHosts"))
    exact congrArg (fun value => allowedHosts platform value (js "smtpAllowedHosts"))
      (readBack_textList order profile.smtpAllowedHosts)
  have webhook : allowedHosts platform (Value.member adapters (js "webhookAllowedHosts"))
      (js "webhookAllowedHosts") = .ok profile.webhookAllowedHosts := by
    rw [adaptersMember]
    refine Eq.trans ?_ (allowedList_settled settled.webhook (js "webhookAllowedHosts"))
    exact congrArg (fun value => allowedHosts platform value (js "webhookAllowedHosts"))
      (readBack_textList order profile.webhookAllowedHosts)
  have organization : boundedString platform (Value.member product (js "organizationName"))
      (js "organizationName") 2 120 = .ok profile.organizationName := by
    rw [productMember]
    exact boundedString_settled settled.organizationName _
  have productName : boundedString platform (Value.member product (js "productName"))
      (js "productName") 2 80 = .ok profile.productName := by
    rw [productMember]
    exact boundedString_settled settled.productName _
  have support : email platform (Value.member product (js "supportEmail")) (js "supportEmail") =
      .ok profile.supportEmail := by
    rw [productMember]
    exact email_settled settled.supportEmail _
  have tenants : safeInteger (Value.member provisioning (js "maxTenants")) (js "maxTenants")
      1 1000000 = .ok profile.maxTenants := by
    rw [provisioningMember]
    exact safeInteger_stored order _ settled.maxTenants (by norm_num)
  rw [validateInstallationProfile, InstallationProfile.toValue, inputRead]
  simp only [bind, Except.bind, schema, deploymentAt, mode, selfHosted, saas, boundary, ingress,
    productAt, provisioningAt, administrators, adaptersAt, allow, clientIds, senders, tenantIds,
    scanners, smtp, webhook, organization, productName, support, tenants, not_true_eq_false,
    if_false, pure, Except.pure]
  rw [if_neg]
  cases profile.saas <;> simp

/-- What acceptance says of an installation profile: everything but its
addresses is settled, and those were accepted from the value. -/
structure AcceptedInstallationProfile (platform : TextPlatform) (value : Value)
    (profile : InstallationProfile) : Prop where
  allow : SettledAdapters platform profile.allow
  clientIds : ∀ texts ∈ profile.microsoftGraphAllowedClientIds, SettledList (uuid platform) texts
  senders : ∀ texts ∈ profile.microsoftGraphAllowedSenders,
    allowedEmails platform ((value.get (js "adapters")).get (js "microsoftGraphAllowedSenders"))
      (js "microsoftGraphAllowedSenders") = .ok texts
  tenantIds : ∀ texts ∈ profile.microsoftGraphAllowedTenantIds, SettledList (uuid platform) texts
  scanners : ∀ texts ∈ profile.malwareScannerAllowedHosts,
    SettledList (hostEntry platform) texts
  smtp : SettledList (hostEntry platform) profile.smtpAllowedHosts
  webhook : SettledList (hostEntry platform) profile.webhookAllowedHosts
  organizationName : Settled platform 2 120 profile.organizationName
  productName : Settled platform 2 80 profile.productName
  supportEmail : email platform ((value.get (js "product")).get (js "supportEmail"))
    (js "supportEmail") = .ok profile.supportEmail
  maxTenants : 1 ≤ profile.maxTenants ∧ profile.maxTenants ≤ 1000000

theorem allowedUUIDs_ok {value : Value} {field : JsString} {texts : List JsString}
    (accepted : allowedUUIDs platform value field = .ok texts) :
    SettledList (uuid platform) texts := by
  obtain ⟨sorted, few, items, _, origin⟩ := allowedList_ok accepted
  refine ⟨sorted, few, fun text member otherField => ?_⟩
  obtain ⟨item, _, accepted⟩ := origin text member
  exact uuid_settled accepted otherField

theorem allowedHosts_ok {value : Value} {field : JsString} {texts : List JsString}
    (accepted : allowedHosts platform value field = .ok texts) :
    SettledList (hostEntry platform) texts := by
  obtain ⟨sorted, few, items, _, origin⟩ := allowedList_ok accepted
  refine ⟨sorted, few, fun text member otherField => ?_⟩
  obtain ⟨item, _, accepted⟩ := origin text member
  exact hostEntry_settled accepted otherField

theorem validateInstallationProfile_ok {value : Value} {profile : InstallationProfile}
    (accepted : validateInstallationProfile platform value = .ok profile) :
    AcceptedInstallationProfile platform value profile := by
  unfold validateInstallationProfile at accepted
  obtain ⟨input, read, accepted⟩ := bind_ok accepted
  split at accepted
  · cases accepted
  obtain ⟨deployment, -, accepted⟩ := bind_ok accepted
  dsimp only at accepted
  split at accepted
  · cases accepted
  split at accepted
  · cases accepted
  split at accepted
  · cases accepted
  obtain ⟨product, productRead, accepted⟩ := bind_ok accepted
  obtain ⟨provisioning, -, accepted⟩ := bind_ok accepted
  split at accepted
  · cases accepted
  obtain ⟨adapters, adaptersRead, accepted⟩ := bind_ok accepted
  obtain ⟨allow, allowed, accepted⟩ := bind_ok accepted
  obtain ⟨clientIds, clients, accepted⟩ := bind_ok accepted
  obtain ⟨senders, sent, accepted⟩ := bind_ok accepted
  obtain ⟨tenantIds, tenants, accepted⟩ := bind_ok accepted
  obtain ⟨scanners, scanned, accepted⟩ := bind_ok accepted
  obtain ⟨smtp, mailed, accepted⟩ := bind_ok accepted
  obtain ⟨webhook, posted, accepted⟩ := bind_ok accepted
  obtain ⟨organizationName, organization, accepted⟩ := bind_ok accepted
  obtain ⟨productName, named, accepted⟩ := bind_ok accepted
  obtain ⟨supportEmail, support, accepted⟩ := bind_ok accepted
  obtain ⟨maxTenants, limit, accepted⟩ := bind_ok accepted
  cases accepted
  have adaptersAt : value.get (js "adapters") = .object adapters := by
    rw [strictObject_object read, ← strictObject_object adaptersRead]
    rfl
  have productAt : value.get (js "product") = .object product := by
    rw [strictObject_object read, ← strictObject_object productRead]
    rfl
  exact {
    allow := adapterAllowlist_ok allowed
    clientIds := fun texts member => allowedUUIDs_ok (optionalList_ok clients texts member)
    senders := fun texts member => by
      rw [adaptersAt]
      exact optionalList_ok sent texts member
    tenantIds := fun texts member => allowedUUIDs_ok (optionalList_ok tenants texts member)
    scanners := fun texts member => allowedHosts_ok (optionalList_ok scanned texts member)
    smtp := allowedHosts_ok mailed
    webhook := allowedHosts_ok posted
    organizationName := (boundedString_ok organization).1
    productName := (boundedString_ok named).1
    supportEmail := by
      rw [productAt]
      exact support
    maxTenants := safeIntegerWith_range limit }

/-- A profile that was accepted with stable addresses is settled. -/
theorem validateInstallationProfile_stable {value : Value} {profile : InstallationProfile}
    (accepted : validateInstallationProfile platform value = .ok profile)
    (support : AddressStable platform ((value.get (js "product")).get (js "supportEmail")))
    (listed : ∀ items,
      (value.get (js "adapters")).get (js "microsoftGraphAllowedSenders") = .array items →
        ∀ item ∈ items, AddressStable platform item) :
    SettledInstallationProfile platform profile := by
  have parts := validateInstallationProfile_ok accepted
  refine {
    allow := parts.allow, clientIds := parts.clientIds, tenantIds := parts.tenantIds
    scanners := parts.scanners, smtp := parts.smtp, webhook := parts.webhook
    organizationName := parts.organizationName, productName := parts.productName
    maxTenants := parts.maxTenants
    supportEmail := email_stable parts.supportEmail support
    senders := fun texts member => ?_ }
  obtain ⟨sorted, few, items, same, origin⟩ := allowedList_ok (parts.senders texts member)
  refine ⟨sorted, few, fun text inside field => ?_⟩
  obtain ⟨item, isItem, checked⟩ := origin text inside
  exact email_settled (email_stable checked (listed items same item isItem)) field

/-- A profile that was validated twice is settled. -/
theorem validateInstallationProfile_twice {value : Value} {first second : InstallationProfile}
    (once : validateInstallationProfile platform value = .ok first)
    (again : validateInstallationProfile platform first.toValue = .ok second) :
    SettledInstallationProfile platform second := by
  have before := validateInstallationProfile_ok once
  have after := validateInstallationProfile_ok again
  refine {
    allow := after.allow, clientIds := after.clientIds, tenantIds := after.tenantIds
    scanners := after.scanners, smtp := after.smtp, webhook := after.webhook
    organizationName := after.organizationName, productName := after.productName
    maxTenants := after.maxTenants
    supportEmail := email_twice before.supportEmail after.supportEmail
    senders := fun texts member => ?_ }
  obtain ⟨sorted, few, items, same, origin⟩ := allowedList_ok (after.senders texts member)
  refine ⟨sorted, few, fun text inside field => ?_⟩
  obtain ⟨item, listed, accepted⟩ := origin text inside
  have stored : optionalTextList first.microsoftGraphAllowedSenders = .array items := same
  cases earlier : first.microsoftGraphAllowedSenders with
  | none => simp [earlier, optionalTextList] at stored
  | some list =>
      rw [earlier, optionalTextList, textList, Value.array.injEq] at stored
      rw [← stored, List.mem_map] at listed
      obtain ⟨source, sourceListed, rfl⟩ := listed
      obtain ⟨_, _, _, _, sourceOrigin⟩ := allowedList_ok (before.senders list earlier)
      obtain ⟨_, _, sourceAccepted⟩ := sourceOrigin source sourceListed
      exact email_settled (email_twice sourceAccepted accepted) field

/-! ## Admission documents -/

/-- What an approval has to record. -/
structure SettledApproval (platform : TextPlatform) (approval : Approval) : Prop where
  evidenceDigest : isDigest approval.evidenceDigest = true
  evidenceReference : Settled platform 1 160 approval.evidenceReference ∧
    isToken approval.evidenceReference = true
  reviewerReference : Settled platform 1 160 approval.reviewerReference ∧
    isToken approval.reviewerReference = true

/-- An admission document that its validator returns unchanged. -/
def SettledAdmission (platform : TextPlatform) (admission : TenantAdmission) : Prop :=
  ∀ gate approval, admission.state gate = .approved approval → SettledApproval platform approval

theorem gate?_gateName (gate : Gate) : gate? (gateName gate) = some gate := by
  cases gate <;> decide

/-- The name of a gate and the two states are tokens. -/
theorem gateName_token (gate : Gate) (field : JsString) :
    token platform (.string (gateName gate)) field = .ok (gateName gate) := by
  refine patternString_settled ⟨graphic_settled ?_ ?_, ?_⟩ _ _
  · exact List.all_eq_true.mp (by cases gate <;> decide)
  · cases gate <;> decide
  · cases gate <;> decide

theorem state_token (field : JsString) :
    token platform (.string (js "pending")) field = .ok (js "pending") ∧
      token platform (.string (js "approved")) field = .ok (js "approved") :=
  ⟨patternString_settled
      ⟨graphic_settled (List.all_eq_true.mp (by decide)) (by decide), by decide⟩ _ _,
    patternString_settled
      ⟨graphic_settled (List.all_eq_true.mp (by decide)) (by decide), by decide⟩ _ _⟩

/-- A stored gate reads back as it was written. -/
theorem validateAdmissionGate_settled {order : Members → Members}
    (rearranges : ∀ members, (order members).Perm members) (gate : Gate) {state : GateState}
    (settled : ∀ approval, state = .approved approval → SettledApproval platform approval) :
    validateAdmissionGate platform (readBack order (gateValue gate state)) = .ok (gate, state) := by
  cases state with
  | pending =>
      obtain ⟨input, read, member⟩ := strictObject_stored rearranges
        [(js "id", .string (gateName gate)), (js "state", .string (js "pending"))]
        (js "tenant admission gate")
        [js "decidedAt", js "evidenceDigest", js "evidenceReference", js "id",
          js "reviewerReference", js "state"]
        (show ([js "id", js "state"] : List JsString).Nodup by decide)
        (by
          intro key inside
          simp only [List.map_cons, List.map_nil, List.mem_cons, List.not_mem_nil,
            or_false] at inside
          rcases inside with rfl | rfl <;> decide)
      have id : Value.member input (js "id") = .string (gateName gate) := by
        rw [member]
        rfl
      have state : Value.member input (js "state") = .string (js "pending") := by
        rw [member]
        rfl
      have missing : [js "decidedAt", js "evidenceDigest", js "evidenceReference",
          js "reviewerReference"].any
            (fun key => !(Value.member input key).isUndefined) = false := by
        simp only [member]
        rfl
      rw [validateAdmissionGate, gateValue, read]
      simp only [bind, Except.bind, id, gateName_token, gate?_gateName, state,
        (state_token _).1, missing, if_true, Bool.false_eq_true, if_false, pure, Except.pure]
  | approved approval =>
      obtain ⟨digest, evidence, reviewer⟩ := settled approval rfl
      obtain ⟨input, read, member⟩ := strictObject_stored rearranges
        [(js "decidedAt", .string (isoText approval.decidedAt)),
          (js "evidenceDigest", .string approval.evidenceDigest),
          (js "evidenceReference", .string approval.evidenceReference),
          (js "id", .string (gateName gate)),
          (js "reviewerReference", .string approval.reviewerReference),
          (js "state", .string (js "approved"))]
        (js "tenant admission gate")
        [js "decidedAt", js "evidenceDigest", js "evidenceReference", js "id",
          js "reviewerReference", js "state"]
        (show ([js "decidedAt", js "evidenceDigest", js "evidenceReference", js "id",
          js "reviewerReference", js "state"] : List JsString).Nodup by decide)
        (fun key inside => inside)
      have id : Value.member input (js "id") = .string (gateName gate) := by
        rw [member]
        rfl
      have state : Value.member input (js "state") = .string (js "approved") := by
        rw [member]
        rfl
      have decidedAt : canonicalTimestamp (Value.member input (js "decidedAt"))
          (js "decidedAt") = .ok approval.decidedAt := by
        rw [member]
        change canonicalTimestamp (.string (isoText approval.decidedAt)) _ = _
        simp only [canonicalTimestamp, isCanonicalTimestamp_isoText, if_true, readTime_isoText]
      have evidenceDigest : sha256 (Value.member input (js "evidenceDigest"))
          (js "evidenceDigest") = .ok approval.evidenceDigest := by
        rw [member]
        change sha256 (.string approval.evidenceDigest) _ = _
        simp only [sha256, digest, if_true]
      have evidenceReference : admissionReference platform
          (Value.member input (js "evidenceReference")) (js "evidenceReference") =
            .ok approval.evidenceReference := by
        rw [member]
        exact patternString_settled evidence _ _
      have reviewerReference : admissionReference platform
          (Value.member input (js "reviewerReference")) (js "reviewerReference") =
            .ok approval.reviewerReference := by
        rw [member]
        exact patternString_settled reviewer _ _
      have apart : js "approved" ≠ js "pending" := by decide
      rw [validateAdmissionGate, gateValue, read]
      simp only [bind, Except.bind, id, gateName_token, gate?_gateName, state,
        (state_token _).2, apart, decidedAt, evidenceDigest, evidenceReference,
        reviewerReference, ne_eq, not_true_eq_false, if_false, pure, Except.pure]

/-- What the gate check accepts as approved has settled evidence. -/
theorem validateAdmissionGate_ok {value : Value} {gate : Gate} {approval : Approval}
    (accepted : validateAdmissionGate platform value = .ok (gate, .approved approval)) :
    SettledApproval platform approval := by
  obtain ⟨input, -, accepted⟩ := bind_ok accepted
  obtain ⟨id, -, accepted⟩ := bind_ok accepted
  split at accepted
  · cases accepted
  obtain ⟨state, -, accepted⟩ := bind_ok accepted
  split at accepted
  · split at accepted
    · cases accepted
    · cases accepted
  split at accepted
  · cases accepted
  obtain ⟨decidedAt, -, accepted⟩ := bind_ok accepted
  obtain ⟨evidenceDigest, digested, accepted⟩ := bind_ok accepted
  obtain ⟨evidenceReference, evidence, accepted⟩ := bind_ok accepted
  obtain ⟨reviewerReference, reviewer, accepted⟩ := bind_ok accepted
  cases accepted
  refine ⟨?_, patternString_ok evidence, patternString_ok reviewer⟩
  cases digest : Value.member input (js "evidenceDigest") with
  | string text =>
      simp only [digest, sha256] at digested
      split at digested
      case isTrue fits =>
        cases digested
        exact fits
      case isFalse => cases digested
  | _ =>
      rw [digest] at digested
      cases digested

theorem gatesById_ok {gates : List (Gate × GateState)} {gate : Gate} {state : GateState}
    (found : gatesById gates gate = some state) : (gate, state) ∈ gates := by
  rw [gatesById, List.lookup_eq_some_iff] at found
  obtain ⟨before, after, whole, -⟩ := found
  rw [← List.mem_reverse, whole]
  simp

/-- What the admission check accepts is settled. -/
theorem validateTenantAdmission_ok {value : Value} {admission : TenantAdmission}
    (accepted : validateTenantAdmission platform value = .ok admission) :
    SettledAdmission platform admission := by
  obtain ⟨input, -, accepted⟩ := bind_ok accepted
  split at accepted
  · cases accepted
  split at accepted
  case h_2 => cases accepted
  case h_1 items listed =>
    split at accepted
    · cases accepted
    obtain ⟨gates, visited, accepted⟩ := bind_ok accepted
    split at accepted
    · cases accepted
    dsimp only at accepted
    split at accepted
    · cases accepted
    cases accepted
    intro gate approval state
    cases found : gatesById gates gate with
    | none => simp [found] at state
    | some other =>
        simp only [found, Option.getD_some] at state
        subst state
        obtain ⟨item, -, checked⟩ := (mapM_ok visited).2 _ (gatesById_ok found)
        exact validateAdmissionGate_ok checked

theorem readBackItems_map {α : Type} (order : Members → Members) (items : List α)
    (toValue : α → Value) (stored : ∀ item, (toValue item).isUndefined = false) :
    readBackItems order (items.map toValue) =
      items.map fun item => readBack order (toValue item) := by
  induction items with
  | nil => rfl
  | cons item rest inductionHypothesis =>
      simp [readBackItems, stored item, inductionHypothesis]

/-- A settled admission document reads back as it was written. -/
theorem validateTenantAdmission_settled {order : Members → Members}
    (rearranges : ∀ members, (order members).Perm members) {admission : TenantAdmission}
    (settled : SettledAdmission platform admission) :
    validateTenantAdmission platform (readBack order (admissionValue admission)) =
      .ok admission := by
  let gates := Gate.all.map fun gate => gateValue gate (admission.state gate)
  obtain ⟨input, read, member⟩ := strictObject_stored rearranges
    [(js "gates", .array gates), (js "schema", .string TENANT_ADMISSION_SCHEMA),
      (js "status", .string (admissionStatus admission))]
    (js "tenant admission") [js "gates", js "schema", js "status"]
    (show ([js "gates", js "schema", js "status"] : List JsString).Nodup by decide)
    (fun key inside => inside)
  have schema : isText (Value.member input (js "schema")) TENANT_ADMISSION_SCHEMA = true := by
    rw [member]
    exact isText_string TENANT_ADMISSION_SCHEMA order
  have defined (gate : Gate) : (gateValue gate (admission.state gate)).isUndefined = false := by
    cases admission.state gate <;> rfl
  have listed : Value.member input (js "gates") = .array (Gate.all.map fun gate =>
      readBack order (gateValue gate (admission.state gate))) := by
    rw [member, ← readBackItems_map order Gate.all _ defined]
    rfl
  have status : isText (Value.member input (js "status")) (admissionStatus admission) = true := by
    rw [member]
    exact isText_string (admissionStatus admission) order
  have visited : (Gate.all.map fun gate =>
      readBack order (gateValue gate (admission.state gate))).mapM
        (validateAdmissionGate platform) =
        .ok (Gate.all.map fun gate => (gate, admission.state gate)) := by
    have each (gate : Gate) := validateAdmissionGate_settled rearranges gate (settled gate)
    induction Gate.all with
    | nil => rfl
    | cons gate rest inductionHypothesis =>
        rw [List.map_cons, List.mapM_cons, each gate, inductionHypothesis]
        rfl
  have byId (gate : Gate) :
      gatesById (Gate.all.map fun gate => (gate, admission.state gate)) gate =
        some (admission.state gate) := by
    cases gate <;> rfl
  rw [validateTenantAdmission, admissionValue, read]
  simp only [bind, Except.bind, schema, listed, List.length_map, visited, byId,
    Option.getD_some, status, ne_eq, not_true_eq_false, if_false, pure, Except.pure]
  rw [if_neg (by simp)]

end Fields

end Vasi.StoredConfiguration
