import Vasi.ClientAttribution

/-!
# Trusted networks as they are written

The texts that a trusted network is read from. An address is read from the texts of the
two families and from no other. What stands after the slash is converted like any text to a
number: an empty text is read as zero and other spellings of a number are taken too, while
decimal digits are read as they are written. A network that has been read contains the
addresses that share its first bits.
-/
namespace Vasi.ClientAddress

open JsValue Validation Utf8

/-! ## The characters of an address -/

/-- The characters that an address is written with. -/
def AddressUnit (unit : CodeUnit) : Prop :=
  isHexDigit unit = true ∨ unit = dot ∨ unit = colon

theorem hexDigit_of_digit {unit : CodeUnit} (digit : isDigit unit = true) :
    isHexDigit unit = true := by
  rw [isHexDigit, digit]
  rfl

theorem joined_splitOn (separator : CodeUnit) (text : JsString) :
    [separator].intercalate (text.splitOn separator) = text := List.intercalate_splitOn separator

theorem mem_splitOn (separator : CodeUnit) {unit : CodeUnit} {text : JsString}
    (inside : unit ∈ text) : unit = separator ∨ ∃ part ∈ text.splitOn separator, unit ∈ part := by
  rw [← joined_splitOn separator text] at inside
  exact mem_join inside

theorem isIPv4_units {text : JsString} (version : isIPv4 text = true) :
    ∀ unit ∈ text, isDigit unit = true ∨ unit = dot := by
  intro unit inside
  rw [isIPv4, Bool.and_eq_true, List.all_eq_true] at version
  rcases mem_splitOn dot inside with same | ⟨part, listed, own⟩
  · exact .inr same
  · have octet := version.2 part listed
    simp only [isOctet, Bool.and_eq_true, List.all_eq_true] at octet
    exact .inl (octet.1.1.2 unit own)

theorem isIPv4_of_isIP {text : JsString} (version : isIP text = 4) : isIPv4 text = true := by
  by_contra other
  rw [isIP, if_neg other] at version
  split at version <;> cases version

theorem parseParts_units {parts : List JsString} {words : List ℕ}
    (read : parseParts parts = some words) :
    ∀ part ∈ parts, ∀ unit ∈ part, AddressUnit unit := by
  induction parts generalizing words with
  | nil => exact nofun
  | cons part rest inductionHypothesis =>
      rw [parseParts] at read
      split at read
      · split at read
        · cases read
        · rename_i last
          push Not at last
          rw [last.1, List.forall_mem_singleton]
          intro unit inside
          rcases isIPv4_units (isIPv4_of_isIP last.2) unit inside with digit | same
          · exact .inl (hexDigit_of_digit digit)
          · exact .inr (.inl same)
      · split at read
        · rename_i group
          obtain ⟨others, later, -⟩ := Option.map_eq_some_iff.mp read
          rw [List.forall_mem_cons]
          refine ⟨fun unit inside => .inl ?_, inductionHypothesis later⟩
          rw [isGroup, Bool.and_eq_true, List.all_eq_true] at group
          exact group.2 unit inside
        · cases read

theorem parseIPv6Side_units {side : JsString} {words : List ℕ}
    (read : parseIPv6Side side = some words) : ∀ unit ∈ side, AddressUnit unit := by
  intro unit inside
  unfold parseIPv6Side at read
  split at read
  · rename_i none
    rw [none] at inside
    cases inside
  · rcases mem_splitOn colon inside with same | ⟨part, listed, own⟩
    · exact .inr (.inr same)
    · exact parseParts_units read part listed unit own

theorem splitDoubleColon_ne_nil (text : JsString) : splitDoubleColon text ≠ [] := by
  induction text using splitDoubleColon.induct with
  | case1 => exact List.cons_ne_nil _ _
  | case2 unit => exact List.cons_ne_nil _ _
  | case3 unit next rest both _ =>
      rw [splitDoubleColon, if_pos both]
      exact List.cons_ne_nil _ _
  | case4 unit next rest apart inductionHypothesis =>
      rw [splitDoubleColon, if_neg apart]
      simpa using inductionHypothesis

theorem mem_splitDoubleColon {unit : CodeUnit} {text : JsString} (inside : unit ∈ text) :
    unit = colon ∨ ∃ piece ∈ splitDoubleColon text, unit ∈ piece := by
  induction text using splitDoubleColon.induct with
  | case1 => cases inside
  | case2 own => exact .inr ⟨[own], List.mem_singleton_self _, inside⟩
  | case3 own next rest both inductionHypothesis =>
      rw [splitDoubleColon, if_pos both]
      rw [both.1, both.2] at inside
      rcases List.mem_cons.mp inside with same | inside
      · exact .inl same
      · rcases List.mem_cons.mp inside with same | later
        · exact .inl same
        · rcases inductionHypothesis later with same | ⟨piece, listed, there⟩
          · exact .inl same
          · exact .inr ⟨piece, List.mem_cons_of_mem _ listed, there⟩
  | case4 own next rest apart inductionHypothesis =>
      rw [splitDoubleColon, if_neg apart]
      obtain ⟨first, others, pieces⟩ :=
        List.exists_cons_of_ne_nil (splitDoubleColon_ne_nil (next :: rest))
      rw [pieces, List.modifyHead_cons]
      rw [pieces] at inductionHypothesis
      rcases List.mem_cons.mp inside with rfl | later
      · exact .inr ⟨_, List.mem_cons_self, List.mem_cons_self⟩
      · rcases inductionHypothesis later with same | ⟨piece, listed, there⟩
        · exact .inl same
        · rcases List.mem_cons.mp listed with rfl | other
          · exact .inr ⟨_, List.mem_cons_self, List.mem_cons_of_mem _ there⟩
          · exact .inr ⟨piece, List.mem_cons_of_mem _ other, there⟩

/-- A text that has bytes is written with the characters of an address. -/
theorem parseIPv6Bytes_units {text : JsString} {bytes : List Byte}
    (read : parseIPv6Bytes text = some bytes) : ∀ unit ∈ text, AddressUnit unit := by
  unfold parseIPv6Bytes at read
  dsimp only at read
  split at read
  · cases read
  · rename_i few
    obtain ⟨left, leftRead, read⟩ := Option.bind_eq_some_iff.mp read
    obtain ⟨right, rightRead, -⟩ := Option.bind_eq_some_iff.mp read
    intro unit inside
    rcases mem_splitDoubleColon inside with same | ⟨piece, listed, own⟩
    · exact .inr (.inr same)
    · match pieces : splitDoubleColon text, listed with
      | [whole], listed =>
          rw [pieces] at leftRead
          rw [List.mem_singleton.mp listed] at own
          exact parseIPv6Side_units leftRead unit own
      | [before, after], listed =>
          rw [pieces] at leftRead rightRead
          rcases List.mem_cons.mp listed with rfl | later
          · exact parseIPv6Side_units leftRead unit own
          · rw [List.mem_singleton.mp later] at own
            exact parseIPv6Side_units rightRead unit own
      | first :: second :: third :: more, _ =>
          rw [pieces] at few
          simp at few

/-! ## What is an address -/

/-- The text of an address of one of the two families, whatever the case of its letters and
the white space around it. -/
def IsAddressText (text : JsString) : Prop :=
  isIPv4 (toLowerCase (trim text)) = true ∨ isIPv6Address (toLowerCase (trim text)) = true

theorem isGroup_units {part : JsString} (group : isGroup part = true) :
    ∀ unit ∈ part, isHexDigit unit = true := by
  rw [isGroup, Bool.and_eq_true, List.all_eq_true] at group
  exact group.2

theorem isGroup_undotted {part : JsString} (group : isGroup part = true) : dot ∉ part := by
  intro inside
  exact absurd (isGroup_units group dot inside) (by decide)

/-- Counted groups are read as so many words. -/
theorem parseParts_of_countGroups {dotted : Bool} {parts : List JsString} {count : ℕ}
    (counted : countGroups dotted parts = some count) :
    ∃ words, parseParts parts = some words ∧ words.length = count := by
  induction parts generalizing count with
  | nil =>
      obtain rfl := Option.some.inj counted
      exact ⟨[], rfl, rfl⟩
  | cons part rest inductionHypothesis =>
      rw [countGroups] at counted
      split at counted
      · rename_i group
        obtain ⟨others, later, rfl⟩ := Option.map_eq_some_iff.mp counted
        obtain ⟨words, read, length⟩ := inductionHypothesis later
        refine ⟨parseHex part :: words, ?_, by rw [List.length_cons, length]⟩
        rw [parseParts, if_neg (isGroup_undotted group), if_pos group, read]
        rfl
      · split at counted
        · rename_i last
          obtain rfl := Option.some.inj counted
          obtain ⟨-, rfl, version⟩ := last
          have isVersion : isIP part = 4 := by rw [isIP, if_pos version]
          have four : (part.splitOn dot).length = 4 := by
            rw [isIPv4, Bool.and_eq_true, decide_eq_true_eq] at version
            exact version.1
          have inside : dot ∈ part := by
            by_contra apart
            rw [List.splitOn_eq_singleton apart] at four
            cases four
          obtain ⟨first, second, third, fourth, four⟩ := List.length_eq_four.mp four
          rw [parseParts, if_pos inside, if_neg (by simp [isVersion]), four]
          exact ⟨_, rfl, rfl⟩
        · cases counted

theorem parseIPv6Side_of_sideGroups {dotted : Bool} {side : JsString} {count : ℕ}
    (counted : sideGroups dotted side = some count) :
    ∃ words, parseIPv6Side side = some words ∧ words.length = count := by
  unfold sideGroups at counted
  unfold parseIPv6Side
  split at counted
  · rename_i none
    rw [if_pos none]
    exact ⟨[], rfl, Option.some.inj counted⟩
  · rename_i some
    rw [if_neg some]
    exact parseParts_of_countGroups counted

/-- An address of version six has bytes. -/
theorem parseIPv6Bytes_of_isIPv6Address {text : JsString} (version : isIPv6Address text = true) :
    ∃ bytes, parseIPv6Bytes text = some bytes := by
  unfold isIPv6Address at version
  unfold parseIPv6Bytes
  split at version
  · rename_i whole pieces
    obtain ⟨words, read, eight⟩ := parseParts_of_countGroups (of_decide_eq_true version)
    have side : parseIPv6Side whole = some words := by
      unfold parseIPv6Side
      split
      · rename_i none
        rw [none] at read
        cases read
      · exact read
    have nothing : parseIPv6Side [] = some [] := rfl
    rw [pieces]
    simp only [List.length_cons, List.length_nil, List.headD_cons, List.getElem?_cons_succ,
      List.getElem?_nil, Option.getD_none, side, nothing, Option.bind_eq_bind, Option.bind_some]
    rw [if_neg (by omega), if_neg (by omega), if_neg (by
      simp only [List.length_append, List.length_replicate, List.length_nil]
      omega)]
    exact ⟨_, rfl⟩
  · rename_i left right pieces
    split at version
    · rename_i before after countedLeft countedRight
      rw [decide_eq_true_eq] at version
      obtain ⟨first, readLeft, rfl⟩ := parseIPv6Side_of_sideGroups countedLeft
      obtain ⟨second, readRight, rfl⟩ := parseIPv6Side_of_sideGroups countedRight
      rw [pieces]
      simp only [List.length_cons, List.length_nil, List.headD_cons, List.getElem?_cons_succ,
        List.getElem?_cons_zero, Option.getD_some, readLeft, readRight, Option.bind_eq_bind,
        Option.bind_some]
      rw [if_neg (by omega), if_neg (by omega), if_neg (by
        simp only [List.length_append, List.length_replicate]
        omega)]
      exact ⟨_, rfl⟩
    · cases version
  · cases version

theorem AddressUnit.clear {unit : CodeUnit} (own : AddressUnit unit) :
    unit ≠ percent ∧ unit ≠ slash := by
  rcases own with hex | rfl | rfl
  · refine ⟨fun same => ?_, fun same => ?_⟩ <;>
    · rw [same] at hex
      exact absurd hex (by decide)
  · decide
  · decide

/-- An address is read exactly from the text of one. -/
theorem parseAddress_isSome_iff (text : JsString) :
    (parseAddress text).isSome = true ↔ IsAddressText text := by
  unfold parseAddress IsAddressText
  generalize toLowerCase (trim text) = candidate
  dsimp only
  by_cases four : isIPv4 candidate = true
  · have version : isIP candidate = 4 := by rw [isIP, if_pos four]
    rw [if_pos version]
    exact iff_of_true rfl (.inl four)
  · have other : isIP candidate ≠ 4 := fun version => four (isIPv4_of_isIP version)
    rw [if_neg other, or_iff_right four]
    constructor
    · intro read
      split at read
      · cases read
      · rename_i version
        obtain ⟨address, read⟩ := Option.isSome_iff_exists.mp read
        obtain ⟨bytes, given, -⟩ := Option.bind_eq_some_iff.mp read
        have six : isIPv6 candidate = true := by
          by_contra none
          rw [isIP, if_neg four, if_neg none] at version
          exact version (by decide)
        have units := parseIPv6Bytes_units given
        have whole : candidate.takeWhile (· ≠ percent) = candidate := by
          rw [List.takeWhile_eq_self_iff]
          intro unit inside
          exact decide_eq_true (units unit inside).clear.1
        rw [isIPv6, Bool.and_eq_true, whole] at six
        exact six.1
    · intro six
      obtain ⟨bytes, given⟩ := parseIPv6Bytes_of_isIPv6Address six
      have units := parseIPv6Bytes_units given
      have clear : ∀ unit ∈ candidate, decide (unit ≠ percent) = true := by
        intro unit inside
        exact decide_eq_true (units unit inside).clear.1
      have version : isIP candidate = 6 := by
        rw [isIP, if_neg four, if_pos]
        rw [isIPv6, List.takeWhile_eq_self_iff.mpr clear, six, List.dropWhile_eq_nil_iff.mpr clear]
        rfl
      rw [if_neg (not_not.mpr version), given]
      simp only [Option.bind_eq_bind, Option.bind_some]
      split <;> rfl

theorem mem_dropWhile {α : Type} {test : α → Bool} {item : α} {items : List α}
    (fails : test item = false) (inside : item ∈ items) : item ∈ items.dropWhile test := by
  induction items with
  | nil => cases inside
  | cons first rest inductionHypothesis =>
      rw [List.dropWhile_cons]
      split
      · rename_i passes
        rcases List.mem_cons.mp inside with rfl | later
        · rw [passes] at fails
          cases fails
        · exact inductionHypothesis later
      · exact inside

theorem mem_trim {unit : CodeUnit} {text : JsString} (visible : isWhiteSpace unit = false)
    (inside : unit ∈ text) : unit ∈ trim text := by
  unfold trim List.rdropWhile
  rw [List.mem_reverse]
  exact mem_dropWhile visible (List.mem_reverse.mpr (mem_dropWhile visible inside))

/-- No address is written with a slash. -/
theorem parseAddress_unslashed {text : JsString} {address : ParsedAddress}
    (read : parseAddress text = some address) : slash ∉ text := by
  intro inside
  have there : slash ∈ toLowerCase (trim text) :=
    List.mem_map.mpr ⟨slash, mem_trim (by decide) inside, by decide⟩
  have isText := (parseAddress_isSome_iff text).mp (Option.isSome_iff_exists.mpr ⟨_, read⟩)
  rcases isText with four | six
  · rcases isIPv4_units four slash there with digit | same
    · exact absurd digit (by decide)
    · exact absurd same (by decide)
  · obtain ⟨bytes, given⟩ := parseIPv6Bytes_of_isIPv6Address six
    exact (parseIPv6Bytes_units given slash there).clear.2 rfl

/-! ## The bits of the hosts -/

/-- Every bit of an address after the first ones is zero. -/
def HostBitsZero (bytes : List Byte) (count : ℕ) : Prop :=
  ∀ bit ∈ (bytes.flatMap byteBits).drop count, bit = false

/-- The host mask keeps the last bits of a byte. -/
theorem host_mask {byte : Byte} {count : ℕ} (few : count < 8) :
    byte.val &&& ((1 <<< (8 - count)) - 1) = 0 ↔
      ∀ bit ∈ (byteBits byte).drop count, bit = false := by
  rw [Nat.one_shiftLeft, Nat.and_two_pow_sub_one_eq_mod]
  have zero : byte.val % 2 ^ (8 - count) = 0 ↔
      ∀ place < 8 - count, byte.val.testBit place = false := by
    constructor
    · intro none place low
      have bit := Nat.testBit_mod_two_pow byte.val (8 - count) place
      rw [none, Nat.zero_testBit, decide_eq_true low, Bool.true_and] at bit
      exact bit.symm
    · intro each
      refine Nat.eq_of_testBit_eq fun place => ?_
      rw [Nat.testBit_mod_two_pow, Nat.zero_testBit]
      by_cases low : place < 8 - count
      · rw [each place low, Bool.and_false]
      · rw [decide_eq_false low, Bool.false_and]
  rw [zero]
  have places : (byteBits byte).drop count =
      ((List.range (8 - count)).reverse.map fun place => byte.val.testBit place) := by
    interval_cases count <;> rfl
  rw [places, List.forall_mem_map]
  simp only [List.mem_reverse, List.mem_range]

theorem byteBits_zero {byte : Byte} : (∀ bit ∈ byteBits byte, bit = false) ↔ byte = 0 := by
  constructor
  · intro each
    refine byteBits_injective ?_
    have zero : byteBits 0 = List.replicate 8 false := by decide
    rw [zero]
    exact List.eq_replicate_iff.mpr ⟨rfl, each⟩
  · rintro rfl
    decide

theorem flatMap_bits_zero {bytes : List Byte} :
    (∀ bit ∈ bytes.flatMap byteBits, bit = false) ↔ ∀ byte ∈ bytes, byte = 0 := by
  constructor
  · intro each byte inside
    exact byteBits_zero.mp fun bit own => each bit (List.mem_flatMap.mpr ⟨byte, inside, own⟩)
  · intro each bit inside
    obtain ⟨byte, listed, own⟩ := List.mem_flatMap.mp inside
    exact byteBits_zero.mpr (each byte listed) bit own

/-- The bits of the byte after the whole bytes, and those of the bytes after it. -/
theorem trailingBits_split (count : ℕ) {bytes : List Byte} (inside : count / 8 < bytes.length) :
    (bytes.flatMap byteBits).drop count = (byteBits (bytes.getD (count / 8) 0)).drop (count % 8) ++
      (bytes.drop (count / 8 + 1)).flatMap byteBits := by
  have whole := length_bits_before inside
  have short : count % 8 ≤ (byteBits (bytes.getD (count / 8) 0)).length :=
    Nat.le_of_lt (Nat.mod_lt count (by decide))
  have amount : count - 8 * (count / 8) = count % 8 := by omega
  rw [flatMap_bits_split inside, List.drop_append, whole, amount,
    List.drop_of_length_le (by rw [whole]; omega), List.nil_append,
    List.drop_append_of_le_length short]

/-- The check of the bytes finds the networks without host bits. -/
theorem networkBitsAreZero_iff {bytes : List Byte} {count : ℕ} (bound : count ≤ 8 * bytes.length) :
    networkBitsAreZero bytes count = true ↔ HostBitsZero bytes count := by
  unfold networkBitsAreZero HostBitsZero
  dsimp only
  by_cases all : count = 8 * bytes.length
  · have complete : count / 8 = bytes.length := by omega
    have none : count % 8 = 0 := by omega
    rw [none, complete, if_pos rfl, List.drop_of_length_le (by omega),
      List.drop_of_length_le (by rw [length_flatMap_bits]; omega)]
    simp
  · have inside : count / 8 < bytes.length := by omega
    rw [trailingBits_split count inside, List.forall_mem_append, flatMap_bits_zero,
      ← host_mask (Nat.mod_lt count (by decide))]
    by_cases none : count % 8 = 0
    · have first : bytes.drop (count / 8) =
          bytes.getD (count / 8) 0 :: bytes.drop (count / 8 + 1) := by
        rw [List.getD_eq_getElem _ _ inside, List.cons_getElem_drop_succ]
      have byte : (bytes.getD (count / 8) 0).val &&& ((1 <<< (8 - 0)) - 1) = 0 ↔
          bytes.getD (count / 8) 0 = 0 := by
        rw [host_mask (by decide), List.drop_zero, byteBits_zero]
      rw [none, if_pos rfl, Nat.add_zero, first]
      simp only [byte, decide_true, Bool.true_or, Bool.true_and, List.all_cons,
        Bool.and_eq_true, decide_eq_true_eq, List.all_eq_true]
    · rw [if_neg none]
      simp [none]

/-! ## Prefix lengths -/

/-- A text of decimal digits. -/
def Digits (text : JsString) : Prop := text ≠ [] ∧ ∀ unit ∈ text, isDigit unit = true

theorem trim_digits {text : JsString} (digits : Digits text) : trim text = text := by
  refine StoredConfiguration.trim_visible (List.any_eq_false.mpr fun unit inside => ?_)
  rw [(digit_plain (digits.2 unit inside)).2.2.2.1]
  exact Bool.false_ne_true

/-- A text of digits is converted as a decimal number. -/
theorem toNumber_digits {text : JsString} (digits : Digits text) :
    toNumber text = JsonText.decimal false text [] 0 := by
  have unsigned : unsignedNumber false text = JsonText.decimal false text [] 0 := by
    have finite : text ≠ js "Infinity" := by
      rintro rfl
      exact absurd (digits.2 73 (by decide)) (by decide)
    have taken : text.takeWhile isDigit = text := List.takeWhile_eq_self_iff.mpr digits.2
    have dropped : text.dropWhile isDigit = [] := List.dropWhile_eq_nil_iff.mpr digits.2
    unfold unsignedNumber
    rw [if_neg finite]
    dsimp only
    rw [taken, dropped]
    have none : numberExponent [] = some 0 := rfl
    simp [none, digits.1]
  have first : ∀ {unit rest}, text = unit :: rest → isDigit unit = true := by
    rintro unit rest rfl
    exact digits.2 unit List.mem_cons_self
  unfold toNumber
  rw [trim_digits digits]
  split
  · exact absurd rfl digits.1
  · exact absurd (first rfl) (by decide)
  · exact absurd (first rfl) (by decide)
  · rename_i letter rest
    have digit : isDigit letter = true := digits.2 letter (by simp)
    have value : 48 ≤ letter.val ∧ letter.val ≤ 57 := by simpa [isDigit] using digit
    rw [if_neg (by simp; omega), if_neg (by simp; omega), if_neg (by simp; omega)]
    exact unsigned
  · exact unsigned

/-- Up to the width of an address, the number that digits denote is the number read. -/
theorem toNumber_digits_iff {text : JsString} (digits : Digits text) {bits : ℕ}
    (small : bits ≤ 128) :
    (toNumber text).toRat? = some (bits : ℚ) ↔ JsonText.digitsValue text = bits := by
  have magnitude : (JsonText.digitsValue (text ++ []) : ℚ) *
      10 ^ ((0 : ℤ) - (([] : JsString).length : ℤ)) = JsonText.digitsValue text := by simp
  rw [toNumber_digits digits, JsonText.decimal]
  rw [if_neg Bool.false_ne_true, magnitude]
  generalize JsonText.digitsValue text = value
  by_cases exactly : value < 2 ^ 53
  · have same : Binary64.round (value : ℚ) = value := by
      have bound : |(value : ℤ)| < 2 ^ 53 := by
        rw [abs_of_nonneg (by positivity)]
        exact_mod_cast exactly
      exact_mod_cast Binary64.round_intCast (value : ℤ) bound
    have finite : ¬(2 : ℚ) ^ 1024 ≤ |(value : ℚ)| := by
      rw [abs_of_nonneg (by positivity), not_le]
      exact lt_of_lt_of_le (by exact_mod_cast exactly)
        (pow_le_pow_right₀ (by norm_num) (by norm_num))
    rw [same]
    by_cases zero : value = 0
    · rw [zero]
      simp only [Nat.cast_zero, if_true, Bool.false_eq_true, if_false, JsNumber.toRat?,
        Option.some.injEq]
      exact_mod_cast Iff.rfl
    · rw [if_neg (by exact_mod_cast zero), if_neg finite]
      simp only [JsNumber.toRat?, Option.some.injEq]
      exact_mod_cast Iff.rfl
  · have large := Binary64.round_large (not_lt.mp exactly)
    have other : value ≠ bits := by
      have power : (128 : ℕ) < 2 ^ 53 := by norm_num
      omega
    refine iff_of_false (fun read => ?_) other
    have nonzero : Binary64.round (value : ℚ) ≠ 0 := by
      have positive : (0 : ℚ) < 2 ^ 52 := by norm_num
      linarith
    rw [if_neg nonzero] at read
    split at read
    · cases read
    · have equal : Binary64.round (value : ℚ) = bits := Option.some.inj read
      have most : (bits : ℚ) ≤ 128 := by exact_mod_cast small
      linarith

/-! ## Networks -/

/-- A network is placed at the whole numbers within the width of the family that leave no
host bits. -/
theorem networkAt_iff {address : ParsedAddress} {size : JsNumber} {network : TrustedNetwork} :
    networkAt address size = some network ↔
      ∃ bits : ℕ, size.toRat? = some (bits : ℚ) ∧ bits ≤ address.family.bits ∧
        networkBitsAreZero address.bytes bits = true ∧
        network = ⟨address.bytes, address.family, bits⟩ := by
  unfold networkAt
  constructor
  · intro placed
    split at placed
    · rename_i integer
      obtain ⟨amount, whole, placed⟩ := Option.bind_eq_some_iff.mp placed
      split at placed
      · cases placed
      · rename_i range
        push Not at range
        split at placed
        · rename_i canonical
          obtain rfl := Option.some.inj placed
          have least : 0 ≤ amount.num := Rat.num_nonneg.mpr range.1
          have exact : ((amount.num.toNat : ℕ) : ℚ) = amount := by
            rw [← Int.cast_natCast, Int.toNat_of_nonneg least]
            simp only [JsNumber.isInteger, whole, beq_iff_eq] at integer
            exact Rat.coe_int_num_of_den_eq_one integer
          have bound : (amount.num.toNat : ℚ) ≤ address.family.bits := by
            rw [exact]
            exact range.2
          exact ⟨_, by rw [exact, whole], by exact_mod_cast bound, canonical, rfl⟩
        · cases placed
    · cases placed
  · rintro ⟨bits, whole, bound, canonical, rfl⟩
    have integer : size.isInteger = true := by
      simp only [JsNumber.isInteger, whole, beq_iff_eq, Rat.den_natCast]
    have range : ¬((bits : ℚ) < 0 ∨ (bits : ℚ) > address.family.bits) := by
      rw [not_or, not_lt, not_lt]
      exact ⟨Nat.cast_nonneg bits, by exact_mod_cast bound⟩
    have number : (bits : ℚ).num.toNat = bits := by simp
    rw [if_pos integer, whole]
    simp only [Option.bind_eq_bind, Option.bind_some]
    rw [if_neg range, number, if_pos canonical]
    rfl

/-- The network that a text stands for: an address, and after a slash the decimal digits of
the number of its first bits, which is the width of the family where no slash stands. No
bit after those is set. -/
def ReadsNetwork (value : JsString) (network : TrustedNetwork) : Prop :=
  ∃ text address, IsAddressText text ∧ parseAddress text = some address ∧
    network.bytes = address.bytes ∧ network.family = address.family ∧
    network.bits ≤ address.family.bits ∧ HostBitsZero address.bytes network.bits ∧
    (value = text ∧ network.bits = address.family.bits ∨
      ∃ digits, Digits digits ∧ value = text ++ slash :: digits ∧
        JsonText.digitsValue digits = network.bits)

/-- Reading and comparing are exact: the networks that are read are the ones that the text
stands for, and an address lies in one exactly if it shares its family and first bits. -/
def Exact (value : JsString) : Prop :=
  (∀ network, parseNetwork value = some network ↔ ReadsNetwork value network) ∧
    ∀ network text address, parseNetwork value = some network →
      parseAddress text = some address →
      (containsAddress network address = true ↔ Within network address)

/-- What is taken as a number of bits after the slash is written in decimal digits. -/
def PlainLength (value : JsString) : Prop :=
  ∀ text written address (bits : ℕ), value.splitOn slash = [text, written] →
    parseAddress text = some address → (toNumber written).toRat? = some (bits : ℚ) →
    bits ≤ address.family.bits → HostBitsZero address.bytes bits → Digits written

theorem digits_unslashed {text : JsString} (digits : Digits text) : slash ∉ text := by
  intro inside
  exact absurd (digits.2 slash inside) (by decide)

theorem Family.bits_width (family : Family) : family.bits = 8 * family.width := by
  cases family <;> rfl

/-- The host bits of an address that was read are checked as they are meant. -/
theorem hostBits_iff {text : JsString} {address : ParsedAddress}
    (read : parseAddress text = some address) {bits : ℕ} (bound : bits ≤ address.family.bits) :
    networkBitsAreZero address.bytes bits = true ↔ HostBitsZero address.bytes bits := by
  refine networkBitsAreZero_iff ?_
  rw [(parseAddress_normal read).width, ← Family.bits_width]
  exact bound

theorem isAddressText {text : JsString} {address : ParsedAddress}
    (read : parseAddress text = some address) : IsAddressText text :=
  (parseAddress_isSome_iff text).mp (Option.isSome_iff_exists.mpr ⟨_, read⟩)

/-- A network is read from an address alone or from an address and a number. -/
theorem parseNetwork_iff {value : JsString} {network : TrustedNetwork} :
    parseNetwork value = some network ↔
      (∃ address, parseAddress value = some address ∧
        networkAt address (.finite address.family.bits) = some network) ∨
      ∃ text written address, value.splitOn slash = [text, written] ∧
        parseAddress text = some address ∧
        networkAt address (toNumber written) = some network := by
  unfold parseNetwork
  dsimp only
  constructor
  · intro parsed
    split at parsed
    · cases parsed
    · rename_i few
      obtain ⟨address, read, placed⟩ := Option.bind_eq_some_iff.mp parsed
      match parts : value.splitOn slash, few with
      | [], _ => exact absurd parts (List.splitOn_ne_nil slash value)
      | [text], _ =>
          rw [parts] at read placed
          have same : value = text := by
            rw [← joined_splitOn slash value, parts]
            simp
          exact .inl ⟨address, by rw [same]; exact read, placed⟩
      | [text, written], _ =>
          rw [parts] at read placed
          exact .inr ⟨text, written, address, rfl, read, placed⟩
      | first :: second :: third :: more, few => simp at few
  · rintro (⟨address, read, placed⟩ | ⟨text, written, address, parts, read, placed⟩)
    · rw [List.splitOn_eq_singleton (parseAddress_unslashed read), if_neg (by simp)]
      exact Option.bind_eq_some_iff.mpr ⟨address, read, placed⟩
    · rw [parts, if_neg (by simp)]
      exact Option.bind_eq_some_iff.mpr ⟨address, read, placed⟩

/-- What a text stands for is read. -/
theorem parseNetwork_of_reads {value : JsString} {network : TrustedNetwork}
    (reads : ReadsNetwork value network) : parseNetwork value = some network := by
  obtain ⟨text, address, -, read, bytes, family, bound, zero, shape⟩ := reads
  have canonical := (hostBits_iff read bound).mpr zero
  have whole : network = ⟨address.bytes, address.family, network.bits⟩ := by
    rw [← bytes, ← family]
  rw [parseNetwork_iff]
  rcases shape with ⟨rfl, full⟩ | ⟨digits, plain, rfl, number⟩
  · refine .inl ⟨address, read, networkAt_iff.mpr ⟨network.bits, ?_, bound, canonical, whole⟩⟩
    rw [full, JsNumber.toRat?]
  · refine .inr ⟨text, digits, address, ?_, read,
      networkAt_iff.mpr ⟨network.bits, ?_, bound, canonical, whole⟩⟩
    · rw [List.splitOn_append_cons_self_of_not_mem (parseAddress_unslashed read),
        List.splitOn_eq_singleton (digits_unslashed plain)]
    · refine (toNumber_digits_iff plain (bound.trans ?_)).mpr number
      cases address.family <;> decide

/-- Where the number is written in digits, what is read is what the text stands for. -/
theorem reads_of_parseNetwork {value : JsString} (plain : PlainLength value)
    {network : TrustedNetwork} (parsed : parseNetwork value = some network) :
    ReadsNetwork value network := by
  rcases parseNetwork_iff.mp parsed with ⟨address, read, placed⟩ |
    ⟨text, written, address, parts, read, placed⟩
  · obtain ⟨bits, number, bound, canonical, rfl⟩ := networkAt_iff.mp placed
    have full : bits = address.family.bits := by
      rw [JsNumber.toRat?, Option.some.injEq] at number
      exact_mod_cast number.symm
    exact ⟨value, address, isAddressText read, read, rfl, rfl, bound,
      (hostBits_iff read bound).mp canonical, .inl ⟨rfl, full⟩⟩
  · obtain ⟨bits, number, bound, canonical, rfl⟩ := networkAt_iff.mp placed
    have zero := (hostBits_iff read bound).mp canonical
    have digits := plain text written address bits parts read number bound zero
    have small : bits ≤ 128 := bound.trans (by cases address.family <;> decide)
    have shape : value = text ++ slash :: written := by
      rw [← joined_splitOn slash value, parts]
      simp
    exact ⟨text, address, isAddressText read, read, rfl, rfl, bound, zero,
      .inr ⟨written, digits, shape, (toNumber_digits_iff digits small).mp number⟩⟩

theorem contains_exactly {value text : JsString} {network : TrustedNetwork}
    {address : ParsedAddress} (parsed : parseNetwork value = some network)
    (read : parseAddress text = some address) :
    containsAddress network address = true ↔ Within network address :=
  containsAddress_iff (parseNetwork_normal parsed) (parseAddress_normal read)

/-- A number that is read from no plain digits is not exact. -/
theorem plain_of_reads {value : JsString}
    (reads : ∀ network, parseNetwork value = some network → ReadsNetwork value network) :
    PlainLength value := by
  intro text written address bits parts read number bound zero
  have parsed : parseNetwork value = some ⟨address.bytes, address.family, bits⟩ := by
    refine parseNetwork_iff.mpr (.inr ⟨text, written, address, parts, read, ?_⟩)
    exact networkAt_iff.mpr ⟨bits, number, bound, (hostBits_iff read bound).mpr zero, rfl⟩
  obtain ⟨own, other, -, ownRead, -, -, -, -, shape⟩ := reads _ parsed
  rcases shape with ⟨rfl, -⟩ | ⟨digits, plain, rfl, -⟩
  · rw [List.splitOn_eq_singleton (parseAddress_unslashed ownRead)] at parts
    cases parts
  · rw [List.splitOn_append_cons_self_of_not_mem (parseAddress_unslashed ownRead),
      List.splitOn_eq_singleton (digits_unslashed plain)] at parts
    obtain ⟨-, same⟩ := List.cons.inj parts
    rw [← (List.cons.inj same).1]
    exact plain

/-- Reading is exact where what is taken as the number of bits is written in digits. -/
theorem exact_iff_plainLength (value : JsString) : Exact value ↔ PlainLength value := by
  constructor
  · rintro ⟨reads, -⟩
    exact plain_of_reads fun network parsed => (reads network).mp parsed
  · intro plain
    exact ⟨fun network => ⟨reads_of_parseNetwork plain, parseNetwork_of_reads⟩,
      fun network text address parsed read => contains_exactly parsed read⟩

/-- An address with a slash and nothing behind it is the network of every address. -/
theorem everyPeer_trusted :
    parseNetwork (js "0.0.0.0/") = some ⟨[0, 0, 0, 0], .four, 0⟩ ∧ ¬Exact (js "0.0.0.0/") := by
  have parsed : parseNetwork (js "0.0.0.0/") = some ⟨[0, 0, 0, 0], .four, 0⟩ := by
    decide +kernel
  refine ⟨parsed, fun exactly => ?_⟩
  have plain := plain_of_reads fun network own => (exactly.1 network).mp own
  have address : parseAddress (js "0.0.0.0") = some ⟨[0, 0, 0, 0], .four, js "0.0.0.0"⟩ := by
    decide +kernel
  have digits := plain (js "0.0.0.0") [] _ 0 (by decide +kernel) address (by decide +kernel)
    (Nat.zero_le _) (by intro bit inside; revert bit; decide)
  exact digits.1 rfl

end Vasi.ClientAddress
