import Vasi.CanonicalJson
import Vasi.Binary64
import Mathlib.Tactic.FinCases

/-!
# Reading JSON text

JSON.parse: whitespace, the three literals, numbers rounded to doubles, string
literals with their escapes, arrays and objects whose later members replace
earlier ones of the same key, `__proto__` included. Recursion is bounded by the
length of the text. The canonical text of a value reads back as that value.
-/
namespace Vasi.JsonText

open JsValue CanonicalJson

def isWhitespace (unit : CodeUnit) : Bool := unit = 9 || unit = 10 || unit = 13 || unit = 32

/-- The text after its leading whitespace. -/
def skip (text : JsString) : JsString := text.dropWhile isWhitespace

/-- The text after one expected code unit. -/
def expect (unit : CodeUnit) : JsString → Option JsString
  | [] => none
  | head :: rest => if head = unit then some rest else none

/-- The text after an expected literal. -/
def expectAll : JsString → JsString → Option JsString
  | [], text => some text
  | unit :: literal, text => (expect unit text).bind (expectAll literal)

/-! ## Numbers -/

def isDigit (unit : CodeUnit) : Bool := 48 ≤ unit.val && unit.val ≤ 57

/-- The number a digit string denotes. -/
def digitsValue (digits : JsString) : ℕ :=
  digits.foldl (fun total unit => total * 10 + (unit.val - 48)) 0

/-- The digits after a decimal point, when there is one. -/
def readFraction (text : JsString) : Option (JsString × JsString) :=
  match expect 46 text with
  | none => some ([], text)
  | some rest =>
      if rest.takeWhile isDigit = [] then none
      else some (rest.takeWhile isDigit, rest.dropWhile isDigit)

/-- The signed exponent, when there is one. -/
def readExponent (text : JsString) : Option (ℤ × JsString) :=
  match (expect 101 text).or (expect 69 text) with
  | none => some (0, text)
  | some rest =>
      let unsigned := ((expect 43 rest).or (expect 45 rest)).getD rest
      let magnitude := (digitsValue (unsigned.takeWhile isDigit) : ℤ)
      if unsigned.takeWhile isDigit = [] then none
      else some (if (expect 45 rest).isSome then -magnitude else magnitude,
        unsigned.dropWhile isDigit)

/-- The double nearest to a decimal number. -/
def decimal (negative : Bool) (whole fraction : JsString) (exponent : ℤ) : JsNumber :=
  let magnitude : ℚ := digitsValue (whole ++ fraction) * 10 ^ (exponent - fraction.length)
  let value := Binary64.round (if negative then -magnitude else magnitude)
  if value = 0 then if negative then .negativeZero else .finite 0
  else if 2 ^ 1024 ≤ |value| then .infinite negative
  else .finite value

/-- A number: no leading zero stands before another digit. -/
def readNumber (text : JsString) : Option (JsNumber × JsString) := do
  let negative := (expect 45 text).isSome
  let unsigned := (expect 45 text).getD text
  let whole := unsigned.takeWhile isDigit
  if whole = [] ∨ (whole.head? = some 48 ∧ whole.length ≠ 1) then none
  else
    let (fraction, afterFraction) ← readFraction (unsigned.dropWhile isDigit)
    let (exponent, rest) ← readExponent afterFraction
    return (decimal negative whole fraction exponent, rest)

/-! ## Strings -/

/-- The value of a hexadecimal digit of either case. -/
def hexValue (unit : CodeUnit) : Option ℕ :=
  if 48 ≤ unit.val ∧ unit.val ≤ 57 then some (unit.val - 48)
  else if 97 ≤ unit.val ∧ unit.val ≤ 102 then some (unit.val - 87)
  else if 65 ≤ unit.val ∧ unit.val ≤ 70 then some (unit.val - 55)
  else none

/-- The code unit that four hexadecimal digits name. -/
def hexUnit (first second third fourth : CodeUnit) : Option CodeUnit := do
  let first ← hexValue first
  let second ← hexValue second
  let third ← hexValue third
  let fourth ← hexValue fourth
  return Fin.ofNat 65536 (first * 4096 + second * 256 + third * 16 + fourth)

/-- The code unit that a one-letter escape names. -/
def escaped (letter : CodeUnit) : Option CodeUnit :=
  if letter = 34 ∨ letter = 92 ∨ letter = 47 then some letter
  else if letter = 98 then some 8
  else if letter = 102 then some 12
  else if letter = 110 then some 10
  else if letter = 114 then some 13
  else if letter = 116 then some 9
  else none

/-- The rest of a string literal after its opening quote. -/
def readString : JsString → Option (JsString × JsString)
  | [] => none
  | unit :: rest =>
      if unit = 34 then some ([], rest)
      else if unit = 92 then
        match rest with
        | 117 :: first :: second :: third :: fourth :: more =>
            (hexUnit first second third fourth).bind fun value =>
              (readString more).map fun read => (value :: read.1, read.2)
        | letter :: more =>
            (escaped letter).bind fun value =>
              (readString more).map fun read => (value :: read.1, read.2)
        | [] => none
      else if unit.val < 0x20 then none
      else (readString rest).map fun read => (unit :: read.1, read.2)

/-! ## Values -/

/-- Creating a data property: an existing one keeps its place. -/
def createMember (built : Members) (key : JsString) (value : Value) : Members :=
  if built.any fun entry => entry.1 = key then
    built.map fun entry => if entry.1 = key then (key, value) else entry
  else built ++ [(key, value)]

/-- The members of an object literal, in source order. -/
def createMembers (members : Members) : Members :=
  members.foldl (fun built entry => createMember built entry.1 entry.2) []

mutual
/-- One value, after any whitespace. -/
def readValue : ℕ → JsString → Option (Value × JsString)
  | 0, _ => none
  | fuel + 1, text =>
      let start := skip text
      if start.head? = some 34 then
        (readString start.tail).map fun read => (.string read.1, read.2)
      else if start.head? = some 91 then
        match expect 93 (skip start.tail) with
        | some rest => some (.array [], rest)
        | none => (readItems fuel start.tail).map fun read => (.array read.1, read.2)
      else if start.head? = some 123 then
        match expect 125 (skip start.tail) with
        | some rest => some (.object [], rest)
        | none =>
            (readMembers fuel start.tail).map fun read =>
              (.object (createMembers read.1), read.2)
      else if start.head? = some 110 then
        (expectAll (js "null") start).map fun rest => (.null, rest)
      else if start.head? = some 116 then
        (expectAll (js "true") start).map fun rest => (.bool true, rest)
      else if start.head? = some 102 then
        (expectAll (js "false") start).map fun rest => (.bool false, rest)
      else (readNumber start).map fun read => (.number read.1, read.2)

/-- The items of an array up to its closing bracket. -/
def readItems : ℕ → JsString → Option (List Value × JsString)
  | 0, _ => none
  | fuel + 1, text =>
      (readValue fuel text).bind fun read =>
        match expect 44 (skip read.2) with
        | some more =>
            (readItems fuel more).map fun later => (read.1 :: later.1, later.2)
        | none => (expect 93 (skip read.2)).map fun rest => ([read.1], rest)

/-- The members of an object up to its closing brace. -/
def readMembers : ℕ → JsString → Option (Members × JsString)
  | 0, _ => none
  | fuel + 1, text =>
      (expect 34 (skip text)).bind fun opened =>
        (readString opened).bind fun key =>
          (expect 58 (skip key.2)).bind fun named =>
            (readValue fuel named).bind fun read =>
              match expect 44 (skip read.2) with
              | some more =>
                  (readMembers fuel more).map fun later =>
                    ((key.1, read.1) :: later.1, later.2)
              | none =>
                  (expect 125 (skip read.2)).map fun rest => ([(key.1, read.1)], rest)
end

/-- JSON.parse; none is its syntax error. -/
def parse (text : JsString) : Option Value :=
  match readValue text.length text with
  | some (value, rest) => if skip rest = [] then some value else none
  | none => none

/-! ## Reading canonical text -/

@[simp] theorem expect_cons (unit : CodeUnit) (rest : JsString) :
    expect unit (unit :: rest) = some rest := by simp [expect]

@[simp] theorem expect_other {unit head : CodeUnit} (other : head ≠ unit) (rest : JsString) :
    expect unit (head :: rest) = none := by simp [expect, other]

/-- An expected literal is consumed whole. -/
theorem expectAll_append (literal rest : JsString) :
    expectAll literal (literal ++ rest) = some rest := by
  induction literal with
  | nil => rfl
  | cons unit literal inductionHypothesis => simp [expectAll, inductionHypothesis]

/-- Text that starts with something else is left alone. -/
theorem skip_cons {unit : CodeUnit} (visible : isWhitespace unit = false) (rest : JsString) :
    skip (unit :: rest) = unit :: rest := by simp [skip, visible]

/-- What may stand after a value: nothing, or a separator or closing mark. -/
def Follows (rest : JsString) : Prop :=
  ∀ unit, rest.head? = some unit → unit = 44 ∨ unit = 93 ∨ unit = 125

theorem follows_nil : Follows [] := by simp [Follows]

theorem follows_cons {unit : CodeUnit} (mark : unit = 44 ∨ unit = 93 ∨ unit = 125)
    (rest : JsString) : Follows (unit :: rest) := by
  intro head same
  simp only [List.head?_cons, Option.some.injEq] at same
  exact same ▸ mark

/-- A following mark is neither a digit, a point nor an exponent. -/
theorem Follows.stops {rest : JsString} (follows : Follows rest) :
    rest.takeWhile isDigit = [] ∧ rest.dropWhile isDigit = rest ∧ expect 46 rest = none ∧
      expect 101 rest = none ∧ expect 69 rest = none := by
  cases rest with
  | nil => simp [expect]
  | cons unit rest =>
      rcases follows unit rfl with rfl | rfl | rfl <;> simp [isDigit, expect]

/-! ### Integers -/

/-- The code unit of a decimal digit. -/
def digitUnit (digit : Char) : CodeUnit := Fin.ofNat 65536 digit.toNat

theorem codeUnits_digit {digit : Char} (decimal : digit.isDigit = true) :
    codeUnits digit = [digitUnit digit] ∧ isDigit (digitUnit digit) = true ∧
      (digitUnit digit).val = digit.toNat := by
  have range : 48 ≤ digit.toNat ∧ digit.toNat ≤ 57 := by
    simp only [Char.isDigit, Bool.and_eq_true, decide_eq_true_eq] at decimal
    exact ⟨by simpa using UInt32.le_iff_toNat_le.mp decimal.1,
      by simpa using UInt32.le_iff_toNat_le.mp decimal.2⟩
  have value : (digitUnit digit).val = digit.toNat := by
    simp only [digitUnit, Fin.ofNat]
    omega
  refine ⟨?_, ?_, value⟩
  · simp only [codeUnits, digitUnit, if_pos (show digit.toNat < 0x10000 by omega)]
  · simp only [isDigit, value, Bool.and_eq_true, decide_eq_true_eq]
    omega

/-- The digits of a natural number as code units. -/
theorem js_repr (number : ℕ) :
    js (Nat.repr number) = (Nat.toDigits 10 number).map digitUnit := by
  have each : ∀ list : List Char, (∀ digit ∈ list, digit.isDigit = true) →
      list.flatMap codeUnits = list.map digitUnit := by
    intro list digits
    induction list with
    | nil => rfl
    | cons digit rest inductionHypothesis =>
        rw [List.forall_mem_cons] at digits
        rw [List.flatMap_cons, (codeUnits_digit digits.1).1, inductionHypothesis digits.2]
        rfl
  rw [js, Nat.toList_repr]
  exact each _ fun digit member => Nat.isDigit_of_mem_toDigits (by decide) (by decide) member

theorem js_repr_digits (number : ℕ) : ∀ unit ∈ js (Nat.repr number), isDigit unit = true := by
  intro unit member
  rw [js_repr] at member
  obtain ⟨digit, inside, rfl⟩ := List.mem_map.mp member
  exact (codeUnits_digit (Nat.isDigit_of_mem_toDigits (by decide) (by decide) inside)).2.1

theorem js_repr_nonempty (number : ℕ) : js (Nat.repr number) ≠ [] := by
  simp [js_repr, Nat.toDigits_ne_nil]

/-- The digits of a number denote it. -/
theorem digitsValue_repr (number : ℕ) : digitsValue (js (Nat.repr number)) = number := by
  have digits : ∀ digit ∈ Nat.toDigits 10 number, digit.isDigit = true := fun digit member =>
    Nat.isDigit_of_mem_toDigits (by decide) (by decide) member
  have folded : ∀ (list : List Char) (total : ℕ), (∀ digit ∈ list, digit.isDigit = true) →
      (list.map digitUnit).foldl (fun total unit => total * 10 + (unit.val - 48)) total =
        Nat.ofDigitChars 10 list total := by
    intro list
    induction list with
    | nil => intros; rfl
    | cons digit rest inductionHypothesis =>
        intro total digits
        rw [List.forall_mem_cons] at digits
        rw [List.map_cons, List.foldl_cons, inductionHypothesis _ digits.2,
          Nat.ofDigitChars_cons, (codeUnits_digit digits.1).2.2, mul_comm]
        rfl
  rw [js_repr, digitsValue, folded _ _ digits, Nat.ofDigitChars_ten_toDigits]

/-- Only zero itself starts with the digit zero. The recursion is on the quotient
that the leading digits denote. -/
theorem toDigits_leading (number : ℕ) (zero : (Nat.toDigits 10 number).head? = some '0') :
    number = 0 := by
  induction number using Nat.strong_induction_on with
  | _ number inductionHypothesis =>
      by_cases small : number < 10
      · rw [Nat.toDigits_of_lt_base small] at zero
        have digit : ∀ value < 10, Nat.digitChar value = '0' → value = 0 := by decide
        exact digit number small (by simpa using zero)
      · rw [Nat.toDigits_of_base_le (by decide) (by omega),
          List.head?_append_of_ne_nil _ Nat.toDigits_ne_nil] at zero
        have quotient := inductionHypothesis (number / 10) (by omega) zero
        omega

theorem js_repr_leading (number : ℕ) (zero : (js (Nat.repr number)).head? = some 48) :
    (js (Nat.repr number)).length = 1 := by
  rw [js_repr, List.head?_map, Option.map_eq_some_iff] at zero
  obtain ⟨digit, first, same⟩ := zero
  have inside : digit.isDigit = true := Nat.isDigit_of_mem_toDigits (by decide) (by decide)
    (List.mem_of_mem_head? first)
  have value := (codeUnits_digit inside).2.2
  rw [same] at value
  obtain rfl : digit = '0' := Char.ext (UInt32.toNat_inj.mp value.symm)
  obtain rfl := toDigits_leading number first
  rfl

/-- A safe integer is its own nearest double. -/
theorem decimal_integer (negative : Bool) (number : ℕ) (small : number < 2 ^ 53) :
    decimal negative (js (Nat.repr number)) [] 0 =
      if number = 0 then if negative then .negativeZero else .finite 0
      else .finite (if negative then -(number : ℚ) else number) := by
  have exact : ∀ value : ℤ, value.natAbs = number → Binary64.round (value : ℚ) = value := by
    intro value same
    exact Binary64.round_intCast value (by rw [Int.abs_eq_natAbs]; omega)
  have signed : Binary64.round (if negative then -(number : ℚ) else number) =
      if negative then -(number : ℚ) else number := by
    cases negative with
    | true => simpa using exact (-number) (by simp)
    | false => simpa using exact number (by simp)
  have bounded : |if negative then -(number : ℚ) else number| < 2 ^ 1024 := by
    have magnitude : |if negative then -(number : ℚ) else number| = number := by
      cases negative <;> simp
    rw [magnitude]
    calc (number : ℚ) < 2 ^ 53 := by exact_mod_cast small
      _ ≤ 2 ^ 1024 := by gcongr <;> norm_num
  have zero : (if negative then -(number : ℚ) else number) = 0 ↔ number = 0 := by
    cases negative <;> simp
  unfold decimal
  simp only [List.append_nil, digitsValue_repr, List.length_nil, Nat.cast_zero, sub_zero,
    zpow_zero, mul_one, signed, zero, if_neg (not_le.mpr bounded)]

/-- A natural number's text reads back, whatever mark follows it. -/
theorem readNumber_repr (negative : Bool) (number : ℕ) (small : number < 2 ^ 53) {rest : JsString}
    (follows : Follows rest) :
    readNumber ((if negative then [45] else []) ++ js (Nat.repr number) ++ rest) =
      some (if number = 0 then if negative then .negativeZero else .finite 0
        else .finite (if negative then -(number : ℚ) else number), rest) := by
  obtain ⟨noDigit, stop, noPoint, noLower, noUpper⟩ := follows.stops
  have whole : (js (Nat.repr number) ++ rest).takeWhile isDigit = js (Nat.repr number) := by
    rw [List.takeWhile_append_of_pos (js_repr_digits number), noDigit, List.append_nil]
  have after : (js (Nat.repr number) ++ rest).dropWhile isDigit = rest := by
    rw [List.dropWhile_append_of_pos (js_repr_digits number), stop]
  have unsigned : (expect 45 ((if negative then [45] else []) ++ js (Nat.repr number) ++ rest)) =
      if negative then some (js (Nat.repr number) ++ rest) else none := by
    cases negative with
    | true => simp
    | false =>
        obtain ⟨head, tail, digits⟩ := List.exists_cons_of_ne_nil (js_repr_nonempty number)
        have digit := js_repr_digits number head (by simp [digits])
        have other : head ≠ 45 := by
          rintro rfl
          simp [isDigit] at digit
        simp [digits, other]
  have start : ¬(js (Nat.repr number) = [] ∨
      (js (Nat.repr number)).head? = some 48 ∧ (js (Nat.repr number)).length ≠ 1) := by
    rintro (empty | ⟨zero, long⟩)
    · exact js_repr_nonempty number empty
    · exact long (js_repr_leading number zero)
  have fraction : readFraction rest = some ([], rest) := by simp [readFraction, noPoint]
  have exponent : readExponent rest = some (0, rest) := by simp [readExponent, noLower, noUpper]
  unfold readNumber
  rw [unsigned]
  cases negative with
  | true => simp [whole, after, start, fraction, exponent, decimal_integer true number small]
  | false => simp [whole, after, start, fraction, exponent, decimal_integer false number small]

theorem js_append (left right : String) : js (left ++ right) = js left ++ js right := by
  simp [js]

/-- The sign and digits of an integer. -/
theorem js_toString (value : ℤ) :
    js (toString value) = (if value < 0 then [45] else []) ++ js (Nat.repr value.natAbs) := by
  cases value with
  | ofNat number =>
      have nonnegative : ¬ Int.ofNat number < 0 := by simp
      rw [if_neg nonnegative]
      rfl
  | negSucc number =>
      rw [if_pos (Int.negSucc_lt_zero number)]
      exact js_append "-" (Nat.repr (number + 1))

/-- A safe integer's text reads back. -/
theorem readNumber_integer (value : ℤ) (safe : value.natAbs < 2 ^ 53) {rest : JsString}
    (follows : Follows rest) :
    readNumber (js (toString value) ++ rest) = some (.finite value, rest) := by
  have read := readNumber_repr (value < 0) value.natAbs safe follows
  rw [js_toString]
  by_cases negative : value < 0
  · have nonzero : value.natAbs ≠ 0 := by omega
    have sign : |(value : ℚ)| = -value := abs_of_neg (by exact_mod_cast negative)
    simpa [negative, nonzero, sign] using read
  · have magnitude : ((value.natAbs : ℕ) : ℚ) = value := by
      rw [Nat.cast_natAbs, abs_of_nonneg (not_lt.mp negative)]
    by_cases zero : value.natAbs = 0
    · obtain rfl : value = 0 := by omega
      simpa using read
    · simpa [negative, zero, magnitude] using read

/-! ### String literals -/

theorem hexValue_hexDigit : ∀ value < 16, hexValue (hexDigit value) = some value := by decide

/-- A hexadecimal escape names its code unit. -/
theorem readString_unicodeEscape (unit : CodeUnit) (rest : JsString) :
    readString (unicodeEscape unit ++ rest) =
      (readString rest).map fun read => (unit :: read.1, read.2) := by
  have bound := unit.isLt
  have digits : hexUnit (hexDigit (unit.val / 4096)) (hexDigit (unit.val / 256 % 16))
      (hexDigit (unit.val / 16 % 16)) (hexDigit (unit.val % 16)) = some unit := by
    simp only [hexUnit, hexValue_hexDigit _ (show unit.val / 4096 < 16 by omega),
      hexValue_hexDigit _ (show unit.val / 256 % 16 < 16 by omega),
      hexValue_hexDigit _ (show unit.val / 16 % 16 < 16 by omega),
      hexValue_hexDigit _ (show unit.val % 16 < 16 by omega), Option.bind_eq_bind,
      Option.bind_some, Option.pure_def, Option.some.injEq]
    apply Fin.ext
    change (unit.val / 4096 * 4096 + unit.val / 256 % 16 * 256 + unit.val / 16 % 16 * 16 +
      unit.val % 16) % 65536 = unit.val
    omega
  simp [unicodeEscape, readString, digits]

/-- A code unit that needs no escape stands for itself. -/
theorem readString_plain {unit : CodeUnit} (quoted : unit ≠ 34) (slash : unit ≠ 92)
    (visible : ¬ unit.val < 0x20) (rest : JsString) :
    readString (unit :: rest) = (readString rest).map fun read => (unit :: read.1, read.2) := by
  rw [readString.eq_def]
  simp [quoted, slash, visible]

/-- A one-letter escape stands for the code unit it names. -/
theorem readString_escaped {letter unit : CodeUnit} (names : escaped letter = some unit)
    (rest : JsString) :
    readString (92 :: letter :: rest) =
      (readString rest).map fun read => (unit :: read.1, read.2) := by
  have short : letter ≠ 117 := by
    rintro rfl
    simp [escaped] at names
  rw [readString]
  · simp [names]
  · intro _ _ _ _ _ same
    exact absurd same short

/-- The escape of a code unit names it. -/
theorem readString_escapeUnit (unit : CodeUnit) (rest : JsString) :
    readString (escapeUnit unit ++ rest) =
      (readString rest).map fun read => (unit :: read.1, read.2) := by
  have named : ∀ letter : CodeUnit, escaped letter = some unit →
      escapeUnit unit = [92, letter] → readString (escapeUnit unit ++ rest) =
        (readString rest).map fun read => (unit :: read.1, read.2) := by
    intro letter names text
    rw [text]
    exact readString_escaped names rest
  by_cases short : unit ∈ ([8, 9, 10, 12, 13, 34, 92] : JsString)
  · fin_cases short
    · exact named 98 (by decide) (by decide)
    · exact named 116 (by decide) (by decide)
    · exact named 110 (by decide) (by decide)
    · exact named 102 (by decide) (by decide)
    · exact named 114 (by decide) (by decide)
    · exact named 34 (by decide) (by decide)
    · exact named 92 (by decide) (by decide)
  · have apart : ∀ value : CodeUnit, value ∈ ([8, 9, 10, 12, 13, 34, 92] : JsString) →
        unit.val ≠ value.val := fun value member same => short (Fin.ext same ▸ member)
    have plain : escapeUnit unit = if unit.val < 0x20 then unicodeEscape unit else [unit] := by
      unfold escapeUnit
      split <;> simp_all
    rw [plain]
    split
    · exact readString_unicodeEscape unit rest
    · rename_i visible
      simp only [List.mem_cons, List.not_mem_nil, or_false, not_or] at short
      exact readString_plain (by tauto) (by tauto) visible rest

@[simp] theorem readString_close (rest : JsString) :
    readString (34 :: rest) = some ([], rest) := by
  rw [readString.eq_def]
  simp

/-- A string literal reads back. The recursion is that of its body: surrogate
pairs pass through and lone surrogates are escaped. -/
theorem readString_quoteBody (value rest : JsString) :
    readString (quoteBody value ++ 34 :: rest) = some (value, rest) := by
  have surrogate : ∀ unit : CodeUnit, (isHighSurrogate unit || isLowSurrogate unit) = true →
      ∀ text, readString (unit :: text) =
        (readString text).map fun read => (unit :: read.1, read.2) := by
    intro unit inside text
    have range : 0xD800 ≤ unit.val := by
      simp only [isHighSurrogate, isLowSurrogate, Bool.or_eq_true, Bool.and_eq_true,
        decide_eq_true_eq] at inside
      omega
    refine readString_plain ?_ ?_ (by omega) text
    · rintro rfl
      simp at range
    · rintro rfl
      simp at range
  induction value using quoteBody.induct with
  | case1 => simp [quoteBody]
  | case2 unit lone =>
      rw [quoteBody, if_pos lone, readString_unicodeEscape]
      simp
  | case3 unit other =>
      rw [quoteBody, if_neg other, readString_escapeUnit]
      simp
  | case4 unit next more pair inductionHypothesis =>
      obtain ⟨high, low⟩ : isHighSurrogate unit = true ∧ isLowSurrogate next = true := by
        simpa using pair
      rw [quoteBody, if_pos pair, List.cons_append, List.cons_append,
        surrogate unit (by simp [high]), surrogate next (by simp [low]), inductionHypothesis]
      rfl
  | case5 unit next more pair lone inductionHypothesis =>
      rw [quoteBody, if_neg pair, if_pos lone, List.append_assoc, readString_unicodeEscape,
        inductionHypothesis]
      rfl
  | case6 unit next more pair other inductionHypothesis =>
      rw [quoteBody, if_neg pair, if_neg other, List.append_assoc, readString_escapeUnit,
        inductionHypothesis]
      rfl

/-! ### Values -/

mutual
/-- The value a canonical form describes. -/
def denoted : Canonical → Value
  | .null => .null
  | .bool value => .bool value
  | .integer value => .number (.finite value)
  | .string value => .string value
  | .array items => .array (denotedItems items)
  | .object members => .object (denotedMembers members)

def denotedItems : List Canonical → List Value
  | [] => []
  | item :: rest => denoted item :: denotedItems rest

def denotedMembers : List (JsString × Canonical) → Members
  | [] => []
  | (key, value) :: rest => (key, denoted value) :: denotedMembers rest
end

mutual
/-- Integers are safe and each object lists each of its keys once. -/
def Sound : Canonical → Prop
  | .integer value => value.natAbs < 2 ^ 53
  | .array items => SoundItems items
  | .object members => (members.map Prod.fst).Nodup ∧ SoundMembers members
  | _ => True

def SoundItems : List Canonical → Prop
  | [] => True
  | item :: rest => Sound item ∧ SoundItems rest

def SoundMembers : List (JsString × Canonical) → Prop
  | [] => True
  | (_, value) :: rest => Sound value ∧ SoundMembers rest
end

theorem denotedMembers_keys (members : List (JsString × Canonical)) :
    (denotedMembers members).map Prod.fst = members.map Prod.fst := by
  induction members with
  | nil => rfl
  | cons entry rest inductionHypothesis => simp [denotedMembers, inductionHypothesis]

/-- Members under distinct keys are created in their order. -/
theorem createMembers_distinct {members : Members} (distinct : (members.map Prod.fst).Nodup) :
    createMembers members = members := by
  have fold : ∀ (rest built : Members), ((built ++ rest).map Prod.fst).Nodup →
      rest.foldl (fun built entry => createMember built entry.1 entry.2) built =
        built ++ rest := by
    intro rest
    induction rest with
    | nil => simp
    | cons entry rest inductionHypothesis =>
        intro built distinct
        have fresh : (built.any fun other => other.1 = entry.1) = false := by
          rw [List.any_eq_false]
          intro other member same
          rw [List.map_append, List.nodup_append] at distinct
          exact distinct.2.2 other.1 (List.mem_map_of_mem member) entry.1 (by simp)
            (by simpa using same)
        rw [List.foldl_cons, createMember, fresh]
        simpa using inductionHypothesis (built ++ [entry]) (by simpa using distinct)
  simpa [createMembers] using fold members [] (by simpa using distinct)

@[simp] theorem join_single (separator only : JsString) : join separator [only] = only := by
  simp [join]

theorem join_more (separator first second : JsString) (rest : List JsString) :
    join separator (first :: second :: rest) =
      first ++ (separator ++ join separator (second :: rest)) := by
  simp [join]

/-- The first code unit of a number is a digit or a minus sign. -/
theorem integer_head (value : ℤ) :
    ∃ head tail, js (toString value) = head :: tail ∧ (head = 45 ∨ isDigit head = true) := by
  rw [js_toString]
  obtain ⟨head, tail, digits⟩ := List.exists_cons_of_ne_nil (js_repr_nonempty value.natAbs)
  have digit := js_repr_digits value.natAbs head (by simp [digits])
  by_cases negative : value < 0
  · exact ⟨45, _, by rw [if_pos negative]; rfl, .inl rfl⟩
  · exact ⟨head, tail, by rw [if_neg negative, digits]; rfl, .inr digit⟩

/-- No value's text starts with whitespace, a closing mark or nothing. -/
theorem text_head (form : Canonical) :
    ∃ head tail, text form = head :: tail ∧ isWhitespace head = false ∧ head ≠ 93 := by
  cases form with
  | null => exact ⟨110, _, rfl, by decide, by decide⟩
  | bool value =>
      cases value with
      | true => exact ⟨116, _, rfl, by decide, by decide⟩
      | false => exact ⟨102, _, rfl, by decide, by decide⟩
  | integer value =>
      obtain ⟨head, tail, start, kind⟩ := integer_head value
      refine ⟨head, tail, start, ?_, ?_⟩
      · rcases kind with rfl | digit
        · decide
        · simp only [isDigit, Bool.and_eq_true, decide_eq_true_eq] at digit
          simp only [isWhitespace, Bool.or_eq_false_iff, decide_eq_false_iff_not, Fin.ext_iff]
          refine ⟨⟨⟨?_, ?_⟩, ?_⟩, ?_⟩ <;> simp <;> omega
      · rcases kind with rfl | digit
        · decide
        · rintro rfl
          simp [isDigit] at digit
  | string value => exact ⟨34, _, rfl, by decide, by decide⟩
  | array items => exact ⟨91, _, rfl, by decide, by decide⟩
  | object members => exact ⟨123, _, rfl, by decide, by decide⟩

/-- Canonical text has no leading whitespace. -/
theorem skip_text (form : Canonical) (rest : JsString) :
    skip (text form ++ rest) = text form ++ rest := by
  obtain ⟨head, tail, start, visible, _⟩ := text_head form
  rw [start, List.cons_append, skip_cons visible]

theorem text_length (form : Canonical) : 1 ≤ (text form).length := by
  obtain ⟨head, tail, start, _⟩ := text_head form
  simp [start]

/-- What stands between the brackets of an array. -/
def itemText (items : List Canonical) : JsString := join (js ",") (itemTexts items)

/-- What stands between the braces of an object. -/
def memberText (members : List (JsString × Canonical)) : JsString :=
  join (js ",") (memberTexts members)

@[simp] theorem itemText_single (item : Canonical) : itemText [item] = text item := by
  simp [itemText, itemTexts]

theorem itemText_more (item next : Canonical) (rest : List Canonical) :
    itemText (item :: next :: rest) = text item ++ 44 :: itemText (next :: rest) := by
  simp only [itemText, itemTexts, join_more]
  rfl

theorem memberText_single (key : JsString) (value : Canonical) :
    memberText [(key, value)] = 34 :: (quoteBody key ++ 34 :: 58 :: text value) := by
  have comma : js "\"" = [34] := by decide
  have colon : js ":" = [58] := by decide
  simp [memberText, memberTexts, quote, comma, colon]

theorem memberText_more (key : JsString) (value : Canonical) (next : JsString × Canonical)
    (rest : List (JsString × Canonical)) :
    memberText ((key, value) :: next :: rest) =
      memberText [(key, value)] ++ 44 :: memberText (next :: rest) := by
  obtain ⟨nextKey, nextValue⟩ := next
  simp only [memberText, memberTexts, join_more, join_single]
  rfl

/-- An array that is not empty does not close at once. -/
theorem expect_close_items (item : Canonical) (rest : List Canonical) (after : JsString) :
    expect 93 (skip (itemText (item :: rest) ++ after)) = none := by
  obtain ⟨head, tail, start, visible, other⟩ := text_head item
  cases rest with
  | nil => rw [itemText_single, start, List.cons_append, skip_cons visible, expect_other other]
  | cons next rest =>
      rw [itemText_more, start, List.cons_append, List.cons_append, skip_cons visible,
        expect_other other]

mutual
/-- Canonical text reads back as the value it denotes, given as much fuel as it
is long. The recursion is on the canonical form. -/
theorem readValue_text : ∀ (form : Canonical), Sound form → ∀ (fuel : ℕ) (rest : JsString),
    (text form).length ≤ fuel → Follows rest →
      readValue fuel (text form ++ rest) = some (denoted form, rest)
  | form, sound, 0, rest, enough, follows => by
      have positive := text_length form
      omega
  | .null, sound, fuel + 1, rest, enough, follows => by
      have start : text .null = js "null" := rfl
      have head : (js "null" ++ rest).head? = some 110 := rfl
      rw [readValue, skip_text, start]
      simp [head, expectAll_append, denoted]
  | .bool true, sound, fuel + 1, rest, enough, follows => by
      have start : text (.bool true) = js "true" := rfl
      have head : (js "true" ++ rest).head? = some 116 := rfl
      rw [readValue, skip_text, start]
      simp [head, expectAll_append, denoted]
  | .bool false, sound, fuel + 1, rest, enough, follows => by
      have start : text (.bool false) = js "false" := rfl
      have head : (js "false" ++ rest).head? = some 102 := rfl
      rw [readValue, skip_text, start]
      simp [head, expectAll_append, denoted]
  | .integer value, sound, fuel + 1, rest, enough, follows => by
      have read := readNumber_integer value sound follows
      obtain ⟨head, tail, start, kind⟩ := integer_head value
      have other : ∀ mark : CodeUnit, mark ∈ ([34, 91, 123, 110, 116, 102] : JsString) →
          ¬ (text (.integer value) ++ rest).head? = some mark := by
        intro mark listed same
        rw [text, start, List.cons_append, List.head?_cons, Option.some.injEq] at same
        subst same
        rcases kind with rfl | digit
        · revert listed
          decide
        · fin_cases listed <;> simp [isDigit] at digit
      rw [readValue, skip_text]
      simp only [other 34 (by decide), other 91 (by decide), other 123 (by decide),
        other 110 (by decide), other 116 (by decide), other 102 (by decide), if_false]
      simp only [text, read, Option.map_some, denoted]
  | .string value, sound, fuel + 1, rest, enough, follows => by
      rw [readValue, skip_text]
      have shape : text (.string value) ++ rest = 34 :: (quoteBody value ++ 34 :: rest) := by
        have mark : js "\"" = [34] := by decide
        simp [text, quote, mark]
      simp [shape, readString_quoteBody, denoted]
  | .array [], sound, fuel + 1, rest, enough, follows => by
      rw [readValue, skip_text]
      rfl
  | .array (item :: items), sound, fuel + 1, rest, enough, follows => by
      have shape : text (.array (item :: items)) ++ rest =
          91 :: (itemText (item :: items) ++ 93 :: rest) := by
        have opening : js "[" = [91] := by decide
        have closing : js "]" = [93] := by decide
        simp [text, itemText, opening, closing]
      have size : (itemText (item :: items)).length + 2 = (text (.array (item :: items))).length := by
        have whole := congrArg List.length shape
        simp only [List.length_append, List.length_cons] at whole
        omega
      have read := readItems_text (item :: items) sound (by simp) fuel rest (by omega)
      rw [readValue, skip_text, shape]
      simp [expect_close_items, read, denoted]
  | .object [], sound, fuel + 1, rest, enough, follows => by
      rw [readValue, skip_text]
      rfl
  | .object (entry :: members), sound, fuel + 1, rest, enough, follows => by
      have shape : text (.object (entry :: members)) ++ rest =
          123 :: (memberText (entry :: members) ++ 125 :: rest) := by
        have opening : js "\x7b" = [123] := by decide
        have closing : js "\x7d" = [125] := by decide
        simp [text, memberText, opening, closing]
      have size : (memberText (entry :: members)).length + 2 =
          (text (.object (entry :: members))).length := by
        have whole := congrArg List.length shape
        simp only [List.length_append, List.length_cons] at whole
        omega
      have read := readMembers_text (entry :: members) sound.2 (by simp) fuel rest (by omega)
      have apart : ((denotedMembers (entry :: members)).map Prod.fst).Nodup := by
        rw [denotedMembers_keys]
        exact sound.1
      have distinct := createMembers_distinct apart
      have start : ∃ tail, memberText (entry :: members) = 34 :: tail := by
        obtain ⟨key, value⟩ := entry
        cases members with
        | nil => exact ⟨_, memberText_single key value⟩
        | cons next members =>
            exact ⟨_, by rw [memberText_more, memberText_single, List.cons_append]⟩
      obtain ⟨tail, start⟩ := start
      have unclosed : expect 125 (skip (memberText (entry :: members) ++ 125 :: rest)) = none := by
        rw [start, List.cons_append, skip_cons (by decide), expect_other (by decide)]
      rw [readValue, skip_text, shape]
      simp [unclosed, read, distinct, denoted]

theorem readItems_text : ∀ (items : List Canonical), SoundItems items → items ≠ [] →
    ∀ (fuel : ℕ) (rest : JsString), (itemText items).length + 1 ≤ fuel →
      readItems fuel (itemText items ++ 93 :: rest) = some (denotedItems items, rest)
  | [], _, nonempty, _, _, _ => absurd rfl nonempty
  | _, _, _, 0, _, enough => by omega
  | [item], sound, _, fuel + 1, rest, enough => by
      have read := readValue_text item sound.1 fuel (93 :: rest)
        (by simpa using enough) (follows_cons (by simp) rest)
      rw [itemText_single, readItems, read]
      simp [skip_cons (show isWhitespace 93 = false by decide),
        expect_other (show (93 : CodeUnit) ≠ 44 by decide), denotedItems]
  | item :: next :: items, sound, _, fuel + 1, rest, enough => by
      rw [itemText_more, List.length_append, List.length_cons] at enough
      have positive := text_length item
      have read := readValue_text item sound.1 fuel (44 :: (itemText (next :: items) ++ 93 :: rest))
        (by omega) (follows_cons (by simp) _)
      have later := readItems_text (next :: items) sound.2 (by simp) fuel rest (by omega)
      rw [itemText_more, List.append_assoc, List.cons_append, readItems, read]
      simp [skip_cons (show isWhitespace 44 = false by decide), later, denotedItems]

theorem readMembers_text : ∀ (members : List (JsString × Canonical)), SoundMembers members →
    members ≠ [] → ∀ (fuel : ℕ) (rest : JsString), (memberText members).length + 1 ≤ fuel →
      readMembers fuel (memberText members ++ 125 :: rest) = some (denotedMembers members, rest)
  | [], _, nonempty, _, _, _ => absurd rfl nonempty
  | _, _, _, 0, _, enough => by omega
  | [(key, value)], sound, _, fuel + 1, rest, enough => by
      have size := congrArg List.length (memberText_single key value)
      simp only [List.length_append, List.length_cons] at size
      have read := readValue_text value sound.1 fuel (125 :: rest)
        (by omega) (follows_cons (by simp) rest)
      rw [memberText_single, readMembers]
      simp [skip_cons (show isWhitespace 34 = false by decide), readString_quoteBody,
        skip_cons (show isWhitespace 58 = false by decide), read,
        skip_cons (show isWhitespace 125 = false by decide),
        expect_other (show (125 : CodeUnit) ≠ 44 by decide), denotedMembers]
  | (key, value) :: next :: members, sound, _, fuel + 1, rest, enough => by
      have size := congrArg List.length (memberText_single key value)
      rw [memberText_more, List.length_append, List.length_cons] at enough
      simp only [List.length_append, List.length_cons] at size
      have read := readValue_text value sound.1 fuel
        (44 :: (memberText (next :: members) ++ 125 :: rest)) (by omega)
        (follows_cons (by simp) _)
      have later := readMembers_text (next :: members) sound.2 (by simp) fuel rest (by omega)
      rw [memberText_more, memberText_single, readMembers]
      simp [skip_cons (show isWhitespace 34 = false by decide), readString_quoteBody,
        skip_cons (show isWhitespace 58 = false by decide), read,
        skip_cons (show isWhitespace 44 = false by decide), later, denotedMembers]
end

/-- JSON.parse inverts the canonical text. -/
theorem parse_text (form : Canonical) (sound : Sound form) :
    parse (text form) = some (denoted form) := by
  have read := readValue_text form sound (text form).length [] le_rfl follows_nil
  rw [List.append_nil] at read
  simp [parse, read, skip]

end Vasi.JsonText
