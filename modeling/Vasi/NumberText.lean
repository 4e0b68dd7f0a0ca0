import Vasi.JsonText

/-!
# The decimal text of a number

Number::toString: the shortest decimal significand whose nearest double is the
number, the nearer candidate first, written out in full, with a decimal point
or with an exponent. The text reads back as the number it was written for.
-/
namespace Vasi.JsonText

open JsValue

/-- A finite double: its own nearest double, below the range that overflows. -/
def IsDouble (value : ℚ) : Prop := Binary64.round value = value ∧ |value| < 2 ^ 1024

/-- The integers next to a nonnegative value, the nearer one first. -/
def neighbours (value : ℚ) : List ℕ :=
  let low := ⌊value⌋.toNat
  if value - low ≤ 1 / 2 then [low, low + 1] else [low + 1, low]

/-- The significands of a digit count with their exponents. A significand that
gained a digit in rounding is a power of ten and moves it to the exponent. -/
def candidates (magnitude : ℚ) (digits : ℕ) : List (ℕ × ℤ) :=
  let exponent := Int.log 10 magnitude + 1 - digits
  (neighbours (magnitude / 10 ^ exponent)).map fun significand =>
    if significand = 10 ^ digits then (10 ^ (digits - 1), exponent + 1)
    else (significand, exponent)

/-- The shortest significand and exponent that read back as the value. Seventeen
digits distinguish all doubles; the exact expansion ends the search. -/
def shortest (value : ℚ) : ℕ × ℤ :=
  let signed (candidate : ℕ × ℤ) : ℚ :=
    let magnitude := (candidate.1 : ℚ) * 10 ^ candidate.2
    if value < 0 then -magnitude else magnitude
  (((List.range' 1 17).flatMap (candidates |value|)).find? fun candidate =>
      Binary64.round (signed candidate) = value).getD
    ((|value| * 10 ^ 1074).num.toNat, -1074)

/-- The exponent part, with its sign always written. -/
def powerText (exponent : ℤ) : JsString :=
  101 :: (if exponent < 0 then 45 else 43) :: js (Nat.repr exponent.natAbs)

/-- The layout of a significand at its exponent. -/
def layout (significand : ℕ) (exponent : ℤ) : JsString :=
  let digits := js (Nat.repr significand)
  let point : ℤ := exponent + digits.length
  if 0 ≤ exponent ∧ point ≤ 21 then digits ++ List.replicate exponent.toNat 48
  else if 0 < point ∧ point ≤ 21 then
    digits.take point.toNat ++ 46 :: digits.drop point.toNat
  else if -6 < point ∧ point ≤ 0 then
    48 :: 46 :: (List.replicate (-point).toNat 48 ++ digits)
  else if digits.length = 1 then digits ++ powerText (point - 1)
  else digits.take 1 ++ 46 :: digits.drop 1 ++ powerText (point - 1)

/-- Number::toString of a finite number. -/
def numberText (value : ℚ) : JsString :=
  if value = 0 then [48]
  else (if value < 0 then [45] else []) ++ layout (shortest value).1 (shortest value).2

/-! ## Reading the parts of a number -/

/-- Appending digits shifts what stands before them. -/
theorem digitsValue_append (left right : JsString) :
    digitsValue (left ++ right) = digitsValue left * 10 ^ right.length + digitsValue right := by
  have shift : ∀ (digits : JsString) (total : ℕ),
      digits.foldl (fun total unit => total * 10 + (unit.val - 48)) total =
        total * 10 ^ digits.length + digitsValue digits := by
    intro digits
    induction digits with
    | nil => simp [digitsValue]
    | cons unit digits inductionHypothesis =>
        intro total
        have first := inductionHypothesis (unit.val - 48)
        simp only [digitsValue, List.foldl_cons, List.length_cons, zero_mul, zero_add] at first ⊢
        rw [inductionHypothesis, first, pow_succ, digitsValue]
        ring
  rw [digitsValue, List.foldl_append, shift]
  rfl

theorem digitsValue_zeros (count : ℕ) : digitsValue (List.replicate count 48) = 0 := by
  induction count with
  | zero => rfl
  | succ count inductionHypothesis =>
      rw [List.replicate_succ, ← List.singleton_append, digitsValue_append, inductionHypothesis]
      simp [digitsValue]

theorem zeros_digits (count : ℕ) : ∀ unit ∈ List.replicate count (48 : CodeUnit),
    isDigit unit = true := by
  intro unit member
  rw [List.eq_of_mem_replicate member]
  decide

/-- A run of digits is taken whole when what follows is none. -/
theorem takeWhile_digits {digits rest : JsString} (each : ∀ unit ∈ digits, isDigit unit = true)
    (stop : rest.takeWhile isDigit = []) :
    (digits ++ rest).takeWhile isDigit = digits ∧ (digits ++ rest).dropWhile isDigit = rest := by
  have after : rest.dropWhile isDigit = rest := by
    have whole := List.takeWhile_append_dropWhile (p := isDigit) (l := rest)
    rwa [stop, List.nil_append] at whole
  exact ⟨by rw [List.takeWhile_append_of_pos each, stop, List.append_nil],
    by rw [List.dropWhile_append_of_pos each, after]⟩

/-- A signed exponent reads back. -/
theorem readExponent_power (exponent : ℤ) {rest : JsString}
    (stop : rest.takeWhile isDigit = []) :
    readExponent (powerText exponent ++ rest) = some (exponent, rest) := by
  obtain ⟨taken, left⟩ := takeWhile_digits (js_repr_digits exponent.natAbs) stop
  by_cases negative : exponent < 0
  · simp [readExponent, powerText, negative, taken, left, digitsValue_repr, js_repr_nonempty,
      expect, abs_of_neg negative]
  · simp [readExponent, powerText, negative, taken, left, digitsValue_repr, js_repr_nonempty,
      expect]
    exact not_lt.mp negative

/-- A point and at least one digit read back. -/
theorem readFraction_point {fraction rest : JsString} (nonempty : fraction ≠ [])
    (each : ∀ unit ∈ fraction, isDigit unit = true) (stop : rest.takeWhile isDigit = []) :
    readFraction (46 :: fraction ++ rest) = some (fraction, rest) := by
  obtain ⟨taken, left⟩ := takeWhile_digits each stop
  simp [readFraction, taken, left, nonempty]

/-- A text cut into the parts a number is read in, whatever mark follows it. -/
structure Parts (text whole fraction : JsString) (exponent : ℤ) : Prop where
  digits : ∀ unit ∈ whole, isDigit unit = true
  nonempty : whole ≠ []
  leading : whole.head? = some 48 → whole.length = 1
  after : ∃ point power, text = whole ++ (point ++ power) ∧ ∀ rest, Follows rest →
    (point ++ (power ++ rest)).takeWhile isDigit = [] ∧
      readFraction (point ++ (power ++ rest)) = some (fraction, power ++ rest) ∧
      readExponent (power ++ rest) = some (exponent, rest)

/-- A number reads back from its parts. -/
theorem Parts.read {text whole fraction : JsString} {exponent : ℤ}
    (parts : Parts text whole fraction exponent) (negative : Bool) {rest : JsString}
    (follows : Follows rest) :
    readNumber ((if negative then [45] else []) ++ text ++ rest) =
      some (decimal negative whole fraction exponent, rest) := by
  obtain ⟨point, power, rfl, reads⟩ := parts.after
  obtain ⟨stop, fractionRead, powerRead⟩ := reads rest follows
  obtain ⟨taken, left⟩ := takeWhile_digits parts.digits stop
  have unsigned : expect 45 ((if negative then [45] else []) ++
      (whole ++ (point ++ (power ++ rest)))) =
        if negative then some (whole ++ (point ++ (power ++ rest))) else none := by
    cases negative with
    | true => simp
    | false =>
        obtain ⟨head, tail, digits⟩ := List.exists_cons_of_ne_nil parts.nonempty
        have digit := parts.digits head (by simp [digits])
        have other : head ≠ 45 := by
          rintro rfl
          simp [isDigit] at digit
        simp [digits, other]
  have start : ¬(whole = [] ∨ whole.head? = some 48 ∧ whole.length ≠ 1) := by
    rintro (empty | ⟨zero, long⟩)
    · exact parts.nonempty empty
    · exact long (parts.leading zero)
  have grouped : (if negative then [45] else []) ++ (whole ++ (point ++ power)) ++ rest =
      (if negative then [45] else []) ++ (whole ++ (point ++ (power ++ rest))) := by
    simp only [List.append_assoc]
  rw [grouped]
  unfold readNumber
  rw [unsigned]
  cases negative <;> simp [taken, left, start, fractionRead, powerRead]

/-- A layout has parts that denote its significand at its exponent. -/
theorem layout_parts {significand : ℕ} (positive : 0 < significand) (exponent : ℤ) :
    ∃ whole fraction power, Parts (layout significand exponent) whole fraction power ∧
      (digitsValue (whole ++ fraction) : ℚ) * 10 ^ (power - fraction.length) =
        significand * 10 ^ exponent := by
  have noPower : ∀ rest, Follows rest → readExponent ([] ++ rest) = some (0, rest) := by
    intro rest follows
    obtain ⟨-, -, -, noLower, noUpper⟩ := follows.stops
    simp [readExponent, noLower, noUpper]
  have each := js_repr_digits significand
  have nonempty := js_repr_nonempty significand
  have value := digitsValue_repr significand
  have nonzero : (js (Nat.repr significand)).head? ≠ some 48 := by
    intro zero
    have single := js_repr_leading significand zero
    obtain ⟨unit, text⟩ := List.length_eq_one_iff.mp single
    rw [text, List.head?_cons, Option.some.injEq] at zero
    rw [text, zero] at value
    simp [digitsValue] at value
    omega
  unfold layout
  generalize js (Nat.repr significand) = digits at each nonempty value nonzero ⊢
  have long : 1 ≤ digits.length := List.length_pos_iff.mpr nonempty
  have part : ∀ count, ∀ unit ∈ digits.take count, isDigit unit = true :=
    fun count unit member => each unit (List.mem_of_mem_take member)
  have later : ∀ count, ∀ unit ∈ digits.drop count, isDigit unit = true :=
    fun count unit member => each unit (List.mem_of_mem_drop member)
  have front : ∀ count, 0 < count → digits.take count ≠ [] ∧
      ((digits.take count).head? = some 48 → (digits.take count).length = 1) := by
    intro count some
    refine ⟨by simp [nonempty, some.ne'], fun zero => ?_⟩
    rw [List.head?_take, if_neg some.ne'] at zero
    exact absurd zero nonzero
  have powerStop : ∀ (power : ℤ) (rest : JsString),
      (powerText power ++ rest).takeWhile isDigit = [] := by
    intro power rest
    simp [powerText, isDigit]
  dsimp only
  split_ifs with integral inside small single
  · -- the digits and the zeros of an integer
    refine ⟨digits ++ List.replicate exponent.toNat 48, [], 0, ⟨?_, by simp [nonempty], ?_,
      [], [], by simp, ?_⟩, ?_⟩
    · intro unit member
      rcases List.mem_append.mp member with digit | zero
      · exact each unit digit
      · exact zeros_digits _ unit zero
    · intro zero
      rw [List.head?_append_of_ne_nil _ nonempty] at zero
      exact absurd zero nonzero
    · intro rest follows
      obtain ⟨noDigit, -, noPoint, -⟩ := follows.stops
      exact ⟨noDigit, by simp [readFraction, noPoint], noPower rest follows⟩
    · obtain ⟨shift, rfl⟩ := Int.eq_ofNat_of_zero_le integral.1
      rw [List.append_nil, digitsValue_append, digitsValue_zeros, value]
      simp
  · -- a point between the digits
    have cut : (exponent + digits.length).toNat < digits.length := by omega
    obtain ⟨nonemptyFront, leading⟩ := front (exponent + digits.length).toNat (by omega)
    refine ⟨digits.take (exponent + digits.length).toNat,
      digits.drop (exponent + digits.length).toNat, 0, ⟨part _, nonemptyFront, leading,
      46 :: digits.drop (exponent + digits.length).toNat, [], by simp, ?_⟩, ?_⟩
    · intro rest follows
      obtain ⟨noDigit, -⟩ := follows.stops
      exact ⟨by simp [isDigit], readFraction_point (by simpa using cut) (later _) noDigit,
        noPower rest follows⟩
    · rw [List.take_append_drop, value, List.length_drop]
      congr 2
      omega
  · -- zeros after the point
    refine ⟨[48], List.replicate (-(exponent + digits.length)).toNat 48 ++ digits, 0,
      ⟨by simp [isDigit], by simp, by simp,
      46 :: (List.replicate (-(exponent + digits.length)).toNat 48 ++ digits), [], by simp, ?_⟩, ?_⟩
    · intro rest follows
      obtain ⟨noDigit, -⟩ := follows.stops
      refine ⟨by simp [isDigit], readFraction_point (by simp [nonempty]) ?_ noDigit,
        noPower rest follows⟩
      intro unit member
      rcases List.mem_append.mp member with zero | digit
      · exact zeros_digits _ unit zero
      · exact each unit digit
    · have zero : digitsValue [48] = 0 := rfl
      rw [digitsValue_append, digitsValue_append, digitsValue_zeros, zero, value,
        List.length_append, List.length_replicate]
      simp only [zero_mul, zero_add]
      congr 2
      omega
  · -- one digit and an exponent
    refine ⟨digits, [], exponent + digits.length - 1, ⟨each, nonempty, fun _ => single,
      [], powerText (exponent + digits.length - 1), by simp, ?_⟩, ?_⟩
    · intro rest follows
      obtain ⟨noDigit, -⟩ := follows.stops
      exact ⟨powerStop _ rest, by simp [readFraction, powerText, expect],
        readExponent_power _ noDigit⟩
    · rw [List.append_nil, value, single]
      simp
  · -- a point after the first digit, and an exponent
    obtain ⟨nonemptyFront, leading⟩ := front 1 (by omega)
    refine ⟨digits.take 1, digits.drop 1, exponent + digits.length - 1,
      ⟨part 1, nonemptyFront, leading, 46 :: digits.drop 1,
      powerText (exponent + digits.length - 1), by simp, ?_⟩, ?_⟩
    · intro rest follows
      obtain ⟨noDigit, -⟩ := follows.stops
      refine ⟨by simp [isDigit], readFraction_point ?_ (later 1) (powerStop _ rest),
        readExponent_power _ noDigit⟩
      rw [Ne, List.drop_eq_nil_iff]
      omega
    · rw [List.take_append_drop, value, List.length_drop]
      congr 2
      omega

/-! ## Reading a number back -/

/-- Every double is a multiple of the smallest one. -/
theorem IsDouble.multiple {value : ℚ} (double : IsDouble value) :
    ∃ multiple : ℤ, value = multiple * 2 ^ (-1074 : ℤ) := by
  have above : -1074 ≤ Binary64.lastBit value := le_max_right _ _
  obtain ⟨shift, same⟩ := Int.eq_ofNat_of_zero_le (sub_nonneg.mpr above)
  refine ⟨Binary64.roundHalfEven (value / 2 ^ Binary64.lastBit value) * 2 ^ shift, ?_⟩
  have exponent : Binary64.lastBit value = shift + -1074 := by
    rw [← same]
    ring
  conv_lhs => rw [← double.1, Binary64.round]
  conv_lhs => rhs; rw [exponent, zpow_add₀ (by norm_num)]
  push_cast
  rw [zpow_natCast, mul_assoc]

/-- The exact expansion of a double has at most as many places as its smallest bit. -/
theorem IsDouble.exact {value : ℚ} (double : IsDouble value) :
    (((|value| * 10 ^ 1074).num.toNat : ℕ) : ℚ) * 10 ^ (-1074 : ℤ) = |value| := by
  obtain ⟨multiple, same⟩ := double.multiple
  have whole : |value| * 10 ^ 1074 = ((|multiple| * 5 ^ 1074 : ℤ) : ℚ) := by
    rw [same, abs_mul, abs_of_pos (zpow_pos (show (0 : ℚ) < 2 by norm_num) _)]
    push_cast
    rw [show (10 : ℚ) = 2 * 5 by norm_num, mul_pow, zpow_neg]
    field_simp
  have nonnegative : (0 : ℤ) ≤ |multiple| * 5 ^ 1074 :=
    mul_nonneg (abs_nonneg _) (pow_nonneg (by norm_num) _)
  rw [whole, Rat.num_intCast]
  have size : ((|multiple| * 5 ^ 1074).toNat : ℚ) = ((|multiple| * 5 ^ 1074 : ℤ) : ℚ) := by
    exact_mod_cast Int.toNat_of_nonneg nonnegative
  rw [size, ← whole, zpow_neg]
  field_simp

/-- The chosen significand and exponent read back as the value. -/
theorem shortest_rounds {value : ℚ} (double : IsDouble value) :
    Binary64.round (if value < 0 then -(((shortest value).1 : ℚ) * 10 ^ (shortest value).2)
      else ((shortest value).1 : ℚ) * 10 ^ (shortest value).2) = value := by
  unfold shortest
  dsimp only
  generalize found : List.find? _ ((List.range' 1 17).flatMap (candidates |value|)) = candidate
  cases candidate with
  | some candidate => simpa using List.find?_some found
  | none =>
      rw [Option.getD_none, double.exact]
      have signed : (if value < 0 then -|value| else |value|) = value := by
        by_cases negative : value < 0
        · rw [if_pos negative, abs_of_neg negative, neg_neg]
        · rw [if_neg negative, abs_of_nonneg (not_lt.mp negative)]
      rw [signed]
      exact double.1

/-- The significand of a nonzero number is not zero. -/
theorem shortest_positive {value : ℚ} (double : IsDouble value) (nonzero : value ≠ 0) :
    0 < (shortest value).1 := by
  rcases Nat.eq_zero_or_pos (shortest value).1 with none | some
  · refine absurd ?_ nonzero
    rw [← shortest_rounds double, none]
    simp [Binary64.round, Binary64.roundHalfEven]
  · exact some

/-- A finite number's text reads back as the number. -/
theorem readNumber_numberText {value : ℚ} (double : IsDouble value) {rest : JsString}
    (follows : Follows rest) :
    readNumber (numberText value ++ rest) = some (.finite value, rest) := by
  unfold numberText
  by_cases zero : value = 0
  · subst zero
    exact readNumber_integer 0 (by decide) follows
  have rounds := shortest_rounds double
  have positive := shortest_positive double zero
  obtain ⟨whole, fraction, power, parts, denotes⟩ := layout_parts positive (shortest value).2
  have read := parts.read (value < 0) follows
  have number : decimal (value < 0) whole fraction power = .finite value := by
    unfold decimal
    simp only [denotes, decide_eq_true_eq, rounds, if_neg zero,
      if_neg (not_le.mpr double.2)]
  rw [if_neg zero]
  simpa [number] using read

/-- A number's text begins with a digit or a minus sign. -/
theorem numberText_head {value : ℚ} (double : IsDouble value) :
    ∃ head rest, numberText value = head :: rest ∧ (head = 45 ∨ isDigit head = true) := by
  unfold numberText
  by_cases zero : value = 0
  · exact ⟨48, [], by rw [if_pos zero], .inr (by decide)⟩
  rw [if_neg zero]
  by_cases negative : value < 0
  · exact ⟨45, _, by rw [if_pos negative, List.singleton_append], .inl rfl⟩
  have positive := shortest_positive double zero
  obtain ⟨whole, fraction, power, parts, -⟩ := layout_parts positive (shortest value).2
  obtain ⟨point, rest, text, -⟩ := parts.after
  obtain ⟨head, tail, start⟩ := List.exists_cons_of_ne_nil parts.nonempty
  refine ⟨head, tail ++ (point ++ rest), ?_, .inr (parts.digits head (by simp [start]))⟩
  rw [if_neg negative, text, start]
  rfl

/-- A printable ASCII character. -/
def Printable (unit : CodeUnit) : Prop := 32 ≤ unit.val ∧ unit.val < 128

instance (unit : CodeUnit) : Decidable (Printable unit) := inferInstanceAs (Decidable (_ ∧ _))

theorem printable_digit {unit : CodeUnit} (digit : isDigit unit = true) : Printable unit := by
  simp only [isDigit, Bool.and_eq_true, decide_eq_true_eq] at digit
  unfold Printable
  omega

/-- A number's text consists of printable ASCII characters. -/
theorem numberText_printable (value : ℚ) : ∀ unit ∈ numberText value, Printable unit := by
  have repr : ∀ number, ∀ unit ∈ js (Nat.repr number), Printable unit :=
    fun number unit member => printable_digit (js_repr_digits number unit member)
  have zeros : ∀ count, ∀ unit ∈ List.replicate count (48 : CodeUnit), Printable unit :=
    fun count unit member => printable_digit (zeros_digits count unit member)
  have taken : ∀ number count, ∀ unit ∈ (js (Nat.repr number)).take count, Printable unit :=
    fun number count unit member => repr number unit (List.mem_of_mem_take member)
  have dropped : ∀ number count, ∀ unit ∈ (js (Nat.repr number)).drop count, Printable unit :=
    fun number count unit member => repr number unit (List.mem_of_mem_drop member)
  have power : ∀ exponent, ∀ unit ∈ powerText exponent, Printable unit := by
    intro exponent
    unfold powerText
    split_ifs <;>
      exact List.forall_mem_cons.mpr ⟨by decide, List.forall_mem_cons.mpr ⟨by decide, repr _⟩⟩
  have points : ∀ significand exponent, ∀ unit ∈ layout significand exponent,
      Printable unit := by
    intro significand exponent
    unfold layout
    dsimp only
    split_ifs
    · exact List.forall_mem_append.mpr ⟨repr _, zeros _⟩
    · exact List.forall_mem_append.mpr
        ⟨taken _ _, List.forall_mem_cons.mpr ⟨by decide, dropped _ _⟩⟩
    · exact List.forall_mem_cons.mpr ⟨by decide, List.forall_mem_cons.mpr
        ⟨by decide, List.forall_mem_append.mpr ⟨zeros _, repr _⟩⟩⟩
    · exact List.forall_mem_append.mpr ⟨repr _, power _⟩
    · exact List.forall_mem_append.mpr ⟨List.forall_mem_append.mpr
        ⟨taken _ _, List.forall_mem_cons.mpr ⟨by decide, dropped _ _⟩⟩, power _⟩
  unfold numberText
  split_ifs
  · exact List.forall_mem_singleton.mpr (by decide)
  · exact List.forall_mem_cons.mpr ⟨by decide, points _ _⟩
  · exact points _ _

end Vasi.JsonText
