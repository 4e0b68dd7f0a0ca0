import Vasi.JsValue

/-!
# UTF-8

The encoder writes the scalar values of a string, with the replacement character
for a lone surrogate. The decoder is the state machine of the encoding standard:
a lead byte opens a sequence with the range its next byte must fall into, and a
byte outside that range ends the sequence with a replacement character and is
then read as a lead byte itself. Decoding inverts encoding on strings without
lone surrogates.
-/
namespace Vasi.Utf8

open JsValue

/-- One byte. -/
abbrev Byte := Fin 256

instance byte_neZero : @NeZero ℕ Zero.ofOfNat0 256 := ⟨Nat.succ_ne_zero 255⟩

/-- The code units of a scalar value. -/
def scalarUnits (point : ℕ) : JsString :=
  if point < 0x10000 then [Fin.ofNat 65536 point]
  else
    [Fin.ofNat 65536 (0xD800 + (point - 0x10000) / 0x400),
     Fin.ofNat 65536 (0xDC00 + (point - 0x10000) % 0x400)]

/-- The bytes of a scalar value. -/
def encodeScalar (point : ℕ) : List Byte :=
  if point < 0x80 then [Fin.ofNat 256 point]
  else if point < 0x800 then
    [Fin.ofNat 256 (0xC0 + point / 0x40), Fin.ofNat 256 (0x80 + point % 0x40)]
  else if point < 0x10000 then
    [Fin.ofNat 256 (0xE0 + point / 0x1000), Fin.ofNat 256 (0x80 + point / 0x40 % 0x40),
     Fin.ofNat 256 (0x80 + point % 0x40)]
  else
    [Fin.ofNat 256 (0xF0 + point / 0x40000), Fin.ofNat 256 (0x80 + point / 0x1000 % 0x40),
     Fin.ofNat 256 (0x80 + point / 0x40 % 0x40), Fin.ofNat 256 (0x80 + point % 0x40)]

def isSurrogate (unit : CodeUnit) : Bool := isHighSurrogate unit || isLowSurrogate unit

/-- The scalar value of a surrogate pair. -/
def pairPoint (high low : CodeUnit) : ℕ :=
  0x10000 + (high.val - 0xD800) * 0x400 + (low.val - 0xDC00)

/-- The UTF-8 bytes of a string. -/
def encode : JsString → List Byte
  | [] => []
  | [unit] => encodeScalar (if isSurrogate unit then 0xFFFD else unit.val)
  | unit :: next :: rest =>
      if isHighSurrogate unit && isLowSurrogate next then
        encodeScalar (pairPoint unit next) ++ encode rest
      else encodeScalar (if isSurrogate unit then 0xFFFD else unit.val) ++ encode (next :: rest)

/-- Every surrogate of the string is part of a pair. -/
def WellFormed : JsString → Prop
  | [] => True
  | [unit] => isSurrogate unit = false
  | unit :: next :: rest =>
      if isHighSurrogate unit && isLowSurrogate next then WellFormed rest
      else isSurrogate unit = false ∧ WellFormed (next :: rest)

/-- An unfinished sequence: the bytes still needed, the bits read so far and the
range of the next byte. -/
structure Pending where
  needed : ℕ
  point : ℕ
  lower : ℕ
  upper : ℕ

/-- Reading a byte outside any sequence. -/
def lead (byte : Byte) : JsString × Option Pending :=
  if byte.val < 0x80 then ([Fin.ofNat 65536 byte.val], none)
  else if 0xC2 ≤ byte.val ∧ byte.val ≤ 0xDF then
    ([], some ⟨1, byte.val - 0xC0, 0x80, 0xBF⟩)
  else if 0xE0 ≤ byte.val ∧ byte.val ≤ 0xEF then
    ([], some ⟨2, byte.val - 0xE0, if byte.val = 0xE0 then 0xA0 else 0x80,
      if byte.val = 0xED then 0x9F else 0xBF⟩)
  else if 0xF0 ≤ byte.val ∧ byte.val ≤ 0xF4 then
    ([], some ⟨3, byte.val - 0xF0, if byte.val = 0xF0 then 0x90 else 0x80,
      if byte.val = 0xF4 then 0x8F else 0xBF⟩)
  else ([0xFFFD], none)

/-- Reading one byte: the code units it completes and the sequence it leaves. -/
def advance : Option Pending → Byte → JsString × Option Pending
  | none, byte => lead byte
  | some pending, byte =>
      if pending.lower ≤ byte.val ∧ byte.val ≤ pending.upper then
        let point := pending.point * 0x40 + (byte.val - 0x80)
        if pending.needed = 1 then (scalarUnits point, none)
        else ([], some ⟨pending.needed - 1, point, 0x80, 0xBF⟩)
      else (0xFFFD :: (lead byte).1, (lead byte).2)

/-- Decoding from a given state; an unfinished sequence is replaced at the end. -/
def decodeFrom : Option Pending → List Byte → JsString
  | none, [] => []
  | some _, [] => [0xFFFD]
  | pending, byte :: rest =>
      (advance pending byte).1 ++ decodeFrom (advance pending byte).2 rest

/-- The string that UTF-8 bytes stand for. -/
def decode (bytes : List Byte) : JsString := decodeFrom none bytes

/-! ## Decoding inverts encoding -/

/-- A scalar value is a code point that is not a surrogate. -/
def IsScalar (point : ℕ) : Prop := point < 0x110000 ∧ (point < 0xD800 ∨ 0xDFFF < point)

/-- A byte given by its value. -/
theorem byte_val {value : ℕ} (small : value < 256) : (Fin.ofNat 256 value).val = value :=
  Nat.mod_eq_of_lt small

/-- One step of the decoder on a byte of known value. -/
theorem decodeFrom_cons (pending : Option Pending) (byte : Byte) (rest : List Byte) :
    decodeFrom pending (byte :: rest) =
      (advance pending byte).1 ++ decodeFrom (advance pending byte).2 rest := by
  cases pending <;> rfl

/-- A continuation byte in range adds its six bits. -/
theorem advance_continue {pending : Pending} {value : ℕ} (small : value < 256)
    (above : pending.lower ≤ value) (below : value ≤ pending.upper) (more : pending.needed ≠ 1) :
    advance (some pending) (Fin.ofNat 256 value) =
      ([], some ⟨pending.needed - 1, pending.point * 0x40 + (value - 0x80), 0x80, 0xBF⟩) := by
  simp only [advance, byte_val small, above, below, and_self, if_true, if_neg more]

/-- The last continuation byte in range completes the scalar value. -/
theorem advance_complete {pending : Pending} {value : ℕ} (small : value < 256)
    (above : pending.lower ≤ value) (below : value ≤ pending.upper) (last : pending.needed = 1) :
    advance (some pending) (Fin.ofNat 256 value) =
      (scalarUnits (pending.point * 0x40 + (value - 0x80)), none) := by
  simp only [advance, byte_val small, above, below, and_self, if_true, if_pos last]

/-- The bytes of a scalar value decode to its code units, whatever follows. The
cases are the four lengths of a sequence. -/
theorem decodeFrom_encodeScalar {point : ℕ} (scalar : IsScalar point) (rest : List Byte) :
    decodeFrom none (encodeScalar point ++ rest) = scalarUnits point ++ decodeFrom none rest := by
  obtain ⟨bound, outside⟩ := scalar
  unfold encodeScalar
  split
  case isTrue small =>
    have opened : advance none (Fin.ofNat 256 point) = (scalarUnits point, none) := by
      rw [advance, lead, byte_val (by omega), if_pos small, scalarUnits, if_pos (by omega)]
    rw [List.singleton_append, decodeFrom_cons, opened]
  case isFalse large =>
    split
    case isTrue small =>
      have opened : advance none (Fin.ofNat 256 (0xC0 + point / 0x40)) =
          ([], some ⟨1, point / 0x40, 0x80, 0xBF⟩) := by
        rw [advance, lead, byte_val (by omega), if_neg (by omega), if_pos (by omega)]
        simp
      simp only [List.cons_append, List.nil_append]
      rw [decodeFrom_cons, opened, decodeFrom_cons,
        advance_complete (by omega) (by simp) (by dsimp only; omega) rfl]
      dsimp only
      rw [show point / 0x40 * 0x40 + (0x80 + point % 0x40 - 0x80) = point by omega]
      rfl
    case isFalse large =>
      split
      case isTrue small =>
        have opened : advance none (Fin.ofNat 256 (0xE0 + point / 0x1000)) =
            ([], some ⟨2, point / 0x1000, if point / 0x1000 = 0 then 0xA0 else 0x80,
              if point / 0x1000 = 13 then 0x9F else 0xBF⟩) := by
          rw [advance, lead, byte_val (by omega), if_neg (by omega), if_neg (by omega),
            if_pos (by omega)]
          simp [show 224 + point / 4096 = 237 ↔ point / 4096 = 13 by omega]
        simp only [List.cons_append, List.nil_append]
        rw [decodeFrom_cons, opened, decodeFrom_cons,
          advance_continue (by omega) (by dsimp only; split <;> omega)
            (by dsimp only; split <;> omega) (by simp),
          decodeFrom_cons, advance_complete (by omega) (by simp) (by dsimp only; omega) rfl]
        dsimp only
        rw [show (point / 0x1000 * 0x40 + (0x80 + point / 0x40 % 0x40 - 0x80)) * 0x40 +
          (0x80 + point % 0x40 - 0x80) = point by omega]
        rfl
      case isFalse large =>
        have opened : advance none (Fin.ofNat 256 (0xF0 + point / 0x40000)) =
            ([], some ⟨3, point / 0x40000, if point / 0x40000 = 0 then 0x90 else 0x80,
              if point / 0x40000 = 4 then 0x8F else 0xBF⟩) := by
          rw [advance, lead, byte_val (by omega), if_neg (by omega), if_neg (by omega),
            if_neg (by omega), if_pos (by omega)]
          simp [show 240 + point / 262144 = 244 ↔ point / 262144 = 4 by omega]
        simp only [List.cons_append, List.nil_append]
        rw [decodeFrom_cons, opened, decodeFrom_cons,
          advance_continue (by omega) (by dsimp only; split <;> omega)
            (by dsimp only; split <;> omega) (by simp),
          decodeFrom_cons, advance_continue (by omega) (by simp) (by dsimp only; omega) (by simp),
          decodeFrom_cons, advance_complete (by omega) (by simp) (by dsimp only; omega) rfl]
        dsimp only
        rw [show ((point / 0x40000 * 0x40 + (0x80 + point / 0x1000 % 0x40 - 0x80)) * 0x40 +
          (0x80 + point / 0x40 % 0x40 - 0x80)) * 0x40 + (0x80 + point % 0x40 - 0x80) = point by
            omega]
        rfl

/-- A code unit outside the surrogates is a scalar value. -/
theorem isScalar_unit {unit : CodeUnit} (plain : isSurrogate unit = false) :
    IsScalar unit.val := by
  have bound := unit.isLt
  simp only [isSurrogate, isHighSurrogate, isLowSurrogate, Bool.or_eq_false_iff,
    Bool.and_eq_false_iff, decide_eq_false_iff_not] at plain
  constructor <;> omega

/-- A surrogate pair is a scalar value with the pair as its code units. -/
theorem isScalar_pair {high low : CodeUnit}
    (pair : (isHighSurrogate high && isLowSurrogate low) = true) :
    IsScalar (pairPoint high low) ∧ scalarUnits (pairPoint high low) = [high, low] := by
  simp only [isHighSurrogate, isLowSurrogate, Bool.and_eq_true, decide_eq_true_eq] at pair
  obtain ⟨⟨_, _⟩, _, _⟩ := pair
  refine ⟨⟨by unfold pairPoint; omega, by unfold pairPoint; omega⟩, ?_⟩
  rw [scalarUnits, if_neg (by unfold pairPoint; omega)]
  refine congrArg₂ List.cons (Fin.ext ?_) (congrArg₂ List.cons (Fin.ext ?_) rfl)
  · change (0xD800 + (pairPoint high low - 0x10000) / 0x400) % 65536 = high.val
    unfold pairPoint
    omega
  · change (0xDC00 + (pairPoint high low - 0x10000) % 0x400) % 65536 = low.val
    unfold pairPoint
    omega

theorem scalarUnits_unit (unit : CodeUnit) : scalarUnits unit.val = [unit] := by
  rw [scalarUnits, if_pos unit.isLt]
  exact congrArg (fun same => [same]) (Fin.ext (Nat.mod_eq_of_lt unit.isLt))

/-- Decoding the bytes of a well-formed string gives the string. The recursion
is that of the encoder. -/
theorem decode_encode (text : JsString) (formed : WellFormed text) :
    decode (encode text) = text := by
  unfold decode
  induction text using encode.induct with
  | case1 => rfl
  | case2 unit =>
      have plain : isSurrogate unit = false := formed
      have read := decodeFrom_encodeScalar (isScalar_unit plain) []
      rw [List.append_nil] at read
      rw [encode, plain, if_neg (by simp), read, scalarUnits_unit]
      rfl
  | case3 unit next rest pair inductionHypothesis =>
      rw [WellFormed, if_pos pair] at formed
      rw [encode, if_pos pair, decodeFrom_encodeScalar (isScalar_pair pair).1,
        (isScalar_pair pair).2, inductionHypothesis formed]
      rfl
  | case4 unit next rest pair inductionHypothesis =>
      rw [WellFormed, if_neg pair] at formed
      rw [encode, if_neg pair, formed.1, if_neg (by simp),
        decodeFrom_encodeScalar (isScalar_unit formed.1), scalarUnits_unit,
        inductionHypothesis formed.2]
      rfl

/-- A code unit takes between one and three bytes. -/
theorem encodeScalar_length (point : ℕ) :
    1 ≤ (encodeScalar point).length ∧ (encodeScalar point).length ≤ 4 ∧
      (point < 0x10000 → (encodeScalar point).length ≤ 3) := by
  unfold encodeScalar
  split_ifs <;> refine ⟨by simp, by simp, fun small => ?_⟩ <;> first | omega | simp

theorem encodeScalar_unit_length (unit : CodeUnit) :
    (encodeScalar (if isSurrogate unit then 0xFFFD else unit.val)).length ≤ 3 := by
  refine (encodeScalar_length _).2.2 ?_
  have bound := unit.isLt
  split <;> omega

/-- The bytes of a string are at most three times as many as its code units. -/
theorem encode_length (text : JsString) : (encode text).length ≤ 3 * text.length := by
  induction text using encode.induct with
  | case1 => simp [encode]
  | case2 unit =>
      have single := encodeScalar_unit_length unit
      rw [encode, List.length_singleton]
      omega
  | case3 unit next rest pair inductionHypothesis =>
      have scalar := (encodeScalar_length (pairPoint unit next)).2.1
      rw [encode, if_pos pair, List.length_append, List.length_cons, List.length_cons]
      omega
  | case4 unit next rest pair inductionHypothesis =>
      have single := encodeScalar_unit_length unit
      rw [encode, if_neg pair, List.length_append, List.length_cons]
      omega

/-- Only the empty string has no bytes. -/
theorem encode_nonempty {text : JsString} (nonempty : text ≠ []) : 1 ≤ (encode text).length := by
  induction text using encode.induct with
  | case1 => exact absurd rfl nonempty
  | case2 unit =>
      rw [encode]
      exact (encodeScalar_length _).1
  | case3 unit next rest pair _ =>
      have scalar := (encodeScalar_length (pairPoint unit next)).1
      rw [encode, if_pos pair, List.length_append]
      omega
  | case4 unit next rest pair _ =>
      have scalar := (encodeScalar_length (if isSurrogate unit then 0xFFFD else unit.val)).1
      rw [encode, if_neg pair, List.length_append]
      omega

end Vasi.Utf8
