import Vasi.ReleaseArchive

/-!
# Strict UTF-8

What a strict decoder accepts is the encoding of the text it reads: one
sequence of bytes stands for one scalar value, in its shortest form. A byte
order mark at the start is the only thing that decoding leaves out.
-/
namespace Vasi.FatalUtf8

open JsValue Utf8 ReleaseArchive

theorem unit_val {value : ℕ} (small : value < 65536) : (Fin.ofNat 65536 value).val = value :=
  Nat.mod_eq_of_lt small

theorem encode_unit {unit : CodeUnit} (plain : isSurrogate unit = false) (rest : JsString) :
    encode (unit :: rest) = encodeScalar unit.val ++ encode rest := by
  have single : isHighSurrogate unit = false := by
    simp only [isSurrogate, Bool.or_eq_false_iff] at plain
    exact plain.1
  cases rest with
  | nil => simp [encode, plain]
  | cons next rest => simp [encode, plain, single]

theorem encode_pair {high low : CodeUnit}
    (pair : (isHighSurrogate high && isLowSurrogate low) = true) (rest : JsString) :
    encode (high :: low :: rest) = encodeScalar (pairPoint high low) ++ encode rest := by
  rw [encode, if_pos pair]

/-- The code units of a scalar value are encoded by its bytes, whatever follows. -/
theorem encode_scalarUnits {point : ℕ} (scalar : IsScalar point) (rest : JsString) :
    encode (scalarUnits point ++ rest) = encodeScalar point ++ encode rest := by
  obtain ⟨bound, outside⟩ := scalar
  unfold scalarUnits
  split
  case isTrue small =>
    have value : (Fin.ofNat 65536 point).val = point := unit_val small
    generalize Fin.ofNat 65536 point = unit at value ⊢
    have plain : isSurrogate unit = false := by
      simp only [isSurrogate, isHighSurrogate, isLowSurrogate, value, Bool.or_eq_false_iff,
        Bool.and_eq_false_iff, decide_eq_false_iff_not]
      omega
    rw [List.singleton_append, encode_unit plain, value]
  case isFalse large =>
    have highValue : (Fin.ofNat 65536 (0xD800 + (point - 0x10000) / 0x400)).val =
        0xD800 + (point - 0x10000) / 0x400 := unit_val (by omega)
    have lowValue : (Fin.ofNat 65536 (0xDC00 + (point - 0x10000) % 0x400)).val =
        0xDC00 + (point - 0x10000) % 0x400 := unit_val (by omega)
    generalize Fin.ofNat 65536 (0xD800 + (point - 0x10000) / 0x400) = high at highValue ⊢
    generalize Fin.ofNat 65536 (0xDC00 + (point - 0x10000) % 0x400) = low at lowValue ⊢
    have pair : (isHighSurrogate high && isLowSurrogate low) = true := by
      simp only [isHighSurrogate, isLowSurrogate, highValue, lowValue, Bool.and_eq_true,
        decide_eq_true_eq]
      omega
    have whole : pairPoint high low = point := by
      unfold pairPoint
      rw [highValue, lowValue]
      omega
    rw [List.cons_append, List.singleton_append, encode_pair pair, whole]

/-- What the strict decoder has read when it stands between two sequences. -/
structure Opened (bytes : List Byte) (text : JsString) (point : ℕ) (later : JsString)
    (remaining : List Byte) : Prop where
  scalar : IsScalar point
  bytes : bytes = encodeScalar point ++ remaining
  text : text = scalarUnits point ++ later
  remaining : decodeFatalFrom none remaining = some later

/-- One step of the strict decoder. -/
theorem decodeFatalFrom_cons {pending : Option Pending} {byte : Byte} {rest : List Byte}
    {text : JsString} (read : decodeFatalFrom pending (byte :: rest) = some text) :
    ∃ units left later, advanceFatal pending byte = some (units, left) ∧
      decodeFatalFrom left rest = some later ∧ text = units ++ later := by
  have unfolded : (advanceFatal pending byte).bind (fun step =>
      (decodeFatalFrom step.2 rest).bind fun later => some (step.1 ++ later)) = some text := by
    cases pending <;> exact read
  obtain ⟨⟨units, left⟩, stepped, read⟩ := Option.bind_eq_some_iff.mp unfolded
  obtain ⟨later, read, same⟩ := Option.bind_eq_some_iff.mp read
  exact ⟨units, left, later, stepped, read, (Option.some.inj same).symm⟩

/-- A sequence that has been begun goes on with a byte in its range. -/
theorem decodeFatalFrom_pending {pending : Pending} {bytes : List Byte} {text : JsString}
    (read : decodeFatalFrom (some pending) bytes = some text) :
    ∃ byte rest, bytes = byte :: rest ∧ pending.lower ≤ byte.val ∧ byte.val ≤ pending.upper ∧
      ∃ later, decodeFatalFrom (advance (some pending) byte).2 rest = some later ∧
        text = (advance (some pending) byte).1 ++ later := by
  cases bytes with
  | nil => cases read
  | cons byte rest =>
      obtain ⟨units, left, later, stepped, tail, rfl⟩ := decodeFatalFrom_cons read
      simp only [advanceFatal] at stepped
      split at stepped
      case isTrue inside =>
        have same := Option.some.inj stepped
        exact ⟨byte, rest, rfl, inside.1, inside.2, later, by rw [same]; exact tail, by rw [same]⟩
      case isFalse => cases stepped

/-- A continuation byte that is not the last. -/
theorem decodeFatalFrom_continue {pending : Pending} {bytes : List Byte} {text : JsString}
    (more : pending.needed ≠ 1) (read : decodeFatalFrom (some pending) bytes = some text) :
    ∃ byte rest, bytes = byte :: rest ∧ pending.lower ≤ byte.val ∧ byte.val ≤ pending.upper ∧
      decodeFatalFrom (some ⟨pending.needed - 1, pending.point * 0x40 + (byte.val - 0x80),
        0x80, 0xBF⟩) rest = some text := by
  obtain ⟨byte, rest, rfl, above, below, later, tail, rfl⟩ := decodeFatalFrom_pending read
  have stepped : advance (some pending) byte = ([], some ⟨pending.needed - 1,
      pending.point * 0x40 + (byte.val - 0x80), 0x80, 0xBF⟩) := by
    simp only [advance, above, below, and_self, if_true, if_neg more]
  rw [stepped] at tail ⊢
  exact ⟨byte, rest, rfl, above, below, tail⟩

/-- The last continuation byte. -/
theorem decodeFatalFrom_complete {pending : Pending} {bytes : List Byte} {text : JsString}
    (last : pending.needed = 1) (read : decodeFatalFrom (some pending) bytes = some text) :
    ∃ byte rest, bytes = byte :: rest ∧ pending.lower ≤ byte.val ∧ byte.val ≤ pending.upper ∧
      ∃ later, decodeFatalFrom none rest = some later ∧
        text = scalarUnits (pending.point * 0x40 + (byte.val - 0x80)) ++ later := by
  obtain ⟨byte, rest, rfl, above, below, later, tail, rfl⟩ := decodeFatalFrom_pending read
  have stepped : advance (some pending) byte =
      (scalarUnits (pending.point * 0x40 + (byte.val - 0x80)), none) := by
    simp only [advance, above, below, and_self, if_true, if_pos last]
  rw [stepped] at tail
  exact ⟨byte, rest, rfl, above, below, later, tail, by rw [stepped]⟩

theorem byte_eq {byte : Byte} {value : ℕ} (same : byte.val = value) : byte = Fin.ofNat 256 value :=
  Fin.ext (by rw [Fin.val_ofNat, ← same, Nat.mod_eq_of_lt byte.isLt])

/-- The decoder reads one scalar value at a time. The cases are the four lengths
of a sequence. -/
theorem decodeFatalFrom_opened {byte : Byte} {rest : List Byte} {text : JsString}
    (read : decodeFatalFrom none (byte :: rest) = some text) :
    ∃ point later remaining, Opened (byte :: rest) text point later remaining := by
  obtain ⟨units, left, later, stepped, tail, rfl⟩ := decodeFatalFrom_cons read
  have small := byte.isLt
  by_cases one : byte.val < 0x80
  · have led : lead byte = (scalarUnits byte.val, none) := by
      rw [lead, if_pos one, scalarUnits, if_pos (by omega)]
    simp only [advanceFatal, one, true_or, if_true, led, Option.some.injEq, Prod.mk.injEq]
      at stepped
    obtain ⟨rfl, rfl⟩ := stepped
    refine ⟨byte.val, later, rest, ⟨by omega, by omega⟩, ?_, rfl, tail⟩
    rw [encodeScalar, if_pos one, ← byte_eq rfl, List.singleton_append]
  · simp only [advanceFatal] at stepped
    split at stepped
    case isFalse => cases stepped
    case isTrue allowed =>
      by_cases two : byte.val ≤ 0xDF
      · rw [lead, if_neg one, if_pos (by omega)] at stepped
        obtain ⟨rfl, rfl⟩ := Prod.mk.inj (Option.some.inj stepped)
        obtain ⟨second, rest, rfl, above, below, later, tail, same⟩ :=
          decodeFatalFrom_complete rfl tail
        dsimp only at above below same
        refine ⟨(byte.val - 0xC0) * 0x40 + (second.val - 0x80), later, rest,
          ⟨by omega, by omega⟩, ?_, by rw [same, List.nil_append], tail⟩
        rw [encodeScalar, if_neg (by omega), if_pos (by omega)]
        exact congrArg₂ List.cons (byte_eq (by omega))
          (congrArg₂ List.cons (byte_eq (by omega)) rfl)
      · have three := allowed.resolve_left one
        by_cases small : byte.val ≤ 0xEF
        · rw [lead, if_neg one, if_neg (by omega), if_pos (by omega)] at stepped
          obtain ⟨rfl, rfl⟩ := Prod.mk.inj (Option.some.inj stepped)
          obtain ⟨second, rest, rfl, above, below, tail⟩ :=
            decodeFatalFrom_continue (by simp only [ne_eq]; decide) tail
          obtain ⟨third, rest, rfl, least, most, later, tail, same⟩ :=
            decodeFatalFrom_complete rfl tail
          dsimp only at above below least most same
          have lower : byte.val = 0xE0 → 0xA0 ≤ second.val := fun first => by
            rwa [if_pos first] at above
          have upper : byte.val = 0xED → second.val ≤ 0x9F := fun first => by
            rwa [if_pos first] at below
          have low : 0x80 ≤ second.val := le_trans (by split <;> omega) above
          have high : second.val ≤ 0xBF := le_trans below (by split <;> omega)
          refine ⟨((byte.val - 0xE0) * 0x40 + (second.val - 0x80)) * 0x40 + (third.val - 0x80),
            later, rest, ⟨by omega, by omega⟩, ?_, by rw [same, List.nil_append], tail⟩
          rw [encodeScalar, if_neg (by omega), if_neg (by omega), if_pos (by omega)]
          exact congrArg₂ List.cons (byte_eq (by omega)) (congrArg₂ List.cons (byte_eq (by omega))
            (congrArg₂ List.cons (byte_eq (by omega)) rfl))
        · rw [lead, if_neg one, if_neg (by omega), if_neg (by omega), if_pos (by omega)]
            at stepped
          obtain ⟨rfl, rfl⟩ := Prod.mk.inj (Option.some.inj stepped)
          obtain ⟨second, rest, rfl, above, below, tail⟩ :=
            decodeFatalFrom_continue (by simp only [ne_eq]; decide) tail
          obtain ⟨third, rest, rfl, least, most, tail⟩ :=
            decodeFatalFrom_continue (by simp only [ne_eq]; decide) tail
          obtain ⟨fourth, rest, rfl, from4, to4, later, tail, same⟩ :=
            decodeFatalFrom_complete rfl tail
          dsimp only at above below least most from4 to4 same
          have lower : byte.val = 0xF0 → 0x90 ≤ second.val := fun first => by
            rwa [if_pos first] at above
          have upper : byte.val = 0xF4 → second.val ≤ 0x8F := fun first => by
            rwa [if_pos first] at below
          have low : 0x80 ≤ second.val := le_trans (by split <;> omega) above
          have high : second.val ≤ 0xBF := le_trans below (by split <;> omega)
          refine ⟨(((byte.val - 0xF0) * 0x40 + (second.val - 0x80)) * 0x40 +
            (third.val - 0x80)) * 0x40 + (fourth.val - 0x80),
            later, rest, ⟨by omega, by omega⟩, ?_, by rw [same, List.nil_append], tail⟩
          rw [encodeScalar, if_neg (by omega), if_neg (by omega), if_neg (by omega)]
          exact congrArg₂ List.cons (byte_eq (by omega)) (congrArg₂ List.cons (byte_eq (by omega))
            (congrArg₂ List.cons (byte_eq (by omega))
              (congrArg₂ List.cons (byte_eq (by omega)) rfl)))

/-- A strictly decoded text encodes to the bytes it was read from. The induction
is on the number of bytes. -/
theorem encode_decodeFatalFrom (bytes : List Byte) (text : JsString)
    (read : decodeFatalFrom none bytes = some text) : encode text = bytes := by
  induction length : bytes.length using Nat.strong_induction_on generalizing bytes text with
  | _ length inductionHypothesis =>
      cases bytes with
      | nil =>
          cases read
          rfl
      | cons byte rest =>
          obtain ⟨point, later, remaining, opened⟩ := decodeFatalFrom_opened read
          have shorter : remaining.length < (byte :: rest).length := by
            have long := (encodeScalar_length point).1
            rw [opened.bytes, List.length_append]
            omega
          have tail := inductionHypothesis remaining.length (by omega) remaining later
            opened.remaining rfl
          rw [opened.text, encode_scalarUnits opened.scalar, tail, opened.bytes]

/-- Encoding never gives fewer bytes than there are code units. -/
theorem length_le_encode (text : JsString) : text.length ≤ (encode text).length := by
  induction text using encode.induct with
  | case1 => rfl
  | case2 unit =>
      have long := (encodeScalar_length (if isSurrogate unit then 0xFFFD else unit.val)).1
      rw [encode]
      simpa using long
  | case3 unit next rest pair inductionHypothesis =>
      have long : 2 ≤ (encodeScalar (pairPoint unit next)).length := by
        have large : 0x10000 ≤ pairPoint unit next := by unfold pairPoint; omega
        rw [encodeScalar, if_neg (by omega), if_neg (by omega), if_neg (by omega)]
        simp
      rw [encode_pair pair, List.length_append, List.length_cons, List.length_cons]
      omega
  | case4 unit next rest pair inductionHypothesis =>
      have long := (encodeScalar_length (if isSurrogate unit then 0xFFFD else unit.val)).1
      rw [encode, if_neg pair, List.length_append, List.length_cons]
      omega

/-- A decoded text encodes to the bytes, less a byte order mark. -/
theorem decodeFatal_length {bytes : List Byte} {text : JsString}
    (read : decodeFatal bytes = some text) :
    (encode text).length ≤ bytes.length ∧ text.length ≤ bytes.length := by
  obtain ⟨whole, read, same⟩ := Option.map_eq_some_iff.mp read
  have encoded := encode_decodeFatalFrom bytes whole read
  have shorter : (encode text).length ≤ bytes.length := by
    split at same
    case h_1 rest =>
      rw [← same, ← encoded, encode_unit (by decide)]
      simp
    case h_2 => rw [← same, encoded]
  exact ⟨shorter, (length_le_encode text).trans shorter⟩

end Vasi.FatalUtf8
