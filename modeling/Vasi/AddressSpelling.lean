import Vasi.ClientAddress
import Vasi.StoredConfiguration

/-!
# The spelling of addresses

Every address has one normal text: it is parsed to the same bytes and family, and two
addresses with one text agree in both. For version six the argument goes by the words
between the colons: a word is read back from its digits, a run of zeros is what the
double colon stands for, and the runtime's own check counts eight of them.
-/
namespace Vasi.ClientAddress

open JsValue Validation Utf8

/-! ## Texts -/

/-- No white space and no capital letter: such a text is its own candidate. -/
def Plain (text : JsString) : Prop :=
  ∀ unit ∈ text, isWhiteSpace unit = false ∧ isUpperLetter unit = false

theorem Plain.candidate {text : JsString} (plain : Plain text) :
    toLowerCase (trim text) = text := by
  have visible : text.any isWhiteSpace = false := by
    rw [List.any_eq_false]
    intro unit inside
    rw [(plain unit inside).1]
    exact Bool.false_ne_true
  rw [StoredConfiguration.trim_visible visible]
  refine (List.map_congr_left fun unit inside => ?_).trans text.map_id
  rw [lowerCase, if_neg (by rw [(plain unit inside).2]; exact Bool.false_ne_true), id]

theorem splitOn_join {separator : CodeUnit} {parts : List JsString}
    (apart : ∀ part ∈ parts, separator ∉ part) (some : parts ≠ []) :
    (join [separator] parts).splitOn separator = parts :=
  List.splitOn_intercalate separator apart some

theorem mem_join {separator : CodeUnit} {parts : List JsString} {unit : CodeUnit}
    (inside : unit ∈ join [separator] parts) :
    unit = separator ∨ ∃ part ∈ parts, unit ∈ part := by
  induction parts with
  | nil => simp [join] at inside
  | cons first rest inductionHypothesis =>
      cases rest with
      | nil =>
          exact .inr ⟨first, List.mem_singleton_self _, by simpa [join] using inside⟩
      | cons second others =>
          have same : join [separator] (first :: second :: others) =
              first ++ separator :: join [separator] (second :: others) := by
            simp [join, List.intersperse]
          rw [same, List.mem_append, List.mem_cons] at inside
          rcases inside with own | rfl | later
          · exact .inr ⟨first, List.mem_cons_self, own⟩
          · exact .inl rfl
          · rcases inductionHypothesis later with same | ⟨part, listed, own⟩
            · exact .inl same
            · exact .inr ⟨part, List.mem_cons_of_mem _ listed, own⟩

theorem join_cons_cons (separator : JsString) (first second : JsString) (rest : List JsString) :
    join separator (first :: second :: rest) =
      first ++ separator ++ join separator (second :: rest) := by
  simp [join, List.intersperse]

/-- A text without colons goes in front of the first piece. -/
theorem splitDoubleColon_part {part : JsString} (apart : colon ∉ part) (rest : JsString) :
    splitDoubleColon (part ++ rest) = (splitDoubleColon rest).modifyHead (part ++ ·) := by
  induction part with
  | nil =>
      rw [List.nil_append]
      cases splitDoubleColon rest <;> rfl
  | cons unit others inductionHypothesis =>
      rw [List.mem_cons, not_or] at apart
      have later := inductionHypothesis apart.2
      cases together : others ++ rest with
      | nil =>
          obtain ⟨rfl, rfl⟩ := List.append_eq_nil_iff.mp together
          rfl
      | cons next tail =>
          rw [List.cons_append, together, splitDoubleColon,
            if_neg (fun both => apart.1 both.1.symm), ← together, later, List.modifyHead_modifyHead]
          rfl

/-- The parts between single colons stay together. -/
theorem splitDoubleColon_join {parts : List JsString}
    (each : ∀ part ∈ parts, part ≠ [] ∧ colon ∉ part) (rest : JsString) :
    splitDoubleColon (join [colon] parts ++ rest) =
      (splitDoubleColon rest).modifyHead (join [colon] parts ++ ·) := by
  induction parts with
  | nil =>
      have nothing : join [colon] [] = [] := rfl
      rw [nothing, List.nil_append]
      cases splitDoubleColon rest <;> rfl
  | cons first others inductionHypothesis =>
      rw [List.forall_mem_cons] at each
      cases others with
      | nil => simpa [join] using splitDoubleColon_part each.1.2 rest
      | cons second more =>
          have later := inductionHypothesis each.2
          obtain ⟨unit, tail, shape⟩ : ∃ unit tail, join [colon] (second :: more) ++ rest =
              unit :: tail ∧ unit ≠ colon := by
            obtain ⟨filled, clear⟩ := (List.forall_mem_cons.mp each.2).1
            obtain ⟨unit, own, rfl⟩ := List.exists_cons_of_ne_nil filled
            refine ⟨unit, own ++ (join [colon] ((unit :: own) :: more) ++ rest).drop
              (own.length + 1), ?_, fun same => clear (by simp [same])⟩
            cases more <;> simp [join, List.intersperse]
          rw [join_cons_cons, List.append_assoc, List.append_assoc,
            splitDoubleColon_part each.1.2, List.singleton_append, shape.1, splitDoubleColon,
            if_neg (fun both => shape.2 both.2), ← shape.1, later, List.modifyHead_modifyHead,
            List.modifyHead_modifyHead]
          congr 1
          funext piece
          simp

/-! ## Dotted texts -/

theorem decimal_octet (byte : Byte) : isOctet (decimal byte.val) = true ∧
    Fin.ofNat 256 (JsonText.digitsValue (decimal byte.val)) = byte ∧
      ∀ unit ∈ decimal byte.val, isDigit unit = true := by
  have digits : ∀ unit ∈ decimal byte.val, isDigit unit = true :=
    JsonText.js_repr_digits byte.val
  have denotes : JsonText.digitsValue (decimal byte.val) = byte.val :=
    JsonText.digitsValue_repr byte.val
  have filled : decimal byte.val ≠ [] := JsonText.js_repr_nonempty byte.val
  have leading : (decimal byte.val).length = 1 ∨ (decimal byte.val).head? ≠ some 48 := by
    by_cases zero : (decimal byte.val).head? = some 48
    · exact .inl (JsonText.js_repr_leading byte.val zero)
    · exact .inr zero
  have within := byte.isLt
  refine ⟨?_, ?_, digits⟩
  · simp only [isOctet, denotes, Bool.and_eq_true, Bool.or_eq_true, decide_eq_true_eq,
      List.all_eq_true]
    exact ⟨⟨⟨filled, digits⟩, leading⟩, by omega⟩
  · rw [denotes]
    exact Fin.ofNat_val_eq_self byte

theorem digit_plain {unit : CodeUnit} (digit : isDigit unit = true) :
    unit ≠ dot ∧ unit ≠ colon ∧ unit ≠ percent ∧ isWhiteSpace unit = false ∧
      isUpperLetter unit = false := by
  simp only [isDigit, Bool.and_eq_true, decide_eq_true_eq] at digit
  simp only [isWhiteSpace, isUpperLetter, Bool.or_eq_false_iff, Bool.and_eq_false_iff,
    decide_eq_false_iff_not, List.mem_cons, List.not_mem_nil, or_false, ne_eq, Fin.ext_iff, dot,
    colon, percent]
  refine ⟨?_, ?_, ?_, by omega, by omega⟩
  · change ¬unit.val = 46
    omega
  · change ¬unit.val = 58
    omega
  · change ¬unit.val = 37
    omega

section Dotted

variable {bytes : List Byte} (four : bytes.length = 4)

include four

theorem dottedText_split :
    (dottedText bytes).splitOn dot = bytes.map fun byte => decimal byte.val := by
  refine splitOn_join (fun part listed => ?_) ?_
  · obtain ⟨byte, -, rfl⟩ := List.mem_map.mp listed
    exact fun inside => (digit_plain ((decimal_octet byte).2.2 _ inside)).1 rfl
  · rw [ne_eq, List.map_eq_nil_iff]
    rintro rfl
    cases four

theorem dottedText_isIP : isIP (dottedText bytes) = 4 := by
  have v4 : isIPv4 (dottedText bytes) = true := by
    rw [isIPv4, dottedText_split four, List.length_map, four, Bool.and_eq_true]
    refine ⟨by decide, ?_⟩
    rw [List.all_map, List.all_eq_true]
    exact fun byte _ => (decimal_octet byte).1
  rw [isIP, if_pos v4]

theorem dottedBytes_dottedText : dottedBytes (dottedText bytes) = bytes := by
  rw [dottedBytes, dottedText_split four, List.map_map]
  exact (List.map_congr_left fun byte _ => (decimal_octet byte).2.1).trans bytes.map_id

omit four in
theorem dottedText_plain : Plain (dottedText bytes) := by
  intro unit inside
  rcases mem_join inside with rfl | ⟨part, listed, own⟩
  · decide
  · obtain ⟨byte, -, rfl⟩ := List.mem_map.mp listed
    exact (digit_plain ((decimal_octet byte).2.2 _ own)).2.2.2

theorem parse_dottedText :
    parseAddress (dottedText bytes) = some ⟨bytes, .four, dottedText bytes⟩ := by
  simp only [parseAddress, dottedText_plain.candidate, dottedText_isIP four, if_true,
    dottedBytes_dottedText four]

end Dotted

/-! ## Words -/

/-- A hexadecimal digit as it is printed. -/
theorem hexDigit_group : ∀ value : Fin 16, isHexDigit (hexDigit value.val) = true ∧
    hexDigitValue (hexDigit value.val) = value.val ∧ hexDigit value.val ≠ dot ∧
      hexDigit value.val ≠ colon ∧ hexDigit value.val ≠ percent ∧
        isWhiteSpace (hexDigit value.val) = false ∧
          isUpperLetter (hexDigit value.val) = false := by decide

/-- The text of a word: a group that denotes it. -/
structure WordText (word : ℕ) (text : JsString) : Prop where
  group : isGroup text = true
  denotes : parseHex text = word
  clear : ∀ unit ∈ text, unit ≠ dot ∧ unit ≠ colon ∧ unit ≠ percent ∧
    isWhiteSpace unit = false ∧ isUpperLetter unit = false

theorem WordText.filled {word : ℕ} {text : JsString} (own : WordText word text) : text ≠ [] := by
  rintro rfl
  cases own.group

theorem hexText_word {word : ℕ} (small : word < 65536) : WordText word (hexText word) := by
  by_cases zero : word = 0
  · subst zero
    refine ⟨rfl, rfl, fun unit inside => ?_⟩
    obtain rfl := List.mem_singleton.mp inside
    decide
  · have digits : hexText word = (Nat.digits 16 word).reverse.map hexDigit := if_neg zero
    have each : ∀ digit ∈ Nat.digits 16 word, digit < 16 :=
      fun digit inside => Nat.digits_lt_base (by decide) inside
    have short : (Nat.digits 16 word).length ≤ 4 :=
      (Nat.digits_length_le_iff (by decide) word).mpr small
    have filled : 1 ≤ (Nat.digits 16 word).length :=
      List.length_pos_of_ne_nil (Nat.digits_ne_nil_iff_ne_zero.mpr zero)
    have printed : ∀ unit ∈ hexText word, ∃ value : Fin 16, unit = hexDigit value.val := by
      intro unit inside
      rw [digits] at inside
      obtain ⟨digit, listed, rfl⟩ := List.mem_map.mp inside
      exact ⟨⟨digit, each digit (List.mem_reverse.mp listed)⟩, rfl⟩
    refine ⟨?_, ?_, fun unit inside => ?_⟩
    · rw [isGroup, Bool.and_eq_true, Bool.and_eq_true, List.all_eq_true]
      refine ⟨⟨?_, ?_⟩, fun unit inside => ?_⟩
      · simpa [digits] using filled
      · simpa [digits] using short
      · obtain ⟨value, rfl⟩ := printed unit inside
        exact (hexDigit_group value).1
    · -- reading the digits from the left undoes the little-endian expansion
      have folded : ∀ list : List ℕ, (∀ digit ∈ list, digit < 16) →
          (list.map hexDigit).foldr (fun unit total => total * 16 + hexDigitValue unit) 0 =
            Nat.ofDigits 16 list := by
        intro list small
        induction list with
        | nil => rfl
        | cons digit rest inductionHypothesis =>
            rw [List.forall_mem_cons] at small
            rw [List.map_cons, List.foldr_cons, inductionHypothesis small.2, Nat.ofDigits_cons,
              (hexDigit_group ⟨digit, small.1⟩).2.1]
            exact Nat.add_comm _ _ |>.trans (by rw [Nat.mul_comm])
      rw [digits, parseHex, List.map_reverse, List.foldl_reverse, folded _ each,
        Nat.ofDigits_digits]
    · obtain ⟨value, rfl⟩ := printed unit inside
      exact (hexDigit_group value).2.2

theorem word_bytes (high low : Byte) :
    wordBytes ((high.val <<< 8) ||| low.val) = [high, low] ∧
      (high.val <<< 8) ||| low.val < 65536 := by
  have small := low.isLt
  have large := high.isLt
  have sum : (high.val <<< 8) ||| low.val = high.val * 256 + low.val := by
    rw [← Nat.shiftLeft_add_eq_or_of_lt (by exact small : low.val < 2 ^ 8), Nat.shiftLeft_eq]
  have top : (high.val * 256 + low.val) / 256 = high.val := by omega
  have bottom : (high.val * 256 + low.val) % 256 = low.val := by omega
  have masked : (high.val * 256 + low.val) &&& 255 = (high.val * 256 + low.val) % 2 ^ 8 :=
    Nat.and_two_pow_sub_one_eq_mod _ 8
  refine ⟨?_, by omega⟩
  rw [wordBytes, sum, masked, Nat.shiftRight_eq_div_pow]
  simp only [Nat.reducePow, top, bottom, Fin.ofNat_val_eq_self]

theorem wordsOf_length (bytes : List Byte) : (wordsOf bytes).length = bytes.length / 2 := by
  fun_induction wordsOf bytes with
  | case1 high low rest inductionHypothesis =>
      simp only [List.length_cons, inductionHypothesis]
      omega
  | case2 bytes short =>
      match bytes with
      | [] => rfl
      | [own] => simp
      | high :: low :: rest => exact (short high low rest rfl).elim

theorem wordsOf_small {bytes : List Byte} : ∀ word ∈ wordsOf bytes, word < 65536 := by
  fun_induction wordsOf bytes with
  | case1 high low rest inductionHypothesis =>
      exact List.forall_mem_cons.mpr ⟨(word_bytes high low).2, inductionHypothesis⟩
  | case2 bytes short =>
      intro word inside
      cases inside

/-- The words of an even number of bytes give the bytes back. -/
theorem wordsOf_bytes {bytes : List Byte} (even : bytes.length % 2 = 0) :
    (wordsOf bytes).flatMap wordBytes = bytes := by
  fun_induction wordsOf bytes with
  | case1 high low rest inductionHypothesis =>
      have others : rest.length % 2 = 0 := by
        simp only [List.length_cons] at even
        omega
      rw [List.flatMap_cons, (word_bytes high low).1, inductionHypothesis others]
      rfl
  | case2 bytes short =>
      match bytes with
      | [] => rfl
      | [own] => cases even
      | high :: low :: rest => exact (short high low rest rfl).elim

/-! ## Runs of zeros -/

/-- The run is there, when it has a length. -/
def IsRun (words : List JsString) (run : Run) : Prop :=
  run.length = 0 ∨ (2 ≤ run.length ∧
    (words.drop run.start).take run.length = List.replicate run.length (js "0"))

theorem longestRun_isRun (words : List JsString) (passes start : ℕ) {best : Run}
    (good : IsRun words best) : IsRun words (longestRun words passes start best) := by
  induction passes generalizing start best with
  | zero => exact good
  | succ passes inductionHypothesis =>
      rw [longestRun]
      split
      · exact good
      · rename_i word rest remaining
        split
        · exact inductionHypothesis _ good
        · refine inductionHypothesis _ ?_
          split
          · rename_i longer
            refine .inr ⟨longer.2, ?_⟩
            dsimp only
            rw [remaining, ← List.prefix_iff_eq_take.mp (List.takeWhile_prefix _)]
            refine List.eq_replicate_iff.mpr ⟨rfl, fun text inside => ?_⟩
            simpa using List.mem_takeWhile_imp inside
          · exact good

/-- The words before a run, the zeros of the run, and the words after it. -/
theorem IsRun.split {words : List JsString} {run : Run} (own : IsRun words run)
    (some : run.length ≠ 0) : 2 ≤ run.length ∧
      words = words.take run.start ++ (List.replicate run.length (js "0") ++
        words.drop (run.start + run.length)) := by
  obtain none | ⟨two, zeros⟩ := own
  · exact (some none).elim
  · refine ⟨two, ?_⟩
    rw [← zeros, ← List.drop_drop, List.take_append_drop, List.take_append_drop]

/-! ## Colon texts -/

/-- Texts of the given words. -/
def WordTexts (words : List ℕ) (texts : List JsString) : Prop := List.Forall₂ WordText words texts

theorem wordTexts_hexText {words : List ℕ} (small : ∀ word ∈ words, word < 65536) :
    WordTexts words (words.map hexText) := by
  induction words with
  | nil => exact .nil
  | cons word rest inductionHypothesis =>
      rw [List.forall_mem_cons] at small
      exact .cons (hexText_word small.1) (inductionHypothesis small.2)

namespace WordTexts

variable {words : List ℕ} {texts : List JsString} (own : WordTexts words texts)

include own

theorem each : ∀ text ∈ texts, ∃ word, WordText word text := by
  induction own with
  | nil => exact fun text inside => (List.not_mem_nil inside).elim
  | cons first rest inductionHypothesis =>
      exact List.forall_mem_cons.mpr ⟨⟨_, first⟩, inductionHypothesis⟩

theorem apart : ∀ text ∈ texts, text ≠ [] ∧ colon ∉ text := by
  intro text listed
  obtain ⟨word, own⟩ := own.each text listed
  exact ⟨own.filled, fun inside => (own.clear _ inside).2.1 rfl⟩

theorem joined_clear : ∀ unit ∈ join [colon] texts, unit ≠ dot ∧ unit ≠ percent ∧
    isWhiteSpace unit = false ∧ isUpperLetter unit = false := by
  intro unit inside
  rcases mem_join inside with rfl | ⟨text, listed, inside⟩
  · decide
  · obtain ⟨word, own⟩ := own.each text listed
    exact ⟨(own.clear _ inside).1, (own.clear _ inside).2.2⟩

theorem joined_ne_nil (some : texts ≠ []) : join [colon] texts ≠ [] := by
  obtain ⟨first, rest, rfl⟩ := List.exists_cons_of_ne_nil some
  have filled := (own.apart first List.mem_cons_self).1
  cases rest with
  | nil => simpa [join] using filled
  | cons second others =>
      rw [join_cons_cons]
      simp [filled]

theorem parseParts_eq : parseParts texts = some words := by
  induction own with
  | nil => rfl
  | @cons word text words texts first rest inductionHypothesis =>
      have undotted : dot ∉ text := fun inside => (first.clear _ inside).1 rfl
      rw [parseParts, if_neg undotted, if_pos first.group, inductionHypothesis, first.denotes]
      rfl

theorem countGroups_eq (dotted : Bool) : countGroups dotted texts = some words.length := by
  induction own with
  | nil => rfl
  | cons first rest inductionHypothesis =>
      rw [countGroups, if_pos first.group, inductionHypothesis]
      rfl

theorem parseIPv6Side_eq : parseIPv6Side (join [colon] texts) = some words := by
  by_cases none : texts = []
  · subst none
    cases own
    rfl
  · rw [parseIPv6Side, if_neg (own.joined_ne_nil none),
      splitOn_join (fun text listed => (own.apart text listed).2) none, own.parseParts_eq]

theorem sideGroups_eq (dotted : Bool) :
    sideGroups dotted (join [colon] texts) = some words.length := by
  by_cases none : texts = []
  · subst none
    cases own
    rfl
  · rw [sideGroups, if_neg (own.joined_ne_nil none),
      splitOn_join (fun text listed => (own.apart text listed).2) none, own.countGroups_eq]

theorem split_eq : splitDoubleColon (join [colon] texts) = [join [colon] texts] := by
  have split := splitDoubleColon_join own.apart []
  rw [List.append_nil] at split
  rw [split]
  simp [splitDoubleColon]

theorem split_double (right : JsString) :
    splitDoubleColon (join [colon] texts ++ [colon, colon] ++ right) =
      join [colon] texts :: splitDoubleColon right := by
  rw [List.append_assoc, splitDoubleColon_join own.apart]
  simp [splitDoubleColon]

end WordTexts

/-! ## Normal texts -/

/-- What a text between colons has to be for the runtime and for the parser. -/
structure ColonText (text : JsString) (words : List ℕ) : Prop where
  address : isIPv6Address text = true
  bytes : parseIPv6Bytes text = some (words.flatMap wordBytes)
  colons : colon ∈ text
  clear : ∀ unit ∈ text, unit ≠ dot ∧ unit ≠ percent ∧ isWhiteSpace unit = false ∧
    isUpperLetter unit = false

/-- Eight words between single colons. -/
theorem colonText_whole {words : List ℕ} {texts : List JsString} (own : WordTexts words texts)
    (eight : words.length = 8) : ColonText (join [colon] texts) words := by
  have some : texts ≠ [] := by
    rintro rfl
    cases own
    cases eight
  have parts := splitOn_join (fun text listed => (own.apart text listed).2) some
  refine ⟨?_, ?_, ?_, own.joined_clear⟩
  · rw [isIPv6Address, own.split_eq]
    dsimp only
    rw [parts, own.countGroups_eq, eight]
    rfl
  · simp only [parseIPv6Bytes, own.split_eq, List.headD_cons, own.parseIPv6Side_eq]
    simp [parseIPv6Side, eight]
  · have length := own.length_eq
    match texts, length with
    | first :: second :: rest, _ =>
        rw [join_cons_cons]
        simp
    | [], same => rw [eight] at same; cases same
    | [single], same => rw [eight] at same; cases same

/-- Words around a double colon that stands for some zeros. -/
theorem colonText_double {left right : List ℕ} {leftTexts rightTexts : List JsString}
    (before : WordTexts left leftTexts) (after : WordTexts right rightTexts) (zeros : ℕ)
    (some : 1 ≤ zeros) (eight : left.length + zeros + right.length = 8) :
    ColonText (join [colon] leftTexts ++ [colon, colon] ++ join [colon] rightTexts)
      (left ++ List.replicate zeros 0 ++ right) := by
  have split := before.split_double (join [colon] rightTexts)
  rw [after.split_eq] at split
  refine ⟨?_, ?_, by simp, ?_⟩
  · rw [isIPv6Address, split]
    simp only [before.sideGroups_eq, after.sideGroups_eq, decide_eq_true_eq]
    omega
  · have missing : (8 - (left.length : ℤ) - right.length) = zeros := by omega
    simp only [parseIPv6Bytes, split, List.headD_cons, before.parseIPv6Side_eq, List.length_cons,
      List.length_nil, List.getElem?_cons_succ, List.getElem?_cons_zero, Option.getD_some,
      after.parseIPv6Side_eq, missing, Int.toNat_natCast, Option.bind_eq_bind, Option.bind_some]
    rw [if_neg (by omega), if_neg (by omega), if_neg]
    rw [List.length_append, List.length_append, List.length_replicate]
    omega
  · intro unit inside
    rw [List.mem_append, List.mem_append] at inside
    rcases inside with (inside | inside) | inside
    · exact before.joined_clear unit inside
    · obtain rfl : unit = colon := by simpa using inside
      decide
    · exact after.joined_clear unit inside

/-- A colon text is an address of version six and its own candidate. -/
theorem ColonText.parse {text : JsString} {words : List ℕ} (own : ColonText text words) :
    isIP text = 6 ∧ toLowerCase (trim text) = text := by
  have undotted : dot ∉ text := fun inside => (own.clear _ inside).1 rfl
  have single : text.splitOn dot = [text] := List.splitOn_eq_singleton undotted
  have notFour : isIPv4 text = false := by
    rw [isIPv4, single]
    rfl
  have zoneless : ∀ unit ∈ text, decide (unit ≠ percent) = true :=
    fun unit inside => decide_eq_true (own.clear unit inside).2.1
  have six : isIPv6 text = true := by
    rw [isIPv6, List.takeWhile_eq_self_iff.mpr zoneless, own.address,
      List.dropWhile_eq_nil_iff.mpr zoneless]
    rfl
  refine ⟨by rw [isIP, if_neg (by rw [notFour]; exact Bool.false_ne_true), if_pos six],
    Plain.candidate fun unit inside => (own.clear unit inside).2.2⟩

theorem WordTexts.take {words : List ℕ} {texts : List JsString} (own : WordTexts words texts)
    (count : ℕ) : WordTexts (words.take count) (texts.take count) := List.forall₂_take count own

theorem WordTexts.drop {words : List ℕ} {texts : List JsString} (own : WordTexts words texts)
    (count : ℕ) : WordTexts (words.drop count) (texts.drop count) := List.forall₂_drop count own

/-- A zero is the only word with the text of zero. -/
theorem WordTexts.zeros {words : List ℕ} {count : ℕ}
    (own : WordTexts words (List.replicate count (js "0"))) : words = List.replicate count 0 := by
  induction count generalizing words with
  | zero =>
      cases own
      rfl
  | succ count inductionHypothesis =>
      rw [List.replicate_succ] at own ⊢
      obtain ⟨word, rest, first, others, rfl⟩ := List.forall₂_cons_right_iff.mp own
      rw [inductionHypothesis others, ← first.denotes]
      rfl

/-- The formatted words denote the words. -/
theorem formatWords_colonText {words : List ℕ} {texts : List JsString}
    (own : WordTexts words texts) (eight : words.length = 8) :
    ColonText (formatWords texts) words := by
  have run := longestRun_isRun texts texts.length 0 (.inl rfl : IsRun texts ⟨0, 0⟩)
  unfold formatWords
  dsimp only
  split
  · exact colonText_whole own eight
  · rename_i some
    obtain ⟨two, parts⟩ := run.split some
    generalize longestRun texts texts.length 0 ⟨0, 0⟩ = best at *
    -- the texts split as the words do, and the zeros of the run are zero words
    have middle : WordTexts ((words.drop best.start).take best.length)
        (List.replicate best.length (js "0")) := by
      have same : (texts.drop best.start).take best.length =
          List.replicate best.length (js "0") := by
        rcases run with none | ⟨-, zeros⟩
        · exact (some none).elim
        · exact zeros
      rw [← same]
      exact (own.drop _).take _
    have zeros := middle.zeros
    have shape : words = words.take best.start ++ List.replicate best.length 0 ++
        words.drop (best.start + best.length) := by
      rw [← zeros, List.append_assoc, ← List.drop_drop, List.take_append_drop,
        List.take_append_drop]
    have lengths := congrArg List.length shape
    simp only [List.length_append, List.length_replicate] at lengths
    have formatted := colonText_double (own.take best.start) (own.drop (best.start + best.length))
      best.length (by omega) (by omega)
    rwa [← shape] at formatted

/-- A normal text of version six gives its bytes back. -/
theorem parse_formatIPv6 {bytes : List Byte} (sixteen : bytes.length = 16)
    (unmapped : bytes.take 12 ≠ mappedStart) :
    parseAddress (formatIPv6 bytes) = some ⟨bytes, .six, formatIPv6 bytes⟩ := by
  have eight : (wordsOf bytes).length = 8 := by rw [wordsOf_length, sixteen]
  have text : ColonText (formatIPv6 bytes) (wordsOf bytes) :=
    formatWords_colonText (wordTexts_hexText wordsOf_small) eight
  have back := text.bytes
  rw [wordsOf_bytes (by rw [sixteen])] at back
  obtain ⟨version, candidate⟩ := text.parse
  simp only [parseAddress, candidate, version, back]
  simp [unmapped]

/-! ## Normalization -/

/-- The normal text of an address. -/
def Family.text : Family → List Byte → JsString
  | .four, bytes => dottedText bytes
  | .six, bytes => formatIPv6 bytes

def Family.width : Family → ℕ
  | .four => 4
  | .six => 16

/-- Bytes of the width of the family; no mapped address is left in version six. -/
structure ParsedAddress.Normal (address : ParsedAddress) : Prop where
  width : address.bytes.length = address.family.width
  unmapped : address.family = .six → address.bytes.take 12 ≠ mappedStart
  normalized : address.normalized = address.family.text address.bytes

theorem parseIPv6Bytes_length {value : JsString} {bytes : List Byte}
    (read : parseIPv6Bytes value = some bytes) : bytes.length = 16 := by
  unfold parseIPv6Bytes at read
  dsimp only at read
  split at read
  · cases read
  · obtain ⟨left, -, read⟩ := Option.bind_eq_some_iff.mp read
    obtain ⟨right, -, read⟩ := Option.bind_eq_some_iff.mp read
    split at read
    · cases read
    · split at read
      · cases read
      · rename_i eight
        rw [← Option.some.inj read, List.length_flatMap]
        have two : (fun word => (wordBytes word).length) = fun _ => 2 := rfl
        rw [two, List.map_const', List.sum_replicate_nat, not_not.mp eight]

/-- What has been parsed is normal. -/
theorem parseAddress_normal {text : JsString} {address : ParsedAddress}
    (parsed : parseAddress text = some address) : address.Normal := by
  unfold parseAddress at parsed
  dsimp only at parsed
  split at parsed
  · rename_i version
    obtain rfl := Option.some.inj parsed
    refine ⟨?_, nofun, rfl⟩
    have v4 : isIPv4 (toLowerCase (trim text)) = true := by
      by_contra other
      rw [isIP, if_neg other] at version
      split at version <;> cases version
    rw [isIPv4, Bool.and_eq_true, decide_eq_true_eq] at v4
    rw [dottedBytes, List.length_map, v4.1, Family.width]
  · split at parsed
    · cases parsed
    · obtain ⟨bytes, read, parsed⟩ := Option.bind_eq_some_iff.mp parsed
      have sixteen := parseIPv6Bytes_length read
      split at parsed
      · obtain rfl := Option.some.inj parsed
        exact ⟨by rw [List.length_drop, sixteen, Family.width], nofun, rfl⟩
      · rename_i unmapped
        obtain rfl := Option.some.inj parsed
        exact ⟨sixteen, fun _ => unmapped, rfl⟩

/-- The normal text is parsed to the same address. -/
theorem ParsedAddress.Normal.parse {address : ParsedAddress} (normal : address.Normal) :
    parseAddress address.normalized = some address := by
  obtain ⟨bytes, family, normalized⟩ := address
  obtain ⟨width, unmapped, same⟩ := normal
  dsimp only at width unmapped same
  subst same
  cases family with
  | four => exact parse_dottedText width
  | six => exact parse_formatIPv6 width (unmapped rfl)

/-- Two addresses have one text exactly when they agree in bytes and family. -/
theorem ParsedAddress.Normal.text_iff {first second : ParsedAddress} (one : first.Normal)
    (other : second.Normal) : first.normalized = second.normalized ↔
      first.bytes = second.bytes ∧ first.family = second.family := by
  constructor
  · intro same
    have both := one.parse
    rw [same, other.parse] at both
    obtain rfl := Option.some.inj both
    exact ⟨rfl, rfl⟩
  · rintro ⟨bytes, family⟩
    rw [one.normalized, other.normalized, bytes, family]

theorem identity_eq {text : JsString} {address : ParsedAddress}
    (parsed : parseAddress text = some address) :
    clientAddressRateLimitIdentity (some text) =
      clientAddressRateLimitIdentity (some address.normalized) := by
  simp only [clientAddressRateLimitIdentity, Option.bind_some, parsed,
    (parseAddress_normal parsed).parse]

end Vasi.ClientAddress
