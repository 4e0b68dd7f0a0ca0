import Vasi.NumberText
import Vasi.Utf8

/-!
# Writing JSON text

JSON.stringify: a member whose value is undefined is left out, an undefined item
and a number that is not finite become null, and members stand in JavaScript's
property order. The text of a JSON value reads back as that value, contains no
control character, and contains another code unit above ASCII exactly where a
string or a key does.
-/
namespace Vasi.JsonText

open JsValue

/-- The text of a number. -/
def stringifyNumber : JsNumber → JsString
  | .finite value => numberText value
  | .negativeZero => [48]
  | .infinite _ | .nan => js "null"

mutual
/-- JSON.stringify; none is its undefined result. -/
def stringify : Value → Option JsString
  | .undefined => none
  | .null => some (js "null")
  | .bool true => some (js "true")
  | .bool false => some (js "false")
  | .number value => some (stringifyNumber value)
  | .string value => some (quote value)
  | .array items => some (91 :: (join [44] (itemTexts items) ++ [93]))
  | .object members =>
      some (123 :: (join [44] ((propertyOrder (memberTexts members)).map Prod.snd) ++ [125]))

/-- The texts of an array's items. -/
def itemTexts : List Value → List JsString
  | [] => []
  | item :: rest => (stringify item).getD (js "null") :: itemTexts rest

/-- The texts of an object's members, each with its key. -/
def memberTexts : Members → List (JsString × JsString)
  | [] => []
  | (key, value) :: rest =>
      match stringify value with
      | none => memberTexts rest
      | some text => (key, quote key ++ 58 :: text) :: memberTexts rest
end

mutual
/-- A value that JSON can carry: no undefined, only finite doubles, and objects
that list each key once, in the order in which JavaScript lists own keys. -/
def Json : Value → Prop
  | .undefined => False
  | .number (.finite value) => IsDouble value
  | .number _ => False
  | .array items => JsonItems items
  | .object members =>
      (members.map Prod.fst).Nodup ∧ propertyOrder members = members ∧ JsonMembers members
  | _ => True

def JsonItems : List Value → Prop
  | [] => True
  | item :: rest => Json item ∧ JsonItems rest

def JsonMembers : Members → Prop
  | [] => True
  | (_, value) :: rest => Json value ∧ JsonMembers rest
end

mutual
/-- The strings and the keys inside a value. -/
def strings : Value → List JsString
  | .string value => [value]
  | .array items => itemStrings items
  | .object members => memberStrings members
  | _ => []

def itemStrings : List Value → List JsString
  | [] => []
  | item :: rest => strings item ++ itemStrings rest

def memberStrings : Members → List JsString
  | [] => []
  | (key, value) :: rest => key :: (strings value ++ memberStrings rest)
end

/-! ## Texts that read back -/

/-- A text that reads as a value, whatever separator or closing mark follows it. -/
structure Reads (text : JsString) (value : Value) : Prop where
  head : ∃ unit rest, text = unit :: rest ∧ isWhitespace unit = false ∧ unit ≠ 93
  read : ∀ fuel rest, text.length ≤ fuel → Follows rest →
    readValue fuel (text ++ rest) = some (value, rest)

theorem Reads.skip {text : JsString} {value : Value} (reads : Reads text value)
    (rest : JsString) : skip (text ++ rest) = text ++ rest := by
  obtain ⟨unit, tail, rfl, visible, _⟩ := reads.head
  rw [List.cons_append, skip_cons visible]

theorem reads_literal {literal : JsString} {value : Value} {head : CodeUnit} {tail : JsString}
    (start : literal = head :: tail) (visible : isWhitespace head = false) (other : head ≠ 93)
    (read : ∀ fuel rest, Follows rest →
      readValue (fuel + 1) (literal ++ rest) = some (value, rest)) : Reads literal value where
  head := ⟨head, tail, start, visible, other⟩
  read := by
    intro fuel rest enough follows
    obtain ⟨fuel, rfl⟩ : ∃ less, fuel = less + 1 := by
      refine ⟨fuel - 1, ?_⟩
      rw [start, List.length_cons] at enough
      omega
    exact read fuel rest follows

theorem reads_null : Reads (js "null") .null :=
  reads_literal rfl (by decide) (by decide) fun fuel rest _ => by
    have head : (js "null" ++ rest).head? = some 110 := rfl
    have start : skip (js "null" ++ rest) = js "null" ++ rest := rfl
    rw [readValue, start]
    simp [head, expectAll_append]

theorem reads_true : Reads (js "true") (.bool true) :=
  reads_literal rfl (by decide) (by decide) fun fuel rest _ => by
    have head : (js "true" ++ rest).head? = some 116 := rfl
    have start : skip (js "true" ++ rest) = js "true" ++ rest := rfl
    rw [readValue, start]
    simp [head, expectAll_append]

theorem reads_false : Reads (js "false") (.bool false) :=
  reads_literal rfl (by decide) (by decide) fun fuel rest _ => by
    have head : (js "false" ++ rest).head? = some 102 := rfl
    have start : skip (js "false" ++ rest) = js "false" ++ rest := rfl
    rw [readValue, start]
    simp [head, expectAll_append]

theorem reads_number {value : ℚ} (double : IsDouble value) :
    Reads (numberText value) (.number (.finite value)) := by
  obtain ⟨head, tail, start, kind⟩ := numberText_head double
  have printable : Printable head := numberText_printable value head (by simp [start])
  have visible : isWhitespace head = false := by
    rcases kind with rfl | digit
    · decide
    · revert digit
      unfold Printable at printable
      simp only [isWhitespace, isDigit, Bool.and_eq_true, decide_eq_true_eq, Fin.ext_iff,
        Bool.or_eq_false_iff, decide_eq_false_iff_not]
      simp
      omega
  have other : ∀ mark : CodeUnit, mark ∈ ([34, 91, 93, 123, 110, 116, 102] : JsString) →
      head ≠ mark := by
    rintro mark listed rfl
    rcases kind with rfl | digit
    · revert listed
      decide
    · fin_cases listed <;> simp [isDigit] at digit
  refine reads_literal start visible (other 93 (by decide)) fun fuel rest follows => ?_
  have read := readNumber_numberText double follows
  rw [readValue, start, List.cons_append, skip_cons visible]
  rw [start, List.cons_append] at read
  simp [other 34 (by decide), other 91 (by decide), other 123 (by decide),
    other 110 (by decide), other 116 (by decide), other 102 (by decide), read]

theorem quote_shape (value rest : JsString) :
    quote value ++ rest = 34 :: (quoteBody value ++ 34 :: rest) := by
  have mark : js "\"" = [34] := by decide
  simp [quote, mark]

theorem reads_string (value : JsString) : Reads (quote value) (.string value) := by
  have start := quote_shape value []
  rw [List.append_nil] at start
  refine reads_literal start (by decide) (by decide) fun fuel rest follows => ?_
  rw [readValue, quote_shape, skip_cons (by decide)]
  simp [readString_quoteBody]

/-- Items between brackets read as the array of their values. -/
theorem readItems_reads {texts : List JsString} {items : List Value}
    (reads : List.Forall₂ Reads texts items) (nonempty : texts ≠ []) (fuel : ℕ)
    (rest : JsString) (enough : (join [44] texts).length + 1 ≤ fuel) :
    readItems fuel (join [44] texts ++ 93 :: rest) = some (items, rest) := by
  induction reads generalizing fuel with
  | nil => exact absurd rfl nonempty
  | @cons text item texts items first others inductionHypothesis =>
      obtain ⟨fuel, rfl⟩ : ∃ less, fuel = less + 1 := ⟨fuel - 1, by omega⟩
      cases others with
      | nil =>
          rw [join_single] at enough ⊢
          rw [readItems, first.read fuel (93 :: rest) (by omega) (follows_cons (by simp) rest)]
          simp [skip_cons (show isWhitespace 93 = false by decide),
            expect_other (show (93 : CodeUnit) ≠ 44 by decide)]
      | @cons next value texts items second others =>
          rw [join_more] at enough ⊢
          simp only [List.length_append, List.length_cons, List.length_nil] at enough
          obtain ⟨unit, tail, start, _⟩ := first.head
          have long : 1 ≤ text.length := by simp [start]
          have later := inductionHypothesis (by simp) fuel (by omega)
          rw [List.append_assoc, List.append_assoc, List.singleton_append, readItems,
            first.read fuel _ (by omega) (follows_cons (by simp) _)]
          simp [skip_cons (show isWhitespace 44 = false by decide), later]

theorem reads_array {texts : List JsString} {items : List Value}
    (reads : List.Forall₂ Reads texts items) :
    Reads (91 :: (join [44] texts ++ [93])) (.array items) where
  head := ⟨91, _, rfl, by decide, by decide⟩
  read := by
    intro fuel rest enough follows
    obtain ⟨fuel, rfl⟩ : ∃ less, fuel = less + 1 := by
      refine ⟨fuel - 1, ?_⟩
      rw [List.length_cons] at enough
      omega
    simp only [List.length_cons, List.length_append, List.length_nil] at enough
    rw [readValue, List.cons_append, skip_cons (by decide)]
    cases reads with
    | nil => simp [join, skip, isWhitespace, expect]
    | @cons text item texts items first others =>
        have read := readItems_reads (List.Forall₂.cons first others) (by simp) fuel rest
          (by omega)
        have unclosed : expect 93 (skip (join [44] (text :: texts) ++ 93 :: rest)) = none := by
          obtain ⟨unit, tail, start, visible, other⟩ := first.head
          cases texts with
          | nil => rw [join_single, start, List.cons_append, skip_cons visible, expect_other other]
          | cons next texts =>
              rw [join_more, start, List.cons_append, List.cons_append, skip_cons visible,
                expect_other other]
        simp [unclosed, read]

/-- A member's text: its quoted key, a colon and the text of its value. -/
def ReadsMember (text : JsString × JsString) (member : JsString × Value) : Prop :=
  text.1 = member.1 ∧ ∃ body, text.2 = quote member.1 ++ 58 :: body ∧ Reads body member.2

/-- Members between braces read in their order. -/
theorem readMembers_reads {texts : List (JsString × JsString)} {members : Members}
    (reads : List.Forall₂ ReadsMember texts members) (nonempty : texts ≠ []) (fuel : ℕ)
    (rest : JsString) (enough : (join [44] (texts.map Prod.snd)).length + 1 ≤ fuel) :
    readMembers fuel (join [44] (texts.map Prod.snd) ++ 125 :: rest) = some (members, rest) := by
  induction reads generalizing fuel with
  | nil => exact absurd rfl nonempty
  | @cons text member texts members first others inductionHypothesis =>
      obtain ⟨fuel, rfl⟩ : ∃ less, fuel = less + 1 := ⟨fuel - 1, by omega⟩
      obtain ⟨key, value⟩ := member
      obtain ⟨-, body, spelled, reads⟩ := first
      have quoted := congrArg List.length (quote_shape key [])
      simp only [List.length_append, List.length_cons, List.length_nil] at quoted
      cases others with
      | nil =>
          rw [List.map_cons, List.map_nil, join_single, spelled] at enough ⊢
          simp only [List.length_append, List.length_cons] at enough
          have read := reads.read fuel (125 :: rest) (by omega) (follows_cons (by simp) rest)
          rw [List.append_assoc, quote_shape, readMembers]
          simp [skip_cons (show isWhitespace 34 = false by decide), readString_quoteBody,
            skip_cons (show isWhitespace 58 = false by decide), read,
            skip_cons (show isWhitespace 125 = false by decide),
            expect_other (show (125 : CodeUnit) ≠ 44 by decide)]
      | @cons next nextMember texts members second others =>
          rw [List.map_cons, List.map_cons, join_more, ← List.map_cons, spelled] at enough ⊢
          simp only [List.length_append, List.length_cons, List.length_nil] at enough
          have later := inductionHypothesis (by simp) fuel (by omega)
          have read := reads.read fuel
            (44 :: (join [44] ((next :: texts).map Prod.snd) ++ 125 :: rest)) (by omega)
            (follows_cons (by simp) _)
          rw [List.append_assoc, List.append_assoc, quote_shape, readMembers]
          simp only [List.map_cons] at later read
          simp [skip_cons (show isWhitespace 34 = false by decide), readString_quoteBody,
            skip_cons (show isWhitespace 58 = false by decide), read,
            skip_cons (show isWhitespace 44 = false by decide), later]

theorem reads_object {texts : List (JsString × JsString)} {members : Members}
    (reads : List.Forall₂ ReadsMember texts members) (distinct : (members.map Prod.fst).Nodup) :
    Reads (123 :: (join [44] (texts.map Prod.snd) ++ [125])) (.object members) where
  head := ⟨123, _, rfl, by decide, by decide⟩
  read := by
    intro fuel rest enough follows
    obtain ⟨fuel, rfl⟩ : ∃ less, fuel = less + 1 := by
      refine ⟨fuel - 1, ?_⟩
      rw [List.length_cons] at enough
      omega
    simp only [List.length_cons, List.length_append, List.length_nil] at enough
    rw [readValue, List.cons_append, skip_cons (by decide)]
    have created := createMembers_distinct distinct
    cases reads with
    | nil => simp [join, skip, isWhitespace, expect]
    | @cons text member texts members first others =>
        have read := readMembers_reads (List.Forall₂.cons first others) (by simp) fuel rest
          (by omega)
        have unclosed : expect 125 (skip (join [44] ((text :: texts).map Prod.snd) ++
            125 :: rest)) = none := by
          obtain ⟨-, body, spelled, -⟩ := first
          cases texts with
          | nil =>
              rw [List.map_cons, List.map_nil, join_single, spelled, List.append_assoc,
                quote_shape, skip_cons (by decide), expect_other (by decide)]
          | cons next texts =>
              rw [List.map_cons, List.map_cons, join_more, spelled, List.append_assoc,
                List.append_assoc, quote_shape, skip_cons (by decide), expect_other (by decide)]
        simp only [List.map_cons] at unclosed read ⊢
        simp [unclosed, read, created]

/-! ## Texts of JSON values -/

/-- Property order looks at the keys only. -/
theorem propertyOrder_forall₂ {α β : Type} {relation : JsString × α → JsString × β → Prop}
    (sameKey : ∀ left right, relation left right → left.1 = right.1)
    {left : List (JsString × α)} {right : List (JsString × β)}
    (related : List.Forall₂ relation left right) :
    List.Forall₂ relation (propertyOrder left) (propertyOrder right) := by
  have filtered : ∀ test : JsString → Bool, List.Forall₂ relation
      (left.filter fun entry => test entry.1) (right.filter fun entry => test entry.1) := by
    intro test
    induction related with
    | nil => exact .nil
    | cons first _ inductionHypothesis =>
        rw [List.filter_cons, List.filter_cons, sameKey _ _ first]
        split
        · exact .cons first inductionHypothesis
        · exact inductionHypothesis
  have sorted : ∀ {left : List (JsString × α)} {right : List (JsString × β)},
      List.Forall₂ relation left right → List.Forall₂ relation
        (left.insertionSort fun left right =>
          (arrayIndex? left.1).getD 0 ≤ (arrayIndex? right.1).getD 0)
        (right.insertionSort fun left right =>
          (arrayIndex? left.1).getD 0 ≤ (arrayIndex? right.1).getD 0) := by
    have inserted : ∀ {first second} {left : List (JsString × α)} {right : List (JsString × β)},
        relation first second → List.Forall₂ relation left right → List.Forall₂ relation
          (left.orderedInsert (fun left right =>
            (arrayIndex? left.1).getD 0 ≤ (arrayIndex? right.1).getD 0) first)
          (right.orderedInsert (fun left right =>
            (arrayIndex? left.1).getD 0 ≤ (arrayIndex? right.1).getD 0) second) := by
      intro first second left right same related
      induction related with
      | nil => exact .cons same .nil
      | cons head tail inductionHypothesis =>
          rw [List.orderedInsert_cons, List.orderedInsert_cons, sameKey _ _ head,
            sameKey _ _ same]
          split
          · exact .cons same (.cons head tail)
          · exact .cons head inductionHypothesis
    intro left right related
    induction related with
    | nil => exact .nil
    | cons head _ inductionHypothesis => exact inserted head inductionHypothesis
  exact List.rel_append (sorted (filtered fun key => (arrayIndex? key).isSome))
    (filtered fun key => (arrayIndex? key).isNone)

/-- A JSON value has a text, and the text reads as the value. -/
theorem stringify_reads (value : Value) :
    Json value → ∃ text, stringify value = some text ∧ Reads text value := by
  induction value using Value.induction
    (fun items => JsonItems items → List.Forall₂ Reads (itemTexts items) items)
    (fun members => JsonMembers members → List.Forall₂ ReadsMember (memberTexts members) members)
  case undefined => exact False.elim
  case null => exact fun _ => ⟨_, rfl, reads_null⟩
  case bool value =>
    intro _
    cases value with
    | true => exact ⟨_, rfl, reads_true⟩
    | false => exact ⟨_, rfl, reads_false⟩
  case number value =>
    intro json
    cases value with
    | finite value => exact ⟨_, rfl, reads_number json⟩
    | negativeZero => exact json.elim
    | infinite negative => exact json.elim
    | nan => exact json.elim
  case string value => exact fun _ => ⟨_, rfl, reads_string value⟩
  case array items inductionHypothesis =>
    intro json
    exact ⟨_, by rw [stringify], reads_array (inductionHypothesis json)⟩
  case object members inductionHypothesis =>
    rintro ⟨distinct, ordered, each⟩
    have reads := propertyOrder_forall₂ (fun _ _ related => related.1)
      (inductionHypothesis each)
    rw [ordered] at reads
    exact ⟨_, by rw [stringify], reads_object reads distinct⟩
  case noItem => exact .nil
  case item head rest first others json =>
    obtain ⟨text, written, reads⟩ := first json.1
    rw [itemTexts, written, Option.getD_some]
    exact .cons reads (others json.2)
  case noMember => exact .nil
  case member key value rest first others json =>
    obtain ⟨text, written, reads⟩ := first json.1
    rw [memberTexts, written]
    exact .cons ⟨rfl, text, rfl, reads⟩ (others json.2)

/-- JSON.parse inverts JSON.stringify on the values JSON can carry. -/
theorem parse_stringify {value : Value} (json : Json value) :
    (stringify value).bind parse = some value := by
  obtain ⟨text, written, reads⟩ := stringify_reads value json
  have read := reads.read text.length [] le_rfl follows_nil
  rw [List.append_nil] at read
  rw [written, Option.bind_some, parse, read]
  simp [skip]

/-! ## The characters of a text -/

/-- Printability of a given text is computed. -/
theorem printable_of_all {text : JsString}
    (all : (text.all fun unit => decide (Printable unit)) = true) :
    ∀ unit ∈ text, Printable unit := by simpa using all

theorem hexDigit_printable (value : ℕ) (small : value < 16) : Printable (hexDigit value) := by
  have each : ∀ digit < 16, Printable (hexDigit digit) := by decide
  exact each value small

theorem unicodeEscape_printable (unit : CodeUnit) :
    ∀ other ∈ unicodeEscape unit, Printable other := by
  have bound := unit.isLt
  simp only [unicodeEscape, List.forall_mem_cons, List.not_mem_nil, false_imp_iff, implies_true,
    and_true]
  exact ⟨by decide, by decide, hexDigit_printable _ (by omega), hexDigit_printable _ (by omega),
    hexDigit_printable _ (by omega), hexDigit_printable _ (by omega)⟩

/-- An escape is printable; what needs none stands for itself. -/
theorem escapeUnit_cases (unit : CodeUnit) :
    (escapeUnit unit = [unit] ∧ 32 ≤ unit.val) ∨
      ((∀ other ∈ escapeUnit unit, Printable other) ∧ unit.val < 128) := by
  by_cases short : unit ∈ ([8, 9, 10, 12, 13, 34, 92] : JsString)
  · right
    fin_cases short <;> exact ⟨printable_of_all (by decide), by decide⟩
  · have apart : ∀ value : CodeUnit, value ∈ ([8, 9, 10, 12, 13, 34, 92] : JsString) →
        unit.val ≠ value.val := fun value member same => short (Fin.ext same ▸ member)
    have plain : escapeUnit unit = if unit.val < 0x20 then unicodeEscape unit else [unit] := by
      unfold escapeUnit
      split <;> simp_all
    rw [plain]
    split
    · exact .inr ⟨unicodeEscape_printable unit, by omega⟩
    · exact .inl ⟨rfl, by omega⟩

theorem mem_escapeUnit {unit other : CodeUnit} (special : ¬ Printable unit) :
    unit ∈ escapeUnit other ↔ unit = other ∧ 128 ≤ unit.val := by
  unfold Printable at special
  rcases escapeUnit_cases other with ⟨plain, visible⟩ | ⟨printable, small⟩
  · rw [plain, List.mem_singleton]
    constructor
    · rintro rfl
      exact ⟨rfl, by omega⟩
    · exact And.left
  · constructor
    · intro member
      exact absurd (printable unit member) special
    · rintro ⟨rfl, large⟩
      omega

/-- Of the characters that are neither printable ASCII nor surrogates, a string
literal has those of its string, control characters excepted. -/
theorem mem_quoteBody {unit : CodeUnit} (special : ¬ Printable unit)
    (scalar : Utf8.isSurrogate unit = false) (value : JsString) :
    unit ∈ quoteBody value ↔ unit ∈ value ∧ 128 ≤ unit.val := by
  have apart : ∀ other : CodeUnit, (isHighSurrogate other || isLowSurrogate other) = true →
      unit ≠ other := by
    rintro other surrogate rfl
    rw [Utf8.isSurrogate, surrogate] at scalar
    cases scalar
  have escaped : ∀ other, unit ∉ unicodeEscape other :=
    fun other member => special (unicodeEscape_printable other unit member)
  induction value using quoteBody.induct with
  | case1 => simp [quoteBody]
  | case2 other lone =>
      rw [quoteBody, if_pos lone]
      simp [escaped, apart other lone]
  | case3 other plain =>
      rw [quoteBody, if_neg plain, mem_escapeUnit special, List.mem_singleton]
  | case4 other next rest pair inductionHypothesis =>
      obtain ⟨high, low⟩ : isHighSurrogate other = true ∧ isLowSurrogate next = true := by
        simpa using pair
      rw [quoteBody, if_pos pair]
      simp [apart other (by simp [high]), apart next (by simp [low]), inductionHypothesis]
  | case5 other next rest pair lone inductionHypothesis =>
      have later : unit ∈ quoteBody (next :: rest) ↔ unit ∈ next :: rest ∧ 128 ≤ unit.val :=
        inductionHypothesis
      rw [quoteBody, if_neg pair, if_pos lone, List.mem_append, later]
      simp [escaped, apart other lone]
  | case6 other next rest pair plain inductionHypothesis =>
      have later : unit ∈ quoteBody (next :: rest) ↔ unit ∈ next :: rest ∧ 128 ≤ unit.val :=
        inductionHypothesis
      rw [quoteBody, if_neg pair, if_neg plain, List.mem_append, later,
        mem_escapeUnit special, ← or_and_right, ← List.mem_cons]

/-- The characters of joined texts are theirs and the separator's. -/
theorem mem_join {unit separator : CodeUnit} (other : unit ≠ separator) (texts : List JsString) :
    unit ∈ join [separator] texts ↔ ∃ text ∈ texts, unit ∈ text := by
  induction texts with
  | nil => simp [join]
  | cons text texts inductionHypothesis =>
      cases texts with
      | nil => simp
      | cons next texts =>
          rw [join_more, List.mem_append, List.mem_append, inductionHypothesis]
          simp [other]

/-- The special characters of a JSON value's text are those of its strings and keys. -/
theorem mem_stringify {unit : CodeUnit} (special : ¬ Printable unit) (value : Value) :
    Json value → ∀ text, stringify value = some text →
      (unit ∈ text ↔ ∃ content ∈ strings value, unit ∈ quoteBody content) := by
  have apart : ∀ mark : CodeUnit, Printable mark → unit ≠ mark := by
    rintro mark printable rfl
    exact special printable
  have quoted : ∀ content, unit ∈ quote content ↔ unit ∈ quoteBody content := by
    intro content
    have mark : js "\"" = [34] := by decide
    simp [quote, mark, apart 34 (by decide)]
  induction value using Value.induction
    (fun items => JsonItems items →
      ((∃ text ∈ itemTexts items, unit ∈ text) ↔
        ∃ content ∈ itemStrings items, unit ∈ quoteBody content))
    (fun members => JsonMembers members →
      ((∃ text ∈ memberTexts members, unit ∈ text.2) ↔
        ∃ content ∈ memberStrings members, unit ∈ quoteBody content))
  case undefined => exact False.elim
  case null =>
    rintro _ _ ⟨⟩
    have none : unit ∉ js "null" := fun member =>
      special (printable_of_all (by decide) unit member)
    simp [none, strings]
  case bool value =>
    cases value with
    | true =>
        rintro _ _ ⟨⟩
        have none : unit ∉ js "true" := fun member =>
          special (printable_of_all (by decide) unit member)
        simp [none, strings]
    | false =>
        rintro _ _ ⟨⟩
        have none : unit ∉ js "false" := fun member =>
          special (printable_of_all (by decide) unit member)
        simp [none, strings]
  case number value =>
    intro json text written
    cases value with
    | finite value =>
        cases written
        have none : unit ∉ numberText value := fun member =>
          special (numberText_printable value unit member)
        simp [stringifyNumber, none, strings]
    | negativeZero => exact json.elim
    | infinite negative => exact json.elim
    | nan => exact json.elim
  case string value =>
    rintro _ _ ⟨⟩
    simp [quoted, strings]
  case array items inductionHypothesis =>
    intro json text written
    rw [stringify, Option.some.injEq] at written
    subst written
    rw [List.mem_cons, List.mem_append, mem_join (apart 44 (by decide)),
      inductionHypothesis json]
    simp [apart 91 (by decide), apart 93 (by decide), strings]
  case object members inductionHypothesis =>
    rintro ⟨-, -, each⟩ text written
    rw [stringify, Option.some.injEq] at written
    subst written
    have same : ∀ entry, entry ∈ propertyOrder (memberTexts members) ↔
        entry ∈ memberTexts members :=
      fun entry => (propertyOrder_perm (memberTexts members)).mem_iff
    rw [List.mem_cons, List.mem_append, mem_join (apart 44 (by decide))]
    simp only [List.mem_map, exists_exists_and_eq_and, same, inductionHypothesis each]
    simp [apart 123 (by decide), apart 125 (by decide), strings]
  case noItem => simp [itemTexts, itemStrings]
  case item head rest first others json =>
    obtain ⟨text, written, _⟩ := stringify_reads head json.1
    have spelled := first json.1 text written
    simp only [itemTexts, written, Option.getD_some, List.exists_mem_cons_iff, spelled,
      others json.2, itemStrings, List.mem_append, or_and_right, exists_or]
  case noMember => simp [memberTexts, memberStrings]
  case member key value rest first others json =>
    obtain ⟨text, written, _⟩ := stringify_reads value json.1
    have spelled := first json.1 text written
    have named : unit ∈ quote key ++ 58 :: text ↔
        unit ∈ quoteBody key ∨ ∃ content ∈ strings value, unit ∈ quoteBody content := by
      rw [List.mem_append, quoted, List.mem_cons, spelled]
      simp [apart 58 (by decide)]
    simp only [memberTexts, written, List.exists_mem_cons_iff, named, others json.2,
      memberStrings, List.mem_append, or_and_right, exists_or, or_assoc]

/-! ## Surrogates of a text -/

theorem wellFormed_cons {unit : CodeUnit} (scalar : Utf8.isSurrogate unit = false)
    {text : JsString} (formed : Utf8.WellFormed text) : Utf8.WellFormed (unit :: text) := by
  have plain : isHighSurrogate unit = false := by
    rw [Utf8.isSurrogate, Bool.or_eq_false_iff] at scalar
    exact scalar.1
  cases text with
  | nil => exact scalar
  | cons next rest => simpa [Utf8.WellFormed, plain] using ⟨scalar, formed⟩

/-- Strings whose surrogates are paired stay so side by side. -/
theorem wellFormed_append {left right : JsString} (first : Utf8.WellFormed left)
    (second : Utf8.WellFormed right) : Utf8.WellFormed (left ++ right) := by
  induction left using Utf8.WellFormed.induct with
  | case1 => exact second
  | case2 unit => exact wellFormed_cons first second
  | case3 unit next rest pair inductionHypothesis =>
      rw [Utf8.WellFormed, if_pos pair] at first
      rw [List.cons_append, List.cons_append, Utf8.WellFormed, if_pos pair]
      exact inductionHypothesis first
  | case4 unit next rest lone inductionHypothesis =>
      rw [Utf8.WellFormed, if_neg lone] at first
      exact wellFormed_cons first.1 (inductionHypothesis first.2)

theorem printable_scalar {unit : CodeUnit} (printable : Printable unit) :
    Utf8.isSurrogate unit = false := by
  unfold Printable at printable
  simp only [Utf8.isSurrogate, isHighSurrogate, isLowSurrogate, Bool.or_eq_false_iff,
    Bool.and_eq_false_iff, decide_eq_false_iff_not]
  omega

theorem wellFormed_printable {text : JsString} (printable : ∀ unit ∈ text, Printable unit) :
    Utf8.WellFormed text := by
  induction text with
  | nil => trivial
  | cons unit text inductionHypothesis =>
      rw [List.forall_mem_cons] at printable
      exact wellFormed_cons (printable_scalar printable.1) (inductionHypothesis printable.2)

/-- A string literal escapes the surrogates that are not paired. -/
theorem wellFormed_quoteBody (value : JsString) : Utf8.WellFormed (quoteBody value) := by
  have plain : ∀ unit : CodeUnit, ¬ (isHighSurrogate unit || isLowSurrogate unit) = true →
      Utf8.WellFormed (escapeUnit unit) := by
    intro unit scalar
    rcases escapeUnit_cases unit with ⟨itself, _⟩ | ⟨printable, _⟩
    · rw [itself]
      exact wellFormed_cons (by simpa [Utf8.isSurrogate] using scalar) trivial
    · exact wellFormed_printable printable
  have escaped : ∀ unit, Utf8.WellFormed (unicodeEscape unit) :=
    fun unit => wellFormed_printable (unicodeEscape_printable unit)
  induction value using quoteBody.induct with
  | case1 => trivial
  | case2 unit lone =>
      rw [quoteBody, if_pos lone]
      exact escaped unit
  | case3 unit scalar =>
      rw [quoteBody, if_neg scalar]
      exact plain unit scalar
  | case4 unit next rest pair inductionHypothesis =>
      rw [quoteBody, if_pos pair, Utf8.WellFormed, if_pos pair]
      exact inductionHypothesis
  | case5 unit next rest pair lone inductionHypothesis =>
      rw [quoteBody, if_neg pair, if_pos lone]
      exact wellFormed_append (escaped unit) inductionHypothesis
  | case6 unit next rest pair scalar inductionHypothesis =>
      rw [quoteBody, if_neg pair, if_neg scalar]
      exact wellFormed_append (plain unit scalar) inductionHypothesis

theorem wellFormed_quote (value : JsString) : Utf8.WellFormed (quote value) := by
  have mark : js "\"" = [34] := by decide
  rw [quote, mark]
  exact wellFormed_append (wellFormed_append (wellFormed_printable (printable_of_all (by decide)))
    (wellFormed_quoteBody value)) (wellFormed_printable (printable_of_all (by decide)))

theorem wellFormed_join {texts : List JsString} (formed : ∀ text ∈ texts, Utf8.WellFormed text) :
    Utf8.WellFormed (join [44] texts) := by
  induction texts with
  | nil => trivial
  | cons text texts inductionHypothesis =>
      rw [List.forall_mem_cons] at formed
      cases texts with
      | nil => simpa using formed.1
      | cons next texts =>
          rw [join_more]
          exact wellFormed_append formed.1 (wellFormed_cons (by decide)
            (inductionHypothesis formed.2))

/-- The text of any value is well-formed, so its UTF-8 bytes decode to it. -/
theorem wellFormed_stringify (value : Value) :
    ∀ text, stringify value = some text → Utf8.WellFormed text := by
  have literal : ∀ {text : JsString}, (text.all fun unit => decide (Printable unit)) = true →
      Utf8.WellFormed text := fun all => wellFormed_printable (printable_of_all all)
  induction value using Value.induction
    (fun items => ∀ text ∈ itemTexts items, Utf8.WellFormed text)
    (fun members => ∀ text ∈ memberTexts members, Utf8.WellFormed text.2)
  case undefined => rintro _ ⟨⟩
  case null =>
    rintro _ ⟨⟩
    exact literal (by decide)
  case bool value =>
    cases value with
    | true =>
        rintro _ ⟨⟩
        exact literal (by decide)
    | false =>
        rintro _ ⟨⟩
        exact literal (by decide)
  case number value =>
    rintro _ ⟨⟩
    cases value with
    | finite value => exact wellFormed_printable (numberText_printable value)
    | negativeZero => exact literal (by decide)
    | infinite negative => exact literal (show ((js "null").all _) = true by decide)
    | nan => exact literal (by decide)
  case string value =>
    rintro _ ⟨⟩
    exact wellFormed_quote value
  case array items inductionHypothesis =>
    intro text written
    rw [stringify, Option.some.injEq] at written
    subst written
    exact wellFormed_cons (by decide) (wellFormed_append (wellFormed_join inductionHypothesis)
      (literal (by decide)))
  case object members inductionHypothesis =>
    intro text written
    rw [stringify, Option.some.injEq] at written
    subst written
    refine wellFormed_cons (by decide) (wellFormed_append (wellFormed_join ?_)
      (literal (by decide)))
    intro text member
    obtain ⟨entry, listed, rfl⟩ := List.mem_map.mp member
    exact inductionHypothesis entry ((propertyOrder_perm _).mem_iff.mp listed)
  case noItem text member => cases member
  case item head rest first others text member =>
    rw [itemTexts, List.mem_cons] at member
    rcases member with rfl | later
    · cases written : stringify head with
      | none => exact literal (by decide)
      | some text => exact first text written
    · exact others text later
  case noMember text member => cases member
  case member key value rest first others entry member =>
    cases written : stringify value with
    | none =>
        rw [memberTexts, written] at member
        exact others entry member
    | some text =>
        rw [memberTexts, written, List.mem_cons] at member
        rcases member with rfl | later
        · exact wellFormed_append (wellFormed_quote key)
            (wellFormed_cons (by decide) (first text written))
        · exact others entry later

end Vasi.JsonText
