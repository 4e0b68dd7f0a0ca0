import Vasi.EvidenceReports
import Vasi.TextLines
import Vasi.VerifierTotality

/-!
# The lines of a report

The text of a report has the lines of its template exactly when no value that a line shows
has a line break. The structured detail never has one inside a line: its strings are JSON
literals, which escape every control character.
-/
namespace Vasi.EvidenceReports

open JsValue Validation Coercion EvidenceVerifier
open CanonicalJson (canonicalJSON)
open JsonText (parse stringify)
open PrettyJson (prettyText)
open Productization (wholeNumber)

/-! ## The lines of the detail -/

theorem unbroken_iff {text : JsString} :
    Unbroken text ↔ (10 : CodeUnit) ∉ text ∧ (13 : CodeUnit) ∉ text := by
  have break_iff : ∀ unit : CodeUnit, isLineBreak unit = true ↔ unit = 10 ∨ unit = 13 := by
    intro unit
    simp [isLineBreak, Fin.ext_iff]
  unfold Unbroken
  rw [List.any_eq_false]
  simp only [break_iff, not_or]
  constructor
  · exact fun each => ⟨fun inside => (each _ inside).1 rfl, fun inside => (each _ inside).2 rfl⟩
  · rintro ⟨feed, return'⟩ unit inside
    exact ⟨fun same => feed (same ▸ inside), fun same => return' (same ▸ inside)⟩

theorem unbroken_append {first second : JsString} (left : Unbroken first)
    (right : Unbroken second) : Unbroken (first ++ second) := by
  unfold Unbroken at left right ⊢
  rw [List.any_append, left, right]
  rfl

theorem unbroken_printable {text : JsString}
    (printable : ∀ unit ∈ text, JsonText.Printable unit) : Unbroken text := by
  rw [unbroken_iff]
  exact ⟨fun inside => absurd (printable _ inside) (by decide),
    fun inside => absurd (printable _ inside) (by decide)⟩

/-- A string literal of JSON stays on one line. -/
theorem unbroken_quote (text : JsString) : Unbroken (quote text) := by
  have body : Unbroken (quoteBody text) := by
    rw [unbroken_iff, JsonText.mem_quoteBody (by decide) (by decide),
      JsonText.mem_quoteBody (by decide) (by decide)]
    exact ⟨fun both => absurd both.2 (by decide), fun both => absurd both.2 (by decide)⟩
  exact unbroken_append (unbroken_append (by decide) body) (by decide)

/-- The indentation at a depth. -/
def spaces : ℕ → JsString
  | 0 => []
  | depth + 1 => spaces depth ++ js "  "

theorem unbroken_spaces (depth : ℕ) : Unbroken (spaces depth) := by
  induction depth with
  | zero => rfl
  | succ depth inductionHypothesis => exact unbroken_append inductionHypothesis (by decide)

def indentation (depth : ℕ) : Piece := .label (spaces depth) (unbroken_spaces depth)

def comma : Piece := .label (js ",")

/-- A comma after the last line. -/
def withComma : List Line → List Line
  | [] => []
  | [line] => [line ++ [comma]]
  | line :: next :: rest => line :: withComma (next :: rest)

/-- The entries of a list, each indented at its first line. -/
def entryLines (depth : ℕ) : List (List Line) → List Line
  | [] => []
  | [entry] => entry.modifyHead (indentation depth :: ·)
  | entry :: next :: rest =>
      withComma (entry.modifyHead (indentation depth :: ·)) ++ entryLines depth (next :: rest)

/-- The lines of a list between its brackets. -/
def blockLines (opening closing : Piece) (depth : ℕ) (entries : List (List Line)) : List Line :=
  if entries = [] then [[opening, closing]]
  else [opening] :: (entryLines (depth + 1) entries ++ [[indentation depth, closing]])

mutual
/-- The lines of an indented value: its keys and its layout are labels. -/
def detailLines (depth : ℕ) : Value → Option (List Line)
  | .array items => some (blockLines (.label (js "[")) closeBracket
      depth (detailItems (depth + 1) items))
  | .object members =>
      some (blockLines (.label (js "\x7b")) (.label (js "\x7d")) depth
        ((propertyOrder (detailMembers (depth + 1) members)).map Prod.snd))
  | value => (stringify value).map fun text => [[.shown text]]

def detailItems (depth : ℕ) : List Value → List (List Line)
  | [] => []
  | item :: rest =>
      (detailLines depth item).getD [[.shown (js "null")]] :: detailItems depth rest

def detailMembers (depth : ℕ) : Members → List (JsString × List Line)
  | [] => []
  | (key, value) :: rest =>
      match detailLines depth value with
      | none => detailMembers depth rest
      | some lines =>
          (key, lines.modifyHead fun line =>
            .label (quote key) (unbroken_quote key) :: colon :: line) :: detailMembers depth rest
end

/-- The text of lines that follow one another. -/
def linesText (lines : List Line) : JsString := join [10] (lines.map lineText)

theorem linesText_cons {line : Line} {rest : List Line} (more : rest ≠ []) :
    linesText (line :: rest) = lineText line ++ [10] ++ linesText rest := by
  cases rest with
  | nil => exact absurd rfl more
  | cons next others =>
      rw [List.append_assoc]
      exact JsonText.join_more ..

theorem linesText_append {first second : List Line} (some : first ≠ []) (more : second ≠ []) :
    linesText (first ++ second) = linesText first ++ [10] ++ linesText second := by
  induction first with
  | nil => exact absurd rfl some
  | cons line rest inductionHypothesis =>
      cases rest with
      | nil =>
          have alone : linesText [line] = lineText line := JsonText.join_single ..
          rw [List.cons_append, List.nil_append, linesText_cons more, alone]
      | cons next others =>
          have later : linesText ((next :: others) ++ second) =
              linesText (next :: others) ++ [10] ++ linesText second :=
            inductionHypothesis (List.cons_ne_nil _ _)
          rw [List.cons_append, linesText_cons (by simp), later,
            linesText_cons (List.cons_ne_nil _ _)]
          simp only [List.append_assoc]

theorem lineText_cons (piece : Piece) (line : Line) :
    lineText (piece :: line) = piece.text ++ lineText line := rfl

theorem lineText_append (first second : Line) :
    lineText (first ++ second) = lineText first ++ lineText second := by
  unfold lineText
  rw [List.map_append, List.flatten_append]

theorem linesText_modifyHead {lines : List Line} (some : lines ≠ []) (pieces : Line) :
    linesText (lines.modifyHead (pieces ++ ·)) = lineText pieces ++ linesText lines := by
  cases lines with
  | nil => exact absurd rfl some
  | cons line rest =>
      rw [List.modifyHead_cons]
      cases rest with
      | nil =>
          show join [10] [lineText (pieces ++ line)] = _ ++ join [10] [lineText line]
          rw [JsonText.join_single, JsonText.join_single, lineText_append]
      | cons next others =>
          rw [linesText_cons (List.cons_ne_nil _ _), linesText_cons (List.cons_ne_nil _ _),
            lineText_append]
          simp only [List.append_assoc]

theorem withComma_ne_nil {lines : List Line} (some : lines ≠ []) : withComma lines ≠ [] := by
  cases lines with
  | nil => exact absurd rfl some
  | cons line rest =>
      cases rest with
      | nil => exact List.cons_ne_nil _ _
      | cons next others => exact List.cons_ne_nil _ _

theorem linesText_withComma {lines : List Line} (some : lines ≠ []) :
    linesText (withComma lines) = linesText lines ++ js "," := by
  induction lines with
  | nil => exact absurd rfl some
  | cons line rest inductionHypothesis =>
      cases rest with
      | nil =>
          show join [10] [lineText (line ++ [comma])] = join [10] [lineText line] ++ js ","
          rw [JsonText.join_single, JsonText.join_single, lineText_append]
          rfl
      | cons next others =>
          rw [withComma, linesText_cons (withComma_ne_nil (List.cons_ne_nil _ _)),
            inductionHypothesis (List.cons_ne_nil _ _), linesText_cons (List.cons_ne_nil _ _)]
          simp only [List.append_assoc]

theorem entryLines_ne_nil {depth : ℕ} {entries : List (List Line)} (some : entries ≠ [])
    (each : ∀ entry ∈ entries, entry ≠ []) : entryLines depth entries ≠ [] := by
  have indented : ∀ entry ∈ entries, entry.modifyHead (indentation depth :: ·) ≠ [] := by
    intro entry inside
    simpa using each entry inside
  cases entries with
  | nil => exact absurd rfl some
  | cons entry rest =>
      cases rest with
      | nil => exact indented entry List.mem_cons_self
      | cons next others =>
          rw [entryLines]
          simp [withComma_ne_nil (indented entry List.mem_cons_self)]

theorem linesText_entryLines {depth : ℕ} {entries : List (List Line)} (some : entries ≠ [])
    (each : ∀ entry ∈ entries, entry ≠ []) :
    linesText (entryLines depth entries) =
      spaces depth ++ join (js "," ++ [10] ++ spaces depth) (entries.map linesText) := by
  have indented : ∀ entry ∈ entries, linesText (entry.modifyHead (indentation depth :: ·)) =
      spaces depth ++ linesText entry := by
    intro entry inside
    have modified := linesText_modifyHead (each entry inside) [indentation depth]
    have alone : lineText [indentation depth] = spaces depth := List.append_nil _
    rw [alone] at modified
    exact modified
  have nonempty : ∀ entry ∈ entries, entry.modifyHead (indentation depth :: ·) ≠ [] := by
    intro entry inside
    simpa using each entry inside
  induction entries with
  | nil => exact absurd rfl some
  | cons entry rest inductionHypothesis =>
      rw [List.forall_mem_cons] at each indented nonempty
      cases rest with
      | nil =>
          rw [entryLines, indented.1, List.map_singleton, JsonText.join_single]
      | cons next others =>
          rw [entryLines, linesText_append (withComma_ne_nil nonempty.1)
            (entryLines_ne_nil (List.cons_ne_nil _ _) each.2), linesText_withComma nonempty.1,
            indented.1, inductionHypothesis (List.cons_ne_nil _ _) each.2 indented.2 nonempty.2,
            List.map_cons, List.map_cons, List.map_cons, JsonText.join_more, ← List.map_cons]
          simp only [List.append_assoc]

theorem linesText_single (line : Line) : linesText [line] = lineText line :=
  JsonText.join_single ..

/-- The lines between brackets are the text between brackets. -/
theorem linesText_blockLines {opening closing : Piece} {depth : ℕ} {entries : List (List Line)}
    (each : ∀ entry ∈ entries, entry ≠ []) :
    linesText (blockLines opening closing depth entries) =
      PrettyJson.block opening.text closing.text (spaces depth) (entries.map linesText) := by
  unfold blockLines PrettyJson.block
  by_cases some : entries = []
  · rw [if_pos some, if_pos (List.map_eq_nil_iff.mpr some), linesText_single]
    simp [lineText]
  · rw [if_neg some, if_neg (mt List.map_eq_nil_iff.mp some)]
    have bracket : lineText [opening] = opening.text := List.append_nil _
    have last : lineText [indentation depth, closing] = spaces depth ++ closing.text := by
      rw [lineText_cons, lineText_cons]
      exact congrArg _ (List.append_nil _)
    rw [linesText_cons (by simp), linesText_append (entryLines_ne_nil some each) (by simp),
      linesText_entryLines some each, linesText_single, bracket, last, spaces]
    simp only [List.append_assoc]

theorem blockLines_ne_nil {opening closing : Piece} {depth : ℕ} {entries : List (List Line)} :
    blockLines opening closing depth entries ≠ [] := by
  unfold blockLines
  split <;> exact List.cons_ne_nil _ _

/-- A list of lines that has a text. -/
def Tells (lines : List Line) (text : JsString) : Prop := lines ≠ [] ∧ linesText lines = text

/-- The lines of a value, if it has any, have its indented text. -/
def TellsValue (depth : ℕ) (value : Value) : Prop :=
  Option.Rel Tells (detailLines depth value) (prettyText (spaces depth) value)

theorem tells_scalar {depth : ℕ} {value : Value}
    (lines : detailLines depth value = (stringify value).map fun text => [[.shown text]])
    (text : prettyText (spaces depth) value = stringify value) : TellsValue depth value := by
  unfold TellsValue
  rw [lines, text]
  cases stringify value with
  | none => exact .none
  | some own =>
      refine .some ⟨List.cons_ne_nil _ _, ?_⟩
      rw [linesText_single]
      exact List.append_nil _

theorem tells_block {opening closing : Piece} {depth : ℕ} {entries : List (List Line)}
    {texts : List JsString} (each : List.Forall₂ Tells entries texts) :
    Tells (blockLines opening closing depth entries)
      (PrettyJson.block opening.text closing.text (spaces depth) texts) := by
  have told : (∀ entry ∈ entries, entry ≠ []) ∧ entries.map linesText = texts := by
    induction each with
    | nil => simp
    | cons first _ inductionHypothesis =>
        rw [List.forall_mem_cons, List.map_cons, first.2, inductionHypothesis.2]
        exact ⟨⟨first.1, inductionHypothesis.1⟩, rfl⟩
  exact ⟨blockLines_ne_nil, by rw [linesText_blockLines told.1, told.2]⟩

/-- The detail is written line by line. The induction is on the value, at every depth. -/
theorem detailLines_tell (value : Value) : ∀ depth, TellsValue depth value := by
  induction value using Value.induction
    (fun items => ∀ depth, List.Forall₂ Tells (detailItems depth items)
      (PrettyJson.prettyItems (spaces depth) items))
    (fun members => ∀ depth, List.Forall₂
      (fun (lines : JsString × List Line) (text : JsString × JsString) =>
        lines.1 = text.1 ∧ Tells lines.2 text.2)
      (detailMembers depth members) (PrettyJson.prettyMembers (spaces depth) members))
  case undefined => exact fun depth => tells_scalar rfl rfl
  case null => exact fun depth => tells_scalar rfl rfl
  case bool value => exact fun depth => tells_scalar rfl rfl
  case number value => exact fun depth => tells_scalar rfl rfl
  case string value => exact fun depth => tells_scalar rfl rfl
  case array items inductionHypothesis =>
    intro depth
    unfold TellsValue
    rw [detailLines, prettyText]
    exact .some (tells_block (inductionHypothesis (depth + 1)))
  case object members inductionHypothesis =>
    intro depth
    unfold TellsValue
    rw [detailLines, prettyText]
    have ordered := JsonText.propertyOrder_forall₂ (fun _ _ both => both.1)
      (inductionHypothesis (depth + 1))
    have each : List.Forall₂ Tells
        ((propertyOrder (detailMembers (depth + 1) members)).map Prod.snd)
        ((propertyOrder (PrettyJson.prettyMembers (spaces (depth + 1)) members)).map Prod.snd) :=
      List.forall₂_map_left_iff.mpr (List.forall₂_map_right_iff.mpr
        (ordered.imp fun _ _ both => both.2))
    exact .some (tells_block each)
  case noItem depth => exact .nil
  case item head rest headTells restTell depth =>
    rw [detailItems, PrettyJson.prettyItems]
    refine .cons ?_ (restTell depth)
    have here := headTells depth
    unfold TellsValue at here
    generalize detailLines depth head = lines at here ⊢
    generalize prettyText (spaces depth) head = text at here ⊢
    cases here with
    | none => exact ⟨List.cons_ne_nil _ _, linesText_single _⟩
    | some tells => exact tells
  case noMember depth => exact .nil
  case member key value rest valueTells restTell depth =>
    rw [detailMembers, PrettyJson.prettyMembers]
    have here := valueTells depth
    unfold TellsValue at here
    generalize detailLines depth value = lines at here ⊢
    generalize prettyText (spaces depth) value = text at here ⊢
    cases here with
    | none => exact restTell depth
    | some tells =>
        refine .cons ⟨rfl, by simpa using tells.1, ?_⟩ (restTell depth)
        have modified :=
          linesText_modifyHead tells.1 [.label (quote key) (unbroken_quote key), colon]
        dsimp only
        refine modified.trans ?_
        rw [tells.2]
        simp [lineText, Piece.text, colon]

/-! ## Reports and their lines -/

/-- The lines of the structured detail, if a report has one. -/
def detailTemplate : Option Value → Option (List Line)
  | none => some []
  | some detail => do
      let parsed ← detailValue detail
      let lines ← detailLines 0 parsed
      return [] :: [.label (js "STRUCTURED DETAIL")] :: lines

/-- A printed report of a record. -/
structure PrintedReport where
  localeCompare : JsString → JsString → ℤ
  record : Value
  profile : Profile
  context : Context
  built : reportContext localeCompare record = some context
  text : JsString
  printed : reportText (buildReport profile context) = some text

namespace PrintedReport

variable (report : PrintedReport)

/-- The lines before the structured detail. -/
def lines : List Line := (reportLines (buildReport report.profile report.context)).getD []

/-- The lines of the structured detail. -/
def detail : List Line :=
  (detailTemplate (buildReport report.profile report.context).detail).getD []

/-- Every line that the template of the report has. -/
def template : List Line := report.lines ++ report.detail

/-- The line labels: each line of the template with the values left out. -/
def lineLabels : List (List (Option JsString)) := report.template.map labels

/-- No value that a line shows has a line break. -/
def Unforged : Prop := ∀ line ∈ report.lines, ∀ text, .shown text ∈ line → Unbroken text

end PrintedReport

/-- The text has the labels of a line, in their order and with values between them. -/
def Carries (given : List (Option JsString)) (text : JsString) : Prop :=
  ∃ line : Line, labels line = given ∧ lineText line = text

theorem unbroken_line {line : Line} :
    Unbroken (lineText line) ↔ ∀ text, .shown text ∈ line → Unbroken text := by
  induction line with
  | nil => exact ⟨fun _ _ inside => (List.not_mem_nil inside).elim, fun _ => rfl⟩
  | cons piece rest inductionHypothesis =>
      have split : Unbroken (lineText (piece :: rest)) ↔
          Unbroken piece.text ∧ Unbroken (lineText rest) := by
        unfold Unbroken
        rw [lineText_cons, List.any_append, Bool.or_eq_false_iff]
      rw [split, inductionHypothesis]
      cases piece with
      | label text unbroken =>
          constructor
          · rintro ⟨-, later⟩ own inside
            rcases List.mem_cons.mp inside with same | there
            · cases same
            · exact later own there
          · exact fun each => ⟨unbroken, fun own inside =>
              each own (List.mem_cons_of_mem _ inside)⟩
      | shown text =>
          constructor
          · rintro ⟨here, later⟩ own inside
            rcases List.mem_cons.mp inside with same | there
            · rw [Piece.shown.inj same]
              exact here
            · exact later own there
          · exact fun each => ⟨each text List.mem_cons_self, fun own inside =>
              each own (List.mem_cons_of_mem _ inside)⟩

/-- The text of a scalar of the detail stays on one line. -/
theorem unbroken_stringify {value : Value} {text : JsString}
    (scalar : ∀ depth, detailLines depth value =
      (stringify value).map fun text => [[.shown text]])
    (written : stringify value = some text) : Unbroken text := by
  cases value with
  | undefined => cases written
  | null =>
      obtain rfl := Option.some.inj written
      decide
  | bool value =>
      cases value <;>
      · obtain rfl := Option.some.inj written
        decide
  | number number =>
      obtain rfl := Option.some.inj written
      cases number with
      | finite value => exact unbroken_printable (JsonText.numberText_printable value)
      | negativeZero => decide
      | infinite negative => exact (by decide : Unbroken (js "null"))
      | nan => decide
  | string value =>
      obtain rfl := Option.some.inj written
      exact unbroken_quote value
  | array items =>
      have other := scalar 0
      rw [detailLines, written] at other
      have same := Option.some.inj other
      unfold blockLines at same
      split at same <;> cases same
  | object members =>
      have other := scalar 0
      rw [detailLines, written] at other
      have same := Option.some.inj other
      unfold blockLines at same
      split at same <;> cases same

/-- Lines without a break inside. -/
def Whole (lines : List Line) : Prop := ∀ line ∈ lines, Unbroken (lineText line)

theorem whole_modifyHead {lines : List Line} (whole : Whole lines) {pieces : Line}
    (unbroken : Unbroken (lineText pieces)) : Whole (lines.modifyHead (pieces ++ ·)) := by
  cases lines with
  | nil => exact whole
  | cons line rest =>
      rw [Whole, List.forall_mem_cons] at whole
      rw [List.modifyHead_cons, Whole, List.forall_mem_cons, lineText_append]
      exact ⟨unbroken_append unbroken whole.1, whole.2⟩

theorem whole_withComma {lines : List Line} (whole : Whole lines) : Whole (withComma lines) := by
  induction lines with
  | nil => exact whole
  | cons line rest inductionHypothesis =>
      rw [Whole, List.forall_mem_cons] at whole
      cases rest with
      | nil =>
          rw [withComma, Whole, List.forall_mem_singleton, lineText_append]
          exact unbroken_append whole.1 (by decide)
      | cons next others =>
          rw [withComma, Whole, List.forall_mem_cons]
          exact ⟨whole.1, inductionHypothesis whole.2⟩

theorem unbroken_indentation (depth : ℕ) : Unbroken (lineText [indentation depth]) := by
  have alone : lineText [indentation depth] = spaces depth := List.append_nil _
  rw [alone]
  exact unbroken_spaces depth

theorem whole_entryLines {depth : ℕ} {entries : List (List Line)}
    (each : ∀ entry ∈ entries, Whole entry) : Whole (entryLines depth entries) := by
  have indented {entry : List Line} (whole : Whole entry) :
      Whole (entry.modifyHead (indentation depth :: ·)) :=
    whole_modifyHead whole (unbroken_indentation depth)
  induction entries with
  | nil => exact nofun
  | cons entry rest inductionHypothesis =>
      rw [List.forall_mem_cons] at each
      cases rest with
      | nil => exact indented each.1
      | cons next others =>
          rw [entryLines, Whole, List.forall_mem_append]
          exact ⟨whole_withComma (indented each.1), inductionHypothesis each.2⟩

theorem whole_blockLines {opening closing : Piece} {depth : ℕ} {entries : List (List Line)}
    (first : Unbroken opening.text) (last : Unbroken closing.text)
    (each : ∀ entry ∈ entries, Whole entry) :
    Whole (blockLines opening closing depth entries) := by
  have bracket {piece : Piece} (unbroken : Unbroken piece.text) : Unbroken (lineText [piece]) := by
    have alone : lineText [piece] = piece.text := List.append_nil _
    rw [alone]
    exact unbroken
  unfold blockLines
  split
  · rw [Whole, List.forall_mem_singleton]
    exact unbroken_append first (bracket last)
  · rw [Whole, List.forall_mem_cons, List.forall_mem_append, List.forall_mem_singleton]
    exact ⟨bracket first, whole_entryLines each,
      unbroken_append (unbroken_spaces depth) (bracket last)⟩

theorem whole_scalar {depth : ℕ} {value : Value} {lines : List Line}
    (scalar : ∀ depth, detailLines depth value =
      (stringify value).map fun text => [[.shown text]])
    (told : detailLines depth value = some lines) : Whole lines := by
  rw [scalar] at told
  obtain ⟨text, written, rfl⟩ := Option.map_eq_some_iff.mp told
  rw [Whole, List.forall_mem_singleton]
  have alone : lineText [.shown text] = text := List.append_nil _
  rw [alone]
  exact unbroken_stringify scalar written

/-- Every line of the detail stays on one line. -/
theorem detailLines_whole (value : Value) :
    ∀ depth lines, detailLines depth value = some lines → Whole lines := by
  induction value using Value.induction
    (fun items => ∀ depth, ∀ lines ∈ detailItems depth items, Whole lines)
    (fun members => ∀ depth, ∀ member ∈ detailMembers depth members, Whole member.2)
  case undefined => exact fun depth lines told => whole_scalar (fun _ => rfl) told
  case null => exact fun depth lines told => whole_scalar (fun _ => rfl) told
  case bool value => exact fun depth lines told => whole_scalar (fun _ => rfl) told
  case number value => exact fun depth lines told => whole_scalar (fun _ => rfl) told
  case string value => exact fun depth lines told => whole_scalar (fun _ => rfl) told
  case array items inductionHypothesis =>
    intro depth lines told
    rw [detailLines] at told
    obtain rfl := Option.some.inj told
    exact whole_blockLines (by decide) (by decide) (inductionHypothesis (depth + 1))
  case object members inductionHypothesis =>
    intro depth lines told
    rw [detailLines] at told
    obtain rfl := Option.some.inj told
    refine whole_blockLines (by decide) (by decide) fun entry inside => ?_
    obtain ⟨member, listed, rfl⟩ := List.mem_map.mp inside
    exact inductionHypothesis (depth + 1) member ((JsValue.propertyOrder_perm _).mem_iff.mp listed)
  case noItem depth lines inside =>
    rw [detailItems] at inside
    cases inside
  case item head rest headWhole restWhole depth lines inside =>
    rw [detailItems] at inside
    rcases List.mem_cons.mp inside with rfl | later
    · cases told : detailLines depth head with
      | none =>
          rw [Option.getD_none, Whole, List.forall_mem_singleton]
          decide
      | some own => exact headWhole depth own told
    · exact restWhole depth lines later
  case noMember depth member inside =>
    rw [detailMembers] at inside
    cases inside
  case member key value rest valueWhole restWhole depth member inside =>
    rw [detailMembers] at inside
    cases told : detailLines depth value with
    | none =>
        rw [told] at inside
        exact restWhole depth member inside
    | some own =>
        rw [told] at inside
        rcases List.mem_cons.mp inside with rfl | later
        · have keyed : Unbroken (lineText [.label (quote key) (unbroken_quote key), colon]) :=
            unbroken_append (unbroken_quote key) (by decide)
          exact whole_modifyHead (valueWhole depth own told) keyed
        · exact restWhole depth member later

/-! ## The text of a report -/

theorem linesText_printed {lines : List Line} (some : lines ≠ []) :
    linesText lines ++ [10] = TextLines.printed 10 (lines.map lineText) := by
  induction lines with
  | nil => exact absurd rfl some
  | cons line rest inductionHypothesis =>
      cases rest with
      | nil =>
          rw [linesText_single]
          simp [TextLines.printed]
      | cons next others =>
          rw [linesText_cons (List.cons_ne_nil _ _), List.append_assoc, List.append_assoc,
            inductionHypothesis (List.cons_ne_nil _ _)]
          simp [TextLines.printed]

theorem join_lines {first second : List JsString} (some : first ≠ []) (more : second ≠ []) :
    join [10] (first ++ second) = join [10] first ++ [10] ++ join [10] second := by
  induction first with
  | nil => exact absurd rfl some
  | cons text rest inductionHypothesis =>
      cases rest with
      | nil =>
          obtain ⟨next, others, rfl⟩ := List.exists_cons_of_ne_nil more
          rw [List.cons_append, List.nil_append, JsonText.join_more, JsonText.join_single,
            List.append_assoc]
      | cons next others =>
          rw [List.cons_append, List.cons_append, JsonText.join_more, JsonText.join_more,
            ← List.cons_append, inductionHypothesis (List.cons_ne_nil _ _)]
          simp only [List.append_assoc]

/-- The texts of the detail are those of its lines. -/
theorem detailTexts_template {detail : Option Value} {texts : List JsString}
    (told : detailTexts detail = some texts) :
    ∃ lines, detailTemplate detail = some lines ∧ Whole lines ∧
      (texts = [] ∧ lines = [] ∨
        texts ≠ [] ∧ lines ≠ [] ∧ join [10] texts = linesText lines) := by
  cases detail with
  | none =>
      obtain rfl := Option.some.inj told
      exact ⟨[], rfl, nofun, .inl ⟨rfl, rfl⟩⟩
  | some detail =>
      obtain ⟨parsed, value, told⟩ := Option.bind_eq_some_iff.mp told
      obtain ⟨text, written, told⟩ := Option.bind_eq_some_iff.mp told
      obtain rfl := Option.some.inj told
      have tells := detailLines_tell parsed 0
      unfold TellsValue at tells
      rw [show spaces 0 = [] from rfl, written] at tells
      cases given : detailLines 0 parsed with
      | none =>
          rw [given] at tells
          cases tells
      | some lines =>
          rw [given] at tells
          cases tells with
          | some own =>
              refine ⟨_, by rw [detailTemplate, value]; simp only [Option.bind_eq_bind,
                Option.bind_some, given]; rfl, ?_, .inr ⟨by simp, by simp, ?_⟩⟩
              · rw [Whole, List.forall_mem_cons, List.forall_mem_cons]
                exact ⟨rfl, by decide +kernel, detailLines_whole parsed 0 lines given⟩
              · rw [linesText_cons (by simp), linesText_cons own.1, own.2, JsonText.join_more,
                  JsonText.join_more, JsonText.join_single]
                rfl

theorem allLines_ne_nil {first : Option Line} {rest : List (Option Line)} {lines : List Line}
    (all : allLines (first :: rest) = some lines) : lines ≠ [] := by
  rw [allLines, List.mapM_cons] at all
  obtain ⟨line, -, all⟩ := Option.bind_eq_some_iff.mp all
  obtain ⟨others, -, all⟩ := Option.bind_eq_some_iff.mp all
  obtain rfl := Option.some.inj all
  exact List.cons_ne_nil _ _

theorem reportLines_ne_nil {report : EvidenceReport} {lines : List Line}
    (told : reportLines report = some lines) : lines ≠ [] := by
  unfold reportLines headLines at told
  simp only [List.cons_append] at told
  exact allLines_ne_nil told

namespace PrintedReport

/-- The lines of a printed report, and those of its detail, which stay on one line each. -/
theorem parts (report : PrintedReport) :
    reportLines (buildReport report.profile report.context) = some report.lines ∧
      report.lines ≠ [] ∧ Whole report.detail ∧
      report.text = TextLines.printed 10 (report.template.map lineText) := by
  obtain ⟨lines, told, printed⟩ := Option.bind_eq_some_iff.mp report.printed
  obtain ⟨texts, detailed, printed⟩ := Option.bind_eq_some_iff.mp printed
  obtain ⟨own, template, whole, same⟩ := detailTexts_template detailed
  have linesOwn : report.lines = lines := by rw [PrintedReport.lines, told, Option.getD_some]
  have detailOwn : report.detail = own := by rw [PrintedReport.detail, template, Option.getD_some]
  have some := reportLines_ne_nil told
  rw [PrintedReport.template, linesOwn, detailOwn]
  refine ⟨told, some, whole, ?_⟩
  rw [← Option.some.inj printed]
  rcases same with ⟨rfl, rfl⟩ | ⟨more, later, joined⟩
  · rw [List.append_nil, List.append_nil]
    exact linesText_printed some
  · rw [join_lines (by simpa using some) more, joined,
      ← linesText_printed (List.append_ne_nil_of_left_ne_nil some own),
      linesText_append some later]
    rfl

/-- No value breaks a line, exactly if every line of the template is whole. -/
theorem unforged_iff (report : PrintedReport) :
    report.Unforged ↔ ∀ line ∈ report.template.map lineText, Unbroken line := by
  obtain ⟨-, -, whole, -⟩ := report.parts
  have detailed : ∀ line ∈ report.detail, Unbroken (lineText line) := whole
  rw [List.forall_mem_map, PrintedReport.template, List.forall_mem_append, and_iff_left detailed]
  exact forall₂_congr fun line _ => unbroken_line.symm

end PrintedReport

/-- The digest of the one event of the example. -/
def exampleHash : JsString :=
  js "8c8d4961ef2494bb0e3312066e3d53ce8e5a9e76ff7f1b82edfe171a786269c8"

/-- Tools that know the digest of the event and under which the seal verifies. -/
def sealingTools : Tools :=
  { refusingTools with
    sha256Hex := fun _ => exampleHash
    verifyDetachedIntegritySeal := fun _ _ _ => true }

def exampleEvent : Value :=
  .object [(js "eventData", .object [(js "assignmentId", .string (js "a")),
      (js "previousHash", .string GENESIS_HASH), (js "requestId", .string (js "r")),
      (js "sequence", .number (.finite 1)), (js "tenantId", .string (js "t"))]),
    (js "eventHash", .string exampleHash), (js "previousHash", .string GENESIS_HASH),
    (js "sequence", .number (.finite 1))]

/-- A sealed record with a free response to one activity. -/
def exampleRecord (response : JsString) : Value :=
  .object [(js "events", .array [exampleEvent]),
    (js "manifest", .object [(js "assignment", .object [(js "id", .string (js "a"))]),
      (js "evidence", .object [(js "eventCount", .number (.finite 1)),
        (js "eventHashes", .array [.string exampleHash]),
        (js "firstSequence", .number (.finite 1)), (js "headHash", .string exampleHash),
        (js "lastSequence", .number (.finite 1))]),
      (js "outcome", .object [(js "activities", .array [.object [
        (js "activityId", .string (js "q")), (js "response", .string response)]])]),
      (js "request", .object [(js "id", .string (js "r"))]),
      (js "schema", .string (js "vasi-evidence-manifest/v4")),
      (js "tenant", .object [(js "id", .string (js "t"))])]),
    (js "seals", .array [.object [(js "profile", .string (js "vasi-integrity-seal/v1"))]])]

/-- Whether the text of the report of the participant has the lines that it was written
with. -/
def exampleLines (response : JsString) : Option Bool := do
  let context ← reportContext (fun _ _ => 0) (exampleRecord response)
  let lines ← reportLines (buildReport .participant context)
  let text ← reportText (buildReport .participant context)
  return decide (TextLines.textLines isLineBreak text = lines.map lineText)

end Vasi.EvidenceReports
