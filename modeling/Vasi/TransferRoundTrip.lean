import Vasi.PartialMaps
import Vasi.TenantTransfer

/-!
# Reading a tenant archive back

Every order of an exported table determines its rows, so the pages make up the
snapshot whatever their boundaries. A row's line has no control character and no
lone surrogate. It is one line for the reader exactly when no string in the row
contains a line or paragraph separator, which JSON text leaves as they are; a
row that contains one is counted twice and the file is refused.
-/
namespace Vasi.TenantTransfer

open JsValue JsonText PartialMaps

/-! ## Pages -/

section
variable {platform : Platform} {secret : platform.Secret} {specification : Specification}
  {snapshot : Snapshot platform secret specification}

/-- The order of an exported table leaves no choice. -/
theorem Listing.unique (known : specification ∈ TABLES) (left right : Listing snapshot) :
    left.rows = right.rows := by
  refine (left.perm.trans right.perm.symm).eq_of_pairwise ?_ left.sorted right.sorted
  intro first second inLeft inRight below above
  have inside := left.perm.mem_iff.mp inLeft
  have inside' := right.perm.mem_iff.mp inRight
  have ordered := le_antisymm below above
  refine List.inj_on_of_nodup_map snapshot.unique inside inside' ?_
  refine List.map_congr_left fun column member => ?_
  rcases order_total specification known column member with fixed | listed
  · exact snapshot.confined first inside second inside' column fixed
  · exact List.map_inj_left.mp ordered column listed

theorem take_append_drop_length {α : Type} (count : ℕ) (list : List α) :
    list.take count ++ list.drop (list.take count).length = list := by
  rw [List.length_take]
  rcases Nat.le_total count list.length with short | long
  · rw [Nat.min_eq_left short, List.take_append_drop]
  · rw [Nat.min_eq_right long, List.take_of_length_le long, List.drop_length, List.append_nil]

/-- The pages are the listing from the offset on. -/
theorem readPages_eq (known : specification ∈ TABLES) (listing : ℕ → Listing snapshot)
    (offset : ℕ) : readPages listing offset = (listing 0).rows.drop offset := by
  induction offset using readPages.induct listing with
  | case1 offset empty =>
      rw [readPages, dif_pos empty]
      rw [page, List.take_eq_nil_iff, Listing.unique known (listing offset) (listing 0)] at empty
      rcases empty with size | exhausted
      · exact absurd size (by decide)
      · exact exhausted.symm
  | case2 offset some inductionHypothesis =>
      rw [readPages, dif_neg some, inductionHypothesis, page,
        Listing.unique known (listing offset) (listing 0), ← List.drop_drop]
      exact take_append_drop_length PAGE_SIZE _
end

/-! ## Lines -/

/-- A separator that JSON text leaves unescaped and readline ends a line at. -/
def Separator (unit : CodeUnit) : Prop := unit = 0x2028 ∨ unit = 0x2029

/-- The units of a line that are not separators end no line. -/
structure Line (text : JsString) : Prop where
  noFeed : (10 : CodeUnit) ∉ text
  noReturn : (13 : CodeUnit) ∉ text

theorem Line.tail {unit : CodeUnit} {text : JsString} (line : Line (unit :: text)) :
    Line text where
  noFeed := fun member => line.noFeed (List.mem_cons_of_mem _ member)
  noReturn := fun member => line.noReturn (List.mem_cons_of_mem _ member)

theorem Line.head {unit : CodeUnit} {text : JsString} (line : Line (unit :: text)) :
    unit ≠ 10 ∧ unit ≠ 13 :=
  ⟨fun same => line.noFeed (by simp [same]), fun same => line.noReturn (by simp [same])⟩

theorem linesFrom_feed (current rest : JsString) :
    linesFrom current (10 :: rest) = current :: linesFrom [] rest := by
  rw [linesFrom.eq_def]
  simp

theorem linesFrom_separator {unit : CodeUnit} (separator : Separator unit)
    (current rest : JsString) :
    linesFrom current (unit :: rest) = current :: linesFrom [] rest := by
  rcases separator with rfl | rfl <;> (rw [linesFrom.eq_def]; simp)

theorem linesFrom_plain {unit : CodeUnit} (visible : unit ≠ 10 ∧ unit ≠ 13)
    (plain : ¬ Separator unit) (current rest : JsString) :
    linesFrom current (unit :: rest) = linesFrom (current ++ [unit]) rest := by
  unfold Separator at plain
  rw [linesFrom.eq_def]
  split
  · simp_all
  · rename_i same
    simp_all
  · rename_i same
    simp only [List.cons.injEq] at same
    obtain ⟨rfl, rfl⟩ := same
    rw [if_neg (by tauto)]

/-- A text without separators is one line. -/
theorem linesFrom_line {text : JsString} (line : Line text)
    (whole : ∀ unit ∈ text, ¬ Separator unit) (current rest : JsString) :
    linesFrom current (text ++ 10 :: rest) = (current ++ text) :: linesFrom [] rest := by
  induction text generalizing current with
  | nil => rw [List.nil_append, linesFrom_feed, List.append_nil]
  | cons unit text inductionHypothesis =>
      rw [List.forall_mem_cons] at whole
      rw [List.cons_append, linesFrom_plain line.head whole.1,
        inductionHypothesis line.tail whole.2, List.append_assoc, List.singleton_append]

/-- The number of lines the reader does not skip. -/
def lineCount (lines : List JsString) : ℕ := (lines.filter fun line => line ≠ []).length

theorem lineCount_cons (line : JsString) (lines : List JsString) :
    lineCount (line :: lines) = (if line = [] then 0 else 1) + lineCount lines := by
  unfold lineCount
  rw [List.filter_cons]
  split_ifs with some none <;> simp_all
  omega

/-- A text that does not end in a separator leaves a line behind. -/
theorem one_line {text : JsString} (line : Line text) (current rest : JsString)
    (last : ∀ unit, (current ++ text).getLast? = some unit → ¬ Separator unit)
    (nonempty : current ++ text ≠ []) :
    1 + lineCount (linesFrom [] rest) ≤ lineCount (linesFrom current (text ++ 10 :: rest)) := by
  induction text generalizing current with
  | nil =>
      rw [List.append_nil] at nonempty
      rw [List.nil_append, linesFrom_feed, lineCount_cons, if_neg nonempty]
  | cons unit text inductionHypothesis =>
      by_cases separator : Separator unit
      · have later : text ≠ [] := by
          rintro rfl
          exact last unit (by simp) separator
        rw [List.cons_append, linesFrom_separator separator, lineCount_cons]
        have more := inductionHypothesis line.tail [] (by
          intro unit ends
          refine last unit ?_
          rw [List.getLast?_append, List.getLast?_cons_of_ne_nil later]
          simpa using Or.inl ends) (by simpa using later)
        omega
      · rw [List.cons_append, linesFrom_plain line.head separator]
        exact inductionHypothesis line.tail (current ++ [unit])
          (by simpa using last) (by simp)

/-- A separator inside a text leaves a second line behind. -/
theorem two_lines {text : JsString} (line : Line text) (current rest : JsString)
    (last : ∀ unit, text.getLast? = some unit → ¬ Separator unit)
    (started : current ≠ []) (separated : ∃ unit ∈ text, Separator unit) :
    2 + lineCount (linesFrom [] rest) ≤ lineCount (linesFrom current (text ++ 10 :: rest)) := by
  induction text generalizing current with
  | nil =>
      obtain ⟨unit, member, _⟩ := separated
      cases member
  | cons unit text inductionHypothesis =>
      have later : text ≠ [] ∨ ¬ Separator unit := by
        by_cases empty : text = []
        · exact .inr (last unit (by simp [empty]))
        · exact .inl empty
      by_cases separator : Separator unit
      · have more : text ≠ [] := later.resolve_right (not_not.mpr separator)
        rw [List.cons_append, linesFrom_separator separator, lineCount_cons, if_neg started]
        have one := one_line line.tail [] rest (by
          intro unit ends
          refine last unit ?_
          rw [List.getLast?_cons_of_ne_nil more]
          simpa using ends) (by simpa using more)
        omega
      · obtain ⟨other, member, found⟩ := separated
        have inside : other ∈ text := by
          rcases List.mem_cons.mp member with rfl | inside
          · exact absurd found separator
          · exact inside
        have more : text ≠ [] := List.ne_nil_of_mem inside
        rw [List.cons_append, linesFrom_plain line.head separator]
        exact inductionHypothesis line.tail (current ++ [unit])
          (fun unit ends => last unit (by rwa [List.getLast?_cons_of_ne_nil more])) (by simp)
          ⟨other, inside, found⟩

/-! ## Rows as lines -/

/-- A string or key of the row contains a line or paragraph separator. -/
def Separated (row : Members) : Prop :=
  ∃ content ∈ strings (.object row), ∃ unit ∈ content, Separator unit

/-- What the reader relies on in the text of a row. -/
structure RowText (row : Members) (text : JsString) : Prop where
  line : Line text
  shape : ∃ body, text = 123 :: (body ++ [125])
  formed : Utf8.WellFormed text
  parsed : parse text = some (.object row)
  separated : (∃ unit ∈ text, Separator unit) ↔ Separated row

/-- The text of a JSON row. -/
theorem rowText {row : Members} (json : Json (.object row)) :
    ∃ text, rowLine row = text ++ [10] ∧ RowText row text := by
  obtain ⟨text, written, _⟩ := stringify_reads (.object row) json
  have parsed := parse_stringify json
  rw [written, Option.bind_some] at parsed
  have absent : ∀ unit : CodeUnit, unit.val < 32 → unit ∉ text := by
    intro unit control member
    have special : ¬ Printable unit := fun printable => absurd printable.1 (by omega)
    have scalar : Utf8.isSurrogate unit = false := by
      simp only [Utf8.isSurrogate, isHighSurrogate, isLowSurrogate, Bool.or_eq_false_iff,
        Bool.and_eq_false_iff, decide_eq_false_iff_not]
      omega
    obtain ⟨content, _, inside⟩ := (mem_stringify special _ json text written).mp member
    have large := ((mem_quoteBody special scalar content).mp inside).2
    omega
  have separator : ∀ unit, Separator unit →
      (unit ∈ text ↔ ∃ content ∈ strings (.object row), unit ∈ content) := by
    intro unit separator
    have special : ¬ Printable unit := by
      rcases separator with rfl | rfl <;> decide
    have plain : Utf8.isSurrogate unit = false ∧ 128 ≤ unit.val := by
      rcases separator with rfl | rfl <;> decide
    rw [mem_stringify special _ json text written]
    simp only [mem_quoteBody special plain.1, plain.2, and_true]
  refine ⟨text, by rw [rowLine, written, Option.getD_some], ⟨⟨absent 10 (by decide),
    absent 13 (by decide)⟩, ?_, wellFormed_stringify _ text written, parsed, ?_⟩⟩
  · rw [stringify, Option.some.injEq] at written
    exact ⟨_, written.symm⟩
  · constructor
    · rintro ⟨unit, member, found⟩
      obtain ⟨content, listed, inside⟩ := (separator unit found).mp member
      exact ⟨content, listed, unit, inside, found⟩
    · rintro ⟨content, listed, unit, inside, found⟩
      exact ⟨unit, (separator unit found).mpr ⟨content, listed, inside⟩, found⟩

/-- Encoding well-formed text is encoding its parts. -/
theorem encode_append {left : JsString} (formed : Utf8.WellFormed left) (right : JsString) :
    Utf8.encode (left ++ right) = Utf8.encode left ++ Utf8.encode right := by
  induction left using Utf8.WellFormed.induct with
  | case1 => rfl
  | case2 unit =>
      have plain : isHighSurrogate unit = false := by
        rw [Utf8.WellFormed, Utf8.isSurrogate, Bool.or_eq_false_iff] at formed
        exact formed.1
      cases right with
      | nil => simp [Utf8.encode]
      | cons next rest => simp [Utf8.encode, plain]
  | case3 unit next rest pair inductionHypothesis =>
      rw [Utf8.WellFormed, if_pos pair] at formed
      rw [List.cons_append, List.cons_append, Utf8.encode, if_pos pair, Utf8.encode, if_pos pair,
        inductionHypothesis formed, List.append_assoc]
  | case4 unit next rest lone inductionHypothesis =>
      rw [Utf8.WellFormed, if_neg lone] at formed
      have later : Utf8.encode (next :: rest ++ right) =
          Utf8.encode (next :: rest) ++ Utf8.encode right := inductionHypothesis formed.2
      rw [List.cons_append] at later
      rw [List.cons_append, List.cons_append, Utf8.encode, if_neg lone, Utf8.encode, if_neg lone,
        later, List.append_assoc]

/-- The plain text of a file of JSON rows decodes to the lines written. -/
theorem decode_rows {rows : List Members} (json : ∀ row ∈ rows, Json (.object row)) :
    Utf8.decode (rows.flatMap fun row => Utf8.encode (rowLine row)) = rows.flatMap rowLine := by
  have formed : ∀ rows : List Members, (∀ row ∈ rows, Json (.object row)) →
      Utf8.WellFormed (rows.flatMap rowLine) ∧
        (rows.flatMap fun row => Utf8.encode (rowLine row)) =
          Utf8.encode (rows.flatMap rowLine) := by
    intro rows
    induction rows with
    | nil => exact fun _ => ⟨trivial, rfl⟩
    | cons row rows inductionHypothesis =>
        intro json
        rw [List.forall_mem_cons] at json
        obtain ⟨text, line, content⟩ := rowText json.1
        obtain ⟨later, encoded⟩ := inductionHypothesis json.2
        have whole : Utf8.WellFormed (rowLine row) := by
          rw [line]
          exact wellFormed_append content.formed (show Utf8.isSurrogate 10 = false by decide)
        exact ⟨wellFormed_append whole later, by
          rw [List.flatMap_cons, List.flatMap_cons, encoded, encode_append whole]⟩
  obtain ⟨whole, encoded⟩ := formed rows json
  rw [encoded, Utf8.decode_encode _ whole]

/-- Rows without separators are read back, one line each. -/
theorem lines_rows {rows : List Members} (json : ∀ row ∈ rows, Json (.object row))
    (clean : ∀ row ∈ rows, ¬ Separated row) :
    ((linesFrom [] (rows.flatMap rowLine)).filter fun line => line ≠ []).mapM parse =
      some (rows.map Value.object) := by
  induction rows with
  | nil => rfl
  | cons row rows inductionHypothesis =>
      rw [List.forall_mem_cons] at json clean
      obtain ⟨text, line, content⟩ := rowText json.1
      have whole : ∀ unit ∈ text, ¬ Separator unit := fun unit member found =>
        clean.1 (content.separated.mp ⟨unit, member, found⟩)
      obtain ⟨body, shape⟩ := content.shape
      have later := inductionHypothesis json.2 clean.2
      rw [List.flatMap_cons, line, List.append_assoc, List.singleton_append,
        linesFrom_line content.line whole, List.nil_append,
        List.filter_cons_of_pos (by simp [shape]), List.mapM_cons, content.parsed, later]
      rfl

/-- No row's line is lost, and a separated row makes one more. -/
theorem lineCount_rows {rows : List Members} (json : ∀ row ∈ rows, Json (.object row)) :
    rows.length ≤ lineCount (linesFrom [] (rows.flatMap rowLine)) ∧
      ((∃ row ∈ rows, Separated row) →
        rows.length < lineCount (linesFrom [] (rows.flatMap rowLine))) := by
  induction rows with
  | nil => simp
  | cons row rows inductionHypothesis =>
      rw [List.forall_mem_cons] at json
      obtain ⟨text, line, content⟩ := rowText json.1
      obtain ⟨enough, more⟩ := inductionHypothesis json.2
      obtain ⟨body, shape⟩ := content.shape
      have ends : ∀ unit, text.getLast? = some unit → ¬ Separator unit := by
        intro unit last
        have same : unit = 125 := by
          rw [shape, ← List.cons_append, List.getLast?_concat] at last
          exact (Option.some.inj last).symm
        rw [same]
        unfold Separator
        decide
      have one := one_line content.line [] (rows.flatMap rowLine) (by simpa using ends)
        (by simp [shape])
      rw [List.flatMap_cons, line, List.append_assoc, List.singleton_append, List.length_cons]
      refine ⟨by omega, ?_⟩
      rintro ⟨other, member, separated⟩
      rcases List.mem_cons.mp member with rfl | later
      · obtain ⟨unit, inside, found⟩ := content.separated.mpr separated
        have start : ¬ Separator 123 := by
          unfold Separator
          decide
        have body_line : Line (body ++ [125]) := (shape ▸ content.line).tail
        rw [shape, List.mem_cons] at inside
        have two := two_lines body_line [123] (rows.flatMap rowLine)
          (fun unit last => ends unit (by
            rw [shape, List.getLast?_cons_of_ne_nil (by simp)]
            exact last)) (by simp)
          ⟨unit, inside.resolve_left (fun same => start (same ▸ found)), found⟩
        rw [shape, List.cons_append, linesFrom_plain (by decide) start, List.nil_append]
        omega
      · have strict := more ⟨other, later, separated⟩
        omega

/-! ## Records that carry credentials -/

theorem createMember_existing {members : Members} {key : JsString}
    (known : key ∈ members.map Prod.fst) (value : Value) :
    createMember members key value =
      members.map fun entry => if entry.1 = key then (key, value) else entry := by
  unfold createMember
  rw [if_pos]
  simpa using known

theorem createMember_fresh {members : Members} {key : JsString}
    (fresh : key ∉ members.map Prod.fst) (value : Value) :
    createMember members key value = members ++ [(key, value)] := by
  unfold createMember
  rw [if_neg]
  simpa using fresh

theorem replaced_key (key : JsString) (value : Value) (entry : JsString × Value) :
    (if entry.1 = key then (key, value) else entry).1 = entry.1 := by
  split_ifs with same
  · exact same.symm
  · rfl

theorem replaced_keys (members : Members) (key : JsString) (value : Value) :
    (members.map fun entry => if entry.1 = key then (key, value) else entry).map Prod.fst =
      members.map Prod.fst := by
  rw [List.map_map]
  exact List.map_congr_left fun entry _ => replaced_key key value entry

/-- Replacing values leaves the property order as it is. -/
theorem propertyOrder_map {members : Members} (change : JsString × Value → JsString × Value)
    (sameKey : ∀ entry, (change entry).1 = entry.1) (ordered : propertyOrder members = members) :
    propertyOrder (members.map change) = members.map change := by
  have related : List.Forall₂ (fun left right => right = change left) members
      (members.map change) := by
    rw [List.forall₂_map_right_iff]
    exact List.forall₂_same.mpr fun _ _ => rfl
  have image := propertyOrder_forall₂ (fun left right same => by rw [same, sameKey]) related
  rw [ordered] at image
  generalize propertyOrder (members.map change) = sorted at image
  clear ordered related
  induction image with
  | nil => rfl
  | cons same _ inductionHypothesis =>
      rw [same, List.map_cons, inductionHypothesis]

theorem jsonMembers_map {members : Members} {change : JsString × Value → JsString × Value}
    (kept : ∀ entry, Json entry.2 → Json (change entry).2) (json : JsonMembers members) :
    JsonMembers (members.map change) := by
  induction members with
  | nil => trivial
  | cons entry members inductionHypothesis =>
      exact ⟨kept entry json.1, inductionHypothesis json.2⟩

theorem jsonMembers_append {members : Members} {key : JsString} {value : Value}
    (json : JsonMembers members) (last : Json value) :
    JsonMembers (members ++ [(key, value)]) := by
  induction members with
  | nil => exact ⟨last, trivial⟩
  | cons entry members inductionHypothesis => exact ⟨json.1, inductionHypothesis json.2⟩

/-- Replacing a member's value keeps a JSON object one. -/
theorem json_replace {members : Members} {key : JsString} {value : Value}
    (json : Json (.object members)) (known : key ∈ members.map Prod.fst) (valid : Json value) :
    Json (.object (createMember members key value)) := by
  obtain ⟨distinct, ordered, each⟩ := json
  rw [createMember_existing known]
  refine ⟨?_, propertyOrder_map _ (replaced_key key value) ordered, jsonMembers_map ?_ each⟩
  · rw [replaced_keys]
    exact distinct
  · intro entry content
    split_ifs
    · exact valid
    · exact content

/-- Adding a named member keeps a JSON object one. -/
theorem json_add {members : Members} {key : JsString} {value : Value}
    (json : Json (.object members)) (fresh : key ∉ members.map Prod.fst)
    (named : arrayIndex? key = none) (valid : Json value) :
    Json (.object (createMember members key value)) := by
  obtain ⟨distinct, ordered, each⟩ := json
  rw [createMember_fresh fresh]
  refine ⟨?_, ?_, jsonMembers_append each valid⟩
  · rw [List.map_append, List.nodup_append]
    refine ⟨distinct, by simp, ?_⟩
    intro left inside right last same
    have added : right = key := by simpa using last
    exact fresh (added ▸ same ▸ inside)
  · unfold propertyOrder at ordered ⊢
    rw [List.filter_append, List.filter_append,
      List.filter_cons_of_neg (by simp [named]), List.filter_cons_of_pos (by simp [named]),
      List.filter_nil, List.filter_nil, List.append_nil, ← List.append_assoc, ordered]

/-! ## The round trip -/

section
variable {platform : Platform} {source : platform.Secret} {specification : Specification}

/-- The imported form of an exported row: the row itself, or the binding with an
envelope that opens to the same credentials at the destination. -/
def Restores (source destination : platform.Secret) (table : String) (row : Row platform)
    (imported : Value) : Prop :=
  if table ≠ "integration_binding_revision" then imported = .object row.record
  else
    ∃ envelope, imported = .object (createMember row.record (js "credentialEnvelope") envelope) ∧
      platform.openEnvelope destination envelope =
        platform.openEnvelope source (Value.member row.record (js "credentialEnvelope"))

/-- No string or key that the row carries into the archive has a line separator. -/
def Unseparated (snapshot : Snapshot platform source specification) : Prop :=
  ∀ row ∈ snapshot.rows, ∀ carried,
    exportTransform source specification.table row.record = some carried → ¬ Separated carried

/-- The file of a table reads back as its rows in their order. -/
def Transfers (destination : platform.Secret) (key : platform.Key) (iv : List Byte)
    {snapshot : Snapshot platform source specification}
    (listing : ℕ → Listing snapshot) : Prop :=
  ∃ file imported, exportTable key iv listing = some file ∧
    importedRows destination key file.1 file.2 = some imported ∧
    List.Forall₂ (Restores source destination specification.table) (listing 0).rows imported

/-- What the archive carries for a row of the snapshot is a JSON object. -/
theorem carried_json (snapshot : Snapshot platform source specification) {row : Row platform}
    (inside : row ∈ snapshot.rows) :
    ∃ carried, exportTransform source specification.table row.record = some carried ∧
      Json (.object carried) := by
  have json := snapshot.json row inside
  unfold exportTransform
  split_ifs with binding
  · exact ⟨row.record, rfl, json⟩
  · obtain ⟨sealed, fresh, credentials, opened, valid⟩ :=
      snapshot.columns (not_not.mp binding) row inside
    have cleared := @json_replace _ _ .null json sealed trivial
    rw [opened]
    refine ⟨_, rfl, json_add cleared ?_ (by decide) valid⟩
    rwa [createMember_existing sealed, replaced_keys]

/-- The import restores what the export carried. -/
theorem import_restores (destination : platform.Secret)
    (snapshot : Snapshot platform source specification) {row : Row platform}
    (inside : row ∈ snapshot.rows) {carried : Members}
    (exported : exportTransform source specification.table row.record = some carried)
    (draw : ℕ) :
    ∃ imported, importTransform destination draw specification.table (.object carried) =
        some imported ∧
      Restores source destination specification.table row imported := by
  unfold exportTransform at exported
  unfold importTransform Restores
  by_cases binding : specification.table ≠ "integration_binding_revision"
  · rw [if_pos binding, Option.some.injEq] at exported
    simp only [if_pos binding, exported]
    exact ⟨_, rfl, rfl⟩
  · obtain ⟨sealed, fresh, credentials, opened, valid⟩ :=
      snapshot.columns (not_not.mp binding) row inside
    rw [if_neg binding, opened, Option.map_some, Option.some.injEq,
      createMember_existing sealed] at exported
    set cleared := row.record.map fun entry =>
      if entry.1 = js "credentialEnvelope" then (js "credentialEnvelope", .null) else entry
      with clearedMembers
    have keys : cleared.map Prod.fst = row.record.map Prod.fst := replaced_keys _ _ _
    rw [createMember_fresh (by rwa [keys])] at exported
    subst exported
    have kept : (cleared ++ [(js "transferCredentials", credentials)]).filter
        (fun entry => entry.1 ≠ js "transferCredentials") = cleared := by
      rw [List.filter_append, List.filter_cons_of_neg (by simp), List.filter_nil,
        List.append_nil, List.filter_eq_self]
      intro entry listed
      have other : entry.1 ≠ js "transferCredentials" := by
        intro same
        rw [← keys] at fresh
        exact fresh (List.mem_map.mpr ⟨entry, listed, same⟩)
      simpa using other
    have found : Value.member (cleared ++ [(js "transferCredentials", credentials)])
        (js "transferCredentials") = credentials := by
      have absent : cleared.lookup (js "transferCredentials") = none := by
        rw [List.lookup_eq_none_iff]
        intro entry listed
        rw [← keys] at fresh
        have other : js "transferCredentials" ≠ entry.1 := fun same =>
          fresh (List.mem_map.mpr ⟨entry, listed, same.symm⟩)
        simpa using other
      simp [Value.member, List.lookup_append, absent]
    simp only [if_neg binding, kept, found]
    refine ⟨_, rfl, _, ?_, (platform.open_seal destination draw credentials valid).trans opened.symm⟩
    rw [createMember_existing (by rwa [keys]), createMember_existing sealed, clearedMembers,
      List.map_map]
    refine congrArg Value.object (List.map_congr_left fun entry _ => ?_)
    by_cases same : entry.1 = js "credentialEnvelope" <;> simp [same]

/-- The rows an exported file is written with. -/
theorem exportTable_rows (known : specification ∈ TABLES)
    {snapshot : Snapshot platform source specification} (listing : ℕ → Listing snapshot) :
    ∃ carried, (readPages listing 0).mapM (fun row =>
        exportTransform source specification.table row.record) = some carried ∧
      List.Forall₂ (fun row carried =>
        exportTransform source specification.table row.record = some carried ∧
          Json (.object carried)) (listing 0).rows carried := by
  have each : ∀ row ∈ (listing 0).rows, row ∈ snapshot.rows := fun row member =>
    (listing 0).perm.mem_iff.mp member
  rw [readPages_eq known, List.drop_zero]
  generalize (listing 0).rows = rows at each
  induction rows with
  | nil => exact ⟨[], rfl, .nil⟩
  | cons row rows inductionHypothesis =>
      rw [List.forall_mem_cons] at each
      obtain ⟨first, exported, json⟩ := carried_json snapshot each.1
      obtain ⟨carried, later, related⟩ := inductionHypothesis each.2
      exact ⟨first :: carried, by rw [List.mapM_cons, exported, later]; rfl,
        .cons ⟨exported, json⟩ related⟩

/-- The file of an export reads back as the rows it was written with, or not at all. -/
theorem encryptedRows_export (known : specification ∈ TABLES) (key : platform.Key)
    (iv : List Byte) {snapshot : Snapshot platform source specification}
    (listing : ℕ → Listing snapshot) :
    ∃ file carried, exportTable key iv listing = some file ∧
      file.1.table = specification.table ∧
      List.Forall₂ (fun row carried =>
        exportTransform source specification.table row.record = some carried ∧
          Json (.object carried)) (listing 0).rows carried ∧
      ((∀ row ∈ carried, ¬ Separated row) →
        encryptedRows platform key file.1 file.2 = some (carried.map Value.object)) ∧
      ((∃ row ∈ carried, Separated row) → encryptedRows platform key file.1 file.2 = none) := by
  obtain ⟨carried, mapped, related⟩ := exportTable_rows known listing
  have json : ∀ row ∈ carried, Json (.object row) := by
    intro members listed
    obtain ⟨row, _, matched⟩ := (forall₂_partners related).2 members listed
    exact matched.2
  have opened := decode_rows json
  refine ⟨_, carried, by rw [exportTable, mapped]; rfl, rfl, related, ?_, ?_⟩
  · intro clean
    have read := lines_rows json clean
    simp only [encryptedRows, platform.decrypt_encrypt, Option.bind_eq_bind,
      Option.bind_some, opened, Option.pure_def, if_true, guard]
    rw [read]
    simp
  · intro separated
    have more := (lineCount_rows json).2 separated
    simp only [encryptedRows, platform.decrypt_encrypt, Option.bind_eq_bind,
      Option.bind_some, opened, Option.pure_def, if_true, guard]
    cases read : ((linesFrom [] (carried.flatMap rowLine)).filter fun line => line ≠ []).mapM
        parse with
    | none => rfl
    | some rows =>
        have size := mapM_length read
        rw [lineCount, ← size] at more
        simp only [Option.bind_some, if_neg more.ne']
        rfl

/-- Importing what was carried restores every row in its place. -/
theorem imports_restore (destination : platform.Secret)
    {snapshot : Snapshot platform source specification} {rows : List (Row platform)}
    (inside : ∀ row ∈ rows, row ∈ snapshot.rows) {carried : List Members}
    (related : List.Forall₂ (fun row carried =>
      exportTransform source specification.table row.record = some carried ∧
        Json (.object carried)) rows carried) (first : ℕ) :
    ∃ imported, ((carried.map Value.object).zipIdx first).mapM (fun (row, draw) =>
        importTransform destination draw specification.table row) = some imported ∧
      List.Forall₂ (Restores source destination specification.table) rows imported := by
  induction related generalizing first with
  | nil => exact ⟨[], rfl, .nil⟩
  | @cons row members rows carried exported _ inductionHypothesis =>
      rw [List.forall_mem_cons] at inside
      obtain ⟨imported, single, restored⟩ :=
        import_restores destination snapshot inside.1 exported.1 first
      obtain ⟨later, all, rest⟩ := inductionHypothesis inside.2 (first + 1)
      exact ⟨imported :: later, by
        rw [List.map_cons, List.zipIdx_cons, List.mapM_cons]
        simp only [single, all]
        rfl, .cons restored rest⟩

/-- A table's file reads back exactly when no carried row has a separator. -/
theorem transfers_iff (known : specification ∈ TABLES) (destination : platform.Secret)
    (key : platform.Key) (iv : List Byte) {snapshot : Snapshot platform source specification}
    (listing : ℕ → Listing snapshot) :
    Transfers destination key iv listing ↔ Unseparated snapshot := by
  obtain ⟨file, carried, written, named, related, clean, torn⟩ :=
    encryptedRows_export known key iv listing
  have members : ∀ row ∈ (listing 0).rows, row ∈ snapshot.rows := fun row member =>
    (listing 0).perm.mem_iff.mp member
  have same : (∀ row ∈ carried, ¬ Separated row) ↔ Unseparated snapshot := by
    constructor
    · intro each row inside members exported
      obtain ⟨other, listed, matched⟩ :=
        (forall₂_partners related).1 row ((listing 0).perm.mem_iff.mpr inside)
      rw [matched.1, Option.some.injEq] at exported
      exact exported ▸ each other listed
    · intro each members listed
      obtain ⟨row, inside, matched⟩ := (forall₂_partners related).2 members listed
      exact each row ((listing 0).perm.mem_iff.mp inside) members matched.1
  rw [← same]
  constructor
  · rintro ⟨other, imported, exported, read, _⟩ row listed separated
    rw [written, Option.some.injEq] at exported
    subst exported
    rw [importedRows, torn ⟨row, listed, separated⟩] at read
    cases read
  · intro each
    obtain ⟨imported, all, restored⟩ := imports_restore destination members related 0
    refine ⟨file, imported, written, ?_, restored⟩
    rw [importedRows, clean each, named]
    exact all
end

/-! ## All tables or none -/

section
variable {platform : Platform}

theorem Database.append_rows (database : Database) (table : String) (rows : List Value)
    (other : String) :
    (database.append table rows).rows other =
      database.rows other ++ if other = table then rows else [] := by
  unfold Database.append
  split_ifs <;> simp_all

theorem insertRows_append {database after : Database} {table : String} {rows : List Value}
    (inserted : insertRows platform database table rows = some after) :
    ∀ other, after.rows other = database.rows other ++ if other = table then rows else [] := by
  unfold insertRows at inserted
  split_ifs at inserted with empty unknown accepted <;> simp only [Option.some.injEq] at inserted
  · subst inserted empty
    simp
  · subst inserted
    exact database.append_rows table rows

/-- Batches insert the rows of a table in their order, whatever their boundaries. -/
theorem insertBatches_append {database after : Database} {table : String} {rows : List Value}
    (inserted : insertBatches platform database table rows = some after) :
    ∀ other, after.rows other = database.rows other ++ if other = table then rows else [] := by
  induction size : rows.length using Nat.strong_induction_on generalizing rows database with
  | _ length inductionHypothesis =>
      rw [insertBatches] at inserted
      split_ifs at inserted with empty
      · simp only [Option.some.injEq] at inserted
        subst inserted empty
        simp
      · obtain ⟨middle, batch, rest⟩ := Option.bind_eq_some_iff.mp inserted
        have some := List.length_pos_iff.mpr empty
        have shorter : (rows.drop PAGE_SIZE).length < rows.length := by
          simp only [List.length_drop, PAGE_SIZE]
          omega
        intro other
        rw [inductionHypothesis _ (size ▸ shorter) rest rfl other, insertRows_append batch other,
          List.append_assoc]
        split_ifs
        · rw [List.take_append_drop]
        · rfl

/-- The tables of an archive are inserted one after the other. -/
theorem insertTables_append (secret : platform.Secret) (key : platform.Key)
    {entries : List (Metadata × List Byte)} {database after : Database}
    (inserted : entries.foldlM (fun database entry =>
      (importedRows secret key entry.1 entry.2).bind fun rows =>
        insertBatches platform database entry.1.table rows) database = some after) :
    (∀ entry ∈ entries, (importedRows secret key entry.1 entry.2).isSome) ∧
      ∀ table, after.rows table = database.rows table ++
        (entries.filter fun entry => entry.1.table = table).flatMap fun entry =>
          (importedRows secret key entry.1 entry.2).getD [] := by
  induction entries generalizing database with
  | nil =>
      cases inserted
      simp
  | cons entry entries inductionHypothesis =>
      rw [List.foldlM_cons] at inserted
      obtain ⟨middle, first, rest⟩ := Option.bind_eq_some_iff.mp inserted
      obtain ⟨rows, read, batches⟩ := Option.bind_eq_some_iff.mp first
      obtain ⟨readable, later⟩ := inductionHypothesis rest
      refine ⟨List.forall_mem_cons.mpr ⟨by rw [read]; rfl, readable⟩, fun table => ?_⟩
      rw [later table, insertBatches_append batches table, List.filter_cons, List.append_assoc]
      by_cases same : entry.1.table = table
      · simp [same, read]
      · simp [same, Ne.symm same]

/-- The import leaves the destination as it was, or reads the whole archive and
adds the rows of every table, before the owner's grant. -/
def AllOrNone (secret : platform.Secret) (key : platform.Key) (archive : Archive)
    (grantId ownerEmail : JsString) (database : Database) : Prop :=
  importTenant secret key archive grantId ownerEmail database = database ∨
    ∃ inserted tenantId,
      importTenant secret key archive grantId ownerEmail database =
          grantOwner inserted grantId tenantId ownerEmail ∧
        (∀ entry ∈ archive.tables, entry.1.table ≠ "tenant" →
          (importedRows secret key entry.1 entry.2).isSome) ∧
        ∀ table, inserted.rows table =
          database.rows table ++ archivedRows secret key archive table

theorem importTenant_allOrNone (secret : platform.Secret) (key : platform.Key)
    (archive : Archive) (grantId ownerEmail : JsString) (database : Database) :
    AllOrNone secret key archive grantId ownerEmail database := by
  unfold AllOrNone importTenant
  cases ended : importTransaction secret key archive grantId ownerEmail database with
  | none => exact .inl rfl
  | some after =>
      right
      unfold importTransaction at ended
      obtain ⟨root, found, ended⟩ := Option.bind_eq_some_iff.mp ended
      obtain ⟨tenantRows, read, ended⟩ := Option.bind_eq_some_iff.mp ended
      split at ended
      · rename_i tenant
        obtain ⟨tenantId, _, ended⟩ := Option.bind_eq_some_iff.mp ended
        obtain ⟨_, _, ended⟩ := Option.bind_eq_some_iff.mp ended
        obtain ⟨_, _, ended⟩ := Option.bind_eq_some_iff.mp ended
        obtain ⟨rooted, first, ended⟩ := Option.bind_eq_some_iff.mp ended
        obtain ⟨inserted, rest, ended⟩ := Option.bind_eq_some_iff.mp ended
        cases ended
        obtain ⟨readable, all⟩ := insertTables_append secret key rest
        refine ⟨inserted, tenantId, rfl, ?_, fun table => ?_⟩
        · intro entry listed other
          exact readable entry (List.mem_filter.mpr ⟨listed, by simpa using other⟩)
        · rw [all table, insertRows_append first table, archivedRows, List.append_assoc]
          congr 1
          by_cases tenantTable : table = "tenant"
          · have none : (archive.tables.filter fun entry => entry.1.table ≠ "tenant").filter
                (fun entry => entry.1.table = table) = [] := by
              rw [List.filter_filter, List.filter_eq_nil_iff]
              intro entry _
              simp [tenantTable]
            have head : (archive.tables.filter fun entry =>
                decide (entry.1.table = "tenant")).take 1 = [root] := by
              rw [List.take_one, List.head?_filter, found]
              rfl
            rw [none, tenantTable]
            simp [head, read]
          · have same : (archive.tables.filter fun entry => entry.1.table ≠ "tenant").filter
                (fun entry => entry.1.table = table) =
                archive.tables.filter fun entry => entry.1.table = table := by
              rw [List.filter_filter]
              refine List.filter_congr fun entry _ => ?_
              by_cases named : entry.1.table = table
              · simp [named, tenantTable]
              · simp [named]
            rw [same]
            simp [tenantTable]
      · cases ended

/-- Every page is read, each row of the snapshot comes back once and as it was,
and an import inserts all tables or none, exactly when no string that a row
carries contains a line or paragraph separator. -/
theorem archive_round_trip (source destination : platform.Secret)
    (entry : {specification // specification ∈ TABLES})
    (snapshot : Snapshot platform source entry.1) (listing : ℕ → Listing snapshot)
    (key : platform.Key) (iv : List Byte) (archive : Archive) (grantId ownerEmail : JsString)
    (database : Database) :
    (Transfers destination key iv listing ∧
        readPages listing 0 = (listing 0).rows ∧ (readPages listing 0).Perm snapshot.rows ∧
        AllOrNone destination key archive grantId ownerEmail database) ↔
      Unseparated snapshot := by
  have pages := readPages_eq entry.2 listing 0
  rw [List.drop_zero] at pages
  rw [transfers_iff entry.2]
  constructor
  · exact And.left
  · intro clean
    exact ⟨clean, pages, pages ▸ (listing 0).perm,
      importTenant_allOrNone destination key archive grantId ownerEmail database⟩

end

/-! ## A separated row -/

/-- A platform whose cipher is the identity. -/
def plainPlatform : Platform where
  Cell := ℕ
  Key := Unit
  Secret := Unit
  tableKey _ _ := ()
  encrypt _ _ plain := (plain, [])
  decrypt _ _ _ ciphertext := some ciphertext
  decrypt_encrypt _ _ _ := rfl
  sha256 _ := []
  sealEnvelope _ _ value := value
  openEnvelope _ value := some value
  open_seal _ _ _ _ := rfl
  accepts _ _ _ := true

/-- A tenant whose display name holds a line separator. -/
def separatorRow : Row plainPlatform :=
  ⟨fun _ => (0 : ℕ), [(js "id", .string (js "t")), (js "displayName", .string [0x2028])]⟩

def separatorSnapshot : Snapshot plainPlatform () ⟨"tenant", ["id"], ["id"], ["id"]⟩ where
  rows := [separatorRow]
  confined := by simp
  unique := by simp
  json := by
    simp only [List.forall_mem_singleton]
    exact ⟨by decide, rfl, trivial, trivial, trivial⟩
  columns := by simp

def separatorListing : Listing separatorSnapshot := ⟨[separatorRow], .refl _, by simp⟩

/-- The archive of that tenant does not read back. -/
theorem separator_refused :
    ¬ @Transfers plainPlatform () _ () () [] separatorSnapshot fun _ => separatorListing := by
  intro transfers
  have clean := (transfers_iff (by decide) _ _ _ _).mp transfers
  exact clean separatorRow (by simp [separatorSnapshot]) separatorRow.record rfl
    ⟨[0x2028], by simp [separatorRow, strings, memberStrings], 0x2028, by simp, .inl rfl⟩

end Vasi.TenantTransfer
