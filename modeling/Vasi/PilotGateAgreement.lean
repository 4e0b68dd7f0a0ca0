import Vasi.PilotGateImport

/-!
# Two verifiers of one manifest

The offline package accepts exactly the documents of a manifest whose ids read
as texts, the import those whose ids are strings. Everything else is the same
rule for both. They therefore agree on a file unless the package reads a text
from an id that is no string.
-/
namespace Vasi.PilotGateImport

open JsValue Validation Coercion PrettyJson Utf8 PilotGate
open JsonText (parse)
open ReleaseArchive (decodeFatal lowerCase)
open Productization (isDigest)

/-! ## Joined keys -/

/-- A part of a list of parts that are not empty starts the whole. -/
theorem flatten_cons {α : Type} {parts : List (List α)} {first : α} {rest : List α}
    (full : ∀ part ∈ parts, part ≠ []) (whole : parts.flatten = first :: rest) :
    ∃ part later, parts = (first :: part) :: later ∧ part ++ later.flatten = rest := by
  cases parts with
  | nil => cases whole
  | cons head later =>
      cases head with
      | nil => exact absurd rfl (full [] (by simp))
      | cons unit part =>
          obtain ⟨rfl, same⟩ := List.cons.inj whole
          exact ⟨part, later, rfl, same⟩

/-- Between two neighbours that are parts of their own stands a part of its own. -/
theorem part_between {α : Type} {parts : List (List α)} {first left middle right : α}
    (full : ∀ part ∈ parts, part ≠ []) (whole : parts.flatten = [first, left, middle, right])
    (distinct : [first, left, middle, right].Nodup) (leftPart : [left] ∈ parts)
    (rightPart : [right] ∈ parts) : [middle] ∈ parts := by
  simp only [List.nodup_cons, List.mem_cons, List.not_mem_nil, or_false, not_or] at distinct
  have apart : ∀ (unit : α) (later : List (List α)), [unit] ∈ later → unit ∈ later.flatten :=
    fun unit later inside => List.mem_flatten.mpr ⟨[unit], inside, by simp⟩
  obtain ⟨one, later, rfl, second⟩ := flatten_cons full whole
  have fullLater : ∀ part ∈ later, part ≠ [] := fun part inside => full part (by simp [inside])
  cases one with
  | cons unit one =>
      obtain ⟨rfl, rest⟩ := List.cons.inj second
      have inside := apart _ _ ((List.mem_cons.mp leftPart).resolve_left (by simp))
      have tail : unit ∈ [middle, right] := rest ▸ List.mem_append_right one inside
      simp at tail
      tauto
  | nil =>
      obtain ⟨two, latest, rfl, third⟩ := flatten_cons fullLater (by simpa using second)
      cases two with
      | cons unit two =>
          obtain ⟨rfl, rest⟩ := List.cons.inj third
          simp only [List.mem_cons, List.cons.injEq, reduceCtorEq, and_false, false_or, and_true]
            at leftPart
          have inside := apart _ _ (leftPart.resolve_left fun same => distinct.1.1 same.symm)
          have tail : left ∈ [right] := rest ▸ List.mem_append_right two inside
          simp at tail
          tauto
      | nil =>
          have fullLatest : ∀ part ∈ latest, part ≠ [] := fun part inside =>
            full part (by simp [inside])
          obtain ⟨three, last, rfl, fourth⟩ := flatten_cons fullLatest (by simpa using third)
          cases three with
          | nil => simp
          | cons unit three =>
              obtain ⟨rfl, rest⟩ := List.cons.inj fourth
              simp only [List.mem_cons, List.cons.injEq, reduceCtorEq, and_false, false_or,
                and_true] at rightPart
              have inside := apart _ _ ((rightPart.resolve_left
                fun same => distinct.1.2.2 same.symm).resolve_left
                fun same => distinct.2.1.2 same.symm)
              have tail : unit ∈ ([] : List α) := rest ▸ List.mem_append_right three inside
              cases tail

/-- The parts between the separators of a joined text are those of its texts. -/
theorem splitOn_join (texts : List JsString) (some : texts ≠ []) :
    (join [0] texts).splitOn 0 = (texts.map fun text => text.splitOn 0).flatten := by
  induction texts with
  | nil => exact absurd rfl some
  | cons text rest inductionHypothesis =>
      cases rest with
      | nil => simp [join]
      | cons next rest =>
          have joined : join [0] (text :: next :: rest) = text ++ 0 :: join [0] (next :: rest) := by
            simp [join]
          rw [joined, List.splitOn_append_cons_self, inductionHypothesis (by simp)]
          rfl

/-- An item that answers and has an outcome has its id, however its keys are joined. -/
theorem id_present {keys : List JsString} (same : sortedKeys keys = sortedKeys checklistKeys)
    (exception : js "exceptionReference" ∈ keys) (outcome : js "outcome" ∈ keys) :
    js "id" ∈ keys := by
  let ordered := keys.insertionSort (· ≤ ·)
  have within : ∀ key, key ∈ ordered ↔ key ∈ keys := fun key =>
    (List.perm_insertionSort (· ≤ ·) keys).mem_iff
  have nonempty : ordered ≠ [] := List.ne_nil_of_mem ((within _).mpr outcome)
  have split := splitOn_join ordered nonempty
  have whole : sortedKeys checklistKeys = join [0] checklistKeys := by decide +kernel
  have parts : (join [0] checklistKeys).splitOn 0 = [js "artifactIds", js "exceptionReference",
      js "id", js "outcome"] := by decide +kernel
  have own : ∀ key ∈ [js "exceptionReference", js "outcome"], key.splitOn 0 = [key] := by
    decide +kernel
  have joined : (join [0] ordered) = sortedKeys keys := rfl
  rw [joined, same, whole, parts] at split
  have single := part_between (fun part inside => ?_) split.symm (by decide +kernel)
    (List.mem_map.mpr ⟨_, (within _).mpr exception, own _ (by simp)⟩)
    (List.mem_map.mpr ⟨_, (within _).mpr outcome, own _ (by simp)⟩)
  · obtain ⟨key, inside, same⟩ := List.mem_map.mp single
    have text : [0].intercalate (key.splitOn 0) = key := List.intercalate_splitOn 0
    rw [same] at text
    have own : js "id" = key := by simpa using text
    rw [own]
    exact (within key).mp inside
  · obtain ⟨key, _, rfl⟩ := List.mem_map.mp inside
    exact List.splitOn_ne_nil 0 key

/-! ## What the package accepts -/

theorem ok_bind_iff {α β : Type} {first : Verified α} {next : α → Verified β} {result : β} :
    (first >>= next) = .ok result ↔ ∃ value, first = .ok value ∧ next value = .ok result := by
  cases first with
  | error failure =>
      constructor
      · intro impossible
        cases impossible
      · rintro ⟨value, impossible, _⟩
        cases impossible
  | ok value =>
      constructor
      · exact fun rest => ⟨value, rfl, rest⟩
      · rintro ⟨other, same, rest⟩
        cases same
        exact rest

theorem check_iff {holds : Bool} {code : String} {result : Unit} :
    check holds code = .ok result ↔ holds = true := by
  cases holds <;> simp [check, fail]

theorem textOr_iff {holds : JsString → Bool} {value : Value} {code : String} {text : JsString} :
    textOr holds value code = .ok text ↔ textWhere holds value = some text := by
  unfold textOr
  cases textWhere holds value <;> simp [fail]

theorem exactObject_iff {value : Value} {code : String} {keys : List JsString}
    {members : Members} :
    exactObject value code keys = .ok members ↔ exactMembers value keys = some members := by
  unfold exactObject
  cases exactMembers value keys <;> simp [fail]

theorem coerce_iff {value : Value} {text : JsString} :
    coerce value = .ok text ↔ toText value = some text := by
  unfold coerce
  cases toText value <;> simp

theorem mediaExtension_iff {key extension : JsString} :
    mediaExtension key = .ok extension ↔ mediaExtensions.lookup key = some extension := by
  unfold mediaExtension
  cases mediaExtensions.lookup key <;> simp [fail]

theorem checkPath_iff {paths : List JsString} {extension : JsString} {path : Value}
    {name : JsString} :
    checkPath paths extension path = .ok name ↔ stringText path = some name ∧
      (((js ".").isPrefixOf name = false ∧ forbiddenArtifactName name = false) ∧
        paths.contains name = false) ∧ (extname name).map lowerCase = extension := by
  cases path with
  | string own =>
      simp only [checkPath, ok_bind_iff, check_iff, exists_unit, stringText, Bool.and_eq_true,
        Bool.not_eq_true', beq_iff_eq, Option.some.injEq]
      constructor
      · rintro ⟨rules, result⟩
        cases result
        exact ⟨rfl, rules⟩
      · rintro ⟨rfl, rules⟩
        exact ⟨rules, rfl⟩
  | _ => simp [checkPath, stringText]

/-- The entry under which an artifact is checked. -/
def describedEntry (artifact : Artifact) : Value := .object [(js "id", artifact.id),
  (js "mediaType", artifact.mediaType), (js "path", artifact.path)]

def described (artifact : Artifact) : DescriptorArtifact :=
  ⟨artifact.id, artifact.mediaType, artifact.path⟩

theorem exactMembers_described (artifact : Artifact) :
    exactMembers (describedEntry artifact) descriptorArtifactKeys =
      some [(js "id", artifact.id), (js "mediaType", artifact.mediaType),
        (js "path", artifact.path)] := by
  simp only [exactMembers, describedEntry]
  exact if_pos rfl

theorem descriptorArtifact_iff {ids : List Value} {paths : List JsString} {artifact : Artifact}
    {descriptor : DescriptorArtifact} {name : JsString} :
    descriptorArtifact ids paths (describedEntry artifact) = .ok (descriptor, name) ↔
      descriptor = described artifact ∧ ReadsIdentifier toText artifact.id ∧
        has ids artifact.id = false ∧ stringText artifact.path = some name ∧
        MediaRule toText paths artifact.mediaType name := by
  have id : Value.member [(js "id", artifact.id), (js "mediaType", artifact.mediaType),
      (js "path", artifact.path)] (js "id") = artifact.id := rfl
  have mediaType : Value.member [(js "id", artifact.id), (js "mediaType", artifact.mediaType),
      (js "path", artifact.path)] (js "mediaType") = artifact.mediaType := rfl
  have path : Value.member [(js "id", artifact.id), (js "mediaType", artifact.mediaType),
      (js "path", artifact.path)] (js "path") = artifact.path := rfl
  simp only [descriptorArtifact, ok_bind_iff, exactObject_iff, exactMembers_described,
    Option.some.injEq, exists_eq_left', id, mediaType, path, coerce_iff, check_iff, exists_unit,
    mediaExtension_iff, checkPath_iff, Bool.and_eq_true, Bool.not_eq_true']
  constructor
  · rintro ⟨idText, read, ⟨identifier, fresh⟩, key, media, extension, found, pathText, converted,
      filename, own, ⟨ownText, ⟨⟨visible, allowed⟩, unseen⟩, same⟩, result⟩
    cases result
    rw [toText_of_stringText ownText] at converted
    cases converted
    exact ⟨rfl, ⟨idText, read, identifier⟩, fresh, ownText, key, extension, media, found,
      ⟨filename, visible, allowed, unseen, same⟩⟩
  · rintro ⟨rfl, ⟨idText, read, identifier⟩, fresh, ownText, key, extension, media, found, rule⟩
    exact ⟨idText, read, ⟨identifier, fresh⟩, key, media, extension, found, name,
      toText_of_stringText ownText, rule.filename, name,
      ⟨ownText, ⟨⟨rule.visible, rule.allowed⟩, rule.fresh⟩, rule.extension⟩, rfl⟩

/-- What the first pass over the artifacts asks of one. -/
structure SizedArtifact (members : Members) (artifact : Artifact) : Prop where
  bytes : artifactBytes (Value.member members (js "bytes")) = some artifact.bytes
  id : Value.member members (js "id") = artifact.id
  mediaType : Value.member members (js "mediaType") = artifact.mediaType
  path : Value.member members (js "path") = artifact.path
  sha256 : textWhere isDigest (Value.member members (js "sha256")) = some artifact.sha256

theorem manifestArtifact_iff {entry : Value} {artifact : Artifact} :
    manifestArtifact entry = .ok artifact ↔ ∃ members,
      exactMembers entry artifactKeys = some members ∧ SizedArtifact members artifact := by
  simp only [manifestArtifact, ok_bind_iff, exactObject_iff]
  constructor
  · rintro ⟨members, exact, accepted⟩
    split at accepted
    case h_1 => cases accepted
    case h_2 bytes size =>
      simp only [ok_bind_iff, PilotGate.sha256, textOr_iff] at accepted
      obtain ⟨digest, hashed, result⟩ := accepted
      cases result
      exact ⟨members, exact, size, rfl, rfl, rfl, hashed⟩
  · rintro ⟨members, exact, sized⟩
    refine ⟨members, exact, ?_⟩
    rw [sized.bytes]
    simp only [ok_bind_iff, PilotGate.sha256, textOr_iff]
    refine ⟨artifact.sha256, sized.sha256, ?_⟩
    rw [sized.id, sized.mediaType, sized.path]
    rfl

/-- The two passes of the package together are the one of the import. -/
theorem artifactPasses_iff {ids : List Value} {paths : List JsString} {entries : List Value}
    {artifacts : List Artifact} {descriptors : List DescriptorArtifact} :
    manifestArtifactList entries = .ok artifacts ∧
        descriptorArtifacts ids paths (artifacts.map describedEntry) = .ok descriptors ↔
      Listed toText ids paths entries artifacts ∧ descriptors = artifacts.map described := by
  induction entries generalizing ids paths artifacts descriptors with
  | nil =>
      constructor
      · rintro ⟨first, second⟩
        cases first
        cases second
        exact ⟨.nil ids paths, rfl⟩
      · rintro ⟨listed, rfl⟩
        cases listed
        exact ⟨rfl, rfl⟩
  | cons entry rest inductionHypothesis =>
      simp only [manifestArtifactList, ok_bind_iff, manifestArtifact_iff]
      constructor
      · rintro ⟨⟨artifact, ⟨members, exact, sized⟩, later, others, result⟩, second⟩
        cases result
        simp only [List.map_cons, descriptorArtifacts, ok_bind_iff, Prod.exists,
          descriptorArtifact_iff] at second
        obtain ⟨descriptor, name, ⟨rfl, identifier, fresh, pathText, media⟩, tail, following,
          result⟩ := second
        cases result
        obtain ⟨listed, rfl⟩ := inductionHypothesis.mp ⟨others, following⟩
        exact ⟨.cons exact ⟨sized.bytes, sized.id, sized.mediaType, sized.path, sized.sha256,
          identifier, fresh, pathText, media⟩ listed, rfl⟩
      · rintro ⟨_ | @⟨_, _, _, _, members, artifact, path, later, exact, rule, others⟩, rfl⟩
        obtain ⟨first, second⟩ := inductionHypothesis.mpr ⟨others, rfl⟩
        refine ⟨⟨artifact, ⟨members, exact, rule.bytes, rule.id, rule.mediaType, rule.samePath,
          rule.sha256⟩, later, first, rfl⟩, ?_⟩
        simp only [List.map_cons, descriptorArtifacts, ok_bind_iff, Prod.exists,
          descriptorArtifact_iff]
        exact ⟨described artifact, path, ⟨rfl, rule.identifier, rule.fresh, rule.pathText,
          rule.media⟩, _, second, rfl⟩

theorem knownArtifacts_iff {artifactIds ids : List Value} :
    knownArtifacts artifactIds ids = .ok true ↔
      ∀ id ∈ ids, ReadsIdentifier toText id ∧ has artifactIds id = true := by
  induction ids with
  | nil => simp [knownArtifacts]
  | cons id rest inductionHypothesis =>
      simp only [knownArtifacts, ok_bind_iff, coerce_iff, List.forall_mem_cons,
        ← inductionHypothesis]
      constructor
      · rintro ⟨text, read, accepted⟩
        split at accepted
        case isTrue known =>
          rw [Bool.and_eq_true] at known
          exact ⟨⟨⟨text, read, known.1⟩, known.2⟩, accepted⟩
        case isFalse => cases accepted
      · rintro ⟨⟨⟨text, read, identifier⟩, found⟩, others⟩
        exact ⟨text, read, by rw [identifier, found]; exact others⟩

theorem checklistArtifacts_iff {artifactIds : List Value} {value : Value} {ids : List Value} :
    checklistArtifacts artifactIds value = .ok ids ↔ boundedArray value = some ids ∧
      (∀ id ∈ ids, ReadsIdentifier toText id ∧ has artifactIds id = true) ∧
      (newSet ids).length = ids.length ∧ inOrder ids = true := by
  unfold checklistArtifacts
  cases boundedArray value with
  | none => simp [fail]
  | some own =>
      simp only [ok_bind_iff, check_iff, exists_unit, Bool.and_eq_true, beq_iff_eq,
        Option.some.injEq]
      constructor
      · rintro ⟨known, checked, ⟨⟨rfl, distinct⟩, order⟩, result⟩
        cases result
        exact ⟨rfl, knownArtifacts_iff.mp checked, distinct, order⟩
      · rintro ⟨rfl, known, distinct, order⟩
        exact ⟨true, knownArtifacts_iff.mpr known, ⟨⟨rfl, distinct⟩, order⟩, rfl⟩

theorem checklistOutcome_iff {value : Value} {outcome : Outcome} :
    checklistOutcome value = .ok outcome ↔ outcomeOf value = some outcome := by
  unfold checklistOutcome
  cases outcomeOf value <;> simp [fail]

theorem exceptionReference_iff {outcome : Outcome} {value : Value} {result : Option JsString} :
    exceptionReference outcome value = .ok result ↔
      normalizeException outcome value = some result := by
  cases outcome with
  | satisfied => cases value <;> simp [exceptionReference, normalizeException, fail]
  | acceptedException =>
      simp only [exceptionReference, normalizeException, reference, textOr]
      cases textWhere opaqueReference value <;> simp [fail, Except.map]

/-- What the package asks of an answer, whatever is required at its index. -/
theorem checklistItem_iff {artifactIds : List Value} {required : Option JsString} {entry : Value}
    {item : ChecklistItem} :
    checklistItem artifactIds required entry = .ok item ↔ ∃ members,
      exactMembers entry checklistKeys = some members ∧
      isItem (Value.member members (js "id")) required = true ∧
      (boundedArray (Value.member members (js "artifactIds")) = some item.artifactIds ∧
        (∀ id ∈ item.artifactIds, ReadsIdentifier toText id ∧ has artifactIds id = true) ∧
        (newSet item.artifactIds).length = item.artifactIds.length ∧
        inOrder item.artifactIds = true) ∧
      outcomeOf (Value.member members (js "outcome")) = some item.outcome ∧
      normalizeException item.outcome (Value.member members (js "exceptionReference")) =
        some item.exceptionReference ∧ item.id = Value.member members (js "id") := by
  simp only [checklistItem, ok_bind_iff, exactObject_iff, check_iff, exists_unit,
    checklistArtifacts_iff, checklistOutcome_iff, exceptionReference_iff]
  constructor
  · rintro ⟨members, exact, id, ids, named, outcome, same, exception, excepted, result⟩
    cases result
    exact ⟨members, exact, id, named, same, excepted, rfl⟩
  · rintro ⟨members, exact, id, named, outcome, excepted, same⟩
    refine ⟨members, exact, id, item.artifactIds, named, item.outcome, outcome,
      item.exceptionReference, excepted, ?_⟩
    rw [← same]
    rfl

theorem answerRule_iff {artifactIds : List Value} {required : JsString} {entry : Value}
    {item : ChecklistItem} :
    checklistItem artifactIds (some required) entry = .ok item ↔ ∃ members,
      exactMembers entry checklistKeys = some members ∧
      AnswerRule toText artifactIds required members item := by
  rw [checklistItem_iff]
  simp only [isItem, beq_iff_eq]
  constructor
  · rintro ⟨members, exact, id, ⟨ids, known, distinct, order⟩, outcome, exception, same⟩
    exact ⟨members, exact, id, by rw [same, stringText_eq_some.mp id], ids, known, distinct, order,
      outcome, exception⟩
  · rintro ⟨members, exact, rule⟩
    exact ⟨members, exact, rule.id, ⟨rule.ids, rule.known, rule.distinct, rule.order⟩,
      rule.outcome, rule.exception, by rw [rule.sameId, stringText_eq_some.mp rule.id]⟩

/-- No answer passes where nothing is required: its id would be absent, and its
keys then lack its exception or its outcome as well. -/
theorem checklistItem_required {artifactIds : List Value} {entry : Value} {item : ChecklistItem}
    (defined : Defined entry) : checklistItem artifactIds none entry ≠ .ok item := by
  intro accepted
  obtain ⟨members, exact, absent, _, outcome, exception, _⟩ := checklistItem_iff.mp accepted
  cases entry with
  | object own =>
      simp only [exactMembers] at exact
      split at exact
      case isTrue keys =>
        obtain rfl := Option.some.inj exact
        have hasOutcome : js "outcome" ∈ own.map Prod.fst := by
          refine key_present ?_
          have found := List.find?_some outcome
          cases shape : Value.member own (js "outcome") <;>
            simp_all [stringText, Value.isUndefined]
        have hasException : js "exceptionReference" ∈ own.map Prod.fst := by
          refine key_present ?_
          cases shape : Value.member own (js "exceptionReference") <;>
            simp_all [normalizeException, textWhere, stringText, Value.isUndefined]
          cases kind : item.outcome <;> simp_all
        exact key_absent defined absent (id_present keys hasException hasOutcome)
      case isFalse => cases exact
  | _ => cases exact

theorem checklistItems_iff {artifactIds : List Value} {required : List JsString}
    {entries : List Value} {items : List ChecklistItem}
    (length : required.length = entries.length) :
    checklistItems artifactIds required entries = .ok items ↔
      Answers toText artifactIds required entries items := by
  induction entries generalizing required items with
  | nil =>
      obtain rfl := List.length_eq_zero_iff.mp length
      constructor
      · intro accepted
        cases accepted
        exact .nil
      · intro answers
        cases answers
        rfl
  | cons entry rest inductionHypothesis =>
      cases required with
      | nil => cases length
      | cons required others =>
          have shorter : others.length = rest.length := by simpa using length
          simp only [checklistItems, List.head?_cons, List.tail_cons, ok_bind_iff, answerRule_iff,
            inductionHypothesis shorter]
          constructor
          · rintro ⟨item, ⟨members, exact, rule⟩, later, answers, result⟩
            cases result
            exact .cons exact rule answers
          · rintro (_ | @⟨_, _, _, _, members, item, later, exact, rule, answers⟩)
            exact ⟨item, ⟨members, exact, rule⟩, later, answers, rfl⟩

theorem answers_length {reads : Reads} {artifactIds : List Value} {required : List JsString}
    {entries : List Value} {items : List ChecklistItem}
    (answers : Answers reads artifactIds required entries items) :
    required.length = entries.length := by
  induction answers with
  | nil => rfl
  | cons _ _ _ inductionHypothesis => simp [inductionHypothesis]

/-- A checklist that answers for at least one artifact is that of an own gate. -/
theorem validateChecklist_iff {key : JsString} {required : Required} {value : Value}
    {artifactIds : List Value} {items : List ChecklistItem} (defined : Defined value)
    (known : checklistOf key = some required)
    (referenced : 0 < (newSet (items.flatMap ChecklistItem.artifactIds)).length) :
    validateChecklist value required artifactIds = .ok items ↔ ∃ own answers,
      CHECKLISTS.lookup key = some own ∧ value = .array answers ∧
      Answers toText artifactIds own answers items := by
  unfold checklistOf at known
  cases found : CHECKLISTS.lookup key with
  | some own =>
      rw [found] at known
      cases known
      cases value with
      | array entries =>
          simp only [validateChecklist, ok_bind_iff, check_iff, exists_unit, beq_iff_eq,
            Option.some.injEq, Value.array.injEq]
          constructor
          · rintro ⟨length, accepted⟩
            exact ⟨own, entries, rfl, rfl, (checklistItems_iff length).mp accepted⟩
          · rintro ⟨_, _, rfl, rfl, answers⟩
            have length := answers_length answers
            exact ⟨length, (checklistItems_iff length).mpr answers⟩
      | _ => simp [validateChecklist, fail]
  | none =>
      rw [found] at known
      obtain ⟨length, _, rfl⟩ := Option.map_eq_some_iff.mp known
      constructor
      · intro accepted
        cases value with
        | array entries =>
            simp only [validateChecklist, ok_bind_iff, check_iff, exists_unit] at accepted
            obtain ⟨_, accepted⟩ := accepted
            cases entries with
            | nil =>
                cases accepted
                simp [newSet] at referenced
            | cons entry rest =>
                simp only [checklistItems, ok_bind_iff, List.head?_nil] at accepted
                obtain ⟨item, first, _⟩ := accepted
                exact absurd first (checklistItem_required defined.1)
        | _ => cases accepted
      · rintro ⟨own, _, impossible, _⟩
        cases impossible

theorem listed_length {reads : Reads} {ids : List Value} {paths : List JsString}
    {entries : List Value} {artifacts : List Artifact}
    (listed : Listed reads ids paths entries artifacts) : entries.length = artifacts.length := by
  induction listed with
  | nil => rfl
  | cons _ _ _ inductionHypothesis => simp [inductionHypothesis]

theorem boundedArray_iff {value : Value} {entries : List Value} :
    boundedArray value = some entries ↔
      value = .array entries ∧ entries ≠ [] ∧ entries.length ≤ MAXIMUM_ARTIFACTS := by
  cases value with
  | array own =>
      simp only [boundedArray, Value.array.injEq]
      constructor
      · intro accepted
        split at accepted
        case isTrue bounds =>
          cases accepted
          exact ⟨rfl, bounds⟩
        case isFalse => cases accepted
      · rintro ⟨rfl, bounds⟩
        exact if_pos bounds
  | _ => simp [boundedArray]

theorem validateDescriptorArtifacts_iff {artifacts : List Artifact}
    {descriptors : List DescriptorArtifact} :
    validateDescriptorArtifacts (.array (artifacts.map describedEntry)) = .ok descriptors ↔
      (artifacts ≠ [] ∧ artifacts.length ≤ MAXIMUM_ARTIFACTS) ∧
      descriptorArtifacts [] [] (artifacts.map describedEntry) = .ok descriptors ∧
      inOrder (descriptors.map DescriptorArtifact.id) = true := by
  unfold validateDescriptorArtifacts
  cases bounded : boundedArray (.array (artifacts.map describedEntry)) with
  | none =>
      constructor
      · intro accepted
        cases accepted
      · rintro ⟨bounds, _⟩
        have accepted : boundedArray (.array (artifacts.map describedEntry)) =
            some (artifacts.map describedEntry) :=
          boundedArray_iff.mpr ⟨rfl, by simpa using bounds.1, by simpa using bounds.2⟩
        rw [bounded] at accepted
        cases accepted
  | some entries =>
      obtain ⟨same, bounds⟩ := boundedArray_iff.mp bounded
      cases same
      simp only [ok_bind_iff, check_iff, exists_unit]
      constructor
      · rintro ⟨own, accepted, order, result⟩
        cases result
        exact ⟨by simpa using bounds, accepted, order⟩
      · rintro ⟨_, accepted, order⟩
        exact ⟨descriptors, accepted, order, rfl⟩

theorem requiredChecklist_iff {gateId : Value} {required : Required} :
    requiredChecklist gateId = .ok required ↔
      ∃ key, toText gateId = some key ∧ checklistOf key = some required := by
  simp only [requiredChecklist, ok_bind_iff, coerce_iff]
  refine exists_congr fun key => and_congr_right fun _ => ?_
  cases checklistOf key <;> simp [fail]

/-- The texts that a descriptor carries besides its artifacts and checklist. -/
structure Referred (members : Members) (descriptor : Descriptor) : Prop where
  evidenceReference : textWhere opaqueReference (Value.member members (js "evidenceReference")) =
    some descriptor.evidenceReference
  gateId : Value.member members (js "gateId") = descriptor.gateId
  reviewedAt : textWhere IsoTime.isCanonicalTimestamp (Value.member members (js "reviewedAt")) =
    some descriptor.reviewedAt
  reviewerReference : textWhere opaqueReference (Value.member members (js "reviewerReference")) =
    some descriptor.reviewerReference
  scopeReference : textWhere opaqueReference (Value.member members (js "scopeReference")) =
    some descriptor.scopeReference

theorem validatePilotGateDescriptor_iff {members : Members} {artifacts : List Artifact}
    {descriptor : Descriptor} :
    validatePilotGateDescriptor (.object (descriptorMembers members artifacts)) =
        .ok descriptor ↔
      validateDescriptorArtifacts (.array (artifacts.map describedEntry)) =
          .ok descriptor.artifacts ∧
      (∃ required, requiredChecklist descriptor.gateId = .ok required ∧
        validateChecklist (Value.member members (js "checklist")) required
          (newSet (descriptor.artifacts.map DescriptorArtifact.id)) = .ok descriptor.checklist) ∧
      (newSet (descriptor.checklist.flatMap ChecklistItem.artifactIds)).length =
        descriptor.artifacts.length ∧ Referred members descriptor := by
  have exact : exactMembers (.object (descriptorMembers members artifacts)) descriptorKeys =
      some (descriptorMembers members artifacts) := by
    simp only [exactMembers]
    exact if_pos rfl
  have schema : Value.member (descriptorMembers members artifacts) (js "schema") =
      .string DESCRIPTOR_SCHEMA := rfl
  have listed : Value.member (descriptorMembers members artifacts) (js "artifacts") =
      .array (artifacts.map describedEntry) := rfl
  have same : ∀ key ∈ [js "checklist", js "evidenceReference", js "gateId", js "reviewedAt",
      js "reviewerReference", js "scopeReference"],
      Value.member (descriptorMembers members artifacts) key = Value.member members key := by
    intro key inside
    fin_cases inside <;> rfl
  have checklist := same (js "checklist") (by simp)
  have evidence := same (js "evidenceReference") (by simp)
  have gate := same (js "gateId") (by simp)
  have reviewed := same (js "reviewedAt") (by simp)
  have reviewer := same (js "reviewerReference") (by simp)
  have scope := same (js "scopeReference") (by simp)
  simp only [validatePilotGateDescriptor, ok_bind_iff, exactObject_iff, exact, Option.some.injEq,
    exists_eq_left', schema, listed, checklist, evidence, gate, reviewed, reviewer, scope,
    check_iff, exists_unit, beq_iff_eq, reference, canonicalTimestamp, textOr_iff]
  constructor
  · rintro ⟨_, required, found, own, accepted, answers, answered, referenced, evidenceReference,
      hasEvidence, reviewedAt, hasTime, reviewerReference, hasReviewer, scopeReference, hasScope,
      result⟩
    cases result
    exact ⟨accepted, ⟨required, found, answered⟩, referenced, hasEvidence, rfl, hasTime,
      hasReviewer, hasScope⟩
  · rintro ⟨accepted, ⟨required, found, answered⟩, referenced, referred⟩
    rw [← referred.gateId] at found
    refine ⟨rfl, required, found, descriptor.artifacts, accepted, descriptor.checklist, answered,
      referenced, descriptor.evidenceReference, referred.evidenceReference, descriptor.reviewedAt,
      referred.reviewedAt, descriptor.reviewerReference, referred.reviewerReference,
      descriptor.scopeReference, referred.scopeReference, ?_⟩
    rw [referred.gateId]
    rfl

theorem defined_array {members : Members} (defined : DefinedMembers members) {key : JsString}
    {items : List Value} (same : Value.member members key = .array items) :
    Defined (.array items) := by
  unfold Value.member at same
  cases look : members.lookup key with
  | none => simp [look] at same
  | some value =>
      obtain ⟨before, after, split, _⟩ := List.lookup_eq_some_iff.mp look
      have whole := (definedMembers_iff members).mp defined (key, value) (by rw [split]; simp)
      rw [look, Option.getD_some] at same
      rwa [same] at whole

theorem manifestArtifacts_iff {value : Value} {artifacts : List Artifact} :
    manifestArtifacts value = .ok artifacts ↔ ∃ entries, boundedArray value = some entries ∧
      manifestArtifactList entries = .ok artifacts := by
  unfold manifestArtifacts
  cases boundedArray value <;> simp [fail]

/-- The package accepts exactly the documents of a manifest whose ids read as texts. -/
theorem validatePilotGateManifest_iff {sha256Hex : JsString → JsString} {value : Value}
    {manifest : Manifest} (defined : Defined value) :
    validatePilotGateManifest sha256Hex value = .ok manifest ↔
      ∃ members, exactMembers value manifestKeys = some members ∧
        Evident sha256Hex toText members manifest := by
  have inside : ∀ {members : Members}, exactMembers value manifestKeys = some members →
      DefinedMembers members := by
    intro members exact
    cases value with
    | object own =>
        simp only [exactMembers] at exact
        split at exact
        · cases exact
          exact defined
        · cases exact
    | _ => cases exact
  have ids : ∀ artifacts : List Artifact,
      (artifacts.map described).map DescriptorArtifact.id = artifacts.map Artifact.id := by
    intro artifacts
    simp [described]
  simp only [validatePilotGateManifest, ok_bind_iff, exactObject_iff, check_iff, exists_unit,
    beq_iff_eq, decide_eq_true_eq, PilotGate.sha256, textOr_iff, validatePilotGateDescriptor_iff,
    manifestArtifacts_iff, validateDescriptorArtifacts_iff, requiredChecklist_iff]
  constructor
  · rintro ⟨members, exact, schema, limitations, artifacts, ⟨entries, bounded, sized⟩, total,
      ⟨descriptors, checklist, evidenceReference, gateId, reviewedAt, reviewerReference,
        scopeReference⟩, ⟨⟨bounds, accepted, order⟩, ⟨required, ⟨key, gate, known⟩, answered⟩,
        referenced, referred⟩, packageDigest, package, digest, result⟩
    cases result
    obtain ⟨listed, rfl⟩ := artifactPasses_iff.mp ⟨sized, accepted⟩
    dsimp only at bounds order gate answered referenced
    rw [ids] at order answered
    rw [List.length_map] at referenced
    have positive : 0 < (newSet (checklist.flatMap ChecklistItem.artifactIds)).length := by
      rw [referenced]
      exact List.length_pos_iff.mpr bounds.1
    obtain ⟨answers, same⟩ : ∃ answers,
        Value.member members (js "checklist") = .array answers := by
      unfold validateChecklist at answered
      split at answered
      case h_1 answers same => exact ⟨answers, same⟩
      case h_2 => cases answered
    rw [same] at answered
    obtain ⟨own, _, found, own', answers⟩ := (validateChecklist_iff (defined_array (inside exact)
      same) known positive).mp answered
    cases own'
    exact ⟨members, exact, schema, limitations, ⟨entries, _, key, own, bounded, listed, total,
      order, referred.gateId, gate, found, same, answers, referenced⟩, referred.evidenceReference,
      referred.reviewedAt, referred.reviewerReference, referred.scopeReference, package, digest⟩
  · rintro ⟨members, exact, evident⟩
    obtain ⟨entries, answers, key, required, indexed⟩ := evident.indexed
    obtain ⟨sized, accepted⟩ := artifactPasses_iff.mpr ⟨indexed.artifacts, rfl⟩
    have length := listed_length indexed.artifacts
    obtain ⟨_, nonempty, short⟩ := boundedArray_iff.mp indexed.bounded
    have bounds : manifest.artifacts ≠ [] ∧ manifest.artifacts.length ≤ MAXIMUM_ARTIFACTS := by
      constructor
      · rw [← List.length_pos_iff, ← length]
        exact List.length_pos_iff.mpr nonempty
      · exact length ▸ short
    have positive : 0 < (newSet (manifest.checklist.flatMap ChecklistItem.artifactIds)).length := by
      rw [indexed.referenced]
      exact List.length_pos_iff.mpr bounds.1
    have known : checklistOf key = some ⟨some required.length, required⟩ := by
      rw [checklistOf, indexed.listed]
    have answered := (validateChecklist_iff (defined_array (inside exact) indexed.answered) known
      positive).mpr ⟨required, answers, indexed.listed, rfl, indexed.checklist⟩
    rw [← indexed.answered, ← ids] at answered
    refine ⟨members, exact, evident.schema, evident.limitations, manifest.artifacts,
      ⟨entries, indexed.bounded, sized⟩, indexed.total,
      ⟨manifest.artifacts.map described, manifest.checklist, manifest.evidenceReference,
        manifest.gateId, manifest.reviewedAt, manifest.reviewerReference,
        manifest.scopeReference⟩,
      ⟨⟨bounds, accepted, by rw [ids]; exact indexed.order⟩,
        ⟨_, ⟨key, indexed.gate, known⟩, answered⟩,
        by rw [List.length_map]; exact indexed.referenced,
        ⟨evident.evidenceReference, indexed.gateId, evident.reviewedAt, evident.reviewerReference,
          evident.scopeReference⟩⟩, manifest.packageDigest, evident.packageDigest,
      evident.digest, rfl⟩

/-! ## Agreement -/

/-- The gate, the ids and the media types of a manifest are strings. -/
def Stringly (manifest : Manifest) : Prop :=
  isString manifest.gateId = true ∧ ∀ artifact ∈ manifest.artifacts,
    isString artifact.id = true ∧ isString artifact.mediaType = true

theorem ReadsIdentifier.coerced {id : Value} (reads : ReadsIdentifier stringText id) :
    ReadsIdentifier toText id := by
  obtain ⟨text, read, identifier⟩ := reads
  exact ⟨text, toText_of_stringText read, identifier⟩

theorem ReadsIdentifier.uncoerced {id : Value} (string : isString id = true)
    (reads : ReadsIdentifier toText id) : ReadsIdentifier stringText id := by
  obtain ⟨text, read, identifier⟩ := reads
  exact ⟨text, stringText_of_toText string read, identifier⟩

theorem Listed.coerced {ids : List Value} {paths : List JsString} {entries : List Value}
    {artifacts : List Artifact} (listed : Listed stringText ids paths entries artifacts) :
    Listed toText ids paths entries artifacts ∧ ∀ artifact ∈ artifacts,
      isString artifact.id = true ∧ isString artifact.mediaType = true := by
  induction listed with
  | nil ids paths => exact ⟨.nil ids paths, by simp⟩
  | cons exact rule others inductionHypothesis =>
      obtain ⟨key, extension, read, found, path⟩ := rule.media
      obtain ⟨text, own, _⟩ := rule.identifier
      refine ⟨.cons exact { rule with
        identifier := rule.identifier.coerced
        media := ⟨key, extension, toText_of_stringText read, found, path⟩ }
          inductionHypothesis.1, ?_⟩
      rw [List.forall_mem_cons]
      exact ⟨⟨by simp [isString, own], by simp [isString, read]⟩, inductionHypothesis.2⟩

theorem Listed.uncoerced {ids : List Value} {paths : List JsString} {entries : List Value}
    {artifacts : List Artifact} (listed : Listed toText ids paths entries artifacts)
    (strings : ∀ artifact ∈ artifacts,
      isString artifact.id = true ∧ isString artifact.mediaType = true) :
    Listed stringText ids paths entries artifacts := by
  induction listed with
  | nil ids paths => exact .nil ids paths
  | cons exact rule others inductionHypothesis =>
      rw [List.forall_mem_cons] at strings
      obtain ⟨key, extension, read, found, path⟩ := rule.media
      exact .cons exact { rule with
        identifier := rule.identifier.uncoerced strings.1.1
        media := ⟨key, extension, stringText_of_toText strings.1.2 read, found, path⟩ }
          (inductionHypothesis strings.2)

theorem Answers.coerced {artifactIds : List Value} {required : List JsString}
    {entries : List Value} {items : List ChecklistItem}
    (answers : Answers stringText artifactIds required entries items) :
    Answers toText artifactIds required entries items := by
  induction answers with
  | nil => exact .nil
  | cons exact rule answers inductionHypothesis =>
      exact .cons exact { rule with
        known := fun id inside => ⟨(rule.known id inside).1.coerced, (rule.known id inside).2⟩ }
          inductionHypothesis

/-- An answer names artifacts, so its ids are strings where theirs are. -/
theorem Answers.uncoerced {artifactIds : List Value} {required : List JsString}
    {entries : List Value} {items : List ChecklistItem}
    (answers : Answers toText artifactIds required entries items)
    (strings : ∀ id ∈ artifactIds, isString id = true) :
    Answers stringText artifactIds required entries items := by
  induction answers with
  | nil => exact .nil
  | cons exact rule answers inductionHypothesis =>
      refine .cons exact { rule with known := fun id inside => ?_ } inductionHypothesis
      obtain ⟨reads, found⟩ := rule.known id inside
      exact ⟨reads.uncoerced (isString_of_has strings found), found⟩

theorem mem_newSet {items : List Value} {value : Value} (inside : value ∈ newSet items) :
    value ∈ items := by
  have each : ∀ (rest built : List Value), value ∈ rest.foldl add built →
      value ∈ built ∨ value ∈ rest := by
    intro rest
    induction rest with
    | nil => exact fun built inside => .inl inside
    | cons item rest inductionHypothesis =>
        intro built inside
        rcases inductionHypothesis _ inside with old | new
        · unfold add at old
          split at old
          · exact .inl old
          · rcases List.mem_append.mp old with old | new
            · exact .inl old
            · exact .inr (by simp [List.mem_singleton.mp new])
        · exact .inr (by simp [new])
  exact (each items [] inside).resolve_left (by simp)

/-- The import reads exactly those manifests of the package whose ids are strings. -/
theorem evident_stringText_iff {sha256Hex : JsString → JsString} {members : Members}
    {manifest : Manifest} :
    Evident sha256Hex stringText members manifest ↔
      Evident sha256Hex toText members manifest ∧ Stringly manifest := by
  constructor
  · intro evident
    obtain ⟨entries, answers, key, required, indexed⟩ := evident.indexed
    obtain ⟨listed, strings⟩ := indexed.artifacts.coerced
    have gate : isString manifest.gateId = true := by simp [isString, indexed.gate]
    exact ⟨{ evident with indexed := ⟨entries, answers, key, required, { indexed with
      artifacts := listed
      gate := toText_of_stringText indexed.gate
      checklist := indexed.checklist.coerced }⟩ }, gate, strings⟩
  · rintro ⟨evident, gate, strings⟩
    obtain ⟨entries, answers, key, required, indexed⟩ := evident.indexed
    have ids : ∀ id ∈ newSet (manifest.artifacts.map Artifact.id), isString id = true := by
      intro id inside
      obtain ⟨artifact, member, rfl⟩ := List.mem_map.mp (mem_newSet inside)
      exact (strings artifact member).1
    exact { evident with indexed := ⟨entries, answers, key, required, { indexed with
      artifacts := indexed.artifacts.uncoerced strings
      gate := stringText_of_toText gate indexed.gate
      checklist := indexed.checklist.uncoerced ids }⟩ }

/-- What the two verifiers report of one file is the same. -/
structure Same (imported : PilotGateManifestImport)
    (outcome : Verification × AdmissionEvidence) : Prop where
  approval : imported.approval = outcome.2
  artifacts : imported.artifacts = outcome.1.artifacts
  checklistItems : imported.checklistItems = outcome.1.checklistItems
  exceptions : imported.exceptions = outcome.1.exceptions
  gateId : imported.gateId = outcome.1.gateId
  packageSha256 : imported.packageSha256 = outcome.1.packageSha256
  totalBytes : imported.totalBytes = outcome.1.totalBytes

/-- The import takes a file for some gate exactly when the package accepts it, and
then both report the same. The gate can only be the manifest's own. -/
def Agree (sha256Hex : JsString → JsString) (contents : List Byte) : Prop :=
  (∀ expectedGateId imported,
    verifyPilotGateManifestFile sha256Hex contents expectedGateId = some imported →
      ∃ outcome, verifyOffline sha256Hex contents = .ok outcome ∧ Same imported outcome) ∧
  ∀ outcome, verifyOffline sha256Hex contents = .ok outcome →
    ∃ expectedGateId imported,
      verifyPilotGateManifestFile sha256Hex contents expectedGateId = some imported ∧
        Same imported outcome

/-- A file is the canonical text of a manifest, its ids read in a given way. -/
structure Canonical (sha256Hex : JsString → JsString) (reads : Reads) (contents : List Byte)
    (manifest : Manifest) (text : JsString) (value : Value) (members : Members) : Prop where
  size : 1 ≤ contents.length ∧ contents.length ≤ MAXIMUM_MANIFEST_BYTES
  decoded : decodeFatal contents = some text
  visible : text.contains 0 = false
  parsed : parse text = some value
  exact : exactMembers value manifestKeys = some members
  evident : Evident sha256Hex reads members manifest
  text : prettyCanonicalJSON (manifestValue manifest) = text

/-- A canonical manifest in which the gate, the id of an artifact or a media type
is no string and only reads as one: an array of one text, or one of the words
true, false and null. -/
def Coerced (sha256Hex : JsString → JsString) (contents : List Byte) : Prop :=
  ∃ manifest text value members,
    Canonical sha256Hex toText contents manifest text value members ∧ ¬Stringly manifest

section

variable {sha256Hex : JsString → JsString} {contents : List Byte}

/-- What the package reports of a file it accepts. -/
theorem verifyOffline_iff {outcome : Verification × AdmissionEvidence} :
    verifyOffline sha256Hex contents = .ok outcome ↔ ∃ manifest text value members,
      Canonical sha256Hex toText contents manifest text value members ∧
      outcome = (verificationResult manifest,
        ⟨manifest.packageDigest, manifest.evidenceReference, manifest.reviewerReference⟩) := by
  simp only [verifyOffline, readCanonicalManifest, pilotGateManifestJSON,
    pilotGateAdmissionEvidence, ok_bind_iff, check_iff, exists_unit, decide_eq_true_eq, beq_iff_eq]
  constructor
  · rintro ⟨value, ⟨size, text, decoded, own, parsed, canonical, ⟨manifest, accepted, printed⟩,
      same, result⟩, other, again, evidence, ⟨third, once, reported⟩, answer⟩
    obtain rfl := Except.ok.inj result
    obtain rfl := Except.ok.inj printed
    obtain rfl := Except.ok.inj reported
    obtain rfl := Except.ok.inj answer
    rw [accepted] at again once
    obtain rfl := Except.ok.inj again
    obtain rfl := Except.ok.inj once
    unfold decodedText at decoded
    unfold parsedText at parsed
    split at decoded
    case h_1 => cases decoded
    case h_2 own found =>
      simp only [ok_bind_iff, check_iff, exists_unit, Bool.not_eq_true'] at decoded
      obtain ⟨visible, result⟩ := decoded
      obtain rfl := Except.ok.inj result
      split at parsed
      case h_1 => cases parsed
      case h_2 read =>
        obtain rfl := Except.ok.inj parsed
        obtain ⟨members, exact, evident⟩ :=
          (validatePilotGateManifest_iff (parse_defined read)).mp accepted
        exact ⟨manifest, _, _, members,
          ⟨size, found, visible, read, exact, evident, same⟩, rfl⟩
  · rintro ⟨manifest, text, value, members, canonical, rfl⟩
    have accepted := (validatePilotGateManifest_iff (parse_defined canonical.parsed)).mpr
      ⟨members, canonical.exact, canonical.evident⟩
    have decoded : decodedText contents = .ok text := by
      rw [decodedText, canonical.decoded]
      simp only [canonical.visible]
      rfl
    have parsed : parsedText text = .ok value := by rw [parsedText, canonical.parsed]
    exact ⟨value, ⟨canonical.size, text, decoded, value, parsed, _, ⟨manifest, accepted, rfl⟩,
      canonical.text, rfl⟩, manifest, accepted, _, ⟨manifest, accepted, rfl⟩, rfl⟩

/-- What the import reports of a file it takes. -/
theorem verifyPilotGateManifestFile_iff {expectedGateId : JsString}
    {imported : PilotGateManifestImport} :
    verifyPilotGateManifestFile sha256Hex contents expectedGateId = some imported ↔
      ∃ manifest text value members,
        Canonical sha256Hex stringText contents manifest text value members ∧
        manifest.gateId = .string expectedGateId ∧ imported = importOf manifest := by
  simp only [verifyPilotGateManifestFile, verifyPilotGateManifestText, some_bind_iff, require_iff,
    exists_unit, normalizeManifest_iff, Bool.and_eq_true, Bool.not_eq_true', decide_eq_true_eq,
    beq_iff_eq]
  constructor
  · rintro ⟨size, text, decoded, visible, _, value, parsed, manifest, ⟨members, exact, evident,
      own⟩, same, result⟩
    obtain rfl := Option.some.inj result
    exact ⟨manifest, text, value, members, ⟨size, decoded, visible, parsed, exact, evident, same⟩,
      own, rfl⟩
  · rintro ⟨manifest, text, value, members, canonical, own, rfl⟩
    obtain ⟨encoded, length⟩ := FatalUtf8.decodeFatal_length canonical.decoded
    have nonempty : text ≠ [] := by
      rintro rfl
      have parsed := canonical.parsed
      cases parsed
    exact ⟨canonical.size, text, canonical.decoded, canonical.visible,
      ⟨⟨⟨nonempty, length.trans canonical.size.2⟩, encoded.trans canonical.size.2⟩,
        canonical.visible⟩, value, canonical.parsed, manifest, ⟨members, canonical.exact,
        canonical.evident, own⟩, canonical.text, rfl⟩

/-- A document determines the manifest that it is canonical for. -/
theorem Canonical.unique {first second : Manifest} {text other : JsString} {value again : Value}
    {members others : Members}
    (one : Canonical sha256Hex toText contents first text value members)
    (two : Canonical sha256Hex toText contents second other again others) : first = second := by
  have sameText := two.decoded
  rw [one.decoded] at sameText
  cases sameText
  have sameValue := two.parsed
  rw [one.parsed] at sameValue
  cases sameValue
  have defined := parse_defined one.parsed
  have left : validatePilotGateManifest sha256Hex value = .ok first :=
    (validatePilotGateManifest_iff defined).mpr ⟨members, one.exact, one.evident⟩
  have right : validatePilotGateManifest sha256Hex value = .ok second :=
    (validatePilotGateManifest_iff defined).mpr ⟨others, two.exact, two.evident⟩
  rw [left] at right
  exact Except.ok.inj right

end

/-- The import has no result for a file with an id that only reads as a text. -/
theorem coerced_disagree {sha256Hex : JsString → JsString} {contents : List Byte}
    (coerced : Coerced sha256Hex contents) : ¬Agree sha256Hex contents := by
  obtain ⟨manifest, text, value, members, canonical, apart⟩ := coerced
  intro agree
  obtain ⟨expectedGateId, imported, taken, _⟩ := agree.2 _
    (verifyOffline_iff.mpr ⟨manifest, text, value, members, canonical, rfl⟩)
  obtain ⟨other, otherText, otherValue, others, strict, _, _⟩ :=
    verifyPilotGateManifestFile_iff.mp taken
  obtain ⟨evident, strings⟩ := evident_stringText_iff.mp strict.evident
  have same := canonical.unique { strict with evident := evident }
  exact apart (same ▸ strings)

/-- The two verifiers agree on a file exactly when it is no canonical manifest with
an id that only reads as a text. -/
theorem verifiers_agree (sha256Hex : JsString → JsString) (contents : List Byte) :
    Agree sha256Hex contents ↔ ¬Coerced sha256Hex contents := by
  constructor
  · exact fun agree coerced => coerced_disagree coerced agree
  · intro plain
    constructor
    · intro expectedGateId imported taken
      obtain ⟨manifest, text, value, members, strict, _, rfl⟩ :=
        verifyPilotGateManifestFile_iff.mp taken
      obtain ⟨evident, _⟩ := evident_stringText_iff.mp strict.evident
      exact ⟨_, verifyOffline_iff.mpr ⟨manifest, text, value, members,
        { strict with evident := evident }, rfl⟩, rfl, rfl, rfl, rfl, rfl, rfl, rfl⟩
    · intro outcome accepted
      obtain ⟨manifest, text, value, members, canonical, rfl⟩ := verifyOffline_iff.mp accepted
      by_cases strings : Stringly manifest
      · obtain ⟨gateId, gate⟩ := Option.isSome_iff_exists.mp strings.1
        have evident := evident_stringText_iff.mpr ⟨canonical.evident, strings⟩
        exact ⟨gateId, importOf manifest, verifyPilotGateManifestFile_iff.mpr ⟨manifest, text,
          value, members, { canonical with evident := evident }, stringText_eq_some.mp gate, rfl⟩,
          rfl, rfl, rfl, rfl, rfl, rfl, rfl⟩
      · exact absurd ⟨manifest, text, value, members, canonical, strings⟩ plain

/-- A manifest whose one artifact has the id true, and the file that carries it. -/
def coercedArtifact : Artifact :=
  ⟨1, .bool true, .string (js "text/plain"), .string (js "a.txt"), List.replicate 64 48⟩

def coercedDigest : JsString :=
  js "2c960617302f7cb04a110cb70cfcb3186533a5e0b9c8f4f6b630eb35f5c4d473"

def coercedManifest : Manifest where
  artifacts := [coercedArtifact]
  checklist := ((CHECKLISTS.lookup (js "isolation_integrity")).getD []).map fun id =>
    ⟨[.bool true], none, .string id, .satisfied⟩
  evidenceReference := js "E1"
  gateId := .string (js "isolation_integrity")
  packageDigest := coercedDigest
  reviewedAt := js "2026-01-01T00:00:00.000Z"
  reviewerReference := js "R1"
  scopeReference := js "S1"

def coercedContents : List Byte := encode (prettyCanonicalJSON (manifestValue coercedManifest))

/-- The artifacts that the import finds in a file. -/
def importedArtifacts (contents : List Byte) : Option (List Artifact) := do
  let text ← decodeFatal contents
  let value ← parse text
  let manifest ← exactMembers value manifestKeys
  normalizeArtifacts (Value.member manifest (js "artifacts"))

/-- The package accepts the file with the artifact named true, under the digest that
the document has, and the import takes it for no gate. -/
theorem coercedContents_disagree : ¬Agree (fun _ => coercedDigest) coercedContents := by
  have read : ((verifyOffline (fun _ => coercedDigest) coercedContents).isOk &&
      (importedArtifacts coercedContents).isNone) = true := by decide +kernel
  obtain ⟨accepted, refused⟩ := Bool.and_eq_true_iff.mp read
  obtain ⟨outcome, offline⟩ : ∃ outcome,
      verifyOffline (fun _ => coercedDigest) coercedContents = .ok outcome := by
    cases result : verifyOffline (fun _ => coercedDigest) coercedContents with
    | ok outcome => exact ⟨outcome, rfl⟩
    | error failure =>
        rw [result] at accepted
        cases accepted
  obtain ⟨manifest, text, value, members, canonical, rfl⟩ := verifyOffline_iff.mp offline
  refine coerced_disagree ⟨manifest, text, value, members, canonical, fun strings => ?_⟩
  have evident := evident_stringText_iff.mpr ⟨canonical.evident, strings⟩
  obtain ⟨entries, _, _, _, indexed⟩ := evident.indexed
  have found : importedArtifacts coercedContents = some manifest.artifacts := by
    simp only [importedArtifacts, some_bind_iff]
    exact ⟨text, canonical.decoded, value, canonical.parsed, members, canonical.exact,
      normalizeArtifacts_iff.mpr ⟨entries, indexed.bounded, indexed.artifacts, indexed.total,
        indexed.order⟩⟩
  rw [found] at refused
  cases refused

end Vasi.PilotGateImport
