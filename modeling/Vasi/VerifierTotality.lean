import Vasi.EvidenceVerifier
import Vasi.JsonRoundTrip

/-!
# Where the evidence verifier throws

The verifier guards most of what it reads, but not everything. This is the exact
condition under which it returns: every seal is there, what a pattern or a
template converts to a string converts, and the address that it puts in lower
case is a string.
-/
namespace Vasi.EvidenceVerifier

open JsValue Coercion
open CanonicalJson (Representable hashCanonicalJSON_succeeds)
open JsonText (parse)
open Productization (admissionValue validateTenantAdmission)
open StoredZip (Entry parseStoredZip)
open Utf8 (Byte)

/-! ## Conditions -/

/-- A value that the string conversion does not throw on: no object with a toString
of its own, and no array with one inside. -/
def Converts (value : Value) : Prop := (toText value).isSome = true

/-- A batch that passes the checks of its own fields. -/
def acceptedBatch (batch : Value) : Option BatchFields :=
  (batchFields batch).filter fun _ =>
    hashPattern (batch.get (js "payloadHash")) = some true &&
      canonicalTimestamp (batch.get (js "receivedAt"))

/-- A batch is the first accepted one with its id, and the one chain event that names it
has the payload. -/
structure Linked (chainEvents batches : List Value) (fields : BatchFields) (payload : Value) :
    Prop where
  first : ∃ before batch after, batches = before ++ batch :: after ∧
    acceptedBatch batch = some fields ∧
    (∀ other ∈ before, ∀ own, acceptedBatch other = some own → own.id ≠ fields.id) ∧
    boundPayload chainEvents fields batch = some payload

structure InteractionConverts (evidence : InteractionEvidence) (events : List Value) : Prop where
  batches : ∀ batch ∈ evidence.batches, (batchFields batch).isSome →
    Converts (batch.get (js "payloadHash"))
  summaries : ∀ summary ∈ evidence.summaries, (summaryFields summary).isSome →
    Converts (summary.get (js "summaryHash"))
  links : ∀ fields payload,
    Linked (ofType "activity.interaction.recorded" events) evidence.batches fields payload →
      Converts (payload.get (js "summaryRevision"))

/-- Missing, or a string. -/
def IsOptionalText (value : Value) : Prop :=
  value.isPresent = false ∨ isString value = true

section Tools

variable (tools : Tools)

/-- What the checks of a manifest put a pattern, a template or a method to. -/
structure ManifestConverts (manifest : Value) (events : List Value) : Prop where
  interaction : hasSchema manifest 5 = true → ∀ evidence,
    interactionEvidence (manifest.get (js "activityInteraction")) = some evidence →
      evidence.unbounded = false → InteractionConverts evidence events
  context : hasSchema manifest 6 = true → ∀ snapshots,
    contextSnapshots (manifest.get (js "participantContext")) = some snapshots →
      snapshots.length ≤ 100000 →
      (contextMaximum (manifest.get (js "participantContext"))).isSome →
      ∀ entry ∈ snapshots, (snapshotFields entry).isSome → Converts (entry.get (js "payloadHash"))
  requester : hasSchema manifest 8 = true → ∀ requester issued,
    validateRequesterSnapshot tools (manifest.get (js "requester")) = some requester →
      requester.email.isSome → issuance events = some issued →
      IsOptionalText (path issued ["eventData", "actor", "email"])

/-- Every seal is there, and one that does not verify has a key identifier that converts. -/
def SealsConvert (verified : Value → Bool) (seals : List Value) : Prop :=
  ∀ sealed ∈ seals, sealed.isPresent = true ∧
    (verified sealed = true ∨ Converts (sealed.get (js "keyId")))

structure RecordConverts (record : Value) : Prop where
  manifest : (record.get (js "manifest")).truthy = true →
    ManifestConverts tools (record.get (js "manifest")) (recordEvents record)
  seals : SealsConvert (recordSealVerified tools (record.get (js "manifest")))
    (normalizedSeals record)

/-- The control documents of a bundle. -/
def control (entries : List Entry) (name : String) : Value := (parseJSONEntry entries name).1

structure BundleConverts (entries : List Entry) : Prop where
  seals : ∃ seals, iterated ((control entries "bundle-seals.json").get (js "seals")) = some seals ∧
    SealsConvert (bundleSealVerified tools (control entries "bundle-index.json")) seals
  record : (control entries "record.json").truthy = true →
    RecordConverts tools (control entries "record.json")

/-! ## Conversions -/

theorem isSome_bind_iff {α β : Type} {first : Option α} {next : α → Option β} :
    (first >>= next).isSome = true ↔ ∃ value, first = some value ∧ (next value).isSome = true := by
  cases first with
  | none => simp
  | some value => simp

theorem toText_orText (value : Value) (text : JsString) :
    (toText (orText value text)).isSome = true ↔ Converts value := by
  unfold orText Converts
  split
  · exact Iff.rfl
  case isFalse falsy =>
    cases value with
    | array items => cases falsy rfl
    | object members => cases falsy rfl
    | _ => simp [toText]

theorem hashPattern_isSome (value : Value) :
    (hashPattern value).isSome = true ↔ Converts value := by
  rw [hashPattern, Option.isSome_map]
  exact toText_orText value []

/-! ## Batches -/

theorem visitBatch_isSome (accepted : List InteractionEvent) (chainEvents : List Value)
    (state : BatchState) (batch : Value) :
    (visitBatch tools accepted chainEvents state batch).isSome = true ↔
      ((batchFields batch).isSome → Converts (batch.get (js "payloadHash"))) := by
  unfold visitBatch
  cases batchFields batch with
  | none => simp
  | some fields =>
      simp only [isSome_bind_iff, Option.isSome_some, forall_const,
        ← hashPattern_isSome]
      constructor
      · rintro ⟨hashed, found, -⟩
        rw [found]
        rfl
      · intro converts
        obtain ⟨hashed, found⟩ := Option.isSome_iff_exists.mp converts
        refine ⟨hashed, found, ?_⟩
        split
        · rfl
        · split <;> rfl

theorem visitBatches_isSome {accepted : List InteractionEvent} {chainEvents : List Value}
    (batches : List Value) (state : BatchState) :
    (visitBatches tools accepted chainEvents state batches).isSome = true ↔
      ∀ batch ∈ batches, (batchFields batch).isSome → Converts (batch.get (js "payloadHash")) := by
  induction batches generalizing state with
  | nil => simp [visitBatches]
  | cons batch rest inductionHypothesis =>
      rw [visitBatches, isSome_bind_iff, List.forall_mem_cons, ← visitBatch_isSome tools
        accepted chainEvents state]
      constructor
      · rintro ⟨next, visited, others⟩
        rw [visited]
        exact ⟨rfl, (inductionHypothesis next).mp others⟩
      · rintro ⟨first, others⟩
        obtain ⟨next, visited⟩ := Option.isSome_iff_exists.mp first
        exact ⟨next, visited, (inductionHypothesis next).mpr others⟩

/-- A batch changes the state when it is accepted under an id that is new. -/
theorem visitBatch_ok {accepted : List InteractionEvent} {chainEvents : List Value}
    {state next : BatchState} {batch : Value}
    (visited : visitBatch tools accepted chainEvents state batch = some next) :
    (next.batches = state.batches ∧ next.chainLinks = state.chainLinks ∧
        ∀ fields, acceptedBatch batch = some fields →
          (state.batches.lookup fields.id).isSome = true) ∨
      ∃ fields, acceptedBatch batch = some fields ∧ state.batches.lookup fields.id = none ∧
        next.batches = state.batches ++ [(fields.id, batch)] ∧
        next.chainLinks = state.chainLinks ++
          ((boundPayload chainEvents fields batch).map fun link => (fields.id, link)).toList := by
  unfold visitBatch at visited
  unfold acceptedBatch
  cases read : batchFields batch with
  | none =>
      rw [read] at visited
      obtain rfl := Option.some.inj visited
      exact Or.inl ⟨rfl, rfl, fun fields impossible => by cases impossible⟩
  | some fields =>
      simp only [read, Option.bind_eq_bind, Option.bind_eq_some_iff] at visited
      obtain ⟨hashed, found, visited⟩ := visited
      by_cases passes : hashed = true ∧ canonicalTimestamp (batch.get (js "receivedAt")) = true
      · rw [if_neg (not_not.mpr passes)] at visited
        have whole : (some fields).filter (fun _ =>
            hashPattern (batch.get (js "payloadHash")) == some true &&
              canonicalTimestamp (batch.get (js "receivedAt"))) = some fields := by
          simp [found, passes.1, passes.2]
        split at visited
        case isTrue known =>
          obtain rfl := Option.some.inj visited
          refine Or.inl ⟨rfl, rfl, fun other accepted => ?_⟩
          obtain ⟨same, -⟩ := Option.filter_eq_some_iff.mp accepted
          rw [← Option.some.inj same]
          exact known
        case isFalse unknown =>
          obtain rfl := Option.some.inj visited
          exact Or.inr ⟨fields, by simpa using whole,
            Option.not_isSome_iff_eq_none.mp unknown, rfl, rfl⟩
      · rw [if_pos passes] at visited
        obtain rfl := Option.some.inj visited
        refine Or.inl ⟨rfl, rfl, fun other accepted => ?_⟩
        obtain ⟨-, both⟩ := Option.filter_eq_some_iff.mp accepted
        rw [found] at both
        simp only [Option.some.injEq, Bool.decide_eq_true, Bool.and_eq_true] at both
        exact absurd both passes

/-- The batch in front is linked itself, or a later one with another id. -/
theorem linked_cons {chainEvents rest : List Value} {batch : Value} {fields : BatchFields}
    {payload : Value} :
    Linked chainEvents (batch :: rest) fields payload ↔
      (acceptedBatch batch = some fields ∧ boundPayload chainEvents fields batch = some payload) ∨
        (∀ own, acceptedBatch batch = some own → own.id ≠ fields.id) ∧
          Linked chainEvents rest fields payload := by
  constructor
  · rintro ⟨before, found, after, whole, accepted, apart, bound⟩
    cases before with
    | nil =>
        obtain ⟨rfl, rfl⟩ := List.cons.inj whole
        exact Or.inl ⟨accepted, bound⟩
    | cons first before =>
        obtain ⟨rfl, rfl⟩ := List.cons.inj whole
        obtain ⟨other, others⟩ := List.forall_mem_cons.mp apart
        exact Or.inr ⟨other, ⟨before, found, after, rfl, accepted, others, bound⟩⟩
  · rintro (⟨accepted, bound⟩ | ⟨other, ⟨before, found, after, rfl, accepted, others, bound⟩⟩)
    · exact ⟨[], batch, rest, rfl, accepted, by simp, bound⟩
    · exact ⟨batch :: before, found, after, rfl, accepted,
        List.forall_mem_cons.mpr ⟨other, others⟩, bound⟩

theorem lookup_snoc_none {entries : List (JsString × Value)} {id key : JsString} {value : Value} :
    (entries ++ [(id, value)]).lookup key = none ↔ entries.lookup key = none ∧ id ≠ key := by
  rw [List.lookup_append]
  cases entries.lookup key with
  | some found => simp
  | none =>
      by_cases equal : key = id
      · simp [equal]
      · simp [List.lookup_cons, beq_false_of_ne equal, Ne.symm equal]

/-- What the walk over the batches links: the payload of every first accepted batch that
is bound, unless its id was known before. -/
theorem visitBatches_links {accepted : List InteractionEvent} {chainEvents : List Value}
    {batches : List Value} {state final : BatchState}
    (visited : visitBatches tools accepted chainEvents state batches = some final)
    (link : JsString × Value) :
    link ∈ final.chainLinks ↔ link ∈ state.chainLinks ∨ ∃ fields,
      Linked chainEvents batches fields link.2 ∧ link.1 = fields.id ∧
        state.batches.lookup fields.id = none := by
  induction batches generalizing state with
  | nil =>
      obtain rfl := Option.some.inj visited
      constructor
      · exact Or.inl
      · rintro (inside | ⟨fields, ⟨before, batch, after, impossible, -⟩, -⟩)
        · exact inside
        · cases before <;> cases impossible
  | cons batch rest inductionHypothesis =>
      simp only [visitBatches, Option.bind_eq_bind, Option.bind_eq_some_iff] at visited
      obtain ⟨next, first, others⟩ := visited
      rw [inductionHypothesis others]
      simp only [linked_cons]
      rcases visitBatch_ok tools first with ⟨batches, links, known⟩ |
        ⟨own, accepted, unknown, batches, links⟩
      · rw [batches, links]
        constructor
        · rintro (inside | ⟨fields, linked, same, new⟩)
          · exact Or.inl inside
          · refine Or.inr ⟨fields, Or.inr ⟨fun own accepted equal => ?_, linked⟩, same, new⟩
            have seen := known own accepted
            rw [equal, new] at seen
            cases seen
        · rintro (inside | ⟨fields, ⟨accepted, -⟩ | ⟨-, linked⟩, same, new⟩)
          · exact Or.inl inside
          · have seen := known fields accepted
            rw [new] at seen
            cases seen
          · exact Or.inr ⟨fields, linked, same, new⟩
      · rw [batches, links]
        simp only [lookup_snoc_none]
        constructor
        · rintro (inside | ⟨fields, linked, same, new, other⟩)
          · rcases List.mem_append.mp inside with earlier | own
            · exact Or.inl earlier
            · obtain ⟨payload, bound, rfl⟩ := Option.map_eq_some_iff.mp
                (Option.mem_toList.mp own)
              exact Or.inr ⟨_, Or.inl ⟨accepted, bound⟩, rfl, unknown⟩
          · refine Or.inr ⟨fields, Or.inr ⟨fun found first => ?_, linked⟩, same, new⟩
            rw [accepted] at first
            rw [← Option.some.inj first]
            exact other
        · rintro (inside | ⟨fields, ⟨first, bound⟩ | ⟨other, linked⟩, same, new⟩)
          · exact Or.inl (List.mem_append_left _ inside)
          · rw [accepted] at first
            obtain rfl := Option.some.inj first
            refine Or.inl (List.mem_append_right _ (Option.mem_toList.mpr ?_))
            rw [bound, Option.map_some, ← same]
          · exact Or.inr ⟨fields, linked, same, new, other own accepted⟩

/-! ## Summaries, links and snapshots -/

theorem visitSummary_isSome (state : SummaryState) (summary : Value) :
    (visitSummary tools state summary).isSome = true ↔
      ((summaryFields summary).isSome → Converts (summary.get (js "summaryHash"))) := by
  unfold visitSummary
  cases summaryFields summary with
  | none => simp
  | some fields =>
      simp only [isSome_bind_iff, Option.isSome_some, forall_const, ← hashPattern_isSome]
      constructor
      · rintro ⟨hashed, found, -⟩
        rw [found]
        rfl
      · intro converts
        obtain ⟨hashed, found⟩ := Option.isSome_iff_exists.mp converts
        refine ⟨hashed, found, ?_⟩
        split <;> rfl

theorem visitSummaries_isSome (summaries : List Value) (state : SummaryState) :
    (visitSummaries tools state summaries).isSome = true ↔
      ∀ summary ∈ summaries, (summaryFields summary).isSome →
        Converts (summary.get (js "summaryHash")) := by
  induction summaries generalizing state with
  | nil => simp [visitSummaries]
  | cons summary rest inductionHypothesis =>
      rw [visitSummaries, isSome_bind_iff, List.forall_mem_cons, ← visitSummary_isSome tools
        state]
      constructor
      · rintro ⟨next, visited, others⟩
        rw [visited]
        exact ⟨rfl, (inductionHypothesis next).mp others⟩
      · rintro ⟨first, others⟩
        obtain ⟨next, visited⟩ := Option.isSome_iff_exists.mp first
        exact ⟨next, visited, (inductionHypothesis next).mpr others⟩

theorem visitLinks_isSome (batches byRevision links : List (JsString × Value)) :
    (visitLinks batches byRevision links).isSome = true ↔
      ∀ link ∈ links, Converts (link.2.get (js "summaryRevision")) := by
  induction links with
  | nil => simp [visitLinks]
  | cons link rest inductionHypothesis =>
      rw [visitLinks, isSome_bind_iff, List.forall_mem_cons, ← inductionHypothesis]
      constructor
      · rintro ⟨first, visited, others⟩
        obtain ⟨revision, found, -⟩ := Option.bind_eq_some_iff.mp visited
        obtain ⟨later, walked, -⟩ := isSome_bind_iff.mp others
        rw [Converts, found, walked]
        exact ⟨rfl, rfl⟩
      · rintro ⟨first, others⟩
        obtain ⟨revision, found⟩ := Option.isSome_iff_exists.mp first
        obtain ⟨later, walked⟩ := Option.isSome_iff_exists.mp others
        refine ⟨_, Option.bind_eq_some_iff.mpr ⟨revision, found, rfl⟩, ?_⟩
        exact isSome_bind_iff.mpr ⟨later, walked, rfl⟩

theorem verifyActivityInteractionEvidence_isSome (value : Value) (events : List Value) :
    (verifyActivityInteractionEvidence tools value events).isSome = true ↔
      ∀ evidence, interactionEvidence value = some evidence → evidence.unbounded = false →
        InteractionConverts evidence events := by
  unfold verifyActivityInteractionEvidence
  cases read : interactionEvidence value with
  | none => simp
  | some evidence =>
      dsimp only
      by_cases unbounded : evidence.unbounded = true
      · simp [unbounded]
      · rw [if_neg unbounded]
        simp only [isSome_bind_iff]
        constructor
        · rintro ⟨batched, batches, summarized, summaries, walked, links, -⟩ own found -
          obtain rfl := Option.some.inj found
          have first := (visitBatches_isSome tools _ _).mp (Option.isSome_iff_exists.mpr
            ⟨batched, batches⟩)
          have second := (visitSummaries_isSome tools _ _).mp (Option.isSome_iff_exists.mpr
            ⟨summarized, summaries⟩)
          have third := (visitLinks_isSome _ _ _).mp (Option.isSome_iff_exists.mpr
            ⟨walked, links⟩)
          refine ⟨first, second, fun fields payload linked => ?_⟩
          exact third (fields.id, payload) ((visitBatches_links tools batches _).mpr
            (Or.inr ⟨fields, linked, rfl, rfl⟩))
        · intro converts
          have own := converts evidence rfl (Bool.not_eq_true _ ▸ unbounded)
          obtain ⟨batched, batches⟩ := Option.isSome_iff_exists.mp
            ((visitBatches_isSome tools evidence.batches ⟨[], [], []⟩).mpr own.batches)
          obtain ⟨summarized, summaries⟩ := Option.isSome_iff_exists.mp
            ((visitSummaries_isSome tools evidence.summaries ⟨[], [], []⟩).mpr own.summaries)
          have linked : ∀ link ∈ batched.chainLinks,
              Converts (link.2.get (js "summaryRevision")) := by
            intro link inside
            rcases (visitBatches_links tools batches link).mp inside with
              impossible | ⟨fields, linked, -⟩
            · cases impossible
            · exact own.links fields link.2 linked
          obtain ⟨walked, links⟩ := Option.isSome_iff_exists.mp
            ((visitLinks_isSome batched.batches summarized.byRevision _).mpr linked)
          exact ⟨batched, batches, summarized, summaries, walked, links, rfl⟩

theorem visitSnapshot_isSome (maximum : ℤ) (chainEvents : List Value) (state : ContextState)
    (entry : Value) :
    (visitSnapshot tools maximum chainEvents state entry).isSome = true ↔
      ((snapshotFields entry).isSome → Converts (entry.get (js "payloadHash"))) := by
  unfold visitSnapshot
  cases snapshotFields entry with
  | none => simp
  | some fields =>
      simp only [isSome_bind_iff, Option.isSome_some, forall_const, ← hashPattern_isSome]
      constructor
      · rintro ⟨hashed, found, -⟩
        rw [found]
        rfl
      · intro converts
        obtain ⟨hashed, found⟩ := Option.isSome_iff_exists.mp converts
        refine ⟨hashed, found, ?_⟩
        split
        · rfl
        · split <;> rfl

theorem visitSnapshots_isSome {maximum : ℤ} {chainEvents : List Value} (snapshots : List Value)
    (state : ContextState) :
    (visitSnapshots tools maximum chainEvents state snapshots).isSome = true ↔
      ∀ entry ∈ snapshots, (snapshotFields entry).isSome →
        Converts (entry.get (js "payloadHash")) := by
  induction snapshots generalizing state with
  | nil => simp [visitSnapshots]
  | cons entry rest inductionHypothesis =>
      rw [visitSnapshots, isSome_bind_iff, List.forall_mem_cons, ← visitSnapshot_isSome tools
        maximum chainEvents state]
      constructor
      · rintro ⟨next, visited, others⟩
        rw [visited]
        exact ⟨rfl, (inductionHypothesis next).mp others⟩
      · rintro ⟨first, others⟩
        obtain ⟨next, visited⟩ := Option.isSome_iff_exists.mp first
        exact ⟨next, visited, (inductionHypothesis next).mpr others⟩

theorem verifyParticipantContextEvidence_isSome (value : Value) (events : List Value) :
    (verifyParticipantContextEvidence tools value events).isSome = true ↔
      ∀ snapshots, contextSnapshots value = some snapshots → snapshots.length ≤ 100000 →
        (contextMaximum value).isSome → ∀ entry ∈ snapshots, (snapshotFields entry).isSome →
          Converts (entry.get (js "payloadHash")) := by
  unfold verifyParticipantContextEvidence
  cases contextSnapshots value with
  | none => simp
  | some snapshots =>
      dsimp only
      by_cases long : 100000 < snapshots.length
      · simp [long]
      · rw [if_neg long]
        cases contextMaximum value with
        | none => simp
        | some maximum =>
            simp only [isSome_bind_iff, Option.isSome_some, forall_const, Option.some.injEq]
            constructor
            · rintro ⟨visited, found, -⟩ own rfl -
              exact (visitSnapshots_isSome tools _ _).mp (Option.isSome_iff_exists.mpr
                ⟨visited, found⟩)
            · intro converts
              obtain ⟨visited, found⟩ := Option.isSome_iff_exists.mp
                ((visitSnapshots_isSome tools snapshots ⟨[], [], [], [], []⟩).mpr
                  (converts snapshots rfl (not_lt.mp long)))
              exact ⟨visited, found, rfl⟩

/-! ## Requester and admission -/

theorem lowerCased_isSome (value : Value) :
    (lowerCased tools value).isSome = true ↔ IsOptionalText value := by
  cases value <;> simp [lowerCased, IsOptionalText, Value.isPresent, isString, stringText]

theorem verifyRequesterEvidence_isSome (value : Value) (events : List Value) :
    (verifyRequesterEvidence tools value events).isSome = true ↔
      ∀ requester issued, validateRequesterSnapshot tools value = some requester →
        requester.email.isSome → issuance events = some issued →
        IsOptionalText (path issued ["eventData", "actor", "email"]) := by
  unfold verifyRequesterEvidence
  cases validateRequesterSnapshot tools value with
  | none => simp
  | some requester =>
      cases issuance events with
      | none => simp
      | some issued =>
          simp only [isSome_bind_iff, requesterEmailErrors, Option.some.injEq]
          cases address : requester.email with
          | none =>
              constructor
              · rintro - own other rfl impossible -
                rw [address] at impossible
                cases impossible
              · intro _
                exact ⟨[], rfl, rfl⟩
          | some email =>
              simp only [← lowerCased_isSome tools]
              constructor
              · rintro ⟨errors, found, -⟩ own other rfl - rfl
                obtain ⟨actual, lowered, -⟩ := Option.bind_eq_some_iff.mp found
                exact Option.isSome_iff_exists.mpr ⟨actual, lowered⟩
              · intro lowered
                obtain ⟨actual, found⟩ := Option.isSome_iff_exists.mp
                  (lowered requester issued rfl (by rw [address]; rfl) rfl)
                exact ⟨_, Option.bind_eq_some_iff.mpr ⟨actual, found, rfl⟩, rfl⟩

theorem gateValue_representable (gate : Admission.Gate) (state : Admission.GateState) :
    Representable (Productization.gateValue gate state) := by
  cases state <;>
    simp [Productization.gateValue, Representable, CanonicalJson.RepresentableMembers]

/-- An admission has a canonical form, so its hash never throws. -/
theorem admissionValue_representable (admission : Admission.TenantAdmission) :
    Representable (admissionValue admission) := by
  have gates : CanonicalJson.RepresentableItems (Admission.Gate.all.map fun gate =>
      Productization.gateValue gate (admission.state gate)) := by
    induction Admission.Gate.all with
    | nil => trivial
    | cons gate rest inductionHypothesis =>
        exact ⟨gateValue_representable gate _, inductionHypothesis⟩
  simp [admissionValue, Representable, CanonicalJson.RepresentableMembers, gates]

theorem verifyTenantAdmissionEvidence_isSome (value : Value) (events : List Value) :
    (verifyTenantAdmissionEvidence tools value events).isSome = true := by
  unfold verifyTenantAdmissionEvidence
  split
  · rfl
  · split
    · rfl
    case h_2 admission _ =>
      obtain ⟨digest, hashed⟩ := (hashCanonicalJSON_succeeds tools.sha256Hex _).mpr
        (admissionValue_representable admission)
      refine isSome_bind_iff.mpr ⟨digest, ?_, rfl⟩
      rw [hashOf, hashed]
      rfl

/-! ## The record -/

theorem since_isSome (manifest : Value) (version : ℕ) (check : Option (List JsString)) :
    (since manifest version check).isSome = true ↔
      (hasSchema manifest version = true → check.isSome = true) := by
  unfold since
  split <;> simp_all

theorem manifestErrors_isSome (manifest : Value) (events : List Value) :
    (manifestErrors tools manifest events).isSome = true ↔
      (manifest.truthy = true → ManifestConverts tools manifest events) := by
  unfold manifestErrors
  by_cases truthy : manifest.truthy = true
  · rw [if_neg (not_not.mpr truthy)]
    simp only [isSome_bind_iff]
    constructor
    · rintro ⟨_, interaction, _, context, _, -, _, requester, -⟩ -
      have first := (since_isSome _ _ _).mp (Option.isSome_iff_exists.mpr ⟨_, interaction⟩)
      have second := (since_isSome _ _ _).mp (Option.isSome_iff_exists.mpr ⟨_, context⟩)
      have third := (since_isSome _ _ _).mp (Option.isSome_iff_exists.mpr ⟨_, requester⟩)
      exact ⟨fun own => (verifyActivityInteractionEvidence_isSome tools _ _).mp (first own),
        fun own => (verifyParticipantContextEvidence_isSome tools _ _).mp (second own),
        fun own => (verifyRequesterEvidence_isSome tools _ _).mp (third own)⟩
    · intro converts
      have own := converts truthy
      obtain ⟨_, interaction⟩ := Option.isSome_iff_exists.mp ((since_isSome _ _ _).mpr fun schema =>
        (verifyActivityInteractionEvidence_isSome tools _ _).mpr (own.interaction schema))
      obtain ⟨_, context⟩ := Option.isSome_iff_exists.mp ((since_isSome _ _ _).mpr fun schema =>
        (verifyParticipantContextEvidence_isSome tools _ _).mpr (own.context schema))
      obtain ⟨_, delivery⟩ := Option.isSome_iff_exists.mp (since_isSome manifest 7
        (some (verifyNotificationDeliveryEvidence tools
          (manifest.get (js "notificationDelivery")) (path manifest ["timestamps",
            "completedAt"]))) |>.mpr fun _ => rfl)
      obtain ⟨_, requester⟩ := Option.isSome_iff_exists.mp ((since_isSome _ _ _).mpr fun schema =>
        (verifyRequesterEvidence_isSome tools _ _).mpr (own.requester schema))
      obtain ⟨_, admission⟩ := Option.isSome_iff_exists.mp (since_isSome manifest 9 _ |>.mpr fun _ =>
          verifyTenantAdmissionEvidence_isSome tools (manifest.get (js "admission")) events)
      obtain ⟨_, assurance⟩ := Option.isSome_iff_exists.mp (since_isSome manifest 10
        (some (verifyAuthenticationAssuranceEvidence tools
          (manifest.get (js "authenticationAssurance")) manifest events)) |>.mpr fun _ => rfl)
      exact ⟨_, interaction, _, context, _, delivery, _, requester, _, admission, _, assurance,
        rfl⟩
  · rw [if_pos truthy]
    simp [truthy]

/-- The walk over seals of one kind. -/
theorem sealName_isSome (sealed : Value) :
    (sealName sealed).isSome = true ↔ Converts (sealed.get (js "keyId")) :=
  toText_orText _ _

/-- The visit of a seal: one that does not verify is named in an error. -/
theorem sealVisit_isSome {α : Type} {sealed : Value} {verified : Bool} {accepted : α}
    {refused : JsString → α} :
    (if ¬sealed.isPresent then none else if verified then some accepted
      else sealName sealed >>= fun name => some (refused name)).isSome = true ↔
        sealed.isPresent = true ∧ (verified = true ∨ Converts (sealed.get (js "keyId"))) := by
  rw [← sealName_isSome]
  by_cases present : sealed.isPresent = true
  · by_cases holds : verified = true
    · simp [present, holds]
    · rw [if_neg (not_not.mpr present), if_neg holds, isSome_bind_iff]
      constructor
      · rintro ⟨name, found, -⟩
        exact ⟨present, Or.inr (Option.isSome_iff_exists.mpr ⟨name, found⟩)⟩
      · rintro ⟨-, impossible | converts⟩
        · exact absurd impossible holds
        · obtain ⟨name, found⟩ := Option.isSome_iff_exists.mp converts
          exact ⟨name, found, rfl⟩
  · simp [present]

/-- A walk that visits one seal after the other. -/
theorem sealWalk_isSome {α : Type} {visit : Value → Option (α × List JsString)}
    {walk : List Value → Option (List α × List JsString)} {verified : Value → Bool}
    (start : walk [] = some ([], []))
    (next : ∀ sealed rest, walk (sealed :: rest) = visit sealed >>= fun first =>
      walk rest >>= fun later => some (first.1 :: later.1, first.2 ++ later.2))
    (visited : ∀ sealed, (visit sealed).isSome = true ↔ sealed.isPresent = true ∧
      (verified sealed = true ∨ Converts (sealed.get (js "keyId")))) (seals : List Value) :
    (walk seals).isSome = true ↔ SealsConvert verified seals := by
  induction seals with
  | nil => simp [start, SealsConvert]
  | cons sealed rest inductionHypothesis =>
      rw [SealsConvert, List.forall_mem_cons, ← visited, next, isSome_bind_iff]
      constructor
      · rintro ⟨first, found, others⟩
        obtain ⟨later, walked, -⟩ := isSome_bind_iff.mp others
        exact ⟨Option.isSome_iff_exists.mpr ⟨first, found⟩,
          inductionHypothesis.mp (Option.isSome_iff_exists.mpr ⟨later, walked⟩)⟩
      · rintro ⟨first, others⟩
        obtain ⟨result, found⟩ := Option.isSome_iff_exists.mp first
        obtain ⟨later, walked⟩ := Option.isSome_iff_exists.mp (inductionHypothesis.mpr others)
        exact ⟨result, found, isSome_bind_iff.mpr ⟨later, walked, rfl⟩⟩

theorem visitSeals_isSome (manifest : Value) (seals : List Value) :
    (visitSeals tools manifest seals).isSome = true ↔
      SealsConvert (recordSealVerified tools manifest) seals :=
  sealWalk_isSome rfl (fun _ _ => rfl) (fun _ => sealVisit_isSome) seals

theorem verifyEvidenceRecord_isSome (expectedPublicJWK record : Value) :
    (verifyEvidenceRecord tools expectedPublicJWK record).isSome = true ↔
      RecordConverts tools record := by
  unfold verifyEvidenceRecord
  simp only [isSome_bind_iff]
  constructor
  · rintro ⟨_, manifest, _, seals, -⟩
    exact ⟨(manifestErrors_isSome tools _ _).mp (Option.isSome_iff_exists.mpr ⟨_, manifest⟩),
      (visitSeals_isSome tools _ _).mp (Option.isSome_iff_exists.mpr ⟨_, seals⟩)⟩
  · intro converts
    obtain ⟨_, manifest⟩ := Option.isSome_iff_exists.mp
      ((manifestErrors_isSome tools _ _).mpr converts.manifest)
    obtain ⟨_, seals⟩ := Option.isSome_iff_exists.mp
      ((visitSeals_isSome tools _ _).mpr converts.seals)
    exact ⟨_, manifest, _, seals, rfl⟩

/-! ## The bundle -/

theorem visitBundleSeals_isSome (index : Value) (seals : List Value) :
    (visitBundleSeals tools index seals).isSome = true ↔
      SealsConvert (bundleSealVerified tools index) seals :=
  sealWalk_isSome rfl (fun _ _ => rfl) (fun _ => sealVisit_isSome) seals

theorem bundledRecord_isSome (record : Value) :
    (bundledRecord tools record).isSome = true ↔
      (record.truthy = true → RecordConverts tools record) := by
  unfold bundledRecord
  by_cases truthy : record.truthy = true
  · rw [if_pos truthy, Option.isSome_map, verifyEvidenceRecord_isSome]
    simp [truthy]
  · simp [truthy]

theorem verifyBundleEntries_isSome (entries : List Entry) :
    (verifyBundleEntries tools entries).isSome = true ↔ BundleConverts tools entries := by
  unfold verifyBundleEntries
  simp only [isSome_bind_iff]
  constructor
  · rintro ⟨seals, listed, _, sealed, _, record, -⟩
    exact ⟨⟨seals, listed, (visitBundleSeals_isSome tools _ _).mp
      (Option.isSome_iff_exists.mpr ⟨_, sealed⟩)⟩,
      (bundledRecord_isSome tools _).mp (Option.isSome_iff_exists.mpr ⟨_, record⟩)⟩
  · rintro ⟨⟨seals, listed, converts⟩, own⟩
    obtain ⟨_, sealed⟩ := Option.isSome_iff_exists.mp
      ((visitBundleSeals_isSome tools _ _).mpr converts)
    obtain ⟨_, record⟩ := Option.isSome_iff_exists.mp ((bundledRecord_isSome tools _).mpr own)
    exact ⟨seals, listed, _, sealed, _, record, rfl⟩

/-- Nothing is thrown: every parsed record and every byte string gets a result. -/
def AlwaysReturns : Prop :=
  (∀ text record, parse text = some record →
      (verifyEvidenceRecord tools .undefined record).isSome = true) ∧
    ∀ bytes, (verifyEvidenceBundle tools StoredZip.defaultMaxBytes StoredZip.defaultMaxEntries
      bytes).isSome = true

/-- The condition on a bundle: when its archive is read, its documents convert. -/
def ArchiveConverts (maxBytes maxEntries : ℕ) (bytes : List Byte) : Prop :=
  ∀ entries, parseStoredZip tools.crc32 maxBytes maxEntries bytes = .ok entries →
    BundleConverts tools entries

/-- The verifier returns exactly when what it converts without a guard converts. -/
theorem verifier_returns_iff (expectedPublicJWK record : Value) (maxBytes maxEntries : ℕ)
    (bytes : List Byte) :
    ((verifyEvidenceRecord tools expectedPublicJWK record).isSome = true ↔
        RecordConverts tools record) ∧
      ((verifyEvidenceBundle tools maxBytes maxEntries bytes).isSome = true ↔
        ArchiveConverts tools maxBytes maxEntries bytes) := by
  refine ⟨verifyEvidenceRecord_isSome tools expectedPublicJWK record, ?_⟩
  unfold verifyEvidenceBundle ArchiveConverts
  cases parseStoredZip tools.crc32 maxBytes maxEntries bytes with
  | error failure => simp
  | ok entries =>
      dsimp only
      rw [verifyBundleEntries_isSome]
      constructor
      · rintro converts own same
        rw [← Except.ok.inj same]
        exact converts
      · exact fun converts => converts entries rfl

end Tools

/-- Tools under which no seal verifies. -/
def refusingTools : Tools where
  platform := ConfigurationStore.asciiText
  crc32 _ := 0
  sha256Hex _ := []
  sha256Bytes _ := []
  verifyCertificateSeal _ _ := false
  verifyDetachedIntegritySeal _ _ _ := false
  calculateActivityInteractionSummary _ _ := none
  participantContextPolicy _ := none
  validateStoredParticipantContextSnapshot _ := none
  notificationDeliveryFailure _ _ := none
  authenticationAssurancePolicy _ := none
  evaluateAuthenticationAssurance _ _ _ := none
  evidenceReports _ := none

/-- A record whose list of seals holds null. -/
def nullSeal : Value := .object [(js "seals", .array [.null])]

theorem nullSeal_throws : ¬AlwaysReturns refusingTools := by
  intro ⟨returns, _⟩
  have formed : WellFormed nullSeal :=
    ⟨List.nodup_singleton _, ⟨trivial, trivial⟩, trivial⟩
  have parsed := JsonText.parse_stringify_readBack formed ⟨⟨trivial, trivial⟩, trivial⟩ rfl
  obtain ⟨text, -, read⟩ := Option.bind_eq_some_iff.mp parsed
  have result := returns text _ read
  have thrown : verifyEvidenceRecord refusingTools .undefined
      (CanonicalJson.readBack propertyOrder nullSeal) = none := by
    rfl
  rw [thrown] at result
  cases result

end Vasi.EvidenceVerifier
