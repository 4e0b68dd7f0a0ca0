import Vasi.Grading
import Vasi.Coercion
import Vasi.IsoTime

/-!
# The participant's copy of an event

The export of a participant's data carries the payloads of the events that the
participant wrote, less the members whose names are excluded. Names are compared at
every depth, so that the questions of a questionnaire, whose identifiers are the
member names of the answers, are compared with them as well.
-/
namespace Vasi.Redaction

open JsValue Validation Activities Coercion IsoTime
open CanonicalJson (readBack readBackMembers readBackItems)

/-! ## The export of an event -/

def alwaysExcluded : List JsString :=
  [js "answerKey", js "content", js "correctChoiceIds", js "notificationPolicy", js "snapshot"]

def technical : List JsString :=
  [js "acceptLanguage", js "clientContext", js "clientHints", js "ipAddress",
    js "requestContext", js "userAgent"]

/-- Whether a member of that name is left out. -/
def excluded (includeTechnicalTelemetry : Bool) (key : JsString) : Bool :=
  key ∈ alwaysExcluded || (!includeTechnicalTelemetry && key ∈ technical)

mutual
/-- Undefined stands for what the caller filters out. The entries of an object come in
property order; putting the kept ones in that order afterwards is the same. -/
def sanitizeParticipantValue (includeTechnicalTelemetry : Bool) (key : JsString) :
    Value → Value
  | .array items =>
      if excluded includeTechnicalTelemetry key then .undefined
      else .array (sanitizeItems includeTechnicalTelemetry items)
  | .object members =>
      if excluded includeTechnicalTelemetry key then .undefined
      else .object (propertyOrder (sanitizeMembers includeTechnicalTelemetry members))
  | value => if excluded includeTechnicalTelemetry key then .undefined else value

def sanitizeItems (includeTechnicalTelemetry : Bool) : List Value → List Value
  | [] => []
  | item :: rest =>
      let clean := sanitizeParticipantValue includeTechnicalTelemetry [] item
      if clean.isUndefined then sanitizeItems includeTechnicalTelemetry rest
      else clean :: sanitizeItems includeTechnicalTelemetry rest

def sanitizeMembers (includeTechnicalTelemetry : Bool) : List (JsString × Value) → Members
  | [] => []
  | (key, child) :: rest =>
      let clean := sanitizeParticipantValue includeTechnicalTelemetry key child
      if clean.isUndefined then sanitizeMembers includeTechnicalTelemetry rest
      else (key, clean) :: sanitizeMembers includeTechnicalTelemetry rest
end

/-- A row of the event chain, as the export reads it. -/
structure EventRow where
  actorPrincipalId : JsString
  eventData : Value
  eventHash : JsString
  eventType : JsString
  id : JsString
  previousHash : JsString
  receivedAt : Time
  sequence : ℕ

def participantDataEvent (row : EventRow) (participantPrincipalId : JsString)
    (includeTechnicalTelemetry : Bool) : Value :=
  let participantEvent := row.actorPrincipalId == participantPrincipalId
  let actor := row.eventData.get (js "actor")
  let telemetry (name : JsString) : Value :=
    if includeTechnicalTelemetry then actor.get name else .undefined
  .object [
    (js "actor", if participantEvent then .object [
        (js "authentication", actor.get (js "authentication")),
        (js "gatewaySessionId", telemetry (js "gatewaySessionId")),
        (js "principalId", .string participantPrincipalId),
        (js "relationship", .string (js "participant")),
        (js "requestContext", telemetry (js "requestContext"))]
      else .object [(js "relationship", .string (if row.actorPrincipalId = js "vasi-worker"
        then js "vasi_service" else js "requesting_organization"))]),
    (js "eventHash", .string row.eventHash), (js "eventId", .string row.id),
    (js "eventType", .string row.eventType),
    (js "payload", if participantEvent
      then sanitizeParticipantValue includeTechnicalTelemetry []
        (row.eventData.get (js "payload"))
      else .undefined),
    (js "previousHash", .string row.previousHash),
    (js "receivedAt", .string (isoText row.receivedAt)),
    (js "sequence", wholeNumber row.sequence)]

/-! ## Places inside a value -/

/-- One step into a value: to a member or to an item. -/
inductive Step where
  | name (key : JsString)
  | index (position : ℕ)

/-- The name that the redaction compares. -/
def Step.key : Step → JsString
  | name key => key
  | index _ => []

def Step.get (value : Value) : Step → Value
  | name key => value.get key
  | index position => match value with
      | .array items => items[position]?.getD .undefined
      | _ => .undefined

/-- What stands at a place, undefined when nothing does. -/
def valueAt (value : Value) (place : List Step) : Value := place.foldl Step.get value

/-- What is seen of a value without looking inside. -/
def outline : Value → Value
  | .array items => .array (items.map fun _ => .null)
  | .object _ => .object []
  | value => value

/-- Whether the way to a place leads through an excluded name. -/
def passes (includeTechnicalTelemetry : Bool) (place : List Step) : Bool :=
  place.any fun step => excluded includeTechnicalTelemetry step.key

/-- The place of the participant's answer in a payload. -/
def answerPlace : List Step := [.name (js "response"), .name (js "value")]

/-- Whether a place is reached through an excluded name of the event format: one that is
met before the participant's answer is entered. -/
def hidden (includeTechnicalTelemetry : Bool) (place : List Step) : Bool :=
  match place with
  | .name first :: .name second :: rest =>
      if first = js "response" ∧ second = js "value" then false
      else passes includeTechnicalTelemetry (.name first :: .name second :: rest)
  | place => passes includeTechnicalTelemetry place

/-- The redaction that is meant: the participant's answer stays whole, and of the rest
exactly what is reached through an excluded name goes. -/
def Redacts (includeTechnicalTelemetry : Bool) (payload clean : Value) : Prop :=
  ∀ place, outline (valueAt clean place) =
    if hidden includeTechnicalTelemetry place then .undefined else outline (valueAt payload place)

/-! ## What the redaction removes -/

/-- A document as the store returns it: nothing undefined inside, no key twice. -/
def Stored (value : Value) : Prop := Defined value ∧ WellFormed value

theorem wellFormedMembers_iff (members : Members) :
    WellFormedMembers members ↔ ∀ entry ∈ members, WellFormed entry.2 := by
  induction members with
  | nil => simp [WellFormedMembers]
  | cons entry rest inductionHypothesis =>
      obtain ⟨key, value⟩ := entry
      simp [WellFormedMembers, inductionHypothesis]

theorem wellFormedItems_iff (items : List Value) :
    WellFormedItems items ↔ ∀ item ∈ items, WellFormed item := by
  induction items with
  | nil => simp [WellFormedItems]
  | cons item rest inductionHypothesis => simp [WellFormedItems, inductionHypothesis]

theorem stored_array (items : List Value) :
    Stored (.array items) ↔ ∀ item ∈ items, Stored item := by
  simp only [Stored, Defined, WellFormed, definedItems_iff, wellFormedItems_iff, forall_and]

theorem stored_object (members : Members) :
    Stored (.object members) ↔
      (members.map Prod.fst).Nodup ∧ ∀ entry ∈ members, Stored entry.2 := by
  simp only [Stored, Defined, WellFormed, definedMembers_iff, wellFormedMembers_iff, forall_and]
  tauto

theorem Stored.isUndefined {value : Value} (stored : Stored value) :
    value.isUndefined = false := by
  cases value with
  | undefined => exact stored.1.elim
  | _ => rfl

/-- A member of a list of members is found under its key only. -/
theorem mem_of_lookup {members : Members} {key : JsString} {value : Value}
    (found : members.lookup key = some value) : (key, value) ∈ members := by
  induction members with
  | nil => cases found
  | cons entry rest inductionHypothesis =>
      obtain ⟨first, head⟩ := entry
      by_cases same : key = first
      · subst same
        obtain rfl : head = value := by simpa using found
        exact List.mem_cons_self
      · rw [List.lookup_cons, beq_eq_false_iff_ne.mpr same] at found
        exact List.mem_cons_of_mem _ (inductionHypothesis found)

/-- What stands one step inside a stored document is stored, or nothing. -/
theorem Stored.get {value : Value} (stored : Stored value) (step : Step) :
    step.get value = .undefined ∨ Stored (step.get value) := by
  cases step with
  | name key =>
      cases value with
      | object members =>
          cases found : members.lookup key with
          | none => exact .inl (by simp [Step.get, Value.get, Value.member, found])
          | some child =>
              have inside := ((stored_object members).mp stored).2 _ (mem_of_lookup found)
              exact .inr (by simpa [Step.get, Value.get, Value.member, found] using inside)
      | _ => exact .inl rfl
  | index position =>
      cases value with
      | array items =>
          cases found : items[position]? with
          | none => exact .inl (by simp [Step.get, found])
          | some item =>
              have inside := (stored_array items).mp stored _ (List.mem_of_getElem? found)
              exact .inr (by simpa [Step.get, found] using inside)
      | _ => exact .inl rfl

section

variable (telemetry : Bool)

/-- Items come under no name. -/
theorem excluded_item : excluded telemetry [] = false := by
  cases telemetry <;> decide

theorem sanitize_undefined (key : JsString) :
    sanitizeParticipantValue telemetry key .undefined = .undefined := by
  simp [sanitizeParticipantValue]

theorem sanitize_excluded {key : JsString} (left : excluded telemetry key = true)
    (value : Value) : sanitizeParticipantValue telemetry key value = .undefined := by
  cases value <;> simp [sanitizeParticipantValue, left]

/-- Only an excluded name makes a defined value undefined. -/
theorem sanitize_isUndefined (key : JsString) {value : Value}
    (defined : value.isUndefined = false) :
    (sanitizeParticipantValue telemetry key value).isUndefined = excluded telemetry key := by
  cases left : excluded telemetry key with
  | true => rw [sanitize_excluded telemetry left]; rfl
  | false => cases value <;> simp_all [sanitizeParticipantValue, Value.isUndefined]

theorem sanitizeItems_stored {items : List Value} (stored : ∀ item ∈ items, Stored item) :
    sanitizeItems telemetry items = items.map (sanitizeParticipantValue telemetry []) := by
  induction items with
  | nil => rfl
  | cons item rest inductionHypothesis =>
      rw [List.forall_mem_cons] at stored
      have kept := sanitize_isUndefined telemetry [] stored.1.isUndefined
      simp [sanitizeItems, kept, excluded_item, inductionHypothesis stored.2]

theorem sanitizeMembers_stored {members : Members} (stored : ∀ entry ∈ members, Stored entry.2) :
    sanitizeMembers telemetry members =
      (members.filter fun entry => !excluded telemetry entry.1).map fun entry =>
        (entry.1, sanitizeParticipantValue telemetry entry.1 entry.2) := by
  induction members with
  | nil => rfl
  | cons entry rest inductionHypothesis =>
      obtain ⟨key, child⟩ := entry
      rw [List.forall_mem_cons] at stored
      have kept := sanitize_isUndefined telemetry key stored.1.isUndefined
      cases left : excluded telemetry key <;>
        simp [sanitizeMembers, kept, left, inductionHypothesis stored.2]

theorem sanitizeMembers_lookup {members : Members} (stored : Stored (.object members))
    (key : JsString) :
    ((propertyOrder (sanitizeMembers telemetry members)).lookup key).getD .undefined =
      sanitizeParticipantValue telemetry key (Value.member members key) := by
  obtain ⟨distinct, inside⟩ := (stored_object members).mp stored
  rw [sanitizeMembers_stored telemetry inside]
  have keys : (((members.filter fun entry => !excluded telemetry entry.1).map fun entry =>
      (entry.1, sanitizeParticipantValue telemetry entry.1 entry.2)).map Prod.fst).Nodup := by
    rw [List.map_map]
    exact distinct.sublist (List.filter_sublist.map _)
  rw [← CanonicalJson.lookup_perm (propertyOrder_perm _).symm keys]
  clear keys distinct inside stored
  unfold Value.member
  induction members with
  | nil => simp [sanitize_undefined]
  | cons entry rest inductionHypothesis =>
      obtain ⟨first, head⟩ := entry
      by_cases same : key = first
      · subst same
        cases left : excluded telemetry key with
        | true =>
            rw [sanitize_excluded telemetry left] at inductionHypothesis ⊢
            simpa [left] using inductionHypothesis
        | false => simp [left]
      · cases left : excluded telemetry first <;>
          simpa [left, List.lookup_cons, beq_eq_false_iff_ne.mpr same] using inductionHypothesis

/-- The redaction goes along with every step, under the name that the step takes. -/
theorem sanitize_get {value : Value} (stored : Stored value) {key : JsString}
    (kept : excluded telemetry key = false) (step : Step) :
    step.get (sanitizeParticipantValue telemetry key value) =
      sanitizeParticipantValue telemetry step.key (step.get value) := by
  cases step with
  | name name =>
      cases value with
      | object members =>
          simp only [sanitizeParticipantValue, kept, Bool.false_eq_true, if_false]
          exact sanitizeMembers_lookup telemetry stored name
      | _ => simp [sanitizeParticipantValue, kept, Step.get, Value.get]
  | index position =>
      cases value with
      | array items =>
          have inside := (stored_array items).mp stored
          simp only [sanitizeParticipantValue, kept, Bool.false_eq_true, if_false, Step.get,
            Step.key, sanitizeItems_stored telemetry inside, List.getElem?_map]
          cases items[position]? with
          | none => exact (sanitize_undefined telemetry []).symm
          | some item => rfl
      | _ => simp [sanitizeParticipantValue, kept, Step.get]

theorem valueAt_undefined (place : List Step) : valueAt .undefined place = .undefined := by
  induction place with
  | nil => rfl
  | cons step rest inductionHypothesis => cases step <;> exact inductionHypothesis

theorem outline_sanitize {value : Value} (stored : Stored value) {key : JsString}
    (kept : excluded telemetry key = false) :
    outline (sanitizeParticipantValue telemetry key value) = outline value := by
  cases value with
  | array items =>
      simp [sanitizeParticipantValue, kept, outline,
        sanitizeItems_stored telemetry ((stored_array items).mp stored), Function.comp_def]
  | _ => simp [sanitizeParticipantValue, kept, outline]

/-- At every place of the redacted document stands what stood there, unless the way there
leads through an excluded name. -/
theorem valueAt_sanitize {value : Value} (stored : Stored value) {key : JsString}
    (kept : excluded telemetry key = false) (place : List Step) :
    outline (valueAt (sanitizeParticipantValue telemetry key value) place) =
      if passes telemetry place then .undefined else outline (valueAt value place) := by
  induction place generalizing value key with
  | nil => exact outline_sanitize telemetry stored kept
  | cons step rest inductionHypothesis =>
      have same := sanitize_get telemetry stored kept step
      rw [valueAt, List.foldl_cons, same]
      cases left : excluded telemetry step.key with
      | true =>
          have nothing := valueAt_undefined rest
          rw [valueAt] at nothing
          rw [sanitize_excluded telemetry left, nothing]
          simp [passes, left, outline]
      | false =>
          have onward : passes telemetry (step :: rest) = passes telemetry rest := by
            simp [passes, left]
          rw [onward]
          rcases stored.get step with gone | there
          · have nothing := valueAt_undefined rest
            have beyond : valueAt value (step :: rest) = .undefined := by
              rw [valueAt, List.foldl_cons, gone]
              exact nothing
            rw [gone, sanitize_undefined, beyond]
            rw [valueAt] at nothing
            rw [nothing]
            simp [outline]
          · exact inductionHypothesis there left

/-- The answer holds no excluded name. -/
def Unnamed (value : Value) : Prop :=
  ∀ place, passes telemetry place = true → valueAt value place = .undefined

theorem outline_undefined {value : Value} (nothing : outline value = .undefined) :
    value = .undefined := by
  cases value <;> simp_all [outline]

/-- The redaction is the one that is meant exactly when no excluded name occurs inside
the participant's answer. -/
theorem redacts_iff {payload : Value} (stored : Stored payload) :
    Redacts telemetry payload (sanitizeParticipantValue telemetry [] payload) ↔
      Unnamed telemetry ((payload.get (js "response")).get (js "value")) := by
  have own := excluded_item telemetry
  have response : excluded telemetry (js "response") = false := by cases telemetry <;> decide
  have value : excluded telemetry (js "value") = false := by cases telemetry <;> decide
  constructor
  · intro redacts place through
    have meant := redacts (answerPlace ++ place)
    rw [valueAt_sanitize telemetry stored own] at meant
    have passing : passes telemetry (answerPlace ++ place) = true := by
      simp [passes, answerPlace, Step.key] at through ⊢
      exact .inr (.inr through)
    have shown : hidden telemetry (answerPlace ++ place) = false := by
      simp [hidden, answerPlace]
    rw [passing, shown] at meant
    exact outline_undefined meant.symm
  · intro unnamed place
    rw [valueAt_sanitize telemetry stored own]
    by_cases inside : ∃ rest, place = answerPlace ++ rest
    · obtain ⟨rest, rfl⟩ := inside
      have shown : hidden telemetry (answerPlace ++ rest) = false := by
        simp [hidden, answerPlace]
      have passing : passes telemetry (answerPlace ++ rest) = passes telemetry rest := by
        simp [passes, answerPlace, Step.key, response, value]
      rw [shown, passing]
      cases through : passes telemetry rest with
      | false => rfl
      | true =>
          have nothing := unnamed rest through
          have same : valueAt payload (answerPlace ++ rest) = .undefined := nothing
          simp [same, outline]
    · have shown : hidden telemetry place = passes telemetry place := by
        unfold hidden
        split
        · rename_i first second rest
          split
          · rename_i both
            exact (inside ⟨rest, by simp [answerPlace, both.1, both.2]⟩).elim
          · rfl
        · rfl
      rw [shown]

/-! ## Answers -/

theorem unnamed_step {value : Value} (each : ∀ step : Step, excluded telemetry step.key = false →
      step.get value = .undefined ∨ Unnamed telemetry (step.get value))
    (absent : ∀ step : Step, excluded telemetry step.key = true → step.get value = .undefined) :
    Unnamed telemetry value := by
  intro place through
  cases place with
  | nil => simp [passes] at through
  | cons step rest =>
      rw [valueAt, List.foldl_cons]
      cases left : excluded telemetry step.key with
      | true =>
          rw [absent step left]
          exact valueAt_undefined rest
      | false =>
          have onward : passes telemetry rest = true := by simpa [passes, left] using through
          rcases each step left with gone | inside
          · rw [gone]
            exact valueAt_undefined rest
          · exact inside rest onward

theorem unnamed_plain {value : Value} (plain : ∀ step : Step, step.get value = .undefined) :
    Unnamed telemetry value :=
  unnamed_step telemetry (fun step _ => .inl (plain step)) fun step _ => plain step

theorem unnamed_string (text : JsString) : Unnamed telemetry (.string text) :=
  unnamed_plain telemetry fun step => by cases step <;> rfl

theorem unnamed_array {items : List Value} (each : ∀ item ∈ items, Unnamed telemetry item) :
    Unnamed telemetry (.array items) := by
  refine unnamed_step telemetry (fun step _ => ?_) fun step left => ?_
  · cases step with
    | name key => exact .inl rfl
    | index position =>
        cases found : items[position]? with
        | none => exact .inl (by simp [Step.get, found])
        | some item =>
            exact .inr (by simpa [Step.get, found] using each item (List.mem_of_getElem? found))
  · cases step with
    | name key => rfl
    | index position => exact absurd left (by simp [Step.key, excluded_item])

theorem unnamed_object {members : Members} (each : ∀ entry ∈ members,
    excluded telemetry entry.1 = false ∧ Unnamed telemetry entry.2) :
    Unnamed telemetry (.object members) := by
  refine unnamed_step telemetry (fun step _ => ?_) fun step left => ?_
  · cases step with
    | index position => exact .inl rfl
    | name key =>
        cases found : members.lookup key with
        | none => exact .inl (by simp [Step.get, Value.get, Value.member, found])
        | some child =>
            have inside := (each _ (mem_of_lookup found)).2
            exact .inr (by simpa [Step.get, Value.get, Value.member, found] using inside)
  · cases step with
    | index position => rfl
    | name key =>
        cases found : members.lookup key with
        | none => simp [Step.get, Value.get, Value.member, found]
        | some child =>
            have kept := (each _ (mem_of_lookup found)).1
            exact absurd left (by simpa [Step.key] using kept)

section

variable (order : Members → Members) (rearranges : ∀ members, (order members).Perm members)

theorem mem_readBackItems {items : List Value} {item : Value}
    (inside : item ∈ readBackItems order items) :
    item = .null ∨ ∃ value ∈ items, value.isUndefined = false ∧ item = readBack order value := by
  induction items with
  | nil => cases inside
  | cons value rest inductionHypothesis =>
      rw [readBackItems] at inside
      rcases List.mem_cons.mp inside with rfl | later
      · cases defined : value.isUndefined with
        | true => exact .inl (by simp)
        | false => exact .inr ⟨value, List.mem_cons_self, defined, by simp⟩
      · rcases inductionHypothesis later with nothing | ⟨other, member, found⟩
        · exact .inl nothing
        · exact .inr ⟨other, List.mem_cons_of_mem _ member, found⟩

theorem mem_readBackMembers {members : Members} {entry : JsString × Value}
    (inside : entry ∈ readBackMembers order members) :
    ∃ value, (entry.1, value) ∈ members ∧ value.isUndefined = false ∧
      entry.2 = readBack order value := by
  induction members with
  | nil => cases inside
  | cons first rest inductionHypothesis =>
      obtain ⟨key, value⟩ := first
      rw [readBackMembers] at inside
      cases defined : value.isUndefined with
      | true =>
          rw [defined, if_pos rfl] at inside
          obtain ⟨other, member, found⟩ := inductionHypothesis inside
          exact ⟨other, List.mem_cons_of_mem _ member, found⟩
      | false =>
          rw [defined, if_neg Bool.false_ne_true] at inside
          rcases List.mem_cons.mp inside with rfl | later
          · exact ⟨value, List.mem_cons_self, defined, rfl⟩
          · obtain ⟨other, member, found⟩ := inductionHypothesis later
            exact ⟨other, List.mem_cons_of_mem _ member, found⟩

theorem unnamed_readBack_array {items : List Value}
    (each : ∀ item ∈ items, item.isUndefined = false →
      Unnamed telemetry (readBack order item)) :
    Unnamed telemetry (readBack order (.array items)) := by
  refine unnamed_array telemetry fun item inside => ?_
  rcases mem_readBackItems order inside with rfl | ⟨value, member, defined, rfl⟩
  · exact unnamed_plain telemetry fun step => by cases step <;> rfl
  · exact each value member defined

include rearranges in
theorem unnamed_readBack_object {members : Members}
    (each : ∀ entry ∈ members, entry.2.isUndefined = false →
      excluded telemetry entry.1 = false ∧ Unnamed telemetry (readBack order entry.2)) :
    Unnamed telemetry (readBack order (.object members)) := by
  refine unnamed_object telemetry fun entry inside => ?_
  obtain ⟨value, member, defined, same⟩ :=
    mem_readBackMembers order ((rearranges _).mem_iff.mp inside)
  rw [same]
  exact each _ member defined

/-- A text or a list of texts. -/
def IsChoice (value : Value) : Prop :=
  (∃ text, value = .string text) ∨ ∃ texts : List JsString, value = .array (texts.map .string)

theorem IsChoice.unnamed {value : Value} (choice : IsChoice value) :
    Unnamed telemetry (readBack order value) := by
  rcases choice with ⟨text, rfl⟩ | ⟨texts, rfl⟩
  · exact unnamed_string telemetry text
  · refine unnamed_readBack_array telemetry order fun item inside _ => ?_
    obtain ⟨text, -, rfl⟩ := List.mem_map.mp inside
    exact unnamed_string telemetry text

/-- A number or a truth value has no members. -/
theorem unnamed_readBack_number (number : JsNumber) :
    Unnamed telemetry (readBack order (.number number)) := by
  refine unnamed_plain telemetry fun step => ?_
  rw [readBack]
  cases number.toRat? <;> cases step <;> rfl

theorem unnamed_readBack_bool (value : Bool) :
    Unnamed telemetry (readBack order (.bool value)) :=
  unnamed_plain telemetry fun step => by cases step <;> rfl

/-- The member names of responses other than the answers of a questionnaire. -/
theorem formatNames_kept : ∀ key ∈ [js "acknowledged", js "consent", js "method", js "name",
    js "strokes", js "t", js "x", js "y"], excluded telemetry key = false := by
  cases telemetry <;> decide

theorem isPointTime_number {value : Value} (valid : isPointTime value = true) :
    value = .undefined ∨ ∃ number, value = .number number := by
  cases value with
  | undefined => exact .inl rfl
  | number number => exact .inr ⟨number, rfl⟩
  | _ => cases valid

theorem normalizePoint_time {value : Value} {point : Point}
    (accepted : normalizePoint value = .ok point) : isPointTime point.t = true := by
  unfold normalizePoint at accepted
  obtain ⟨input, -, accepted⟩ := bind_ok accepted
  split at accepted
  · rename_i valid
    obtain rfl := Except.ok.inj accepted
    exact valid
  · cases accepted

theorem normalizePoints_time {values : List Value} {points : List Point}
    (accepted : normalizePoints values = .ok points) :
    ∀ point ∈ points, isPointTime point.t = true := by
  induction values generalizing points with
  | nil =>
      obtain rfl := Except.ok.inj accepted
      simp
  | cons value rest inductionHypothesis =>
      obtain ⟨head, first, accepted⟩ := bind_ok accepted
      obtain ⟨tail, others, accepted⟩ := bind_ok accepted
      obtain rfl := Except.ok.inj accepted
      rw [List.forall_mem_cons]
      exact ⟨normalizePoint_time first, inductionHypothesis others⟩

theorem normalizeStrokeList_time {count : ℕ} {values : List Value} {strokes : List (List Point)}
    (accepted : normalizeStrokeList count values = .ok strokes) :
    ∀ stroke ∈ strokes, ∀ point ∈ stroke, isPointTime point.t = true := by
  induction values generalizing count strokes with
  | nil =>
      obtain rfl := Except.ok.inj accepted
      simp
  | cons value rest inductionHypothesis =>
      unfold normalizeStrokeList at accepted
      split at accepted
      · cases ‹value :: rest = []›
      · rename_i same
        obtain ⟨rfl, rfl⟩ := List.cons.inj same
        split at accepted
        · cases accepted
        · split at accepted
          · cases accepted
          · obtain ⟨head, first, accepted⟩ := bind_ok accepted
            obtain ⟨tail, others, accepted⟩ := bind_ok accepted
            obtain rfl := Except.ok.inj accepted
            rw [List.forall_mem_cons]
            exact ⟨normalizePoints_time first, inductionHypothesis others⟩
      · cases accepted

include rearranges in
theorem point_unnamed {point : Point} (valid : isPointTime point.t = true) :
    Unnamed telemetry (readBack order point.toValue) := by
  refine unnamed_readBack_object telemetry order rearranges fun entry inside defined => ?_
  simp only [List.mem_cons, List.not_mem_nil, or_false] at inside
  rcases inside with rfl | rfl | rfl
  · refine ⟨formatNames_kept telemetry _ (by simp), ?_⟩
    rcases isPointTime_number valid with nothing | ⟨number, same⟩
    · rw [nothing] at defined
      cases defined
    · dsimp only
      rw [same]
      exact unnamed_readBack_number telemetry order number
  · exact ⟨formatNames_kept telemetry _ (by simp), unnamed_readBack_number telemetry order _⟩
  · exact ⟨formatNames_kept telemetry _ (by simp), unnamed_readBack_number telemetry order _⟩

include rearranges in
theorem strokes_unnamed {value : Value} {strokes : List (List Point)}
    (accepted : normalizeStrokes value = .ok strokes) :
    Unnamed telemetry (readBack order (strokesValue strokes)) := by
  have times : ∀ stroke ∈ strokes, ∀ point ∈ stroke, isPointTime point.t = true := by
    unfold normalizeStrokes at accepted
    split at accepted
    · dsimp only at accepted
      split at accepted
      · cases accepted
      · exact normalizeStrokeList_time accepted
    · cases accepted
  refine unnamed_readBack_array telemetry order fun item inside _ => ?_
  obtain ⟨stroke, member, rfl⟩ := List.mem_map.mp inside
  refine unnamed_readBack_array telemetry order fun item inside _ => ?_
  obtain ⟨point, own, rfl⟩ := List.mem_map.mp inside
  exact point_unnamed telemetry order rearranges (times stroke member point own)

/-! ### By activity type -/

theorem oneOf_text {value : Value} {allowed : List JsString} {field text : JsString}
    (accepted : oneOf value allowed field = .ok text) : value = .string text := by
  unfold oneOf at accepted
  split at accepted
  · dsimp only at accepted
    split at accepted
    · obtain rfl := Except.ok.inj accepted
      rfl
    · cases accepted
  · cases accepted

include rearranges in
theorem signature_unnamed {content : SignatureContent} {raw : Value}
    {response : ActivityResponse} (accepted : respondToSignature content raw = .ok response) :
    Unnamed telemetry (readBack order response.value) := by
  unfold respondToSignature at accepted
  obtain ⟨input, -, accepted⟩ := bind_ok accepted
  split at accepted
  · split at accepted
    · cases accepted
    · obtain ⟨name, -, accepted⟩ := bind_ok accepted
      obtain rfl := Except.ok.inj accepted
      refine unnamed_readBack_object telemetry order rearranges fun entry inside _ => ?_
      simp only [List.mem_cons, List.not_mem_nil, or_false] at inside
      rcases inside with rfl | rfl | rfl
      · exact ⟨formatNames_kept telemetry _ (by simp), unnamed_readBack_bool telemetry order _⟩
      · exact ⟨formatNames_kept telemetry _ (by simp), unnamed_string telemetry _⟩
      · exact ⟨formatNames_kept telemetry _ (by simp), unnamed_string telemetry _⟩
    · obtain ⟨strokes, drawn, accepted⟩ := bind_ok accepted
      obtain rfl := Except.ok.inj accepted
      refine unnamed_readBack_object telemetry order rearranges fun entry inside _ => ?_
      simp only [List.mem_cons, List.not_mem_nil, or_false] at inside
      rcases inside with rfl | rfl | rfl
      · exact ⟨formatNames_kept telemetry _ (by simp), unnamed_readBack_bool telemetry order _⟩
      · exact ⟨formatNames_kept telemetry _ (by simp), unnamed_string telemetry _⟩
      · exact ⟨formatNames_kept telemetry _ (by simp),
          strokes_unnamed telemetry order rearranges drawn⟩
  · cases accepted

include rearranges in
theorem media_unnamed {content : Media.ExternalMediaContent} {raw : Value}
    {response : ActivityResponse} (accepted : respondToMedia content raw = .ok response) :
    Unnamed telemetry (readBack order response.value) := by
  unfold respondToMedia at accepted
  obtain ⟨input, -, accepted⟩ := bind_ok accepted
  obtain ⟨method, -, accepted⟩ := bind_ok accepted
  dsimp only at accepted
  split at accepted
  · cases accepted
  · split at accepted
    · cases accepted
    · split at accepted
      · cases accepted
      · obtain rfl := Except.ok.inj accepted
        refine unnamed_readBack_object telemetry order rearranges fun entry inside defined => ?_
        simp only [List.mem_cons, List.not_mem_nil, or_false] at inside
        rcases inside with rfl | rfl
        · refine ⟨formatNames_kept telemetry _ (by simp), ?_⟩
          dsimp only at defined ⊢
          split at defined
          · rw [if_pos ‹_›]
            exact unnamed_readBack_bool telemetry order true
          · cases defined
        · exact ⟨formatNames_kept telemetry _ (by simp), unnamed_string telemetry _⟩

/-- The answers to activities other than questionnaires come through whole. -/
theorem choice_of_response {activity : Activity} {raw : Value} {response : ActivityResponse}
    (accepted : validateActivityResponse activity raw = .ok response)
    (signature : ∀ content, activity.content ≠ .electronicSignature content)
    (questionnaire : ∀ content, activity.content ≠ .questionnaire content)
    (media : ∀ content, activity.content ≠ .externalMedia content) :
    IsChoice response.value := by
  unfold validateActivityResponse at accepted
  cases kind : activity.content with
  | termsResponse mode content =>
      rw [kind] at accepted
      obtain ⟨text, -, accepted⟩ := bind_ok accepted
      obtain rfl := Except.ok.inj accepted
      exact .inl ⟨_, rfl⟩
  | approval content =>
      rw [kind] at accepted
      obtain ⟨text, -, accepted⟩ := bind_ok accepted
      obtain rfl := Except.ok.inj accepted
      exact .inl ⟨_, rfl⟩
  | singleChoice content =>
      rw [kind] at accepted
      dsimp only [respondToSingleChoice] at accepted
      split at accepted
      · obtain rfl := Except.ok.inj accepted
        exact .inl ⟨_, rfl⟩
      · cases accepted
  | multipleChoice content =>
      rw [kind] at accepted
      dsimp only [respondToMultipleChoice] at accepted
      split at accepted
      · obtain ⟨texts, -, accepted⟩ := bind_ok accepted
        split at accepted
        · cases accepted
        · split at accepted
          · cases accepted
          · split at accepted
            · cases accepted
            · obtain rfl := Except.ok.inj accepted
              exact .inr ⟨_, rfl⟩
      · cases accepted
  | freeForm content =>
      rw [kind] at accepted
      dsimp only [respondToFreeForm] at accepted
      split at accepted
      · split at accepted
        · cases accepted
        · split at accepted
          · cases accepted
          · obtain rfl := Except.ok.inj accepted
            exact .inl ⟨_, rfl⟩
      · cases accepted
  | documentReview content =>
      rw [kind] at accepted
      obtain ⟨text, -, accepted⟩ := bind_ok accepted
      obtain rfl := Except.ok.inj accepted
      exact .inl ⟨_, rfl⟩
  | electronicSignature content => exact (signature content kind).elim
  | questionnaire content => exact (questionnaire content kind).elim
  | externalMedia content => exact (media content kind).elim

/-! ### Questionnaires -/

/-- A scored answer is a choice when one was given. -/
structure Scored (answers : Members) (scored : ScoredAnswer) : Prop where
  given : Value.member answers scored.question.id ≠ .undefined → IsChoice scored.normalized
  absent : Value.member answers scored.question.id = .undefined → scored.normalized = .undefined

theorem scoreQuestion_scored {answers : Members} {question : Question} {scored : ScoredAnswer}
    (accepted : scoreQuestion answers question = .ok scored) :
    scored.question = question ∧ Scored answers scored := by
  have own : ∀ answer, answerTo answers question = some answer →
      Value.member answers question.id = answer := by
    intro answer found
    unfold answerTo at found
    split at found
    · cases found
    · exact Option.some.inj found
  unfold scoreQuestion at accepted
  split at accepted
  · rename_i missing
    split at accepted
    · cases accepted
    · obtain rfl := Except.ok.inj accepted
      exact ⟨rfl, fun given => (given (own _ missing)).elim, fun _ => rfl⟩
  · rename_i answer nonempty found
    have defined : answer ≠ .undefined := by
      rintro rfl
      exact nonempty rfl
    have given : Value.member answers question.id ≠ .undefined := by
      rw [own _ found]
      exact defined
    split at accepted
    · unfold scoreMultipleChoice at accepted
      split at accepted
      · obtain ⟨texts, -, accepted⟩ := bind_ok accepted
        split at accepted
        · obtain rfl := Except.ok.inj accepted
          exact ⟨rfl, fun _ => .inr ⟨_, rfl⟩, fun nothing => (given nothing).elim⟩
        · cases accepted
      · cases accepted
    · obtain ⟨text, -, accepted⟩ := bind_ok accepted
      split at accepted
      · obtain rfl := Except.ok.inj accepted
        exact ⟨rfl, fun _ => .inl ⟨_, rfl⟩, fun nothing => (given nothing).elim⟩
      · cases accepted
  · split at accepted <;> cases accepted

theorem scoreQuestions_scored {answers : Members} {questions : List Question}
    {scored : List ScoredAnswer} (accepted : scoreQuestions answers questions = .ok scored) :
    scored.map ScoredAnswer.question = questions ∧ ∀ entry ∈ scored, Scored answers entry := by
  induction questions generalizing scored with
  | nil =>
      obtain rfl := Except.ok.inj accepted
      simp
  | cons question rest inductionHypothesis =>
      obtain ⟨head, first, accepted⟩ := bind_ok accepted
      obtain ⟨tail, others, accepted⟩ := bind_ok accepted
      obtain rfl := Except.ok.inj accepted
      obtain ⟨asked, own⟩ := scoreQuestion_scored first
      obtain ⟨order, each⟩ := inductionHypothesis others
      exact ⟨by simp [asked, order], List.forall_mem_cons.mpr ⟨own, each⟩⟩

/-- The identifiers of a questionnaire's questions: patterned and distinct. -/
structure Identified (content : QuestionnaireContent) : Prop where
  patterned : ∀ question ∈ content.questions, isIdentifier question.id = true
  distinct : (content.questions.map Question.id).Nodup

theorem identifierWith_pattern {fail : JsString → Failure} {value : Value}
    {field text : JsString} (accepted : identifierWith fail value field = .ok text) :
    isIdentifier text = true := by
  obtain ⟨trimmed, -, accepted⟩ := bind_ok accepted
  split at accepted
  · rename_i patterned
    obtain rfl := Except.ok.inj accepted
    exact patterned
  · cases accepted

theorem normalizeQuestion_identifier {number : ℕ} {value : Value} {question : Question}
    (accepted : normalizeQuestion number value = .ok question) :
    isIdentifier question.id = true := by
  obtain ⟨-, -, ⟨_, _, patterned⟩, -⟩ := normalizeQuestion_parts accepted
  exact identifierWith_pattern patterned

theorem normalizeQuestionnaire_identified {value : Value} {content : QuestionnaireContent}
    (accepted : normalizeQuestionnaire value = .ok content) : Identified content := by
  obtain ⟨-, given, asked⟩ := normalizeQuestionnaire_parts accepted
  obtain ⟨items, -, -, distinct⟩ := normalizeQuestions_parts asked
  exact ⟨normalizeQuestionnaire_each accepted fun _ _ _ one => normalizeQuestion_identifier one,
    distinct⟩

theorem checkedMap_ok {α β : Type} {checked : Checked α} {change : α → β} {result : β}
    (accepted : checked.map change = .ok result) :
    ∃ value, checked = .ok value ∧ change value = result := by
  cases checked with
  | error failure => cases accepted
  | ok value => exact ⟨value, rfl, Except.ok.inj accepted⟩

theorem normalizeContent_questionnaire {platform : Media.Platform} {type : ActivityType}
    {mode : JsString} {value : Value} {content : QuestionnaireContent} {normalized : Content}
    (accepted : normalizeContent platform type mode value = .ok normalized)
    (kind : normalized = .questionnaire content) : normalizeQuestionnaire value = .ok content := by
  subst kind
  cases type with
  | questionnaire =>
      obtain ⟨own, found, same⟩ := checkedMap_ok accepted
      rw [found, Content.questionnaire.inj same]
  | _ =>
      obtain ⟨own, found, same⟩ := checkedMap_ok accepted
      cases same

/-- The content of an accepted definition has been normalized. -/
theorem normalizeActivityDefinition_content {platform : Media.Platform} {number : ℕ}
    {value : Value} {activity : Activity}
    (accepted : normalizeActivityDefinition platform number value = .ok activity) :
    ∃ type mode definition, normalizeContent platform type mode definition =
      .ok activity.content := by
  unfold normalizeActivityDefinition at accepted
  obtain ⟨input, -, accepted⟩ := bind_ok accepted
  obtain ⟨typeName, -, accepted⟩ := bind_ok accepted
  split at accepted
  · cases accepted
  · split at accepted
    · obtain ⟨mode, -, accepted⟩ := bind_ok accepted
      obtain ⟨transitionInput, -, accepted⟩ := bind_ok accepted
      obtain ⟨items, -, accepted⟩ := bind_ok accepted
      obtain ⟨normalized, own, accepted⟩ := bind_ok accepted
      obtain ⟨id, -, accepted⟩ := bind_ok accepted
      obtain ⟨instructions, -, accepted⟩ := bind_ok accepted
      obtain ⟨title, -, accepted⟩ := bind_ok accepted
      obtain ⟨branches, -, accepted⟩ := bind_ok accepted
      obtain ⟨defaultTo, -, accepted⟩ := bind_ok accepted
      obtain rfl := Except.ok.inj accepted
      exact ⟨_, _, _, own⟩
    · cases accepted

theorem normalizeActivityDefinition_questionnaire {platform : Media.Platform} {number : ℕ}
    {value : Value} {activity : Activity} {content : QuestionnaireContent}
    (accepted : normalizeActivityDefinition platform number value = .ok activity)
    (kind : activity.content = .questionnaire content) :
    ∃ definition, normalizeQuestionnaire definition = .ok content := by
  obtain ⟨type, mode, definition, own⟩ := normalizeActivityDefinition_content accepted
  exact ⟨definition, normalizeContent_questionnaire own kind⟩

/-- The excluded names that an identifier can spell. -/
def collisions : List JsString := [js "content", js "snapshot"]

theorem identifier_excluded {id : JsString} (patterned : isIdentifier id = true) :
    excluded telemetry id = true ↔ id ∈ collisions := by
  constructor
  · intro left
    have listed : id ∈ alwaysExcluded ++ technical := by
      simp only [excluded, Bool.or_eq_true, Bool.and_eq_true, decide_eq_true_eq] at left
      exact List.mem_append.mpr (left.imp (fun own => own) fun both => both.2)
    have spelled : ∀ name ∈ alwaysExcluded ++ technical, isIdentifier name = true →
        name ∈ collisions := by decide
    exact spelled id listed patterned
  · intro collides
    have always : ∀ name ∈ collisions, excluded telemetry name = true := by
      cases telemetry <;> decide
    exact always id collides

theorem strictObject_members {fail : JsString → Failure} {value : Value} {name : JsString}
    {allowed : List JsString} {members : Members}
    (accepted : strictObjectWith fail value name allowed = .ok members) :
    value = .object members ∧ ∀ entry ∈ members, entry.1 ∈ allowed := by
  unfold strictObjectWith at accepted
  split at accepted
  · split at accepted
    · cases accepted
    · rename_i own _ clean
      obtain rfl := Except.ok.inj accepted
      refine ⟨rfl, fun entry inside => ?_⟩
      have listed := (propertyOrder_perm own).mem_iff.mpr inside
      simpa using List.find?_eq_none.mp clean entry listed
  · cases accepted

theorem normalizedAnswers_wellFormed {content : QuestionnaireContent} {answers : Members}
    {scored : List ScoredAnswer} (identified : Identified content)
    (asked : scored.map ScoredAnswer.question = content.questions)
    (related : ∀ entry ∈ scored, Scored answers entry) :
    WellFormed (.object (normalizedAnswers scored)) := by
  refine ⟨?_, (wellFormedMembers_iff _).mpr fun entry inside => ?_⟩
  · have distinct := identified.distinct
    rw [← asked, List.map_map] at distinct
    unfold normalizedAnswers
    rw [List.map_map]
    exact distinct.sublist (List.filter_sublist.map _)
  · obtain ⟨answer, kept, rfl⟩ := List.mem_map.mp inside
    obtain ⟨member, -⟩ := List.mem_filter.mp kept
    by_cases given : Value.member answers answer.question.id = .undefined
    · dsimp only
      rw [(related answer member).absent given]
      trivial
    · rcases (related answer member).given given with ⟨text, found⟩ | ⟨texts, found⟩
      · dsimp only
        rw [found]
        trivial
      · dsimp only
        rw [found]
        refine (wellFormedItems_iff _).mpr fun item inside => ?_
        obtain ⟨text, -, rfl⟩ := List.mem_map.mp inside
        trivial

include rearranges in
/-- The answers come through whole exactly when none is to a question whose identifier
is an excluded name. -/
theorem questionnaire_unnamed_iff {content : QuestionnaireContent} {raw : Value}
    {response : ActivityResponse} (identified : Identified content)
    (accepted : respondToQuestionnaire content raw = .ok response) :
    Unnamed telemetry (readBack order response.value) ↔
      ∀ key ∈ collisions, raw.get key = .undefined := by
  unfold respondToQuestionnaire at accepted
  obtain ⟨answers, own, accepted⟩ := bind_ok accepted
  obtain ⟨scored, each, accepted⟩ := bind_ok accepted
  obtain rfl := Except.ok.inj accepted
  obtain ⟨rfl, listed⟩ := strictObject_members own
  obtain ⟨asked, related⟩ := scoreQuestions_scored each
  constructor
  · intro unnamed key collides
    by_contra given
    -- the answer belongs to a question, and is stored under the excluded name
    have present : key ∈ answers.map Prod.fst := by
      cases found : answers.lookup key with
      | none => exact (given (by simp [Value.get, Value.member, found])).elim
      | some answer => exact List.mem_map.mpr ⟨_, mem_of_lookup found, rfl⟩
    obtain ⟨entry, inside, rfl⟩ := List.mem_map.mp present
    have own := listed entry inside
    rw [← asked, List.map_map] at own
    obtain ⟨answer, member, same⟩ := List.mem_map.mp own
    have choice : IsChoice answer.normalized := (related answer member).given (by
      rw [show answer.question.id = entry.1 from same]
      exact given)
    have defined : answer.normalized.isUndefined = false := by
      rcases choice with ⟨_, found⟩ | ⟨_, found⟩ <;> rw [found] <;> rfl
    have kept : (answer.question.id, answer.normalized) ∈ normalizedAnswers scored :=
      List.mem_map.mpr ⟨answer, List.mem_filter.mpr ⟨member, by simp [defined]⟩, rfl⟩
    have stored := CanonicalJson.get_readBack order rearranges _ _ _
      (normalizedAnswers_wellFormed identified asked related) kept defined
    have left := (identifier_excluded telemetry (identified.patterned _ (by
      rw [← asked]
      exact List.mem_map_of_mem member))).mpr (same ▸ collides)
    have gone := unnamed [.name answer.question.id] (by simpa [passes, Step.key] using left)
    have there := CanonicalJson.readBack_defined order answer.normalized defined
    rw [← stored, show (readBack order (.object (normalizedAnswers scored))).get
      answer.question.id = .undefined from gone] at there
    cases there
  · intro absent
    refine unnamed_readBack_object telemetry order rearranges fun entry inside defined => ?_
    obtain ⟨answer, kept, rfl⟩ := List.mem_map.mp inside
    obtain ⟨member, -⟩ := List.mem_filter.mp kept
    have given : Value.member answers answer.question.id ≠ .undefined := by
      intro nothing
      rw [(related answer member).absent nothing] at defined
      cases defined
    have patterned := identified.patterned answer.question (by
      rw [← asked]
      exact List.mem_map_of_mem member)
    refine ⟨?_, ((related answer member).given given).unnamed telemetry order⟩
    by_contra left
    rw [Bool.not_eq_false, identifier_excluded telemetry patterned] at left
    exact given (absent _ left)

end

end

/-! ## The events of the participant -/

/-- An event that the participant wrote, with a response that was accepted under a
normalized definition and stored. -/
structure AnswerEvent (platform : Media.Platform) where
  number : ℕ
  definition : Value
  activity : Activity
  raw : Value
  response : ActivityResponse
  order : Members → Members
  row : EventRow
  normalized : normalizeActivityDefinition platform number definition = .ok activity
  accepted : validateActivityResponse activity raw = .ok response
  rearranges : ∀ members, (order members).Perm members
  stored : Stored (row.eventData.get (js "payload"))
  carried : ((row.eventData.get (js "payload")).get (js "response")).get (js "value") =
    readBack order response.value

/-- The payload of the event in the participant's export. -/
def AnswerEvent.exported {platform : Media.Platform} (event : AnswerEvent platform)
    (includeTechnicalTelemetry : Bool) : Value :=
  (participantDataEvent event.row event.row.actorPrincipalId includeTechnicalTelemetry).get
    (js "payload")

theorem AnswerEvent.exported_eq {platform : Media.Platform} (event : AnswerEvent platform)
    (telemetry : Bool) : event.exported telemetry =
      sanitizeParticipantValue telemetry [] (event.row.eventData.get (js "payload")) := by
  have actor : (js "payload" == js "actor") = false := by decide
  have hash : (js "payload" == js "eventHash") = false := by decide
  have id : (js "payload" == js "eventId") = false := by decide
  have type : (js "payload" == js "eventType") = false := by decide
  simp [AnswerEvent.exported, participantDataEvent, Value.get, Value.member, List.lookup_cons, actor,
    hash, id, type]

/-- The export keeps the participant's answer whole, and removes exactly the excluded
fields of the event format, unless a question is answered whose identifier is content
or snapshot. -/
theorem answer_kept_iff {platform : Media.Platform} (event : AnswerEvent platform)
    (includeTechnicalTelemetry : Bool) :
    Redacts includeTechnicalTelemetry (event.row.eventData.get (js "payload"))
        (event.exported includeTechnicalTelemetry) ↔
      ¬(event.activity.content.type = .questionnaire ∧
        ∃ key ∈ [js "content", js "snapshot"], event.raw.get key ≠ .undefined) := by
  rw [event.exported_eq, redacts_iff _ event.stored, event.carried]
  have accepted := event.accepted
  cases kind : event.activity.content with
  | questionnaire content =>
      rw [validateActivityResponse, kind] at accepted
      obtain ⟨definition, normalized⟩ :=
        normalizeActivityDefinition_questionnaire event.normalized kind
      rw [questionnaire_unnamed_iff includeTechnicalTelemetry event.order event.rearranges
        (normalizeQuestionnaire_identified normalized) accepted]
      simp [Content.type, collisions]
  | electronicSignature content =>
      rw [validateActivityResponse, kind] at accepted
      refine iff_of_true ?_ (by simp [Content.type])
      exact signature_unnamed _ event.order event.rearranges accepted
  | externalMedia content =>
      rw [validateActivityResponse, kind] at accepted
      refine iff_of_true ?_ (by simp [Content.type])
      exact media_unnamed _ event.order event.rearranges accepted
  | _ =>
      refine iff_of_true ?_ (by simp [Content.type])
      exact (choice_of_response accepted (by simp [kind]) (by simp [kind])
        (by simp [kind])).unnamed _ event.order

/-! ### An answer that is dropped -/

/-- A test with one question, which the tenant named content. -/
def contentTest : QuestionnaireContent where
  instructions := none
  passingPercent := 70
  questions := [{
    choices := [⟨none, js "y", js "Yes"⟩, ⟨none, js "n", js "No"⟩]
    correctChoiceIds := [js "y"], id := js "content", points := 1
    prompt := js "Clear?", required := true, multiple := false }]
  resultDisclosure := js "pass_fail"

def contentActivity : Activity where
  content := .questionnaire contentTest
  id := js "test"
  instructions := none
  title := js "Test"
  transition := ⟨[], none⟩

def contentAnswer : Value := .object [(js "content", .string (js "y"))]

/-- The stored event, of which only the answer matters. -/
def contentRow : EventRow where
  actorPrincipalId := js "p"
  eventData := .object [(js "payload",
    .object [(js "response", .object [(js "value", contentAnswer)])])]
  eventHash := []
  eventType := js "activity.response.submitted"
  id := js "e"
  previousHash := []
  receivedAt := 0
  sequence := 1

theorem contentTest_accepted :
    ∃ response, validateActivityResponse contentActivity contentAnswer = .ok response ∧
      response.value = contentAnswer := by
  have accepted : ((validateActivityResponse contentActivity contentAnswer).map
      ActivityResponse.value) = .ok contentAnswer := rfl
  exact checkedMap_ok accepted

/-- The answer to the question named content is missing from the export, with and
without technical telemetry. -/
theorem contentTest_dropped : ∃ row : EventRow, ∀ (platform : Media.Platform)
    (includeTechnicalTelemetry : Bool), ∃ event : AnswerEvent platform, event.row = row ∧
      ¬Redacts includeTechnicalTelemetry (event.row.eventData.get (js "payload"))
          (event.exported includeTechnicalTelemetry) ∧
        ((event.exported includeTechnicalTelemetry).get (js "response")).get (js "value") =
          .object [] := by
  refine ⟨contentRow, fun platform telemetry => ?_⟩
  obtain ⟨response, accepted, same⟩ := contentTest_accepted
  let event : AnswerEvent platform := {
    number := 1, definition := contentActivity.toValue, activity := contentActivity
    raw := contentAnswer, response, order := id, row := contentRow, normalized := rfl, accepted
    rearranges := fun _ => .refl _
    stored := ⟨⟨⟨⟨trivial, trivial⟩, trivial⟩, trivial⟩,
      ⟨by decide, ⟨by decide, ⟨by decide, trivial, trivial⟩, trivial⟩, trivial⟩⟩
    carried := by rw [same]; rfl }
  have dropped : event.exported telemetry = .object [(js "response",
      .object [(js "value", .object [])])] := by
    cases telemetry <;> rfl
  refine ⟨event, rfl, ?_, by rw [dropped]; rfl⟩
  intro redacts
  have meant := redacts (answerPlace ++ [.name (js "content")])
  rw [dropped] at meant
  cases telemetry <;> cases meant

end Vasi.Redaction
