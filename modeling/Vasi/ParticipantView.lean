import Mathlib.Data.List.Forall2
import Vasi.Activities
import Vasi.CanonicalJson
import Vasi.Sample
import Vasi.StoredConfiguration

/-!
# The participant's view of a workflow

Opening an assignment and saving a response, with what both return to the
participant: the projection of the first available activity. A call is one
transaction on the rows of its assignment.

The stored definitions hold the answer keys of questionnaires, which the
projection of the content leaves out. Two workflows are compared that differ in
nothing but their keys. The checks of the handle and of the client context see
nothing of the workflow and are left out, and so are evidence events.
-/
namespace Vasi.ParticipantView

open JsValue IsoTime Validation CanonicalJson Activities EngineRows

open EvidenceEvents (Environment Actor)

def EvidenceStoreError (code : JsString) : Failure := ⟨code, code⟩

/-- The environment with the authentication assurance of an access policy: the
policy as it is projected, and its check of an actor at a time. -/
structure ParticipantPlatform where
  env : Environment
  authenticationAssurancePolicy : Value → Value
  requireAuthenticationAssurance : Value → Actor → Time → Checked Unit
  interactionEvidencePolicy : Value

/-- What the participant calls read of a request, its assignment and its tenant. -/
structure AssignmentRecord where
  assignmentId : JsString
  tenantId : JsString
  tenantName : JsString
  branding : Value
  intendedEmail : JsString
  principalId : Option JsString
  status : Status
  requestStatus : Status
  scheduledFor : Option Time
  dueAt : Option Time
  expiresAt : Time
  accessPolicy : Value
  purpose : JsString
  title : JsString
  requesterSnapshot : Value

/-- An interaction_session row. -/
structure InteractionSession where
  id : JsString
  principalId : JsString
  gatewaySessionId : JsString
  startedAt : Time
  completed : Bool

/-- An activity_response_revision row in the state saved. -/
structure SavedResponse where
  responseValue : Value
  responseLabel : JsString

/-- An activity_instance row with its saved responses, newest first, and its summaries. -/
structure ActivityInstance where
  definition : Activity
  definitionHash : JsString
  available : Bool
  openedAt : Option Time
  saved : List SavedResponse
  mediaSummary : Value
  interactionSummary : Value

/-- An assignment with its sessions and its activities in the order of their ordinals. -/
structure ParticipantCase where
  record : AssignmentRecord
  sessions : List InteractionSession
  activities : List ActivityInstance
  commandIds : List JsString

/-! ## Issuing -/

def newActivity (env : Environment) (available : Bool) (definition : Activity) :
    Except JsString ActivityInstance := do
  let definitionHash ← hashCanonicalJSON env.sha256Hex definition.toValue
  return { definition, definitionHash, available, openedAt := none, saved := []
           mediaSummary := .null, interactionSummary := .null }

/-- The activity instances of a new assignment: the first one is available. -/
def newActivities (env : Environment) : List Activity → Except JsString (List ActivityInstance)
  | [] => .ok []
  | first :: rest => do
      let head ← newActivity env true first
      let tail ← rest.mapM (newActivity env false)
      return head :: tail

/-- The case of a request that was issued for the activities of a published workflow. -/
def newCase (env : Environment) (record : AssignmentRecord) (activities : List Activity) :
    Except JsString ParticipantCase := do
  let instances ← newActivities env activities
  return { record, sessions := [], activities := instances, commandIds := [] }

/-! ## The projection -/

/-- A question without its key and its points. -/
def participantQuestion (question : Question) : Value :=
  .object [(js "choices", choicesValue question.choices), (js "id", .string question.id),
    (js "prompt", .string question.prompt), (js "required", .bool question.required),
    (js "type", .string (if question.multiple then js "multiple_choice" else js "single_choice"))]

/-- The content of participantActivityProjection. -/
def participantContent : Content → Value
  | .questionnaire content => .object [
      (js "instructions", optionalText content.instructions),
      (js "passingPercent", wholeNumber content.passingPercent),
      (js "questions", .array (content.questions.map participantQuestion)),
      (js "resultDisclosure", .string content.resultDisclosure)]
  | content => content.toValue

def optionalTime : Option Time → Value
  | some time => .string (isoText time)
  | none => .undefined

def participantTenantProjection (record : AssignmentRecord) : Value :=
  .object ([(js "id", .string record.tenantId), (js "name", .string record.tenantName)] ++
    if record.branding.truthy then [(js "branding", record.branding)] else [])

def participantRequesterProjection (snapshot : Value) : Value :=
  .object [(js "email", Media.orElse (snapshot.get (js "email")) .null),
    (js "relationship", .string (js "requesting_organization"))]

section Calls

variable (platform : ParticipantPlatform)

def workflowParticipantProjection (record : AssignmentRecord) (session : InteractionSession)
    (ordinal total : ℕ) (activity : ActivityInstance) (savedResponse savedResponseLabel : Value) :
    Value :=
  .object [
    (js "activityId", .string activity.definition.id),
    (js "assignmentId", .string record.assignmentId),
    (js "completed", .bool false),
    (js "content", participantContent activity.definition.content),
    (js "contentHash", .string activity.definitionHash),
    (js "contractVersion", wholeNumber 1),
    (js "dueAt", optionalTime record.dueAt),
    (js "expiresAt", .string (isoText record.expiresAt)),
    (js "instructions", optionalText activity.definition.instructions),
    (js "interaction", .object [(js "id", .string session.id),
      (js "startedAt", .string (isoText session.startedAt))]),
    (js "interactionEvidence", .object [(js "policy", platform.interactionEvidencePolicy),
      (js "summary", activity.interactionSummary)]),
    (js "progress", .object [(js "current", wholeNumber (ordinal + 1)),
      (js "total", wholeNumber total)]),
    (js "purpose", .string record.purpose),
    (js "requestAccess", .object [
      (js "authenticationAssurance", platform.authenticationAssurancePolicy record.accessPolicy),
      (js "postCompletion", Media.orElse (record.accessPolicy.get (js "postCompletion"))
        (.string (js "receipt_only")))]),
    (js "requester", participantRequesterProjection record.requesterSnapshot),
    (js "responseMode", .string activity.definition.content.responseMode),
    (js "mediaSummary", activity.mediaSummary),
    (js "savedResponse", savedResponse),
    (js "savedResponseLabel", savedResponseLabel),
    (js "tenant", participantTenantProjection record),
    (js "title", .string activity.definition.title),
    (js "type", .string activity.definition.content.type.name),
    (js "workflowTitle", .string record.title)]

/-! ## Calls -/

/-- The first available activity changed in place, with its ordinal; none without one. -/
def changeCurrent (change : ActivityInstance → ActivityInstance) :
    List ActivityInstance → Option (ℕ × ActivityInstance × List ActivityInstance)
  | [] => none
  | activity :: rest =>
      if activity.available then some (0, change activity, change activity :: rest)
      else (changeCurrent change rest).map fun (ordinal, current, later) =>
        (ordinal + 1, current, activity :: later)

/-- currentActivity: the first available activity, which counts as opened from now on. -/
def currentActivity (now : Time) (activities : List ActivityInstance) :
    Checked (ℕ × ActivityInstance × List ActivityInstance) :=
  match changeCurrent (fun activity =>
      { activity with openedAt := some (activity.openedAt.getD now) }) activities with
  | some current => .ok current
  | none => .error (EvidenceStoreError (js "activity_unavailable"))

def requireParticipant (actor : Actor) : Checked Unit :=
  if actor.email = [] ∨ ¬ actor.authenticatedAt.val.isPresent then
    .error (EvidenceStoreError (js "forbidden"))
  else .ok ()

def authorizeParticipant (record : AssignmentRecord) (actor : Actor) : Checked Unit :=
  if platform.env.toLowerCase record.intendedEmail ≠ actor.email ∨
      (record.principalId.isSome ∧ record.principalId ≠ some actor.principalId) then
    .error (EvidenceStoreError (js "not_found"))
  else .ok ()

def assertAssignmentAvailable (record : AssignmentRecord) (now : Time) : Checked Unit :=
  if record.status = .revoked ∨ record.requestStatus = .revoked then
    .error (EvidenceStoreError (js "assignment_revoked"))
  else if record.expiresAt ≤ now ∨ record.status = .expired ∨ record.requestStatus = .expired then
    .error (EvidenceStoreError (js "assignment_expired"))
  else if record.scheduledFor.any fun scheduledFor => now < scheduledFor then
    .error (EvidenceStoreError (js "assignment_not_yet_available"))
  else .ok ()

/-- The record after an open: issued when it was scheduled, then bound to the participant. -/
def openRecord (record : AssignmentRecord) (actor : Actor) : AssignmentRecord :=
  let issued := if record.requestStatus = .scheduled then
      { record with status := .issued, requestStatus := .issued }
    else record
  if issued.principalId.isSome then issued
  else { issued with
    principalId := some actor.principalId, status := .inProgress
    requestStatus := if issued.requestStatus = .issued then .inProgress else issued.requestStatus }

/-- The participant's open session on this gateway session; another one is completed. -/
def openSession (sessions : List InteractionSession) (actor : Actor) (interactionId : JsString)
    (now : Time) : InteractionSession × List InteractionSession :=
  let mine (session : InteractionSession) : Bool :=
    session.principalId = actor.principalId && !session.completed
  let created : InteractionSession :=
    { id := interactionId, principalId := actor.principalId
      gatewaySessionId := actor.gatewaySessionId, startedAt := now, completed := false }
  match sessions.find? mine with
  | none => (created, sessions ++ [created])
  | some session =>
      if session.gatewaySessionId = actor.gatewaySessionId then (session, sessions)
      else (created, (sessions.map fun other =>
        if other.id = session.id then { other with completed := true } else other) ++ [created])

/-- The stored response and its label, null before the first. -/
def savedColumns (activity : ActivityInstance) : Value × Value :=
  match activity.saved with
  | [] => (.null, .null)
  | saved :: _ => (saved.responseValue, .string saved.responseLabel)

def openAssignment (before : ParticipantCase) (actor : Actor) (now : Time)
    (interactionId : JsString) : Checked (Value × ParticipantCase) := do
  requireParticipant actor
  authorizeParticipant platform before.record actor
  if before.record.status = .completed then
    return (.object [(js "completed", .bool true), (js "receiptAvailable", .bool true)], before)
  else
    assertAssignmentAvailable before.record now
    platform.requireAuthenticationAssurance before.record.accessPolicy actor now
    let record := openRecord before.record actor
    let (session, sessions) := openSession before.sessions actor interactionId now
    let (ordinal, activity, activities) ← currentActivity now before.activities
    let (savedResponse, savedResponseLabel) := savedColumns activity
    return (workflowParticipantProjection platform record session ordinal activities.length
      activity savedResponse savedResponseLabel, { before with record, sessions, activities })

/-- A response with the intent save. -/
structure SaveCommand where
  actor : Actor
  now : Time
  completedAt : Time
  interactionId : JsString
  commandId : JsString
  activityId : Value
  response : Value

/-- Whether an activity identifier is given and is not that of the activity. -/
def otherActivity (activityId : Value) (activity : ActivityInstance) : Bool :=
  match Media.orElse activityId .undefined with
  | .undefined => false
  | .string id => id ≠ activity.definition.id
  | _ => true

/-- respond with the intent save: the response is validated and stored as a revision. -/
def respondSave (before : ParticipantCase) (command : SaveCommand) :
    Checked (Value × ParticipantCase) := do
  requireParticipant command.actor
  authorizeParticipant platform before.record command.actor
  assertAssignmentAvailable before.record command.now
  if before.record.status = .completed then
    .error (EvidenceStoreError (js "response_replayed"))
  else
    platform.requireAuthenticationAssurance before.record.accessPolicy command.actor command.now
    match before.sessions.find? fun session => session.id = command.interactionId &&
        session.principalId = command.actor.principalId && !session.completed with
    | none => .error (EvidenceStoreError (js "interaction_unavailable"))
    | some session =>
        let (ordinal, activity, opened) ← currentActivity command.now before.activities
        if otherActivity command.activityId activity then
          .error (EvidenceStoreError (js "activity_state_conflict"))
        else
          let response ← validateActivityResponse activity.definition command.response
          platform.requireAuthenticationAssurance before.record.accessPolicy command.actor
            command.completedAt
          if command.commandId ∈ before.commandIds then
            .error (EvidenceStoreError (js "response_replayed"))
          else
            let saved : SavedResponse :=
              ⟨readBack platform.env.order response.value, response.display⟩
            let activities := ((changeCurrent (fun activity =>
              { activity with saved := saved :: activity.saved }) opened).map fun current =>
                current.2.2).getD opened
            return (.object [
                (js "assignment", workflowParticipantProjection platform before.record session
                  ordinal activities.length activity response.value (.string response.display)),
                (js "completed", .bool false), (js "saved", .bool true)],
              { before with activities, commandIds := command.commandId :: before.commandIds })

/-- A call of the participant. -/
inductive Call where
  | openAssignment (actor : Actor) (now : Time) (interactionId : JsString)
  | save (command : SaveCommand)

def perform (before : ParticipantCase) : Call → Checked (Value × ParticipantCase)
  | .openAssignment actor now interactionId =>
      openAssignment platform before actor now interactionId
  | .save command => respondSave platform before command

/-- What a sequence of calls returns; a failed call leaves the case as it is. -/
def answers (before : ParticipantCase) : List Call → List (Checked Value)
  | [] => []
  | call :: rest =>
      match perform platform before call with
      | .ok (value, after) => .ok value :: answers after rest
      | .error failure => .error failure :: answers before rest

end Calls

/-! ## Workflows that differ in their keys -/

/-- The questions differ in nothing but the correct choices and the points. -/
def Question.SameButKeys (left right : Question) : Prop :=
  right = { left with correctChoiceIds := right.correctChoiceIds, points := right.points }

/-- The contents differ in nothing but the keys of questionnaire questions. -/
inductive Content.SameButKeys : Content → Content → Prop
  | same (content : Content) : Content.SameButKeys content content
  | questionnaire (content : QuestionnaireContent) (questions : List Question)
      (each : List.Forall₂ Question.SameButKeys content.questions questions) :
      Content.SameButKeys (.questionnaire content)
        (.questionnaire { content with questions })

/-- The activities differ in nothing but the keys of questionnaire questions. -/
structure Activity.SameButKeys (left right : Activity) : Prop where
  content : Content.SameButKeys left.content right.content
  rest : right = { left with content := right.content }

/-- The keys are invisible in a pair of cases: the same calls return the same. -/
def KeysInvisible (platform : ParticipantPlatform) (left right : ParticipantCase) : Prop :=
  ∀ calls, answers platform left calls = answers platform right calls

/-- The cases agree on everything but the activities that are not the current one. -/
structure SameCurrent (left right : ParticipantCase) : Prop where
  record : left.record = right.record
  sessions : left.sessions = right.sessions
  commandIds : left.commandIds = right.commandIds
  length : left.activities.length = right.activities.length
  current : ∀ change, (changeCurrent change left.activities).map (fun found => (found.1, found.2.1)) =
    (changeCurrent change right.activities).map fun found => (found.1, found.2.1)

/-! ## Changing the current activity -/

theorem changeCurrent_length {change : ActivityInstance → ActivityInstance}
    {activities : List ActivityInstance} {ordinal : ℕ} {current : ActivityInstance}
    {after : List ActivityInstance}
    (changed : changeCurrent change activities = some (ordinal, current, after)) :
    after.length = activities.length := by
  induction activities generalizing ordinal after with
  | nil => cases changed
  | cons activity rest inductionHypothesis =>
      rw [changeCurrent] at changed
      split at changed
      · cases changed
        rfl
      · rw [Option.map_eq_some_iff] at changed
        obtain ⟨⟨smaller, found, later⟩, inner, same⟩ := changed
        cases same
        simp [inductionHypothesis inner]

/-- A second change falls on the activity that the first one changed. -/
theorem changeCurrent_twice {first second : ActivityInstance → ActivityInstance}
    (keeps : ∀ activity, activity.available = true → (first activity).available = true)
    {activities : List ActivityInstance} {ordinal : ℕ} {current : ActivityInstance}
    {after : List ActivityInstance}
    (changed : changeCurrent first activities = some (ordinal, current, after)) :
    (changeCurrent second after).map (fun found => (found.1, found.2.1)) =
      some (ordinal, second current) := by
  induction activities generalizing ordinal after with
  | nil => cases changed
  | cons activity rest inductionHypothesis =>
      rw [changeCurrent] at changed
      split at changed
      case isTrue available =>
        cases changed
        simp [changeCurrent, keeps activity available]
      case isFalse other =>
        rw [Option.map_eq_some_iff] at changed
        obtain ⟨⟨smaller, found, later⟩, inner, same⟩ := changed
        cases same
        have next := inductionHypothesis inner
        rw [Option.map_eq_some_iff] at next
        obtain ⟨⟨place, target, rest'⟩, reached, equal⟩ := next
        cases equal
        simp [changeCurrent, other, reached]

/-- Two runs of a call: the same failure, or the same answer and cases that agree again. -/
inductive SameOutcome : Checked (Value × ParticipantCase) → Checked (Value × ParticipantCase) →
    Prop
  | failed (failure : Failure) : SameOutcome (.error failure) (.error failure)
  | done (value : Value) (left right : ParticipantCase) (same : SameCurrent left right) :
      SameOutcome (.ok (value, left)) (.ok (value, right))

/-- Lists of one length on which every change falls on the same current activity. -/
structure SameCurrentActivity (left right : List ActivityInstance) : Prop where
  length : left.length = right.length
  current : ∀ change, (changeCurrent change left).map (fun found => (found.1, found.2.1)) =
    (changeCurrent change right).map fun found => (found.1, found.2.1)

/-- A change finds the same current activity in both lists, and they agree again. -/
theorem SameCurrentActivity.changed {left right : List ActivityInstance}
    (same : SameCurrentActivity left right) (change : ActivityInstance → ActivityInstance)
    (keeps : ∀ activity, activity.available = true → (change activity).available = true) :
    (changeCurrent change left = none ∧ changeCurrent change right = none) ∨
      ∃ ordinal current leftAfter rightAfter,
        changeCurrent change left = some (ordinal, current, leftAfter) ∧
          changeCurrent change right = some (ordinal, current, rightAfter) ∧
          SameCurrentActivity leftAfter rightAfter := by
  have agree := same.current change
  cases leftFound : changeCurrent change left with
  | none =>
      rw [leftFound, Option.map_none, eq_comm, Option.map_eq_none_iff] at agree
      exact Or.inl ⟨rfl, agree⟩
  | some found =>
      obtain ⟨ordinal, current, leftAfter⟩ := found
      rw [leftFound, Option.map_some, eq_comm, Option.map_eq_some_iff] at agree
      obtain ⟨⟨place, target, rightAfter⟩, rightFound, equal⟩ := agree
      cases equal
      refine Or.inr ⟨ordinal, current, leftAfter, rightAfter, rfl, rightFound, ?_, fun next => ?_⟩
      · rw [changeCurrent_length leftFound, changeCurrent_length rightFound, same.length]
      · rw [changeCurrent_twice keeps leftFound, changeCurrent_twice keeps rightFound]

/-- currentActivity finds the same activity in both lists. -/
theorem currentActivity_same {left right : List ActivityInstance}
    (same : SameCurrentActivity left right) (now : Time) :
    (∃ failure, currentActivity now left = .error failure ∧
        currentActivity now right = .error failure) ∨
      ∃ ordinal current leftAfter rightAfter,
        currentActivity now left = .ok (ordinal, current, leftAfter) ∧
          currentActivity now right = .ok (ordinal, current, rightAfter) ∧
          SameCurrentActivity leftAfter rightAfter := by
  have found := same.changed (fun activity =>
    { activity with openedAt := some (activity.openedAt.getD now) }) fun _ available => available
  unfold currentActivity
  rcases found with ⟨none, other⟩ | ⟨ordinal, current, leftAfter, rightAfter, first, second, after⟩
  · rw [none, other]
    exact Or.inl ⟨_, rfl, rfl⟩
  · rw [first, second]
    exact Or.inr ⟨ordinal, current, leftAfter, rightAfter, rfl, rfl, after⟩

section TwoRuns

variable (platform : ParticipantPlatform)

theorem openAssignment_same (record : AssignmentRecord) (sessions : List InteractionSession)
    (commandIds : List JsString) {left right : List ActivityInstance}
    (same : SameCurrentActivity left right) (actor : Actor) (now : Time)
    (interactionId : JsString) :
    SameOutcome (openAssignment platform ⟨record, sessions, left, commandIds⟩ actor now interactionId)
      (openAssignment platform ⟨record, sessions, right, commandIds⟩ actor now interactionId) := by
  unfold openAssignment
  dsimp only
  cases requireParticipant actor with
  | error failure => exact .failed failure
  | ok _ =>
  cases authorizeParticipant platform record actor with
  | error failure => exact .failed failure
  | ok _ =>
  simp only [bind, Except.bind]
  split
  case isTrue => exact .done _ _ _ ⟨rfl, rfl, rfl, same.length, same.current⟩
  case isFalse =>
  cases assertAssignmentAvailable record now with
  | error failure => exact .failed failure
  | ok _ =>
  cases platform.requireAuthenticationAssurance record.accessPolicy actor now with
  | error failure => exact .failed failure
  | ok _ =>
  rcases currentActivity_same same now with
    ⟨failure, first, second⟩ | ⟨ordinal, current, leftAfter, rightAfter, first, second, after⟩
  · simp only [first, second]
    exact .failed failure
  · simp only [first, second, after.length]
    exact .done _ _ _ ⟨rfl, rfl, rfl, after.length, after.current⟩

theorem respondSave_same (record : AssignmentRecord) (sessions : List InteractionSession)
    (commandIds : List JsString) {left right : List ActivityInstance}
    (same : SameCurrentActivity left right) (command : SaveCommand) :
    SameOutcome (respondSave platform ⟨record, sessions, left, commandIds⟩ command)
      (respondSave platform ⟨record, sessions, right, commandIds⟩ command) := by
  unfold respondSave
  dsimp only
  cases requireParticipant command.actor with
  | error failure => exact .failed failure
  | ok _ =>
  cases authorizeParticipant platform record command.actor with
  | error failure => exact .failed failure
  | ok _ =>
  cases assertAssignmentAvailable record command.now with
  | error failure => exact .failed failure
  | ok _ =>
  simp only [bind, Except.bind]
  split
  case isTrue => exact .failed _
  case isFalse =>
  cases platform.requireAuthenticationAssurance record.accessPolicy command.actor
      command.now with
  | error failure => exact .failed failure
  | ok _ =>
  dsimp only
  split
  case h_1 => exact .failed _
  case h_2 session _ =>
  rcases currentActivity_same same command.now with
    ⟨failure, first, second⟩ | ⟨ordinal, current, leftAfter, rightAfter, first, second, after⟩
  · simp only [first, second]
    exact .failed failure
  simp only [first, second]
  split
  case isTrue => exact .failed _
  case isFalse =>
  cases validateActivityResponse current.definition command.response with
  | error failure => exact .failed failure
  | ok response =>
  cases platform.requireAuthenticationAssurance record.accessPolicy command.actor
      command.completedAt with
  | error failure => exact .failed failure
  | ok _ =>
  dsimp only
  split
  case isTrue => exact .failed _
  case isFalse =>
  let saved : SavedResponse := ⟨readBack platform.env.order response.value, response.display⟩
  have stored := after.changed (fun activity =>
    { activity with saved := saved :: activity.saved }) fun _ available => available
  rcases stored with ⟨none, other⟩ | ⟨place, target, leftLast, rightLast, third, fourth, last⟩
  · simp only [saved] at none other
    simp only [none, other, Option.map_none, Option.getD_none, after.length]
    exact .done _ _ _ ⟨rfl, rfl, rfl, after.length, after.current⟩
  · simp only [saved] at third fourth
    simp only [third, fourth, Option.map_some, Option.getD_some, last.length]
    exact .done _ _ _ ⟨rfl, rfl, rfl, last.length, last.current⟩

/-- A call returns the same in cases that agree, and they agree again. -/
theorem perform_same {left right : ParticipantCase} (same : SameCurrent left right) (call : Call) :
    SameOutcome (perform platform left call) (perform platform right call) := by
  obtain ⟨record, sessions, leftActivities, commandIds⟩ := left
  obtain ⟨otherRecord, otherSessions, rightActivities, otherCommandIds⟩ := right
  obtain ⟨records, sessionLists, commands, length, current⟩ := same
  dsimp only at records sessionLists commands length current
  subst records sessionLists commands
  cases call with
  | openAssignment actor now interactionId =>
      exact openAssignment_same platform _ _ _ ⟨length, current⟩ actor now interactionId
  | save command => exact respondSave_same platform _ _ _ ⟨length, current⟩ command

/-- Cases that agree on the current activity return the same to every sequence of calls. -/
theorem SameCurrent.invisible {left right : ParticipantCase} (same : SameCurrent left right) :
    KeysInvisible platform left right := by
  intro calls
  induction calls generalizing left right with
  | nil => rfl
  | cons call rest inductionHypothesis =>
      have step := perform_same platform same call
      unfold answers
      generalize perform platform left call = first at step
      generalize perform platform right call = second at step
      cases step with
      | failed failure => simp [inductionHypothesis same]
      | done value leftAfter rightAfter after => simp [inductionHypothesis after]

end TwoRuns

/-! ## When the keys are invisible -/

/-- Some participant can open an assignment with this record at some time. -/
def Openable (platform : ParticipantPlatform) (record : AssignmentRecord) : Prop :=
  ∃ actor now, requireParticipant actor = .ok () ∧
    authorizeParticipant platform record actor = .ok () ∧ record.status ≠ .completed ∧
    assertAssignmentAvailable record now = .ok () ∧
    platform.requireAuthenticationAssurance record.accessPolicy actor now = .ok ()

/-- SHA-256 tells the definitions of the two first activities apart. -/
def HashesApart (env : Environment) (first second : List Activity) : Prop :=
  ∀ left ∈ first.head?, ∀ right ∈ second.head?,
    hashCanonicalJSON env.sha256Hex left.toValue = hashCanonicalJSON env.sha256Hex right.toValue →
      left = right

theorem newActivity_ok {env : Environment} {available : Bool} {definition : Activity}
    {instance_ : ActivityInstance}
    (created : newActivity env available definition = .ok instance_) :
    ∃ hash, hashCanonicalJSON env.sha256Hex definition.toValue = .ok hash ∧
      instance_ = ⟨definition, hash, available, none, [], .null, .null⟩ := by
  obtain ⟨hash, hashed, created⟩ := bind_ok created
  cases created
  exact ⟨hash, hashed, rfl⟩

/-- The case of a new request: no activities, or a first one that is available. -/
theorem newCase_ok {env : Environment} {record : AssignmentRecord} {activities : List Activity}
    {issued : ParticipantCase} (created : newCase env record activities = .ok issued) :
    issued.record = record ∧ issued.sessions = [] ∧ issued.commandIds = [] ∧
      issued.activities.length = activities.length ∧
      ((activities = [] ∧ issued.activities = []) ∨
        ∃ first rest hash tail, activities = first :: rest ∧
          hashCanonicalJSON env.sha256Hex first.toValue = .ok hash ∧
          issued.activities = ⟨first, hash, true, none, [], .null, .null⟩ :: tail) := by
  obtain ⟨instances, made, created⟩ := bind_ok created
  cases created
  cases activities with
  | nil =>
      cases made
      exact ⟨rfl, rfl, rfl, rfl, Or.inl ⟨rfl, rfl⟩⟩
  | cons first rest =>
      obtain ⟨head, started, made⟩ := bind_ok made
      obtain ⟨tail, waiting, made⟩ := bind_ok made
      cases made
      obtain ⟨hash, hashed, rfl⟩ := newActivity_ok started
      have length := (StoredConfiguration.mapM_ok waiting).1
      exact ⟨rfl, rfl, rfl, by simp [length],
        Or.inr ⟨first, rest, hash, tail, rfl, hashed, rfl⟩⟩

/-- Opening a new case returns the projection of its first activity. -/
theorem openAssignment_new (platform : ParticipantPlatform) (opening : ParticipantCase)
    {actor : Actor} {now : Time} (interactionId : JsString)
    (participant : requireParticipant actor = .ok ())
    (authorized : authorizeParticipant platform opening.record actor = .ok ())
    (open_ : opening.record.status ≠ .completed)
    (available : assertAssignmentAvailable opening.record now = .ok ())
    (assured : platform.requireAuthenticationAssurance opening.record.accessPolicy actor now =
      .ok ())
    {first : Activity} {hash : JsString} {tail : List ActivityInstance}
    (activities : opening.activities =
      ⟨first, hash, true, none, [], .null, .null⟩ :: tail) :
    ∃ value after, perform platform opening (.openAssignment actor now interactionId) =
      .ok (value, after) ∧ value.get (js "contentHash") = .string hash := by
  rw [perform, openAssignment, participant, authorized, activities]
  simp only [bind, Except.bind, open_, if_false, available, assured, currentActivity,
    changeCurrent, if_true]
  exact ⟨_, _, rfl, rfl⟩

/-- A case that nobody has opened, with the given activities. -/
def unopened (record : AssignmentRecord) (activities : List ActivityInstance) : ParticipantCase :=
  ⟨record, [], activities, []⟩

/-- Two runs of a call on unopened cases: the same failure, or the same answer and no change. -/
inductive SameRefusal (left right : ParticipantCase) :
    Checked (Value × ParticipantCase) → Checked (Value × ParticipantCase) → Prop
  | failed (failure : Failure) : SameRefusal left right (.error failure) (.error failure)
  | answered (value : Value) : SameRefusal left right (.ok (value, left)) (.ok (value, right))

/-- Nothing happens to an assignment that nobody can open, whatever its activities. -/
theorem perform_unopenable (platform : ParticipantPlatform) {record : AssignmentRecord}
    (closed : ¬ Openable platform record) (left right : List ActivityInstance) (call : Call) :
    SameRefusal (unopened record left) (unopened record right)
      (perform platform (unopened record left) call)
      (perform platform (unopened record right) call) := by
  cases call with
  | openAssignment actor now interactionId =>
      unfold perform openAssignment unopened
      dsimp only
      cases participant : requireParticipant actor with
      | error failure => exact .failed failure
      | ok _ =>
      cases authorized : authorizeParticipant platform record actor with
      | error failure => exact .failed failure
      | ok _ =>
      simp only [bind, Except.bind]
      split
      case isTrue => exact .answered _
      case isFalse unfinished =>
      cases available : assertAssignmentAvailable record now with
      | error failure => exact .failed failure
      | ok _ =>
      cases assured : platform.requireAuthenticationAssurance record.accessPolicy actor now with
      | error failure => exact .failed failure
      | ok _ =>
      exact absurd ⟨actor, now, participant, authorized, unfinished, available, assured⟩ closed
  | save command =>
      unfold perform respondSave unopened
      dsimp only
      cases requireParticipant command.actor with
      | error failure => exact .failed failure
      | ok _ =>
      cases authorizeParticipant platform record command.actor with
      | error failure => exact .failed failure
      | ok _ =>
      cases assertAssignmentAvailable record command.now with
      | error failure => exact .failed failure
      | ok _ =>
      simp only [bind, Except.bind]
      split
      case isTrue => exact .failed _
      case isFalse =>
      cases platform.requireAuthenticationAssurance record.accessPolicy command.actor
          command.now with
      | error failure => exact .failed failure
      | ok _ => exact .failed _

theorem unopenable_invisible (platform : ParticipantPlatform) {record : AssignmentRecord}
    (closed : ¬ Openable platform record) (left right : List ActivityInstance) :
    KeysInvisible platform (unopened record left) (unopened record right) := by
  intro calls
  induction calls with
  | nil => rfl
  | cons call rest inductionHypothesis =>
      have step := perform_unopenable platform closed left right call
      unfold answers
      generalize perform platform (unopened record left) call = first at step
      generalize perform platform (unopened record right) call = second at step
      cases step with
      | failed failure => simp [inductionHypothesis]
      | answered value => simp [inductionHypothesis]

/-- The participant's view of two issued workflows that differ in nothing but
their keys is the same exactly when their first activities are, or when nobody
can ever open the assignment. -/
theorem keysInvisible_iff (platform : ParticipantPlatform) (record : AssignmentRecord)
    (first second : List Activity) (same : List.Forall₂ Activity.SameButKeys first second)
    (left right : ParticipantCase) (issuedLeft : newCase platform.env record first = .ok left)
    (issuedRight : newCase platform.env record second = .ok right)
    (apart : HashesApart platform.env first second) :
    KeysInvisible platform left right ↔
      first.head? = second.head? ∨ ¬ Openable platform record := by
  obtain ⟨leftRecord, leftSessions, leftCommands, leftLength, leftShape⟩ := newCase_ok issuedLeft
  obtain ⟨rightRecord, rightSessions, rightCommands, rightLength, rightShape⟩ :=
    newCase_ok issuedRight
  have lengths : left.activities.length = right.activities.length := by
    rw [leftLength, rightLength, same.length_eq]
  constructor
  · intro invisible
    by_cases openable : Openable platform record
    case neg => exact Or.inr openable
    left
    rcases leftShape with ⟨rfl, -⟩ | ⟨leftFirst, leftRest, leftHash, leftTail, rfl, leftHashed, leftOpen⟩
    · cases same
      rfl
    rcases rightShape with
      ⟨rfl, -⟩ | ⟨rightFirst, rightRest, rightHash, rightTail, rfl, rightHashed, rightOpen⟩
    · cases same
    obtain ⟨actor, now, participant, authorized, unfinished, available, assured⟩ := openable
    obtain ⟨value, after, opened, shown⟩ := openAssignment_new platform left []
      participant (leftRecord ▸ authorized) (leftRecord ▸ unfinished) (leftRecord ▸ available)
      (leftRecord ▸ assured) leftOpen
    obtain ⟨other, otherAfter, otherOpened, otherShown⟩ := openAssignment_new
      platform right [] participant (rightRecord ▸ authorized)
      (rightRecord ▸ unfinished) (rightRecord ▸ available) (rightRecord ▸ assured) rightOpen
    have answered := invisible [.openAssignment actor now []]
    simp only [answers, opened, otherOpened, List.cons.injEq, Except.ok.injEq,
      and_true] at answered
    rw [answered, otherShown, Value.string.injEq] at shown
    have equal := apart leftFirst rfl rightFirst rfl (by rw [leftHashed, rightHashed, shown])
    simp [equal]
  · rintro (heads | closed)
    case inr =>
      obtain ⟨_, _, leftActivities, _⟩ := left
      obtain ⟨_, _, rightActivities, _⟩ := right
      dsimp only at leftRecord leftSessions leftCommands rightRecord rightSessions rightCommands
      subst leftRecord leftSessions leftCommands rightRecord rightSessions rightCommands
      exact unopenable_invisible platform closed leftActivities rightActivities
    refine SameCurrent.invisible platform ⟨by rw [leftRecord, rightRecord],
      by rw [leftSessions, rightSessions], by rw [leftCommands, rightCommands], lengths,
      fun change => ?_⟩
    rcases leftShape with ⟨rfl, leftNone⟩ | ⟨leftFirst, leftRest, leftHash, leftTail, rfl, leftHashed, leftOpen⟩
    · have rightNone : right.activities = [] := by
        rw [← List.length_eq_zero_iff, ← lengths, leftNone]
        rfl
      rw [leftNone, rightNone]
    rcases rightShape with
      ⟨rfl, -⟩ | ⟨rightFirst, rightRest, rightHash, rightTail, rfl, rightHashed, rightOpen⟩
    · cases heads
    obtain rfl : leftFirst = rightFirst := by simpa using heads
    obtain rfl : leftHash = rightHash := by simpa [leftHashed] using rightHashed
    rw [leftOpen, rightOpen]
    simp [changeCurrent]

/-! ## A key that shows -/

/-- The keys of issued workflows are never visible to a participant. -/
def KeysAlwaysInvisible (platform : ParticipantPlatform) : Prop :=
  ∀ record first second, List.Forall₂ Activity.SameButKeys first second →
    ∀ left right, newCase platform.env record first = .ok left →
      newCase platform.env record second = .ok right → KeysInvisible platform left right

/-- A platform on which every actor is assured. -/
def samplePlatform : ParticipantPlatform where
  env := Sample.env
  authenticationAssurancePolicy := fun _ => .null
  requireAuthenticationAssurance := fun _ _ _ => .ok ()
  interactionEvidencePolicy := .null

def sampleRecord : AssignmentRecord where
  assignmentId := js "assignment"
  tenantId := js "tenant"
  tenantName := js "Tenant"
  branding := .null
  intendedEmail := Sample.participant.email
  principalId := none
  status := .issued
  requestStatus := .issued
  scheduledFor := none
  dueAt := none
  expiresAt := 1000
  accessPolicy := .null
  purpose := js "Training"
  title := js "Training"
  requesterSnapshot := .null

/-- One question with two choices, of which one is correct. -/
def keyedQuestion (correct : JsString) : Question where
  choices := [⟨none, js "a", js "First"⟩, ⟨none, js "b", js "Second"⟩]
  correctChoiceIds := [correct]
  id := js "question"
  points := 1
  prompt := js "Which one?"
  required := true
  multiple := false

/-- A questionnaire of that question. -/
def keyedActivity (correct : JsString) : Activity where
  content := .questionnaire {
    instructions := none, passingPercent := 100, questions := [keyedQuestion correct]
    resultDisclosure := js "none" }
  id := js "quiz"
  instructions := none
  title := js "Quiz"
  transition := ⟨[], none⟩

def keyedHash (correct : JsString) : JsString :=
  ((hashCanonicalJSON Sample.env.sha256Hex (keyedActivity correct).toValue).toOption).getD []

/-- The case of a request for that questionnaire. -/
def keyedCase (correct : JsString) : ParticipantCase where
  record := sampleRecord
  sessions := []
  activities := [⟨keyedActivity correct, keyedHash correct, true, none, [], .null, .null⟩]
  commandIds := []

theorem keyedHash_apart : keyedHash (js "a") ≠ keyedHash (js "b") := by decide +kernel

theorem keyedHash_ok :
    hashCanonicalJSON Sample.env.sha256Hex (keyedActivity (js "a")).toValue =
        .ok (keyedHash (js "a")) ∧
      hashCanonicalJSON Sample.env.sha256Hex (keyedActivity (js "b")).toValue =
        .ok (keyedHash (js "b")) := by
  decide +kernel

theorem keyedCase_issued :
    newCase Sample.env sampleRecord [keyedActivity (js "a")] = .ok (keyedCase (js "a")) ∧
      newCase Sample.env sampleRecord [keyedActivity (js "b")] = .ok (keyedCase (js "b")) := by
  obtain ⟨first, second⟩ := keyedHash_ok
  constructor
  · rw [newCase, newActivities, newActivity, first]
    rfl
  · rw [newCase, newActivities, newActivity, second]
    rfl

theorem keyedActivity_same :
    List.Forall₂ Activity.SameButKeys [keyedActivity (js "a")] [keyedActivity (js "b")] :=
  .cons ⟨.questionnaire _ [keyedQuestion (js "b")] (.cons rfl .nil), rfl⟩ .nil

theorem sampleRecord_openable : Openable samplePlatform sampleRecord :=
  ⟨Sample.participant, 0, by decide, by decide, by decide, by decide, rfl⟩

/-- The equivalence at the two questionnaires. -/
theorem keysInvisible_iff_keyedCases :
    KeysInvisible samplePlatform (keyedCase (js "a")) (keyedCase (js "b")) ↔
      [keyedActivity (js "a")].head? = [keyedActivity (js "b")].head? ∨
        ¬ Openable samplePlatform sampleRecord :=
  keysInvisible_iff samplePlatform sampleRecord _ _ keyedActivity_same _ _
    keyedCase_issued.1 keyedCase_issued.2 (by
      rintro left ⟨⟩ right ⟨⟩ same
      have equal : Except.ok (keyedHash (js "a")) = Except.ok (keyedHash (js "b")) :=
        keyedHash_ok.1.symm.trans (same.trans keyedHash_ok.2)
      exact absurd (Except.ok.inj equal) keyedHash_apart)

/-- Opening shows the digest of the definition, keys included. -/
theorem keyedCases_visible : ¬ KeysAlwaysInvisible samplePlatform := by
  intro always
  have invisible := always sampleRecord _ _ keyedActivity_same _ _ keyedCase_issued.1
    keyedCase_issued.2
  obtain ⟨actor, now, participant, authorized, unfinished, available, assured⟩ :=
    sampleRecord_openable
  obtain ⟨value, after, opened, shown⟩ := openAssignment_new samplePlatform
    (keyedCase (js "a")) [] participant authorized unfinished available assured rfl
  obtain ⟨other, otherAfter, otherOpened, otherShown⟩ := openAssignment_new
    samplePlatform (keyedCase (js "b")) [] participant authorized
    unfinished available assured rfl
  have answered := invisible [.openAssignment actor now []]
  simp only [answers, opened, otherOpened, List.cons.injEq, Except.ok.injEq, and_true] at answered
  rw [answered, otherShown, Value.string.injEq] at shown
  exact keyedHash_apart shown.symm

end Vasi.ParticipantView
