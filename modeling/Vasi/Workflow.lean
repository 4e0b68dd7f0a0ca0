import Vasi.Activities
import Vasi.CanonicalJson

/-!
# Workflow drafts and transitions

A workflow draft is a list of activities with branches that may only lead
forward. This module models the draft validation with all of its members and
the choice of the activity that follows an accepted response.

`Forward` is what validation establishes about the transitions, and
`evaluateNextActivity_forward` is what the run-time choice gets from it: the
next activity, if there is one, is a later one. Company roles, request commands
and the evaluation of authentication assurance are not modelled here.
-/
namespace Vasi.Workflow

open JsValue Validation Activities

structure AuthenticationAssurance where
  acceptedMethods : List JsString
  maximumAgeSeconds : Option ℕ

structure Access where
  authentication : JsString
  authenticationAssurance : AuthenticationAssurance
  postCompletion : JsString

structure Notifications where
  onCompletion : Bool
  onIssue : Bool
  reminderHoursBeforeDue : List ℕ

structure Schedule where
  defaultDueDays : ℕ
  defaultExpirationDays : ℕ

/-- A validated workflow document. -/
structure WorkflowDocument where
  access : Access
  activities : List Activity
  assuranceProfile : JsString
  completionMode : JsString
  instructions : Option JsString
  notifications : Notifications
  purpose : JsString
  retentionProfile : JsString
  schedule : Schedule
  title : JsString

def invalid (message : JsString) : Failure := ⟨js "INVALID_WORKFLOW", message⟩

def AUTHENTICATION_ASSURANCE_METHODS : List JsString :=
  [js "any_verified", js "federated", js "password", js "email_verification"]

def POST_COMPLETION_ACCESS : List JsString :=
  [js "receipt_only", js "content_until_expiration", js "content_always"]

/-- An optional integer: null and undefined are absent. -/
def optionalSafeInteger (value : Value) (field : JsString) (minimum maximum : ℕ) :
    Checked (Option ℕ) :=
  if value.isPresent then (safeIntegerWith invalid value field minimum maximum).map some
  else .ok none

/-- The accepted methods, distinct and known, with any_verified only alone. -/
def normalizeMethods (value : Value) : Checked (List JsString) :=
  match orDefault value (.array [.string (js "any_verified")]) with
  | .array items =>
      if items = [] ∨ items.length > AUTHENTICATION_ASSURANCE_METHODS.length then
        .error (invalid (js "Authentication assurance requires one or more accepted methods."))
      else match stringItems? items with
        | some methods =>
            if methods.Nodup ∧ (∀ method ∈ methods, method ∈ AUTHENTICATION_ASSURANCE_METHODS) ∧
                (js "any_verified" ∈ methods → methods.length = 1) then
              .ok (AUTHENTICATION_ASSURANCE_METHODS.filter (· ∈ methods))
            else .error (invalid (js "The authentication-assurance methods are invalid."))
        | none => .error (invalid (js "The authentication-assurance methods are invalid."))
  | _ => .error (invalid (js "Authentication assurance requires one or more accepted methods."))

def normalizeAuthenticationAssurance (value : Value) : Checked AuthenticationAssurance :=
  if value.isPresent then do
    let input ← strictObjectWith invalid value (js "authentication assurance")
      [js "acceptedMethods", js "maximumAgeSeconds"]
    let acceptedMethods ← normalizeMethods (Value.member input (js "acceptedMethods"))
    let maximumAgeSeconds ← optionalSafeInteger (Value.member input (js "maximumAgeSeconds"))
      (js "maximumAgeSeconds") 300 2592000
    return { acceptedMethods, maximumAgeSeconds }
  else .ok { acceptedMethods := [js "any_verified"], maximumAgeSeconds := none }

/-- A default, or one of the allowed strings. -/
def oneOfWithDefault (value : Value) (fallback : JsString) (allowed : List JsString)
    (message : JsString) : Checked JsString :=
  match orDefault value (.string fallback) with
  | .string text => if text ∈ allowed then .ok text else .error (invalid message)
  | _ => .error (invalid message)

def normalizeAccess (value : Value) : Checked Access := do
  let input ← optionalObjectWith invalid value (js "access")
    [js "authentication", js "authenticationAssurance", js "postCompletion"]
  let authentication ← oneOfWithDefault (Value.member input (js "authentication"))
    (js "verified_email") [js "verified_email"]
    (js "Only verified-email participant access is supported.")
  let postCompletion ← oneOfWithDefault (Value.member input (js "postCompletion"))
    (js "receipt_only") POST_COMPLETION_ACCESS
    (js "The post-completion access policy is unsupported.")
  let authenticationAssurance ← normalizeAuthenticationAssurance
    (Value.member input (js "authenticationAssurance"))
  return { authentication, authenticationAssurance, postCompletion }

def normalizeCompletion (value : Value) : Checked JsString := do
  let input ← optionalObjectWith invalid value (js "completion") [js "mode"]
  oneOfWithDefault (Value.member input (js "mode")) (js "terminal_activity")
    [js "terminal_activity"] (js "The completion mode is unsupported.")

def normalizeSchedule (value : Value) : Checked Schedule := do
  let input ← optionalObjectWith invalid value (js "schedule")
    [js "defaultDueDays", js "defaultExpirationDays"]
  let due ← optionalSafeInteger (Value.member input (js "defaultDueDays")) (js "defaultDueDays")
    1 365
  let defaultDueDays := due.getD 7
  let expiration ← optionalSafeInteger (Value.member input (js "defaultExpirationDays"))
    (js "defaultExpirationDays") defaultDueDays 365
  return { defaultDueDays, defaultExpirationDays := expiration.getD (max defaultDueDays 14) }

/-- A reminder offset in whole hours. -/
def reminderOffset (_number : ℕ) (value : Value) : Checked ℕ :=
  match safeIntegerWith invalid value [] 1 8760 with
  | .ok offset => .ok offset
  | .error _ => .error (invalid (js "Reminder offsets must be whole hours between 1 and 8760."))

def normalizeReminders (value : Value) : Checked (List ℕ) :=
  match orDefault value (.array [.number (.finite 24)]) with
  | .array items =>
      if items.length > 8 then .error (invalid (js "Too many reminder offsets were supplied."))
      else do
        let offsets ← normalizeEach reminderOffset 1 items
        return offsets.dedup.insertionSort (· ≥ ·)
  | _ => .error (invalid (js "Too many reminder offsets were supplied."))

def normalizeNotifications (value : Value) : Checked Notifications := do
  let input ← optionalObjectWith invalid value (js "notifications")
    [js "onCompletion", js "onIssue", js "reminderHoursBeforeDue"]
  let reminderHoursBeforeDue ← normalizeReminders
    (Value.member input (js "reminderHoursBeforeDue"))
  return {
    onCompletion := isNotFalse (Value.member input (js "onCompletion"))
    onIssue := isNotFalse (Value.member input (js "onIssue"))
    reminderHoursBeforeDue }

def normalizeNamedProfile (value : Value) (name fallback : JsString) : Checked JsString := do
  let input ← optionalObjectWith invalid value name [js "profile"]
  let profile ← optionalStringWith invalid (Value.member input (js "profile"))
    (name ++ js ".profile") 128
  return profile.getD fallback

/-! ## Transitions -/

/-- The position of an activity in its workflow. -/
def activityIndex (activities : List Activity) (id : JsString) : Option ℕ :=
  activities.findIdx? fun activity => activity.id = id

def validateForwardDestination (destination : Option JsString) (index : ℕ)
    (activities : List Activity) : Checked Unit :=
  match destination with
  | none => .ok ()
  | some id =>
      match activityIndex activities id with
      | none => .error (invalid (js "Unknown workflow destination: " ++ id ++ js "."))
      | some destinationIndex =>
          if destinationIndex ≤ index then
            .error (invalid (js "Workflow branches must move forward and cannot form cycles."))
          else .ok ()

/-- Check the branches in order, remembering the responses seen so far. -/
def validateBranches (activity : Activity) (index : ℕ) (activities : List Activity) :
    List JsString → List Branch → Checked Unit
  | _, [] => .ok ()
  | seen, branch :: rest => do
      if branch.equals ∉ branchValuesForActivity activity ∨ branch.equals ∈ seen then
        .error (invalid (js "Activity " ++ activity.id ++
          js " contains an invalid or duplicate branch response."))
      else
        validateForwardDestination branch.destination index activities
        validateBranches activity index activities (branch.equals :: seen) rest

def validateTransition (activity : Activity) (index : ℕ) (activities : List Activity) :
    Checked Unit := do
  validateBranches activity index activities [] activity.transition.cases
  match activity.transition.defaultTo with
  | some (some id) => validateForwardDestination (some id) index activities
  | _ => .ok ()

/-- Check the transitions of the activities in order. -/
def validateTransitions (activities : List Activity) : ℕ → List Activity → Checked Unit
  | _, [] => .ok ()
  | index, activity :: rest => do
      validateTransition activity index activities
      validateTransitions activities (index + 1) rest

/-! ## Drafts -/

def AuthenticationAssurance.toValue (assurance : AuthenticationAssurance) : Value :=
  .object [(js "acceptedMethods", .array (assurance.acceptedMethods.map .string)),
    (js "maximumAgeSeconds", match assurance.maximumAgeSeconds with
      | some seconds => wholeNumber seconds
      | none => .null)]

/-- The stored document of a workflow. -/
def WorkflowDocument.toValue (document : WorkflowDocument) : Value :=
  .object [
    (js "access", .object [(js "authentication", .string document.access.authentication),
      (js "authenticationAssurance", document.access.authenticationAssurance.toValue),
      (js "postCompletion", .string document.access.postCompletion)]),
    (js "activities", .array (document.activities.map Activity.toValue)),
    (js "assurance", .object [(js "profile", .string document.assuranceProfile)]),
    (js "completion", .object [(js "mode", .string document.completionMode)]),
    (js "instructions", optionalText document.instructions),
    (js "notifications", .object [
      (js "onCompletion", .bool document.notifications.onCompletion),
      (js "onIssue", .bool document.notifications.onIssue),
      (js "reminderHoursBeforeDue",
        .array (document.notifications.reminderHoursBeforeDue.map wholeNumber))]),
    (js "purpose", .string document.purpose),
    (js "retention", .object [(js "profile", .string document.retentionProfile)]),
    (js "schedule", .object [(js "defaultDueDays", wholeNumber document.schedule.defaultDueDays),
      (js "defaultExpirationDays", wholeNumber document.schedule.defaultExpirationDays)]),
    (js "schema", .string (js "vasi-workflow/v1")), (js "title", .string document.title)]

/-- The activities of a draft: one to fifty, with distinct identifiers and
transitions that lead forward. -/
def validateActivities (platform : Media.Platform) (value : Value) : Checked (List Activity) :=
  let failure := Except.error (invalid (js "A workflow requires 1 to 50 activities."))
  match value with
  | .array items =>
      if items.length < 1 ∨ items.length > 50 then failure
      else do
        let activities ← normalizeEach (normalizeActivityDefinition platform) 1 items
        if (activities.map Activity.id).Nodup then
          validateTransitions activities 0 activities
          return activities
        else .error (invalid (js "Workflow activity IDs must be unique."))
  | _ => failure

/-- The schema member may be left out. -/
def checkSchema (value : Value) : Checked Unit :=
  match value with
  | .undefined => .ok ()
  | _ =>
      if isText value (js "vasi-workflow/v1") then .ok ()
      else .error (invalid (js "The workflow schema is unsupported."))

def validateWorkflowDraft (platform : Media.Platform) (value : Value) :
    Checked WorkflowDocument := do
  let input ← strictObjectWith invalid value (js "workflow")
    [js "access", js "activities", js "assurance", js "completion", js "instructions",
     js "notifications", js "purpose", js "retention", js "schedule", js "schema", js "title"]
  checkSchema (Value.member input (js "schema"))
  let activities ← validateActivities platform (Value.member input (js "activities"))
  let access ← normalizeAccess (Value.member input (js "access"))
  let assuranceProfile ← normalizeNamedProfile (Value.member input (js "assurance"))
    (js "assurance") (js "vasi-integrity-seal/v1")
  let completionMode ← normalizeCompletion (Value.member input (js "completion"))
  let instructions ← optionalStringWith invalid (Value.member input (js "instructions"))
    (js "instructions") 4000
  let notifications ← normalizeNotifications (Value.member input (js "notifications"))
  let purpose ← boundedStringWith invalid (Value.member input (js "purpose")) (js "purpose") 2 1000
  let retentionProfile ← normalizeNamedProfile (Value.member input (js "retention"))
    (js "retention") (js "tenant_default")
  let schedule ← normalizeSchedule (Value.member input (js "schedule"))
  let title ← boundedStringWith invalid (Value.member input (js "title")) (js "title") 2 160
  return { access, activities, assuranceProfile, completionMode, instructions, notifications
           purpose, retentionProfile, schedule, title }

/-- The activity that follows an accepted response; none completes the workflow. -/
def evaluateNextActivity (workflow : WorkflowDocument) (currentActivityId outcome : JsString) :
    Checked (Option JsString) :=
  match activityIndex workflow.activities currentActivityId with
  | none => .error (invalid (js "The current workflow activity is unknown."))
  | some index =>
      match workflow.activities[index]? with
      | none => .error (invalid (js "The current workflow activity is unknown."))
      | some activity =>
          match activity.transition.cases.find? fun branch => branch.equals = outcome with
          | some matched => .ok matched.destination
          | none =>
              match activity.transition.defaultTo with
              | some destination => .ok destination
              | none => .ok (workflow.activities[index + 1]?.map Activity.id)

/-! ## Forward transitions -/

/-- A destination ends the workflow or names an activity after the given position. -/
def LeadsForward (activities : List Activity) (index : ℕ) (destination : Option JsString) :
    Prop :=
  ∀ id, destination = some id → ∃ later, activityIndex activities id = some later ∧ index < later

/-- What validation establishes about the activities of a workflow. -/
structure Forward (activities : List Activity) : Prop where
  nonempty : activities ≠ []
  distinct : (activities.map Activity.id).Nodup
  branches : ∀ index activity, activities[index]? = some activity →
    ∀ branch ∈ activity.transition.cases, LeadsForward activities index branch.destination
  default : ∀ index activity, activities[index]? = some activity →
    ∀ destination, activity.transition.defaultTo = some destination →
      LeadsForward activities index destination

/-- An accepted destination leads forward. -/
theorem validateForwardDestination_ok {destination : Option JsString} {index : ℕ}
    {activities : List Activity}
    (accepted : validateForwardDestination destination index activities = .ok ()) :
    LeadsForward activities index destination := by
  rintro id rfl
  unfold validateForwardDestination at accepted
  cases found : activityIndex activities id with
  | none => simp [found] at accepted
  | some later =>
      simp only [found] at accepted
      split at accepted
      · cases accepted
      · exact ⟨later, rfl, by omega⟩

/-- Every branch that validation accepts leads forward. -/
theorem validateBranches_ok {activity : Activity} {index : ℕ} {activities : List Activity}
    {seen : List JsString} {branches : List Branch}
    (accepted : validateBranches activity index activities seen branches = .ok ()) :
    ∀ branch ∈ branches, LeadsForward activities index branch.destination := by
  induction branches generalizing seen with
  | nil => simp
  | cons branch rest inductionHypothesis =>
      unfold validateBranches at accepted
      split at accepted
      · cases accepted
      · cases first : validateForwardDestination branch.destination index activities with
        | error failure => simp [first, bind, Except.bind] at accepted
        | ok _ =>
            simp only [first, bind, Except.bind] at accepted
            rw [List.forall_mem_cons]
            exact ⟨validateForwardDestination_ok first, inductionHypothesis accepted⟩

/-- An accepted transition leads forward in its branches and its default. -/
theorem validateTransition_ok {activity : Activity} {index : ℕ} {activities : List Activity}
    (accepted : validateTransition activity index activities = .ok ()) :
    (∀ branch ∈ activity.transition.cases, LeadsForward activities index branch.destination) ∧
      ∀ destination, activity.transition.defaultTo = some destination →
        LeadsForward activities index destination := by
  unfold validateTransition at accepted
  cases branches : validateBranches activity index activities [] activity.transition.cases with
  | error failure => simp [branches, bind, Except.bind] at accepted
  | ok _ =>
      refine ⟨validateBranches_ok branches, ?_⟩
      intro destination given
      simp only [branches, bind, Except.bind, given] at accepted
      cases destination with
      | none => simp [LeadsForward]
      | some id => exact validateForwardDestination_ok accepted

/-- Accepted transitions lead forward at every position that was checked. The
induction follows the list of activities still to check. -/
theorem validateTransitions_ok {activities rest : List Activity} {start : ℕ}
    (accepted : validateTransitions activities start rest = .ok ()) :
    ∀ offset activity, rest[offset]? = some activity →
      validateTransition activity (start + offset) activities = .ok () := by
  induction rest generalizing start with
  | nil => simp
  | cons head tail inductionHypothesis =>
      unfold validateTransitions at accepted
      cases first : validateTransition head start activities with
      | error failure => simp [first, bind, Except.bind] at accepted
      | ok _ =>
          simp only [first, bind, Except.bind] at accepted
          intro offset activity found
          cases offset with
          | zero =>
              obtain rfl : head = activity := by simpa using found
              exact first
          | succ offset =>
              have later := inductionHypothesis accepted offset activity (by simpa using found)
              rwa [Nat.add_right_comm, Nat.add_assoc] at later

/-- Normalizing each entry keeps their number. -/
theorem normalizeEach_length {α : Type} {normalize : ℕ → Value → Checked α} {number : ℕ}
    {values : List Value} {result : List α}
    (accepted : normalizeEach normalize number values = .ok result) :
    result.length = values.length := by
  induction values generalizing number result with
  | nil =>
      cases accepted
      rfl
  | cons value rest inductionHypothesis =>
      unfold normalizeEach at accepted
      cases head : normalize number value with
      | error failure => simp [head, bind, Except.bind] at accepted
      | ok first =>
          cases tail : normalizeEach normalize (number + 1) rest with
          | error failure => simp [head, tail, bind, Except.bind] at accepted
          | ok others =>
              simp only [head, tail, bind, Except.bind, pure, Except.pure] at accepted
              cases accepted
              simp [inductionHypothesis tail]

/-- Accepted activities are one to fifty and lead forward. -/
theorem validateActivities_ok {platform : Media.Platform} {value : Value}
    {activities : List Activity} (accepted : validateActivities platform value = .ok activities) :
    Forward activities ∧ activities.length ≤ 50 := by
  cases value with
  | array items =>
      simp only [validateActivities] at accepted
      split at accepted
      · cases accepted
      · rename_i size
        cases normalized : normalizeEach (normalizeActivityDefinition platform) 1 items with
        | error failure => simp [normalized, bind, Except.bind] at accepted
        | ok result =>
            simp only [normalized, bind, Except.bind] at accepted
            split at accepted
            · rename_i distinct
              cases checked : validateTransitions result 0 result with
              | error failure => simp [checked] at accepted
              | ok _ =>
                  simp only [checked, pure, Except.pure] at accepted
                  cases accepted
                  have length := normalizeEach_length normalized
                  have each := validateTransitions_ok checked
                  simp only [Nat.zero_add] at each
                  refine ⟨⟨?_, distinct, ?_, ?_⟩, by omega⟩
                  · rintro rfl
                    simp only [List.length_nil] at length
                    omega
                  · exact fun index activity found =>
                      (validateTransition_ok (each index activity found)).1
                  · exact fun index activity found =>
                      (validateTransition_ok (each index activity found)).2
            · cases accepted
  | _ => simp [validateActivities] at accepted

/-- A validated draft leads forward and has at most fifty activities. -/
theorem validateWorkflowDraft_forward {platform : Media.Platform} {value : Value}
    {document : WorkflowDocument} (accepted : validateWorkflowDraft platform value = .ok document) :
    Forward document.activities ∧ document.activities.length ≤ 50 := by
  simp only [validateWorkflowDraft, bind, Except.bind] at accepted
  repeat' split at accepted
  all_goals try cases accepted
  exact validateActivities_ok (by assumption)

/-- With distinct identifiers, the position of an activity is where it stands. -/
theorem activityIndex_eq {activities : List Activity}
    (distinct : (activities.map Activity.id).Nodup) {index : ℕ} {activity : Activity}
    (found : activities[index]? = some activity) :
    activityIndex activities activity.id = some index := by
  have inside := (List.getElem?_eq_some_iff.mp found).1
  have here := (List.getElem?_eq_some_iff.mp found).2
  rw [activityIndex, List.findIdx?_eq_some_iff_getElem]
  refine ⟨inside, by simp [here], ?_⟩
  intro earlier before
  have apart := List.nodup_iff_injective_get.mp distinct
  simp only [decide_eq_true_eq]
  intro same
  have equal := @apart ⟨earlier, by simp; omega⟩ ⟨index, by simpa using inside⟩
    (by simp [same, here])
  simp only [Fin.mk.injEq] at equal
  omega

/-- The next activity of a forward workflow stands after the current one. -/
theorem evaluateNextActivity_forward {workflow : WorkflowDocument}
    (forward : Forward workflow.activities) {index : ℕ} {activity : Activity}
    (found : workflow.activities[index]? = some activity) (outcome : JsString) :
    ∃ next, evaluateNextActivity workflow activity.id outcome = .ok next ∧
      LeadsForward workflow.activities index next := by
  unfold evaluateNextActivity
  simp only [activityIndex_eq forward.distinct found, found]
  cases matched : activity.transition.cases.find? fun branch => branch.equals = outcome with
  | some branch =>
      exact ⟨_, rfl, forward.branches index activity found branch
        (List.mem_of_find?_eq_some matched)⟩
  | none =>
      cases given : activity.transition.defaultTo with
      | some destination => exact ⟨_, rfl, forward.default index activity found destination given⟩
      | none =>
          refine ⟨_, rfl, ?_⟩
          intro id following
          obtain ⟨later, laterFound, rfl⟩ := Option.map_eq_some_iff.mp following
          exact ⟨index + 1, activityIndex_eq forward.distinct laterFound, by omega⟩

end Vasi.Workflow
