import Vasi.CanonicalForm
import Vasi.ConfigurationStore

/-!
# Provisioning a tenant once

provisionTenant with its command row. A call that carries a command identifier
takes the advisory lock of that identifier, looks for the command row of an earlier
call, and answers from it; else it locks the installation profile, writes the tenant
and stores the result with the command, all in one transaction. Sessions are
interleaved statement by statement; what follows the lock on the installation profile
is one step, because every other provisioning waits for that lock.

Integrations and configuration events are left out, and so are the rows' columns that
no answer reads.
-/
namespace Vasi.TenantProvisioning

open JsValue Validation CanonicalJson IsoTime Admission Productization StoredConfiguration
  ConfigurationStore
open EvidenceEvents (Environment)

/-- An actor as the gateway identifies it. -/
structure Caller where
  principalId : JsString
  email : Option JsString
  roles : List JsString

/-- A tenant_provision_command row. -/
structure CommandRow where
  commandId : JsString
  actorPrincipalId : JsString
  inputHash : JsString
  result : Value
  resultHash : JsString

/-- A tenant_membership row of an owner. -/
structure OwnerMembership where
  tenantId : JsString
  principalId : JsString
  email : Option JsString

/-- A tenant_membership_grant row of an owner. -/
structure OwnerGrant where
  tenantId : JsString
  email : JsString
  createdByPrincipalId : JsString

/-- The committed rows. -/
structure Tables where
  configuration : Configuration
  memberships : List OwnerMembership
  grants : List OwnerGrant
  commands : List CommandRow

/-- The pattern of uuidValue. -/
def uuidValue (text : JsString) : Bool :=
  text.length == 36 &&
    (text.zipIdx.all fun entry =>
      if entry.2 ∈ [8, 13, 18, 23] then entry.1 = 45
      else if entry.2 = 14 then 49 ≤ entry.1.val && entry.1.val ≤ 56
      else if entry.2 = 19 then asciiLower entry.1 ∈ [56, 57, 97, 98]
      else isLowerHex (asciiLower entry.1))

/-- An identifier made by randomUUID. -/
abbrev RandomUuid := { text : JsString // uuidValue text = true }

/-- What a creation takes from outside the rows. -/
structure Fresh where
  tenantId : RandomUuid
  profileId : RandomUuid
  admissionId : RandomUuid
  now : Time

/-- A call whose actor and input were accepted, with the payload it came from and the
hash of its input. -/
structure Call where
  actor : Caller
  payload : Value
  input : TenantProvisionInput
  inputHash : JsString

section

variable (platform : TextPlatform) (env : Environment)

/-- `actor.email?.toLowerCase()` -/
def loweredEmail (actor : Caller) : Option JsString := actor.email.map platform.toLowerCase

/-- `actor.email?.toLowerCase() || null` -/
def actorEmail (actor : Caller) : Option JsString :=
  (loweredEmail platform actor).filter fun email => decide (email ≠ [])

/-- The members of the document that tenantProvisionInputHash hashes. -/
def inputMembers (actor : Caller) (input : TenantProvisionInput) : Members :=
  [(js "actorEmail", nullableText (actorEmail platform actor)), (js "name", .string input.name),
    (js "ownerEmail", nullableText input.ownerEmail), (js "profile", input.profile.toValue),
    (js "slug", .string input.slug)]

def tenantProvisionInputHash (actor : Caller) (input : TenantProvisionInput) : Checked JsString :=
  contentHash env (.object (inputMembers platform actor input))

/-- `requireAdministrator`, the validation of the payload and the hash of the input,
ahead of the first statement. -/
def acceptCall (actor : Caller) (payload : Value) : Checked Call := do
  if actor.principalId = [] ∨ js "admin" ∉ actor.roles then
    .error (EngineStoreError (js "forbidden"))
  else
    let input ← validateTenantProvisionInput platform payload
    let inputHash ← tenantProvisionInputHash platform env actor input
    return ⟨actor, payload, input, inputHash⟩

/-- permissionsForRoles of an owner. -/
def ownerPermissions : List JsString :=
  [js "artifact.manage", js "artifact.read", js "data_request.review", js "integration.manage",
    js "lifecycle.manage", js "lifecycle.read", js "member.manage", js "quota.read",
    js "record.read", js "request.manage", js "tenant.configure", js "workflow.manage"]

def ownerGrantCreated (call : Call) : Bool :=
  decide (call.input.ownerEmail ≠ none) &&
    decide (call.input.ownerEmail ≠ loweredEmail platform call.actor)

/-- `input.ownerEmail || actor.email?.toLowerCase() || null` -/
def ownerEmail (call : Call) : Option JsString :=
  call.input.ownerEmail.or (actorEmail platform call.actor)

/-! ## Creating a tenant -/

/-- The members of what tenantAdmissionProjection returns for the first admission. -/
def admissionMembers (call : Call) (fresh : Fresh) (admission : TenantAdmission)
    (admissionHash : JsString) : Members :=
  [(js "admission", admissionValue admission), (js "admissionHash", .string admissionHash),
    (js "createdAt", .string (isoText fresh.now)),
    (js "createdByPrincipalId", .string call.actor.principalId),
    (js "id", .string fresh.admissionId), (js "revision", wholeNumber 1),
    (js "status", .string (admissionStatus admission))]

def profileMembers (call : Call) (fresh : Fresh) (profileHash : JsString) : Members :=
  [(js "id", .string fresh.profileId), (js "profile", call.input.profile.toValue),
    (js "profileHash", .string profileHash), (js "revision", wholeNumber 1)]

def ownerMembers (call : Call) : Members :=
  [(js "email", nullableText (ownerEmail platform call)),
    (js "grantCreated", .bool (ownerGrantCreated platform call))]

/-- The members of the result. -/
def resultMembers (call : Call) (fresh : Fresh) (profileHash : JsString)
    (admission : TenantAdmission) (admissionHash : JsString) : Members :=
  [(js "admission", .object (admissionMembers call fresh admission admissionHash)),
    (js "id", .string fresh.tenantId), (js "name", .string call.input.name),
    (js "owner", .object (ownerMembers platform call)),
    (js "permissions", textList ownerPermissions),
    (js "profile", .object (profileMembers call fresh profileHash)),
    (js "roles", textList [js "owner"]), (js "slug", .string call.input.slug)]

/-- The rows of the membership, of the grant and of the command. -/
def Call.membership (call : Call) (fresh : Fresh) : OwnerMembership :=
  ⟨fresh.tenantId, call.actor.principalId, call.actor.email.filter fun email => decide (email ≠ [])⟩

def grantRows (call : Call) (fresh : Fresh) : List OwnerGrant :=
  match call.input.ownerEmail with
  | none => []
  | some email =>
      if ownerGrantCreated platform call then
        [⟨fresh.tenantId, email, call.actor.principalId⟩]
      else []

/-- createTenantAdmissionRevision of the first admission, and its projection. -/
def createAdmission : Checked (TenantAdmission × RevisionRow) := do
  let normalized ← validateTenantAdmission platform (admissionValue defaultTenantAdmission)
  let row ← createRevision env (admissionValue normalized) 1
  let admission ← (validateTenantAdmission platform (admissionValue normalized)).mapError fun _ =>
    EngineStoreError (js "tenant_admission_integrity_failure")
  let hash ← contentHash env (admissionValue admission)
  if hash ≠ row.documentHash then
    .error (EngineStoreError (js "tenant_admission_integrity_failure"))
  else return (admission, row)

/-- The insertion of the command row, whose key is unique. -/
def insertCommand (call : Call) (result : Value) (commands : List CommandRow) :
    Checked (List CommandRow) :=
  match call.input.commandId with
  | none => .ok commands
  | some commandId => do
      let resultHash ← contentHash env result
      if commands.any fun row => row.commandId = commandId then
        .error (EngineStoreError (js "23505"))
      else
        return commands ++ [⟨commandId, call.actor.principalId, call.inputHash,
          readBack env.order result, resultHash⟩]

/-- What provisionTenant does when it finds no command row. -/
def createTenant (call : Call) (fresh : Fresh) (tables : Tables) : Checked (Tables × Value) := do
  let store := tables.configuration
  let installation ← activeInstallationProfile platform env store
  if store.tenants.length ≥ installation.1.maxTenants then
    .error (EngineStoreError (js "installation_tenant_quota_exceeded"))
  else if call.input.slug ∈ store.tenants.map TenantRow.slug then
    .error (EngineStoreError (js "tenant_slug_exists"))
  else
    let profile ← createTenantProfileRevision env call.input.profile 1
    let admission ← createAdmission platform env
    let result := .object (resultMembers platform call fresh profile.documentHash admission.1
      admission.2.documentHash)
    let commands ← insertCommand env call result tables.commands
    let tenant : TenantRow :=
      ⟨fresh.tenantId, call.input.slug, call.input.name, [profile], [admission.2]⟩
    return (⟨{ store with tenants := store.tenants ++ [tenant] },
      tables.memberships ++ [call.membership fresh],
      tables.grants ++ grantRows platform call fresh, commands⟩, result)

/-! ## Answering from the command row -/

def integrityFailure (detail : JsString) : Failure :=
  ⟨js "tenant_provision_command_integrity_failure",
    js "tenant_provision_command_integrity_failure:" ++ detail⟩

def check (holds : Bool) (detail : JsString) : Checked Unit :=
  if holds then .ok () else .error (integrityFailure detail)

/-- A plain object with the given keys; its other failure keeps the shape's name. -/
def exactKeys (value : Value) (keys : List JsString) (shape : JsString) : Checked Unit :=
  match value with
  | .object members =>
      check ((members.map Prod.fst).isPerm keys) (js "Unexpected tenant provisioning result fields.")
  | _ => .error (integrityFailure shape)

/-- sameArray with a list of texts. -/
def sameArray (value : Value) (texts : List JsString) : Bool :=
  match value with
  | .array items => items.length == texts.length &&
      (items.zip texts).all fun pair => isText pair.1 pair.2
  | _ => false

def isNullableText (value : Value) : Option JsString → Bool
  | none => match value with
      | .null => true
      | _ => false
  | some text => isText value text

def isBool (value : Value) (expected : Bool) : Bool :=
  match value with
  | .bool actual => actual == expected
  | _ => false

def isOne (value : Value) : Bool :=
  match value with
  | .number number => number = .finite 1
  | _ => false

def textWhere (holds : JsString → Bool) (value : Value) : Bool :=
  match value with
  | .string text => holds text
  | _ => false

/-- A validator or hash that throws inside the checks is an integrity failure. -/
def inside {α : Type} (checked : Checked α) : Checked α :=
  checked.mapError fun failure => integrityFailure failure.message

def checkIdentity (call : Call) (value : Value) : Checked Unit := do
  exactKeys value [js "admission", js "id", js "name", js "owner", js "permissions", js "profile",
    js "roles", js "slug"] (js "shape")
  check (textWhere uuidValue (value.get (js "id")) && isText (value.get (js "name")) call.input.name &&
    isText (value.get (js "slug")) call.input.slug) (js "tenant identity")

def checkOwner (call : Call) (value : Value) : Checked Unit := do
  exactKeys (value.get (js "owner")) [js "email", js "grantCreated"] (js "owner shape")
  let owner := value.get (js "owner")
  check (isNullableText (owner.get (js "email")) (ownerEmail platform call) &&
    isBool (owner.get (js "grantCreated")) (ownerGrantCreated platform call)) (js "owner binding")
  check (sameArray (value.get (js "roles")) [js "owner"] &&
    sameArray (value.get (js "permissions")) ownerPermissions) (js "owner authorization")

def checkProfile (call : Call) (value : Value) : Checked Unit := do
  exactKeys (value.get (js "profile")) [js "id", js "profile", js "profileHash", js "revision"]
    (js "profile shape")
  let stored := value.get (js "profile")
  let profile ← inside (validateTenantProfile platform (stored.get (js "profile")))
  let hash ← inside (contentHash env profile.toValue)
  let inputHash ← inside (contentHash env call.input.profile.toValue)
  check (textWhere uuidValue (stored.get (js "id")) && isOne (stored.get (js "revision")) &&
    isText (stored.get (js "profileHash")) hash && isText (stored.get (js "profileHash")) inputHash)
    (js "profile integrity")

def checkAdmission (call : Call) (value : Value) : Checked Unit := do
  exactKeys (value.get (js "admission")) [js "admission", js "admissionHash", js "createdAt",
    js "createdByPrincipalId", js "id", js "revision", js "status"] (js "admission shape")
  let stored := value.get (js "admission")
  let admission ← inside (validateTenantAdmission platform (stored.get (js "admission")))
  let hash ← inside (contentHash env (admissionValue admission))
  check (textWhere uuidValue (stored.get (js "id")) && isOne (stored.get (js "revision")) &&
    isText (stored.get (js "status")) (js "pending") &&
    decide (admissionStatus admission = js "pending") &&
    isText (stored.get (js "createdByPrincipalId")) call.actor.principalId &&
    isText (stored.get (js "admissionHash")) hash &&
    textWhere isCanonicalTimestamp (stored.get (js "createdAt"))) (js "admission integrity")

/-- The digest of a stored result is the one stored with it. -/
def checkDigest (value : Value) (resultHash : JsString) : Checked Unit :=
  match value with
  | .object _ => do
      let hash ← contentHash env value
      if hash ≠ resultHash then
        .error (EngineStoreError (js "tenant_provision_command_integrity_failure"))
      else return ()
  | _ => .error (EngineStoreError (js "tenant_provision_command_integrity_failure"))

def validateTenantProvisionResult (value : Value) (resultHash : JsString) (call : Call) :
    Checked Value := do
  checkDigest env value resultHash
  checkIdentity call value
  checkOwner platform call value
  checkProfile platform env call value
  checkAdmission platform env call value
  return value

def commandConflict : Failure := EngineStoreError (js "tenant_provision_command_conflict")

/-- The answer from the row of the same command. -/
def replay (call : Call) (row : CommandRow) : Checked Value :=
  if row.actorPrincipalId ≠ call.actor.principalId ∨ row.inputHash ≠ call.inputHash then
    .error commandConflict
  else validateTenantProvisionResult platform env row.result row.resultHash call

/-! ## Sessions -/

/-- Where the transaction of a call stands. -/
inductive Phase where
  | waiting
  | locked
  | creating
deriving DecidableEq

structure Session where
  call : Call
  phase : Phase

/-- What a creation wrote. -/
structure Creation where
  call : Call
  fresh : Fresh
  result : Value

/-- The journal of what calls came to. -/
inductive Event where
  | created (creation : Creation)
  | answered (call : Call) (outcome : Checked Value)

structure State where
  tables : Tables
  sessions : ℕ → Option Session
  journal : List Event

/-- The session has the advisory lock of the command. -/
def Session.Holds (session : Session) (commandId : JsString) : Prop :=
  session.call.input.commandId = some commandId ∧ session.phase ≠ .waiting

def commandRow (tables : Tables) (commandId : JsString) : Option CommandRow :=
  tables.commands.find? fun row => row.commandId = commandId

def State.set (state : State) (id : ℕ) (session : Option Session) : State :=
  { state with sessions := Function.update state.sessions id session }

/-- A session ends with an answer. -/
def State.answer (state : State) (id : ℕ) (call : Call) (outcome : Checked Value) : State :=
  { state.set id none with journal := state.journal ++ [.answered call outcome] }

/-- The first phase of a call; without a command identifier there is no lock to take. -/
def Call.start (call : Call) : Phase :=
  if call.input.commandId = none then .creating else .waiting

/-- One statement, or one commit, of a session. Other commands of the store change
the configuration meanwhile. -/
inductive Step (guard : Value → Prop) : State → State → Prop
  | call {state : State} {id : ℕ} {actor : Caller} {payload : Value} {call : Call}
      (idle : state.sessions id = none)
      (accepted : acceptCall platform env actor payload = .ok call) :
      Step guard state (state.set id (some ⟨call, call.start⟩))
  | lock {state : State} {id : ℕ} {call : Call} {commandId : JsString}
      (waits : state.sessions id = some ⟨call, .waiting⟩)
      (command : call.input.commandId = some commandId)
      (free : ∀ other session, state.sessions other = some session → ¬ session.Holds commandId) :
      Step guard state (state.set id (some ⟨call, .locked⟩))
  | replay {state : State} {id : ℕ} {call : Call} {commandId : JsString} {row : CommandRow}
      (locked : state.sessions id = some ⟨call, .locked⟩)
      (command : call.input.commandId = some commandId)
      (found : commandRow state.tables commandId = some row) :
      Step guard state (state.answer id call (replay platform env call row))
  | proceed {state : State} {id : ℕ} {call : Call} {commandId : JsString}
      (locked : state.sessions id = some ⟨call, .locked⟩)
      (command : call.input.commandId = some commandId)
      (absent : commandRow state.tables commandId = none) :
      Step guard state (state.set id (some ⟨call, .creating⟩))
  | create {state : State} {id : ℕ} {call : Call} {fresh : Fresh} {tables : Tables}
      {result : Value} (creating : state.sessions id = some ⟨call, .creating⟩)
      (created : createTenant platform env call fresh state.tables = .ok (tables, result))
      (guarded : guard call.payload) :
      Step guard state { state.set id none with
        tables, journal := state.journal ++ [.created ⟨call, fresh, result⟩] }
  | refuse {state : State} {id : ℕ} {call : Call} {fresh : Fresh} {failure : Failure}
      (creating : state.sessions id = some ⟨call, .creating⟩)
      (refused : createTenant platform env call fresh state.tables = .error failure) :
      Step guard state (state.answer id call (.error failure))
  | crash {state : State} (id : ℕ) : Step guard state (state.set id none)
  | configure {state : State} {command : Command} {configuration : Configuration}
      (other : ∀ tenantId payload, command ≠ .provisionTenant tenantId payload)
      (done : perform platform env command state.tables.configuration = .ok configuration) :
      Step guard state { state with tables := { state.tables with configuration } }

/-! ## What is to hold -/

/-- The event is a creation for the command. -/
def Event.creates (commandId : JsString) : Event → Bool
  | .created creation => creation.call.input.commandId = some commandId
  | .answered _ _ => false

/-- Two calls of the same actor with the same input. -/
structure SameRequest (first second : Call) : Prop where
  principalId : first.actor.principalId = second.actor.principalId
  email : actorEmail platform first.actor = actorEmail platform second.actor
  name : first.input.name = second.input.name
  ownerEmail : first.input.ownerEmail = second.input.ownerEmail
  profile : first.input.profile = second.input.profile
  slug : first.input.slug = second.input.slug

/-- The answer to a call whose command has created a tenant. -/
structure AnswersFor (creation : Creation) (call : Call) (outcome : Checked Value) : Prop where
  retry : SameRequest platform creation.call call →
    outcome = .ok (readBack env.order creation.result)
  conflict : Function.Injective env.sha256Hex → ¬ SameRequest platform creation.call call →
    outcome = .error commandConflict

/-- The rows that a creation adds. -/
structure Adds (before : Tables) (creation : Creation) (after : Tables) : Prop where
  tenant : ∃ tenant, after.configuration.tenants = before.configuration.tenants ++ [tenant] ∧
    tenant.id = creation.fresh.tenantId.val ∧ tenant.slug = creation.call.input.slug ∧
    tenant.profiles.length = 1 ∧ tenant.admissions.length = 1
  membership : after.memberships =
    before.memberships ++ [creation.call.membership creation.fresh]
  grants : after.grants = before.grants ++ grantRows platform creation.call creation.fresh

/-- What a step does to the rows that provisioning writes. -/
def Moves (before after : State) : Prop :=
  (∃ creation, after.journal = before.journal ++ [.created creation] ∧
    Adds platform before.tables creation after.tables) ∨
  (∃ call outcome, after.journal = before.journal ++ [.answered call outcome] ∧
    after.tables = before.tables) ∨
  after.journal = before.journal ∧ after.tables.memberships = before.tables.memberships ∧
    after.tables.grants = before.tables.grants ∧ after.tables.commands = before.tables.commands

/-- No calls have been made. -/
structure Initial (state : State) : Prop where
  commands : state.tables.commands = []
  sessions : ∀ id, state.sessions id = none
  journal : state.journal = []

/-- Provisioning happens once for each command: in every run the command creates at
most one tenant with its rows, and every later answer to the command is that of the
creation or a conflict. -/
def ProvisionsOnce (guard : Value → Prop) : Prop :=
  ∀ start state, Initial start → Relation.ReflTransGen (Step platform env guard) start state →
    (∀ commandId, (state.journal.filter fun event => event.creates commandId).length ≤ 1) ∧
    (∀ before after call outcome creation commandId,
      state.journal = before ++ .answered call outcome :: after →
      .created creation ∈ before → creation.call.input.commandId = some commandId →
      call.input.commandId = some commandId → AnswersFor platform env creation call outcome) ∧
    ∀ next, Step platform env guard state next → Moves platform state next

end

/-! ## A stored result is accepted again -/

theorem readBackMembers_allDefined (order : Members → Members) {members : Members}
    (defined : ∀ entry ∈ members, entry.2.isUndefined = false) :
    (readBackMembers order members).map Prod.fst = members.map Prod.fst := by
  induction members with
  | nil => rfl
  | cons entry rest inductionHypothesis =>
      obtain ⟨here, others⟩ := List.forall_mem_cons.mp defined
      simp [readBackMembers, here, inductionHypothesis others]

/-- A stored object has the keys it was written with. -/
theorem exactKeys_readBack (env : Environment) {members : Members} {keys : List JsString}
    (shape : JsString) (named : members.map Prod.fst = keys)
    (defined : ∀ entry ∈ members, entry.2.isUndefined = false) :
    exactKeys (readBack env.order (.object members)) keys shape = .ok () := by
  have perm : ((env.order (readBackMembers env.order members)).map Prod.fst).Perm keys := by
    rw [← named, ← readBackMembers_allDefined env.order defined]
    exact (env.rearranges _).map Prod.fst
  simp only [readBack, exactKeys, check, List.isPerm_iff.mpr perm, if_true]

theorem sameArray_textList (texts : List JsString) : sameArray (textList texts) texts = true := by
  have each : ((texts.map Value.string).zip texts).all
      (fun pair => isText pair.1 pair.2) = true := by
    induction texts with
    | nil => rfl
    | cons text rest inductionHypothesis =>
        rw [List.map_cons, List.zip_cons_cons, List.all_cons, inductionHypothesis, Bool.and_true]
        exact decide_eq_true rfl
  simp only [sameArray, textList, List.length_map, beq_self_eq_true, each, Bool.and_self]

theorem isNullableText_readBack (order : Members → Members) (text : Option JsString) :
    isNullableText (readBack order (nullableText text)) text = true := by
  cases text <;> simp [nullableText, readBack, isNullableText, isText]

theorem isOne_readBack (order : Members → Members) : isOne (readBack order (wholeNumber 1)) = true := by
  simp [wholeNumber, readBack, JsNumber.toRat?, isOne]

theorem nullableText_defined (text : Option JsString) :
    (nullableText text).isUndefined = false := by
  cases text <;> rfl

section

variable {platform : TextPlatform} {env : Environment}

theorem contentHash_readBack {value : Value} {hash : JsString} (formed : WellFormed value)
    (hashed : contentHash env value = .ok hash) :
    contentHash env (readBack env.order value) = .ok hash := by
  have same := contentHash_ok hashed
  have representable := (hashCanonicalJSON_succeeds env.sha256Hex value).mp ⟨hash, same⟩
  unfold contentHash
  rw [hashCanonicalJSON_readBack env.sha256Hex env.order env.rearranges value formed representable,
    same]
  rfl

theorem defaultAdmission_settled : SettledAdmission platform defaultTenantAdmission := by
  intro gate approval approved
  cases approved

/-- The objects inside a result have distinct keys. -/
theorem resultMembers_wellFormed (platform : TextPlatform) (call : Call) (fresh : Fresh)
    (profileHash : JsString)
    (admission : TenantAdmission) (admissionHash : JsString) :
    WellFormed (.object (resultMembers platform call fresh profileHash admission admissionHash)) ∧
      WellFormed (.object (admissionMembers call fresh admission admissionHash)) ∧
      WellFormed (.object (ownerMembers platform call)) ∧
      WellFormed (.object (profileMembers call fresh profileHash)) := by
  have nullable (text : Option JsString) : WellFormed (nullableText text) := by
    cases text <;> trivial
  have owner : WellFormed (.object (ownerMembers platform call)) :=
    ⟨show ([js "email", js "grantCreated"] : List JsString).Nodup by decide,
      nullable _, trivial, trivial⟩
  have profile : WellFormed (.object (profileMembers call fresh profileHash)) :=
    ⟨show ([js "id", js "profile", js "profileHash", js "revision"] : List JsString).Nodup
      by decide, trivial, tenantProfile_wellFormed _, trivial, trivial, trivial⟩
  have admitted : WellFormed (.object (admissionMembers call fresh admission admissionHash)) :=
    ⟨show ([js "admission", js "admissionHash", js "createdAt", js "createdByPrincipalId",
      js "id", js "revision", js "status"] : List JsString).Nodup by decide,
      admissionValue_wellFormed _, trivial, trivial, trivial, trivial, trivial, trivial, trivial⟩
  exact ⟨⟨show ([js "admission", js "id", js "name", js "owner", js "permissions", js "profile",
    js "roles", js "slug"] : List JsString).Nodup by decide, admitted, trivial, trivial, owner,
    wellFormed_textList _, profile, wellFormed_textList _, trivial, trivial⟩, admitted, owner,
    profile⟩

section

variable {call : Call} {fresh : Fresh} {profileHash admissionHash : JsString}

/-- The result of a creation. -/
abbrev resultValue (platform : TextPlatform) (call : Call) (fresh : Fresh)
    (profileHash admissionHash : JsString) : Value :=
  .object (resultMembers platform call fresh profileHash defaultTenantAdmission admissionHash)

theorem checkDigest_stored {resultHash : JsString}
    (hashed : contentHash env (resultValue platform call fresh profileHash admissionHash) =
      .ok resultHash) :
    checkDigest env (readBack env.order
      (resultValue platform call fresh profileHash admissionHash)) resultHash = .ok () := by
  have stored := contentHash_readBack (resultMembers_wellFormed _ call fresh _ _ _).1 hashed
  simp only [readBack] at stored ⊢
  simp only [checkDigest, stored, bind, Except.bind, ne_eq, not_true_eq_false, if_false]
  rfl

/-- A member of the stored result. -/
theorem get_stored (platform : TextPlatform) (env : Environment) (call : Call) (fresh : Fresh)
    (profileHash admissionHash key : JsString) (value : Value)
    (member : (key, value) ∈ resultMembers platform call fresh profileHash defaultTenantAdmission
      admissionHash) (defined : value.isUndefined = false) :
    (readBack env.order (resultValue platform call fresh profileHash admissionHash)).get key =
      readBack env.order value :=
  get_readBack env.order env.rearranges _ key value (resultMembers_wellFormed _ call fresh _ _ _).1
    member defined

theorem checkIdentity_stored :
    checkIdentity call (readBack env.order
      (resultValue platform call fresh profileHash admissionHash)) = .ok () := by
  have get := get_stored platform env call fresh profileHash admissionHash
  have keys := exactKeys_readBack env (js "shape") (show (resultMembers platform call fresh
      profileHash defaultTenantAdmission admissionHash).map Prod.fst = [js "admission", js "id",
      js "name", js "owner", js "permissions", js "profile", js "roles", js "slug"] from rfl)
    (by simp [resultMembers, textList, Value.isUndefined])
  have id := get (js "id") (.string fresh.tenantId)
    (by simp only [resultMembers, List.mem_cons, true_or, or_true]) rfl
  have name := get (js "name") (.string call.input.name)
    (by simp only [resultMembers, List.mem_cons, true_or, or_true]) rfl
  have slug := get (js "slug") (.string call.input.slug)
    (by simp only [resultMembers, List.mem_cons, true_or, or_true]) rfl
  have random : uuidValue fresh.tenantId.val = true := fresh.tenantId.property
  rw [checkIdentity, keys, id, name, slug]
  simp only [readBack, textWhere, random, isText, decide_true, Bool.and_self, check, if_true]
  rfl

theorem checkOwner_stored :
    checkOwner platform call (readBack env.order
      (resultValue platform call fresh profileHash admissionHash)) = .ok () := by
  have get := get_stored platform env call fresh profileHash admissionHash
  have formed := (resultMembers_wellFormed platform call fresh profileHash
    defaultTenantAdmission admissionHash).2.2.1
  have owner := get (js "owner") (.object (ownerMembers platform call))
    (by simp only [resultMembers, List.mem_cons, true_or, or_true]) rfl
  have roles := get (js "roles") (textList [js "owner"])
    (by simp only [resultMembers, List.mem_cons, true_or, or_true]) rfl
  have permissions := get (js "permissions") (textList ownerPermissions)
    (by simp only [resultMembers, List.mem_cons, true_or, or_true]) rfl
  have keys := exactKeys_readBack env (js "owner shape") (show (ownerMembers platform call).map
      Prod.fst = [js "email", js "grantCreated"] from rfl)
    (List.forall_mem_cons.mpr ⟨nullableText_defined _, by simp [Value.isUndefined]⟩)
  have email := get_readBack env.order env.rearranges _ (js "email")
    (nullableText (ownerEmail platform call)) formed
    (by simp only [ownerMembers, List.mem_cons, true_or]) (nullableText_defined _)
  have granted := get_readBack env.order env.rearranges _ (js "grantCreated")
    (.bool (ownerGrantCreated platform call)) formed
    (by simp only [ownerMembers, List.mem_cons, true_or, or_true]) rfl
  rw [checkOwner, owner, keys]
  dsimp only
  rw [email, granted, roles, permissions, isNullableText_readBack, readBack_textList,
    readBack_textList, sameArray_textList, sameArray_textList]
  simp only [readBack, isBool, beq_self_eq_true, Bool.and_self, check, if_true]
  rfl

theorem checkProfile_stored
    (profileHashed : contentHash env call.input.profile.toValue = .ok profileHash)
    (settled : SettledTenantProfile platform call.input.profile) :
    checkProfile platform env call (readBack env.order
      (resultValue platform call fresh profileHash admissionHash)) = .ok () := by
  have formed := (resultMembers_wellFormed platform call fresh profileHash
    defaultTenantAdmission admissionHash).2.2.2
  have stored := get_stored platform env call fresh profileHash
    admissionHash (js "profile") (.object (profileMembers call fresh profileHash))
    (by simp only [resultMembers, List.mem_cons, true_or, or_true]) rfl
  have get := fun key value => get_readBack env.order env.rearranges _ key value formed
  have keys := exactKeys_readBack env (js "profile shape") (show (profileMembers call fresh
      profileHash).map Prod.fst = [js "id", js "profile", js "profileHash", js "revision"] from rfl)
    (by simp [profileMembers, TenantProfile.toValue, wholeNumber, Value.isUndefined])
  have id := get (js "id") (.string fresh.profileId)
    (by simp only [profileMembers, List.mem_cons, true_or]) rfl
  have document := get (js "profile") call.input.profile.toValue
    (by simp only [profileMembers, List.mem_cons, true_or, or_true]) rfl
  have hash := get (js "profileHash") (.string profileHash)
    (by simp only [profileMembers, List.mem_cons, true_or, or_true]) rfl
  have revision := get (js "revision") (wholeNumber 1)
    (by simp only [profileMembers, List.mem_cons, true_or, or_true]) rfl
  have random : uuidValue fresh.profileId.val = true := fresh.profileId.property
  have valid := validateTenantProfile_settled env.rearranges settled
  rw [checkProfile, stored, keys]
  dsimp only
  rw [id, document, hash, revision, valid, isOne_readBack]
  simp only [inside, Except.mapError, bind, Except.bind, profileHashed, readBack, textWhere, random,
    isText, decide_true, Bool.and_self, check, if_true]

theorem checkAdmission_stored
    (admissionHashed : contentHash env (admissionValue defaultTenantAdmission) =
      .ok admissionHash) :
    checkAdmission platform env call (readBack env.order
      (resultValue platform call fresh profileHash admissionHash)) = .ok () := by
  have formed := (resultMembers_wellFormed platform call fresh profileHash
    defaultTenantAdmission admissionHash).2.1
  have stored := get_stored platform env call fresh profileHash
    admissionHash (js "admission")
    (.object (admissionMembers call fresh defaultTenantAdmission admissionHash))
    (by simp only [resultMembers, List.mem_cons, true_or]) rfl
  have get := fun key value => get_readBack env.order env.rearranges _ key value formed
  have keys := exactKeys_readBack env (js "admission shape") (show (admissionMembers call fresh
      defaultTenantAdmission admissionHash).map Prod.fst = [js "admission", js "admissionHash",
      js "createdAt", js "createdByPrincipalId", js "id", js "revision", js "status"] from rfl)
    (by simp [admissionMembers, admissionValue, wholeNumber, Value.isUndefined])
  have document := get (js "admission") (admissionValue defaultTenantAdmission)
    (by simp only [admissionMembers, List.mem_cons, true_or]) rfl
  have hash := get (js "admissionHash") (.string admissionHash)
    (by simp only [admissionMembers, List.mem_cons, true_or, or_true]) rfl
  have createdAt := get (js "createdAt") (.string (isoText fresh.now))
    (by simp only [admissionMembers, List.mem_cons, true_or, or_true]) rfl
  have creator := get (js "createdByPrincipalId") (.string call.actor.principalId)
    (by simp only [admissionMembers, List.mem_cons, true_or, or_true]) rfl
  have id := get (js "id") (.string fresh.admissionId)
    (by simp only [admissionMembers, List.mem_cons, true_or, or_true]) rfl
  have revision := get (js "revision") (wholeNumber 1)
    (by simp only [admissionMembers, List.mem_cons, true_or, or_true]) rfl
  have status := get (js "status") (.string (admissionStatus defaultTenantAdmission))
    (by simp only [admissionMembers, List.mem_cons, true_or, or_true]) rfl
  have random : uuidValue fresh.admissionId.val = true := fresh.admissionId.property
  have pending : admissionStatus defaultTenantAdmission = js "pending" := by decide
  have settled : SettledAdmission platform defaultTenantAdmission := defaultAdmission_settled
  have valid := validateTenantAdmission_settled env.rearranges settled
  rw [checkAdmission, stored, keys]
  dsimp only
  rw [document, hash, createdAt, creator, id, revision, status, valid, isOne_readBack]
  simp only [inside, Except.mapError, bind, Except.bind, admissionHashed, readBack, textWhere,
    random, isText, pending, isCanonicalTimestamp_isoText, decide_true, Bool.and_self, check,
    if_true]

/-- The checks of a stored result pass for the call that it came from. -/
theorem validateTenantProvisionResult_stored {resultHash : JsString}
    (hashed : contentHash env (resultValue platform call fresh profileHash admissionHash) =
      .ok resultHash)
    (profileHashed : contentHash env call.input.profile.toValue = .ok profileHash)
    (admissionHashed : contentHash env (admissionValue defaultTenantAdmission) =
      .ok admissionHash)
    (settled : SettledTenantProfile platform call.input.profile) :
    validateTenantProvisionResult platform env
      (readBack env.order (resultValue platform call fresh profileHash admissionHash)) resultHash
      call = .ok (readBack env.order
        (resultValue platform call fresh profileHash admissionHash)) := by
  rw [validateTenantProvisionResult, checkDigest_stored hashed, checkIdentity_stored,
    checkOwner_stored, checkProfile_stored profileHashed settled,
    checkAdmission_stored admissionHashed]
  rfl

end

end

/-! ## Two inputs with one hash -/

section

open CanonicalForm

theorem lookup_map_snd {α β : Type} (visit : α → β) (members : List (JsString × α))
    (key : JsString) : (members.map fun entry => (entry.1, visit entry.2)).lookup key =
      (members.lookup key).map visit := by
  induction members with
  | nil => rfl
  | cons entry rest inductionHypothesis =>
      rw [List.map_cons, List.lookup_cons, List.lookup_cons]
      split <;> simp [inductionHypothesis]

/-- Reading a member of an arranged object gives the arranged member. -/
theorem arrange_get (signed : Bool) {members : Members} (distinct : (members.map Prod.fst).Nodup)
    (key : JsString) : (arrange signed (.object members)).get key =
      arrange signed ((Value.object members).get key) := by
  have keys : ((arrangeMembers signed members).map Prod.fst).Nodup := by
    rw [arrangeMembers_map, List.map_map]
    exact distinct
  have found := lookup_perm (List.perm_insertionSort keyOrder
    (arrangeMembers signed members)).symm keys key
  rw [arrangeMembers_map, lookup_map_snd] at found
  rw [arrange, Value.get, Value.member, arrangeMembers_map, ← found, Value.get, Value.member]
  cases members.lookup key <;> rfl

/-- Members of objects that are the same up to order are so too. -/
theorem same_member {first second : Members} (index : ℕ) {key : JsString} {one other : Value}
    (same : SameUpToOrder true (.object first) (.object second))
    (firstDistinct : (first.map Prod.fst).Nodup) (secondDistinct : (second.map Prod.fst).Nodup)
    (here : first[index]? = some (key, one)) (there : second[index]? = some (key, other)) :
    SameUpToOrder true one other := by
  have read (members : Members) (value : Value) (distinct : (members.map Prod.fst).Nodup)
      (found : members[index]? = some (key, value)) : (Value.object members).get key = value := by
    rw [Value.get, Value.member, lookup_of_mem distinct (List.mem_of_getElem? found)]
    rfl
  have gets := congrArg (fun value => value.get key) same
  rw [arrange_get true firstDistinct, arrange_get true secondDistinct,
    read first one firstDistinct here, read second other secondDistinct there] at gets
  exact gets

theorem same_text {first second : JsString}
    (same : SameUpToOrder true (.string first) (.string second)) : first = second := by
  unfold SameUpToOrder at same
  simpa only [arrange, Value.string.injEq] using same

theorem same_nullableText {first second : Option JsString}
    (same : SameUpToOrder true (nullableText first) (nullableText second)) : first = second := by
  unfold SameUpToOrder at same
  cases first with
  | none =>
      cases second with
      | none => rfl
      | some text => cases same
  | some text =>
      cases second with
      | none => cases same
      | some other => exact congrArg some (same_text same)

theorem same_number {first second : ℕ}
    (same : SameUpToOrder true (wholeNumber first) (wholeNumber second)) : first = second := by
  unfold SameUpToOrder at same
  simpa [arrange, wholeNumber] using same

theorem branding_distinct (profile : TenantProfile) :
    (profile.branding.map Prod.fst).Nodup :=
  show ([js "accentColor", js "displayName", js "primaryColor", js "shortName",
    js "supportEmail"] : List JsString).Nodup by decide

theorem quotas_distinct (profile : TenantProfile) : (profile.quotas.map Prod.fst).Nodup :=
  show ([js "maxActiveRequests", js "maxArtifactBytes", js "maxArtifactBytesPerArtifact",
    js "maxIntegrations", js "maxMembers", js "maxWorkflows"] : List JsString).Nodup by decide

theorem members_distinct (profile : TenantProfile) : (profile.members.map Prod.fst).Nodup :=
  show ([js "branding", js "policies", js "quotas", js "schema"] : List JsString).Nodup by decide

/-- A profile is told by its document up to the order of members. -/
theorem profile_same {first second : TenantProfile}
    (same : SameUpToOrder true first.toValue second.toValue) : first = second := by
  have top (index : ℕ) {key : JsString} {one other : Value}
      (here : first.members[index]? = some (key, one))
      (there : second.members[index]? = some (key, other)) : SameUpToOrder true one other :=
    same_member index same (members_distinct first) (members_distinct second) here there
  have branding := top 0 rfl rfl
  have policies := top 1 rfl rfl
  have quotas := top 2 rfl rfl
  have brand (index : ℕ) {key : JsString} {one other : Value}
      (here : first.branding[index]? = some (key, one))
      (there : second.branding[index]? = some (key, other)) : SameUpToOrder true one other :=
    same_member index branding (branding_distinct first) (branding_distinct second) here there
  have quota (index : ℕ) {key : JsString} {one other : Value}
      (here : first.quotas[index]? = some (key, one))
      (there : second.quotas[index]? = some (key, other)) : SameUpToOrder true one other :=
    same_member index quotas (quotas_distinct first) (quotas_distinct second) here there
  have accentColor := same_text (brand 0 rfl rfl)
  have displayName := same_text (brand 1 rfl rfl)
  have primaryColor := same_text (brand 2 rfl rfl)
  have shortName := same_text (brand 3 rfl rfl)
  have supportEmail := same_nullableText (brand 4 rfl rfl)
  have retention := same_text (same_member 0 policies (List.nodup_singleton _)
    (List.nodup_singleton _) rfl rfl)
  have activeRequests := same_number (quota 0 rfl rfl)
  have artifactBytes := same_number (quota 1 rfl rfl)
  have perArtifact := same_number (quota 2 rfl rfl)
  have integrations := same_number (quota 3 rfl rfl)
  have people := same_number (quota 4 rfl rfl)
  have workflows := same_number (quota 5 rfl rfl)
  obtain ⟨⟩ := first
  obtain ⟨⟩ := second
  dsimp only at *
  subst accentColor displayName primaryColor shortName supportEmail retention activeRequests
  subst artifactBytes perArtifact integrations people workflows
  rfl

theorem inputMembers_distinct {platform : TextPlatform} (actor : Caller)
    (input : TenantProvisionInput) : ((inputMembers platform actor input).map Prod.fst).Nodup :=
  show ([js "actorEmail", js "name", js "ownerEmail", js "profile", js "slug"] :
    List JsString).Nodup by decide

/-- A document whose numbers are safe integers, as a value that was parsed. -/
theorem inputMembers_parsed {platform : TextPlatform} {actor : Caller}
    {input : TenantProvisionInput}
    (representable : Representable (.object (inputMembers platform actor input))) :
    Parsed (.object (inputMembers platform actor input)) ∧
      Kept true (.object (inputMembers platform actor input)) := by
  have nullable (text : Option JsString) : Parsed (nullableText text) ∧
      Kept true (nullableText text) := by
    cases text <;> exact ⟨trivial, trivial⟩
  have profile : Representable input.profile.toValue := by
    simp only [Representable, inputMembers, RepresentableMembers] at representable
    exact representable.2.2.2.1.resolve_left (by simp [TenantProfile.toValue, Value.isUndefined])
  have numbers := profile
  simp only [TenantProfile.toValue, TenantProfile.members, Representable, RepresentableMembers,
    TenantProfile.quotas, wholeNumber, Value.isUndefined, Bool.false_eq_true, false_or,
    and_true] at numbers
  obtain ⟨_, _, requests, bytes, each, integrations, people, workflows⟩ := numbers
  have parsedProfile : Parsed input.profile.toValue :=
    ⟨members_distinct _, ⟨branding_distinct _, trivial, trivial, trivial, trivial, (nullable _).1,
      trivial⟩, ⟨List.nodup_singleton _, trivial, trivial⟩, ⟨quotas_distinct _, requests, bytes,
      each, integrations, people, workflows, trivial⟩, trivial, trivial⟩
  have number (value : ℕ) : Kept true (wholeNumber value) := fun _ => JsNumber.noConfusion
  have keptProfile : Kept true input.profile.toValue :=
    ⟨by decide, ⟨by decide, trivial, by decide, trivial, by decide, trivial, by decide, trivial,
      by decide, (nullable _).2, trivial⟩, by decide, ⟨by decide, trivial, trivial⟩, by decide,
      ⟨by decide, number _, by decide, number _, by decide, number _, by decide, number _,
      by decide, number _, by decide, number _, trivial⟩, by decide, trivial, trivial⟩
  exact ⟨⟨inputMembers_distinct _ _, (nullable _).1, trivial, (nullable _).1, parsedProfile, trivial,
      trivial⟩,
    ⟨by decide, (nullable _).2, by decide, trivial, by decide, (nullable _).2, by decide,
      keptProfile, by decide, trivial, trivial⟩⟩

/-- Calls whose inputs have one hash are the same request, as far as the hash tells. -/
theorem sameInput_of_hash {platform : TextPlatform} {env : Environment}
    (injective : Function.Injective env.sha256Hex) {firstActor secondActor : Caller}
    {first second : TenantProvisionInput} {hash : JsString}
    (firstHash : tenantProvisionInputHash platform env firstActor first = .ok hash)
    (secondHash : tenantProvisionInputHash platform env secondActor second = .ok hash) :
    actorEmail platform firstActor = actorEmail platform secondActor ∧
      first.name = second.name ∧ first.ownerEmail = second.ownerEmail ∧
      first.profile = second.profile ∧ first.slug = second.slug := by
  have firstText := contentHash_ok firstHash
  have secondText := contentHash_ok secondHash
  have firstParsed := inputMembers_parsed
    ((hashCanonicalJSON_succeeds env.sha256Hex _).mp ⟨_, firstText⟩)
  have secondParsed := inputMembers_parsed
    ((hashCanonicalJSON_succeeds env.sha256Hex _).mp ⟨_, secondText⟩)
  have faithful := (faithful_iff_kept true _ _ firstParsed.1 secondParsed.1).mpr
    ⟨firstParsed.2, secondParsed.2⟩
  have same : SameUpToOrder true (.object (inputMembers platform firstActor first))
      (.object (inputMembers platform secondActor second)) := by
    refine faithful.1.mp ?_
    rw [hashCanonicalJSON] at firstText secondText
    cases one : canonicalJSON (.object (inputMembers platform firstActor first)) with
    | error message => rw [one] at firstText; cases firstText
    | ok text =>
        cases other : canonicalJSON (.object (inputMembers platform secondActor second)) with
        | error message => rw [other] at secondText; cases secondText
        | ok otherText =>
            rw [one] at firstText
            rw [other] at secondText
            cases firstText
            exact congrArg Except.ok (injective (Except.ok.inj secondText)).symm
  have field (index : ℕ) {key : JsString} {one other : Value}
      (here : (inputMembers platform firstActor first)[index]? = some (key, one))
      (there : (inputMembers platform secondActor second)[index]? = some (key, other)) :
      SameUpToOrder true one other :=
    same_member index same (inputMembers_distinct _ _) (inputMembers_distinct _ _) here there
  exact ⟨same_nullableText (field 0 rfl rfl), same_text (field 1 rfl rfl),
    same_nullableText (field 2 rfl rfl), profile_same (field 3 rfl rfl),
    same_text (field 4 rfl rfl)⟩

end

/-! ## What a creation writes and a replay answers -/

section

variable {platform : TextPlatform} {env : Environment}

/-- The first admission is the default one. -/
theorem createAdmission_spec {admission : TenantAdmission} {row : RevisionRow}
    (created : createAdmission platform env = .ok (admission, row)) :
    admission = defaultTenantAdmission ∧
      contentHash env (admissionValue defaultTenantAdmission) = .ok row.documentHash := by
  have valid : validateTenantAdmission platform (admissionValue defaultTenantAdmission) =
      .ok defaultTenantAdmission :=
    show validateTenantAdmission platform (readBack id (admissionValue defaultTenantAdmission)) = _
      from validateTenantAdmission_settled (fun _ => List.Perm.refl _) defaultAdmission_settled
  obtain ⟨normalized, first, created⟩ := bind_ok created
  obtain rfl : defaultTenantAdmission = normalized := Except.ok.inj (valid.symm.trans first)
  obtain ⟨stored, storing, created⟩ := bind_ok created
  rw [valid] at created
  obtain ⟨again, same, created⟩ := bind_ok created
  obtain rfl : defaultTenantAdmission = again := Except.ok.inj same
  obtain ⟨hash, _, created⟩ := bind_ok created
  obtain ⟨documentHash, hashed, storing⟩ := bind_ok storing
  split at created
  · cases created
  · cases created
    cases storing
    exact ⟨rfl, hashed⟩

/-- The call has passed what comes ahead of the first statement. -/
structure Accepted (platform : TextPlatform) (env : Environment) (call : Call) : Prop where
  valid : validateTenantProvisionInput platform call.payload = .ok call.input
  hashed : tenantProvisionInputHash platform env call.actor call.input = .ok call.inputHash

theorem acceptCall_accepted {actor : Caller} {payload : Value} {call : Call}
    (accepted : acceptCall platform env actor payload = .ok call) : Accepted platform env call := by
  unfold acceptCall at accepted
  split at accepted
  · cases accepted
  · obtain ⟨input, valid, accepted⟩ := bind_ok accepted
    obtain ⟨hash, hashed, accepted⟩ := bind_ok accepted
    cases accepted
    exact ⟨valid, hashed⟩

/-- The row that a creation stored with its command. -/
structure StoredAs (platform : TextPlatform) (env : Environment) (creation : Creation)
    (row : CommandRow) : Prop where
  actor : row.actorPrincipalId = creation.call.actor.principalId
  inputHash : row.inputHash = creation.call.inputHash
  shape : ∃ profileHash admissionHash,
    creation.result = resultValue platform creation.call creation.fresh profileHash admissionHash ∧
    contentHash env creation.call.input.profile.toValue = .ok profileHash ∧
    contentHash env (admissionValue defaultTenantAdmission) = .ok admissionHash
  stored : row.result = readBack env.order creation.result
  hashed : contentHash env creation.result = .ok row.resultHash

/-- What a creation does to the command rows. -/
def CommandsAfter (platform : TextPlatform) (env : Environment) (creation : Creation)
    (before after : List CommandRow) : Prop :=
  match creation.call.input.commandId with
  | none => after = before
  | some commandId => (∀ row ∈ before, row.commandId ≠ commandId) ∧
      ∃ row, after = before ++ [row] ∧ row.commandId = commandId ∧
        StoredAs platform env creation row

theorem createTenant_spec {call : Call} {fresh : Fresh} {before after : Tables} {result : Value}
    (created : createTenant platform env call fresh before = .ok (after, result)) :
    Adds platform before ⟨call, fresh, result⟩ after ∧
      CommandsAfter platform env ⟨call, fresh, result⟩ before.commands after.commands := by
  obtain ⟨installation, _, created⟩ := bind_ok created
  split at created
  · cases created
  · split at created
    · cases created
    · obtain ⟨profile, profileStored, created⟩ := bind_ok created
      obtain ⟨⟨admission, row⟩, admitted, created⟩ := bind_ok created
      obtain ⟨rfl, admissionHash⟩ := createAdmission_spec admitted
      obtain ⟨profileHash, profileHashed, profileRow⟩ := bind_ok profileStored
      cases profileRow
      obtain ⟨commands, inserted, created⟩ := bind_ok created
      cases created
      refine ⟨⟨⟨_, rfl, rfl, rfl, rfl, rfl⟩, rfl, rfl⟩, ?_⟩
      unfold CommandsAfter
      unfold insertCommand at inserted
      split at inserted
      · rename_i none
        rw [none]
        cases inserted
        rfl
      · rename_i commandId some
        rw [some]
        obtain ⟨resultHash, hashed, inserted⟩ := bind_ok inserted
        split at inserted
        · cases inserted
        · rename_i unused
          cases inserted
          refine ⟨?_, _, rfl, rfl, rfl, rfl, ⟨profileHash, row.documentHash, rfl, profileHashed,
            admissionHash⟩, rfl, hashed⟩
          intro other there same
          exact unused (List.any_eq_true.mpr ⟨other, there, decide_eq_true same⟩)

theorem optionalEmail_nonempty {value : Value} {field email : JsString}
    (accepted : optionalEmail platform value field = .ok (some email)) : email ≠ [] := by
  have long : 3 ≤ email.length := by
    unfold optionalEmail at accepted
    split at accepted
    · cases accepted
    · cases accepted
    · cases accepted
    · cases found : Productization.email platform value field with
      | error failure =>
          rw [found] at accepted
          cases accepted
      | ok text =>
          rw [found] at accepted
          cases accepted
          obtain ⟨_, _, _, _, _, _, long, _⟩ := email_ok found
          exact long
  rintro rfl
  cases long

theorem Accepted.ownerEmail_nonempty {call : Call} (accepted : Accepted platform env call)
    {email : JsString} (owner : call.input.ownerEmail = some email) : email ≠ [] := by
  obtain ⟨_, _, valid⟩ := bind_ok accepted.valid
  obtain ⟨name, _, valid⟩ := bind_ok valid
  obtain ⟨_, _, valid⟩ := bind_ok valid
  dsimp only at valid
  split at valid
  · cases valid
  · obtain ⟨_, _, valid⟩ := bind_ok valid
    obtain ⟨ownerEmail, address, valid⟩ := bind_ok valid
    obtain ⟨_, _, valid⟩ := bind_ok valid
    generalize call.input = input at valid owner
    cases valid
    obtain rfl : ownerEmail = some email := owner
    exact optionalEmail_nonempty address

/-- The same request would create the same grant. -/
theorem SameRequest.ownerGrantCreated {first second : Call}
    (same : SameRequest platform first second) (accepted : Accepted platform env first) :
    ownerGrantCreated platform first = ownerGrantCreated platform second := by
  have emails := same.email
  unfold TenantProvisioning.ownerGrantCreated
  rw [← same.ownerEmail]
  cases owner : first.input.ownerEmail with
  | none => rfl
  | some email =>
      have nonempty := accepted.ownerEmail_nonempty owner
      have equal : (some email = loweredEmail platform first.actor) =
          (some email = loweredEmail platform second.actor) := by
        have told (actor : Caller) : some email = loweredEmail platform actor ↔
            some email = actorEmail platform actor := by
          unfold actorEmail
          cases loweredEmail platform actor with
          | none => rfl
          | some text =>
              by_cases empty : text = []
              · subst empty
                exact ⟨fun equal => absurd (Option.some.inj equal) nonempty, nofun⟩
              · simp [Option.filter, empty]
        rw [told, told, emails]
      simp only [ne_eq, equal]

/-- A stored result is judged alike for the same request. -/
theorem SameRequest.validate {first second : Call} (same : SameRequest platform first second)
    (accepted : Accepted platform env first) (value : Value) (resultHash : JsString) :
    validateTenantProvisionResult platform env value resultHash second =
      validateTenantProvisionResult platform env value resultHash first := by
  have owner : TenantProvisioning.ownerEmail platform second =
      TenantProvisioning.ownerEmail platform first := by
    rw [TenantProvisioning.ownerEmail, TenantProvisioning.ownerEmail, same.ownerEmail, same.email]
  simp only [validateTenantProvisionResult, checkIdentity, checkOwner, checkProfile,
    checkAdmission, same.name, same.slug, same.profile, same.principalId, owner,
    same.ownerGrantCreated accepted]

/-- The answer from the row of a creation whose profile is settled. -/
theorem replay_answers {creation : Creation} {row : CommandRow} {call : Call}
    (stored : StoredAs platform env creation row)
    (settled : SettledTenantProfile platform creation.call.input.profile)
    (creator : Accepted platform env creation.call) (accepted : Accepted platform env call) :
    AnswersFor platform env creation call (replay platform env call row) where
  retry := by
    intro same
    have hash : row.inputHash = call.inputHash := by
      have first := creator.hashed
      rw [tenantProvisionInputHash, inputMembers, same.email, same.name, same.ownerEmail,
        same.profile, same.slug] at first
      exact stored.inputHash.trans (Except.ok.inj (first.symm.trans accepted.hashed))
    obtain ⟨profileHash, admissionHash, shape, profileHashed, admissionHashed⟩ := stored.shape
    have hashed := stored.hashed
    rw [shape] at hashed
    rw [replay, if_neg (by simp [stored.actor, same.principalId, hash]), same.validate creator,
      stored.stored, shape]
    exact validateTenantProvisionResult_stored hashed profileHashed admissionHashed settled
  conflict := by
    intro injective different
    rw [replay, if_pos]
    by_contra agree
    rw [not_or, not_not, not_not, stored.actor, stored.inputHash] at agree
    have hashed := creator.hashed
    rw [agree.2] at hashed
    obtain ⟨email, name, owner, profile, slug⟩ :=
      sameInput_of_hash injective hashed accepted.hashed
    exact different ⟨agree.1, email, name, owner, profile, slug⟩

end

/-! ## Every interleaving -/

section

variable {platform : TextPlatform} {env : Environment} {guard : Value → Prop}

/-- The sessions have accepted calls; one of them at most holds the lock of a command,
and no command row is there while its holder creates. -/
structure SessionsSound (platform : TextPlatform) (env : Environment) (commands : List CommandRow)
    (sessions : ℕ → Option Session) : Prop where
  accepted : ∀ id session, sessions id = some session → Accepted platform env session.call
  exclusive : ∀ first second one other commandId, sessions first = some one →
    sessions second = some other → one.Holds commandId → other.Holds commandId → first = second
  creating : ∀ id call commandId, sessions id = some ⟨call, .creating⟩ →
    call.input.commandId = some commandId → ∀ row ∈ commands, row.commandId ≠ commandId

theorem update_cases {sessions : ℕ → Option Session} {id other : ℕ} {replaced : Option Session}
    {found : Session} (present : Function.update sessions id replaced other = some found) :
    (other = id ∧ replaced = some found) ∨ (other ≠ id ∧ sessions other = some found) := by
  by_cases same : other = id
  · subst same
    rw [Function.update_self] at present
    exact .inl ⟨rfl, present⟩
  · rw [Function.update_of_ne same] at present
    exact .inr ⟨same, present⟩

/-- A session that ends leaves the others sound. -/
theorem SessionsSound.close {commands : List CommandRow} {sessions : ℕ → Option Session}
    (sound : SessionsSound platform env commands sessions) (id : ℕ) :
    SessionsSound platform env commands (Function.update sessions id none) where
  accepted := by
    intro other session present
    rcases update_cases present with ⟨_, closed⟩ | ⟨_, before⟩
    · cases closed
    · exact sound.accepted other session before
  exclusive := by
    intro first second one other commandId here there holds otherHolds
    rcases update_cases here with ⟨_, closed⟩ | ⟨_, hereBefore⟩
    · cases closed
    · rcases update_cases there with ⟨_, closed⟩ | ⟨_, thereBefore⟩
      · cases closed
      · exact sound.exclusive first second one other commandId hereBefore thereBefore holds
          otherHolds
  creating := by
    intro other call commandId present command
    rcases update_cases present with ⟨_, closed⟩ | ⟨_, before⟩
    · cases closed
    · exact sound.creating other call commandId before command

/-- A session that goes on keeps the sessions sound, if it takes no lock that another
one holds and creates only without a row of its command. -/
theorem SessionsSound.advance {commands : List CommandRow} {sessions : ℕ → Option Session}
    (sound : SessionsSound platform env commands sessions) {id : ℕ} {session : Session}
    (accepted : Accepted platform env session.call)
    (alone : ∀ commandId other found, session.Holds commandId → sessions other = some found →
      found.Holds commandId → other = id)
    (absent : session.phase = .creating → ∀ commandId,
      session.call.input.commandId = some commandId → ∀ row ∈ commands, row.commandId ≠ commandId) :
    SessionsSound platform env commands (Function.update sessions id (some session)) where
  accepted := by
    intro other found present
    rcases update_cases present with ⟨_, here⟩ | ⟨_, before⟩
    · cases here
      exact accepted
    · exact sound.accepted other found before
  exclusive := by
    intro first second one other commandId here there holds otherHolds
    rcases update_cases here with ⟨atFirst, this⟩ | ⟨_, hereBefore⟩
    · cases this
      rcases update_cases there with ⟨atSecond, _⟩ | ⟨_, thereBefore⟩
      · exact atFirst.trans atSecond.symm
      · exact atFirst.trans (alone commandId second other holds thereBefore otherHolds).symm
    · rcases update_cases there with ⟨atSecond, this⟩ | ⟨_, thereBefore⟩
      · cases this
        exact (alone commandId first one otherHolds hereBefore holds).trans atSecond.symm
      · exact sound.exclusive first second one other commandId hereBefore thereBefore holds
          otherHolds
  creating := by
    intro other call commandId present command
    rcases update_cases present with ⟨_, here⟩ | ⟨_, before⟩
    · cases here
      exact absent rfl commandId command
    · exact sound.creating other call commandId before command

/-- Every answer after a creation for its command is that of the creation. -/
def Answered (platform : TextPlatform) (env : Environment) (journal : List Event) : Prop :=
  ∀ before after call outcome creation commandId,
    journal = before ++ .answered call outcome :: after → .created creation ∈ before →
    creation.call.input.commandId = some commandId → call.input.commandId = some commandId →
      AnswersFor platform env creation call outcome

theorem Answered.append {journal : List Event} {event : Event}
    (answered : Answered platform env journal)
    (last : ∀ call outcome creation commandId, event = .answered call outcome →
      .created creation ∈ journal → creation.call.input.commandId = some commandId →
      call.input.commandId = some commandId → AnswersFor platform env creation call outcome) :
    Answered platform env (journal ++ [event]) := by
  intro before after call outcome creation commandId parts created creator command
  cases after using List.reverseRecOn with
  | nil =>
      obtain ⟨rfl, same⟩ := List.append_inj' parts rfl
      exact last call outcome creation commandId (List.singleton_inj.mp same) created creator command
  | append_singleton after other =>
      rw [← List.cons_append, ← List.append_assoc] at parts
      exact answered before after call outcome creation commandId (List.append_inj_left' parts rfl)
        created creator command

/-- What holds in every reachable state. -/
structure Sound (platform : TextPlatform) (env : Environment) (state : State) : Prop where
  sessions : SessionsSound platform env state.tables.commands state.sessions
  creations : ∀ creation commandId, .created creation ∈ state.journal →
    creation.call.input.commandId = some commandId →
    ∃ row, commandRow state.tables commandId = some row ∧ StoredAs platform env creation row ∧
      SettledTenantProfile platform creation.call.input.profile ∧
      Accepted platform env creation.call
  once : ∀ commandId, (state.journal.filter fun event => event.creates commandId).length ≤
    if (commandRow state.tables commandId).isSome then 1 else 0
  answered : Answered platform env state.journal

theorem Initial.sound {state : State} (initial : Initial state) : Sound platform env state where
  sessions := by
    constructor
    · intro id session present
      rw [initial.sessions] at present
      cases present
    · intro first second one other commandId present
      rw [initial.sessions] at present
      cases present
    · intro id call commandId present
      rw [initial.sessions] at present
      cases present
  creations := by simp [initial.journal]
  once := by simp [initial.journal]
  answered := by
    intro before after call outcome creation commandId parts
    rw [initial.journal] at parts
    exact absurd parts.symm (by simp)

theorem commandRow_none {tables : Tables} {commandId : JsString}
    (absent : ∀ row ∈ tables.commands, row.commandId ≠ commandId) :
    commandRow tables commandId = none := by
  simpa [commandRow] using absent

theorem commandRow_absent {tables : Tables} {commandId : JsString}
    (none : commandRow tables commandId = none) :
    ∀ row ∈ tables.commands, row.commandId ≠ commandId := by
  simpa [commandRow] using none

/-- An answer that is no creation keeps a state sound, if it is right. -/
theorem Sound.answer {state : State} (sound : Sound platform env state) {id : ℕ} {call : Call}
    {outcome : Checked Value}
    (right : ∀ creation commandId, .created creation ∈ state.journal →
      creation.call.input.commandId = some commandId → call.input.commandId = some commandId →
        AnswersFor platform env creation call outcome) :
    Sound platform env (state.answer id call outcome) where
  sessions := sound.sessions.close id
  creations := by
    intro creation commandId created
    have before : .created creation ∈ state.journal := by
      simpa [State.answer] using created
    exact sound.creations creation commandId before
  once := by
    intro commandId
    have same : (state.answer id call outcome).journal.filter
        (fun event => event.creates commandId) =
        state.journal.filter fun event => event.creates commandId := by
      simp [State.answer, Event.creates]
    rw [same]
    exact sound.once commandId
  answered := by
    refine sound.answered.append ?_
    intro other result creation commandId event created creator command
    cases event
    exact right creation commandId created creator command

/-- A call whose command has a creation finds no session that creates for it. -/
theorem Sound.creating_first {state : State} (sound : Sound platform env state) {id : ℕ}
    {call : Call} {creation : Creation} {commandId : JsString}
    (creating : state.sessions id = some ⟨call, .creating⟩)
    (command : call.input.commandId = some commandId)
    (created : .created creation ∈ state.journal) :
    creation.call.input.commandId ≠ some commandId := by
  intro creator
  obtain ⟨row, found, _⟩ := sound.creations creation commandId created creator
  have absent := commandRow_none (sound.sessions.creating id call commandId creating command)
  rw [absent] at found
  cases found

/-- A replay gives the answer of the creation for its command. -/
theorem Sound.replay {state : State} (sound : Sound platform env state) {call : Call}
    {creation : Creation} {commandId : JsString} {row : CommandRow}
    (accepted : Accepted platform env call)
    (found : commandRow state.tables commandId = some row)
    (created : .created creation ∈ state.journal)
    (creator : creation.call.input.commandId = some commandId) :
    AnswersFor platform env creation call (TenantProvisioning.replay platform env call row) := by
  obtain ⟨other, otherFound, stored, settled, first⟩ :=
    sound.creations creation commandId created creator
  obtain rfl : other = row := Option.some.inj (otherFound.symm.trans found)
  exact replay_answers stored settled first accepted

theorem commandRow_append {tables after : Tables} {row : CommandRow} (commandId : JsString)
    (written : after.commands = tables.commands ++ [row]) :
    commandRow after commandId = (commandRow tables commandId).or
      (if row.commandId = commandId then some row else none) := by
  rw [commandRow, written, List.find?_append]
  by_cases same : row.commandId = commandId <;> simp [commandRow, same]

/-- A creation keeps a state sound. Its session held the lock of the command, so no
other one is about to create for it. -/
theorem Sound.create {state : State} (sound : Sound platform env state) {id : ℕ} {call : Call}
    {fresh : Fresh} {tables : Tables} {result : Value}
    (creating : state.sessions id = some ⟨call, .creating⟩)
    (written : CommandsAfter platform env ⟨call, fresh, result⟩ state.tables.commands
      tables.commands)
    (settled : SettledTenantProfile platform call.input.profile) :
    Sound platform env { state.set id none with
      tables, journal := state.journal ++ [.created ⟨call, fresh, result⟩] } := by
  have accepted := sound.sessions.accepted id _ creating
  have closed := sound.sessions.close id
  have answered : Answered platform env (state.journal ++ [.created ⟨call, fresh, result⟩]) :=
    sound.answered.append (by rintro _ _ _ _ ⟨⟩)
  unfold CommandsAfter at written
  dsimp only at written
  cases command : call.input.commandId with
  | none =>
      rw [command] at written
      dsimp only at written
      have same (commandId : JsString) :
          commandRow tables commandId = commandRow state.tables commandId := by
        rw [commandRow, commandRow, written]
      refine ⟨written ▸ closed, ?_, ?_, answered⟩
      · intro creation commandId created creator
        rw [same]
        rcases List.mem_append.mp created with before | last
        · exact sound.creations creation commandId before creator
        · cases List.mem_singleton.mp last
          rw [command] at creator
          cases creator
      · intro commandId
        rw [same, List.filter_append]
        simpa [Event.creates, command] using sound.once commandId
  | some commandId =>
      rw [command] at written
      obtain ⟨absent, row, appended, named, stored⟩ := written
      have rowAfter (other : JsString) := commandRow_append other appended
      refine ⟨⟨closed.accepted, closed.exclusive, ?_⟩, ?_, ?_, answered⟩
      · intro other otherCall otherId present otherCommand
        rw [appended]
        intro found there
        rcases List.mem_append.mp there with before | last
        · exact closed.creating other otherCall otherId present otherCommand found before
        · rw [List.mem_singleton.mp last, named]
          rintro rfl
          rcases update_cases present with ⟨_, gone⟩ | ⟨apart, before⟩
          · cases gone
          · exact apart (sound.sessions.exclusive other id _ _ commandId before creating
              ⟨otherCommand, nofun⟩ ⟨command, nofun⟩)
      · intro creation otherId created creator
        rw [rowAfter]
        rcases List.mem_append.mp created with before | last
        · obtain ⟨found, present, rest⟩ := sound.creations creation otherId before creator
          exact ⟨found, by rw [present]; rfl, rest⟩
        · cases List.mem_singleton.mp last
          rw [command] at creator
          cases creator
          rw [commandRow_none absent, if_pos named]
          exact ⟨row, rfl, stored, settled, accepted⟩
      · intro otherId
        rw [rowAfter, List.filter_append, List.length_append]
        have before := sound.once otherId
        by_cases same : otherId = commandId
        · subst same
          rw [commandRow_none absent] at before ⊢
          simp only [Option.isSome_none, Bool.false_eq_true, if_false, Nat.le_zero] at before
          rw [before, if_pos named]
          simp [Event.creates, command]
        · have none : (if row.commandId = otherId then some row else none) = none :=
            if_neg fun equal => same (equal.symm.trans named)
          rw [none, Option.or_none]
          have other : ([Event.created ⟨call, fresh, result⟩].filter
              fun event => event.creates otherId) = [] := by
            simp [Event.creates, command, Ne.symm same]
          rw [other]
          exact before

/-- The profile of a payload is stored as its validator returns it. -/
def ReadsBackAsGiven (platform : TextPlatform) (payload : Value) : Prop :=
  if (payload.get (js "profile")).isUndefined then CutsCleanly platform (payload.get (js "name"))
  else CarriesStableAddress platform (payload.get (js "profile"))

/-- Every step keeps a state sound, if the profiles it stores read back. -/
theorem Sound.step {state next : State} (sound : Sound platform env state)
    (step : Step platform env (ReadsBackAsGiven platform) state next) :
    Sound platform env next := by
  cases step with
  | @call id actor payload call idle accepted =>
      refine ⟨sound.sessions.advance (acceptCall_accepted accepted) ?_ ?_, sound.creations,
        sound.once, sound.answered⟩
      · rintro commandId other found ⟨command, waits⟩
        dsimp only at command waits
        rw [Call.start, if_neg (by simp [command])] at waits
        exact absurd rfl waits
      · intro creating commandId command
        dsimp only at creating command
        rw [Call.start, if_neg (by simp [command])] at creating
        cases creating
  | @lock id call commandId waits command free =>
      have accepted : Accepted platform env call := sound.sessions.accepted id _ waits
      refine ⟨sound.sessions.advance accepted ?_ nofun,
        sound.creations, sound.once, sound.answered⟩
      rintro otherId other found ⟨otherCommand, _⟩ present holds
      dsimp only at otherCommand
      rw [command] at otherCommand
      cases otherCommand
      exact absurd holds (free other found present)
  | @replay id call commandId row locked command found =>
      refine sound.answer fun creation otherId created creator otherCommand => ?_
      rw [command] at otherCommand
      cases otherCommand
      exact sound.replay (sound.sessions.accepted id _ locked) found created creator
  | @proceed id call commandId locked command absent =>
      have accepted : Accepted platform env call := sound.sessions.accepted id _ locked
      refine ⟨sound.sessions.advance accepted ?_ ?_,
        sound.creations, sound.once, sound.answered⟩
      · rintro otherId other found ⟨otherCommand, _⟩ present holds
        exact sound.sessions.exclusive other id found _ otherId present locked holds
          ⟨otherCommand, nofun⟩
      · intro _ otherId otherCommand
        dsimp only at otherCommand
        rw [command] at otherCommand
        cases otherCommand
        exact commandRow_absent absent
  | @create id call fresh tables result creating created guarded =>
      have accepted := sound.sessions.accepted id _ creating
      exact sound.create creating (createTenant_spec created).2
        (validateTenantProvisionInput_settled accepted.valid guarded)
  | @refuse id call fresh failure creating refused =>
      refine sound.answer fun creation commandId created creator command => ?_
      exact absurd creator (sound.creating_first creating command created)
  | crash id => exact ⟨sound.sessions.close id, sound.creations, sound.once, sound.answered⟩
  | configure other done => exact ⟨sound.sessions, sound.creations, sound.once, sound.answered⟩

theorem Step.moves {state next : State} (step : Step platform env guard state next) :
    Moves platform state next := by
  cases step with
  | call idle accepted => exact .inr (.inr ⟨rfl, rfl, rfl, rfl⟩)
  | lock waits command free => exact .inr (.inr ⟨rfl, rfl, rfl, rfl⟩)
  | replay locked command found => exact .inr (.inl ⟨_, _, rfl, rfl⟩)
  | proceed locked command absent => exact .inr (.inr ⟨rfl, rfl, rfl, rfl⟩)
  | create creating created guarded => exact .inl ⟨_, rfl, (createTenant_spec created).1⟩
  | refuse creating refused => exact .inr (.inl ⟨_, _, rfl, rfl⟩)
  | crash id => exact .inr (.inr ⟨rfl, rfl, rfl, rfl⟩)
  | configure other done => exact .inr (.inr ⟨rfl, rfl, rfl, rfl⟩)

end

theorem provisions_once (platform : TextPlatform) (env : Environment) :
    ProvisionsOnce platform env (ReadsBackAsGiven platform) := by
  intro start state initial run
  have sound : Sound platform env state := by
    induction run with
    | refl => exact initial.sound
    | tail earlier last inductionHypothesis => exact inductionHypothesis.step last
  refine ⟨fun commandId => (sound.once commandId).trans ?_, sound.answered,
    fun next step => step.moves⟩
  split <;> omega


/-! ## A retry that is refused -/

/-- The store after its initialization on an empty database. -/
def installed : Tables :=
  ⟨(initializeStore asciiText Sample.env none ⟨[], []⟩).toOption.getD ⟨[], []⟩, [], [], []⟩

def administrator : Caller := ⟨js "admin", none, [js "admin"]⟩

/-- A command with a name whose default short name ends in a space. -/
def spacedCommand : Value :=
  .object [(js "commandId", .string (js "00000000-0000-4000-8000-000000000001")),
    (js "name", .string spacedName), (js "slug", .string (js "spaced"))]

def freshIdentifiers : Fresh :=
  ⟨⟨js "00000000-0000-4000-8000-000000000002", by decide⟩,
    ⟨js "00000000-0000-4000-8000-000000000003", by decide⟩,
    ⟨js "00000000-0000-4000-8000-000000000004", by decide⟩, 0⟩

/-- The call creates a tenant, and is refused when it comes again. -/
def retryRefused (call : Call) : Bool :=
  match createTenant asciiText Sample.env call freshIdentifiers installed,
    call.input.commandId with
  | .ok (tables, _), some commandId =>
      match commandRow tables commandId with
      | some row => (replay asciiText Sample.env call row).toOption.isNone
      | none => false
  | _, _ => false

/-- A call that creates its tenant and comes a second time. -/
theorem retry_run {platform : TextPlatform} {env : Environment} (guard : Value → Prop)
    {payload : Value} {before tables : Tables} {call : Call} {fresh : Fresh} {result : Value}
    {commandId : JsString} {row : CommandRow} {actor : Caller}
    (accepted : acceptCall platform env actor payload = .ok call)
    (command : call.input.commandId = some commandId)
    (absent : commandRow before commandId = none)
    (created : createTenant platform env call fresh before = .ok (tables, result))
    (guarded : guard call.payload) (found : commandRow tables commandId = some row) :
    ∃ state, Relation.ReflTransGen (Step platform env guard) ⟨before, fun _ => none, []⟩ state ∧
      state.journal = [.created ⟨call, fresh, result⟩,
        .answered call (replay platform env call row)] := by
  let only (phase : Phase) : ℕ → Option Session :=
    Function.update (fun _ => none) 0 (some ⟨call, phase⟩)
  have here (phase : Phase) : only phase 0 = some ⟨call, phase⟩ := by
    simp [only]
  have alone (phase : Phase) : Function.update (only phase) 0 none = fun _ => none := by
    simp [only]
  have moved (phase next : Phase) :
      Function.update (only phase) 0 (some ⟨call, next⟩) = only next := by
    simp [only]
  have opens (journal : List Event) (rows : Tables) : Step platform env guard
      ⟨rows, fun _ => none, journal⟩ ⟨rows, only .waiting, journal⟩ := by
    have waiting : call.start = .waiting := if_neg (by rw [command]; nofun)
    dsimp only [only]
    rw [← waiting]
    exact Step.call rfl accepted
  have locks (journal : List Event) (rows : Tables) : Step platform env guard
      ⟨rows, only .waiting, journal⟩ ⟨rows, only .locked, journal⟩ := by
    rw [← moved .waiting .locked]
    refine Step.lock (here .waiting) command fun other session present holds => ?_
    rcases update_cases (show only .waiting other = some session from present) with ⟨_, same⟩ | ⟨_, gone⟩
    · cases same
      exact holds.2 rfl
    · cases gone
  have proceeds : Step platform env guard ⟨before, only .locked, []⟩
      ⟨before, only .creating, []⟩ := by
    rw [← moved .locked .creating]
    exact Step.proceed (here .locked) command absent
  have creates : Step platform env guard ⟨before, only .creating, []⟩
      ⟨tables, fun _ => none, [.created ⟨call, fresh, result⟩]⟩ := by
    rw [← alone .creating]
    exact Step.create (here .creating) created guarded
  have answers (journal : List Event) (rows : Tables) (stored : commandRow rows commandId = some row) :
      Step platform env guard ⟨rows, only .locked, journal⟩
        ⟨rows, fun _ => none, journal ++ [.answered call (replay platform env call row)]⟩ := by
    rw [← alone .locked]
    exact Step.replay (here .locked) command stored
  have first := ((Relation.ReflTransGen.single (opens [] before)).tail (locks [] before)).tail
    proceeds
  have again := ((first.tail creates).tail (opens _ tables)).tail (locks _ tables)
  exact ⟨_, again.tail (answers _ tables found), rfl⟩

/-- The stored result is refused, because the profile in it is read back otherwise. -/
theorem spacedCommand_not_retried :
    ¬ ProvisionsOnce asciiText Sample.env fun _ => True := by
  intro always
  have failed : (acceptCall asciiText Sample.env administrator spacedCommand).toOption.any
      retryRefused = true := by
    decide +kernel
  rw [Option.any_eq_true] at failed
  obtain ⟨call, done, refused⟩ := failed
  have accepted : acceptCall asciiText Sample.env administrator spacedCommand = .ok call := by
    cases result : acceptCall asciiText Sample.env administrator spacedCommand with
    | error failure => simp [result, Except.toOption] at done
    | ok other =>
        obtain rfl : other = call := by simpa [result, Except.toOption] using done
        rfl
  unfold retryRefused at refused
  split at refused
  case h_2 => cases refused
  rename_i tables result commandId created command
  split at refused
  case h_2 => cases refused
  rename_i row found
  obtain ⟨state, run, journal⟩ := retry_run (fun _ => True) accepted command rfl created
    trivial found
  have answers := (always ⟨installed, fun _ => none, []⟩ state ⟨rfl, fun _ => rfl, rfl⟩ run).2.1
    [.created ⟨call, freshIdentifiers, result⟩] [] call _ ⟨call, freshIdentifiers, result⟩ commandId
    journal (List.mem_singleton_self _) command command
  rw [answers.retry ⟨rfl, rfl, rfl, rfl, rfl, rfl⟩] at refused
  cases refused
end Vasi.TenantProvisioning
