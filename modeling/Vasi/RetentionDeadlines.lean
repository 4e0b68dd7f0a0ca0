import Vasi.StoredConfiguration

/-!
# Retention deadlines

A record is bound to a retention policy when its request is issued, with deadlines
that count from the expiry, and anchored when it is completed, with deadlines that
count from then. The expiry is not stored: an anchor recovers it from the content
deadline, where that is the expiry, and does not need it elsewhere.
-/
namespace Vasi.RetentionDeadlines

open JsValue Validation CanonicalJson IsoTime

/-! ## Policies -/

def RETENTION_POLICY_SCHEMA : JsString := js "vasi-retention-policy/v1"

def invalid (message : JsString) : Failure := ⟨js "INVALID_LIFECYCLE", message⟩

/-- A period of at most a hundred years, in days. -/
abbrev Days := Fin 36501

inductive ContentAccess where
  | daysAfterTerminal (days : Days)
  | indefinite
  | requestExpiration

def ContentAccess.mode : ContentAccess → JsString
  | daysAfterTerminal _ => js "days_after_terminal"
  | indefinite => js "indefinite"
  | requestExpiration => js "request_expiration"

/-- A normalized policy; null periods are absent. -/
structure RetentionPolicy where
  contentAccess : ContentAccess
  archiveAfterDays : Option Days
  deleteAfterDays : Option Days
  historyDaysAfterTerminal : Option Days
  inOrder : ∀ archive ∈ archiveAfterDays, ∀ delete ∈ deleteAfterDays, archive ≤ delete

def SYSTEM_RETENTION_POLICY : RetentionPolicy where
  contentAccess := .requestExpiration
  archiveAfterDays := some 365
  deleteAfterDays := none
  historyDaysAfterTerminal := none
  inOrder := by simp

def daysValue (days : Days) : Value := .number (.finite days.val)

def nullableDaysValue (days : Option Days) : Value := (days.map daysValue).getD .null

def ContentAccess.toValue : ContentAccess → Value
  | daysAfterTerminal days => .object [(js "daysAfterTerminal", daysValue days),
      (js "mode", .string (js "days_after_terminal"))]
  | access => .object [(js "mode", .string access.mode)]

/-- The policy as the object that is hashed and stored. -/
def RetentionPolicy.toValue (policy : RetentionPolicy) : Value :=
  .object [(js "contentAccess", policy.contentAccess.toValue),
    (js "evidence", .object [(js "archiveAfterDays", nullableDaysValue policy.archiveAfterDays),
      (js "deleteAfterDays", nullableDaysValue policy.deleteAfterDays)]),
    (js "participantHistory", .object [(js "daysAfterTerminal",
      nullableDaysValue policy.historyDaysAfterTerminal)]),
    (js "schema", .string RETENTION_POLICY_SCHEMA)]

def strictObject (value : Value) (name : JsString) (keys : List JsString) : Checked Members :=
  match value with
  | .object members =>
      if ∀ entry ∈ members, entry.1 ∈ keys then .ok members
      else .error (invalid (name ++ js " contains unsupported fields."))
  | _ => .error (invalid (name ++ js " must be an object."))

def boundedString (value : Value) (name : JsString) (minimum maximum : ℕ) : Checked JsString :=
  match value with
  | .string text =>
      let normalized := trim text
      if normalized.length < minimum ∨ normalized.length > maximum then
        .error (invalid (name ++ js " is invalid."))
      else .ok normalized
  | _ => .error (invalid (name ++ js " must be text."))

theorem toNat_lt_days {days : ℤ} (inside : 0 ≤ days ∧ days ≤ 36500) : days.toNat < 36501 := by
  omega

def boundedDays (value : Value) (name : JsString) : Checked Days :=
  let failure := Except.error
    (invalid (name ++ js " must be an integer from 0 to 36500 or null."))
  match value with
  | .number number =>
      if number.isSafeInteger then
        let days := (number.toRat?.getD 0).num
        if inside : 0 ≤ days ∧ days ≤ 36500 then .ok ⟨days.toNat, toNat_lt_days inside⟩ else failure
      else failure
  | _ => failure

def nullableDays (value : Value) (name : JsString) : Checked (Option Days) :=
  match value with
  | .null => .ok none
  | value => (boundedDays value name).map some

/-- The content access of a mode, with its days where they belong to it. -/
def contentAccessOf (mode : JsString) (content : Members) : Checked ContentAccess :=
  if mode = js "days_after_terminal" then
    (boundedDays (Value.member content (js "daysAfterTerminal"))
      (js "contentAccess.daysAfterTerminal")).map .daysAfterTerminal
  else if (Value.member content (js "daysAfterTerminal")).isUndefined then
    if mode = js "indefinite" then .ok .indefinite
    else if mode = js "request_expiration" then .ok .requestExpiration
    else .error (invalid (js "The content access mode is unsupported."))
  else if mode ∈ [js "indefinite", js "request_expiration"] then
    .error (invalid (js "Content access days are allowed only with days_after_terminal."))
  else .error (invalid (js "The content access mode is unsupported."))

/-- The schema member of a policy: absent, or the supported one. -/
def supportedSchema : Value → Bool
  | .undefined => true
  | .string text => text = RETENTION_POLICY_SCHEMA
  | _ => false

def normalizePolicyObject (value : Value) : Checked RetentionPolicy := do
  let input ← strictObject value (js "retention policy")
    [js "contentAccess", js "evidence", js "participantHistory", js "schema"]
  if supportedSchema (Value.member input (js "schema")) then
    let content ← strictObject (Value.member input (js "contentAccess"))
      (js "content access policy") [js "daysAfterTerminal", js "mode"]
    let mode ← boundedString (Value.member content (js "mode")) (js "contentAccess.mode") 1 64
    let contentAccess ← contentAccessOf mode content
    let history ← strictObject (Value.member input (js "participantHistory"))
      (js "participant history policy") [js "daysAfterTerminal"]
    let historyDaysAfterTerminal ← nullableDays (Value.member history (js "daysAfterTerminal"))
      (js "participantHistory.daysAfterTerminal")
    let evidence ← strictObject (Value.member input (js "evidence"))
      (js "evidence retention policy") [js "archiveAfterDays", js "deleteAfterDays"]
    let archiveAfterDays ← nullableDays (Value.member evidence (js "archiveAfterDays"))
      (js "evidence.archiveAfterDays")
    let deleteAfterDays ← nullableDays (Value.member evidence (js "deleteAfterDays"))
      (js "evidence.deleteAfterDays")
    if inOrder : ∀ archive ∈ archiveAfterDays, ∀ delete ∈ deleteAfterDays, archive ≤ delete then
      return { contentAccess, archiveAfterDays, deleteAfterDays, historyDaysAfterTerminal, inOrder }
    else .error (invalid (js "Evidence deletion cannot precede archival."))
  else .error (invalid (js "The retention policy schema is unsupported."))

/-- A policy that is left out is the one of the system. -/
def normalizeRetentionPolicy (value : Value) : Checked RetentionPolicy :=
  match value with
  | .undefined => .ok SYSTEM_RETENTION_POLICY
  | value => normalizePolicyObject value

/-! ## Deadlines -/

/-- The times that a Date holds, in milliseconds. -/
def validTime (time : Time) : Bool := -8640000000000000 ≤ time ∧ time ≤ 8640000000000000

/-- A valid Date. -/
abbrev Date := { time : Time // validTime time = true }

/-- The deadlines of a record. A Date past the end of time is invalid. -/
structure Deadlines where
  archiveAt : Option Time
  contentExpiresAt : Option Time
  deleteAt : Option Time
  historyExpiresAt : Option Time
  terminalAt : Time
deriving DecidableEq

def plusDays (time : Time) (days : Days) : Time := time + days.val * 86400000

def calculateRetentionDeadlines (policy : RetentionPolicy) (expiresAt : Date)
    (terminalDate : Option Date) : Deadlines :=
  let terminalAt := terminalDate.getD expiresAt
  { archiveAt := policy.archiveAfterDays.map (plusDays terminalAt.val)
    contentExpiresAt := match policy.contentAccess with
      | .indefinite => none
      | .requestExpiration => some expiresAt.val
      | .daysAfterTerminal days => some (plusDays terminalAt.val days)
    deleteAt := policy.deleteAfterDays.map (plusDays terminalAt.val)
    historyExpiresAt := policy.historyDaysAfterTerminal.map (plusDays terminalAt.val)
    terminalAt := terminalAt.val }

/-- All dates are valid, so that they can be written as parameters and as text. -/
def Deadlines.valid (deadlines : Deadlines) : Bool :=
  deadlines.archiveAt.all validTime && deadlines.contentExpiresAt.all validTime &&
    deadlines.deleteAt.all validTime && deadlines.historyExpiresAt.all validTime &&
    validTime deadlines.terminalAt

/-! ## The record -/

/-- The database around a record: the digest, and the member order of a stored document. -/
structure Database where
  sha256Hex : JsString → JsString
  order : Members → Members
  rearranges : ∀ members, (order members).Perm members

section

variable (database : Database)

/-- A saved revision of a tenant's policy. -/
structure PolicyRevision where
  id : JsString
  policy : Value
  policyHash : JsString
  revision : ℕ

structure ResolvedPolicy where
  id : Option JsString
  policy : RetentionPolicy
  policyHash : JsString
  revision : ℕ

/-- An event of the record's lifecycle, with the payload of a policy event. -/
structure LifecycleEvent where
  eventType : JsString
  deadlines : Deadlines
  policyHash : JsString
  policyRevisionId : Option JsString
  profileName : Option JsString
  createdAt : Time

/-- The lifecycle state of a record. Its columns hold valid times. -/
structure LifecycleRow where
  policySnapshot : Value
  policyHash : JsString
  deadlines : Deadlines
  valid : deadlines.valid = true
  events : List LifecycleEvent

def codeOf {α : Type} (checked : Checked α) : Except JsString α := checked.mapError Failure.code

def retentionPolicyHash (policy : Value) : Except JsString JsString := do
  let normalized ← codeOf (normalizeRetentionPolicy policy)
  hashCanonicalJSON database.sha256Hex normalized.toValue

/-- A revision of the policy that a command carries, as it is stored. -/
def savedRevision (id : JsString) (policy : Value) (revision : ℕ) :
    Except JsString PolicyRevision := do
  let normalized ← codeOf (normalizeRetentionPolicy policy)
  let policyHash ← retentionPolicyHash database normalized.toValue
  return { id, policy := readBack database.order normalized.toValue, policyHash, revision }

/-- The active revision of a profile; a tenant without one has the policy of the system. -/
def resolveRetentionPolicy (active : Option PolicyRevision) (profileName : JsString) :
    Except JsString ResolvedPolicy :=
  match active with
  | none =>
      if profileName ≠ js "tenant_default" then .error (js "retention_policy_not_found")
      else do
        let policyHash ← retentionPolicyHash database SYSTEM_RETENTION_POLICY.toValue
        return { id := none, policy := SYSTEM_RETENTION_POLICY, policyHash, revision := 0 }
  | some row => do
      let policy ← codeOf (normalizeRetentionPolicy row.policy)
      let policyHash ← retentionPolicyHash database policy.toValue
      if policyHash ≠ row.policyHash then .error (js "retention_policy_integrity_failed")
      else return { id := some row.id, policy, policyHash := row.policyHash
                    revision := row.revision }

/-- The database refuses an invalid Date. -/
def invalidDatetimeFormat : JsString := js "22007"

def bindRecordLifecycle (active : Option PolicyRevision) (profileName : JsString)
    (expiresAt : Date) (now : Time) : Except JsString LifecycleRow := do
  let resolved ← resolveRetentionPolicy database active profileName
  let deadlines := calculateRetentionDeadlines resolved.policy expiresAt none
  if valid : deadlines.valid = true then
    return {
      policySnapshot := readBack database.order resolved.policy.toValue
      policyHash := resolved.policyHash
      deadlines
      valid
      events := [{
        eventType := js "policy.bound", deadlines, policyHash := resolved.policyHash
        policyRevisionId := resolved.id, profileName := some profileName, createdAt := now }] }
  else .error invalidDatetimeFormat

def validDate (time : Time) (name : JsString) : Checked Date :=
  if valid : validTime time = true then .ok ⟨time, valid⟩
  else .error (invalid (name ++ js " must be a valid date."))

def anchorRecordLifecycle (row : LifecycleRow) (completedAt : Date) :
    Except JsString LifecycleRow := do
  let policy ← codeOf (normalizeRetentionPolicy row.policySnapshot)
  let expiresAt ← codeOf (validDate (row.deadlines.contentExpiresAt.getD completedAt.val)
    (js "expiresAt"))
  let deadlines := calculateRetentionDeadlines policy expiresAt (some completedAt)
  if valid : deadlines.valid = true then
    return { row with
      deadlines
      valid
      events := row.events ++ [{
        eventType := js "terminal.anchored", deadlines, policyHash := row.policyHash
        policyRevisionId := none, profileName := none, createdAt := completedAt.val }] }
  else .error invalidDatetimeFormat

/-- Anchors, one after the other. -/
def anchorAll (row : LifecycleRow) : List Date → Except JsString LifecycleRow
  | [] => .ok row
  | completedAt :: rest => do
      let next ← anchorRecordLifecycle row completedAt
      anchorAll next rest

end

/-! ## A policy read back -/

/-- A stored object has the stored members. -/
theorem stored_object {order : Members → Members}
    (rearranges : ∀ members, (order members).Perm members) {members : Members}
    (distinct : (members.map Prod.fst).Nodup) :
    ∃ stored, readBack order (.object members) = .object stored ∧
      (∀ entry ∈ stored, entry.1 ∈ members.map Prod.fst) ∧
      ∀ key, Value.member stored key = readBack order (Value.member members key) := by
  obtain ⟨stored, read, each⟩ := StoredConfiguration.strictObject_stored rearranges members []
    (members.map Prod.fst) distinct fun key member => member
  have same := StoredConfiguration.strictObject_object read
  refine ⟨stored, same, fun entry member => ?_, each⟩
  have own : stored = order (readBackMembers order members) := by
    rw [readBack] at same
    exact (Value.object.inj same).symm
  rw [own] at member
  exact (readBackMembers_keys order members).subset
    (List.mem_map_of_mem ((rearranges _).mem_iff.mp member))

theorem strictObject_stored {order : Members → Members}
    (rearranges : ∀ members, (order members).Perm members) (members : Members)
    (keys : List JsString) (name : JsString) (distinct : (members.map Prod.fst).Nodup)
    (allowed : ∀ key ∈ members.map Prod.fst, key ∈ keys) :
    ∃ stored, strictObject (readBack order (.object members)) name keys = .ok stored ∧
      ∀ key, Value.member stored key = readBack order (Value.member members key) := by
  obtain ⟨stored, same, listed, each⟩ := stored_object rearranges distinct
  refine ⟨stored, ?_, each⟩
  rw [same, strictObject, if_pos fun entry member => allowed _ (listed entry member)]

theorem boundedDays_stored (order : Members → Members) (days : Days) (name : JsString) :
    boundedDays (readBack order (daysValue days)) name = .ok days := by
  have read : readBack order (daysValue days) = .number (.finite (days.val : ℕ)) := rfl
  have small := days.isLt
  have integer : JsNumber.isSafeInteger (.finite ((days.val : ℕ) : ℚ)) = true := by
    have bound : ((days.val : ℕ) : ℤ).natAbs ≤ 2 ^ 53 - 1 := by omega
    exact decide_eq_true bound
  have number : ((JsNumber.finite ((days.val : ℕ) : ℚ)).toRat?.getD 0).num = days.val := rfl
  rw [read, boundedDays]
  dsimp only
  rw [if_pos integer, dif_pos (by rw [number]; omega)]
  rfl

theorem nullableDays_stored (order : Members → Members) (days : Option Days) (name : JsString) :
    nullableDays (readBack order (nullableDaysValue days)) name = .ok days := by
  cases days with
  | none => rfl
  | some days =>
      have read := boundedDays_stored order days name
      unfold nullableDaysValue
      rw [Option.map_some, Option.getD_some]
      unfold nullableDays
      split
      · rename_i nothing
        cases nothing
      · rw [read]
        rfl

section

variable {order : Members → Members} (rearranges : ∀ members, (order members).Perm members)

include rearranges in
theorem contentAccess_stored (access : ContentAccess) :
    ∃ content, strictObject (readBack order access.toValue) (js "content access policy")
        [js "daysAfterTerminal", js "mode"] = .ok content ∧
      boundedString (Value.member content (js "mode")) (js "contentAccess.mode") 1 64 =
        .ok access.mode ∧
      contentAccessOf access.mode content = .ok access := by
  have apart : (js "daysAfterTerminal" == js "mode") = false := by decide
  have mode : (js "mode" == js "daysAfterTerminal") = false := by decide
  cases access with
  | daysAfterTerminal days =>
      obtain ⟨content, read, each⟩ := strictObject_stored rearranges
        [(js "daysAfterTerminal", daysValue days),
          (js "mode", .string (js "days_after_terminal"))]
        [js "daysAfterTerminal", js "mode"] (js "content access policy")
        (by simp only [List.map_cons, List.map_nil]; decide)
        (by simp only [List.map_cons, List.map_nil]; decide)
      refine ⟨content, read, ?_, ?_⟩
      · rw [each]
        simp only [Value.member, List.lookup_cons, mode, beq_self_eq_true, Option.getD_some]
        rfl
      · rw [contentAccessOf, if_pos (by rfl), each]
        simp only [Value.member, List.lookup_cons, beq_self_eq_true, Option.getD_some]
        rw [boundedDays_stored]
        rfl
  | indefinite =>
      obtain ⟨content, read, each⟩ := strictObject_stored rearranges
        [(js "mode", .string (js "indefinite"))] [js "daysAfterTerminal", js "mode"]
        (js "content access policy") (by decide) (by decide)
      refine ⟨content, read, ?_, ?_⟩
      · rw [each]
        simp only [Value.member, List.lookup_cons, beq_self_eq_true, Option.getD_some]
        rfl
      · have missing : Value.member content (js "daysAfterTerminal") = .undefined := by
          rw [each]
          simp only [Value.member, List.lookup_cons, apart]
          rfl
        rw [contentAccessOf, if_neg (by decide), missing]
        rfl
  | requestExpiration =>
      obtain ⟨content, read, each⟩ := strictObject_stored rearranges
        [(js "mode", .string (js "request_expiration"))] [js "daysAfterTerminal", js "mode"]
        (js "content access policy") (by decide) (by decide)
      refine ⟨content, read, ?_, ?_⟩
      · rw [each]
        simp only [Value.member, List.lookup_cons, beq_self_eq_true, Option.getD_some]
        rfl
      · have missing : Value.member content (js "daysAfterTerminal") = .undefined := by
          rw [each]
          simp only [Value.member, List.lookup_cons, apart]
          rfl
        rw [contentAccessOf, if_neg (by decide), missing]
        rfl

include rearranges in
/-- A stored policy normalizes to itself, whatever order its members are kept in. -/
theorem normalizeRetentionPolicy_stored (policy : RetentionPolicy) :
    normalizeRetentionPolicy (readBack order policy.toValue) = .ok policy := by
  obtain ⟨input, read, each⟩ := strictObject_stored rearranges
    [(js "contentAccess", policy.contentAccess.toValue),
      (js "evidence", .object [(js "archiveAfterDays", nullableDaysValue policy.archiveAfterDays),
        (js "deleteAfterDays", nullableDaysValue policy.deleteAfterDays)]),
      (js "participantHistory", .object [(js "daysAfterTerminal",
        nullableDaysValue policy.historyDaysAfterTerminal)]),
      (js "schema", .string RETENTION_POLICY_SCHEMA)]
    [js "contentAccess", js "evidence", js "participantHistory", js "schema"]
    (js "retention policy") (by simp only [List.map_cons, List.map_nil]; decide)
    (by simp only [List.map_cons, List.map_nil]; decide)
  obtain ⟨history, historyRead, historyEach⟩ := strictObject_stored rearranges
    [(js "daysAfterTerminal", nullableDaysValue policy.historyDaysAfterTerminal)]
    [js "daysAfterTerminal"] (js "participant history policy")
    (by simp only [List.map_cons, List.map_nil]; decide)
    (by simp only [List.map_cons, List.map_nil]; decide)
  obtain ⟨evidence, evidenceRead, evidenceEach⟩ := strictObject_stored rearranges
    [(js "archiveAfterDays", nullableDaysValue policy.archiveAfterDays),
      (js "deleteAfterDays", nullableDaysValue policy.deleteAfterDays)]
    [js "archiveAfterDays", js "deleteAfterDays"] (js "evidence retention policy")
    (by simp only [List.map_cons, List.map_nil]; decide)
    (by simp only [List.map_cons, List.map_nil]; decide)
  obtain ⟨content, contentRead, mode, access⟩ :=
    contentAccess_stored rearranges policy.contentAccess
  have evidenceKey : (js "evidence" == js "contentAccess") = false := by decide
  have historyKey : (js "participantHistory" == js "contentAccess") = false := by decide
  have historyOther : (js "participantHistory" == js "evidence") = false := by decide
  have schemaKey : (js "schema" == js "contentAccess") = false := by decide
  have schemaOther : (js "schema" == js "evidence") = false := by decide
  have schemaThird : (js "schema" == js "participantHistory") = false := by decide
  have deleteKey : (js "deleteAfterDays" == js "archiveAfterDays") = false := by decide
  have schema : supportedSchema (Value.member input (js "schema")) = true := by
    rw [each]
    simp only [Value.member, List.lookup_cons, schemaKey, schemaOther, schemaThird, beq_self_eq_true,
      Option.getD_some]
    rfl
  have contentMember : Value.member input (js "contentAccess") =
      readBack order policy.contentAccess.toValue := by
    rw [each]
    simp only [Value.member, List.lookup_cons, beq_self_eq_true, Option.getD_some]
  have historyMember : Value.member input (js "participantHistory") =
      readBack order (.object [(js "daysAfterTerminal",
        nullableDaysValue policy.historyDaysAfterTerminal)]) := by
    rw [each]
    simp only [Value.member, List.lookup_cons, historyKey, historyOther, beq_self_eq_true,
      Option.getD_some]
  have evidenceMember : Value.member input (js "evidence") = readBack order
      (.object [(js "archiveAfterDays", nullableDaysValue policy.archiveAfterDays),
        (js "deleteAfterDays", nullableDaysValue policy.deleteAfterDays)]) := by
    rw [each]
    simp only [Value.member, List.lookup_cons, evidenceKey, beq_self_eq_true, Option.getD_some]
  have object : normalizeRetentionPolicy (readBack order policy.toValue) =
      normalizePolicyObject (readBack order policy.toValue) := by
    unfold normalizeRetentionPolicy
    split
    · rename_i undefined
      rw [RetentionPolicy.toValue, readBack] at undefined
      cases undefined
    · rfl
  rw [object, normalizePolicyObject, RetentionPolicy.toValue, read]
  simp only [bind, Except.bind, schema, if_true, contentMember, contentRead, mode, access,
    historyMember, historyRead, evidenceMember, evidenceRead, historyEach, evidenceEach]
  simp only [Value.member, List.lookup_cons, deleteKey, beq_self_eq_true, Option.getD_some,
    nullableDays_stored]
  rw [dif_pos policy.inOrder]
  rfl

end

/-- In its own member order a policy reads back as it is. -/
theorem readBack_policy (policy : RetentionPolicy) :
    readBack (fun members => members) policy.toValue = policy.toValue := by
  obtain ⟨access, archive, delete, history, inOrder⟩ := policy
  cases access <;> cases archive <;> cases delete <;> cases history <;> rfl

/-- Normalizing is idempotent. -/
theorem normalizeRetentionPolicy_idem (policy : RetentionPolicy) :
    normalizeRetentionPolicy policy.toValue = .ok policy := by
  have stored := normalizeRetentionPolicy_stored (fun members => .refl members) policy
  rwa [readBack_policy] at stored

theorem representable_days (days : Option Days) : Representable (nullableDaysValue days) := by
  cases days with
  | none => trivial
  | some days =>
      have small := days.isLt
      have bound : ((days.val : ℕ) : ℤ).natAbs ≤ 2 ^ 53 - 1 := by omega
      exact decide_eq_true bound

theorem representable_policy (policy : RetentionPolicy) : Representable policy.toValue := by
  have content : Representable policy.contentAccess.toValue := by
    cases policy.contentAccess with
    | daysAfterTerminal days => exact ⟨.inr (representable_days (some days)), .inr trivial, trivial⟩
    | indefinite => exact ⟨.inr trivial, trivial⟩
    | requestExpiration => exact ⟨.inr trivial, trivial⟩
  exact ⟨.inr content,
    .inr ⟨.inr (representable_days _), .inr (representable_days _), trivial⟩,
    .inr ⟨.inr (representable_days _), trivial⟩, .inr trivial, trivial⟩

/-! ## Deadlines move forward only -/

/-- No deadline is later than it was, and none has appeared or gone. -/
def NoLater : Option Time → Option Time → Prop
  | some left, some right => left ≤ right
  | none, none => True
  | _, _ => False

/-- The deadlines of one record at two moments. -/
structure Deadlines.NoLater (now before : Deadlines) : Prop where
  archiveAt : RetentionDeadlines.NoLater now.archiveAt before.archiveAt
  contentExpiresAt : RetentionDeadlines.NoLater now.contentExpiresAt before.contentExpiresAt
  deleteAt : RetentionDeadlines.NoLater now.deleteAt before.deleteAt
  historyExpiresAt : RetentionDeadlines.NoLater now.historyExpiresAt before.historyExpiresAt
  terminalAt : now.terminalAt ≤ before.terminalAt

/-- Archival comes before deletion. -/
def Deadlines.InOrder (deadlines : Deadlines) : Prop :=
  ∀ archive ∈ deadlines.archiveAt, ∀ delete ∈ deadlines.deleteAt, archive ≤ delete

theorem plusDays_mono {first second : Time} (earlier : first ≤ second) (days : Days) :
    plusDays first days ≤ plusDays second days :=
  Int.add_le_add_right earlier _

theorem le_plusDays (time : Time) (days : Days) : time ≤ plusDays time days :=
  Int.le_add_of_nonneg_right (by positivity)

theorem noLater_map {first second : Time} (earlier : first ≤ second) (days : Option Days) :
    NoLater (days.map (plusDays first)) (days.map (plusDays second)) := by
  cases days with
  | none => trivial
  | some days => exact plusDays_mono earlier days

theorem calculate_noLater (policy : RetentionPolicy) {expiresAt completedAt : Date}
    (earlier : completedAt.val ≤ expiresAt.val) :
    (calculateRetentionDeadlines policy expiresAt (some completedAt)).NoLater
      (calculateRetentionDeadlines policy expiresAt none) where
  archiveAt := noLater_map earlier _
  contentExpiresAt := by
    unfold calculateRetentionDeadlines
    cases policy.contentAccess with
    | daysAfterTerminal days => exact plusDays_mono earlier days
    | indefinite => trivial
    | requestExpiration => exact le_refl expiresAt.val
  deleteAt := noLater_map earlier _
  historyExpiresAt := noLater_map earlier _
  terminalAt := earlier

theorem calculate_inOrder (policy : RetentionPolicy) (expiresAt : Date)
    (terminalAt : Option Date) :
    (calculateRetentionDeadlines policy expiresAt terminalAt).InOrder := by
  intro archive archived delete deleted
  obtain ⟨archiveDays, archivePeriod, rfl⟩ := Option.map_eq_some_iff.mp archived
  obtain ⟨deleteDays, deletePeriod, rfl⟩ := Option.map_eq_some_iff.mp deleted
  have period : archiveDays.val ≤ deleteDays.val :=
    policy.inOrder archiveDays archivePeriod deleteDays deletePeriod
  exact Int.add_le_add_left (by omega) _

/-- A time between a valid Date and a valid time is valid. -/
theorem validTime_between {low time high : Time} (lowValid : validTime low = true)
    (highValid : validTime high = true) (above : low ≤ time) (below : time ≤ high) :
    validTime time = true := by
  simp only [validTime, Bool.decide_and, Bool.and_eq_true, decide_eq_true_eq] at *
  exact ⟨lowValid.1.trans above, below.trans highValid.2⟩

theorem valid_map {first second : Date} (earlier : first.val ≤ second.val) (days : Option Days)
    (valid : (days.map (plusDays second.val)).all validTime = true) :
    (days.map (plusDays first.val)).all validTime = true := by
  cases days with
  | none => rfl
  | some days =>
      exact validTime_between first.property valid (le_plusDays _ _) (plusDays_mono earlier days)

/-- Deadlines from an earlier moment are valid with those from a later one. -/
theorem calculate_valid (policy : RetentionPolicy) {expiresAt completedAt : Date}
    (earlier : completedAt.val ≤ expiresAt.val)
    (valid : (calculateRetentionDeadlines policy expiresAt none).valid = true) :
    (calculateRetentionDeadlines policy expiresAt (some completedAt)).valid = true := by
  simp only [Deadlines.valid, Bool.and_eq_true] at valid ⊢
  obtain ⟨⟨⟨⟨archive, content⟩, delete⟩, history⟩, -⟩ := valid
  refine ⟨⟨⟨⟨valid_map earlier _ archive, ?_⟩, valid_map earlier _ delete⟩,
    valid_map earlier _ history⟩, completedAt.property⟩
  unfold calculateRetentionDeadlines at content ⊢
  cases access : policy.contentAccess with
  | daysAfterTerminal days =>
      rw [access] at content
      exact valid_map earlier (some days) content
  | indefinite => rfl
  | requestExpiration => exact expiresAt.property

section

variable {database : Database}

/-- A record of a policy whose content deadline gives the expiry back where it matters. -/
structure Holds (database : Database) (policy : RetentionPolicy) (expiresAt : Date)
    (row : LifecycleRow) : Prop where
  snapshot : row.policySnapshot = readBack database.order policy.toValue
  hash : hashCanonicalJSON database.sha256Hex policy.toValue = .ok row.policyHash
  bound : (calculateRetentionDeadlines policy expiresAt none).valid = true
  content : row.deadlines.contentExpiresAt = match policy.contentAccess with
    | .indefinite => none
    | .requestExpiration => some expiresAt.val
    | .daysAfterTerminal days => some (plusDays row.deadlines.terminalAt days)

/-- The deadlines do not depend on an expiry that the anchor cannot recover. -/
theorem calculate_recovered (policy : RetentionPolicy) {expiresAt recovered : Date}
    (completedAt : Date) (same : policy.contentAccess = .requestExpiration → recovered = expiresAt) :
    calculateRetentionDeadlines policy recovered (some completedAt) =
      calculateRetentionDeadlines policy expiresAt (some completedAt) := by
  unfold calculateRetentionDeadlines
  cases access : policy.contentAccess with
  | requestExpiration => rw [same access]
  | _ => rfl

/-- An anchor stores the deadlines of the expiry and of its own moment. -/
theorem Holds.anchor {policy : RetentionPolicy} {expiresAt completedAt : Date}
    {row : LifecycleRow} (holds : Holds database policy expiresAt row)
    (earlier : completedAt.val ≤ expiresAt.val) :
    ∃ next, anchorRecordLifecycle row completedAt = .ok next ∧
      Holds database policy expiresAt next ∧
      next.deadlines = calculateRetentionDeadlines policy expiresAt (some completedAt) := by
  have normalized := normalizeRetentionPolicy_stored database.rearranges policy
  rw [← holds.snapshot] at normalized
  have stored : validTime (row.deadlines.contentExpiresAt.getD completedAt.val) = true := by
    have valid := row.valid
    simp only [Deadlines.valid, Bool.and_eq_true] at valid
    cases content : row.deadlines.contentExpiresAt with
    | none => exact completedAt.property
    | some time =>
        have own := valid.1.1.1.2
        rw [content] at own
        exact own
  have recovered : validDate (row.deadlines.contentExpiresAt.getD completedAt.val)
      (js "expiresAt") = .ok ⟨_, stored⟩ := by
    rw [validDate, dif_pos stored]
  have same : policy.contentAccess = .requestExpiration →
      (⟨_, stored⟩ : Date) = expiresAt := by
    intro access
    have content := holds.content
    rw [access] at content
    refine Subtype.ext ?_
    simp only [content, Option.getD_some]
  have deadlines := calculate_recovered policy completedAt same
  have valid := calculate_valid policy earlier holds.bound
  rw [← deadlines] at valid
  obtain ⟨next, anchored, snapshot, hash, exact⟩ : ∃ next,
      anchorRecordLifecycle row completedAt = .ok next ∧
        next.policySnapshot = row.policySnapshot ∧ next.policyHash = row.policyHash ∧
        next.deadlines =
          calculateRetentionDeadlines policy ⟨_, stored⟩ (some completedAt) := by
    rw [anchorRecordLifecycle, normalized, recovered]
    simp only [codeOf, Except.mapError, bind, Except.bind]
    rw [dif_pos valid]
    exact ⟨_, rfl, rfl, rfl, rfl⟩
  rw [deadlines] at exact
  refine ⟨next, anchored, ⟨snapshot.trans holds.snapshot, hash ▸ holds.hash, holds.bound, ?_⟩, exact⟩
  rw [exact]
  rfl

/-- After anchors at times not after the expiry the record stores the deadlines of the
expiry and of the last of them. -/
theorem Holds.anchors {policy : RetentionPolicy} {expiresAt : Date} (anchors : List Date)
    (earlier : ∀ completedAt ∈ anchors, completedAt.val ≤ expiresAt.val) {row : LifecycleRow}
    (holds : Holds database policy expiresAt row) :
    ∃ last, anchorAll row anchors = .ok last ∧ Holds database policy expiresAt last ∧
      (∀ completedAt ∈ anchors.getLast?, last.deadlines =
        calculateRetentionDeadlines policy expiresAt (some completedAt)) := by
  induction anchors generalizing row with
  | nil => exact ⟨row, rfl, holds, by simp⟩
  | cons completedAt rest inductionHypothesis =>
      rw [List.forall_mem_cons] at earlier
      obtain ⟨next, anchored, kept, deadlines⟩ := holds.anchor earlier.1
      obtain ⟨last, run, final, exact⟩ := inductionHypothesis earlier.2 kept
      refine ⟨last, ?_, final, ?_⟩
      · rw [anchorAll, anchored]
        exact run
      · cases rest with
        | nil =>
            have same : last = next := (Except.ok.inj run).symm
            rw [same]
            intro own member
            rw [List.getLast?_singleton, Option.mem_some_iff] at member
            rw [← member]
            exact deadlines
        | cons other others =>
            rw [List.getLast?_cons_cons]
            exact exact

/-- The hash of a policy is that of its normal form. -/
theorem retentionPolicyHash_policy (policy : RetentionPolicy) :
    retentionPolicyHash database policy.toValue =
      hashCanonicalJSON database.sha256Hex policy.toValue := by
  rw [retentionPolicyHash, normalizeRetentionPolicy_idem]
  rfl

theorem Holds.reverifies {policy : RetentionPolicy} {expiresAt : Date} {row : LifecycleRow}
    (holds : Holds database policy expiresAt row) :
    retentionPolicyHash database row.policySnapshot = .ok row.policyHash := by
  rw [retentionPolicyHash, holds.snapshot,
    normalizeRetentionPolicy_stored database.rearranges policy]
  exact holds.hash

/-- A resolved policy comes with its hash. -/
theorem resolveRetentionPolicy_hash {active : Option PolicyRevision} {profileName : JsString}
    {resolved : ResolvedPolicy}
    (found : resolveRetentionPolicy database active profileName = .ok resolved) :
    hashCanonicalJSON database.sha256Hex resolved.policy.toValue = .ok resolved.policyHash := by
  unfold resolveRetentionPolicy at found
  split at found
  · split at found
    · cases found
    · obtain ⟨hash, hashed, found⟩ := bind_ok found
      obtain rfl := Except.ok.inj found
      exact (retentionPolicyHash_policy SYSTEM_RETENTION_POLICY).symm.trans hashed
  · obtain ⟨policy, -, found⟩ := bind_ok found
    obtain ⟨hash, hashed, found⟩ := bind_ok found
    split at found
    · cases found
    · rename_i same
      obtain rfl := Except.ok.inj found
      rw [retentionPolicyHash_policy] at hashed
      rw [hashed, not_not.mp same]

/-- A record is bound when its deadlines are valid times. -/
theorem bindRecordLifecycle_ok {active : Option PolicyRevision} {profileName : JsString}
    {resolved : ResolvedPolicy} (expiresAt : Date) (now : Time)
    (found : resolveRetentionPolicy database active profileName = .ok resolved)
    (valid : (calculateRetentionDeadlines resolved.policy expiresAt none).valid = true) :
    ∃ row, bindRecordLifecycle database active profileName expiresAt now = .ok row ∧
      row.deadlines = calculateRetentionDeadlines resolved.policy expiresAt none ∧
      Holds database resolved.policy expiresAt row := by
  obtain ⟨row, bound, snapshot, hash, exact⟩ : ∃ row,
      bindRecordLifecycle database active profileName expiresAt now = .ok row ∧
        row.policySnapshot = readBack database.order resolved.policy.toValue ∧
        row.policyHash = resolved.policyHash ∧
        row.deadlines = calculateRetentionDeadlines resolved.policy expiresAt none := by
    rw [bindRecordLifecycle, found]
    simp only [bind, Except.bind]
    rw [dif_pos valid]
    exact ⟨_, rfl, rfl, rfl, rfl⟩
  refine ⟨row, bound, exact, snapshot, ?_, valid, ?_⟩
  · rw [hash]
    exact resolveRetentionPolicy_hash found
  · rw [exact]
    rfl

theorem bindRecordLifecycle_valid {active : Option PolicyRevision} {profileName : JsString}
    {resolved : ResolvedPolicy} {expiresAt : Date} {now : Time} {row : LifecycleRow}
    (found : resolveRetentionPolicy database active profileName = .ok resolved)
    (bound : bindRecordLifecycle database active profileName expiresAt now = .ok row) :
    (calculateRetentionDeadlines resolved.policy expiresAt none).valid = true := by
  rw [bindRecordLifecycle, found] at bound
  simp only [bind, Except.bind] at bound
  split at bound
  · assumption
  · cases bound

theorem codeOf_ok {α : Type} {checked : Checked α} {value : α} :
    codeOf checked = .ok value ↔ checked = .ok value := by
  cases checked <;> simp [codeOf, Except.mapError]

/-- A saved policy resolves to its normal form under its hash. -/
theorem savedRevision_resolves {id : JsString} {value : Value} {revision : ℕ}
    {saved : PolicyRevision} (kept : savedRevision database id value revision = .ok saved)
    (profileName : JsString) : ∃ policy, normalizeRetentionPolicy value = .ok policy ∧
      resolveRetentionPolicy database (some saved) profileName =
        .ok ⟨some id, policy, saved.policyHash, revision⟩ := by
  obtain ⟨policy, normalized, kept⟩ := bind_ok kept
  obtain ⟨hash, hashed, kept⟩ := bind_ok kept
  obtain rfl := Except.ok.inj kept
  refine ⟨policy, codeOf_ok.mp normalized, ?_⟩
  have stored := codeOf_ok.mpr (normalizeRetentionPolicy_stored database.rearranges policy)
  rw [resolveRetentionPolicy]
  simp only [stored, bind, Except.bind, hashed, ne_eq, not_true_eq_false, if_false]
  rfl

/-- Every accepted policy can be saved. -/
theorem savedRevision_ok (database : Database) (id : JsString) {value : Value} (revision : ℕ)
    {policy : RetentionPolicy} (normalized : normalizeRetentionPolicy value = .ok policy) :
    ∃ saved, savedRevision database id value revision = .ok saved := by
  obtain ⟨hash, hashed⟩ := (hashCanonicalJSON_succeeds database.sha256Hex policy.toValue).mpr
    (representable_policy policy)
  rw [← retentionPolicyHash_policy] at hashed
  rw [savedRevision, codeOf_ok.mpr normalized]
  simp only [bind, Except.bind, hashed]
  exact ⟨_, rfl⟩

end

/-- What is promised of retention: accepted policies are stable and verify, and a bound
record that is anchored at times not after its expiry stores what the expiry and the
last of these times give. -/
structure RetentionLaws (database : Database) : Prop where
  idempotent : ∀ value policy, normalizeRetentionPolicy value = .ok policy →
    normalizeRetentionPolicy policy.toValue = .ok policy
  verifies : ∀ id value revision policy, normalizeRetentionPolicy value = .ok policy →
    ∃ saved, savedRevision database id value revision = .ok saved ∧ ∀ profileName,
      resolveRetentionPolicy database (some saved) profileName =
        .ok ⟨some id, policy, saved.policyHash, revision⟩
  binds : ∀ active profileName resolved expiresAt now,
    resolveRetentionPolicy database active profileName = .ok resolved →
      ((∃ row, bindRecordLifecycle database active profileName expiresAt now = .ok row) ↔
        (calculateRetentionDeadlines resolved.policy expiresAt none).valid = true)
  bound : ∀ active profileName resolved expiresAt now row,
    resolveRetentionPolicy database active profileName = .ok resolved →
    bindRecordLifecycle database active profileName expiresAt now = .ok row →
      row.deadlines = calculateRetentionDeadlines resolved.policy expiresAt none ∧
        row.deadlines.InOrder ∧
        retentionPolicyHash database row.policySnapshot = .ok row.policyHash
  anchored : ∀ active profileName resolved expiresAt now row anchors last,
    resolveRetentionPolicy database active profileName = .ok resolved →
    bindRecordLifecycle database active profileName expiresAt now = .ok row →
    anchors.getLast? = some last → (∀ anchor ∈ anchors, anchor.val ≤ expiresAt.val) →
      ∃ final, anchorAll row anchors = .ok final ∧
        final.deadlines =
          calculateRetentionDeadlines resolved.policy expiresAt (some last) ∧
        final.deadlines.NoLater row.deadlines ∧ final.deadlines.InOrder ∧
        retentionPolicyHash database final.policySnapshot = .ok final.policyHash

theorem retention_laws (database : Database) : RetentionLaws database where
  idempotent := fun _ policy _ => normalizeRetentionPolicy_idem policy
  verifies := by
    intro id value revision policy normalized
    obtain ⟨saved, kept⟩ := savedRevision_ok database id revision normalized
    refine ⟨saved, kept, fun profileName => ?_⟩
    obtain ⟨own, same, resolved⟩ := savedRevision_resolves kept profileName
    rw [normalized] at same
    rw [Except.ok.inj same]
    exact resolved
  binds := by
    intro active profileName resolved expiresAt now found
    constructor
    · rintro ⟨row, bound⟩
      exact bindRecordLifecycle_valid found bound
    · intro valid
      obtain ⟨row, bound, -⟩ := bindRecordLifecycle_ok expiresAt now found valid
      exact ⟨row, bound⟩
  bound := by
    intro active profileName resolved expiresAt now row found bound
    obtain ⟨own, same, exact, holds⟩ := bindRecordLifecycle_ok expiresAt now found
      (bindRecordLifecycle_valid found bound)
    obtain rfl : row = own := Except.ok.inj (bound.symm.trans same)
    exact ⟨exact, by rw [exact]; exact calculate_inOrder _ _ _, holds.reverifies⟩
  anchored := by
    intro active profileName resolved expiresAt now row anchors last found bound final earlier
    obtain ⟨own, same, exact, holds⟩ := bindRecordLifecycle_ok expiresAt now found
      (bindRecordLifecycle_valid found bound)
    obtain rfl : row = own := Except.ok.inj (bound.symm.trans same)
    obtain ⟨after, run, kept, deadlines⟩ := holds.anchors anchors earlier
    have stored := deadlines last (by rw [final]; rfl)
    have member := List.mem_of_getLast? final
    refine ⟨after, run, stored, ?_, ?_, kept.reverifies⟩
    · rw [stored, exact]
      exact calculate_noLater _ (earlier last member)
    · rw [stored]
      exact calculate_inOrder _ _ _

end Vasi.RetentionDeadlines
