import Vasi.StoredConfiguration
import Vasi.TenantRules

/-!
# Growth within the quotas of a tenant

An operation that checks a quota locks the profile pointer of the tenant before
it counts and holds it until it commits, so the use cannot grow in between
through another operation that checks. What grows without the check is the
member count: provisioning a tenant counts nothing, and neither does a change of
a member or a claim whose e-mail counted when it was read and no longer does at
the commit. Under the condition that these do not happen, every commit that
raises the use of a resource leaves it within the quota then in force.
-/
namespace Vasi.TenantQuotas

open JsValue IsoTime ReadCommitted TenantStore
open EngineRows (Uuid Status)

/-- PostgreSQL's lower, which leaves what JavaScript's toLowerCase gave as it is. -/
structure EmailPlatform where
  lower : JsString → JsString
  toLowerCase : JsString → JsString
  lower_toLowerCase : ∀ text, lower (toLowerCase text) = toLowerCase text

/-- validateMembershipInput lower-cases the e-mail. -/
def validMembership (platform : EmailPlatform) (input : MembershipInput) : MembershipInput :=
  { input with email := platform.toLowerCase input.email }

/-- The operations that change what a tenant uses or its quotas. -/
inductive Operation where
  | provisionTenant (actor : Actor) (input : ProvisionInput)
  | setMember (actor : Actor) (input : MembershipInput)
  | listTenants (actor : Actor)
  | createWorkflow (actor : Actor) (tenantId : Uuid)
  | issueRequest (actor : Actor) (tenantId : Uuid) (scheduled : Bool)
  | reissue (actor : Actor) (tenantId requestId : Uuid) (scheduled : Bool)
  | moveRequest (requestId : Uuid) (status : Status)
  | createArtifact (actor : Actor) (tenantId : Uuid) (expectedByteLength : ℕ)
  | updateIntegration (actor : Actor) (tenantId : Uuid) (capability : Capability)
      (status : ActiveStatus) (expectedRevision : ℕ)
  | updateTenantProfile (actor : Actor) (tenantId : Uuid) (quotas : Quotas)
      (expectedRevision : ℕ)

def program (platform : EmailPlatform) : Operation → Program Outcome
  | .provisionTenant actor input => provisionTenant platform.toLowerCase actor input
  | .setMember actor input => setMember platform.lower actor (validMembership platform input)
  | .listTenants actor => listTenants platform.lower actor
  | .createWorkflow actor tenantId => createWorkflow platform.lower actor tenantId
  | .issueRequest actor tenantId scheduled => issueRequest platform.lower actor tenantId scheduled
  | .reissue actor tenantId requestId scheduled =>
      reissue platform.lower actor tenantId requestId scheduled
  | .moveRequest requestId status => moveRequest requestId status
  | .createArtifact actor tenantId expectedByteLength =>
      createArtifact platform.lower actor tenantId expectedByteLength
  | .updateIntegration actor tenantId capability status expectedRevision =>
      updateIntegration platform.lower actor tenantId capability status expectedRevision
  | .updateTenantProfile actor tenantId quotas expectedRevision =>
      updateTenantProfile actor tenantId quotas expectedRevision

def start (platform : EmailPlatform) (operation : Operation) : Script Row Outside Point Outcome :=
  (program platform operation).script

abbrev TenantState := State Row Outside Point Outcome

/-- In every run from an installation without tenants, a step after which a tenant
uses more of a resource leaves the use within the quota of the active profile. -/
def GrowthWithinQuota (platform : EmailPlatform) (guard : TenantGuard) : Prop :=
  ∀ before after tenantId resource,
    Runs (start platform) guard (State.idle Row Outside Point Outcome ∅) before →
    Step (start platform) guard before after →
    tenantUsage platform.lower before.store tenantId resource <
      tenantUsage platform.lower after.store tenantId resource →
    ∃ profile, profileAt after.store tenantId = some profile ∧
      tenantUsage platform.lower after.store tenantId resource ≤ profile.quotas.limit resource

/-! ## What rows add to the use -/

/-- The tenant of a row. -/
def rowTenant : Sigma Row → Uuid
  | ⟨.profile tenantId, _⟩ | ⟨.membership tenantId _, _⟩ | ⟨.grant tenantId _, _⟩
  | ⟨.integration tenantId _, _⟩ => tenantId
  | ⟨.workflow _, row⟩ => row.tenantId
  | ⟨.request _, row⟩ => row.tenantId
  | ⟨.artifact _, row⟩ => row.tenantId

/-- The row adds to the use of a resource. -/
def Adds (lower : JsString → JsString) (tenantId : Uuid) : Resource → Sigma Row → Prop
  | .members, row => (memberIdentity lower tenantId row).isSome
  | resource, row => resourceWeight tenantId resource row ≠ 0

/-- A row weighs nothing for another tenant. -/
theorem resourceWeight_other {tenantId : Uuid} {resource : Resource} {row : Sigma Row}
    (other : rowTenant row ≠ tenantId) : resourceWeight tenantId resource row = 0 := by
  obtain ⟨key, row⟩ := row
  cases resource <;> cases key <;> simp_all [rowTenant, resourceWeight]

/-- A row counts among the members of its own tenant only. -/
theorem memberIdentity_other {lower : JsString → JsString} {tenantId : Uuid} {row : Sigma Row}
    (other : rowTenant row ≠ tenantId) : memberIdentity lower tenantId row = none := by
  obtain ⟨key, row⟩ := row
  cases key <;> simp_all [rowTenant, memberIdentity]

theorem Adds.tenant {lower : JsString → JsString} {tenantId : Uuid} {resource : Resource}
    {row : Sigma Row} (adds : Adds lower tenantId resource row) : rowTenant row = tenantId := by
  by_contra other
  cases resource with
  | members => simp [Adds, memberIdentity_other other] at adds
  | activeRequests | artifactBytes | integrations | workflows =>
      exact adds (resourceWeight_other other)

variable {lower : JsString → JsString} {store : TenantRows} {changes : TenantChanges}
  {tenantId : Uuid} {resource : Resource}

/-- Changes that leave no row that adds to the use do not raise it. -/
theorem usage_le (silent : ∀ key change row, changes.lookup key = some change →
      change.image = some row → ¬ Adds lower tenantId resource ⟨key, row⟩) :
    tenantUsage lower (applyChanges store changes) tenantId resource ≤
      tenantUsage lower store tenantId resource := by
  cases resource with
  | members =>
      apply distinctLabels_le
      intro value member
      rcases labels_applyChanges member with ⟨key, change, row, changed, image, carried⟩ | there
      · exact absurd (Option.isSome_of_eq_some carried) (silent key change row changed image)
      · exact there
  | activeRequests | artifactBytes | integrations | workflows =>
      apply total_le
      intro key change row changed image
      simpa [Adds] using silent key change row changed image

/-- A tenant without rows uses nothing. -/
theorem usage_empty (absent : ∀ key row, store.lookup key = some row →
      rowTenant ⟨key, row⟩ ≠ tenantId) : tenantUsage lower store tenantId resource = 0 := by
  cases resource with
  | members =>
      have none : labels (memberIdentity lower tenantId) store = [] := by
        apply List.eq_nil_iff_forall_not_mem.mpr
        intro value member
        obtain ⟨key, row, found, carried⟩ := mem_labels.mp member
        rw [memberIdentity_other (absent key row found)] at carried
        cases carried
      change (labels (memberIdentity lower tenantId) store).dedup.length = 0
      rw [none]
      rfl
  | activeRequests | artifactBytes | integrations | workflows =>
      apply List.sum_eq_zero
      intro value member
      obtain ⟨⟨key, row⟩, there, rfl⟩ := List.mem_map.mp member
      exact resourceWeight_other (absent key row (AList.mem_lookup_iff.mpr there))

/-! ## The contract -/

/-- Every row belongs to a tenant with a profile. -/
def Housed (store : TenantRows) : Prop :=
  ∀ key row, store.lookup key = some row → (profileAt store (rowTenant ⟨key, row⟩)).isSome

/-- What a commit does: rows keep to tenants with a profile, and a use that rises
stays within the quota of a profile that the transaction has locked or brought. -/
structure QuotaEffect (lower : JsString → JsString) (known : List (Sigma Row))
    (before after : TenantRows) : Prop where
  housed : Housed after
  profiles : ∀ tenantId, (profileAt before tenantId).isSome → (profileAt after tenantId).isSome
  growth : ∀ tenantId resource,
    tenantUsage lower after tenantId resource ≤ tenantUsage lower before tenantId resource ∨
    ∃ profile, profileAt after tenantId = some profile ∧
      tenantUsage lower after tenantId resource ≤ profile.quotas.limit resource ∧
      ((∃ row, (⟨.profile tenantId, row⟩ : Sigma Row) ∈ known) ∨ profileAt before tenantId = none)

/-- Profiles stay, and the use of a tenant whose profile is held does not rise. -/
structure QuotaMoves (lower : JsString → JsString) (held : Key → Prop)
    (first second : TenantRows) : Prop where
  profiles : ∀ tenantId, (profileAt first tenantId).isSome → (profileAt second tenantId).isSome
  usage : ∀ tenantId, held (.profile tenantId) → (profileAt first tenantId).isSome →
    ∀ resource, tenantUsage lower second tenantId resource ≤
      tenantUsage lower first tenantId resource

def quotaContract (lower : JsString → JsString) (guard : TenantGuard) :
    Contract Row Outside Point Outcome where
  guard := guard
  invariant := Housed
  moves := QuotaMoves lower
  effect := fun _ => QuotaEffect lower
  promise := fun _ _ _ _ _ => True
  moves_refl := fun _ _ => ⟨fun _ there => there, fun _ _ _ _ => le_rfl⟩
  moves_trans := fun _ _ _ _ left right =>
    ⟨fun tenantId there => right.profiles tenantId (left.profiles tenantId there),
      fun tenantId mine there resource =>
        (right.usage tenantId mine (left.profiles tenantId there) resource).trans
          (left.usage tenantId mine there resource)⟩
  moves_anti := fun _ _ _ _ fewer moves =>
    ⟨moves.profiles, fun tenantId mine => moves.usage tenantId (fewer _ mine)⟩

/-- The effects keep rows with their tenants and are moves. -/
theorem quotaContract_keeps {guard : TenantGuard} {point : Point} {known : List (Sigma Row)}
    {before after : TenantRows}
    (commits : (quotaContract lower guard).Commits point known before after) :
    Housed after ∧ ∀ held : Key → Prop, (∀ row ∈ known, ¬ held row.1) →
      QuotaMoves lower held before after := by
  have effect : QuotaEffect lower known before after := commits.effect
  refine ⟨effect.housed, fun held apart => ⟨effect.profiles, ?_⟩⟩
  intro tenantId mine there resource
  rcases effect.growth tenantId resource with same | ⟨profile, _, _, ⟨row, locked⟩ | fresh⟩
  · exact same
  · exact absurd mine (apart _ locked)
  · rw [fresh] at there
    cases there

/-! ## Rules -/

section

variable {guard : TenantGuard} {knowledge : Knowledge Row} {α : Type}

/-- The tenant has a profile, now and after later statements. -/
def Sheltered (lower : JsString → JsString) (guard : TenantGuard) (knowledge : Knowledge Row)
    (tenantId : Uuid) : Prop :=
  ∀ store, knowledge.Allows (quotaContract lower guard) store →
    (profileAt store tenantId).isSome

theorem Sheltered.later {later : Knowledge Row}
    (sheltered : Sheltered lower guard knowledge tenantId)
    (moreKnown : knowledge.Later later (quotaContract lower guard)) :
    Sheltered lower guard later tenantId :=
  fun store allowed => sheltered store (moreKnown.allows allowed)

/-- The locked profile of a tenant leaves room for an increment. -/
def HasRoom (lower : JsString → JsString) (guard : TenantGuard) (knowledge : Knowledge Row)
    (tenantId : Uuid) (resource : Resource) (increment : ℕ) : Prop :=
  ∀ store, knowledge.Allows (quotaContract lower guard) store →
    ∃ profile, profileAt store tenantId = some profile ∧
      (⟨.profile tenantId, profile⟩ : Sigma Row) ∈ knowledge.known ∧
      tenantUsage lower store tenantId resource + increment ≤ profile.quotas.limit resource

theorem HasRoom.later {increment : ℕ} {later : Knowledge Row}
    (room : HasRoom lower guard knowledge tenantId resource increment)
    (moreKnown : knowledge.Later later (quotaContract lower guard)) :
    HasRoom lower guard later tenantId resource increment := by
  intro store allowed
  obtain ⟨profile, found, known, enough⟩ := room store (moreKnown.allows allowed)
  exact ⟨profile, found, moreKnown.known known, enough⟩

theorem HasRoom.sheltered {increment : ℕ}
    (room : HasRoom lower guard knowledge tenantId resource increment) :
    Sheltered lower guard knowledge tenantId := by
  intro store allowed
  obtain ⟨profile, found, _⟩ := room store allowed
  exact Option.isSome_of_eq_some found

theorem quotaContract_unpromising : Unpromising (quotaContract lower guard) :=
  ⟨fun _ _ _ _ _ => trivial⟩

/-- A tenant with a member has a profile. -/
theorem sheltered_member {store : TenantRows} {principalId : JsString} {row : Membership}
    (allowed : knowledge.Allows (quotaContract lower guard) store)
    (found : membershipAt store tenantId principalId = some row) :
    Sheltered lower guard (knowledge.after store []) tenantId := by
  intro last allowedLast
  have housed := allowed.kept (.membership tenantId principalId) row found
  exact allowedLast.moved.profiles tenantId housed

/-- What a count under the lock of the profile leaves room for stays free. -/
theorem hasRoom_counted {increment : ℕ} {profile : ProfilePointer} {store : TenantRows}
    (allowed : knowledge.Allows (quotaContract lower guard) store)
    (known : (⟨.profile tenantId, profile⟩ : Sigma Row) ∈ knowledge.known)
    (mine : Key.profile tenantId ∈ knowledge.mine)
    (counted : tenantUsage lower (applyChanges store ∅) tenantId resource + increment ≤
      profile.quotas.limit resource) :
    HasRoom lower guard (knowledge.after store []) tenantId resource increment := by
  intro last allowedLast
  have current : profileAt store tenantId = some profile := allowed.current _ known
  have kept : profileAt last tenantId = some profile := allowedLast.current _ known
  have usage := allowedLast.moved.usage tenantId mine (Option.isSome_of_eq_some current) resource
  exact ⟨profile, kept, known, (Nat.add_le_add_right usage increment).trans counted⟩

/-! ## Commits -/

/-- The changes of a transaction whose rows belong to tenants with a profile have
the effect as soon as what they raise stays within the quota. -/
theorem quotaEffect_of {changes : TenantChanges} {known : List (Sigma Row)} (housed : Housed store)
    (profiles : ∀ tenantId change, changes.lookup (Key.profile tenantId) = some change →
      change.image.isSome)
    (staged : ∀ key change row, changes.lookup key = some change → change.image = some row →
      (profileAt (applyChanges store changes) (rowTenant ⟨key, row⟩)).isSome)
    (growth : ∀ tenantId resource,
      tenantUsage lower (applyChanges store changes) tenantId resource ≤
        tenantUsage lower store tenantId resource ∨
      ∃ profile, profileAt (applyChanges store changes) tenantId = some profile ∧
        tenantUsage lower (applyChanges store changes) tenantId resource ≤
          profile.quotas.limit resource ∧
        ((∃ row, (⟨.profile tenantId, row⟩ : Sigma Row) ∈ known) ∨
          profileAt store tenantId = none)) :
    QuotaEffect lower known store (applyChanges store changes) := by
  have kept : ∀ tenantId, (profileAt store tenantId).isSome →
      (profileAt (applyChanges store changes) tenantId).isSome := by
    intro tenantId there
    rw [profileAt, lookup_applyChanges]
    cases changed : changes.lookup (Key.profile tenantId) with
    | none => exact there
    | some change => exact profiles tenantId change changed
  refine ⟨?_, kept, growth⟩
  intro key row found
  have after := found
  rw [lookup_applyChanges] at found
  cases changed : changes.lookup key with
  | none =>
      rw [changed] at found
      exact kept _ (housed key row found)
  | some change =>
      rw [changed] at found
      exact staged key change row changed found

/-- A profile that a transaction does not change is there after it. -/
theorem profileAt_kept (untouched : changes.lookup (Key.profile tenantId) = none) :
    profileAt (applyChanges store changes) tenantId = profileAt store tenantId := by
  rw [profileAt, lookup_applyChanges, untouched]
  rfl

/-- One change that leaves a row of a sheltered tenant has the effect as soon as the
use it adds to stays within the quota. -/
theorem pending_single {key : Key} {change : Change (Row key)} {row : Row key}
    (image : change.image = some row) (notProfile : ∀ tenant, key ≠ .profile tenant)
    (sheltered : Sheltered lower guard knowledge (rowTenant ⟨key, row⟩))
    (growth : ∀ store, knowledge.Allows (quotaContract lower guard) store → ∀ resource,
      Adds lower (rowTenant ⟨key, row⟩) resource ⟨key, row⟩ →
      tenantUsage lower (applyChanges store (AList.insert key change (∅ : TenantChanges)))
          (rowTenant ⟨key, row⟩) resource ≤
        tenantUsage lower store (rowTenant ⟨key, row⟩) resource ∨
      ∃ profile, profileAt store (rowTenant ⟨key, row⟩) = some profile ∧
        tenantUsage lower (applyChanges store (AList.insert key change (∅ : TenantChanges)))
          (rowTenant ⟨key, row⟩) resource ≤ profile.quotas.limit resource ∧
        (⟨.profile (rowTenant ⟨key, row⟩), profile⟩ : Sigma Row) ∈ knowledge.known) :
    (quotaContract lower guard).Pending knowledge (AList.insert key change (∅ : TenantChanges))
      (QuotaEffect lower knowledge.known) := by
  intro store allowed _
  have single : ∀ found other left,
      AList.lookup found (AList.insert key change (∅ : TenantChanges)) = some other →
      other.image = some left → (⟨found, left⟩ : Sigma Row) = ⟨key, row⟩ := by
    intro found other left changed result
    cases lookup_single changed
    rw [Option.some.inj (image.symm.trans result)]
  have untouched : ∀ tenant, AList.lookup (Key.profile tenant)
      (AList.insert key change (∅ : TenantChanges)) = none :=
    fun tenant => AList.lookup_insert_ne (Ne.symm (notProfile tenant))
  apply quotaEffect_of allowed.kept
  · intro tenant other changed
    rw [untouched] at changed
    cases changed
  · intro found other left changed result
    rw [single found other left changed result, profileAt_kept (untouched _)]
    exact sheltered store allowed
  · intro tenant resource
    by_cases adds : Adds lower tenant resource ⟨key, row⟩
    · obtain rfl := adds.tenant
      rcases growth store allowed resource adds with same | ⟨profile, found, within, known⟩
      · exact .inl same
      · exact .inr ⟨profile, (profileAt_kept (untouched _)).trans found, within, .inl ⟨_, known⟩⟩
    · left
      apply usage_le
      intro found other left changed result
      rwa [single found other left changed result]

/-- The use after one change, of a resource that is summed up. -/
theorem usage_single (lower : JsString → JsString) (tenantId : Uuid)
    (summed : resource ≠ .members) (store : TenantRows) (key : Key) (change : Change (Row key)) :
    tenantUsage lower (applyChanges store (AList.insert key change (∅ : TenantChanges))) tenantId
        resource + weightAt (resourceWeight tenantId resource) store key =
      tenantUsage lower store tenantId resource +
        weightAfter (resourceWeight tenantId resource) ⟨key, change⟩ := by
  cases resource with
  | members => exact absurd rfl summed
  | activeRequests | artifactBytes | integrations | workflows => exact total_single _ store key change

/-- Inserting the one row that uses a resource, within the room that was counted. -/
theorem pending_insertRow {key : Key} {row : Row key} {increment : ℕ}
    (summed : resource ≠ .members) (notProfile : ∀ tenant, key ≠ .profile tenant)
    (room : HasRoom lower guard knowledge (rowTenant ⟨key, row⟩) resource increment)
    (weight : resourceWeight (rowTenant ⟨key, row⟩) resource ⟨key, row⟩ ≤ increment)
    (only : ∀ tenant other, Adds lower tenant other ⟨key, row⟩ → other = resource) :
    (quotaContract lower guard).Pending knowledge (Changes.insertRow ∅ key row)
      (QuotaEffect lower knowledge.known) := by
  apply pending_single rfl notProfile room.sheltered
  intro store allowed other adds
  obtain rfl := only _ other adds
  obtain ⟨profile, found, known, enough⟩ := room store allowed
  refine .inr ⟨profile, found, ?_, known⟩
  have balance := usage_single lower (rowTenant ⟨key, row⟩) summed store key (.insert row)
  have after : weightAfter (resourceWeight (rowTenant ⟨key, row⟩) other)
      (⟨key, .insert row⟩ : Sigma fun key => Change (Row key)) ≤ increment := weight
  omega

end

section

variable {guard : TenantGuard} {knowledge : Knowledge Row}

/-! ## The operations keep the contract -/

/-- An operation keeps the contract from any rows. -/
abbrev Keeps (lower : JsString → JsString) (guard : TenantGuard) (program : Program Outcome) :
    Prop :=
  ∀ store, program.script.Meets (quotaContract lower guard) (.start store)

theorem meets_commitDone {name : TransactionName}
    (pending : (quotaContract lower guard).Pending knowledge changes
      (QuotaEffect lower knowledge.known)) :
    (commitDone name (fun result _ => .stop result) changes).Meets (quotaContract lower guard)
      knowledge := by
  simp only [commitDone, Transaction.bind_apply]
  exact meets_commitChanges pending fun _ _ _ _ => trivial

theorem createWorkflow_keeps (actor : Actor) (tenantId : Uuid) :
    Keeps lower guard (createWorkflow lower actor tenantId) := by
  intro store
  simp only [Transaction.script, createWorkflow, Transaction.bind_apply]
  apply meets_requirePermission quotaContract_unpromising
  intro permitted row _ _
  apply meets_assertTenantCapacity quotaContract_unpromising rfl
  intro profile locked counted _ allowed known mine enough
  apply meets_randomUUID quotaContract_unpromising
  intro definitionId identified moreKnown
  apply meets_insertNew quotaContract_unpromising
  intro inserted last
  apply meets_commitDone
  refine pending_insertRow (by simp) (by simp)
    ((hasRoom_counted allowed known mine enough).later (moreKnown.trans last)) ?_ ?_
  · simp [resourceWeight, rowTenant]
  · intro tenant other adds
    cases other <;> simp_all [Adds, resourceWeight, memberIdentity]

theorem issueRequest_keeps (actor : Actor) (tenantId : Uuid) (scheduled : Bool) :
    Keeps lower guard (issueRequest lower actor tenantId scheduled) := by
  intro store
  simp only [Transaction.script, issueRequest, issueNew, Transaction.bind_apply]
  apply meets_requirePermission quotaContract_unpromising
  intro permitted row _ _
  apply meets_assertTenantCapacity quotaContract_unpromising rfl
  intro profile locked counted _ allowed known mine enough
  apply meets_randomUUID quotaContract_unpromising
  intro requestId identified moreKnown
  apply meets_insertNew quotaContract_unpromising
  intro inserted last
  apply meets_commitDone
  refine pending_insertRow (by simp) (by simp)
    ((hasRoom_counted allowed known mine enough).later (moreKnown.trans last)) ?_ ?_
  · cases scheduled <;> simp [resourceWeight, rowTenant, Status.active]
  · intro tenant other adds
    cases other <;> simp_all [Adds, resourceWeight, memberIdentity]

theorem createArtifact_keeps (actor : Actor) (tenantId : Uuid) (expectedByteLength : ℕ) :
    Keeps lower guard (createArtifact lower actor tenantId expectedByteLength) := by
  intro store
  simp only [Transaction.script, createArtifact, assertArtifactCapacity, Transaction.bind_apply]
  apply meets_requirePermission quotaContract_unpromising
  intro permitted row _ _
  apply meets_lockTenantProfile quotaContract_unpromising rfl
  intro profile locked _ known mine
  apply meets_require
  intro _
  apply meets_readRows quotaContract_unpromising
  intro input counted allowed
  apply meets_require
  intro enough
  apply meets_randomUUID quotaContract_unpromising
  intro artifactId identified moreKnown
  apply meets_insertNew quotaContract_unpromising
  intro inserted last
  apply meets_commitDone
  have room := hasRoom_counted allowed known mine (of_decide_eq_true enough)
  refine pending_insertRow (by simp) (by simp) (room.later (moreKnown.trans last)) ?_ ?_
  · simp [resourceWeight, rowTenant]
  · intro tenant other adds
    cases other <;> simp_all [Adds, resourceWeight, memberIdentity]

theorem moveRequest_keeps (requestId : Uuid) (status : Status) :
    Keeps lower guard (moveRequest requestId status) := by
  intro store
  simp only [Transaction.script, moveRequest, Transaction.bind_apply]
  apply meets_query
  intro input locked locks request allowed _ answered
  refine ⟨trivial, ?_⟩
  obtain ⟨row, there, result⟩ := Option.map_eq_some_iff.mp answered
  obtain ⟨rfl, rfl⟩ := Prod.mk.inj result
  have known : (⟨.request requestId, row⟩ : Sigma Row) ∈
      ((Knowledge.start store).after locked [(Key.request requestId, LockMode.update)]).known :=
    Knowledge.mem_after (List.mem_singleton.mpr rfl) there
  apply meets_require
  intro active
  apply meets_commitDone
  have image : (Change.update { row with status } : Change (Row (.request requestId))).image =
      some { row with status } := rfl
  refine pending_single image (by simp) ?_ ?_
  · intro last allowedLast
    exact allowedLast.kept (.request requestId) row (allowedLast.current _ known)
  · intro last allowedLast resource adds
    have current : last.lookup (Key.request requestId) = some row := allowedLast.current _ known
    have counts : resource = .activeRequests := by
      cases resource <;> simp_all [Adds, resourceWeight, memberIdentity]
    subst counts
    left
    have summed : Resource.activeRequests ≠ .members := by simp
    have balance := usage_single lower row.tenantId summed last (.request requestId)
      (.update { row with status })
    have before : weightAt (resourceWeight row.tenantId .activeRequests) last
        (.request requestId) = 1 := by
      unfold weightAt
      rw [current]
      simp [resourceWeight, active]
    have after : weightAfter (resourceWeight row.tenantId .activeRequests)
        (⟨.request requestId, .update { row with status }⟩ :
          Sigma fun key => Change (Row key)) ≤ 1 := by
      change (if row.tenantId = row.tenantId ∧ status.active = true then 1 else 0) ≤ 1
      split <;> simp
    change tenantUsage lower _ row.tenantId .activeRequests ≤
      tenantUsage lower last row.tenantId .activeRequests
    omega

/-- The changes of a reissue. -/
def reissueChanges (requestId newId : Uuid) (row : RequestInstance) (scheduled : Bool) :
    TenantChanges :=
  (Changes.updateRow ∅ (.request requestId) { row with status := .revoked }).insertRow
    (.request newId)
    { tenantId := row.tenantId, status := if scheduled then .scheduled else .issued }

theorem reissueChanges_entries {requestId newId : Uuid} (row : RequestInstance) (scheduled : Bool)
    (apart : newId ≠ requestId) :
    (reissueChanges requestId newId row scheduled).entries =
      [⟨.request newId, .insert
          { tenantId := row.tenantId, status := if scheduled then .scheduled else .issued }⟩,
        ⟨.request requestId, .update { row with status := .revoked }⟩] := by
  have different : Key.request newId ≠ Key.request requestId := by simpa using apart
  unfold reissueChanges Changes.insertRow
  rw [AList.entries_insert]
  exact congrArg _ (List.kerase_cons_ne different)

/-- The reissue replaces a request that counts by one that counts. -/
theorem reissue_effect {requestId newId : Uuid} {row : RequestInstance} {scheduled : Bool}
    {known : List (Sigma Row)} (housed : Housed store)
    (admissible : Admissible store (reissueChanges requestId newId row scheduled))
    (current : store.lookup (Key.request requestId) = some row)
    (active : row.status.active = true) :
    QuotaEffect lower known store
      (applyChanges store (reissueChanges requestId newId row scheduled)) := by
  have fresh : store.lookup (Key.request newId) = none :=
    admissible.inserted _ _ (AList.lookup_insert _)
  have apart : newId ≠ requestId := by
    rintro rfl
    rw [fresh] at current
    cases current
  have entries := reissueChanges_entries row scheduled apart
  have cases : ∀ key change,
      (reissueChanges requestId newId row scheduled).lookup key = some change →
      (⟨key, change⟩ : Sigma fun key => Change (Row key)) ∈
        (reissueChanges requestId newId row scheduled).entries :=
    fun key change changed => AList.mem_lookup_iff.mp changed
  rw [entries] at cases
  apply quotaEffect_of housed
  · intro tenant change changed
    have member := cases _ _ changed
    simp at member
  · intro key change image changed result
    have sameTenant : rowTenant ⟨key, image⟩ = row.tenantId := by
      rcases List.mem_pair.mp (cases _ _ changed) with inserted | updated
      · cases inserted
        cases result
        rfl
      · cases updated
        cases result
        rfl
    have untouched : (reissueChanges requestId newId row scheduled).lookup
        (Key.profile row.tenantId) = none := by
      by_contra there
      obtain ⟨change, found⟩ := Option.ne_none_iff_exists'.mp there
      have member := cases _ _ found
      simp at member
    rw [sameTenant, profileAt_kept untouched]
    exact housed (.request requestId) row current
  · intro tenant resource
    left
    by_cases counted : resource = .activeRequests
    · subst counted
      have changed : ((reissueChanges requestId newId row scheduled).lookup
          (Key.request requestId)).isSome := by
        apply AList.lookup_isSome.mpr
        rw [AList.mem_keys, AList.keys, entries]
        simp [List.keys]
      apply total_le_replaced changed
      rw [entries]
      unfold weightAt
      rw [current]
      change resourceWeight tenant .activeRequests ⟨.request newId, _⟩ +
        (resourceWeight tenant .activeRequests ⟨.request requestId, _⟩ + 0) ≤
          resourceWeight tenant .activeRequests ⟨.request requestId, row⟩
      by_cases mine : row.tenantId = tenant
      · have counts : resourceWeight tenant .activeRequests ⟨.request requestId, row⟩ = 1 := by
          simp [resourceWeight, mine, active]
        rw [counts]
        cases scheduled <;> simp [resourceWeight, mine, Status.active]
      · simp [resourceWeight, mine]
    · apply usage_le
      intro key change image changed result
      rcases List.mem_pair.mp (cases _ _ changed) with inserted | updated
      · cases inserted
        cases resource <;> simp_all [Adds, memberIdentity, resourceWeight]
      · cases updated
        cases resource <;> simp_all [Adds, memberIdentity, resourceWeight]

theorem reissue_keeps (actor : Actor) (tenantId requestId : Uuid) (scheduled : Bool) :
    Keeps lower guard (reissue lower actor tenantId requestId scheduled) := by
  intro store
  simp only [Transaction.script, reissue, issueNew, Transaction.bind_apply]
  apply meets_requirePermission quotaContract_unpromising
  intro permitted member _ _
  apply meets_query
  intro input locked locks request allowed _ answered
  refine ⟨trivial, ?_⟩
  obtain ⟨row, there, result⟩ := Option.bind_eq_some_iff.mp answered
  obtain ⟨rfl, picked⟩ := Option.ite_none_right_eq_some.mp result
  obtain ⟨rfl, rfl⟩ := Prod.mk.inj (Option.some.inj picked)
  have known : (⟨.request requestId, row⟩ : Sigma Row) ∈
      (((Knowledge.start store).after permitted []).after locked
        [(Key.request requestId, LockMode.update)]).known :=
    Knowledge.mem_after (List.mem_singleton.mpr rfl) there
  apply meets_require
  intro active
  apply meets_assertTenantCapacity quotaContract_unpromising
  · exact AList.lookup_insert_ne (by simp)
  intro profile counting counted moreKnown _ _ _ _
  apply meets_randomUUID quotaContract_unpromising
  intro newId identified lastKnown
  apply meets_insertNew quotaContract_unpromising
  intro inserted closing
  apply meets_commitDone
  intro last allowedLast admissible
  have toLast := (((Knowledge.Allows.later ‹counting.Allows _ _› []).trans lastKnown).trans closing)
  have current : last.lookup (Key.request requestId) = some row :=
    allowedLast.current _ (toLast.known (moreKnown.known known))
  exact reissue_effect allowedLast.kept admissible current active

theorem updateTenantProfile_keeps (actor : Actor) (tenantId : Uuid) (quotas : Quotas)
    (expectedRevision : ℕ) :
    Keeps lower guard (updateTenantProfile actor tenantId quotas expectedRevision) := by
  intro store
  simp only [Transaction.script, updateTenantProfile, Transaction.bind_apply]
  apply meets_requirePermission quotaContract_unpromising
  intro permitted member _ _
  apply meets_lockTenantProfile quotaContract_unpromising rfl
  intro current locked _ known _
  apply meets_require
  intro _
  apply meets_require
  intro _
  apply meets_commitDone
  intro last allowed _
  have there : profileAt (applyChanges last (Changes.updateRow ∅ (.profile tenantId)
      { revision := current.revision + 1, quotas })) tenantId = some _ :=
    lookup_applyChanges_updateRow last ∅ (.profile tenantId) _
  apply quotaEffect_of allowed.kept
  · intro tenant change changed
    cases lookup_single changed
    rfl
  · intro key change row changed image
    cases lookup_single changed
    exact Option.isSome_of_eq_some there
  · intro tenant resource
    left
    apply usage_le
    intro key change row changed image
    cases lookup_single changed
    cases resource <;> simp [Adds, memberIdentity, resourceWeight]

/-- A binding is replaced: one that was active stays one, and a new active one has room. -/
theorem meets_writeIntegration {capability : Capability} {status : ActiveStatus} {revision : ℕ}
    (sheltered : Sheltered lower guard knowledge tenantId)
    (checked : status = .active →
      (∃ row : IntegrationBinding, row.status = .active ∧
        (⟨.integration tenantId capability, row⟩ : Sigma Row) ∈ knowledge.known) ∨
      HasRoom lower guard knowledge tenantId .integrations 1) :
    (upsertRow (.integration tenantId capability)
      (fun _ _ => { revision, status })
      (fun _ => commitDone .updateIntegration fun result _ => .stop result) ∅).Meets
        (quotaContract lower guard) knowledge := by
  apply meets_upsertRow quotaContract_unpromising
  intro _ _ change later moreKnown image
  apply meets_commitDone
  apply pending_single image (by simp) (sheltered.later moreKnown)
  intro store allowed resource adds
  have counts : resource = .integrations ∧ status = .active := by
    cases resource <;> simp_all [Adds, resourceWeight, memberIdentity]
  obtain ⟨rfl, active⟩ := counts
  have summed : Resource.integrations ≠ .members := by simp
  have balance := usage_single lower tenantId summed store (.integration tenantId capability) change
  have after : weightAfter (resourceWeight tenantId .integrations)
      (⟨.integration tenantId capability, change⟩ : Sigma fun key => Change (Row key)) = 1 := by
    unfold weightAfter
    rw [image]
    simp [resourceWeight, active]
  change tenantUsage lower _ tenantId .integrations ≤
      tenantUsage lower store tenantId .integrations ∨ ∃ profile,
    profileAt store tenantId = some profile ∧ tenantUsage lower _ tenantId .integrations ≤ _ ∧
      (⟨.profile tenantId, profile⟩ : Sigma Row) ∈ later.known
  rcases checked active with ⟨row, wasActive, known⟩ | room
  · have current : store.lookup (Key.integration tenantId capability) = some row :=
      allowed.current _ (moreKnown.known known)
    have before : weightAt (resourceWeight tenantId .integrations) store
        (.integration tenantId capability) = 1 := by
      unfold weightAt
      rw [current]
      simp [resourceWeight, wasActive]
    left
    omega
  · obtain ⟨profile, found, known, enough⟩ := room.later moreKnown store allowed
    refine .inr ⟨profile, found, ?_, known⟩
    omega

theorem updateIntegration_keeps (actor : Actor) (tenantId : Uuid) (capability : Capability)
    (status : ActiveStatus) (expectedRevision : ℕ) :
    Keeps lower guard
      (updateIntegration lower actor tenantId capability status expectedRevision) := by
  intro store
  simp only [Transaction.script, updateIntegration, lockIntegration, Transaction.bind_apply]
  apply meets_requirePermission quotaContract_unpromising
  intro permitted member allowed found
  have sheltered := sheltered_member allowed found
  apply meets_query
  intro input locked locks pointer allowedThen _ answered
  refine ⟨trivial, ?_⟩
  obtain ⟨asked, there⟩ := Prod.mk.inj (Option.some.inj answered)
  have moreKnown := allowedThen.later locks
  apply meets_require
  intro _
  split
  · apply meets_assertTenantCapacity quotaContract_unpromising rfl
    intro profile holding counted holdingKnown allowedCount known mine enough
    have room := hasRoom_counted allowedCount known mine enough
    exact meets_writeIntegration room.sheltered fun _ => .inr room
  · rename_i unchecked
    apply meets_writeIntegration (sheltered.later moreKnown)
    intro active
    left
    push Not at unchecked
    obtain ⟨row, result, wasActive⟩ := Option.map_eq_some_iff.mp (unchecked active)
    subst result
    have taken : (Key.integration tenantId capability, LockMode.update) ∈ locks := by
      rw [← asked, there]
      exact List.mem_singleton.mpr rfl
    exact ⟨row, wasActive, Knowledge.mem_after taken there⟩

end

/-! ## The operations on members -/

/-- What grows without a check does not: a commit of a change of a member whose
e-mail was known finds the e-mail counted, a commit of claims finds the actor's
e-mail counted in every tenant, and a tenant that is provisioned with an owner
grant has room for two members. -/
def countedGrowth (lower : JsString → JsString) : TenantGuard where
  statement := fun _ _ _ => true
  commit := fun point store => match point with
    | .commit (.setMember input known) =>
        !known || decide (input.email ∈ labels (memberIdentity lower input.tenantId) store)
    | .commit (.claimMembershipGrants _ email grants) =>
        grants.all fun grant =>
          decide (lower email ∈ labels (memberIdentity lower grant.1) store)
    | .commit (.provisionTenant input ownerGrantCreated) =>
        !ownerGrantCreated || decide (2 ≤ input.quotas.maxMembers)
    | _ => true

section

variable {guard : TenantGuard} {knowledge : Knowledge Row}

/-- A commit has its effect on rows that meet the guard. -/
theorem meets_guardedCommit {name : TransactionName} {result : Outcome}
    (effect : ∀ store, knowledge.Allows (quotaContract lower guard) store →
      guard.commit (.commit name) store = true → Admissible store changes →
      QuotaEffect lower knowledge.known store (applyChanges store changes)) :
    (commitChanges (.commit name) (fun _ _ => .stop result) changes).Meets
      (quotaContract lower guard) knowledge :=
  fun store allowed guarded admissible => ⟨effect store allowed guarded admissible, trivial⟩

/-- Changes of members only have the effect as soon as the member counts stay
within their quotas. -/
theorem members_effect {known : List (Sigma Row)} (housed : Housed store)
    (untouched : ∀ tenant, changes.lookup (Key.profile tenant) = none)
    (kinds : ∀ key change row, changes.lookup key = some change → change.image = some row →
      (profileAt store (rowTenant ⟨key, row⟩)).isSome ∧
        ∀ tenant other, Adds lower tenant other ⟨key, row⟩ → other = .members)
    (growth : ∀ tenant,
      tenantUsage lower (applyChanges store changes) tenant .members ≤
        tenantUsage lower store tenant .members ∨
      ∃ profile, profileAt store tenant = some profile ∧
        tenantUsage lower (applyChanges store changes) tenant .members ≤
          profile.quotas.limit .members ∧
        (⟨.profile tenant, profile⟩ : Sigma Row) ∈ known) :
    QuotaEffect lower known store (applyChanges store changes) := by
  apply quotaEffect_of housed
  · intro tenant change changed
    rw [untouched] at changed
    cases changed
  · intro key change row changed image
    rw [profileAt_kept (untouched _)]
    exact (kinds key change row changed image).1
  · intro tenant other
    by_cases members : other = .members
    · subst members
      rcases growth tenant with same | ⟨profile, found, within, locked⟩
      · exact .inl same
      · exact .inr ⟨profile, (profileAt_kept (untouched _)).trans found, within,
          .inl ⟨_, locked⟩⟩
    · left
      apply usage_le
      intro key change row changed image adds
      exact members ((kinds key change row changed image).2 tenant other adds)

/-- Changes whose identities all counted before do not raise the member count. -/
theorem members_le {tenant : Uuid}
    (old : ∀ key change row value, changes.lookup key = some change → change.image = some row →
      memberIdentity lower tenant ⟨key, row⟩ = some value →
      value ∈ labels (memberIdentity lower tenant) store) :
    tenantUsage lower (applyChanges store changes) tenant .members ≤
      tenantUsage lower store tenant .members := by
  apply distinctLabels_le
  intro value member
  rcases labels_applyChanges member with ⟨key, change, row, changed, image, carried⟩ | there
  · exact old key change row value changed image carried
  · exact there

/-- Changes with one identity raise the member count by one at most. -/
theorem members_le_succ {tenant : Uuid} {identity : JsString}
    (one : ∀ key change row value, changes.lookup key = some change → change.image = some row →
      memberIdentity lower tenant ⟨key, row⟩ = some value → value = identity) :
    tenantUsage lower (applyChanges store changes) tenant .members ≤
      tenantUsage lower store tenant .members + 1 := by
  apply distinctLabels_le_add [identity]
  intro value member
  rcases labels_applyChanges member with ⟨key, change, row, changed, image, carried⟩ | there
  · exact .inl (List.mem_singleton.mpr (one key change row value changed image carried))
  · exact .inr there

/-- A row of a member: of the tenant, and counted as its e-mail if at all. -/
structure MemberRow (lower : JsString → JsString) (input : MembershipInput) (row : Sigma Row) :
    Prop where
  tenant : rowTenant row = input.tenantId
  notProfile : ∀ tenantId, row.1 ≠ .profile tenantId
  members : ∀ tenant other, Adds lower tenant other row → other = .members
  identity : ∀ tenant value, memberIdentity lower tenant row = some value →
    tenant = input.tenantId ∧ value = input.email ∧ input.status = .active

/-- What setMember stages are rows of the member. -/
theorem memberRow_staged {input : MembershipInput} (lowered : lower input.email = input.email)
    (revises : RevisesMembers lower input knowledge changes)
    (others : ∀ key change, changes.lookup key = some change →
      (∃ tenantId principalId, key = .membership tenantId principalId) ∨
      change.image.map (Sigma.mk key) = some (⟨.grant input.tenantId input.email,
        { roles := input.roles, status := input.status }⟩ : Sigma Row))
    {key : Key} {change : Change (Row key)} {row : Row key}
    (changed : changes.lookup key = some change) (image : change.image = some row) :
    MemberRow lower input ⟨key, row⟩ := by
  rcases others key change changed with ⟨tenantId, principalId, rfl⟩ | granted
  · obtain ⟨earlier, _, rfl, email, written⟩ := revises _ _ change changed
    obtain rfl := Option.some.inj (image.symm.trans written)
    constructor
    · rfl
    · simp
    · intro tenant other adds
      cases other <;> simp_all [Adds, resourceWeight]
    · intro tenant value carried
      simp only [memberIdentity, Option.ite_none_right_eq_some, email, Option.getD_some,
        Option.some.injEq] at carried
      obtain ⟨⟨rfl, active⟩, rfl⟩ := carried
      exact ⟨rfl, rfl, active⟩
  · obtain ⟨written, found, same⟩ := Option.map_eq_some_iff.mp granted
    obtain rfl := Option.some.inj (image.symm.trans found)
    cases same
    constructor
    · rfl
    · simp
    · intro tenant other adds
      cases other <;> simp_all [Adds, resourceWeight]
    · intro tenant value carried
      simp only [memberIdentity, Option.ite_none_right_eq_some, lowered, Option.some.injEq]
        at carried
      obtain ⟨⟨rfl, active⟩, rfl⟩ := carried
      exact ⟨rfl, rfl, active⟩

/-- The commit of setMember: disabled members do not count, a known e-mail counts
already, and another one has room. -/
theorem meets_setMember {input : MembershipInput} {known : Bool}
    (lowered : lower input.email = input.email)
    (sheltered : Sheltered lower (countedGrowth lower) knowledge input.tenantId)
    (checked : input.status = .active → known = false →
      HasRoom lower (countedGrowth lower) knowledge input.tenantId .members 1) :
    (upsertRow (.grant input.tenantId input.email)
      (fun _ _ => { roles := input.roles, status := input.status })
      (fun _ => updateMemberships lower input fun _ => assertOwner input.tenantId fun _ =>
        commitChanges (.commit (.setMember input known)) fun _ _ => .stop .done) ∅).Meets
      (quotaContract lower (countedGrowth lower)) knowledge := by
  apply meets_writeMember quotaContract_unpromising
  intro updated revised moreKnown revises others
  simp only [assertOwner, Transaction.bind_apply]
  apply meets_readRows quotaContract_unpromising
  intro outside counted allowed
  apply meets_require
  intro _
  apply meets_guardedCommit
  intro store allowedThen guarded _
  have toLast := moreKnown.trans (allowed.later [])
  have staged : ∀ key change row, updated.lookup key = some change → change.image = some row →
      MemberRow lower input ⟨key, row⟩ := fun key change row changed image =>
    memberRow_staged lowered revises others changed image
  apply members_effect allowedThen.kept
  · intro tenant
    by_contra there
    obtain ⟨change, found⟩ := Option.ne_none_iff_exists'.mp there
    rcases others _ change found with ⟨_, _, membership⟩ | granted
    · cases membership
    · obtain ⟨_, _, same⟩ := Option.map_eq_some_iff.mp granted
      cases same
  · intro key change row changed image
    have member := staged key change row changed image
    rw [member.tenant]
    exact ⟨(sheltered.later toLast) store allowedThen, member.members⟩
  · intro tenant
    by_cases raised : tenant = input.tenantId ∧ input.status = .active ∧
        input.email ∉ labels (memberIdentity lower input.tenantId) store
    · obtain ⟨rfl, active, fresh⟩ := raised
      have unknown : known = false := by
        simpa [countedGrowth, fresh] using guarded
      obtain ⟨profile, found, locked, enough⟩ :=
        (checked active unknown).later toLast store allowedThen
      refine .inr ⟨profile, found, ?_, locked⟩
      have bound : tenantUsage lower (applyChanges store updated) input.tenantId .members ≤
          tenantUsage lower store input.tenantId .members + 1 :=
        members_le_succ fun key change row value changed image carried =>
          ((staged key change row changed image).identity _ value carried).2.1
      exact bound.trans enough
    · left
      apply members_le
      intro key change row value changed image carried
      obtain ⟨rfl, rfl, active⟩ := (staged key change row changed image).identity _ value carried
      by_contra fresh
      exact raised ⟨rfl, active, fresh⟩

theorem setMember_keeps (actor : Actor) (input : MembershipInput)
    (lowered : lower input.email = input.email) :
    Keeps lower (countedGrowth lower) (setMember lower actor input) := by
  intro store
  simp only [Transaction.script, setMember, Transaction.bind_apply]
  apply meets_requirePermission quotaContract_unpromising
  intro permitted row allowed found
  have sheltered := sheltered_member allowed found
  split
  · apply meets_assertMemberCapacity quotaContract_unpromising rfl
    · intro later moreKnown
      exact meets_setMember lowered (sheltered.later moreKnown) fun _ unknown => by cases unknown
    · intro profile locked counted _ allowedCount known mine enough
      have room := hasRoom_counted allowedCount known mine enough
      exact meets_setMember lowered room.sheltered fun _ _ => room
  · rename_i inactive
    exact meets_setMember lowered sheltered fun active => absurd active inactive

/-- The tenants of the grants that a claim reads have profiles. -/
theorem grantsOf_sheltered {email : JsString} {grant : Uuid × List TenantRole}
    (allowed : knowledge.Allows (quotaContract lower guard) store)
    (member : grant ∈ grantsOf lower (applyChanges store ∅) email) :
    Sheltered lower guard (knowledge.after store []) grant.1 := by
  obtain ⟨⟨key, row⟩, there, picked⟩ := List.mem_filterMap.mp member
  have housed := allowed.kept key row (AList.mem_lookup_iff.mpr there)
  intro last allowedLast
  apply allowedLast.moved.profiles
  cases key with
  | grant tenantId granted =>
      obtain ⟨_, result⟩ := Option.ite_none_right_eq_some.mp picked
      cases Option.some.inj result
      exact housed
  | profile | membership | workflow | request | artifact | integration => cases picked

theorem listTenants_keeps (actor : Actor) :
    Keeps lower (countedGrowth lower) (listTenants lower actor) := by
  intro store
  unfold Transaction.script listTenants
  cases actor.email with
  | none => exact trivial
  | some email =>
      simp only [Transaction.bind_apply]
      apply meets_readRows quotaContract_unpromising
      intro input read allowed
      have sheltered : ∀ grant ∈ grantsOf lower (applyChanges read ∅) email,
          Sheltered lower (countedGrowth lower) ((Knowledge.start store).after read []) grant.1 :=
        fun grant member => grantsOf_sheltered allowed member
      generalize grantsOf lower (applyChanges read ∅) email = claimed at sheltered ⊢
      apply meets_claimGrants quotaContract_unpromising _ (List.Subset.refl _)
      · intro key change staged
        cases staged
      · intro updated later moreKnown claims
        apply meets_readRows quotaContract_unpromising
        intro _ shown allowedShown
        apply meets_guardedCommit
        intro last allowedLast guarded _
        have toLast := moreKnown.trans (allowedShown.later [])
        simp only [countedGrowth, List.all_eq_true, decide_eq_true_eq] at guarded
        apply members_effect allowedLast.kept
        · intro tenant
          by_contra there
          obtain ⟨change, found⟩ := Option.ne_none_iff_exists'.mp there
          obtain ⟨_, _, _, _, _, result⟩ := claims _ change found
          obtain ⟨_, _, same⟩ := Option.map_eq_some_iff.mp result
          cases same
        · intro key change row changed image
          obtain ⟨tenantId, member, granted, active, counted, result⟩ := claims key change changed
          obtain ⟨written, found, same⟩ := Option.map_eq_some_iff.mp result
          obtain rfl := Option.some.inj (image.symm.trans found)
          cases same
          refine ⟨(sheltered _ granted).later toLast last allowedLast, ?_⟩
          intro tenant other adds
          cases other <;> simp_all [Adds, resourceWeight]
        · intro tenant
          left
          apply members_le
          intro key change row value changed image carried
          obtain ⟨tenantId, member, granted, active, counted, result⟩ := claims key change changed
          obtain ⟨written, found, same⟩ := Option.map_eq_some_iff.mp result
          obtain rfl := Option.some.inj (image.symm.trans found)
          cases same
          simp only [memberIdentity, Option.ite_none_right_eq_some, counted, Option.map_some,
            Option.getD_some, Option.some.injEq] at carried
          obtain ⟨⟨rfl, _⟩, rfl⟩ := carried
          exact guarded _ granted

end

/-! ## Provisioning -/

section

variable {knowledge : Knowledge Row}

/-- Every row that the changes leave has a property. -/
def Leaves (property : Sigma Row → Prop) (changes : TenantChanges) : Prop :=
  ∀ key change row, changes.lookup key = some change → change.image = some row →
    property ⟨key, row⟩

theorem leaves_empty {property : Sigma Row → Prop} : Leaves property ∅ := by
  intro key change row changed
  cases changed

theorem Leaves.insertRow {property : Sigma Row → Prop} (leaves : Leaves property changes)
    {key : Key} {row : Row key} (holds : property ⟨key, row⟩) :
    Leaves property (changes.insertRow key row) := by
  intro found change image changed result
  by_cases same : found = key
  · subst same
    have inserted : AList.lookup found (changes.insertRow found row) = some (.insert row) :=
      AList.lookup_insert _
    obtain rfl := Option.some.inj (inserted.symm.trans changed)
    rwa [← Option.some.inj result]
  · have untouched : AList.lookup found (changes.insertRow key row) = changes.lookup found :=
      AList.lookup_insert_ne same
    rw [untouched] at changed
    exact leaves found change image changed result

/-- A row of a new tenant, which counts as one of the given members if at all. -/
structure NewRow (lower : JsString → JsString) (tenantId : Uuid) (identities : List JsString)
    (row : Sigma Row) : Prop where
  tenant : rowTenant row = tenantId
  members : ∀ tenant other, Adds lower tenant other row → other = .members
  identity : ∀ tenant value, memberIdentity lower tenant row = some value → value ∈ identities

/-- A new tenant whose members fit its quota has the effect. -/
theorem provision_effect {known : List (Sigma Row)} {identities : List JsString}
    (profile : ProfilePointer) (housed : Housed store) (fresh : profileAt store tenantId = none)
    (brought : profileAt (applyChanges store changes) tenantId = some profile)
    (undeleted : ∀ tenant change, changes.lookup (Key.profile tenant) = some change →
      change.image.isSome)
    (rows : Leaves (NewRow lower tenantId identities) changes)
    (fits : identities.length ≤ profile.quotas.maxMembers) :
    QuotaEffect lower known store (applyChanges store changes) := by
  apply quotaEffect_of housed undeleted
  · intro key change row changed image
    rw [(rows key change row changed image).tenant]
    exact Option.isSome_of_eq_some brought
  · intro tenant other
    by_cases new : tenant = tenantId ∧ other = .members
    · obtain ⟨rfl, rfl⟩ := new
      right
      refine ⟨profile, brought, ?_, .inr fresh⟩
      have empty : tenantUsage lower store tenant .members = 0 := by
        apply usage_empty
        rintro key row found rfl
        have there := housed key row found
        rw [fresh] at there
        cases there
      have bound : tenantUsage lower (applyChanges store changes) tenant .members ≤
          tenantUsage lower store tenant .members + identities.length := by
        apply distinctLabels_le_add identities
        intro value member
        rcases labels_applyChanges member with ⟨key, change, row, changed, image, carried⟩ | old
        · exact .inl ((rows key change row changed image).identity _ value carried)
        · exact .inr old
      rw [empty, Nat.zero_add] at bound
      exact bound.trans fits
    · left
      apply usage_le
      intro key change row changed image adds
      have row := rows key change row changed image
      exact new ⟨adds.tenant.symm.trans row.tenant, row.members _ _ adds⟩

/-- A row that carries no identity of a member and no weight is a row of the tenant. -/
theorem newRow_silent {identities : List JsString} {row : Sigma Row}
    (tenant : rowTenant row = tenantId) (silent : ∀ tenant other, ¬ Adds lower tenant other row) :
    NewRow lower tenantId identities row where
  tenant := tenant
  members := fun tenant other adds => absurd adds (silent tenant other)
  identity := fun tenant _ carried =>
    absurd (Option.isSome_of_eq_some carried) (silent tenant .members)

/-- The profile and the initial integrations complete a new tenant. -/
theorem meets_provision (identities : List JsString) {name : TransactionName} {quotas : Quotas}
    (rows : Leaves (NewRow lower tenantId identities) changes)
    (untouched : ∀ tenant, changes.lookup (Key.profile tenant) = none)
    (fits : ∀ store, (countedGrowth lower).commit (.commit name) store = true →
      identities.length ≤ quotas.maxMembers) :
    (insertNew (.profile tenantId) { revision := 1, quotas }
      (fun _ => insertNew (.integration tenantId .notificationDelivery)
        { revision := 1, status := .disabled }
        fun _ => insertNew (.integration tenantId .documentMalwareScan)
          { revision := 1, status := .disabled }
          fun _ => commitDone name fun result _ => .stop result) changes).Meets
      (quotaContract lower (countedGrowth lower)) knowledge := by
  apply meets_insertNew quotaContract_unpromising
  intro profiled _
  apply meets_insertNew quotaContract_unpromising
  intro notified _
  apply meets_insertNew quotaContract_unpromising
  intro scanned _
  simp only [commitDone, Transaction.bind_apply]
  apply meets_guardedCommit
  intro store allowed guarded admissible
  set profile : ProfilePointer := { revision := 1, quotas } with profileEq
  have integration : ∀ capability,
      NewRow lower tenantId identities ⟨.integration tenantId capability, ⟨1, .disabled⟩⟩ := by
    intro capability
    refine newRow_silent rfl ?_
    intro tenant other
    cases other <;> simp [Adds, resourceWeight, memberIdentity]
  have brought : AList.lookup (Key.profile tenantId)
      (((changes.insertRow (.profile tenantId) profile).insertRow
        (.integration tenantId .notificationDelivery) ⟨1, .disabled⟩).insertRow
          (.integration tenantId .documentMalwareScan) ⟨1, .disabled⟩) =
        some (.insert profile) := by
    refine (AList.lookup_insert_ne (by simp)).trans ?_
    refine (AList.lookup_insert_ne (by simp)).trans ?_
    exact AList.lookup_insert _
  apply provision_effect profile allowed.kept (admissible.inserted _ _ brought)
  · rw [profileAt, lookup_applyChanges, brought]
    rfl
  · intro tenant change changed
    by_cases same : tenant = tenantId
    · subst same
      obtain rfl := Option.some.inj (brought.symm.trans changed)
      rfl
    · have absent : AList.lookup (Key.profile tenant)
          (((changes.insertRow (.profile tenantId) profile).insertRow
            (.integration tenantId .notificationDelivery) ⟨1, .disabled⟩).insertRow
              (.integration tenantId .documentMalwareScan) ⟨1, .disabled⟩) = none := by
        refine (AList.lookup_insert_ne (by simp)).trans ?_
        refine (AList.lookup_insert_ne (by simp)).trans ?_
        refine (AList.lookup_insert_ne (by simpa using same)).trans ?_
        exact untouched tenant
      rw [absent] at changed
      cases changed
  · apply Leaves.insertRow _ (integration _)
    apply Leaves.insertRow _ (integration _)
    apply rows.insertRow
    refine newRow_silent rfl ?_
    intro tenant other
    cases other <;> simp [Adds, resourceWeight, memberIdentity]
  · exact fits store guarded

theorem provisionTenant_keeps (toLowerCase : JsString → JsString) (actor : Actor)
    (input : ProvisionInput) :
    Keeps lower (countedGrowth lower) (provisionTenant toLowerCase actor input) := by
  intro store
  simp only [Transaction.script, provisionTenant, Transaction.bind_apply]
  apply meets_require
  intro _
  apply meets_randomUUID quotaContract_unpromising
  intro tenantId identified _
  apply meets_fromOutside quotaContract_unpromising
  intro now timed _
  apply meets_insertNew quotaContract_unpromising
  intro membership _
  have owner : ∀ identities, (actor.email.map lower).getD actor.principalId ∈ identities →
      NewRow lower tenantId identities ⟨.membership tenantId actor.principalId,
        { roles := [.owner], status := .active, email := actor.email
          source := .installationProvisioning, validFrom := now, expiresAt := none }⟩ := by
    intro identities member
    refine ⟨rfl, ?_, ?_⟩
    · intro tenant other adds
      cases other <;> simp_all [Adds, resourceWeight]
    · intro tenant value carried
      obtain ⟨_, same⟩ := Option.ite_none_right_eq_some.mp carried
      rwa [← Option.some.inj same]
  generalize (input.ownerEmail.filter fun email =>
    decide (some email ≠ actor.email.map toLowerCase)) = ownerGrant
  cases ownerGrant with
  | none =>
      apply meets_provision [(actor.email.map lower).getD actor.principalId]
      · exact leaves_empty.insertRow (owner _ (List.mem_singleton.mpr rfl))
      · intro tenant
        exact AList.lookup_insert_ne (by simp)
      · intro _ _
        exact input.quotas.members_positive
  | some email =>
      apply meets_insertNew quotaContract_unpromising
      intro granted _
      apply meets_provision [(actor.email.map lower).getD actor.principalId, lower email]
      · apply Leaves.insertRow (leaves_empty.insertRow (owner _ List.mem_cons_self))
        refine ⟨rfl, ?_, ?_⟩
        · intro tenant other adds
          cases other <;> simp_all [Adds, resourceWeight]
        · intro tenant value carried
          obtain ⟨_, same⟩ := Option.ite_none_right_eq_some.mp carried
          rw [← Option.some.inj same]
          exact List.mem_cons_of_mem _ (List.mem_singleton.mpr rfl)
      · intro tenant
        refine (AList.lookup_insert_ne (by simp)).trans ?_
        exact AList.lookup_insert_ne (by simp)
      · intro _ guarded
        simpa [countedGrowth] using guarded

end

/-! ## The law -/

theorem quotaContract_valid (platform : EmailPlatform) :
    (quotaContract platform.lower (countedGrowth platform.lower)).Valid (start platform) where
  keeps := fun _ _ _ _ commits => quotaContract_keeps commits
  meets := by
    intro operation store _
    cases operation with
    | provisionTenant actor input =>
        exact provisionTenant_keeps platform.toLowerCase actor input store
    | setMember actor input =>
        exact setMember_keeps actor _ (platform.lower_toLowerCase input.email) store
    | listTenants actor => exact listTenants_keeps actor store
    | createWorkflow actor tenantId => exact createWorkflow_keeps actor tenantId store
    | issueRequest actor tenantId scheduled => exact issueRequest_keeps actor tenantId scheduled store
    | reissue actor tenantId requestId scheduled =>
        exact reissue_keeps actor tenantId requestId scheduled store
    | moveRequest requestId status => exact moveRequest_keeps requestId status store
    | createArtifact actor tenantId expectedByteLength =>
        exact createArtifact_keeps actor tenantId expectedByteLength store
    | updateIntegration actor tenantId capability status expectedRevision =>
        exact updateIntegration_keeps actor tenantId capability status expectedRevision store
    | updateTenantProfile actor tenantId quotas expectedRevision =>
        exact updateTenantProfile_keeps actor tenantId quotas expectedRevision store

/-- In every run in which what grows without a check had counted before, or fits a
new tenant, the use of a resource grows within its quota. -/
theorem growth_within_quota (platform : EmailPlatform) :
    GrowthWithinQuota platform (countedGrowth platform.lower) := by
  intro before after tenantId resource run stepped raised
  have empty : Housed ∅ := by
    intro key row found
    cases found
  have idle : Holds (quotaContract platform.lower (countedGrowth platform.lower))
      (State.idle Row Outside Point Outcome ∅) := Holds.idle empty
  have holds := (idle.runs (quotaContract_valid platform) run).1
  rcases (holds.step (quotaContract_valid platform) stepped).2 with same | ⟨point, known, commits⟩
  · rw [same] at raised
    exact absurd raised (lt_irrefl _)
  · have effect : QuotaEffect platform.lower known before.store after.store := commits.effect
    rcases effect.growth tenantId resource with kept | ⟨profile, found, within, _⟩
    · exact absurd raised (not_lt.mpr kept)
    · exact ⟨profile, found, within⟩

/-! ## A tenant provisioned above its quota -/

/-- Both maps on ASCII text. -/
def asciiPlatform : EmailPlatform where
  lower := List.map Productization.asciiLower
  toLowerCase := List.map Productization.asciiLower
  lower_toLowerCase := StoredConfiguration.map_asciiLower_idem

/-- The quotas of the default profile, with a single member. -/
def singleMember : Quotas :=
  ⟨500, 1073741824, 52428800, 8, 1, 500, le_rfl⟩

/-- An administrator provisions a tenant for somebody else, up to the commit. -/
def provisioning : List (Label Outside Operation) :=
  .openSession 1 (.provisionTenant ⟨js "admin", some (js "admin@example.com"), true⟩
    ⟨some (js "owner@example.com"), singleMember⟩) :: List.replicate 7 (.statement 1 ⟨0, 1⟩)

theorem provisioning_follows :
    ((execute (start asciiPlatform) (Guard.none Row Outside Point)
      (State.idle Row Outside Point Outcome ∅) provisioning).bind fun before =>
        (step (start asciiPlatform) before (.commit 1)).map fun after =>
          (tenantUsage asciiPlatform.lower before.store 1 .members,
            tenantUsage asciiPlatform.lower after.store 1 .members,
            (profileAt after.store 1).map fun profile => profile.quotas.maxMembers)) =
      some (0, 2, some 1) := by
  decide +kernel

/-- Without the condition a tenant can grow beyond its quota. -/
theorem quota_exceeded : ¬ GrowthWithinQuota asciiPlatform (Guard.none Row Outside Point) := by
  intro holds
  obtain ⟨before, followed, committed⟩ := Option.bind_eq_some_iff.mp provisioning_follows
  obtain ⟨after, stepped, counts⟩ := Option.map_eq_some_iff.mp committed
  obtain ⟨used, rest⟩ := Prod.mk.inj counts
  obtain ⟨grown, limit⟩ := Prod.mk.inj rest
  obtain ⟨profile, found, within⟩ := holds before after 1 .members
    (execute_runs _ _ _ _ followed) ⟨.commit 1, Guard.none_admits _ _, stepped⟩
    (by rw [used, grown]; decide)
  rw [found] at limit
  have single : profile.quotas.maxMembers = 1 := Option.some.inj limit
  rw [grown] at within
  change 2 ≤ profile.quotas.maxMembers at within
  omega

end Vasi.TenantQuotas
