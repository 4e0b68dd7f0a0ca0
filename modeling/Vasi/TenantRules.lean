import Vasi.TenantStore

/-!
# Rules for the statements on tenants

What the rest of a transaction may assume after each statement, for every
contract whose statements promise nothing. The contracts of the last owner and
of the quotas share these rules.
-/
namespace Vasi.TenantStore

open JsValue IsoTime ReadCommitted
open EngineRows (Uuid)

section

variable {contract : Contract Row Outside Point Outcome} {changes : TenantChanges}
  {knowledge : Knowledge Row} {lower : JsString → JsString} {tenantId : Uuid} {α : Type}

theorem meets_randomUUID (unpromising : Unpromising contract)
    {continuation : Uuid → TenantChanges → Script Row Outside Point Outcome}
    (rest : ∀ uuid later, knowledge.Later later contract →
      (continuation uuid changes).Meets contract later) :
    (randomUUID continuation changes).Meets contract knowledge :=
  meets_fromOutside unpromising rest

theorem meets_require {condition : Bool} {code : JsString}
    {continuation : Unit → TenantChanges → Script Row Outside Point Outcome}
    (rest : condition = true → (continuation () changes).Meets contract knowledge) :
    (require condition code continuation changes).Meets contract knowledge := by
  cases condition with
  | false => exact trivial
  | true => exact rest rfl

/-- An actor with a permission is a member of the tenant when it is checked. -/
theorem meets_requirePermission (unpromising : Unpromising contract) {actor : Actor}
    {permission : Permission}
    {continuation : Unit → TenantChanges → Script Row Outside Point Outcome}
    (rest : ∀ store row, knowledge.Allows contract store →
      membershipAt store tenantId actor.principalId = some row →
      (continuation () ∅).Meets contract (knowledge.after store [])) :
    (requirePermission actor tenantId permission continuation ∅).Meets contract knowledge := by
  simp only [requirePermission, Transaction.bind_apply]
  apply meets_readRows unpromising
  intro input store allowed
  apply meets_require
  intro permitted
  obtain ⟨row, found, _⟩ := (Option.any_eq_true _ _).mp permitted
  exact rest store row allowed found

/-- The locked profile of a tenant is known and held. -/
theorem meets_lockTenantProfile (unpromising : Unpromising contract)
    {continuation : ProfilePointer → TenantChanges → Script Row Outside Point Outcome}
    (untouched : changes.lookup (Key.profile tenantId) = none)
    (rest : ∀ profile later, knowledge.Later later contract →
      (⟨.profile tenantId, profile⟩ : Sigma Row) ∈ later.known →
      Key.profile tenantId ∈ later.mine →
      (continuation profile changes).Meets contract later) :
    (lockTenantProfile tenantId continuation changes).Meets contract knowledge := by
  apply meets_query
  intro input store locks profile allowed _ answered
  refine ⟨unpromising.promise _ _ _ _ _, ?_⟩
  obtain ⟨found, there, result⟩ := Option.map_eq_some_iff.mp answered
  obtain ⟨rfl, rfl⟩ := Prod.mk.inj result
  rw [profileAt, lookup_applyChanges, untouched] at there
  have member : (Key.profile tenantId, LockMode.update) ∈
      [(Key.profile tenantId, LockMode.update)] := List.mem_singleton.mpr rfl
  exact rest found _ (allowed.later _) (Knowledge.mem_after member there)
    (List.mem_append_left _ (mem_keysAt.mpr ⟨member, Option.isSome_of_eq_some there⟩))

/-- A count under the lock of the profile found room. -/
theorem meets_assertTenantCapacity (unpromising : Unpromising contract) {resource : Resource}
    {increment : ℕ} {continuation : Unit → TenantChanges → Script Row Outside Point Outcome}
    (untouched : changes.lookup (Key.profile tenantId) = none)
    (rest : ∀ profile locked store, knowledge.Later locked contract →
      locked.Allows contract store →
      (⟨.profile tenantId, profile⟩ : Sigma Row) ∈ locked.known →
      Key.profile tenantId ∈ locked.mine →
      tenantUsage lower (applyChanges store changes) tenantId resource + increment ≤
        profile.quotas.limit resource →
      (continuation () changes).Meets contract (locked.after store [])) :
    (assertTenantCapacity lower tenantId resource increment continuation changes).Meets contract
      knowledge := by
  simp only [assertTenantCapacity, Transaction.bind_apply]
  apply meets_lockTenantProfile unpromising untouched
  intro profile locked moreKnown known mine
  apply meets_readRows unpromising
  intro input store allowed
  apply meets_require
  intro enough
  exact rest profile locked store moreKnown allowed known mine (of_decide_eq_true enough)

theorem meets_insertNew (unpromising : Unpromising contract) {key : Key} {row : Row key}
    {continuation : Unit → TenantChanges → Script Row Outside Point Outcome}
    (rest : ∀ later, knowledge.Later later contract →
      (continuation () (changes.insertRow key row)).Meets contract later) :
    (insertNew key row continuation changes).Meets contract knowledge := by
  simp only [insertNew, Transaction.bind_apply]
  apply meets_query
  intro input store locks value allowed _ _
  exact ⟨unpromising.promise _ _ _ _ _, rest _ (allowed.later locks)⟩

/-- An upsert stages one row for its key. -/
theorem meets_upsertRow (unpromising : Unpromising contract) {key : Key}
    {row : Outside → Option (Row key) → Row key}
    {continuation : Unit → TenantChanges → Script Row Outside Point Outcome}
    (rest : ∀ input found change later, knowledge.Later later contract →
      change.image = some (row input found) →
      (continuation () (AList.insert key change changes)).Meets contract later) :
    (upsertRow key row continuation changes).Meets contract knowledge := by
  simp only [upsertRow, Transaction.bind_apply]
  apply meets_query
  intro input store locks written allowed _ answered
  refine ⟨unpromising.promise _ _ _ _ _, ?_⟩
  have moreKnown := allowed.later locks
  split at answered
  · rename_i found there
    obtain ⟨rfl, rfl⟩ := Prod.mk.inj (Option.some.inj answered)
    simp only [stageChanges, if_true, Changes.updateRow]
    split
    · exact rest input (some found) _ _ moreKnown rfl
    · exact rest input (some found) _ _ moreKnown rfl
  · obtain ⟨rfl, rfl⟩ := Prod.mk.inj (Option.some.inj answered)
    exact rest input none _ _ moreKnown rfl

/-- The capacity of a member is checked under the lock of the profile unless the
e-mail is known. -/
theorem meets_assertMemberCapacity (unpromising : Unpromising contract) {input : MembershipInput}
    {continuation : Bool → TenantChanges → Script Row Outside Point Outcome}
    (untouched : changes.lookup (Key.profile input.tenantId) = none)
    (skipped : ∀ later, knowledge.Later later contract →
      (continuation true changes).Meets contract later)
    (checked : ∀ profile locked store, knowledge.Later locked contract →
      locked.Allows contract store →
      (⟨.profile input.tenantId, profile⟩ : Sigma Row) ∈ locked.known →
      Key.profile input.tenantId ∈ locked.mine →
      tenantUsage lower (applyChanges store changes) input.tenantId .members + 1 ≤
        profile.quotas.limit .members →
      (continuation false changes).Meets contract (locked.after store [])) :
    (assertMemberCapacity lower input continuation changes).Meets contract knowledge := by
  simp only [assertMemberCapacity, Transaction.bind_apply]
  apply meets_readRows unpromising
  intro outside store allowed
  split
  · exact skipped _ (allowed.later [])
  · apply meets_assertTenantCapacity unpromising untouched
    intro profile locked counted moreKnown
    exact checked profile locked counted ((allowed.later []).trans moreKnown)

/-! ## The update of memberships -/

/-- The staged memberships are those with the e-mail, as the transaction has
locked them, with the roles and the status of the command. -/
def RevisesMembers (lower : JsString → JsString) (input : MembershipInput)
    (knowledge : Knowledge Row) (changes : TenantChanges) : Prop :=
  ∀ tenantId principalId change,
    changes.lookup (Key.membership tenantId principalId) = some change →
    ∃ row, (⟨.membership tenantId principalId, row⟩ : Sigma Row) ∈ knowledge.known ∧
      tenantId = input.tenantId ∧ row.email.map lower = some input.email ∧
      change.image = some { row with roles := input.roles, status := input.status }

theorem RevisesMembers.later {input : MembershipInput} {later : Knowledge Row}
    (revises : RevisesMembers lower input knowledge changes)
    (moreKnown : knowledge.known ⊆ later.known) :
    RevisesMembers lower input later changes := by
  intro tenantId principalId change staged
  obtain ⟨row, known, rest⟩ := revises tenantId principalId change staged
  exact ⟨row, moreKnown known, rest⟩

/-- The update of the memberships with the e-mail; the induction is on those
still to be staged. -/
theorem RevisesMembers.updateAll {input : MembershipInput}
    (found : List (JsString × Membership)) (changes : TenantChanges)
    (revises : RevisesMembers lower input knowledge changes)
    (known : ∀ row ∈ found,
      (⟨.membership input.tenantId row.1, row.2⟩ : Sigma Row) ∈ knowledge.known)
    (same : ∀ row ∈ found, row.2.email.map lower = some input.email) :
    RevisesMembers lower input knowledge (found.foldl (fun changes row =>
        changes.updateRow (.membership input.tenantId row.1)
          { row.2 with roles := input.roles, status := input.status }) changes) ∧
      ∀ key, (∀ tenantId principalId, key ≠ .membership tenantId principalId) →
        (found.foldl (fun changes row =>
          changes.updateRow (.membership input.tenantId row.1)
            { row.2 with roles := input.roles, status := input.status }) changes).lookup key =
          changes.lookup key := by
  induction found generalizing changes with
  | nil => exact ⟨revises, fun _ _ => rfl⟩
  | cons first rest inductionHypothesis =>
      have revised : RevisesMembers lower input knowledge
          (changes.updateRow (.membership input.tenantId first.1)
            { first.2 with roles := input.roles, status := input.status }) := by
        intro tenantId principalId change staged
        by_cases written : Key.membership tenantId principalId =
            .membership input.tenantId first.1
        · obtain ⟨rfl, rfl⟩ := Key.membership.inj written
          rw [Changes.lookup_updateRow_same] at staged
          obtain rfl := Option.some.inj staged
          exact ⟨first.2, known first List.mem_cons_self, rfl, same first List.mem_cons_self,
            Change.image_renew _ _⟩
        · rw [Changes.lookup_updateRow_other _ _ _ _ written] at staged
          exact revises tenantId principalId change staged
      obtain ⟨all, others⟩ := inductionHypothesis _ revised
        (fun row member => known row (List.mem_cons_of_mem first member))
        (fun row member => same row (List.mem_cons_of_mem first member))
      refine ⟨all, fun key other => (others key other).trans ?_⟩
      exact Changes.lookup_updateRow_other _ _ _ _ (other _ _)

/-- The update statement locks the memberships it revises and stages nothing else. -/
theorem meets_updateMemberships (unpromising : Unpromising contract) {input : MembershipInput}
    {continuation : Unit → TenantChanges → Script Row Outside Point Outcome}
    (untouched : ∀ tenantId principalId,
      changes.lookup (Key.membership tenantId principalId) = none)
    (rest : ∀ updated later, knowledge.Later later contract →
      RevisesMembers lower input later updated →
      (∀ key, (∀ tenantId principalId, key ≠ .membership tenantId principalId) →
        updated.lookup key = changes.lookup key) →
      (continuation () updated).Meets contract later) :
    (updateMemberships lower input continuation changes).Meets contract knowledge := by
  simp only [updateMemberships, Transaction.bind_apply]
  apply meets_query
  intro outside store locks rows allowed _ answered
  refine ⟨unpromising.promise _ _ _ _ _, ?_⟩
  obtain ⟨asked, rfl⟩ := Prod.mk.inj (Option.some.inj answered)
  have revises : RevisesMembers lower input (knowledge.after store locks) changes := by
    intro tenantId principalId change staged
    rw [untouched] at staged
    cases staged
  obtain ⟨revised, others⟩ := revises.updateAll
    (membershipsOf lower (applyChanges store changes) input.tenantId input.email) changes
    (by
      rintro ⟨principalId, row⟩ member
      have seen := mem_memberships.mp (List.mem_of_mem_filter member)
      rw [membershipAt, lookup_applyChanges, untouched] at seen
      exact Knowledge.mem_after (asked ▸ List.mem_map.mpr ⟨_, member, rfl⟩) seen)
    (by
      intro row member
      simpa using List.of_mem_filter member)
  exact rest _ _ (allowed.later _) revised others

/-- setMember stages the grant and the memberships of the e-mail and nothing else. -/
theorem meets_writeMember (unpromising : Unpromising contract) {input : MembershipInput}
    {continuation : Unit → TenantChanges → Script Row Outside Point Outcome}
    (rest : ∀ updated later, knowledge.Later later contract →
      RevisesMembers lower input later updated →
      (∀ key change, updated.lookup key = some change →
        (∃ tenantId principalId, key = .membership tenantId principalId) ∨
        change.image.map (Sigma.mk key) = some (⟨.grant input.tenantId input.email,
          { roles := input.roles, status := input.status }⟩ : Sigma Row)) →
      (continuation () updated).Meets contract later) :
    (upsertRow (.grant input.tenantId input.email)
      (fun _ _ => { roles := input.roles, status := input.status })
      (fun _ => updateMemberships lower input continuation) ∅).Meets contract knowledge := by
  apply meets_upsertRow unpromising
  intro _ _ granted first firstKnown image
  apply meets_updateMemberships unpromising
  · intro tenantId principalId
    exact AList.lookup_insert_ne (by simp)
  · intro updated later moreKnown revises others
    apply rest updated later (firstKnown.trans moreKnown) revises
    intro key change staged
    by_cases membership : ∃ tenantId principalId, key = .membership tenantId principalId
    · exact .inl membership
    · right
      push Not at membership
      rw [others key membership] at staged
      by_cases same : key = .grant input.tenantId input.email
      · subst same
        have inserted : AList.lookup (Key.grant input.tenantId input.email)
            (AList.insert (Key.grant input.tenantId input.email) granted (∅ : TenantChanges)) =
              some granted := AList.lookup_insert _
        obtain rfl := Option.some.inj (inserted.symm.trans staged)
        rw [image]
        rfl
      · have absent : AList.lookup key (AList.insert (Key.grant input.tenantId input.email) granted
            (∅ : TenantChanges)) = AList.lookup key (∅ : TenantChanges) :=
          AList.lookup_insert_ne same
        rw [absent] at staged
        cases staged

/-! ## The claims -/

/-- The staged rows are memberships of the actor, each with the e-mail and the
roles of one of the grants. -/
def ClaimsMembers (principalId email : JsString) (grants : List (Uuid × List TenantRole))
    (changes : TenantChanges) : Prop :=
  ∀ key change, changes.lookup key = some change →
    ∃ tenantId, ∃ row : Membership,
      (tenantId, row.roles) ∈ grants ∧ row.status = .active ∧ row.email = some email ∧
      change.image.map (Sigma.mk key) =
        some (⟨.membership tenantId principalId, row⟩ : Sigma Row)

/-- The loop over the grants; the induction is on the grants still to be claimed. -/
theorem meets_claimGrants (unpromising : Unpromising contract) {principalId email : JsString}
    {claimed : List (Uuid × List TenantRole)}
    {continuation : Unit → TenantChanges → Script Row Outside Point Outcome}
    (remaining : List (Uuid × List TenantRole)) (among : remaining ⊆ claimed)
    (claims : ClaimsMembers principalId email claimed changes)
    (rest : ∀ updated later, knowledge.Later later contract →
      ClaimsMembers principalId email claimed updated →
      (continuation () updated).Meets contract later) :
    (claimGrants lower principalId email remaining continuation changes).Meets contract
      knowledge := by
  induction remaining generalizing changes knowledge with
  | nil => exact rest changes knowledge .refl claims
  | cons first others inductionHypothesis =>
      obtain ⟨tenantId, roles⟩ := first
      simp only [claimGrants, Transaction.bind_apply]
      apply meets_query
      intro _ store locks _ allowed _ _
      refine ⟨unpromising.promise _ _ _ _ _, ?_⟩
      apply meets_upsertRow unpromising
      intro input found written later moreKnown image
      apply inductionHypothesis (List.Subset.trans (List.subset_cons_self _ _) among)
      · intro key change staged
        by_cases same : key = .membership tenantId principalId
        · subst same
          have inserted : AList.lookup (Key.membership tenantId principalId)
              (AList.insert (Key.membership tenantId principalId) written changes) =
                some written := AList.lookup_insert _
          obtain rfl := Option.some.inj (inserted.symm.trans staged)
          have granted : (tenantId, roles) ∈ claimed := among List.mem_cons_self
          rw [image]
          refine ⟨tenantId, _, ?_, ?_, ?_, rfl⟩
          · cases found <;> exact granted
          · cases found <;> rfl
          · cases found <;> rfl
        · have untouched : AList.lookup key (AList.insert (Key.membership tenantId principalId)
              written changes) = changes.lookup key := AList.lookup_insert_ne same
          rw [untouched] at staged
          exact claims key change staged
      · intro updated last lastKnown
        exact rest updated last (((allowed.later locks).trans moreKnown).trans lastKnown)

end

end Vasi.TenantStore
