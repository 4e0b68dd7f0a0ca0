import Vasi.Productization
import Vasi.TenantRules

/-!
# The last owner of a tenant

setMember counts the owners of the tenant in its own transaction and takes no
lock that another setMember would wait for, so what it counts may be gone when
it commits; a claimed grant overwrites the roles of a membership and counts
nothing. A tenant keeps an owner as long as every commit that takes the owner
role from a membership finds another owner committed, and it need not when two
owners demote each other.
-/
namespace Vasi.TenantOwners

open JsValue IsoTime ReadCommitted TenantStore
open EngineRows (Uuid)

/-- A tenant has an active membership with the owner role. -/
def HasOwner (store : TenantRows) (tenantId : Uuid) : Prop :=
  ∃ principalId row, membershipAt store tenantId principalId = some row ∧ row.owns = true

/-- The rows that provisionTenant adds for the members of a new tenant. -/
def provisionMembers (store : TenantRows) (tenantId : Uuid) (actor : Actor)
    (ownerEmail : Option JsString) (now : Time) : TenantRows :=
  let membership : Membership :=
    { roles := [.owner], status := .active, email := actor.email
      source := .installationProvisioning, validFrom := now, expiresAt := none }
  let provisioned := AList.insert (Key.membership tenantId actor.principalId) membership store
  match ownerEmail with
  | some email => AList.insert (Key.grant tenantId email) ⟨[.owner], .active⟩ provisioned
  | none => provisioned

/-- A provisioned tenant has an owner. -/
theorem provisionMembers_hasOwner (store : TenantRows) (tenantId : Uuid) (actor : Actor)
    (ownerEmail : Option JsString) (now : Time) :
    HasOwner (provisionMembers store tenantId actor ownerEmail now) tenantId := by
  let membership : Membership :=
    { roles := [.owner], status := .active, email := actor.email
      source := .installationProvisioning, validFrom := now, expiresAt := none }
  refine ⟨actor.principalId, membership, ?_, by simp [membership, Membership.owns]⟩
  cases ownerEmail with
  | none => exact AList.lookup_insert store
  | some email => exact (AList.lookup_insert_ne (by simp)).trans (AList.lookup_insert store)

/-- The calls that change the members of a tenant. -/
inductive MemberCall where
  | setMember (actor : Actor) (input : MembershipInput)
  | listTenants (actor : Actor)

def start (lower : JsString → JsString) : MemberCall → Script Row Outside Point Outcome
  | .setMember actor input => (setMember lower actor input).script
  | .listTenants actor => (listTenants lower actor).script

/-- A tenant that has been provisioned has an owner in every state that calls by
any actors reach. -/
def KeepsOwner (lower : JsString → JsString) (guard : TenantGuard) : Prop :=
  ∀ earlier tenantId actor ownerEmail now state,
    Runs (start lower) guard
      (State.idle Row Outside Point Outcome (provisionMembers earlier tenantId actor ownerEmail now))
      state →
    HasOwner state.store tenantId

/-! ## The effects of the commits -/

/-- What setMember makes of the memberships. -/
def SetsMember (lower : JsString → JsString) (input : MembershipInput)
    (before after : TenantRows) : Prop :=
  ∀ tenantId principalId,
    membershipAt after tenantId principalId = membershipAt before tenantId principalId ∨
    ∃ row, membershipAt before tenantId principalId = some row ∧ tenantId = input.tenantId ∧
      row.email.map lower = some input.email ∧
      membershipAt after tenantId principalId =
        some { row with roles := input.roles, status := input.status }

/-- What the claim of grants makes of the memberships. -/
def ClaimsGrants (principalId : JsString) (grants : List (Uuid × List TenantRole))
    (before after : TenantRows) : Prop :=
  ∀ tenantId principal,
    membershipAt after tenantId principal = membershipAt before tenantId principal ∨
    principal = principalId ∧ ∃ row, (tenantId, row.roles) ∈ grants ∧ row.status = .active ∧
      membershipAt after tenantId principal = some row

/-- The effect of each transaction on the memberships. -/
def memberEffect (lower : JsString → JsString) :
    TransactionName → TenantRows → TenantRows → Prop
  | .setMember input _ => SetsMember lower input
  | .claimMembershipGrants principalId _ grants => ClaimsGrants principalId grants
  | _ => fun _ _ => False

/-- The contract of the calls: the effects of the commits, and nothing else. -/
def memberContract (lower : JsString → JsString) (guard : TenantGuard) :
    Contract Row Outside Point Outcome where
  guard := guard
  invariant := fun _ => True
  moves := fun _ _ _ => True
  effect := fun point _ before after => match point with
    | .commit name => memberEffect lower name before after
    | .statement => False
  promise := fun _ _ _ _ _ => True
  moves_refl := fun _ _ => trivial
  moves_trans := fun _ _ _ _ _ _ => trivial
  moves_anti := fun _ _ _ _ _ _ => trivial

section

variable {lower : JsString → JsString} {guard : TenantGuard} {changes : TenantChanges}
  {knowledge : Knowledge Row}

theorem memberContract_unpromising : Unpromising (memberContract lower guard) :=
  ⟨fun _ _ _ _ _ => trivial⟩

/-- The commit of setMember revises the memberships as they are committed. -/
theorem setsMember_of_revises {input : MembershipInput} {store : TenantRows}
    (revises : RevisesMembers lower input knowledge changes)
    (current : Current knowledge.known store) :
    SetsMember lower input store (applyChanges store changes) := by
  intro tenantId principalId
  rw [membershipAt, lookup_applyChanges]
  cases staged : changes.lookup (Key.membership tenantId principalId) with
  | none => exact .inl rfl
  | some change =>
      obtain ⟨row, known, tenant, same, image⟩ := revises tenantId principalId change staged
      exact .inr ⟨row, current _ known, tenant, same, image⟩

theorem setMember_meets (actor : Actor) (input : MembershipInput) (store : TenantRows) :
    (setMember lower actor input).script.Meets (memberContract lower guard) (.start store) := by
  have written : ∀ known, ∀ knowledge : Knowledge Row, Script.Meets (memberContract lower guard)
      (upsertRow (.grant input.tenantId input.email)
        (fun _ _ => { roles := input.roles, status := input.status })
        (fun _ => updateMemberships lower input fun _ => assertOwner input.tenantId fun _ =>
          commitChanges (.commit (.setMember input known)) fun _ _ => .stop .done) ∅)
      knowledge := by
    intro known knowledge
    apply meets_writeMember memberContract_unpromising
    intro updated revised _ revises _
    simp only [assertOwner, Transaction.bind_apply]
    apply meets_readRows memberContract_unpromising
    intro outside counted allowed
    apply meets_require
    intro _
    refine meets_commitChanges ?_ fun _ _ _ _ => trivial
    intro store allowedThen _
    exact setsMember_of_revises (revises.later (allowed.later []).known) allowedThen.current
  simp only [Transaction.script, setMember, Transaction.bind_apply]
  apply meets_requirePermission memberContract_unpromising
  intro permitted row _ _
  split
  · apply meets_assertMemberCapacity memberContract_unpromising rfl
    · intro later _
      exact written true later
    · intro profile locked counted _ _ _ _ _
      exact written false _
  · exact written false _

/-- The commit of a claim gives the actor memberships with the roles of the grants. -/
theorem claimsGrants_of_claims {principalId email : JsString}
    {grants : List (Uuid × List TenantRole)} {store : TenantRows}
    (claims : ClaimsMembers principalId email grants changes) :
    ClaimsGrants principalId grants store (applyChanges store changes) := by
  intro tenantId principal
  rw [membershipAt, lookup_applyChanges]
  cases staged : changes.lookup (Key.membership tenantId principal) with
  | none => exact .inl rfl
  | some change =>
      obtain ⟨tenant, row, granted, active, _, result⟩ := claims _ change staged
      obtain ⟨image, found, same⟩ := Option.map_eq_some_iff.mp result
      cases same
      exact .inr ⟨rfl, row, granted, active, found⟩

theorem listTenants_meets (actor : Actor) (store : TenantRows) :
    (listTenants lower actor).script.Meets (memberContract lower guard) (.start store) := by
  unfold Transaction.script listTenants
  cases actor.email with
  | none => exact trivial
  | some email =>
      simp only [Transaction.bind_apply]
      apply meets_readRows memberContract_unpromising
      intro input read _
      apply meets_claimGrants memberContract_unpromising _ (List.Subset.refl _)
      · intro key change staged
        cases staged
      · intro updated later _ claims
        apply meets_readRows memberContract_unpromising
        intro _ shown _
        refine meets_commitChanges ?_ fun _ _ _ _ => trivial
        intro store _ _
        exact claimsGrants_of_claims claims

/-- Every call keeps the contract. -/
theorem memberContract_valid : (memberContract lower guard).Valid (start lower) where
  keeps := fun _ _ _ _ _ => ⟨trivial, fun _ _ => trivial⟩
  meets := by
    intro call store _
    cases call with
    | setMember actor input => exact setMember_meets actor input store
    | listTenants actor => exact listTenants_meets actor store

end

/-! ## The law of the last owner -/

/-- Another owner of the tenant is committed than the memberships of an e-mail. -/
def otherOwner (lower : JsString → JsString) (store : TenantRows) (tenantId : Uuid)
    (email : JsString) : Bool :=
  (memberships store tenantId).any fun found =>
    found.2.owns && decide (found.2.email.map lower ≠ some email)

/-- Another owner of the tenant is committed than a principal. -/
def otherPrincipalOwns (store : TenantRows) (tenantId : Uuid) (principalId : JsString) : Bool :=
  (memberships store tenantId).any fun found => found.2.owns && decide (found.1 ≠ principalId)

/-- A commit of setMember that gives no owner role finds another owner than the
memberships with its e-mail, and a commit of a claim finds another owner than
the actor in each tenant in which the claimed grant has no owner role. -/
def ownersRemain (lower : JsString → JsString) : TenantGuard where
  statement := fun _ _ _ => true
  commit := fun point store => match point with
    | .commit (.setMember input _) =>
        (input.status = .active && .owner ∈ input.roles) ||
          otherOwner lower store input.tenantId input.email
    | .commit (.claimMembershipGrants principalId _ grants) =>
        grants.all fun grant =>
          .owner ∈ grant.2 || otherPrincipalOwns store grant.1 principalId
    | _ => true

variable {lower : JsString → JsString}

/-- setMember keeps an owner if it gives the role or another owner is there. -/
theorem SetsMember.hasOwner {input : MembershipInput} {known : Bool} {before after : TenantRows}
    (sets : SetsMember lower input before after)
    (guarded : (ownersRemain lower).commit (.commit (.setMember input known)) before = true)
    {tenantId : Uuid} (owner : HasOwner before tenantId) : HasOwner after tenantId := by
  simp only [ownersRemain, Bool.or_eq_true, Bool.and_eq_true, decide_eq_true_eq] at guarded
  obtain ⟨principalId, row, found, owns⟩ := owner
  rcases sets tenantId principalId with same | ⟨earlier, there, rfl, email, written⟩
  · exact ⟨principalId, row, same.trans found, owns⟩
  · rcases guarded with ⟨active, role⟩ | other
    · refine ⟨principalId, _, written, ?_⟩
      simp [Membership.owns, active, role]
    · simp only [otherOwner, List.any_eq_true, Bool.and_eq_true, decide_eq_true_eq] at other
      obtain ⟨⟨another, held⟩, member, owned, different⟩ := other
      have kept := mem_memberships.mp member
      rcases sets input.tenantId another with same | ⟨last, lastThere, _, lastEmail, _⟩
      · exact ⟨another, held, same.trans kept, owned⟩
      · obtain rfl := Option.some.inj (lastThere.symm.trans kept)
        exact absurd lastEmail different

/-- A claim keeps an owner if each grant gives the role or another owner is there. -/
theorem ClaimsGrants.hasOwner {principalId email : JsString} {grants : List (Uuid × List TenantRole)}
    {before after : TenantRows} (claims : ClaimsGrants principalId grants before after)
    (guarded : (ownersRemain lower).commit
      (.commit (.claimMembershipGrants principalId email grants)) before = true)
    {tenantId : Uuid} (owner : HasOwner before tenantId) : HasOwner after tenantId := by
  simp only [ownersRemain, List.all_eq_true, Bool.or_eq_true, decide_eq_true_eq] at guarded
  obtain ⟨principal, row, found, owns⟩ := owner
  rcases claims tenantId principal with same | ⟨rfl, last, granted, active, written⟩
  · exact ⟨principal, row, same.trans found, owns⟩
  · rcases guarded _ granted with role | other
    · refine ⟨principal, last, written, ?_⟩
      simp [Membership.owns, active, role]
    · simp only [otherPrincipalOwns, List.any_eq_true, Bool.and_eq_true, decide_eq_true_eq]
        at other
      obtain ⟨⟨another, held⟩, member, owned, different⟩ := other
      have kept := mem_memberships.mp member
      rcases claims tenantId another with same | ⟨actor, _⟩
      · exact ⟨another, held, same.trans kept, owned⟩
      · exact absurd actor different

/-- A tenant keeps an owner through every run whose commits leave one. -/
theorem runs_hasOwner {before after : State Row Outside Point Outcome}
    (holds : Holds (memberContract lower (ownersRemain lower)) before)
    (run : Runs (start lower) (ownersRemain lower) before after) {tenantId : Uuid}
    (owner : HasOwner before.store tenantId) : HasOwner after.store tenantId := by
  refine holds.keeps memberContract_valid (HasOwner · tenantId) ?_ owner run
  intro point known store next owned commits
  have effect := commits.effect
  have guarded := commits.guarded
  cases point with
  | statement => exact effect.elim
  | commit name =>
      cases name with
      | setMember input => exact SetsMember.hasOwner effect guarded owned
      | claimMembershipGrants principalId email grants =>
          exact ClaimsGrants.hasOwner effect guarded owned
      | _ => exact effect.elim

theorem owner_remains (lower : JsString → JsString) : KeepsOwner lower (ownersRemain lower) := by
  intro earlier tenantId actor ownerEmail now state run
  have idle : Holds (memberContract lower (ownersRemain lower))
      (State.idle Row Outside Point Outcome
        (provisionMembers earlier tenantId actor ownerEmail now)) := Holds.idle trivial
  exact runs_hasOwner idle run (provisionMembers_hasOwner earlier tenantId actor ownerEmail now)

/-! ## Two owners that demote each other -/

def exampleOwner : Actor := ⟨js "alice", some (js "alice@example.com"), false⟩

def exampleColleague : Actor := ⟨js "bob", some (js "bob@example.com"), false⟩

/-- The command that leaves only the role of an auditor. -/
def demotion (email : JsString) : MembershipInput := ⟨email, [.auditor], .active, 1⟩

/-- The statements of a session, as many as there are. -/
def statements (session : SessionId) (count : ℕ) : List (Label Outside MemberCall) :=
  List.replicate count (.statement session ⟨1, 0⟩)

/-- The colleague claims the owner grant; then each owner demotes the other, and
both count before either commits. -/
def mutualDemotion : List (Label Outside MemberCall) :=
  .openSession 1 (.listTenants exampleColleague) :: statements 1 4 ++ [.commit 1] ++
    .openSession 2 (.setMember exampleOwner (demotion (js "bob@example.com"))) :: statements 2 5 ++
    .openSession 3 (.setMember exampleColleague (demotion (js "alice@example.com"))) ::
      statements 3 5 ++ [.commit 2, .commit 3]

theorem mutualDemotion_follows :
    ((execute (start (List.map Productization.asciiLower)) (Guard.none Row Outside Point)
      (State.idle Row Outside Point Outcome
        (provisionMembers ∅ 1 exampleOwner (some (js "bob@example.com")) 0)) mutualDemotion).map
      fun state => (memberships state.store 1).map fun found => found.2.roles) =
      some [[.auditor], [.auditor]] := by
  decide +kernel

/-- Without the condition a tenant can lose its last owner. -/
theorem last_owner_lost : ¬ KeepsOwner (List.map Productization.asciiLower) (Guard.none Row Outside Point) := by
  intro keeps
  obtain ⟨state, followed, roles⟩ := Option.map_eq_some_iff.mp mutualDemotion_follows
  obtain ⟨principalId, row, found, owns⟩ := keeps ∅ 1 exampleOwner _ 0 state
    (execute_runs _ _ _ _ followed)
  have member : row.roles ∈ (memberships state.store 1).map fun found => found.2.roles :=
    List.mem_map.mpr ⟨(principalId, row), mem_memberships.mpr found, rfl⟩
  rw [roles] at member
  have auditor : row.roles = [.auditor] := by simpa using member
  simp [Membership.owns, auditor] at owns

end Vasi.TenantOwners
