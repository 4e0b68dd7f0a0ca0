import Vasi.ParticipantNotifications
import Vasi.Sessions

/-!
# Notifications are accounted for

What holds in every run of the workers in which no queueing finds its key taken and no
delivery is settled after its claim has been recovered. Both exceptions are reached: the
look for an earlier job and the insertion have different snapshots, and the insertion
does nothing silently; and a slow worker still settles a job that is no longer its own.

A job that has come to its end has one terminal event, that of its outcome, and no other
job has one. The four tables of types and statuses agree wherever the request and the
scope exist, as they do for every job.
-/
namespace Vasi.ParticipantNotifications

open JsValue Notifications Sessions

/-! ## What is to hold -/

/-- The event type that tells how a job came to its end. -/
def Job.finalEvent (job : Job) : Option EventType :=
  match job.status with
  | .completed => job.result.map Outcome.eventType
  | .failed => some .failed
  | _ => none

/-- The event is about the queueing of the job. -/
def queues (jobId : Id) (event : NotificationEvent) : Bool :=
  event.jobId = jobId ∧ event.eventType = .queued

/-- The type of an event about the end of the job. -/
def ends (jobId : Id) (event : NotificationEvent) : Option EventType :=
  if event.jobId = jobId ∧ event.eventType ≠ .queued then some event.eventType else none

/-- Notifications are accounted for. -/
structure Accounted (state : State) : Prop where
  unique : ∀ requestId tenantId type, (state.jobs.filter fun job =>
    job.participantDataRequestId = requestId ∧ job.tenantId = tenantId ∧
      job.notificationType = type).length ≤ 1
  named : ∀ event ∈ state.events, event.eventType = .queued →
    ∃ job ∈ state.jobs, job.id = event.jobId
  queued : ∀ job ∈ state.jobs, (state.events.filter (queues job.id)).length = 1
  ended : ∀ job ∈ state.jobs, state.events.filterMap (ends job.id) = job.finalEvent.toList
  settled : ∀ job ∈ state.jobs, job.status = .completed ∨ job.status = .failed →
    job.finalEvent.isSome
  pending : ∀ job ∈ state.jobs, job.status = .participantPending →
    passes (claimable job.notificationType (state.requests job.participantDataRequestId)
        (state.scopes job.participantDataRequestId job.tenantId)) =
      !passes (suppressible job.notificationType (state.requests job.participantDataRequestId)
        (state.scopes job.participantDataRequestId job.tenantId))

/-- No worker has run. -/
structure Initial (state : State) : Prop where
  jobs : state.jobs = []
  events : state.events = []
  sessions : ∀ id, state.sessions id = none

/-- Notifications are accounted for in every run from here. -/
def StaysAccounted (careful : Prop) (start : State) : Prop :=
  Initial start → ∀ state, Relation.ReflTransGen (Step careful) start state → Accounted state

/-! ## Keys and tables -/

/-- A key tells what it is made of. -/
theorem idempotencyKey_injective {request otherRequest tenant otherTenant : Id}
    {type otherType : NotificationType}
    (same : idempotencyKey request tenant type = idempotencyKey otherRequest otherTenant otherType) :
    request = otherRequest ∧ tenant = otherTenant ∧ type = otherType := by
  unfold idempotencyKey at same
  simp only [List.append_assoc] at same
  have rest := List.append_cancel_left same
  obtain ⟨requests, rest⟩ := List.append_inj rest (request.2.trans otherRequest.2.symm)
  have rest := List.append_cancel_left rest
  obtain ⟨tenants, rest⟩ := List.append_inj rest (tenant.2.trans otherTenant.2.symm)
  have types := List.append_cancel_left rest
  refine ⟨Subtype.ext requests, Subtype.ext tenants, ?_⟩
  cases type <;> cases otherType <;> first | rfl | exact absurd types (by decide)

/-- A job whose request and scope exist is claimable or suppressible, and not both. -/
theorem claimable_or_suppressible (type : NotificationType) (request : RequestStatus)
    (scope : ScopeStatus) : passes (claimable type (some request) (some scope)) =
      !passes (suppressible type (some request) (some scope)) := by
  cases type <;> cases request <;> cases scope <;> rfl

/-- The program's table is that of the claim, also where the scope does not exist. -/
theorem participantDataJobIsEligible_eq (type : NotificationType) (request : Option RequestStatus)
    (scope : Option ScopeStatus) :
    participantDataJobIsEligible type request scope = passes (claimable type request scope) := by
  cases request with
  | none =>
      cases scope with
      | none => cases type <;> rfl
      | some scope => cases type <;> cases scope <;> rfl
  | some request =>
      cases scope with
      | none => cases type <;> cases request <;> rfl
      | some scope => cases type <;> cases request <;> cases scope <;> rfl

/-- A job is queued only when it is claimable. -/
theorem notificationTypeOf_claimable {request : RequestStatus} {scope : ScopeStatus}
    {hasExport : Bool} {type : NotificationType}
    (typed : notificationTypeOf request scope hasExport = some type) :
    passes (claimable type (some request) (some scope)) = true := by
  cases request <;> cases scope <;> cases hasExport <;> cases type <;>
    first | rfl | exact absurd typed (by decide)

/-! ## The invariant -/

/-- What a session still finds so. -/
def Current (state : State) : Session → Prop
  | .selecting _ requestId tenantId _ _ =>
      state.requests requestId ≠ none ∧ state.scopes requestId tenantId ≠ none
  | .selected requestId tenantId _ =>
      state.requests requestId ≠ none ∧ state.scopes requestId tenantId ≠ none
  | .queued job inserted =>
      inserted = true ∧ job.status = .participantPending ∧
        (state.requests job.participantDataRequestId ≠ none ∧
          state.scopes job.participantDataRequestId job.tenantId ≠ none) ∧
        (∀ other ∈ state.jobs, other.id ≠ job.id ∧ other.idempotencyKey ≠ job.idempotencyKey) ∧
        ∀ event ∈ state.events, event.jobId ≠ job.id
  | _ => True

/-- Two jobs can both be in the table. -/
def Distinct (first second : Job) : Prop :=
  first.id ≠ second.id ∧ first.idempotencyKey ≠ second.idempotencyKey

structure Sound (state : State) : Prop where
  distinct : state.jobs.Pairwise Distinct
  rooted : ∀ job ∈ state.jobs, state.requests job.participantDataRequestId ≠ none ∧
    state.scopes job.participantDataRequestId job.tenantId ≠ none
  named : ∀ event ∈ state.events, ∃ job ∈ state.jobs, job.id = event.jobId
  queued : ∀ job ∈ state.jobs, (state.events.filter (queues job.id)).length = 1
  ended : ∀ job ∈ state.jobs, state.events.filterMap (ends job.id) = job.finalEvent.toList
  settled : ∀ job ∈ state.jobs, job.status = .completed → job.result ≠ none
  current : ∀ id session, state.sessions id = some session → Current state session
  apart : ∀ id other one two, id ≠ other → state.sessions id = some one →
    state.sessions other = some two →
    ∀ first ∈ one.staged, ∀ second ∈ two.staged, Distinct first second

theorem Distinct.symm {first second : Job} (distinct : Distinct first second) :
    Distinct second first :=
  ⟨distinct.1.symm, distinct.2.symm⟩

/-- A session reads what it knows from the rows only. -/
theorem Current.same {before after : State} {session : Session} (current : Current before session)
    (requests : after.requests = before.requests) (scopes : after.scopes = before.scopes)
    (jobs : after.jobs = before.jobs) (events : after.events = before.events) :
    Current after session := by
  cases session <;> simp_all [Current]

section

variable {state : State}

/-- A session goes on. -/
theorem Sound.set (sound : Sound state) {id : ℕ} {session : Session}
    (current : Current state session)
    (apart : ∀ other two, other ≠ id → state.sessions other = some two →
      ∀ first ∈ session.staged, ∀ second ∈ two.staged, Distinct first second) :
    Sound (state.set id (some session)) := by
  refine ⟨sound.distinct, sound.rooted, sound.named, sound.queued, sound.ended, sound.settled,
    each_update (fun one isMine => ?_) fun other two _ found => ?_,
    pairs_update (fun one two apart first isFirst second isSecond => ?_) (fun one isMine => ?_)
      sound.apart⟩
  · cases isMine
    exact current.same rfl rfl rfl rfl
  · exact (sound.current other two found).same rfl rfl rfl rfl
  · exact (apart second isSecond first isFirst).symm
  · cases isMine
    exact apart

/-- A session ends. -/
theorem Sound.drop (sound : Sound state) (id : ℕ) : Sound (state.set id none) := by
  refine ⟨sound.distinct, sound.rooted, sound.named, sound.queued, sound.ended, sound.settled,
    each_update (fun one => nofun) fun other two _ found => ?_,
    pairs_update (fun one two apart first isFirst second isSecond => ?_) (fun one => nofun)
      sound.apart⟩
  · exact (sound.current other two found).same rfl rfl rfl rfl
  · exact (apart second isSecond first isFirst).symm

end

/-! ## Jobs that change -/

/-- A change of a job leaves what identifies it. -/
structure Keeps (before after : Job) : Prop where
  id : after.id = before.id
  notificationType : after.notificationType = before.notificationType
  tenantId : after.tenantId = before.tenantId
  requestId : after.participantDataRequestId = before.participantDataRequestId

theorem Keeps.key {before after : Job} (keeps : Keeps before after) :
    after.idempotencyKey = before.idempotencyKey := by
  rw [Job.idempotencyKey, Job.idempotencyKey, keeps.requestId, keeps.tenantId,
    keeps.notificationType]

/-- An event of another job neither queues nor ends this one. -/
theorem queues_other {event : NotificationEvent} {jobId : Id} (other : event.jobId ≠ jobId) :
    queues jobId event = false := by
  simp [queues, other]

theorem ends_other {event : NotificationEvent} {jobId : Id} (other : event.jobId ≠ jobId) :
    ends jobId event = none := by
  simp [ends, other]

/-- Jobs change, and with each that comes to its end goes the event that says how. -/
theorem Sound.change {state : State} (sound : Sound state) (change : Job → Job)
    (added : List NotificationEvent)
    (keeps : ∀ job ∈ state.jobs, Keeps job (change job))
    (known : ∀ event ∈ added, event.eventType ≠ .queued ∧ ∃ job ∈ state.jobs, job.id = event.jobId)
    (ended : ∀ job ∈ state.jobs, job.finalEvent.toList ++ added.filterMap (ends job.id) =
      (change job).finalEvent.toList)
    (settled : ∀ job ∈ state.jobs, (change job).status = .completed →
      (change job).result ≠ none) :
    Sound { state with jobs := state.jobs.map change, events := state.events ++ added } := by
  have unqueued (jobId : Id) : added.filter (queues jobId) = [] := by
    refine List.filter_eq_nil_iff.mpr fun event isAdded => ?_
    simp [queues, (known event isAdded).1]
  refine ⟨?_, fun job inside => ?_, fun event inside => ?_, fun job inside => ?_,
    fun job inside => ?_, fun job inside => ?_, fun other two found => ?_, sound.apart⟩
  · rw [List.pairwise_map]
    refine sound.distinct.imp_of_mem fun {first second} firstIn secondIn distinct => ?_
    rw [Distinct, (keeps first firstIn).id, (keeps second secondIn).id, (keeps first firstIn).key,
      (keeps second secondIn).key]
    exact distinct
  · obtain ⟨before, member, rfl⟩ := List.mem_map.mp inside
    rw [(keeps before member).requestId, (keeps before member).tenantId]
    exact sound.rooted before member
  · have found : ∃ job ∈ state.jobs, job.id = event.jobId := by
      rcases List.mem_append.mp inside with old | new
      · exact sound.named event old
      · exact (known event new).2
    obtain ⟨job, member, same⟩ := found
    exact ⟨change job, List.mem_map_of_mem member, (keeps job member).id.trans same⟩
  · obtain ⟨before, member, rfl⟩ := List.mem_map.mp inside
    rw [List.filter_append, unqueued, List.append_nil, (keeps before member).id]
    exact sound.queued before member
  · obtain ⟨before, member, rfl⟩ := List.mem_map.mp inside
    rw [List.filterMap_append, (keeps before member).id, sound.ended before member]
    exact ended before member
  · obtain ⟨before, member, rfl⟩ := List.mem_map.mp inside
    exact settled before member
  · have kept := sound.current other two found
    cases two with
    | queued staged inserted =>
        obtain ⟨isInserted, isPending, rooted, free, fresh⟩ := kept
        refine ⟨isInserted, isPending, rooted, fun job inside => ?_, fun event inside => ?_⟩
        · obtain ⟨before, member, rfl⟩ := List.mem_map.mp inside
          rw [(keeps before member).id, (keeps before member).key]
          exact free before member
        · rcases List.mem_append.mp inside with old | new
          · exact fresh event old
          · obtain ⟨job, member, same⟩ := (known event new).2
            rw [← same]
            exact (free job member).1
    | _ => exact kept

/-- One job changes, with the event that says how it came to its end, if it did. -/
theorem Sound.changeOne {state : State} (sound : Sound state) {job : Job}
    (inside : job ∈ state.jobs) (change : Job → Job) (event : Option NotificationEvent)
    (keeps : Keeps job (change job)) (running : job.finalEvent = none)
    (ended : (change job).finalEvent = event.map NotificationEvent.eventType)
    (about : ∀ told ∈ event, told.jobId = job.id ∧ told.eventType ≠ .queued)
    (settled : (change job).status = .completed → (change job).result ≠ none) :
    Sound { state with
      jobs := updateJob job.id change state.jobs
      events := state.events ++ event.toList } := by
  have same {other : Job} (member : other ∈ state.jobs) (isSame : other.id = job.id) :
      other = job :=
    eq_of_label (sound.distinct.imp fun pair => pair.1) member inside isSame
  refine sound.change _ _ (fun other member => ?_) (fun told isAdded => ?_) (fun other member => ?_)
    (fun other member => ?_)
  · split
    · rename_i isSame
      rw [same member isSame]
      exact keeps
    · exact ⟨rfl, rfl, rfl, rfl⟩
  · obtain ⟨isJob, notQueued⟩ := about told (Option.mem_toList.mp isAdded)
    exact ⟨notQueued, job, inside, isJob.symm⟩
  · by_cases isSame : other.id = job.id
    · rw [same member isSame, if_pos rfl, running, ended]
      cases event with
      | none => rfl
      | some told =>
          obtain ⟨isJob, notQueued⟩ := about told rfl
          simp [ends, isJob, notQueued]
    · rw [if_neg isSame]
      cases event with
      | none => simp
      | some told =>
          have none : ends other.id told = none := ends_other fun equal =>
            isSame (equal.symm.trans (about told rfl).1)
          simp [none]
  · split
    · rename_i isSame
      rw [same member isSame]
      exact settled
    · exact sound.settled other member

/-- A queued job is committed with its event. -/
theorem Sound.add {state : State} (sound : Sound state) {id : ℕ} {job : Job} {inserted : Bool}
    (queued : state.sessions id = some (.queued job inserted)) :
    Sound { state.set id none with
      jobs := state.jobs ++ [job], events := state.events ++ [job.event .queued] } := by
  obtain ⟨_, isPending, rooted, free, fresh⟩ := sound.current id _ queued
  have dropped := sound.drop id
  have unended : job.finalEvent = none := by rw [Job.finalEvent, isPending]
  have none (jobId : Id) : ends jobId (job.event .queued) = none := by
    simp [ends, Job.event]
  refine ⟨?_, fun other inside => ?_, fun event inside => ?_, fun other inside => ?_,
    fun other inside => ?_, fun other inside => ?_, fun other two found => ?_, dropped.apart⟩
  · refine List.pairwise_append.mpr ⟨sound.distinct, List.pairwise_singleton _ _, ?_⟩
    intro old isOld new isNew
    rw [List.mem_singleton.mp isNew]
    exact free old isOld
  · rcases List.mem_append.mp inside with old | new
    · exact sound.rooted other old
    · rw [List.mem_singleton.mp new]
      exact rooted
  · rcases List.mem_append.mp inside with old | new
    · obtain ⟨found, member, same⟩ := sound.named event old
      exact ⟨found, List.mem_append_left _ member, same⟩
    · rw [List.mem_singleton.mp new]
      exact ⟨job, List.mem_append_right _ (List.mem_singleton_self _), rfl⟩
  · rw [List.filter_append, List.length_append]
    rcases List.mem_append.mp inside with old | new
    · have other : queues other.id (job.event .queued) = false :=
        queues_other fun equal => (free other old).1 equal.symm
      rw [sound.queued _ old, List.filter_singleton, other]
      rfl
    · rw [List.mem_singleton.mp new]
      have earlier : state.events.filter (queues job.id) = [] :=
        List.filter_eq_nil_iff.mpr fun event told => by
          rw [queues_other (fresh event told)]
          nofun
      rw [earlier]
      simp [queues, Job.event]
  · rw [List.filterMap_append, List.filterMap_cons, none, List.filterMap_nil, List.append_nil]
    rcases List.mem_append.mp inside with old | new
    · exact sound.ended other old
    · rw [List.mem_singleton.mp new, unended]
      exact List.filterMap_eq_nil_iff.mpr fun event told => ends_other (fresh event told)
  · rcases List.mem_append.mp inside with old | new
    · exact sound.settled other old
    · rw [List.mem_singleton.mp new, isPending]
      nofun
  · rcases update_cases found with ⟨_, isNone⟩ | ⟨different, found⟩
    · cases isNone
    have kept := sound.current other two found
    cases two with
    | queued staged isInserted =>
        obtain ⟨one, two, three, freeToo, freshToo⟩ := kept
        have apart := sound.apart id other _ _ different.symm queued found job rfl staged rfl
        refine ⟨one, two, three, fun old inside => ?_, fun event inside => ?_⟩
        · rcases List.mem_append.mp inside with old | new
          · exact freeToo _ old
          · rw [List.mem_singleton.mp new]
            exact apart
        · rcases List.mem_append.mp inside with old | new
          · exact freshToo event old
          · rw [List.mem_singleton.mp new]
            exact apart.1
    | _ => exact kept

/-! ## Steps -/

theorem finalEvent_none {job : Job} (open' : job.status = .participantPending ∨
    job.status = .running) : job.finalEvent = none := by
  rcases open' with pending | running
  · rw [Job.finalEvent, pending]
  · rw [Job.finalEvent, running]

theorem settle_finalEvent (claimed row : Job) (outcome : Outcome) (completedAt : ℕ) :
    (claimed.settle outcome completedAt row).finalEvent =
      if isTerminal claimed outcome then some outcome.eventType else none := by
  unfold Job.finalEvent Job.settle nextStatus
  dsimp only
  by_cases terminal : isTerminal claimed outcome = true
  · rw [if_pos terminal, if_pos terminal]
    cases outcome <;> rfl
  · rw [if_neg terminal, if_neg terminal]

/-- Requests and scopes come and change, and none goes. -/
theorem Sound.requests {state : State} (sound : Sound state)
    {requests : Id → Option RequestStatus} {scopes : Id → Id → Option ScopeStatus}
    (requestsStay : ∀ requestId, state.requests requestId ≠ none → requests requestId ≠ none)
    (scopesStay : ∀ requestId tenantId, state.scopes requestId tenantId ≠ none →
      scopes requestId tenantId ≠ none) : Sound { state with requests, scopes } := by
  have both (requestId tenantId : Id) (rooted : state.requests requestId ≠ none ∧
      state.scopes requestId tenantId ≠ none) :
      requests requestId ≠ none ∧ scopes requestId tenantId ≠ none :=
    ⟨requestsStay requestId rooted.1, scopesStay requestId tenantId rooted.2⟩
  refine ⟨sound.distinct, fun job inside => both _ _ (sound.rooted job inside), sound.named,
    sound.queued, sound.ended, sound.settled, fun id session found => ?_, sound.apart⟩
  have kept := sound.current id session found
  cases session with
  | selecting _ requestId tenantId _ _ => exact both requestId tenantId kept
  | selected requestId tenantId _ => exact both requestId tenantId kept
  | queued job inserted => exact ⟨kept.1, kept.2.1, both _ _ kept.2.2.1, kept.2.2.2⟩
  | _ => trivial

theorem Sound.step {before after : State} (sound : Sound before) (step : Step True before after) :
    Sound after := by
  cases step with
  | tick forward =>
      refine ⟨sound.distinct, sound.rooted, sound.named, sound.queued, sound.ended, sound.settled,
        fun id session found => ?_, sound.apart⟩
      have kept := sound.current id session found
      cases session <;> exact kept
  | @changeRequest id requestId status idle free =>
      refine sound.requests (fun other present => ?_) fun _ _ present => present
      by_cases same : other = requestId
      · rw [same, Function.update_self]
        nofun
      · rwa [Function.update_of_ne same]
  | @changeScope requestId tenantId status =>
      refine sound.requests (fun _ present => present) fun request tenant present => ?_
      unfold setScope
      by_cases same : request = requestId
      · rw [same, Function.update_self]
        by_cases sameTenant : tenant = tenantId
        · rw [sameTenant, Function.update_self]
          nofun
        · rw [Function.update_of_ne sameTenant, ← same]
          exact present
      · rwa [Function.update_of_ne same]
  | changeExport =>
      refine ⟨sound.distinct, sound.rooted, sound.named, sound.queued, sound.ended, sound.settled,
        fun id session found => ?_, sound.apart⟩
      have kept := sound.current id session found
      cases session <;> exact kept
  | lookForRequest idle isRequest isScope typed absent =>
      exact sound.set ⟨by rw [isRequest]; nofun, by rw [isScope]; nofun⟩ fun _ _ _ _ => nofun
  | lockRequest selecting free isRequest typed absent =>
      exact sound.set (show _ ∧ _ from sound.current _ _ selecting) fun _ _ _ _ => nofun
  | insertJob selected newJob newEvent others guarded =>
      have absent := guarded trivial
      refine sound.set ⟨decide_eq_true absent, rfl, sound.current _ _ selected,
        fun job inside => ⟨newJob job inside, fun same => absent (List.mem_map.mpr ⟨job, inside, same⟩)⟩, newEvent⟩
        fun other two different found first isFirst second isSecond => ?_
      cases isFirst
      obtain ⟨ids, keys⟩ := others other two different found second isSecond
      exact ⟨ids.symm, keys.symm⟩
  | @commitQueue id job inserted queued =>
      obtain ⟨isInserted, _⟩ := sound.current _ _ queued
      rw [isInserted] at queued ⊢
      exact sound.add queued
  | lookForJob idle found pending due isClaimable =>
      exact sound.set trivial fun _ _ _ _ => nofun
  | @claimJob id job request scope claiming found pending due isClaimable =>
      have changed := sound.changeOne found (Job.claim before.clock) none
        ⟨rfl, rfl, rfl, rfl⟩ (finalEvent_none (.inl pending)) rfl nofun nofun
      rw [Option.toList_none, List.append_nil] at changed
      exact changed.set trivial fun _ _ _ _ => nofun
  | deliverJob delivering obsolete => exact sound.set trivial fun _ _ _ _ => nofun
  | @settleJob id job outcome settling unused guarded =>
      obtain ⟨row, inside, same, running, _⟩ := guarded trivial
      have changed := sound.changeOne inside (Job.settle job outcome before.clock)
        (if isTerminal job outcome then some (job.event outcome.eventType) else none)
        ⟨rfl, rfl, rfl, rfl⟩ (finalEvent_none (.inr running)) (by
          rw [settle_finalEvent]
          split <;> rfl)
        (fun told isTold => by
          split at isTold
          · cases isTold
            refine ⟨same.symm, ?_⟩
            cases outcome <;> nofun
          · cases isTold)
        (fun _ => nofun)
      rw [same] at changed
      have dropped := changed.drop id
      by_cases terminal : isTerminal job outcome = true
      · rw [if_pos terminal] at dropped ⊢
        exact dropped
      · rw [if_neg terminal] at dropped ⊢
        rw [Option.toList_none, List.append_nil] at dropped
        exact dropped
  | lookForObsolete idle found pending isSuppressible =>
      exact sound.set trivial fun _ _ _ _ => nofun
  | @suppressJob id job request scope suppressing found pending isSuppressible unused =>
      have changed := sound.changeOne found Job.suppress
        (some (job.event .suppressed)) ⟨rfl, rfl, rfl, rfl⟩ (finalEvent_none (.inl pending))
        rfl (fun told isTold => by cases isTold; exact ⟨rfl, nofun⟩) (fun _ => nofun)
      exact changed.drop id
  | recoverStaleJobs =>
      have keeps (job : Job) : Keeps job (job.recover before.clock) := by
        unfold Job.recover
        split <;> exact ⟨rfl, rfl, rfl, rfl⟩
      have same (job : Job) : (job.recover before.clock).finalEvent = job.finalEvent := by
        unfold Job.recover
        split
        · rename_i stale
          rw [finalEvent_none (.inr stale.1)]
          rfl
        · rfl
      have changed := sound.change (Job.recover before.clock) []
        (fun job _ => keeps job) nofun (fun job _ => by rw [same]; simp) (fun job inside => ?_)
      · rw [List.append_nil] at changed
        exact changed
      · unfold Job.recover
        split
        · nofun
        · exact sound.settled job inside
  | crash id => exact sound.drop id

theorem Sound.accounted {state : State} (sound : Sound state) : Accounted state := by
  refine ⟨fun requestId tenantId type => ?_, fun event told _ => sound.named event told,
    sound.queued, sound.ended, fun job inside isSettled => ?_, fun job inside _ => ?_⟩
  · refine filter_length_le_one (sound.distinct.imp fun {first second} distinct same => ?_)
    rw [decide_eq_true_iff, decide_eq_true_iff] at same
    obtain ⟨⟨firstRequest, firstTenant, firstType⟩, secondRequest, secondTenant, secondType⟩ := same
    refine distinct.2 ?_
    rw [Job.idempotencyKey, Job.idempotencyKey, firstRequest, firstTenant, firstType, secondRequest,
      secondTenant, secondType]
  · rcases isSettled with completed | failed
    · rw [Job.finalEvent, completed]
      dsimp only
      rw [Option.isSome_map, Option.isSome_iff_ne_none]
      exact sound.settled job inside completed
    · rw [Job.finalEvent, failed]
      rfl
  · obtain ⟨request, scope⟩ := sound.rooted job inside
    obtain ⟨status, isRequest⟩ := Option.ne_none_iff_exists'.mp request
    obtain ⟨scopeStatus, isScope⟩ := Option.ne_none_iff_exists'.mp scope
    rw [isRequest, isScope]
    exact claimable_or_suppressible _ _ _

/-- Where queueing finds its key free and a delivery settles its own claim, notifications are
accounted for in every run. -/
theorem notifications_accounted (start : State) : StaysAccounted True start := by
  intro initial state run
  have sound : Sound state := by
    induction run with
    | refl =>
        refine ⟨?_, ?_, ?_, ?_, ?_, ?_, fun id session found => ?_, fun id _ one _ _ found => ?_⟩
        · rw [initial.jobs]
          exact .nil
        · rw [initial.jobs]
          nofun
        · rw [initial.events]
          nofun
        · rw [initial.jobs]
          nofun
        · rw [initial.jobs]
          nofun
        · rw [initial.jobs]
          nofun
        · rw [initial.sessions id] at found
          cases found
        · rw [initial.sessions id] at found
          cases found
    | tail _ step inductionHypothesis => exact inductionHypothesis.step step
  exact sound.accounted

/-! ## Two workers that look at the same time -/

def requestId : Id := ⟨js "10000000-0000-4000-8000-000000000000", rfl⟩

def tenantId : Id := ⟨js "20000000-0000-4000-8000-000000000000", rfl⟩

def firstId : Id := ⟨js "30000000-0000-4000-8000-000000000000", rfl⟩

def secondId : Id := ⟨js "40000000-0000-4000-8000-000000000000", rfl⟩

/-- A request that is ready, with nothing queued yet. -/
def readyRequest : State where
  requests := fun _ => some .ready
  scopes := fun _ _ => some .approved
  exports := fun _ => true
  jobs := []
  events := []
  sessions := fun _ => none
  clock := 0

def readyJob (jobId : Id) : Job :=
  ⟨jobId, .ready, tenantId, requestId, .participantPending, 0, 5, 0, none, none⟩

/-- Both workers find no job; one queues it, and the other inserts nothing and says that it has
queued a job. -/
theorem queued_twice :
    ∃ state, Relation.ReflTransGen (Step False) readyRequest state ∧
      state.jobs = [readyJob firstId] ∧
      state.events = [(readyJob firstId).event .queued, (readyJob secondId).event .queued] := by
  have one : Relation.ReflTransGen (Step False) readyRequest
      (readyRequest.set 0 (some (.selecting [] requestId tenantId .approved true))) :=
    .single (.lookForRequest (show readyRequest.sessions 0 = none from rfl)
      (show readyRequest.requests requestId = some .ready from rfl)
      (show readyRequest.scopes requestId tenantId = some .approved from rfl)
      (show notificationTypeOf .ready .approved true = some .ready from rfl) nofun)
  have two : Relation.ReflTransGen (Step False) readyRequest
      (State.set _ 1 (some (.selecting [] requestId tenantId .approved true))) :=
    one.tail (.lookForRequest (show State.sessions _ 1 = none from rfl)
      (show readyRequest.requests requestId = some .ready from rfl)
      (show readyRequest.scopes requestId tenantId = some .approved from rfl)
      (show notificationTypeOf .ready .approved true = some .ready from rfl) nofun)
  have locked := two.tail (.lockRequest
    (show State.sessions _ 0 = some (.selecting [] requestId tenantId .approved true) from rfl)
    (fun other session different found => by
      by_cases second : other = 1
      · subst second
        cases found
        nofun
      · simp [State.set, readyRequest, different, second] at found)
    (show readyRequest.requests requestId = some .ready from rfl)
    (show notificationTypeOf .ready .approved true = some .ready from rfl) nofun)
  have inserted := locked.tail (.insertJob
    (show State.sessions _ 0 = some (.selected requestId tenantId .ready) from rfl)
    (show ∀ job ∈ ([] : List Job), job.id ≠ firstId from nofun) nofun
    (fun other session different found => by
      by_cases second : other = 1
      · subst second
        cases found
        nofun
      · simp [State.set, readyRequest, different, second] at found)
    False.elim)
  have queued := inserted.tail (.commitQueue
    (show State.sessions _ 0 = some (.queued (readyJob firstId) true) from rfl))
  have lockedToo := queued.tail (.lockRequest
    (show State.sessions _ 1 = some (.selecting [] requestId tenantId .approved true) from rfl)
    (fun other session different found => by
      by_cases first : other = 0
      · subst first
        cases found
      · simp [State.set, readyRequest, different, first] at found)
    (show readyRequest.requests requestId = some .ready from rfl)
    (show notificationTypeOf .ready .approved true = some .ready from rfl) nofun)
  have insertedToo := lockedToo.tail (.insertJob
    (show State.sessions _ 1 = some (.selected requestId tenantId .ready) from rfl)
    (show ∀ job ∈ [readyJob firstId], job.id ≠ secondId by decide +kernel)
    (show ∀ event ∈ [(readyJob firstId).event .queued], event.jobId ≠ secondId by decide +kernel)
    (fun other session different found => by
      by_cases first : other = 0
      · subst first
        cases found
      · simp [State.set, readyRequest, different, first] at found)
    False.elim)
  have taken : decide (idempotencyKey requestId tenantId .ready ∉
      [readyJob firstId].map Job.idempotencyKey) = false := by decide +kernel
  have queuedToo := insertedToo.tail (.commitQueue
    (show State.sessions _ 1 = some (.queued (readyJob secondId) false) from
      congrArg (fun flag => some (Session.queued (readyJob secondId) flag)) taken))
  exact ⟨_, queuedToo, rfl, rfl⟩

/-- An event names a job that is not there. -/
theorem unnamed_job : ¬ ∀ start, StaysAccounted False start := by
  intro always
  obtain ⟨state, run, jobs, events⟩ := queued_twice
  have accounted := always readyRequest ⟨rfl, rfl, fun _ => rfl⟩ state run
  obtain ⟨job, inside, same⟩ := accounted.named ((readyJob secondId).event .queued)
    (by rw [events]; exact List.mem_cons_of_mem _ List.mem_cons_self) rfl
  rw [jobs] at inside
  cases List.mem_singleton.mp inside
  exact absurd same (by decide +kernel)

end Vasi.ParticipantNotifications
