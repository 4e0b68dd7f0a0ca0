import Vasi.AuditChain
import Vasi.IsoTime

/-!
# The administrator audit overview

The overview reads the log with five queries on connections of the pool, each of
them a statement of its own with its own snapshot. Audit transactions commit in
between in any order. The chain and its head agree when no row is committed between
the two snapshots that the verifier compares, and only then.
-/
namespace Vasi.AuditOverview

open JsValue AdminAudit IsoTime

section

variable (platform : Platform) (email : JsString → Option JsString)

/-! ## The queries -/

/-- The five queries of the overview. -/
inductive Query where
  | chain
  | head
  | recent
  | incomplete
  | ambiguous
deriving DecidableEq

def Query.all : List Query := [chain, head, recent, incomplete, ambiguous]

/-- An event of the overview, with the addresses of the users that it names. -/
structure AdminAuditEvent where
  action : JsString
  actorEmail : Option JsString
  actorUserId : Option JsString
  commandId : JsString
  createdAt : JsString
  eventHash : JsString
  id : JsString
  ipAddress : Option JsString
  metadata : Value
  phase : Phase
  requestId : JsString
  sequence : JsNumber
  targetEmail : Option JsString
  targetUserId : Option JsString
  userAgent : Option JsString

structure IncompleteCommand where
  action : JsString
  commandId : JsString
  startedAt : JsString

structure Integrity where
  count : ℕ
  failureCode : Option FailureCode
  failureSequence : Option JsNumber
  headMatches : Bool
  lastHash : JsString
  lastSequence : JsNumber
  valid : Bool

structure AdminAuditOverview where
  ambiguous24Hours : ℕ
  events : List AdminAuditEvent
  incompleteCommands : List IncompleteCommand
  integrity : Integrity

/-- The time of a row as the overview prints it. -/
def printedTime (row : StoredRow) : JsString := isoText ((row.createdAt / 1000 : ℕ) : ℤ)

def eventOf (row : StoredRow) : AdminAuditEvent :=
  let read := readRow platform row
  { action := read.action, actorEmail := read.actorUserId.bind email
    actorUserId := read.actorUserId, commandId := read.commandId, createdAt := printedTime row
    eventHash := read.eventHash, id := read.id, ipAddress := read.ipAddress
    metadata := read.metadata, phase := read.phase, requestId := read.requestId
    sequence := read.sequence, targetEmail := read.targetUserId.bind email
    targetUserId := read.targetUserId, userAgent := read.userAgent }

/-- The fifty latest rows, the latest first; rows are appended in sequence order. -/
def recentEvents (store : Store) : List AdminAuditEvent :=
  (store.rows.reverse.take 50).map (eventOf platform email)

def isTerminal (phase : Phase) : Bool := phase ∈ [.succeeded, .failed, .ambiguous]

/-- The first commands that have started and not ended. -/
def incompleteCommands (store : Store) : List IncompleteCommand :=
  let unfinished := store.rows.filter fun started => started.phase = .started ∧
    ¬ store.rows.any fun terminal =>
      terminal.commandId = started.commandId ∧ isTerminal terminal.phase
  ((unfinished.insertionSort fun left right => left.createdAt ≤ right.createdAt).take 25).map
    fun row => ⟨row.action, row.commandId, printedTime row⟩

/-- Ambiguous outcomes of the last 24 hours, in microseconds. -/
def ambiguousCount (store : Store) (now : ℕ) : ℕ :=
  store.rows.countP fun row => row.phase = .ambiguous ∧ now ≤ row.createdAt + 86400000000

/-- What the verifier's result becomes; a failure at no sequence has none. -/
def integrityOf (verification : Verification) : Integrity where
  count := verification.count
  failureCode := verification.firstFailure.map Failure.code
  failureSequence := verification.firstFailure.bind fun failure =>
    if failure.sequence = .finite 0 then none else some failure.sequence
  headMatches := verification.headMatches
  lastHash := verification.lastHash
  lastSequence := verification.lastSequence
  valid := verification.valid

/-! ## Interleavings -/

/-- A transaction of writeAdminAudit takes its turn at the head's lock and commits, or a
query takes its snapshot. -/
inductive Step where
  | write (call : AuditCall)
  | query (query : Query) (now : ℕ)

/-- The query of a step. -/
def Step.query? : Step → Option Query
  | write _ => none
  | query own _ => some own

/-- The committed log, and the snapshots that the queries have taken. -/
structure State where
  store : Store
  seen : Query → Option (Store × ℕ)

def take (state : State) : Step → State
  | .write call => { state with
      store := (writeAdminAudit platform call state.store).getD state.store }
  | .query own now => { state with
      seen := Function.update state.seen own (some (state.store, now)) }

/-- The state after a sequence of steps on an empty log. -/
def after (steps : List Step) : State :=
  steps.foldl (take platform) ⟨Store.empty, fun _ => none⟩

/-- What loadAdminAuditOverview makes of the answers, once all of them are there. -/
def loadAdminAuditOverview (seen : Query → Option (Store × ℕ)) : Option AdminAuditOverview := do
  let chain ← seen .chain
  let head ← seen .head
  let recent ← seen .recent
  let incomplete ← seen .incomplete
  let ambiguous ← seen .ambiguous
  return {
    ambiguous24Hours := ambiguousCount ambiguous.1 ambiguous.2
    events := recentEvents platform email recent.1
    incompleteCommands := incompleteCommands incomplete.1
    integrity := integrityOf (verifyAdminAuditChain platform
      (chain.1.rows.map (readRow platform)) (readHead head.1)) }

/-- Commits and the five queries of one overview, each asked once, in any order. -/
abbrev Interleaving := { steps : List Step // (steps.filterMap Step.query?).Perm Query.all }

/-- A query has taken its snapshot. -/
def Asked (own : Query) (steps : List Step) : Prop := own ∈ steps.filterMap Step.query?

/-- A row is committed after one of the two compared snapshots and before the other. -/
def CommitBetween (steps : List Step) : Prop :=
  ∃ before call later, steps = before ++ .write call :: later ∧
    (writeAdminAudit platform call (after platform before).store).isSome = true ∧
    Xor (Asked .chain before) (Asked .head before)

/-- The log that the chain query has read has fewer rows than there are safe integers. -/
def LogFits (steps : List Step) : Prop :=
  ∀ snapshot, (after platform steps).seen .chain = some snapshot →
    snapshot.1.rows.length < 2 ^ 53

/-! ## What the snapshots have to do with each other -/

theorem after_concat (steps : List Step) (step : Step) :
    after platform (steps ++ [step]) = take platform (after platform steps) step := by
  rw [after, List.foldl_append]
  rfl

theorem asked_concat (own : Query) (steps : List Step) (step : Step) :
    Asked own (steps ++ [step]) ↔ Asked own steps ∨ step.query? = some own := by
  unfold Asked
  rw [List.filterMap_append, List.mem_append]
  cases step <;> simp [Step.query?, eq_comm]

theorem commitBetween_concat (steps : List Step) (step : Step) :
    CommitBetween platform (steps ++ [step]) ↔ CommitBetween platform steps ∨
      ∃ call, step = .write call ∧
        (writeAdminAudit platform call (after platform steps).store).isSome = true ∧
        Xor (Asked .chain steps) (Asked .head steps) := by
  constructor
  · rintro ⟨before, call, later, same, committed, one⟩
    rcases List.eq_nil_or_concat later with rfl | ⟨rest, last, rfl⟩
    · obtain ⟨rfl, single⟩ := List.append_inj' same rfl
      exact .inr ⟨call, List.cons.inj single |>.1, committed, one⟩
    · rw [List.concat_eq_append, ← List.cons_append, ← List.append_assoc] at same
      obtain ⟨rfl, -⟩ := List.append_inj' same rfl
      exact .inl ⟨before, call, rest, rfl, committed, one⟩
  · rintro (⟨before, call, later, rfl, committed, one⟩ | ⟨call, rfl, committed, one⟩)
    · exact ⟨before, call, later ++ [step], by simp, committed, one⟩
    · exact ⟨steps, call, [], rfl, committed, one⟩

/-- The two queries whose answers are compared. -/
def Compared (first second : Query) : Prop :=
  (first = .chain ∧ second = .head) ∨ (first = .head ∧ second = .chain)

theorem compared_xor {first second : Query} (compared : Compared first second)
    (steps : List Step) : Xor (Asked .chain steps) (Asked .head steps) ↔
      Xor (Asked first steps) (Asked second steps) := by
  rcases compared with ⟨rfl, rfl⟩ | ⟨rfl, rfl⟩
  · rfl
  · rw [xor_comm]

/-- The state of the log and the snapshots after a sequence of steps. -/
structure Tracks (steps : List Step) : Prop where
  store : ∃ calls, (after platform steps).store = run platform calls
  asked : ∀ own, ((after platform steps).seen own).isSome = true ↔ Asked own steps
  honest : ∀ own snapshot, (after platform steps).seen own = some snapshot →
    ∃ calls, snapshot.1 = run platform calls
  both : ∀ first second left right, Compared first second →
    (after platform steps).seen first = some left →
    (after platform steps).seen second = some right →
      (¬CommitBetween platform steps → left.1 = right.1) ∧
        (CommitBetween platform steps → left.1.rows.length ≠ right.1.rows.length)
  one : ∀ first second snapshot, Compared first second →
    (after platform steps).seen first = some snapshot →
    (after platform steps).seen second = none →
      (¬CommitBetween platform steps → snapshot.1 = (after platform steps).store) ∧
        (CommitBetween platform steps →
          snapshot.1.rows.length < (after platform steps).store.rows.length)
  none : (after platform steps).seen .chain = none → (after platform steps).seen .head = none →
    ¬CommitBetween platform steps

theorem tracks_nil : Tracks platform [] where
  store := ⟨[], rfl⟩
  asked := fun own => by simp [after, Asked]
  honest := fun own snapshot seen => by simp [after] at seen
  both := fun first second left right _ seen => by simp [after] at seen
  one := fun first second snapshot _ seen => by simp [after] at seen
  none := by
    rintro - - ⟨before, call, later, same, -⟩
    simp at same

theorem run_snoc (calls : List AuditCall) (call : AuditCall) :
    run platform (calls ++ [call]) =
      (writeAdminAudit platform call (run platform calls)).getD (run platform calls) := by
  rw [run, List.foldl_append]
  rfl

/-- A call that commits appends one row. -/
theorem writeAdminAudit_grows {call : AuditCall} {store next : Store}
    (committed : writeAdminAudit platform call store = some next) :
    next.rows.length = store.rows.length + 1 := by
  unfold writeAdminAudit at committed
  obtain ⟨metadata, -, committed⟩ := Option.bind_eq_some_iff.mp committed
  obtain ⟨action, -, committed⟩ := Option.bind_eq_some_iff.mp committed
  obtain ⟨commandId, -, committed⟩ := Option.bind_eq_some_iff.mp committed
  obtain ⟨requestId, -, committed⟩ := Option.bind_eq_some_iff.mp committed
  obtain ⟨_, -, committed⟩ := Option.bind_eq_some_iff.mp committed
  obtain rfl := Option.some.inj committed
  exact List.length_append

section

variable {platform}

theorem Tracks.seen_none {steps : List Step} (tracks : Tracks platform steps) {own : Query}
    (unasked : ¬Asked own steps) : (after platform steps).seen own = Option.none := by
  have missing := mt (tracks.asked own).mp unasked
  simpa using missing

/-- A call that does not commit changes nothing. -/
theorem Tracks.write_fails {steps : List Step} {call : AuditCall} (tracks : Tracks platform steps)
    (fails : writeAdminAudit platform call (after platform steps).store = Option.none) :
    Tracks platform (steps ++ [.write call]) := by
  have same : after platform (steps ++ [.write call]) = after platform steps := by
    rw [after_concat, take, fails]
    rfl
  have between : CommitBetween platform (steps ++ [.write call]) ↔
      CommitBetween platform steps := by
    rw [commitBetween_concat]
    refine or_iff_left ?_
    rintro ⟨other, equal, committed, -⟩
    obtain rfl := Step.write.inj equal
    rw [fails] at committed
    cases committed
  constructor
  · rw [same]
    exact tracks.store
  · intro own
    rw [same, asked_concat, tracks.asked]
    simp [Step.query?]
  · rw [same]
    exact tracks.honest
  · rw [same, between]
    exact tracks.both
  · rw [same, between]
    exact tracks.one
  · rw [same, between]
    exact tracks.none

/-- A committed row is between the snapshots when one of them has been taken. -/
theorem Tracks.write_commits {steps : List Step} {call : AuditCall} {next : Store}
    (tracks : Tracks platform steps)
    (committed : writeAdminAudit platform call (after platform steps).store = some next) :
    Tracks platform (steps ++ [.write call]) := by
  have store : (after platform (steps ++ [.write call])).store = next := by
    rw [after_concat, take, committed]
    rfl
  have seen : (after platform (steps ++ [.write call])).seen = (after platform steps).seen := by
    rw [after_concat]
    rfl
  have grows := writeAdminAudit_grows platform committed
  have between : CommitBetween platform (steps ++ [.write call]) ↔
      CommitBetween platform steps ∨ Xor (Asked .chain steps) (Asked .head steps) := by
    rw [commitBetween_concat]
    refine or_congr_right ⟨?_, fun one => ⟨call, rfl, by rw [committed]; rfl, one⟩⟩
    rintro ⟨-, -, -, one⟩
    exact one
  constructor
  · obtain ⟨calls, own⟩ := tracks.store
    refine ⟨calls ++ [call], ?_⟩
    rw [store, run_snoc, ← own, committed]
    rfl
  · intro own
    rw [seen, asked_concat, tracks.asked]
    simp [Step.query?]
  · rw [seen]
    exact tracks.honest
  · intro first second left right compared firstSeen secondSeen
    rw [seen] at firstSeen secondSeen
    have asked := (tracks.asked first).mp (by rw [firstSeen]; rfl)
    have other := (tracks.asked second).mp (by rw [secondSeen]; rfl)
    have never : ¬Xor (Asked .chain steps) (Asked .head steps) := by
      rw [compared_xor compared]
      rintro (⟨-, missing⟩ | ⟨-, missing⟩)
      · exact missing other
      · exact missing asked
    rw [between, or_iff_left never]
    exact tracks.both first second left right compared firstSeen secondSeen
  · intro first second snapshot compared firstSeen secondSeen
    rw [seen] at firstSeen secondSeen
    have asked := (tracks.asked first).mp (by rw [firstSeen]; rfl)
    have missing : ¬Asked second steps := fun asked => by
      have there := (tracks.asked second).mpr asked
      rw [secondSeen] at there
      cases there
    have one : Xor (Asked .chain steps) (Asked .head steps) :=
      (compared_xor compared steps).mpr (.inl ⟨asked, missing⟩)
    obtain ⟨equal, less⟩ := tracks.one first second snapshot compared firstSeen secondSeen
    rw [between, store]
    refine ⟨fun absent => (absent (.inr one)).elim, fun _ => ?_⟩
    by_cases torn : CommitBetween platform steps
    · have shorter := less torn
      omega
    · rw [equal torn]
      omega
  · intro chain head
    rw [seen] at chain head
    have unasked : ∀ own, (after platform steps).seen own = Option.none → ¬Asked own steps := by
      intro own missing asked
      have there := (tracks.asked own).mpr asked
      rw [missing] at there
      cases there
    rw [between]
    rintro (torn | ⟨asked, -⟩ | ⟨asked, -⟩)
    · exact tracks.none chain head torn
    · exact unasked _ chain asked
    · exact unasked _ head asked

/-- A snapshot is the committed log of its moment. -/
theorem Tracks.query {steps : List Step} {own : Query} {now : ℕ} (tracks : Tracks platform steps)
    (fresh : ¬Asked own steps) : Tracks platform (steps ++ [.query own now]) := by
  have store : (after platform (steps ++ [.query own now])).store =
      (after platform steps).store := by
    rw [after_concat]
    rfl
  have seen : (after platform (steps ++ [.query own now])).seen =
      Function.update (after platform steps).seen own
        (some ((after platform steps).store, now)) := by
    rw [after_concat]
    rfl
  have between : CommitBetween platform (steps ++ [.query own now]) ↔
      CommitBetween platform steps := by
    rw [commitBetween_concat]
    refine or_iff_left ?_
    rintro ⟨call, equal, -⟩
    cases equal
  have missing := tracks.seen_none fresh
  constructor
  · rw [store]
    exact tracks.store
  · intro other
    rw [seen, asked_concat]
    by_cases same : other = own
    · subst same
      simp [Step.query?]
    · rw [Function.update_of_ne same, tracks.asked]
      simp [Step.query?, Ne.symm same]
  · intro other snapshot found
    rw [seen] at found
    by_cases same : other = own
    · subst same
      rw [Function.update_self] at found
      rw [← Option.some.inj found]
      exact tracks.store
    · rw [Function.update_of_ne same] at found
      exact tracks.honest other snapshot found
  · intro first second left right compared firstSeen secondSeen
    rw [seen] at firstSeen secondSeen
    rw [between]
    have apart : first ≠ second := by
      rcases compared with ⟨rfl, rfl⟩ | ⟨rfl, rfl⟩ <;> decide
    by_cases here : first = own
    · subst here
      rw [Function.update_self] at firstSeen
      rw [Function.update_of_ne apart.symm] at secondSeen
      obtain ⟨equal, less⟩ := tracks.one second first right (by
        rcases compared with both | both
        · exact .inr ⟨both.2, both.1⟩
        · exact .inl ⟨both.2, both.1⟩) secondSeen missing
      rw [← Option.some.inj firstSeen]
      exact ⟨fun absent => (equal absent).symm, fun torn => (less torn).ne'⟩
    · rw [Function.update_of_ne here] at firstSeen
      by_cases there : second = own
      · subst there
        rw [Function.update_self] at secondSeen
        obtain ⟨equal, less⟩ := tracks.one first second left compared firstSeen missing
        rw [← Option.some.inj secondSeen]
        exact ⟨equal, fun torn => (less torn).ne⟩
      · rw [Function.update_of_ne there] at secondSeen
        exact tracks.both first second left right compared firstSeen secondSeen
  · intro first second snapshot compared firstSeen secondSeen
    rw [seen] at firstSeen secondSeen
    rw [between, store]
    have there : second ≠ own := by
      rintro rfl
      rw [Function.update_self] at secondSeen
      cases secondSeen
    rw [Function.update_of_ne there] at secondSeen
    by_cases here : first = own
    · subst here
      rw [Function.update_self] at firstSeen
      have absent : ¬CommitBetween platform steps := by
        rcases compared with ⟨rfl, rfl⟩ | ⟨rfl, rfl⟩
        · exact tracks.none missing secondSeen
        · exact tracks.none secondSeen missing
      rw [← Option.some.inj firstSeen]
      exact ⟨fun _ => rfl, fun torn => (absent torn).elim⟩
    · rw [Function.update_of_ne here] at firstSeen
      exact tracks.one first second snapshot compared firstSeen secondSeen
  · intro chain head
    rw [seen] at chain head
    rw [between]
    have chainOther : Query.chain ≠ own := by
      rintro rfl
      rw [Function.update_self] at chain
      cases chain
    have headOther : Query.head ≠ own := by
      rintro rfl
      rw [Function.update_self] at head
      cases head
    rw [Function.update_of_ne chainOther] at chain
    rw [Function.update_of_ne headOther] at head
    exact tracks.none chain head

end

theorem tracks_after (steps : List Step) (once : (steps.filterMap Step.query?).Nodup) :
    Tracks platform steps := by
  induction steps using List.reverseRecOn with
  | nil => exact tracks_nil platform
  | append_singleton steps step inductionHypothesis =>
      rw [List.filterMap_append, List.nodup_append] at once
      have tracks := inductionHypothesis once.1
      cases step with
      | write call =>
          cases committed : writeAdminAudit platform call (after platform steps).store with
          | none => exact tracks.write_fails committed
          | some next => exact tracks.write_commits committed
      | query own now =>
          refine tracks.query fun asked => ?_
          exact once.2.2 own asked own (by simp [Step.query?]) rfl

/-! ## What the overview reports -/

/-- A chain and a head of different lengths are refused. -/
theorem verify_torn (chainCalls headCalls : List AuditCall)
    (torn : (run platform chainCalls).rows.length ≠ (run platform headCalls).rows.length) :
    (verifyAdminAuditChain platform ((run platform chainCalls).rows.map (readRow platform))
      (readHead (run platform headCalls))).valid ≠ true := by
  intro valid
  obtain ⟨-, -, same, -⟩ := (verify_valid _ _).mp valid
  have bound := verify_bounded valid
  have last := (@run_chained platform headCalls).sequence
  rw [ordered, List.length_insertionSort, List.length_map] at same
  rw [List.length_map] at bound
  simp only [readHead, last, JsNumber.toRat?, Option.some.injEq] at same
  have small : (run platform headCalls).rows.length < 2 ^ 53 := by
    by_contra large
    have rounded := round_large (not_lt.mp large)
    rw [same] at rounded
    have reached : 2 ^ 53 ≤ (run platform chainCalls).rows.length := by exact_mod_cast rounded
    omega
  rw [round_sequence small] at same
  exact torn (by exact_mod_cast same.symm)

/-- In every interleaving the overview reports an intact log exactly when no row is
committed between the snapshots of the chain and of its head. -/
theorem overview_valid_iff (interleaving : Interleaving) :
    ∃ overview, loadAdminAuditOverview platform email (after platform interleaving.val).seen =
        some overview ∧
      (overview.integrity.valid = true ↔
        ¬CommitBetween platform interleaving.val ∧ LogFits platform interleaving.val) := by
  obtain ⟨steps, once⟩ := interleaving
  have tracks := tracks_after platform steps (once.nodup_iff.mpr (by decide))
  have answered : ∀ own, ∃ snapshot, (after platform steps).seen own = some snapshot := by
    intro own
    refine Option.isSome_iff_exists.mp ((tracks.asked own).mpr (once.mem_iff.mpr ?_))
    cases own <;> decide
  obtain ⟨chain, chainSeen⟩ := answered .chain
  obtain ⟨head, headSeen⟩ := answered .head
  obtain ⟨recent, recentSeen⟩ := answered .recent
  obtain ⟨incomplete, incompleteSeen⟩ := answered .incomplete
  obtain ⟨ambiguous, ambiguousSeen⟩ := answered .ambiguous
  refine ⟨_, by rw [loadAdminAuditOverview, chainSeen, headSeen, recentSeen, incompleteSeen,
    ambiguousSeen]; rfl, ?_⟩
  obtain ⟨chainCalls, chainHonest⟩ := tracks.honest _ _ chainSeen
  obtain ⟨headCalls, headHonest⟩ := tracks.honest _ _ headSeen
  obtain ⟨equal, differ⟩ := tracks.both .chain .head chain head (.inl ⟨rfl, rfl⟩) chainSeen headSeen
  have fits : LogFits platform steps ↔ chain.1.rows.length < 2 ^ 53 := by
    simp [LogFits, chainSeen]
  rw [fits]
  dsimp only [integrityOf]
  by_cases torn : CommitBetween platform steps
  · refine iff_of_false ?_ fun both => both.1 torn
    have lengths := differ torn
    rw [chainHonest, headHonest] at lengths ⊢
    exact verify_torn platform chainCalls headCalls lengths
  · rw [← equal torn, chainHonest, run_verifies chainCalls _ (.refl _)]
    exact (and_iff_right torn).symm

end

/-! ### A commit between the snapshots -/

/-- One audit transaction commits after the chain has been read and before its head. -/
def tornSteps : List Step :=
  [.query .recent 0, .query .incomplete 0, .query .ambiguous 0, .query .chain 0,
    .write replacementCall, .query .head 0]

/-- The overview reports a log that nobody touched as tampered with. -/
theorem tornSteps_reported : ∃ (platform : Platform) (interleaving : Interleaving),
    ∀ email, ∃ overview,
      loadAdminAuditOverview platform email (after platform interleaving.val).seen =
        some overview ∧
      overview.integrity.valid = false ∧
      overview.integrity.failureCode = some .chainHeadMismatch := by
  refine ⟨plainPlatform, ⟨tornSteps, by decide⟩, fun email => ⟨_, rfl, ?_, ?_⟩⟩
  · change (verifyAdminAuditChain plainPlatform []
      (readHead (run plainPlatform [replacementCall]))).valid = false
    decide +kernel
  · change ((verifyAdminAuditChain plainPlatform []
      (readHead (run plainPlatform [replacementCall]))).firstFailure.map Failure.code) = _
    decide +kernel

end Vasi.AuditOverview
