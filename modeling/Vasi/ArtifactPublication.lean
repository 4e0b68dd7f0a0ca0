import Vasi.Artifacts
import Vasi.AtomicCommits

/-!
# Published artifacts are the bytes that were scanned

Whoever adds a chunk, decides on an artifact or gives it up holds its row for
update, so the chunks of a locked artifact stay as they are until the
transaction ends: what finalizeArtifact reads, what the gateway sends to the
scanner and what is published are the same chunks.
-/
namespace Vasi.Artifacts

open JsValue IsoTime ReadCommitted
open EngineRows (Uuid)
open TenantStore (Actor)
open Utf8 (Byte)

/-! ## Chunks -/

/-- The chunks of an artifact, numbered from zero without a gap. -/
def Chunks (store : ArtifactRows) (artifactId : Uuid) (chunks : List ArtifactChunk) : Prop :=
  ∀ sequence, chunkAt store artifactId sequence = chunks[sequence]?

theorem mem_chunksOf {store : ArtifactRows} {artifactId : Uuid} {sequence : ℕ}
    {row : ArtifactChunk} :
    (sequence, row) ∈ chunksOf store artifactId ↔ chunkAt store artifactId sequence = some row := by
  unfold chunksOf
  rw [List.mem_filterMap, chunkAt, ← Option.mem_def, AList.mem_lookup_iff]
  constructor
  · rintro ⟨⟨key, found⟩, member, selected⟩
    cases key with
    | chunk artifact place =>
        simp only [Option.ite_none_right_eq_some, Option.some.injEq, Prod.mk.injEq] at selected
        obtain ⟨rfl, rfl, rfl⟩ := selected
        exact member
    | artifact | membership | profile | scanner => cases selected
  · intro member
    exact ⟨_, member, by simp⟩

/-- The sequence number of a key of the artifact's chunks. -/
def sequenceOf (artifactId : Uuid) : Key → Option ℕ
  | .chunk artifact sequence => if artifact = artifactId then some sequence else none
  | _ => none

/-- Each sequence number occurs once. -/
theorem sequences_nodup (store : ArtifactRows) (artifactId : Uuid) :
    ((chunksOf store artifactId).map Prod.fst).Nodup := by
  have sequences : (chunksOf store artifactId).map Prod.fst =
      (store.entries.map Sigma.fst).filterMap (sequenceOf artifactId) := by
    unfold chunksOf
    rw [List.map_filterMap, List.filterMap_map]
    apply List.filterMap_congr
    rintro ⟨key, row⟩ _
    cases key with
    | chunk artifact place =>
        by_cases same : artifact = artifactId
        · simp [sequenceOf, same]
        · simp [sequenceOf, same]
    | artifact | membership | profile | scanner => rfl
  rw [sequences]
  refine List.Nodup.filterMap ?_ store.nodupKeys
  intro first second sequence one other
  cases first <;> cases second <;> simp_all [sequenceOf]

/-- The count of the chunks is their number. -/
theorem length_chunksOf {store : ArtifactRows} {artifactId : Uuid} {chunks : List ArtifactChunk}
    (numbered : Chunks store artifactId chunks) :
    (chunksOf store artifactId).length = chunks.length := by
  have same : ((chunksOf store artifactId).map Prod.fst).Perm (List.range chunks.length) := by
    refine (List.perm_ext_iff_of_nodup (sequences_nodup store artifactId) List.nodup_range).mpr ?_
    intro sequence
    rw [List.mem_range, List.mem_map]
    constructor
    · rintro ⟨⟨place, row⟩, member, rfl⟩
      have found := mem_chunksOf.mp member
      rw [numbered] at found
      exact (List.getElem?_eq_some_iff.mp found).1
    · intro inside
      refine ⟨(sequence, chunks[sequence]), mem_chunksOf.mpr ?_, rfl⟩
      rw [numbered]
      exact List.getElem?_eq_getElem inside
  simpa using same.length_eq

/-- Without a chunk at a sequence number or later there are no more chunks than that. -/
theorem length_le_of_extra {store : ArtifactRows} {artifactId : Uuid}
    {chunks : List ArtifactChunk} {sequence : ℕ} (numbered : Chunks store artifactId chunks)
    (extra : ((chunksOf store artifactId).any fun found => sequence ≤ found.1) = false) :
    chunks.length ≤ sequence := by
  by_contra longer
  have inside : sequence < chunks.length := Nat.lt_of_not_le longer
  have found : chunkAt store artifactId sequence = some chunks[sequence] :=
    (numbered sequence).trans (List.getElem?_eq_getElem inside)
  have absent := List.any_eq_false.mp extra _ (mem_chunksOf.mpr found)
  simp at absent

/-! ## The contract -/

section

variable (platform : Platform)

/-- The row says how many chunks there are, how long they are together, as was
expected, and what their digest is. -/
structure Describes (row : DocumentArtifact) (chunks : List ArtifactChunk) : Prop where
  chunkCount : row.chunkCount = some chunks.length
  byteLength : row.byteLength = some row.expectedByteLength
  expected : (chunks.flatMap ArtifactChunk.bytes).length = row.expectedByteLength
  sha256 : row.sha256 = some (platform.sha256 (chunks.flatMap ArtifactChunk.bytes))

/-- The published artifacts have the chunks that their rows describe. -/
def SoundArtifacts (store : ArtifactRows) : Prop :=
  ∀ id row, artifactAt store id = some row → row.status = .published →
    ∃ chunks, Chunks store id chunks ∧ Describes platform row chunks

/-- The scanner was sent the bytes, and found what has their digest clean. -/
def FoundClean (bytes : List Byte) (exchange : ScanExchange) : Prop :=
  exchange.streamed = bytes ∧ ∃ body, exchange.response.body = some body ∧
    body.scannedSha256 = platform.sha256 bytes ∧ body.verdict = js "clean"

/-- A publication that has seen a scanner binding has had the bytes found clean. -/
def Scanned (point : Point) (bytes : List Byte) : Prop :=
  ∃ binding exchange, point = .commit (.publishArtifact binding exchange) ∧
    (binding.isSome → ∃ exchanged, exchange = some exchanged ∧
      FoundClean platform bytes exchanged)

/-- What a commit makes of an artifact and its chunks. -/
inductive Moved (point : Point) (known : List (Sigma Row)) (before after : ArtifactRows)
    (id : Uuid) : Prop where
  | same (artifact : artifactAt after id = artifactAt before id)
      (chunks : ∀ sequence, chunkAt after id sequence = chunkAt before id sequence)
  | created (row : DocumentArtifact) (absent : artifactAt before id = none)
      (artifact : artifactAt after id = some row) (quarantined : row.status = .quarantined)
      (chunks : ∀ sequence, chunkAt after id sequence = chunkAt before id sequence)
  | appended (row : DocumentArtifact) (list : List ArtifactChunk) (chunk : ArtifactChunk)
      (rests : (⟨.artifact id, row⟩ : Sigma Row) ∈ known) (quarantined : row.status = .quarantined)
      (artifact : artifactAt after id = artifactAt before id)
      (earlier : Chunks before id list) (later : Chunks after id (list ++ [chunk]))
  | changed (row next : DocumentArtifact) (rests : (⟨.artifact id, row⟩ : Sigma Row) ∈ known)
      (quarantined : row.status = .quarantined) (artifact : artifactAt after id = some next)
      (chunks : ∀ sequence, chunkAt after id sequence = chunkAt before id sequence)
      (published : next.status = .published → ∃ list, Chunks after id list ∧
        Describes platform next list ∧ Scanned platform point (list.flatMap ArtifactChunk.bytes))

/-- The contract of the calls: published artifacts are sound, chunks have no gaps,
and the chunks of an artifact move only under the lock of its row. -/
def publication : Contract Row Outside Point Outcome where
  guard := Guard.none Row Outside Point
  invariant := fun store => SoundArtifacts platform store ∧ ∀ id, ∃ chunks, Chunks store id chunks
  moves := fun held before after => ∀ id, held (.artifact id) →
    ∀ sequence, chunkAt after id sequence = chunkAt before id sequence
  effect := fun point known before after => ∀ id, Moved platform point known before after id
  promise := fun _ _ _ _ _ => True
  moves_refl := fun _ _ _ _ _ => rfl
  moves_trans := fun _ _ _ _ first second id held sequence =>
    (second id held sequence).trans (first id held sequence)
  moves_anti := fun _ _ _ _ fewer moved id held => moved id (fewer _ held)

theorem publication_unpromising : Unpromising (publication platform) :=
  ⟨fun _ _ _ _ _ => trivial⟩

end

section

variable {platform : Platform} {point : Point} {known : List (Sigma Row)}
  {before after : ArtifactRows} {id : Uuid}

/-- A sound artifact with the same row and chunks is sound. -/
theorem Moved.sound (moved : Moved platform point known before after id)
    (current : Current known before) (sound : SoundArtifacts platform before)
    {row : DocumentArtifact} (found : artifactAt after id = some row)
    (published : row.status = .published) :
    ∃ chunks, Chunks after id chunks ∧ Describes platform row chunks := by
  cases moved with
  | same artifact chunks =>
      obtain ⟨list, numbered, describes⟩ := sound id row (artifact.symm.trans found) published
      exact ⟨list, fun sequence => (chunks sequence).trans (numbered sequence), describes⟩
  | created next absent artifact quarantined chunks =>
      obtain rfl := Option.some.inj (artifact.symm.trans found)
      rw [quarantined] at published
      cases published
  | appended earlier list chunk rests quarantined artifact _ later =>
      have there : artifactAt before id = some earlier := current _ rests
      obtain rfl := Option.some.inj (there.symm.trans (artifact.symm.trans found))
      rw [quarantined] at published
      cases published
  | changed earlier next rests quarantined artifact chunks described =>
      obtain rfl := Option.some.inj (artifact.symm.trans found)
      obtain ⟨list, numbered, describes, _⟩ := described published
      exact ⟨list, numbered, describes⟩

/-- Chunks stay without gaps. -/
theorem Moved.numbered (moved : Moved platform point known before after id)
    (numbered : ∃ chunks, Chunks before id chunks) : ∃ chunks, Chunks after id chunks := by
  obtain ⟨list, numbered⟩ := numbered
  cases moved with
  | same _ chunks => exact ⟨list, fun sequence => (chunks sequence).trans (numbered sequence)⟩
  | created _ _ _ _ chunks =>
      exact ⟨list, fun sequence => (chunks sequence).trans (numbered sequence)⟩
  | appended _ _ _ _ _ _ _ later => exact ⟨_, later⟩
  | changed _ _ _ _ _ chunks =>
      exact ⟨list, fun sequence => (chunks sequence).trans (numbered sequence)⟩

/-- A commit that holds no lock on an artifact leaves its chunks. -/
theorem Moved.chunks_kept (moved : Moved platform point known before after id)
    (free : ∀ row, (⟨.artifact id, row⟩ : Sigma Row) ∉ known) (sequence : ℕ) :
    chunkAt after id sequence = chunkAt before id sequence := by
  cases moved with
  | same _ chunks => exact chunks sequence
  | created _ _ _ _ chunks => exact chunks sequence
  | appended row _ _ rests => exact absurd rests (free row)
  | changed row _ rests => exact absurd rests (free row)

/-- A finalized artifact stays as it is, with its chunks. -/
theorem Moved.finalized (moved : Moved platform point known before after id)
    (current : Current known before) {row : DocumentArtifact}
    (found : artifactAt before id = some row) (final : row.status ≠ .quarantined) :
    artifactAt after id = some row ∧
      ∀ sequence, chunkAt after id sequence = chunkAt before id sequence := by
  have unlocked : ∀ other : DocumentArtifact, (⟨.artifact id, other⟩ : Sigma Row) ∈ known →
      other.status ≠ .quarantined := by
    intro other rests
    have there : artifactAt before id = some other := current _ rests
    obtain rfl := Option.some.inj (there.symm.trans found)
    exact final
  cases moved with
  | same artifact chunks => exact ⟨artifact.trans found, chunks⟩
  | created _ absent =>
      rw [absent] at found
      cases found
  | appended other _ _ rests quarantined => exact absurd quarantined (unlocked other rests)
  | changed other _ rests quarantined => exact absurd quarantined (unlocked other rests)

/-- An artifact that a commit publishes has been scanned, if a binding was seen. -/
theorem Moved.scanned (moved : Moved platform point known before after id)
    {row : DocumentArtifact} (found : artifactAt after id = some row)
    (published : row.status = .published) (fresh : artifactAt before id ≠ some row) :
    ∃ chunks, Chunks after id chunks ∧
      Scanned platform point (chunks.flatMap ArtifactChunk.bytes) := by
  cases moved with
  | same artifact _ => exact absurd (artifact.symm.trans found) fresh
  | created next _ artifact quarantined =>
      obtain rfl := Option.some.inj (artifact.symm.trans found)
      rw [quarantined] at published
      cases published
  | appended _ _ _ _ _ artifact => exact absurd (artifact.symm.trans found) fresh
  | changed _ next _ _ artifact _ described =>
      obtain rfl := Option.some.inj (artifact.symm.trans found)
      obtain ⟨list, numbered, _, scanned⟩ := described published
      exact ⟨list, numbered, scanned⟩

end

/-! ## Rules for the statements -/

section

variable {platform : Platform} {changes : ArtifactChanges} {knowledge : Knowledge Row}
  {artifactId : Uuid} {chunks : List ArtifactChunk}

theorem meets_require {condition : Bool} {code : JsString}
    {continuation : Unit → ArtifactChanges → Script Row Outside Point Outcome}
    (rest : condition = true → (continuation () changes).Meets (publication platform) knowledge) :
    (require condition code continuation changes).Meets (publication platform) knowledge := by
  cases condition with
  | false => exact trivial
  | true => exact rest rfl

theorem meets_requireArtifactPermission {actor : Actor} {tenantId : Uuid}
    {continuation : Unit → ArtifactChanges → Script Row Outside Point Outcome}
    (rest : ∀ later, knowledge.Later later (publication platform) →
      (continuation () changes).Meets (publication platform) later) :
    (requireArtifactPermission actor tenantId continuation changes).Meets (publication platform)
      knowledge := by
  simp only [requireArtifactPermission, Transaction.bind_apply]
  apply meets_readRows (publication_unpromising platform)
  intro input store allowed
  apply meets_require
  intro _
  exact rest _ (allowed.later [])

/-- The chunks of an artifact are settled: no commit of another session moves them. -/
abbrev Settled (platform : Platform) (knowledge : Knowledge Row) (artifactId : Uuid)
    (chunks : List ArtifactChunk) : Prop :=
  (publication platform).Assures knowledge fun store => Chunks store artifactId chunks

/-- A locked artifact is known and held, and its chunks are settled. -/
theorem meets_lockArtifact {tenantId : Uuid}
    {continuation : DocumentArtifact → ArtifactChanges → Script Row Outside Point Outcome}
    (rest : ∀ row chunks later, (⟨.artifact artifactId, row⟩ : Sigma Row) ∈ later.known →
      Settled platform later artifactId chunks →
      (continuation row ∅).Meets (publication platform) later) :
    (lockArtifact tenantId artifactId continuation ∅).Meets (publication platform) knowledge := by
  simp only [lockArtifact, Transaction.bind_apply]
  apply meets_query
  intro input store locks found allowed _ answered
  refine ⟨trivial, ?_⟩
  rw [applyChanges_empty] at answered
  split at answered
  · rename_i row there
    split at answered
    · obtain ⟨rfl, rfl⟩ := Prod.mk.inj (Option.some.inj answered)
      have member : (Key.artifact artifactId, LockMode.update) ∈
          [(Key.artifact artifactId, LockMode.update)] := List.mem_singleton.mpr rfl
      obtain ⟨chunks, numbered⟩ := allowed.kept.2 artifactId
      refine rest row chunks _ (Knowledge.mem_after member there) ?_
      intro later allowedLater sequence
      have mine := mem_keysAt.mpr ⟨member, Option.isSome_of_eq_some there⟩
      exact (allowedLater.moved artifactId (List.mem_append_left _ mine) sequence).trans
        (numbered sequence)
    · obtain ⟨rfl, rfl⟩ := Prod.mk.inj (Option.some.inj answered)
      exact trivial
  · obtain ⟨rfl, rfl⟩ := Prod.mk.inj (Option.some.inj answered)
    exact trivial

/-- The chunk that a transaction reads is the one of the settled chunks. -/
theorem meets_readChunk (settled : Settled platform knowledge artifactId chunks)
    {read rest : List ArtifactChunk} (split : chunks = read ++ rest)
    {continuation : Option ArtifactChunk → ArtifactChanges → Script Row Outside Point Outcome}
    (next : ∀ later, knowledge.Later later (publication platform) →
      (continuation rest.head? ∅).Meets (publication platform) later) :
    (readRows .statement (fun _ view => chunkAt view artifactId read.length) continuation
      ∅).Meets (publication platform) knowledge := by
  apply meets_readRows (publication_unpromising platform)
  intro input store allowed
  have found : chunkAt store artifactId read.length = rest.head? := by
    rw [settled store allowed, split, List.getElem?_append_right (Nat.le_refl _), Nat.sub_self,
      List.head?_eq_getElem?]
  rw [applyChanges_empty, found]
  exact next _ (allowed.later [])

theorem meets_extraChunk (settled : Settled platform knowledge artifactId chunks) {sequence : ℕ}
    {continuation : Bool → ArtifactChanges → Script Row Outside Point Outcome}
    (next : ∀ extra later, knowledge.Later later (publication platform) →
      (extra = false → chunks.length ≤ sequence) →
      (continuation extra ∅).Meets (publication platform) later) :
    (extraChunk artifactId sequence continuation ∅).Meets (publication platform) knowledge := by
  apply meets_readRows (publication_unpromising platform)
  intro input store allowed
  rw [applyChanges_empty]
  exact next _ _ (allowed.later []) fun extra => length_le_of_extra (settled store allowed) extra

/-- The loop of finalizeArtifact reads the settled chunks in order, as many as it has
rounds for; the induction is on the rounds. -/
theorem meets_readChunks (settled : Settled platform knowledge artifactId chunks)
    (remaining : ℕ) {read rest : List ArtifactChunk} (split : chunks = read ++ rest)
    {continuation : Option (List ArtifactChunk) → ArtifactChanges →
      Script Row Outside Point Outcome}
    (next : ∀ result later, knowledge.Later later (publication platform) →
      (∀ taken, result = some taken → taken = read ++ rest.take remaining) →
      (continuation result ∅).Meets (publication platform) later) :
    (readChunks platform artifactId remaining read continuation ∅).Meets (publication platform)
      knowledge := by
  induction remaining generalizing read rest knowledge with
  | zero =>
      refine next _ _ .refl ?_
      intro taken result
      cases result
      exact (List.append_nil read).symm
  | succ remaining inductionHypothesis =>
      simp only [readChunks, Transaction.bind_apply]
      apply meets_readChunk settled split
      intro later moreKnown
      cases rest with
      | nil =>
          refine next _ _ moreKnown ?_
          intro taken result
          cases result
          exact (List.append_nil read).symm
      | cons first others =>
          simp only [List.head?_cons]
          split_ifs
          · apply inductionHypothesis (settled.later moreKnown)
              (split.trans (List.append_cons read first others))
            intro result last lastKnown taken
            refine next result last (moreKnown.trans lastKnown) ?_
            rintro all rfl
            rw [taken all rfl, List.append_assoc, List.take_succ_cons]
            rfl
          · exact next _ _ moreKnown (by simp)

/-! ## The scan -/

/-- The gateway streams settled chunks in order; the induction is on those still to come. -/
theorem meets_streamChunks {command : ScanCommand}
    (settled : Settled platform knowledge command.artifactId chunks)
    {read rest : List ArtifactChunk} (split : chunks = read ++ rest)
    {continuation : Option (ℕ × List Byte) → ArtifactChanges → Script Row Outside Point Outcome}
    (next : ∀ result later, knowledge.Later later (publication platform) →
      (∀ sent, result = some sent → ∃ taken left, chunks = taken ++ left ∧
        sent = (taken.length, taken.flatMap ArtifactChunk.bytes)) →
      (continuation result ∅).Meets (publication platform) later) :
    (streamChunks platform command read.length (read.flatMap ArtifactChunk.bytes) continuation
      ∅).Meets (publication platform) knowledge := by
  induction rest generalizing read knowledge with
  | nil =>
      rw [streamChunks]
      split_ifs
      · simp only [Transaction.bind_apply]
        apply meets_readChunk settled split
        intro later moreKnown
        exact next _ _ moreKnown (by simp)
      · refine next _ _ .refl ?_
        intro sent result
        cases result
        exact ⟨read, [], split, rfl⟩
  | cons first others inductionHypothesis =>
      rw [streamChunks]
      split_ifs
      · simp only [Transaction.bind_apply]
        apply meets_readChunk settled split
        intro later moreKnown
        simp only [List.head?_cons]
        split_ifs
        · have longer : read.length + 1 = (read ++ [first]).length := by simp
          have streamed : read.flatMap ArtifactChunk.bytes ++ first.bytes =
              (read ++ [first]).flatMap ArtifactChunk.bytes := by simp
          rw [longer, streamed]
          apply inductionHypothesis (settled.later moreKnown)
            (split.trans (List.append_cons read first others))
          intro result last lastKnown
          exact next result last (moreKnown.trans lastKnown)
        · exact next _ _ moreKnown (by simp)
      · refine next _ _ .refl ?_
        intro sent result
        cases result
        exact ⟨read, first :: others, split, rfl⟩

/-- What the gateway streams to the end is all the bytes of the artifact. -/
theorem meets_streamArtifactChunks {command : ScanCommand}
    (settled : Settled platform knowledge command.artifactId chunks)
    {continuation : Option (List Byte) → ArtifactChanges → Script Row Outside Point Outcome}
    (next : ∀ result later, knowledge.Later later (publication platform) →
      (∀ streamed, result = some streamed → streamed = chunks.flatMap ArtifactChunk.bytes) →
      (continuation result ∅).Meets (publication platform) later) :
    (streamArtifactChunks platform command continuation ∅).Meets (publication platform)
      knowledge := by
  simp only [streamArtifactChunks, Transaction.bind_apply]
  apply meets_streamChunks settled (List.nil_append chunks).symm
  intro sent later moreKnown inOrder
  cases sent with
  | none => exact next _ _ moreKnown (by simp)
  | some sent =>
      obtain ⟨taken, left, split, rfl⟩ := inOrder _ rfl
      simp only [Transaction.bind_apply]
      apply meets_extraChunk (settled.later moreKnown)
      intro extra last lastKnown complete
      refine next _ _ (moreKnown.trans lastKnown) ?_
      intro streamed result
      split_ifs at result with mismatch
      obtain rfl := Option.some.inj result
      have ended : extra = false := by
        cases extra with
        | false => rfl
        | true => simp at mismatch
      have short := complete ended
      rw [split, List.length_append] at short
      have empty : left = [] := List.eq_nil_of_length_eq_zero (by omega)
      rw [split, empty, List.append_nil]

/-- A completed scan is one of the settled chunks' bytes, and its verdict is the scanner's. -/
def Reports (command : ScanCommand) (chunks : List ArtifactChunk)
    (report : ScanReport) : Prop :=
  ∀ external verdict, report.result = .ok external → external.outcome = .completed verdict →
    ∃ exchanged, report.exchange = some exchanged ∧
      exchanged.streamed = chunks.flatMap ArtifactChunk.bytes ∧
      validateScannerResponse exchanged.response command.sha256 = .ok verdict

theorem meets_scanArtifactWithHTTPS {binding : GatewayBinding} {command : ScanCommand}
    (settled : Settled platform knowledge command.artifactId chunks)
    {continuation : Except JsString Verdict × Option ScanExchange → ArtifactChanges →
      Script Row Outside Point Outcome}
    (next : ∀ scanned later, knowledge.Later later (publication platform) →
      (∀ verdict, scanned.1 = .ok verdict → ∃ exchanged, scanned.2 = some exchanged ∧
        exchanged.streamed = chunks.flatMap ArtifactChunk.bytes ∧
        validateScannerResponse exchanged.response command.sha256 = .ok verdict) →
      (continuation scanned ∅).Meets (publication platform) later) :
    (scanArtifactWithHTTPS platform binding command continuation ∅).Meets (publication platform)
      knowledge := by
  unfold scanArtifactWithHTTPS
  split_ifs
  · exact next _ _ .refl (by simp)
  · simp only [Transaction.bind_apply]
    apply meets_streamArtifactChunks settled
    intro sent later moreKnown whole
    cases sent with
    | none => exact next _ _ moreKnown (by simp)
    | some streamed =>
        simp only [Transaction.bind_apply]
        apply meets_fromOutside (publication_unpromising platform)
        intro replied last lastKnown
        cases replied with
        | error code => exact next _ _ (moreKnown.trans lastKnown) (by simp)
        | ok response =>
            refine next _ _ (moreKnown.trans lastKnown) ?_
            intro verdict valid
            exact ⟨_, rfl, whole streamed rfl, valid⟩

theorem meets_scan {command : ScanCommand}
    (settled : Settled platform knowledge command.artifactId chunks)
    {continuation : ScanReport → ArtifactChanges → Script Row Outside Point Outcome}
    (next : ∀ report later, knowledge.Later later (publication platform) →
      Reports command chunks report →
      (continuation report ∅).Meets (publication platform) later) :
    (scan platform command continuation ∅).Meets (publication platform) knowledge := by
  have failed : ∀ binding code exchange,
      Reports command chunks ⟨.ok (failedScan binding code), exchange⟩ := by
    intro binding code exchange external verdict result completed
    cases result
    cases completed
  simp only [scan, Transaction.bind_apply]
  apply meets_readRows (publication_unpromising platform)
  intro input store allowed
  generalize Option.filter _ _ = found
  cases found with
  | none => exact next _ _ (allowed.later []) (by simp [Reports])
  | some source =>
      simp only [Transaction.bind_apply]
      apply meets_fromOutside (publication_unpromising platform)
      intro loaded later moreKnown
      have known := (allowed.later []).trans moreKnown
      split_ifs
      · exact next _ _ known (failed _ _ _)
      · cases loaded with
        | error code => exact next _ _ known (failed _ _ _)
        | ok binding =>
            simp only [Transaction.bind_apply]
            apply meets_scanArtifactWithHTTPS (settled.later known)
            intro scanned last lastKnown exchanged
            obtain ⟨result, exchange⟩ := scanned
            cases result with
            | error code => exact next _ _ (known.trans lastKnown) (failed _ _ _)
            | ok verdict =>
                refine next _ _ (known.trans lastKnown) ?_
                intro external found completed outcome
                cases completed
                cases outcome
                exact exchanged verdict rfl

theorem meets_scanArtifact {command : ScanCommand}
    (settled : Settled platform knowledge command.artifactId chunks)
    {continuation : ScanReport → ArtifactChanges → Script Row Outside Point Outcome}
    (next : ∀ report later, knowledge.Later later (publication platform) →
      Reports command chunks report →
      (continuation report ∅).Meets (publication platform) later) :
    (scanArtifact platform command continuation ∅).Meets (publication platform) knowledge := by
  simp only [scanArtifact, Transaction.bind_apply]
  apply meets_scan settled
  intro report later moreKnown reports
  apply meets_fromOutside (publication_unpromising platform)
  intro failure last lastKnown
  cases failure with
  | some code => exact next _ _ (moreKnown.trans lastKnown) (by simp [Reports])
  | none => exact next _ _ (moreKnown.trans lastKnown) reports

/-- A response with the verdict clean names the digest. -/
theorem clean_response {response : ScannerResponse} {digest : JsString}
    (valid : validateScannerResponse response digest = .ok .clean) :
    ∃ body, response.body = some body ∧ body.scannedSha256 = digest ∧
      body.verdict = js "clean" := by
  unfold validateScannerResponse at valid
  split_ifs at valid
  split at valid
  · cases valid
  · rename_i body found
    split_ifs at valid with mismatch
    push Not at mismatch
    refine ⟨body, found, mismatch.2, ?_⟩
    unfold readVerdict at valid
    split_ifs at valid with clean
    · exact clean
    all_goals cases valid

end

/-! ## The transactions -/

section

variable {platform : Platform} {knowledge : Knowledge Row} {artifactId : Uuid}
  {chunks : List ArtifactChunk} {row : DocumentArtifact}

/-- The one change of a transaction leaves the rows with other keys. -/
theorem lookup_other (store : ArtifactRows) {key other : Key} (change : Change (Row key))
    (apart : other ≠ key) :
    (applyChanges store (AList.insert key change (∅ : ArtifactChanges))).lookup other =
      store.lookup other :=
  lookup_applyChange_other store ⟨key, change⟩ other apart

theorem lookup_same (store : ArtifactRows) {key : Key} (change : Change (Row key)) :
    (applyChanges store (AList.insert key change (∅ : ArtifactChanges))).lookup key =
      change.image :=
  lookup_applyChange_same store ⟨key, change⟩

/-- A change of another row leaves an artifact and its chunks. -/
theorem Moved.of_other {point : Point} {known : List (Sigma Row)} (store : ArtifactRows)
    {key : Key} (change : Change (Row key)) {id : Uuid} (artifact : Key.artifact id ≠ key)
    (chunk : ∀ sequence, Key.chunk id sequence ≠ key) :
    Moved platform point known store
      (applyChanges store (AList.insert key change (∅ : ArtifactChanges))) id :=
  .same (lookup_other store change artifact) fun sequence =>
    lookup_other store change (chunk sequence)

/-- The update of a locked artifact that is quarantined. -/
theorem meets_updateArtifact
    {change : Outside → DocumentArtifact → DocumentArtifact}
    {continuation : DocumentArtifact → ArtifactChanges → Script Row Outside Point Outcome}
    (rests : (⟨.artifact artifactId, row⟩ : Sigma Row) ∈ knowledge.known)
    (next : ∀ input later, knowledge.Later later (publication platform) →
      row.status = .quarantined →
      (continuation (change input row) (AList.insert (Key.artifact artifactId)
        (.update (change input row)) (∅ : ArtifactChanges))).Meets (publication platform) later) :
    (updateArtifact artifactId change continuation ∅).Meets (publication platform) knowledge := by
  simp only [updateArtifact, Transaction.bind_apply]
  apply meets_query
  intro input store locks changed allowed _ answered
  refine ⟨trivial, ?_⟩
  have there : artifactAt store artifactId = some row := allowed.current _ rests
  rw [applyChanges_empty, there] at answered
  dsimp only at answered
  split_ifs at answered with quarantined
  obtain ⟨rfl, rfl⟩ := Prod.mk.inj (Option.some.inj answered)
  exact next input _ (allowed.later _) quarantined

/-- The commit of an update of a locked artifact. -/
theorem meets_commitArtifact {next : DocumentArtifact} {name : TransactionName}
    {continuation : Unit → ArtifactChanges → Script Row Outside Point Outcome}
    (rests : (⟨.artifact artifactId, row⟩ : Sigma Row) ∈ knowledge.known)
    (quarantined : row.status = .quarantined)
    (published : next.status = .published → Settled platform knowledge artifactId chunks ∧
      Describes platform next chunks ∧
      Scanned platform (.commit name) (chunks.flatMap ArtifactChunk.bytes))
    (rest : ∀ store, (continuation () ∅).Meets (publication platform) (.start store)) :
    (commitChanges (.commit name) continuation (AList.insert (Key.artifact artifactId)
      (.update next) (∅ : ArtifactChanges))).Meets (publication platform) knowledge := by
  refine meets_commitChanges ?_ fun _ _ _ _ => rest _
  intro store allowed _ id
  by_cases same : id = artifactId
  · subst same
    have others : ∀ sequence, chunkAt (applyChanges store (AList.insert (Key.artifact id)
        (.update next) (∅ : ArtifactChanges))) id sequence = chunkAt store id sequence :=
      fun sequence => lookup_other store _ (by simp)
    refine .changed row next rests quarantined (lookup_same store _) others fun final => ?_
    obtain ⟨settled, describes, scanned⟩ := published final
    exact ⟨chunks, fun sequence => (others sequence).trans (settled store allowed sequence),
      describes, scanned⟩
  · exact .of_other store _ (by simpa using same) (by simp)

/-- The commit of the next chunk of a locked artifact. -/
theorem meets_commitChunk {chunk : ArtifactChunk}
    {continuation : Unit → ArtifactChanges → Script Row Outside Point Outcome}
    (rests : (⟨.artifact artifactId, row⟩ : Sigma Row) ∈ knowledge.known)
    (quarantined : row.status = .quarantined)
    (settled : Settled platform knowledge artifactId chunks)
    (rest : ∀ store, (continuation () ∅).Meets (publication platform) (.start store)) :
    (commitChanges (.commit .appendChunk) continuation (AList.insert
      (Key.chunk artifactId chunks.length) (.insert chunk) (∅ : ArtifactChanges))).Meets
        (publication platform) knowledge := by
  refine meets_commitChanges ?_ fun _ _ _ _ => rest _
  intro store allowed _ id
  by_cases same : id = artifactId
  · subst same
    have numbered : Chunks store id chunks := settled store allowed
    refine .appended row chunks chunk rests quarantined (lookup_other store _ (by simp))
      numbered ?_
    intro sequence
    by_cases new : sequence = chunks.length
    · subst new
      rw [List.getElem?_concat_length]
      exact lookup_same store _
    · have old : (chunks ++ [chunk])[sequence]? = chunks[sequence]? := by
        rcases Nat.lt_or_gt_of_ne new with inside | outside
        · exact List.getElem?_append_left inside
        · rw [List.getElem?_eq_none (Nat.le_of_lt outside), List.getElem?_eq_none]
          simpa using Nat.succ_le_of_lt outside
      rw [old, ← numbered sequence]
      exact lookup_other store _ (by simpa using new)
  · exact .of_other store _ (by simp) (by simp [same])

/-- A rejection changes a locked artifact that is quarantined. -/
theorem meets_rejectArtifact {profile : JsString} {result : InspectionResult}
    {continuation : DocumentArtifact → ArtifactChanges → Script Row Outside Point Outcome}
    (rests : (⟨.artifact artifactId, row⟩ : Sigma Row) ∈ knowledge.known)
    (rest : ∀ rejected store, (continuation rejected ∅).Meets (publication platform)
      (.start store)) :
    (rejectArtifact artifactId profile result continuation ∅).Meets (publication platform)
      knowledge := by
  simp only [rejectArtifact, Transaction.bind_apply]
  apply meets_updateArtifact rests
  intro input later moreKnown quarantined
  refine @meets_commitArtifact platform _ artifactId [] _ _ _ _ (moreKnown.known rests)
    quarantined ?_ fun store => rest _ store
  intro published
  cases published

/-- The publication of the settled chunks. -/
theorem meets_publishArtifact {profile : JsString} {result : InspectionResult}
    {binding : Option ScannerBinding} {exchange : Option ScanExchange}
    (rests : (⟨.artifact artifactId, row⟩ : Sigma Row) ∈ knowledge.known)
    (settled : Settled platform knowledge artifactId chunks)
    (expected : (chunks.flatMap ArtifactChunk.bytes).length = row.expectedByteLength)
    (clean : binding.isSome → ∃ exchanged, exchange = some exchanged ∧
      FoundClean platform (chunks.flatMap ArtifactChunk.bytes) exchanged) :
    (publishArtifact platform artifactId chunks profile result binding exchange
      (fun outcome _ => .stop outcome) ∅).Meets (publication platform) knowledge := by
  simp only [publishArtifact, Transaction.bind_apply]
  apply meets_updateArtifact rests
  intro input later moreKnown quarantined
  refine @meets_commitArtifact platform later artifactId chunks _ _ _ _
    (moreKnown.known rests) quarantined (fun _ => ?_)
    fun store => trivial
  refine ⟨settled.later moreKnown, ⟨rfl, congrArg some expected, expected, rfl⟩, ?_⟩
  exact ⟨binding, exchange, rfl, clean⟩

theorem meets_decideArtifact {inspection : Inspection}
    (rests : (⟨.artifact artifactId, row⟩ : Sigma Row) ∈ knowledge.known)
    (settled : Settled platform knowledge artifactId chunks)
    (expected : (chunks.flatMap ArtifactChunk.bytes).length = row.expectedByteLength) :
    (decideArtifact platform artifactId row chunks inspection
      (fun outcome _ => .stop outcome) ∅).Meets (publication platform) knowledge := by
  simp only [decideArtifact, activeExternalScanBinding, Transaction.bind_apply]
  apply meets_readRows (publication_unpromising platform)
  intro input store allowed
  have bound := allowed.later []
  generalize Option.filter _ _ = externalBinding
  cases externalBinding with
  | none =>
      refine meets_publishArtifact (bound.known rests) (settled.later bound) expected ?_
      intro isBound
      cases isBound
  | some binding =>
      simp only [Transaction.bind_apply]
      apply meets_scanArtifact (settled.later bound)
      intro report later moreKnown reports
      have known := bound.trans moreKnown
      have rested := known.known rests
      generalize recorded : recordedScan binding report.result = external
      cases ended : external.outcome with
      | failed code =>
          simp only [Transaction.bind_apply]
          apply meets_updateArtifact rested
          intro _ last lastKnown quarantined
          refine @meets_commitArtifact platform _ artifactId [] _ _ _ _ (lastKnown.known rested)
            quarantined ?_ fun store => trivial
          intro published
          rw [quarantined] at published
          cases published
      | completed verdict =>
          dsimp only
          by_cases unclean : verdict ≠ .clean
          · rw [if_pos unclean]
            simp only [Transaction.bind_apply]
            exact meets_rejectArtifact rested fun _ store => trivial
          · rw [if_neg unclean]
            refine meets_publishArtifact rested (settled.later known) expected fun _ => ?_
            have clean : verdict = .clean := not_not.mp unclean
            have reported : report.result = .ok external := by
              cases result : report.result with
              | ok found =>
                  rw [result] at recorded
                  exact congrArg Except.ok recorded
              | error code =>
                  rw [result] at recorded
                  rw [← recorded] at ended
                  cases ended
            obtain ⟨exchanged, found, streamed, valid⟩ := reports external verdict reported ended
            rw [clean] at valid
            exact ⟨exchanged, found, streamed, clean_response valid⟩

theorem meets_inspectArtifact
    (rests : (⟨.artifact artifactId, row⟩ : Sigma Row) ∈ knowledge.known)
    (settled : Settled platform knowledge artifactId chunks) :
    (inspectArtifact platform artifactId row (fun outcome _ => .stop outcome) ∅).Meets
      (publication platform) knowledge := by
  simp only [inspectArtifact, Transaction.bind_apply]
  apply meets_readChunks settled platform.maxChunks (List.nil_append chunks).symm
  intro read later moreKnown inOrder
  have rested := moreKnown.known rests
  cases read with
  | none =>
      simp only [Transaction.bind_apply, refuseArtifact]
      exact meets_rejectArtifact rested fun _ store => trivial
  | some taken =>
      simp only [Transaction.bind_apply]
      apply meets_extraChunk (settled.later moreKnown)
      intro extra last lastKnown complete
      have known := moreKnown.trans lastKnown
      split_ifs with mismatch
      · simp only [Transaction.bind_apply, refuseArtifact]
        exact meets_rejectArtifact (known.known rests) fun _ store => trivial
      · push Not at mismatch
        obtain ⟨ended, _, expected⟩ := mismatch
        have whole : taken = chunks := by
          rw [inOrder taken rfl, List.nil_append]
          exact List.take_of_length_le (complete (by simpa using ended))
        rw [whole] at expected ⊢
        generalize platform.inspect _ _ = inspection
        cases inspection.rejectionCode with
        | some code =>
            simp only [Transaction.bind_apply]
            exact meets_rejectArtifact (known.known rests) fun _ store => trivial
        | none => exact meets_decideArtifact (known.known rests) (settled.later known) expected

end

/-! ## The calls -/

section

variable {platform : Platform} (store : ArtifactRows)

theorem finalizeArtifact_meets (actor : Actor) (input : ArtifactReference) :
    (finalizeArtifact platform actor input).script.Meets (publication platform) (.start store) := by
  simp only [Transaction.script, finalizeArtifact, Transaction.bind_apply]
  apply meets_requireArtifactPermission
  intro permitted _
  apply meets_lockArtifact
  intro row chunks later rests settled
  dsimp only
  cases status : row.status with
  | published | rejected => exact trivial
  | quarantined => exact meets_inspectArtifact rests settled

theorem abortArtifact_meets (actor : Actor) (input : ArtifactReference) :
    (abortArtifact actor input).script.Meets (publication platform) (.start store) := by
  simp only [Transaction.script, abortArtifact, Transaction.bind_apply]
  apply meets_requireArtifactPermission
  intro permitted _
  apply meets_lockArtifact
  intro row chunks later rests settled
  dsimp only
  split_ifs
  · simp only [refuseArtifact, Transaction.bind_apply]
    exact meets_rejectArtifact rests fun _ store => trivial
  · exact trivial

/-- The next chunk of a locked artifact is appended to those there are. -/
theorem appendChunk_meets (actor : Actor) (input : ChunkInput) :
    (appendChunk platform actor input).script.Meets (publication platform) (.start store) := by
  unfold Transaction.script appendChunk
  split_ifs
  · exact trivial
  · simp only [Transaction.bind_apply]
    apply meets_requireArtifactPermission
    intro permitted _
    apply meets_lockArtifact
    intro row chunks later rests settled
    apply meets_require
    intro quarantined
    apply meets_readRows (publication_unpromising platform)
    intro _ counted allowed
    apply meets_require
    intro next
    apply meets_require
    intro _
    have place : input.sequence = chunks.length := by
      rw [← length_chunksOf (settled counted allowed)]
      exact of_decide_eq_true next
    have moreKnown := allowed.later []
    simp only [insertChunk, Transaction.bind_apply]
    apply meets_query
    intro _ guarded locks _ allowedThen _ _
    refine ⟨trivial, ?_⟩
    have known := moreKnown.trans (allowedThen.later locks)
    simp only [stageChanges, Transaction.bind_apply]
    rw [place]
    exact meets_commitChunk (known.known rests) (of_decide_eq_true quarantined)
      (settled.later known) fun store => trivial

/-- A new artifact is quarantined. -/
theorem insertArtifact_meets (actor : Actor) (input : ArtifactInput) (family : Uuid × ℕ)
    (knowledge : Knowledge Row) :
    (insertArtifact actor input family (fun outcome _ => .stop outcome) ∅).Meets
      (publication platform) knowledge := by
  simp only [insertArtifact, randomUUID, Transaction.bind_apply]
  apply meets_fromOutside (publication_unpromising platform)
  intro artifactId identified _
  apply meets_fromOutside (publication_unpromising platform)
  intro createdAt timed _
  simp only [stageChanges, Transaction.bind_apply]
  refine meets_commitChanges ?_ fun _ _ _ _ => trivial
  intro last _ admissible id
  by_cases same : id = artifactId
  · subst same
    refine .created _ (admissible.inserted _ _ (AList.lookup_insert _)) (lookup_same last _) rfl ?_
    exact fun sequence => lookup_other last _ (by simp)
  · exact .of_other last _ (by simpa using same) (by simp)

theorem meets_publishedArtifact {tenantId artifactId : Uuid} {knowledge : Knowledge Row}
    {continuation : DocumentArtifact → ArtifactChanges → Script Row Outside Point Outcome}
    (rest : ∀ row later, (continuation row ∅).Meets (publication platform) later) :
    (publishedArtifact tenantId artifactId continuation ∅).Meets (publication platform)
      knowledge := by
  simp only [publishedArtifact, Transaction.bind_apply]
  apply meets_readRows (publication_unpromising platform)
  intro _ view _
  generalize Option.filter _ _ = found
  cases found with
  | none => exact trivial
  | some row => exact rest row _

theorem createArtifact_meets (actor : Actor) (input : ArtifactInput) :
    (createArtifact actor input).script.Meets (publication platform) (.start store) := by
  have sourced : ∀ family (knowledge : Knowledge Row),
      (checkSource input (fun _ => insertArtifact actor input family
        fun outcome _ => .stop outcome) ∅).Meets (publication platform) knowledge := by
    intro family knowledge
    unfold checkSource
    cases input.sourceArtifactId with
    | none => exact insertArtifact_meets actor input family knowledge
    | some sourceId =>
        simp only [Transaction.bind_apply]
        apply meets_publishedArtifact
        intro row later
        exact insertArtifact_meets actor input family later
  simp only [Transaction.script, createArtifact, assertArtifactCapacity, familyOf, randomUUID,
    Transaction.bind_apply]
  apply meets_requireArtifactPermission
  intro permitted _
  apply meets_query
  intro _ _ _ profile _ _ _
  refine ⟨trivial, meets_require fun _ => ?_⟩
  apply meets_readRows (publication_unpromising platform)
  intro _ _ _
  apply meets_require
  intro _
  apply meets_fromOutside (publication_unpromising platform)
  intro familyId later _
  cases input.replacesArtifactId with
  | none => exact sourced _ later
  | some replacedId =>
      simp only [Transaction.bind_apply]
      apply meets_publishedArtifact
      intro replaced found
      apply meets_readRows (publication_unpromising platform)
      intro _ _ _
      exact sourced _ _

theorem changeTenant_meets (change : TenantChange) :
    (changeTenant change).script.Meets (publication platform) (.start store) := by
  simp only [Transaction.script, changeTenant, Transaction.bind_apply]
  apply meets_query
  intro _ view locks there _ _ _
  refine ⟨trivial, ?_⟩
  simp only [stageChanges, Transaction.bind_apply]
  refine meets_commitChanges ?_ fun _ _ _ _ => trivial
  intro last _ _ id
  have artifact : Key.artifact id ≠ change.entry.1 := by
    cases change <;> simp [TenantChange.entry]
  have chunk : ∀ sequence, Key.chunk id sequence ≠ change.entry.1 := by
    intro sequence
    cases change <;> simp [TenantChange.entry]
  cases there with
  | true => exact .of_other last _ artifact chunk
  | false => exact .of_other last _ artifact chunk

end

/-- Every call keeps the contract. -/
theorem publication_valid (platform : Platform) :
    (publication platform).Valid (start platform) where
  keeps := by
    intro point known before after commits
    refine ⟨⟨fun id row found published =>
      (commits.effect id).sound commits.current commits.kept.1 found published,
      fun id => (commits.effect id).numbered (commits.kept.2 id)⟩, ?_⟩
    intro held free id holds sequence
    exact (commits.effect id).chunks_kept (fun row rests => free _ rests holds) sequence
  meets := by
    intro call store _
    cases call with
    | createArtifact actor input => exact createArtifact_meets store actor input
    | appendChunk actor input => exact appendChunk_meets store actor input
    | finalizeArtifact actor input => exact finalizeArtifact_meets store actor input
    | abortArtifact actor input => exact abortArtifact_meets store actor input
    | changeTenant change => exact changeTenant_meets store change

/-! ## Every run -/

/-- A system in which nothing has been uploaded. -/
def NoArtifacts (store : ArtifactRows) : Prop :=
  ∀ id, artifactAt store id = none ∧ ∀ sequence, chunkAt store id sequence = none

/-- What holds of the artifacts in a state: the published ones are as their rows
describe them; whatever a commit publishes next has been found clean if a scanner
binding was seen; and one that is published or rejected never changes again. -/
structure PublishesScanned (platform : Platform) (state : State Row Outside Point Outcome) :
    Prop where
  sound : SoundArtifacts platform state.store
  scanned : ∀ session point changes next held after,
    state.sessions.lookup session = some ⟨.commit point changes next, held⟩ →
    step (start platform) state (.commit session) = some after →
    ∀ id row, artifactAt after.store id = some row → row.status = .published →
      artifactAt state.store id ≠ some row → ∃ chunks, Chunks after.store id chunks ∧
        Scanned platform point (chunks.flatMap ArtifactChunk.bytes)
  final : ∀ later, Runs (start platform) (Guard.none Row Outside Point) state later →
    ∀ id row, artifactAt state.store id = some row → row.status ≠ .quarantined →
      artifactAt later.store id = some row ∧
        ∀ sequence, chunkAt later.store id sequence = chunkAt state.store id sequence

section

variable {platform : Platform} {state : State Row Outside Point Outcome}

/-- A commit publishes only what has been scanned. -/
theorem Holds.scanned (holds : Holds (publication platform) state) {session : SessionId}
    {point : Point} {changes : ArtifactChanges} {next : Script Row Outside Point Outcome}
    {held : List (Key × LockMode)} {after : State Row Outside Point Outcome}
    (found : state.sessions.lookup session = some ⟨.commit point changes next, held⟩)
    (stepped : step (start platform) state (.commit session) = some after) {id : Uuid}
    {row : DocumentArtifact} (there : artifactAt after.store id = some row)
    (published : row.status = .published) (fresh : artifactAt state.store id ≠ some row) :
    ∃ chunks, Chunks after.store id chunks ∧
      Scanned platform point (chunks.flatMap ArtifactChunk.bytes) := by
  rw [step, found, Option.bind_some, commitSession, Option.ite_none_right_eq_some] at stepped
  obtain ⟨allowed, result⟩ := stepped
  obtain rfl := Option.some.inj result
  obtain ⟨known, commits, _, _⟩ := holds.commits found rfl allowed
  exact (commits.effect id).scanned there published fresh

/-- A finalized artifact and its chunks stay as they are through every run. -/
theorem Holds.final (holds : Holds (publication platform) state)
    {later : State Row Outside Point Outcome}
    (run : Runs (start platform) (Guard.none Row Outside Point) state later) {id : Uuid}
    {row : DocumentArtifact} (found : artifactAt state.store id = some row)
    (final : row.status ≠ .quarantined) :
    artifactAt later.store id = some row ∧
      ∀ sequence, chunkAt later.store id sequence = chunkAt state.store id sequence := by
  refine holds.keeps (publication_valid platform) (fun store => artifactAt store id = some row ∧
    ∀ sequence, chunkAt store id sequence = chunkAt state.store id sequence) ?_
    ⟨found, fun _ => rfl⟩ run
  rintro point known before after ⟨there, chunks⟩ commits
  obtain ⟨same, kept⟩ := (commits.effect id).finalized commits.current there final
  exact ⟨same, fun sequence => (kept sequence).trans (chunks sequence)⟩

end

/-- In every run of calls, whatever the scanner replies, published artifacts are the
bytes that were scanned. -/
def PublishedAsScanned (platform : Platform) : Prop :=
  ∀ initial, NoArtifacts initial → ∀ state,
    Runs (start platform) (Guard.none Row Outside Point)
      (State.idle Row Outside Point Outcome initial) state →
    PublishesScanned platform state

theorem published_as_scanned (platform : Platform) : PublishedAsScanned platform := by
  intro initial empty state run
  have sound : SoundArtifacts platform initial := by
    intro id row found
    rw [(empty id).1] at found
    cases found
  have numbered : ∀ id, ∃ chunks, Chunks initial id chunks :=
    fun id => ⟨[], fun sequence => (empty id).2 sequence⟩
  have idle : Holds (publication platform) (State.idle Row Outside Point Outcome initial) :=
    Holds.idle ⟨sound, numbered⟩
  obtain ⟨holds, _⟩ := idle.runs (publication_valid platform) run
  exact ⟨holds.kept.1,
    fun _ _ _ _ _ _ found stepped _ _ there published fresh =>
      Holds.scanned holds found stepped there published fresh,
    fun _ onward _ _ found final => Holds.final holds onward found final⟩

/-- A platform on which every document passes. -/
def examplePlatform : Platform := ⟨fun _ => js "digest", fun _ _ => ⟨[], [], none⟩, 2, 2⟩

/-- An owner's upload of two chunks, and its publication without a scanner. -/
example :
    let owner : Actor := ⟨js "alice", none, false⟩
    let quotas : TenantStore.Quotas := ⟨1, 9, 9, 1, 1, 1, Nat.le_refl 1⟩
    let membership : TenantStore.Membership :=
      ⟨[.owner], .active, none, .direct, 0, none⟩
    let input : ArtifactInput :=
      ⟨1, 3, js "text/plain", js "note.txt", js "source_document", [], none, none⟩
    let calls : List (ℕ × Call) :=
      [(6, .createArtifact owner input), (4, .appendChunk owner ⟨1, 1, 0, [104, 105]⟩),
        (4, .appendChunk owner ⟨1, 1, 1, [33]⟩), (7, .finalizeArtifact owner ⟨1, 1⟩)]
    let outside : Outside := ⟨1, 1, none, .error [], .error []⟩
    let initial : ArtifactRows := AList.insert (Key.membership 1 (js "alice")) membership
      (AList.insert (Key.profile 1) ⟨1, quotas⟩ ∅)
    let labels : List (Label Outside Call) := calls.flatMap fun call =>
      .openSession 0 call.2 :: List.replicate call.1 (.statement 0 outside) ++
        [.commit 0, .rollback 0]
    (execute (start examplePlatform) (Guard.none Row Outside Point)
      (State.idle Row Outside Point Outcome initial) labels).bind (fun state =>
        (artifactAt state.store 1).map fun row => (row.status, row.byteLength, row.chunkCount)) =
      some (.published, some 3, some 2) := by
  decide +kernel

end Vasi.Artifacts
