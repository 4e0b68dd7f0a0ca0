import Mathlib.Data.List.Infix
import Vasi.ReleaseArchive

/-!
# Safety of release archives

The entries handed on while an archive is read are safe at every moment, whether the
archive is accepted in the end or not: their paths stay below the release, no two
are the same, each lies in a directory that came before it, and the limits hold.
For an accepted archive the outcome depends on the bytes of its stream only, not on
its chunks. The loops end on every input.
-/
namespace Vasi.ReleaseArchive

open JsValue BoundedLoops
open Utf8 (Byte)

/-! ## Safe entries -/

/-- The segments of a relative path; the empty path is the release itself. -/
def pathSegments (relativePath : JsString) : List JsString :=
  if relativePath = [] then [] else segments relativePath

/-- Following segments from a directory, as path.join does. -/
def resolve (directory : List JsString) : List JsString → List JsString
  | [] => directory
  | segment :: rest =>
      if segment = [] ∨ segment = js "." then resolve directory rest
      else if segment = js ".." then resolve directory.dropLast rest
      else resolve (directory ++ [segment]) rest

def IsNormal (segment : JsString) : Prop :=
  segment ≠ [] ∧ segment ≠ js "." ∧ segment ≠ js ".." ∧ slash ∉ segment

/-- The path of an entry's header: its relative path below the release, and a
separator at the end of a directory. The release itself has its prefix only. -/
def IsUnder (releaseId path : JsString) (entry : Entry) : Prop :=
  path = rootPrefix releaseId ++ entry.relativePath ++
      (if entry.type = .directory then [slash] else []) ∨
    entry.relativePath = [] ∧ path = rootPrefix releaseId

/-- A safe sequence of entries. -/
structure Safe (releaseId : JsString) (visits : List Visit) : Prop where
  under : ∀ visit ∈ visits, IsUnder releaseId visit.path visit.entry
  normal : ∀ visit ∈ visits, ∀ segment ∈ pathSegments visit.entry.relativePath,
    IsNormal segment
  below : ∀ visit ∈ visits, ∀ root, resolve root (pathSegments visit.entry.relativePath) =
    root ++ pathSegments visit.entry.relativePath
  permitted : ∀ visit ∈ visits, isForbidden visit.entry.relativePath = false
  distinct : (visits.map fun visit => visit.entry.relativePath).Nodup
  root : ∀ visit ∈ visits.head?,
    visit.entry.relativePath = [] ∧ visit.entry.type = .directory
  parents : ∀ earlier visit later, visits = earlier ++ visit :: later → earlier ≠ [] →
    ∃ parent ∈ earlier, parent.entry.type = .directory ∧
      ∃ name, pathSegments visit.entry.relativePath =
        pathSegments parent.entry.relativePath ++ [name]
  files : ∀ file ∈ visits, file.entry.type = .file → ∀ visit ∈ visits, ∀ name,
    pathSegments visit.entry.relativePath ≠ pathSegments file.entry.relativePath ++ [name]
  contents : ∀ visit ∈ visits, visit.contents.length = visit.entry.size
  fileSize : ∀ visit ∈ visits, visit.entry.size ≤ maximumFileBytes
  count : visits.length ≤ maximumEntries
  expanded : (visits.map fun visit => visit.entry.size).sum ≤ maximumExpandedBytes

/-! ## Paths -/

theorem slash_notMem_segments (value : JsString) : ∀ segment ∈ segments value,
    slash ∉ segment := by
  induction value with
  | nil => simp [segments, List.splitOn_nil]
  | cons unit rest inductionHypothesis =>
      rw [segments, List.splitOn_cons_eq_if_modifyHead]
      obtain ⟨first, others, split⟩ := List.exists_cons_of_ne_nil (List.splitOn_ne_nil slash rest)
      rw [segments, split, List.forall_mem_cons] at inductionHypothesis
      rw [split]
      by_cases separates : unit = slash
      · rw [if_pos (by simpa using separates)]
        simpa using inductionHypothesis
      · rw [if_neg (by simpa using separates), List.modifyHead_cons, List.forall_mem_cons,
          List.mem_cons, not_or]
        exact ⟨⟨Ne.symm separates, inductionHypothesis.1⟩, inductionHypothesis.2⟩

theorem segments_ne_nil (value : JsString) : segments value ≠ [] := List.splitOn_ne_nil slash value

/-- A path is told by its segments. -/
theorem segments_injective {first second : JsString} (same : segments first = segments second) :
    first = second := by
  have joined := congrArg (fun parts => [slash].intercalate parts) same
  simpa only [segments, List.intercalate_splitOn] using joined

theorem pathSegments_injective {first second : JsString}
    (same : pathSegments first = pathSegments second) : first = second := by
  unfold pathSegments at same
  split at same
  · rename_i empty
    split at same
    · rename_i alsoEmpty
      rw [empty, alsoEmpty]
    · exact absurd same.symm (segments_ne_nil second)
  · split at same
    · exact absurd same (segments_ne_nil first)
    · exact segments_injective same

/-- Normal segments are followed one below the other. -/
theorem resolve_normal {parts : List JsString} (normal : ∀ segment ∈ parts, IsNormal segment)
    (root : List JsString) : resolve root parts = root ++ parts := by
  induction parts generalizing root with
  | nil => exact (List.append_nil root).symm
  | cons segment rest inductionHypothesis =>
      obtain ⟨⟨nonempty, here, up, _⟩, others⟩ := List.forall_mem_cons.mp normal
      rw [resolve, if_neg (by simp [nonempty, here]), if_neg up, inductionHypothesis others,
        List.append_assoc, List.singleton_append]

/-- The parent directory of a path is what its segments but the last lead to. -/
theorem pathSegments_parentDirectory {relativePath : JsString} (nonempty : relativePath ≠ [])
    (normal : ∀ segment ∈ pathSegments relativePath, IsNormal segment) :
    ∃ name, pathSegments relativePath = pathSegments (parentDirectory relativePath) ++ [name] := by
  rw [pathSegments, if_neg nonempty] at normal ⊢
  refine ⟨(segments relativePath).getLast (segments_ne_nil _), ?_⟩
  have parts := (List.dropLast_append_getLast (segments_ne_nil relativePath)).symm
  have inside : ∀ segment ∈ (segments relativePath).dropLast, IsNormal segment :=
    fun segment there => normal segment (List.mem_of_mem_dropLast there)
  by_cases top : (segments relativePath).dropLast = []
  · have parent : parentDirectory relativePath = [] := by
      rw [parentDirectory, if_pos (by rw [dirname, if_pos top])]
    rw [parent, pathSegments, if_pos rfl]
    rw [top] at parts
    exact parts
  · have joined : segments ([slash].intercalate (segments relativePath).dropLast) =
        (segments relativePath).dropLast :=
      List.splitOn_intercalate slash (fun segment there => (inside segment there).2.2.2) top
    have directory : dirname relativePath =
        [slash].intercalate (segments relativePath).dropLast := by rw [dirname, if_neg top]
    have proper : dirname relativePath ≠ js "." := by
      intro here
      rw [← directory, here] at joined
      have single : js "." ∈ (segments relativePath).dropLast := by
        rw [← joined]
        decide
      exact (inside _ single).2.1 rfl
    have filled : dirname relativePath ≠ [] := by
      intro empty
      rw [← directory, empty] at joined
      have single : [] ∈ (segments relativePath).dropLast := by
        rw [← joined]
        decide
      exact (inside _ single).1 rfl
    rw [parentDirectory, if_neg proper, pathSegments, if_neg filled, directory, joined]
    exact parts

/-! ## What the checks of an entry tell -/

theorem validateRelativePath_spec {platform : Platform} {value : JsString} {done : Unit}
    (accepted : validateRelativePath platform value = .ok done) :
    ∀ segment ∈ pathSegments value, IsNormal segment := by
  unfold validateRelativePath at accepted
  split at accepted
  · rename_i empty
    rw [pathSegments, if_pos empty]
    exact fun segment there => absurd there List.not_mem_nil
  · rename_i nonempty
    obtain ⟨_, _, accepted⟩ := Validation.bind_ok accepted
    rw [require_ok, List.all_eq_true] at accepted
    rw [pathSegments, if_neg nonempty]
    intro segment there
    have passed := accepted segment there
    simp only [Bool.and_eq_true, decide_eq_true_eq] at passed
    exact ⟨passed.1.1.1, passed.1.1.2, passed.1.2, slash_notMem_segments value segment there⟩

/-- Cutting the prefix, and the separator of a directory, off a path that has them. -/
theorem cut_path {front path : JsString} {directory : Bool} (starts : front <+: path)
    (flagged : directory = decide (path.getLast? = some slash)) :
    path = front ++
        (if directory then path.take (path.length - 1) else path).drop front.length ++
        (if directory then [slash] else []) ∨
      (if directory then path.take (path.length - 1) else path).drop front.length = [] ∧
        path = front := by
  obtain ⟨rest, rfl⟩ := starts
  cases directory with
  | false => simp
  | true =>
      have last := of_decide_eq_true flagged.symm
      cases rest using List.reverseRecOn with
      | nil => simp
      | append_singleton rest unit =>
          rw [← List.append_assoc, List.getLast?_append_of_ne_nil _ (List.cons_ne_nil _ _)] at last
          cases last
          exact .inl (by simp [← List.append_assoc, slash])

/-- What archiveEntry tells of an entry it accepts. -/
structure EntryFacts (front path : JsString) (size : ℕ) (entry : Entry) : Prop where
  under : path = front ++ entry.relativePath ++
      (if entry.type = .directory then [slash] else []) ∨
    entry.relativePath = [] ∧ path = front
  normal : ∀ segment ∈ pathSegments entry.relativePath, IsNormal segment
  permitted : isForbidden entry.relativePath = false
  sized : entry.size = size
  empty : entry.type = .directory → entry.size = 0
  limit : size ≤ maximumFileBytes

theorem archiveEntry_spec {platform : Platform} {path front : JsString} {typeFlag : CodeUnit}
    {size : ℕ} {header : Bytes} {entry : Entry}
    (accepted : archiveEntry platform path front typeFlag size header = .ok entry) :
    EntryFacts front path size entry := by
  obtain ⟨_, starts, accepted⟩ := Validation.bind_ok accepted
  obtain ⟨_, flagged, accepted⟩ := Validation.bind_ok accepted
  obtain ⟨_, normal, accepted⟩ := Validation.bind_ok accepted
  obtain ⟨_, permitted, accepted⟩ := Validation.bind_ok accepted
  obtain ⟨mode, _, accepted⟩ := Validation.bind_ok accepted
  obtain ⟨_, _, accepted⟩ := Validation.bind_ok accepted
  rw [require_ok] at starts flagged permitted
  have cut := cut_path (List.isPrefixOf_iff_prefix.mp starts) (beq_iff_eq.mp flagged)
  have segmentsNormal := validateRelativePath_spec normal
  have allowed (relativePath : JsString)
      (passed : (!(decide (relativePath ≠ []) && isForbidden relativePath)) = true) :
      isForbidden relativePath = false := by
    by_cases empty : relativePath = []
    · rw [empty]
      decide
    · simpa [empty] using passed
  have forbidden := allowed _ permitted
  generalize decide (typeFlag = directoryFlag) = directory at *
  cases directory with
  | true =>
      obtain ⟨_, none, accepted⟩ := Validation.bind_ok accepted
      rw [require_ok, decide_eq_true_eq] at none
      cases accepted
      exact ⟨cut, segmentsNormal, forbidden, none.symm, fun _ => rfl, none ▸ Nat.zero_le _⟩
  | false =>
      obtain ⟨_, limit, accepted⟩ := Validation.bind_ok accepted
      obtain ⟨_, _, accepted⟩ := Validation.bind_ok accepted
      rw [require_ok, decide_eq_true_eq] at limit
      cases accepted
      exact ⟨cut, segmentsNormal, forbidden, rfl, nofun, limit⟩

theorem check_ok {α β : Type} {checked : Except Code α} {rest : α → Reading β} {reader : Reader}
    {out : β × Reader} (taken : ((liftM checked : Reading α) >>= rest) reader = .ok out) :
    ∃ value, checked = .ok value ∧ rest value reader = .ok out := by
  cases checked with
  | error code => cases taken
  | ok value => exact ⟨value, rfl, taken⟩

theorem read_bind_ok {α β : Type} {first : Reading α} {rest : α → Reading β} {reader : Reader}
    {out : β × Reader} (taken : (first >>= rest) reader = .ok out) :
    ∃ value middle, first reader = .ok (value, middle) ∧ rest value middle = .ok out := by
  obtain ⟨⟨value, middle⟩, firstTaken, restTaken⟩ := Validation.bind_ok taken
  exact ⟨value, middle, firstTaken, restTaken⟩

theorem readContents_spec {size : ℕ} {reader after : Reader} {contents : Bytes}
    (taken : readContents size reader = .ok (contents, after)) : contents.length = size := by
  obtain ⟨block, middle, reading, taken⟩ := read_bind_ok taken
  have length := (read_spec reading).1
  dsimp only at taken
  split at taken
  · cases taken
    exact length
  · obtain ⟨padding, last, _, taken⟩ := read_bind_ok taken
    obtain ⟨_, _, taken⟩ := check_ok taken
    cases taken
    exact length

/-- What the parser has checked of an entry when it records it. -/
structure Admitted (releaseId : JsString) (scan : Scan) (visit : Visit) : Prop where
  facts : EntryFacts (rootPrefix releaseId) visit.path visit.contents.length visit.entry
  count : scan.entries + 1 ≤ maximumEntries
  expanded : visit.entry.type = .directory ∨
    scan.expandedBytes + visit.entry.size ≤ maximumExpandedBytes
  root : scan.rootSeen = false →
    visit.entry.relativePath = [] ∧ visit.entry.type = .directory
  inner : scan.rootSeen = true → visit.entry.relativePath ≠ []
  fresh : visit.entry.relativePath ∉ scan.paths
  parent : visit.entry.relativePath ≠ [] →
    parentDirectory visit.entry.relativePath ∈ scan.directories

theorem readEntry_spec {platform : Platform} {releaseId : JsString} {scan : Scan} {header : Bytes}
    {typeFlag : CodeUnit} {size : ℕ} {reader after : Reader} {visit : Visit}
    (taken : readEntry platform releaseId scan header typeFlag size reader = .ok (visit, after)) :
    Admitted releaseId scan visit := by
  obtain ⟨_, _, taken⟩ := check_ok taken
  obtain ⟨_, _, taken⟩ := check_ok taken
  obtain ⟨_, count, taken⟩ := check_ok taken
  obtain ⟨fullPath, _, taken⟩ := check_ok taken
  obtain ⟨entry, shaped, taken⟩ := check_ok taken
  obtain ⟨_, expanded, taken⟩ := check_ok taken
  obtain ⟨contents, middle, reading, taken⟩ := read_bind_ok taken
  obtain ⟨_, admitted, taken⟩ := check_ok taken
  cases taken
  rw [require_ok, decide_eq_true_eq] at count
  rw [require_ok, Bool.or_eq_true, decide_eq_true_eq, decide_eq_true_eq] at expanded
  have facts := archiveEntry_spec shaped
  rw [← readContents_spec reading] at facts
  unfold requirePlace at admitted
  split at admitted
  · rename_i seen
    obtain ⟨_, inner, admitted⟩ := Validation.bind_ok admitted
    obtain ⟨_, fresh, parent⟩ := Validation.bind_ok admitted
    simp only [require_ok, decide_eq_true_eq, Bool.not_eq_true', Bool.or_eq_true,
      List.contains_eq_mem, decide_eq_false_iff_not] at inner fresh parent
    exact ⟨facts, count, expanded, fun unseen => by simp [seen] at unseen, fun _ => inner, fresh,
      fun nonempty => parent.resolve_left nonempty⟩
  · rename_i unseen
    obtain ⟨_, root, admitted⟩ := Validation.bind_ok admitted
    obtain ⟨_, fresh, parent⟩ := Validation.bind_ok admitted
    simp only [require_ok, decide_eq_true_eq, Bool.not_eq_true', Bool.or_eq_true,
      Bool.and_eq_true, List.contains_eq_mem, decide_eq_false_iff_not] at root fresh parent
    exact ⟨facts, count, expanded, fun _ => root, fun seen => absurd seen unseen, fresh,
      fun nonempty => parent.resolve_left nonempty⟩

/-- An entry that a round reads is admitted. -/
theorem readTurn_entry {platform : Platform} {releaseId : JsString} {scan : Scan}
    {reader after : Reader} {visit : Visit}
    (taken : readTurn platform releaseId scan reader = .ok (.entry visit, after)) :
    Admitted releaseId scan visit := by
  obtain ⟨header, middle, _, taken⟩ := read_bind_ok taken
  split at taken
  · obtain ⟨_, _, _, taken⟩ := read_bind_ok taken
    obtain ⟨_, _, taken⟩ := check_ok taken
    obtain ⟨_, _, _, taken⟩ := read_bind_ok taken
    cases taken
  · obtain ⟨_, _, taken⟩ := check_ok taken
    obtain ⟨size, _, taken⟩ := check_ok taken
    generalize scan.sourceCommit = commit at taken
    cases commit
    · obtain ⟨_, _, _, taken⟩ := read_bind_ok taken
      cases taken
    · obtain ⟨read, _, reading, taken⟩ := read_bind_ok taken
      cases taken
      exact readEntry_spec reading

/-- An archive ends at the end of its stream. -/
theorem readTurn_ended {platform : Platform} {releaseId : JsString} {scan : Scan}
    {reader after : Reader}
    (taken : readTurn platform releaseId scan reader = .ok (.ended, after)) :
    after.chunks = [] := by
  obtain ⟨header, middle, _, taken⟩ := read_bind_ok taken
  split at taken
  · obtain ⟨_, _, _, taken⟩ := read_bind_ok taken
    obtain ⟨_, _, taken⟩ := check_ok taken
    obtain ⟨_, _, remainder, taken⟩ := read_bind_ok taken
    cases taken
    exact (requireZeroRemainder_spec remainder).2
  · obtain ⟨_, _, taken⟩ := check_ok taken
    obtain ⟨size, _, taken⟩ := check_ok taken
    generalize scan.sourceCommit = commit at taken
    cases commit
    · obtain ⟨_, _, _, taken⟩ := read_bind_ok taken
      cases taken
    · obtain ⟨_, _, _, taken⟩ := read_bind_ok taken
      cases taken

/-! ## What the entries keep -/

/-- The scan knows the entries recorded so far. -/
structure Tracks (scan : Scan) (visits : List Visit) : Prop where
  paths : scan.paths = visits.map fun visit => visit.entry.relativePath
  directories : ∀ path ∈ scan.directories, path = [] ∨
    ∃ visit ∈ visits, visit.entry.type = .directory ∧ visit.entry.relativePath = path
  entries : scan.entries = visits.length
  expanded : scan.expandedBytes = (visits.map fun visit => visit.entry.size).sum
  limit : scan.expandedBytes ≤ maximumExpandedBytes
  rootSeen : scan.rootSeen = !visits.isEmpty

theorem Tracks.start : Tracks Scan.start [] where
  paths := rfl
  directories := by simp [Scan.start]
  entries := rfl
  expanded := rfl
  limit := Nat.zero_le _
  rootSeen := rfl

theorem Safe.start (releaseId : JsString) : Safe releaseId [] where
  under := by simp
  normal := by simp
  below := by simp
  permitted := by simp
  distinct := by simp
  root := by simp
  parents := by simp
  files := by simp
  contents := by simp
  fileSize := by simp
  count := Nat.zero_le _
  expanded := Nat.zero_le _

section

variable {releaseId : JsString} {scan : Scan} {visits : List Visit} {visit : Visit}

theorem Tracks.record (platform : Platform) (tracks : Tracks scan visits)
    (admitted : Admitted releaseId scan visit) :
    Tracks (scan.record platform visit) (visits ++ [visit]) := by
  have known : ∀ path ∈ scan.directories, path = [] ∨ ∃ other ∈ visits ++ [visit],
      other.entry.type = .directory ∧ other.entry.relativePath = path := by
    intro path there
    rcases tracks.directories path there with empty | ⟨other, inside, directory, same⟩
    · exact .inl empty
    · exact .inr ⟨other, List.mem_append_left _ inside, directory, same⟩
  cases kind : visit.entry.type with
  | directory =>
      have none := admitted.facts.empty kind
      simp only [Scan.record, kind]
      constructor
      · simp [tracks.paths]
      · intro path there
        split at there
        · exact known path there
        · rcases List.mem_append.mp there with old | new
          · exact known path old
          · exact .inr ⟨visit, by simp, kind, (List.mem_singleton.mp new).symm⟩
      · simp [tracks.entries]
      · simp [tracks.expanded, none]
      · exact tracks.limit
      · simp
  | file =>
      simp only [Scan.record, kind]
      constructor
      · simp [tracks.paths]
      · exact known
      · simp [tracks.entries]
      · simp [tracks.expanded]
      · rcases admitted.expanded with directory | within
        · rw [kind] at directory
          cases directory
        · exact within
      · simp

/-- Two entries with the same path are the same entry. -/
theorem Safe.unique (safe : Safe releaseId visits) {first second : Visit} (one : first ∈ visits)
    (other : second ∈ visits)
    (same : first.entry.relativePath = second.entry.relativePath) : first = second :=
  List.inj_on_of_nodup_map safe.distinct one other same

/-- A path with a known directory as its parent has a directory entry as its parent. -/
theorem Safe.parent_entry (safe : Safe releaseId visits) (tracks : Tracks scan visits)
    (admitted : Admitted releaseId scan visit) (nonempty : visits ≠ []) :
    ∃ parent ∈ visits, parent.entry.type = .directory ∧
      parent.entry.relativePath = parentDirectory visit.entry.relativePath := by
  have seen : scan.rootSeen = true := by
    rw [tracks.rootSeen]
    simpa using nonempty
  have known := admitted.parent (admitted.inner seen)
  rcases tracks.directories _ known with top | found
  · obtain ⟨first, rest, rfl⟩ := List.exists_cons_of_ne_nil nonempty
    obtain ⟨empty, directory⟩ := safe.root first rfl
    exact ⟨first, List.mem_cons_self, directory, empty.trans top.symm⟩
  · exact found

theorem Safe.parents_append (safe : Safe releaseId visits) (tracks : Tracks scan visits)
    (admitted : Admitted releaseId scan visit) {earlier later : List Visit} {other : Visit}
    (parts : visits ++ [visit] = earlier ++ other :: later) (nonempty : earlier ≠ []) :
    ∃ parent ∈ earlier, parent.entry.type = .directory ∧
      ∃ name, pathSegments other.entry.relativePath =
        pathSegments parent.entry.relativePath ++ [name] := by
  cases later using List.reverseRecOn with
  | nil =>
      obtain ⟨rfl, last⟩ := List.append_inj' parts rfl
      cases last
      have seen : scan.rootSeen = true := by
        rw [tracks.rootSeen]
        simpa using nonempty
      obtain ⟨parent, inside, directory, path⟩ := safe.parent_entry tracks admitted nonempty
      refine ⟨parent, inside, directory, ?_⟩
      rw [path]
      exact pathSegments_parentDirectory (admitted.inner seen) admitted.facts.normal
  | append_singleton later last =>
      rw [← List.cons_append, ← List.append_assoc] at parts
      exact safe.parents earlier other later (List.append_inj_left' parts rfl) nonempty

theorem Safe.files_append (safe : Safe releaseId visits) (tracks : Tracks scan visits)
    (admitted : Admitted releaseId scan visit) {file other : Visit}
    (fileThere : file ∈ visits ++ [visit]) (isFile : file.entry.type = .file)
    (there : other ∈ visits ++ [visit]) (name : JsString) :
    pathSegments other.entry.relativePath ≠ pathSegments file.entry.relativePath ++ [name] := by
  intro below
  -- An entry below another is not the first one, which is the release itself.
  obtain ⟨earlier, later, parts⟩ := List.append_of_mem there
  have nonempty : earlier ≠ [] := by
    rintro rfl
    have top : other.entry.relativePath = [] := by
      cases visits with
      | nil =>
          cases parts
          exact (admitted.root (by rw [tracks.rootSeen]; rfl)).1
      | cons first rest =>
          cases parts
          exact (safe.root other rfl).1
    rw [top, pathSegments, if_pos rfl] at below
    exact absurd below.symm (by simp)
  obtain ⟨parent, inside, directory, above, path⟩ :=
    safe.parents_append tracks admitted parts nonempty
  have same := pathSegments_injective (List.append_inj_left' (path.symm.trans below) rfl)
  -- The parent comes before another entry, so it is not the new one.
  have old : parent ∈ visits := by
    cases later using List.reverseRecOn with
    | nil => exact (List.append_inj' parts rfl).1 ▸ inside
    | append_singleton later last =>
        rw [← List.cons_append, ← List.append_assoc] at parts
        rw [List.append_inj_left' parts rfl]
        exact List.mem_append_left _ inside
  rcases List.mem_append.mp fileThere with oldFile | newFile
  · rw [safe.unique old oldFile same, isFile] at directory
    cases directory
  · rw [List.mem_singleton.mp newFile] at same
    apply admitted.fresh
    rw [tracks.paths, ← same]
    exact List.mem_map_of_mem old

/-- An admitted entry keeps the sequence safe. -/
theorem Safe.append (safe : Safe releaseId visits) (tracks : Tracks scan visits)
    (admitted : Admitted releaseId scan visit) : Safe releaseId (visits ++ [visit]) := by
  have facts := admitted.facts
  have each {property : Visit → Prop} (old : ∀ other ∈ visits, property other)
      (new : property visit) : ∀ other ∈ visits ++ [visit], property other := by
    simpa [or_imp, forall_and] using ⟨old, new⟩
  constructor
  · exact each safe.under facts.under
  · exact each safe.normal facts.normal
  · exact each safe.below (resolve_normal facts.normal)
  · exact each safe.permitted facts.permitted
  · rw [List.map_append, List.map_singleton]
    refine List.nodup_append.mpr ⟨safe.distinct, List.nodup_singleton _, ?_⟩
    rintro path there other new rfl
    rw [List.mem_singleton.mp new] at there
    exact admitted.fresh (tracks.paths ▸ there)
  · cases visits with
    | nil =>
        intro first there
        cases there
        exact admitted.root (by rw [tracks.rootSeen]; rfl)
    | cons first rest => exact safe.root
  · exact fun earlier other later parts => safe.parents_append tracks admitted parts
  · exact fun file there isFile other inside name =>
      safe.files_append tracks admitted there isFile inside name
  · exact each safe.contents facts.sized.symm
  · exact each safe.fileSize (facts.sized ▸ facts.limit)
  · have count := admitted.count
    rw [tracks.entries] at count
    simpa using count
  · have after := tracks.record ⟨id, fun _ => []⟩ admitted
    exact after.expanded ▸ after.limit

end

/-! ## What the chunks of a stream change

Two readers within the limit that are at the same place of the same stream agree,
however its bytes are split. -/

structure Same (first second : Reader) : Prop where
  remaining : first.remaining = second.remaining
  ending : first.ending = second.ending
  firstLimit : first.total ≤ maximumDecompressedBytes
  secondLimit : second.total ≤ maximumDecompressedBytes

inductive Agree {α : Type} : Except Code (α × Reader) → Except Code (α × Reader) → Prop
  | error (code : Code) : Agree (.error code) (.error code)
  | ok (value : α) {first second : Reader} (same : Same first second) :
      Agree (.ok (value, first)) (.ok (value, second))

/-- A program that cannot tell the chunks of its stream. -/
def Steady {α : Type} (program : Reading α) : Prop :=
  ∀ first second, Same first second → Agree (program first) (program second)

theorem Steady.pure {α : Type} (value : α) : Steady (pure value) :=
  fun _ _ same => .ok value same

theorem Steady.bind {α β : Type} {program : Reading α} {rest : α → Reading β}
    (steady : Steady program) (others : ∀ value, Steady (rest value)) :
    Steady (program >>= rest) := by
  intro first second same
  have agree := steady first second same
  change Agree ((program first).bind _) ((program second).bind _)
  generalize program first = one at agree ⊢
  generalize program second = other at agree ⊢
  cases agree with
  | error code => exact .error code
  | ok value between => exact others value _ _ between

theorem Steady.check {α β : Type} {checked : Except Code α} {rest : α → Reading β}
    (steady : ∀ value, Steady (rest value)) :
    Steady ((liftM checked : Reading α) >>= rest) := by
  cases checked with
  | error code => exact fun first second same => .error code
  | ok value => exact steady value

/-- Within the limit, a buffer is filled when the stream has enough bytes. -/
theorem fill_within (length : ℕ) (ending : Ending) (buffered : Bytes) {decompressedBytes : ℕ}
    {chunks : List Bytes}
    (limit : decompressedBytes + chunks.flatten.length ≤ maximumDecompressedBytes) :
    if length ≤ (buffered ++ chunks.flatten).length then
      ∃ filled, fill length ending buffered chunks decompressedBytes = .ok filled
    else fill length ending buffered chunks decompressedBytes = .error ending.code := by
  induction chunks generalizing buffered decompressedBytes with
  | nil =>
      rw [List.flatten_nil, List.append_nil]
      split
      · rename_i enough
        exact ⟨_, by rw [fill, if_pos enough]⟩
      · rename_i short
        rw [fill, if_neg short]
  | cons chunk rest inductionHypothesis =>
      rw [List.flatten_cons, List.length_append] at limit
      rw [List.flatten_cons, ← List.append_assoc]
      by_cases enough : length ≤ buffered.length
      · rw [if_pos (by simp only [List.length_append]; omega)]
        exact ⟨_, by rw [fill, if_pos enough]⟩
      · have next : fill length ending buffered (chunk :: rest) decompressedBytes =
            fill length ending (buffered ++ chunk) rest (decompressedBytes + chunk.length) := by
          rw [fill, if_neg enough, if_neg (by omega)]
        rw [next]
        exact inductionHypothesis _ (by omega)

theorem Steady.read (length : ℕ) : Steady (read length) := by
  intro first second same
  have firstFill := fill_within length first.ending first.buffered same.firstLimit
  have secondFill := fill_within length second.ending second.buffered same.secondLimit
  have place := same.remaining
  unfold Reader.remaining at place
  rw [← place] at secondFill
  by_cases allowed : length ≤ maximumExpandedBytes
  · by_cases enough : length ≤ (first.buffered ++ first.chunks.flatten).length
    · rw [if_pos enough] at firstFill secondFill
      obtain ⟨one, firstFilled⟩ := firstFill
      obtain ⟨other, secondFilled⟩ := secondFill
      have firstRead : ReleaseArchive.read length first = .ok (one.buffered.take length,
          { one with buffered := one.buffered.drop length }) := by
        simp only [ReleaseArchive.read, require, allowed, firstFilled]
        rfl
      have secondRead : ReleaseArchive.read length second = .ok (other.buffered.take length,
          { other with buffered := other.buffered.drop length }) := by
        simp only [ReleaseArchive.read, require, allowed, secondFilled]
        rfl
      obtain ⟨firstSize, firstParts, firstEnding, firstStep⟩ := read_spec firstRead
      obtain ⟨secondSize, secondParts, secondEnding, secondStep⟩ := read_spec secondRead
      have parts := firstParts.symm.trans (same.remaining.trans secondParts)
      obtain ⟨block, left⟩ := List.append_inj parts (firstSize.trans secondSize.symm)
      rw [firstRead, secondRead, block]
      exact .ok _ ⟨left, firstEnding.trans (same.ending.trans secondEnding.symm),
        firstStep.total ▸ same.firstLimit, secondStep.total ▸ same.secondLimit⟩
    · rw [if_neg enough] at firstFill secondFill
      have firstRead : ReleaseArchive.read length first = .error first.ending.code := by
        simp only [ReleaseArchive.read, require, allowed, firstFill]
        rfl
      have secondRead : ReleaseArchive.read length second = .error second.ending.code := by
        simp only [ReleaseArchive.read, require, allowed, secondFill]
        rfl
      rw [firstRead, secondRead, same.ending]
      exact .error _
  · have refused (reader : Reader) :
        ReleaseArchive.read length reader = .error .invalidArchiveRead := by
      simp only [ReleaseArchive.read, require, allowed]
      rfl
    rw [refused, refused]
    exact .error _

/-- Within the limit, the remainder is zero or it is not, and the stream has its end. -/
theorem zeroChunks_within {decompressedBytes : ℕ} {ending : Ending} {chunks : List Bytes}
    (limit : decompressedBytes + chunks.flatten.length ≤ maximumDecompressedBytes) :
    zeroChunks ending chunks decompressedBytes =
      if isZero chunks.flatten then
        match ending with
        | .finished => .ok ⟨[], [], ending, decompressedBytes + chunks.flatten.length⟩
        | .broken => .error .invalidReleaseArchive
      else .error .invalidArchiveTrailer := by
  induction chunks generalizing decompressedBytes with
  | nil => cases ending <;> rfl
  | cons chunk rest inductionHypothesis =>
      rw [List.flatten_cons, List.length_append] at limit ⊢
      have below : decompressedBytes + chunk.length ≤ maximumDecompressedBytes := by omega
      have whole : isZero (chunk ++ rest.flatten) = (isZero chunk && isZero rest.flatten) :=
        List.all_append
      rw [zeroChunks, inductionHypothesis (by omega), whole, ← Nat.add_assoc]
      cases isZero chunk with
      | true =>
          simp only [require, below, decide_true, Bool.and_self, Bool.true_and, if_true]
          rfl
      | false =>
          simp only [require, Bool.and_false, Bool.false_and, Bool.false_eq_true, if_false]
          rfl

theorem requireZeroRemainder_within {reader : Reader}
    (limit : reader.total ≤ maximumDecompressedBytes) :
    requireZeroRemainder reader =
      if isZero reader.remaining then
        match reader.ending with
        | .finished => .ok ((), ⟨[], [], reader.ending, reader.total⟩)
        | .broken => .error .invalidReleaseArchive
      else .error .invalidArchiveTrailer := by
  have whole : isZero reader.remaining = (isZero reader.buffered && isZero reader.chunks.flatten) :=
    List.all_append
  rw [whole, requireZeroRemainder, zeroChunks_within limit, Reader.total]
  cases isZero reader.buffered with
  | true =>
      cases isZero reader.chunks.flatten with
      | true => cases reader.ending <;> rfl
      | false => rfl
  | false => rfl

theorem Steady.requireZeroRemainder : Steady requireZeroRemainder := by
  intro first second same
  rw [requireZeroRemainder_within same.firstLimit, requireZeroRemainder_within same.secondLimit,
    same.remaining, same.ending]
  split
  · split
    · exact .ok () ⟨rfl, rfl, same.firstLimit, same.secondLimit⟩
    · exact .error _
  · exact .error _

theorem Steady.readContents (size : ℕ) : Steady (readContents size) := by
  refine (Steady.read size).bind fun contents => ?_
  dsimp only
  split
  · exact Steady.pure contents
  · exact (Steady.read _).bind fun block => Steady.check fun _ => Steady.pure contents

theorem Steady.lift {α : Type} (checked : Except Code α) : Steady (liftM checked : Reading α) := by
  cases checked with
  | error code => exact fun first second same => .error code
  | ok value => exact fun first second same => .ok value same

theorem Steady.readProvenance (header : Bytes) (typeFlag : CodeUnit) (size : ℕ) :
    Steady (readProvenance header typeFlag size) := by
  refine Steady.check fun _ => Steady.check fun path => Steady.check fun _ => ?_
  refine (Steady.readContents size).bind fun contents => ?_
  exact Steady.check fun pax => Steady.lift (provenance pax)

theorem Steady.readEntry (platform : Platform) (releaseId : JsString) (scan : Scan)
    (header : Bytes) (typeFlag : CodeUnit) (size : ℕ) :
    Steady (readEntry platform releaseId scan header typeFlag size) := by
  refine Steady.check fun _ => Steady.check fun _ => Steady.check fun _ => ?_
  refine Steady.check fun fullPath => Steady.check fun entry => Steady.check fun _ => ?_
  refine (Steady.readContents size).bind fun contents => ?_
  exact Steady.check fun _ => Steady.pure _

/-- A round cannot tell the chunks of its stream. -/
theorem Steady.readTurn (platform : Platform) (releaseId : JsString) (scan : Scan) :
    Steady (readTurn platform releaseId scan) := by
  refine (Steady.read tarBlockBytes).bind fun header => ?_
  split
  · refine (Steady.read tarBlockBytes).bind fun last => Steady.check fun _ => ?_
    exact Steady.requireZeroRemainder.bind fun _ => Steady.pure Turn.ended
  · refine Steady.check fun _ => Steady.check fun size => ?_
    split
    · exact (Steady.readProvenance _ _ _).bind fun commit => Steady.pure _
    · exact (Steady.readEntry _ _ _ _ _ _).bind fun visit => Steady.pure _

/-! ## Every archive -/

/-- The entries so far are safe and the scan knows them, in a stream of the given
length that is read within the limit. -/
structure Sound (releaseId : JsString) (total : ℕ) (parse : Parse) : Prop where
  safe : Safe releaseId parse.visits
  tracks : Tracks parse.scan parse.visits
  length : parse.reader.total = total
  limit : parse.reader.decompressedBytes ≤ maximumDecompressedBytes

/-- How a run ends: its entries are safe, and its stream is within the limit when it
is accepted. -/
structure Finished (releaseId : JsString) (total : ℕ) (outcome : Outcome) : Prop where
  safe : Safe releaseId outcome.visits
  limit : ∀ summary, outcome.result = .ok summary →
    total ≤ maximumDecompressedBytes ∧ summary.entries = outcome.visits.length ∧
      summary.expandedBytes = (outcome.visits.map fun visit => visit.entry.size).sum

section

variable {platform : Platform} {releaseId : JsString} {onEntry : OnEntry} {total : ℕ}

theorem Sound.again {parse next : Parse} (sound : Sound releaseId total parse)
    (taken : parseRound platform releaseId onEntry parse = .again next) :
    Sound releaseId total next := by
  unfold parseRound at taken
  split at taken
  · cases taken
  · cases taken
  · rename_i reading
    have step := Takes.readTurn _ _ _ _ _ _ reading
    cases taken
    obtain ⟨paths, directories, entries, expanded, limit, rootSeen⟩ := sound.tracks
    exact ⟨sound.safe, ⟨paths, directories, entries, expanded, limit, rootSeen⟩,
      step.total.trans sound.length, step.limit sound.limit⟩
  · rename_i reading
    have step := Takes.readTurn _ _ _ _ _ _ reading
    have admitted := readTurn_entry reading
    dsimp only at taken
    split at taken
    · cases taken
    · cases taken
      exact ⟨sound.safe.append sound.tracks admitted, sound.tracks.record platform admitted,
        step.total.trans sound.length, step.limit sound.limit⟩

theorem Tracks.summary {scan : Scan} {visits : List Visit} {summary : Summary}
    (tracks : Tracks scan visits) (accepted : scan.summary platform = .ok summary) :
    summary.entries = visits.length ∧
      summary.expandedBytes = (visits.map fun visit => visit.entry.size).sum := by
  unfold Scan.summary at accepted
  split at accepted
  · cases accepted
  · split at accepted
    · cases accepted
      exact ⟨tracks.entries, tracks.expanded⟩
    · cases accepted

theorem Sound.done {parse : Parse} {outcome : Outcome} (sound : Sound releaseId total parse)
    (taken : parseRound platform releaseId onEntry parse = .done outcome) :
    Finished releaseId total outcome := by
  unfold parseRound at taken
  split at taken
  · cases taken
    refine ⟨sound.safe, fun summary accepted => ?_⟩
    cases accepted
  · rename_i reading
    have step := Takes.readTurn _ _ _ _ _ _ reading
    have ended := readTurn_ended reading
    cases taken
    refine ⟨sound.safe, fun summary accepted => ⟨?_, sound.tracks.summary accepted⟩⟩
    have within := step.limit sound.limit
    rw [← sound.length, ← step.total, Reader.total, ended]
    exact within
  · cases taken
  · rename_i reading
    have admitted := readTurn_entry reading
    dsimp only at taken
    split at taken
    · cases taken
      refine ⟨sound.safe.append sound.tracks admitted, fun summary accepted => ?_⟩
      cases accepted
    · cases taken

/-- Every run ends with safe entries. -/
theorem parseTarGzip_finished (platform : Platform) (releaseId : JsString) (onEntry : OnEntry)
    (stream : Stream) :
    Finished releaseId stream.bytes.length (parseTarGzip platform releaseId onEntry stream) := by
  refine (parseLoop platform releaseId onEntry).run_rule
    (Sound releaseId stream.bytes.length) (fun _ _ sound taken => sound.again taken)
    (fun _ _ sound taken => sound.done taken) ?_
  exact ⟨Safe.start releaseId, Tracks.start, Nat.zero_add _, Nat.zero_le _⟩

/-- Two loops at the same place of one stream. -/
def SamePlace (first second : Parse) : Prop :=
  first.scan = second.scan ∧ first.visits = second.visits ∧ Same first.reader second.reader

theorem parseRound_alike {first second : Parse} (same : SamePlace first second) :
    Loop.Alike SamePlace (parseRound platform releaseId onEntry first)
      (parseRound platform releaseId onEntry second) := by
  obtain ⟨firstReader, scan, visits⟩ := first
  obtain ⟨secondReader, _, _⟩ := second
  obtain ⟨rfl, rfl, place⟩ := same
  have agree := Steady.readTurn platform releaseId scan _ _ place
  unfold parseRound
  dsimp only at agree ⊢
  generalize readTurn platform releaseId scan firstReader = one at agree ⊢
  generalize readTurn platform releaseId scan secondReader = other at agree ⊢
  cases agree with
  | error code => exact .done _
  | ok turn between =>
      cases turn with
      | ended => exact .done _
      | provenance commit => exact .again ⟨rfl, rfl, between⟩
      | entry visit =>
          dsimp only
          split
          · exact .done _
          · exact .again ⟨rfl, rfl, between⟩

/-- Within the limit, an outcome depends on the bytes of the stream and its end. -/
theorem parseTarGzip_chunks {first second : Stream} (bytes : first.bytes = second.bytes)
    (ending : first.ending = second.ending)
    (limit : first.bytes.length ≤ maximumDecompressedBytes) :
    parseTarGzip platform releaseId onEntry first =
      parseTarGzip platform releaseId onEntry second := by
  refine (parseLoop platform releaseId onEntry).run_same SamePlace
    (fun _ _ same => parseRound_alike same) ⟨rfl, rfl, bytes, ending, ?_, ?_⟩
  · exact (Nat.zero_add _).trans_le limit
  · exact (Nat.zero_add _).trans_le ((congrArg List.length bytes).symm.trans_le limit)

end

/-- What staging may rely on for a release: whatever the stream, the entries that
onEntry is given are safe, up to a rejection and to the end; an accepted stream is
within its limit and gives the same outcome in any other chunks; and the loops over
entries and records end, within as many rounds as there are bytes. -/
structure StagesSafely (platform : Platform) (releaseId : JsString) (onEntry : OnEntry) :
    Prop where
  safe : ∀ stream, Safe releaseId (parseTarGzip platform releaseId onEntry stream).visits
  accepted : ∀ stream summary,
    (parseTarGzip platform releaseId onEntry stream).result = .ok summary →
      stream.bytes.length ≤ maximumDecompressedBytes ∧
      summary.entries = (parseTarGzip platform releaseId onEntry stream).visits.length ∧
      summary.expandedBytes = ((parseTarGzip platform releaseId onEntry stream).visits.map
        fun visit => visit.entry.size).sum ∧
      ∀ other : Stream, other.bytes = stream.bytes → other.ending = stream.ending →
        parseTarGzip platform releaseId onEntry other =
          parseTarGzip platform releaseId onEntry stream
  entriesEnd : ∀ stream rounds, stream.bytes.length < rounds →
    within (parseRound platform releaseId onEntry) rounds stream.start =
      some (parseTarGzip platform releaseId onEntry stream)
  recordsEnd : ∀ contents rounds, contents.length < rounds →
    ∃ records, within (paxRound contents) rounds (0, []) = some records

theorem release_archives_stage_safely (platform : Platform) (releaseId : JsString)
    (onEntry : OnEntry) : StagesSafely platform releaseId onEntry where
  safe stream := (parseTarGzip_finished platform releaseId onEntry stream).safe
  accepted := by
    intro stream summary accepted
    obtain ⟨limit, entries, expanded⟩ :=
      (parseTarGzip_finished platform releaseId onEntry stream).limit summary accepted
    exact ⟨limit, entries, expanded, fun other bytes ending =>
      (parseTarGzip_chunks bytes.symm ending.symm limit).symm⟩
  entriesEnd stream rounds enough := (parseLoop platform releaseId onEntry).within_run enough
  recordsEnd contents rounds enough := ⟨_, (paxLoop contents).within_run enough⟩

end Vasi.ReleaseArchive
