import Vasi.CustodyCycle

/-!
# Retention

A cycle keeps to an order, whatever befalls its steps: a package is removed after the new one
has been verified and it has been inspected itself, the oldest first, and nothing else in the
directory changes. What a cycle has written and not verified is its own to discard.
-/
namespace Vasi.CustodyCycle

open JsValue Utf8 Validation FaultyRuns FaultyRuns.Run
open IsoTime (Time isoText)

/-! ## Names -/

/-- The name is that of a package. -/
def Managed (name : JsString) : Prop := (packageParts name).isSome = true

instance (name : JsString) : Decidable (Managed name) := inferInstanceAs (Decidable (_ = true))

theorem packageParts_eq {name stamp digest : JsString}
    (parts : packageParts name = some (stamp, digest)) :
    name = packageName stamp digest ∧ stamp.length = 16 ∧ digest.length = 64 := by
  unfold packageParts at parts
  dsimp only at parts
  split at parts
  · rename_i shape
    obtain ⟨rfl, rfl⟩ := Prod.mk.inj (Option.some.inj parts)
    refine ⟨shape.2.2.2, ?_, shape.2.1⟩
    have timestamp := shape.1
    simp only [isTimestamp, Bool.and_eq_true, decide_eq_true_eq] at timestamp
    exact timestamp.1.1.1.1
  · cases parts

theorem managed_head {name : JsString} (managed : Managed name) : name.head? = some 118 := by
  obtain ⟨⟨stamp, digest⟩, parts⟩ := Option.isSome_iff_exists.mp managed
  rw [(packageParts_eq parts).1]
  rfl

theorem lock_unmanaged : ¬Managed LOCK_NAME := fun managed => by
  have head := managed_head managed
  revert head
  decide

theorem partial_unmanaged (request : Request) : ¬Managed (partialName request) := fun managed => by
  have head := managed_head managed
  have dot : (partialName request).head? = some 46 := rfl
  rw [dot] at head
  revert head
  decide

/-- Texts in two parts of the same size go by the first part, then by the second. -/
theorem append_lt {first second : JsString} {one other : JsString}
    (length : first.length = second.length) (less : first ++ one < second ++ other) :
    first < second ∨ first = second ∧ one < other := by
  induction first generalizing second with
  | nil =>
      obtain rfl := List.length_eq_zero_iff.mp length.symm
      exact .inr ⟨rfl, less⟩
  | cons unit rest inductionHypothesis =>
      obtain ⟨next, more, rfl⟩ := List.exists_cons_of_ne_nil
        (List.ne_nil_of_length_pos (by rw [← length]; exact Nat.succ_pos _))
      rw [List.cons_append, List.cons_append, List.cons_lt_cons_iff] at less
      rw [List.cons_lt_cons_iff]
      rcases less with lower | ⟨rfl, later⟩
      · exact .inl (.inl lower)
      · rcases inductionHypothesis (Nat.succ.inj length) later with lower | ⟨rfl, last⟩
        · exact .inl (.inr ⟨rfl, lower⟩)
        · exact .inr ⟨rfl, last⟩

theorem append_lt_same {start one other : JsString} (less : start ++ one < start ++ other) :
    one < other := by
  rcases append_lt rfl less with never | ⟨-, later⟩
  · exact absurd never (lt_irrefl _)
  · exact later

/-- The time stamp and the digest of the name of a package. -/
def stampedBy (name stamp digest : JsString) : Prop := packageParts name = some (stamp, digest)

/-- Packages go by the time stamp, and by the digest where the time stamps are the same. -/
def Older (name other : JsString) : Prop :=
  ∀ stamp digest otherStamp otherDigest, stampedBy name stamp digest →
    stampedBy other otherStamp otherDigest →
    stamp < otherStamp ∨ stamp = otherStamp ∧ digest < otherDigest

theorem older_of_lt {name other : JsString} (less : name < other) : Older name other := by
  intro stamp digest otherStamp otherDigest parts otherParts
  obtain ⟨rfl, sixteen, some⟩ := packageParts_eq parts
  obtain ⟨rfl, otherSixteen, otherSome⟩ := packageParts_eq otherParts
  rcases append_lt (sixteen.trans otherSixteen.symm) (append_lt_same less) with
    lower | ⟨same, later⟩
  · exact .inl lower
  · rcases append_lt (some.trans otherSome.symm) (append_lt_same later) with lower | ⟨-, never⟩
    · exact .inr ⟨same, lower⟩
    · exact absurd never (lt_irrefl _)

/-! ## The packages of a directory -/

theorem mem_packageNames {directory : Directory} {name : JsString} :
    name ∈ packageNames directory ↔
      Managed name ∧ ∃ entry, directory.lookup name = some entry ∧ entry.isFile = true := by
  unfold packageNames
  rw [List.mem_insertionSort, List.mem_map]
  constructor
  · rintro ⟨entry, listed, rfl⟩
    rw [List.mem_filter, Bool.and_eq_true] at listed
    exact ⟨listed.2.2, entry.2, AList.mem_lookup_iff.mpr listed.1, listed.2.1⟩
  · rintro ⟨managed, entry, found, file⟩
    refine ⟨⟨name, entry⟩, List.mem_filter.mpr ⟨AList.mem_lookup_iff.mp found, ?_⟩, rfl⟩
    rw [file]
    exact managed

/-- A package is still there after another file has been removed. -/
theorem mem_packageNames_erase {directory : Directory} {name other : JsString}
    (listed : name ∈ packageNames directory) (apart : name ≠ other) :
    name ∈ packageNames (directory.erase other) := by
  obtain ⟨managed, entry, found, file⟩ := mem_packageNames.mp listed
  refine mem_packageNames.mpr ⟨managed, entry, ?_, file⟩
  exact (AList.lookup_erase_ne apart).trans found

theorem packageNames_sorted (directory : Directory) :
    (packageNames directory).Pairwise (· ≤ ·) := List.pairwise_insertionSort (· ≤ ·) _

theorem packageNames_nodup (directory : Directory) : (packageNames directory).Nodup := by
  refine (List.perm_insertionSort (· ≤ ·) _).nodup_iff.mpr ?_
  refine List.Nodup.of_map id ?_
  rw [List.map_id]
  exact (List.Sublist.map Sigma.fst List.filter_sublist).nodup directory.keys_nodup

/-- Lists in order are the same if they have the same members. -/
theorem eq_of_sorted {first second : List JsString} (firstSorted : first.Pairwise (· ≤ ·))
    (secondSorted : second.Pairwise (· ≤ ·)) (firstOnce : first.Nodup) (secondOnce : second.Nodup)
    (same : ∀ name, name ∈ first ↔ name ∈ second) : first = second :=
  List.Perm.eq_of_pairwise (fun _ _ _ _ below above => le_antisymm below above) firstSorted
    secondSorted ((List.perm_ext_iff_of_nodup firstOnce secondOnce).mpr same)

/-- The packages other than the new one, in their order. -/
def others (directory : Directory) (own : Option JsString) : List JsString :=
  (packageNames directory).filter fun name => some name ≠ own

theorem mem_others {directory : Directory} {own : Option JsString} {name : JsString} :
    name ∈ others directory own ↔ name ∈ packageNames directory ∧ some name ≠ own := by
  rw [others, List.mem_filter, decide_eq_true_eq]

theorem others_sorted (directory : Directory) (own : Option JsString) :
    (others directory own).Pairwise (· ≤ ·) :=
  (packageNames_sorted directory).sublist List.filter_sublist

theorem others_nodup (directory : Directory) (own : Option JsString) :
    (others directory own).Nodup := (packageNames_nodup directory).sublist List.filter_sublist

/-- Without its first packages a directory has the later ones. -/
theorem others_drop {initial directory : Directory} {own : Option JsString} {count : ℕ}
    (kept : ∀ name, Managed name → some name ≠ own → directory.lookup name =
      if name ∈ (others initial own).take count then none else initial.lookup name) :
    others directory own = (others initial own).drop count := by
  have split := List.take_append_drop count (others initial own)
  have once := others_nodup initial own
  rw [← split] at once
  refine eq_of_sorted (others_sorted directory own)
    ((others_sorted initial own).sublist (List.drop_sublist _ _)) (others_nodup directory own)
    ((others_nodup initial own).sublist (List.drop_sublist _ _)) fun name => ?_
  rw [mem_others, mem_packageNames]
  constructor
  · rintro ⟨⟨managed, entry, found, file⟩, other⟩
    rw [kept name managed other] at found
    split at found
    · cases found
    · rename_i outside
      have inside : name ∈ others initial own :=
        mem_others.mpr ⟨mem_packageNames.mpr ⟨managed, entry, found, file⟩, other⟩
      rw [← split, List.mem_append] at inside
      exact inside.resolve_left outside
  · intro later
    have inside := List.mem_of_mem_drop later
    obtain ⟨listed, other⟩ := mem_others.mp inside
    obtain ⟨managed, entry, found, file⟩ := mem_packageNames.mp listed
    have outside : name ∉ (others initial own).take count := fun taken =>
      List.disjoint_of_nodup_append once taken later
    refine ⟨⟨managed, entry, ?_, file⟩, other⟩
    rw [kept name managed other, if_neg outside, found]

/-- With the new package there is one more. -/
theorem packageNames_length {directory : Directory} {own : JsString}
    (listed : own ∈ packageNames directory) :
    (packageNames directory).length = (others directory (some own)).length + 1 := by
  have apart : others directory (some own) = (packageNames directory).erase own := by
    rw [(packageNames_nodup directory).erase_eq_filter, others]
    refine List.filter_congr fun name _ => ?_
    rw [bne, Bool.eq_iff_iff]
    simp
  rw [apart, List.length_erase_of_mem listed]
  have some := List.length_pos_of_mem listed
  omega

/-! ## What a cycle keeps to -/

/-- The name of the package that a cycle writes, if it comes to that. -/
def newPackage (tools : Tools) (request : Request) : Option JsString :=
  match (managedBackupNames request).getLast? with
  | none => none
  | some source =>
      match request.draft source with
      | .error _ => none
      | .ok draft =>
          some (custodyPackageName draft.sourceCreatedAt (tools.sha256Hex draft.writes.flatten))

/-- The new package has been written, has passed inspection and is verified. -/
def Established (own : Option JsString) (log : List Event) : Prop :=
  ∃ new time, own = some new ∧ Event.published new ∈ log ∧ Event.passed new time ∈ log ∧
    Event.verified new ∈ log

theorem Established.append {own : Option JsString} {log : List Event}
    (established : Established own log) (later : List Event) : Established own (log ++ later) := by
  obtain ⟨new, time, isOwn, published, passed, verified⟩ := established
  exact ⟨new, time, isOwn, List.mem_append_left _ published, List.mem_append_left _ passed,
    List.mem_append_left _ verified⟩

/-- After what a package may be removed: the new one before it has been verified, and any
other one after the new one has been established and it has passed inspection itself. -/
def Allowed (own : Option JsString) (before : List Event) (name : JsString) : Prop :=
  (some name = own ∧ ∀ new, Event.verified new ∉ before) ∨
    some name ≠ own ∧ Established own before ∧ ∃ time, Event.passed name time ∈ before

/-- Each removal of a package is allowed by what stands before it. -/
def Orderly (own : Option JsString) (log : List Event) : Prop :=
  ∀ before name after, log = before ++ Event.removed name :: after → Managed name →
    Allowed own before name

/-- The package other than the new one that an event removes. -/
def removal (own : Option JsString) : Event → Option JsString
  | .removed name => if Managed name ∧ some name ≠ own then some name else none
  | _ => none

/-- The packages other than the new one that have been removed, in the order of their
removal. -/
def removals (own : Option JsString) (log : List Event) : List JsString :=
  log.filterMap (removal own)

/-- The files that a cycle does not write itself. -/
structure Foreign (tools : Tools) (request : Request) (name : JsString) : Prop where
  lock : name ≠ LOCK_NAME
  partialFile : name ≠ partialName request
  new : some name ≠ newPackage tools request

/-- So many of the other packages have been removed, the oldest ones, and everything else is
as it was. -/
structure Sound (tools : Tools) (request : Request) (initial : Directory) (count : ℕ)
    (directory : Directory) (log : List Event) : Prop where
  kept : ∀ name, Foreign tools request name → directory.lookup name =
    if name ∈ (others initial (newPackage tools request)).take count then none
    else initial.lookup name
  orderly : Orderly (newPackage tools request) log
  removed : removals (newPackage tools request) log =
    (others initial (newPackage tools request)).take count
  stamped : ∀ name time, Event.passed name time ∈ log →
    ∃ digest, stampedBy name (custodyTimestamp time) digest

theorem Orderly.snoc {own : Option JsString} {log : List Event} (orderly : Orderly own log)
    {event : Event}
    (allowed : ∀ name, event = .removed name → Managed name → Allowed own log name) :
    Orderly own (log ++ [event]) := by
  intro before name after split managed
  rcases List.eq_nil_or_concat after with rfl | ⟨more, last, rfl⟩
  · obtain ⟨rfl, same⟩ := List.append_inj' split rfl
    exact allowed name (List.cons.inj same).1 managed
  · have parts : log ++ [event] = (before ++ Event.removed name :: more) ++ [last] := by
      rw [split, List.concat_eq_append, List.append_assoc, List.cons_append]
    exact orderly before name more (List.append_inj' parts rfl).1 managed

variable {Value : Type} {tools : Tools} {request : Request} {initial : Directory} {count : ℕ}
  {directory : Directory} {log : List Event}

/-- The names that are no package and the new package are not among the others. -/
theorem Foreign.of_managed {name : JsString} (managed : Managed name)
    (other : some name ≠ newPackage tools request) : Foreign tools request name where
  lock := fun same => lock_unmanaged (same ▸ managed)
  partialFile := fun same => partial_unmanaged request (same ▸ managed)
  new := other

/-- A file that the cycle does not write is another one than those it writes. -/
theorem Foreign.apart {name other : JsString} (foreign : Foreign tools request other)
    (own : ¬Foreign tools request name) : other ≠ name := by
  rintro rfl
  exact own foreign

theorem Sound.change (sound : Sound tools request initial count directory log)
    {changed : Directory} (same : ∀ name, Foreign tools request name →
      changed.lookup name = directory.lookup name) :
    Sound tools request initial count changed log :=
  { sound with kept := fun name foreign => (same name foreign).trans (sound.kept name foreign) }

/-- An event that is no removal of another package. -/
theorem Sound.event (sound : Sound tools request initial count directory log) {event : Event}
    (allowed : ∀ name, event = .removed name → Managed name →
      some name = newPackage tools request ∧ ∀ new, Event.verified new ∉ log)
    (stamped : ∀ name time, event = .passed name time →
      ∃ digest, stampedBy name (custodyTimestamp time) digest) :
    Sound tools request initial count directory (log ++ [event]) where
  kept := sound.kept
  orderly := sound.orderly.snoc fun name same managed => .inl (allowed name same managed)
  removed := by
    have none : removal (newPackage tools request) event = none := by
      cases event with
      | removed name =>
          refine if_neg fun both => ?_
          exact both.2 (allowed name rfl both.1).1
      | passed => rfl
      | published => rfl
      | verified => rfl
    rw [removals, List.filterMap_append, List.filterMap_cons_none none, List.filterMap_nil,
      List.append_nil]
    exact sound.removed
  stamped := fun name time inside => by
    rcases List.mem_append.mp inside with earlier | last
    · exact sound.stamped name time earlier
    · exact stamped name time (List.mem_singleton.mp last).symm

/-- The next of the other packages is removed. -/
theorem Sound.remove (sound : Sound tools request initial count directory log)
    {name : JsString} {time : Time} {rest : List JsString}
    (next : others directory (newPackage tools request) = name :: rest)
    (established : Established (newPackage tools request) log)
    (passed : Event.passed name time ∈ log) :
    Sound tools request initial (count + 1) (directory.erase name) (log ++ [.removed name]) := by
  have drop := others_drop fun name managed other =>
    sound.kept name (Foreign.of_managed managed other)
  have taken : (others initial (newPackage tools request)).take (count + 1) =
      (others initial (newPackage tools request)).take count ++ [name] := by
    rw [List.take_add_one, ← List.head?_drop, ← drop, next]
    rfl
  obtain ⟨listed, other⟩ := mem_others.mp (next ▸ List.mem_cons_self)
  have managed := (mem_packageNames.mp listed).1
  refine ⟨fun own foreign => ?_, ?_, ?_, fun own time inside => ?_⟩
  · simp only [taken, List.mem_append, List.mem_singleton]
    by_cases same : own = name
    · rw [same, AList.lookup_erase, if_pos (.inr rfl)]
    · rw [AList.lookup_erase_ne same, sound.kept own foreign]
      simp only [same, or_false]
  · refine sound.orderly.snoc fun gone same _ => .inr ?_
    obtain rfl := Event.removed.inj same
    exact ⟨other, established, time, passed⟩
  · have some : removal (newPackage tools request) (.removed name) = some name :=
      if_pos ⟨managed, other⟩
    rw [removals, List.filterMap_append, List.filterMap_cons_some some, List.filterMap_nil, taken]
    exact congrArg (· ++ [name]) sound.removed
  · rcases List.mem_append.mp inside with earlier | last
    · exact sound.stamped own time earlier
    · cases List.mem_singleton.mp last

/-- A file of the cycle is removed, a package only before any has been verified. -/
theorem Sound.discard (sound : Sound tools request initial count directory log) {name : JsString}
    (own : ¬Foreign tools request name)
    (before : Managed name → ∀ new, Event.verified new ∉ log) :
    Sound tools request initial count (directory.erase name) (log ++ [.removed name]) := by
  have changed : Sound tools request initial count (directory.erase name) log :=
    sound.change fun other foreign => AList.lookup_erase_ne (foreign.apart own)
  refine changed.event (fun gone same managed => ?_) nofun
  obtain rfl := Event.removed.inj same
  refine ⟨?_, before managed⟩
  by_contra other
  exact own (Foreign.of_managed managed other)

theorem sound_start (tools : Tools) (request : Request) (initial : Directory) :
    Sound tools request initial 0 initial [] where
  kept := fun name _ => by simp
  orderly := fun before name after split => by
    have counted := congrArg List.length split
    simp at counted
  removed := by simp [removals]
  stamped := nofun

/-! ## Before the new package has been verified -/

section

variable (tools request initial)

/-- A state in which the directory is as the cycle may leave it. -/
def Safe (store : Store) : Prop :=
  ∃ count, Sound tools request initial count store.directory store.log

/-- Before the new package has been verified, no other one is removed. -/
structure Early (store : Store) : Prop where
  sound : Sound tools request initial 0 store.directory store.log
  unverified : ∀ name, Event.verified name ∉ store.log
  flag : store.verified = false
  partialFile : ∀ name, store.partialFile = some name → name = partialName request
  destination : ∀ name, store.destination = some name → some name = newPackage tools request

/-- Once the new package has been verified, it stays. -/
structure Late (count : ℕ) (store : Store) : Prop where
  sound : Sound tools request initial count store.directory store.log
  established : Established (newPackage tools request) store.log
  stays : ∀ new, newPackage tools request = some new → new ∈ packageNames store.directory

end

theorem Early.safe {store : Store} (early : Early tools request initial store) :
    Safe tools request initial store := ⟨0, early.sound⟩

theorem Late.safe {store : Store} (late : Late tools request initial count store) :
    Safe tools request initial store := ⟨count, late.sound⟩

theorem lock_own (tools : Tools) (request : Request) : ¬Foreign tools request LOCK_NAME :=
  fun foreign => foreign.lock rfl

theorem partial_own (tools : Tools) (request : Request) :
    ¬Foreign tools request (partialName request) := fun foreign => foreign.partialFile rfl

theorem Early.insert {store : Store} (early : Early tools request initial store)
    {name : JsString} (own : ¬Foreign tools request name) (entry : FileEntry) :
    Early tools request initial { store with directory := store.directory.insert name entry } :=
  { early with
    sound := early.sound.change fun _ foreign =>
      AList.lookup_insert_ne (foreign.apart own) }

theorem Early.remove {store : Store} (early : Early tools request initial store)
    {name : JsString} (own : ¬Foreign tools request name) :
    Early tools request initial (store.remove name) :=
  { early with
    sound := early.sound.discard own fun _ => early.unverified
    unverified := fun new inside => by
      rcases List.mem_append.mp inside with earlier | last
      · exact early.unverified new earlier
      · cases List.mem_singleton.mp last }

/-- A step that keeps to the time before. -/
theorem early_perform {effect : Store → Except Failure Value × Store}
    (keeps : ∀ store, Early tools request initial store →
      Early tools request initial (effect store).2) :
    Ends (Early tools request initial) (perform effect) (fun _ => Early tools request initial)
      (Early tools request initial) (Safe tools request initial) := by
  refine ends_perform (fun _ early => early) (fun _ early => early.safe)
    (fun store value after early done => ?_) (fun store error after early done => ?_)
  · have kept := keeps store early
    rw [done] at kept
    exact ⟨kept, kept⟩
  · have kept := keeps store early
    rw [done] at kept
    exact kept

theorem early_openExclusive {name : JsString} (own : ¬Foreign tools request name)
    (taken : Failure) :
    Ends (Early tools request initial) (openExclusive name taken)
      (fun _ => Early tools request initial) (Early tools request initial)
      (Safe tools request initial) := by
  unfold openExclusive
  refine early_perform fun store early => ?_
  by_cases inside : name ∈ store.directory
  · rw [if_pos inside]
    exact early
  · rw [if_neg inside]
    exact early.insert own _

theorem early_writeAll {name : JsString} (own : ¬Foreign tools request name) (bytes : Bytes) :
    Ends (Early tools request initial) (writeAll name bytes) (fun _ => Early tools request initial)
      (Early tools request initial) (Safe tools request initial) := by
  unfold writeAll
  refine early_perform fun store early => ?_
  cases store.directory.lookup name with
  | none => exact early
  | some entry => exact early.insert own _

theorem early_await (result : Except Failure Value) :
    Ends (Early tools request initial) (await result) (fun _ => Early tools request initial)
      (Early tools request initial) (Safe tools request initial) :=
  early_perform fun _ early => early

theorem early_rmForce {name : JsString} (own : ¬Foreign tools request name) :
    Ends (Early tools request initial) (rmForce name) (fun _ => Early tools request initial)
      (Early tools request initial) (Safe tools request initial) := by
  unfold rmForce
  refine early_perform fun store early => ?_
  by_cases inside : name ∈ store.directory
  · rw [if_pos inside]
    exact early.remove own
  · rw [if_neg inside]
    exact early

theorem early_writeChunks {name : JsString} (own : ¬Foreign tools request name)
    (chunks : List Bytes) :
    Ends (Early tools request initial) (writeChunks name chunks)
      (fun _ => Early tools request initial) (Early tools request initial)
      (Safe tools request initial) := by
  induction chunks with
  | nil => exact ends_pure fun _ early => early
  | cons bytes rest inductionHypothesis =>
      exact (early_writeAll own bytes).bind fun _ => inductionHypothesis

/-- What has not been verified is discarded. -/
theorem early_discard :
    Ends (Early tools request initial) discard (fun _ => Early tools request initial)
      (Early tools request initial) (Safe tools request initial) := by
  have dropped {name : JsString} (own : ¬Foreign tools request name) :
      Ends (Early tools request initial) (ignoring (rmForce name))
        (fun _ => Early tools request initial) (Early tools request initial)
        (Safe tools request initial) := (early_rmForce own).ignoring
  unfold discard
  refine ends_look.bind fun found => ?_
  refine Ends.assuming (fun store both => ⟨both.1 ▸ both.2, both.2⟩)
    fun early : Early tools request initial found => ?_
  have first : Ends (Early tools request initial) (discardPartial found)
      (fun _ => Early tools request initial) (Early tools request initial)
      (Safe tools request initial) := by
    unfold discardPartial
    cases partialFile : found.partialFile with
    | none => exact ends_pure fun _ holds => holds
    | some name =>
        refine dropped ?_
        rw [early.partialFile name partialFile]
        exact partial_own tools request
  refine first.bind fun _ => ?_
  unfold discardDestination
  cases destination : found.destination with
  | none => exact ends_pure fun _ holds => holds
  | some name =>
      dsimp only
      rw [early.flag]
      exact dropped fun foreign => foreign.new (early.destination name destination)

/-! ## The new package -/

/-- An inspection that passes has read the name of a package and a source time that has its
time stamp. -/
theorem inspectOpenPackage_ok {name : JsString} {entry : FileEntry} {inspected : Inspected}
    (passed : inspectOpenPackage tools name entry = .ok inspected) :
    Managed name ∧ inspected.packageName = name ∧
      ∃ digest, stampedBy name (custodyTimestamp inspected.sourceCreatedAt) digest := by
  unfold inspectOpenPackage at passed
  split at passed
  · cases passed
  · split at passed
    · cases passed
    · rename_i stamp digest parts
      split at passed
      · cases passed
      · split at passed
        · cases passed
        · dsimp only at passed
          split at passed
          · cases passed
          · split at passed
            · cases passed
            · cases read : tools.readHeader ((entry.bytes.drop OUTER_PREFIX_BYTES).take
                  (readUInt32BE ((entry.bytes.drop OUTER_MAGIC.length).take 4))) with
              | error failure =>
                  rw [read] at passed
                  cases passed
              | ok header =>
                  rw [read] at passed
                  simp only [bind, Except.bind] at passed
                  split at passed
                  · cases passed
                  · split at passed
                    · cases passed
                    · rename_i agree
                      obtain rfl := Except.ok.inj passed
                      refine ⟨Option.isSome_iff_exists.mpr ⟨_, parts⟩, rfl, digest, ?_⟩
                      rw [not_not.mp agree]
                      exact parts

theorem openReadonlyRegular_ok {entry : FileEntry} (opened : openReadonlyRegular entry = .ok ()) :
    entry.isFile = true := by
  unfold openReadonlyRegular at opened
  split at opened
  · cases opened
  · rename_i file
    exact Bool.eq_true_of_not_eq_false file

/-- What an inspection of a package in the directory has found is logged. -/
theorem inspect_ends {name : JsString} {pre thrown crashed : Store → Prop}
    {post : Inspected → Store → Prop} (refused : ∀ store, pre store → thrown store)
    (stopped : ∀ store, pre store → crashed store)
    (passes : ∀ store inspected, pre store → name ∈ packageNames store.directory →
      inspected.packageName = name →
      (∃ digest, stampedBy name (custodyTimestamp inspected.sourceCreatedAt) digest) →
      post inspected
          { store with log := store.log ++ [.passed name inspected.sourceCreatedAt] } ∧
        thrown { store with log := store.log ++ [.passed name inspected.sourceCreatedAt] }) :
    Ends pre (inspectCustodyPackage tools name) post thrown crashed := by
  unfold inspectCustodyPackage
  refine ends_perform refused stopped (fun store inspected after holds done => ?_)
    (fun store failure after holds done => ?_)
  · cases found : store.directory.lookup name with
    | none =>
        rw [found] at done
        cases done
    | some entry =>
        rw [found] at done
        dsimp only at done
        cases opened : openReadonlyRegular entry with
        | error failure =>
            rw [opened] at done
            cases done
        | ok _ =>
            rw [opened] at done
            cases passed : inspectOpenPackage tools name entry with
            | error failure =>
                simp only [bind, Except.bind, passed] at done
                cases done
            | ok own =>
                simp only [bind, Except.bind, passed] at done
                obtain ⟨same, rfl⟩ := Prod.mk.inj done
                obtain rfl := Except.ok.inj same
                obtain ⟨managed, named, stamped⟩ := inspectOpenPackage_ok passed
                exact passes store own holds (mem_packageNames.mpr
                  ⟨managed, entry, found, openReadonlyRegular_ok opened⟩) named stamped
  · have same : after = store := by
      split at done
      · exact (Prod.mk.inj done).2.symm
      · split at done
        · exact (Prod.mk.inj done).2.symm
        · cases (Prod.mk.inj done).1
    rw [same]
    exact refused store holds

theorem Early.logs {store : Store} (early : Early tools request initial store) {event : Event}
    (removed : ∀ name, event ≠ .removed name) (verified : ∀ name, event ≠ .verified name)
    (stamped : ∀ name time, event = .passed name time →
      ∃ digest, stampedBy name (custodyTimestamp time) digest) :
    Early tools request initial { store with log := store.log ++ [event] } :=
  { early with
    sound := early.sound.event (fun name same => absurd same (removed name)) stamped
    unverified := fun name inside => by
      rcases List.mem_append.mp inside with earlier | last
      · exact early.unverified name earlier
      · exact verified name (List.mem_singleton.mp last).symm }

section

variable (tools request initial)

/-- The new package has its name, and nothing is left of the partial file. -/
structure Moved (name : JsString) (store : Store) : Prop where
  early : Early tools request initial store
  published : Event.published name ∈ store.log

/-- The new package has been verified, and the final part leaves everything as it is. -/
structure Published (store : Store) : Prop where
  late : Late tools request initial 0 store
  flag : store.verified = true
  nothing : store.partialFile = none

end

theorem Early.moves {store : Store} (early : Early tools request initial store) {name : JsString}
    (own : ¬Foreign tools request name) (entry : FileEntry) :
    Moved tools request initial name { store with
      directory := (store.directory.erase (partialName request)).insert name entry
      log := store.log ++ [.published name] } where
  early := by
    have changed : Early tools request initial { store with
        directory := (store.directory.erase (partialName request)).insert name entry } :=
      { early with
        sound := early.sound.change fun other foreign =>
          (AList.lookup_insert_ne (foreign.apart own)).trans
            (AList.lookup_erase_ne foreign.partialFile) }
    exact changed.logs nofun nofun nofun
  published := List.mem_append_right _ (List.mem_singleton_self _)

theorem rename_ends {name : JsString} (own : ¬Foreign tools request name) :
    Ends (Early tools request initial) (rename (partialName request) name)
      (fun _ => Moved tools request initial name) (Early tools request initial)
      (Safe tools request initial) := by
  unfold rename
  refine ends_perform (fun _ early => early) (fun _ early => early.safe)
    (fun store value after early done => ?_) (fun store error after early done => ?_)
  · split at done
    · cases (Prod.mk.inj done).1
    · rw [← (Prod.mk.inj done).2]
      exact ⟨early.moves own _, (early.moves own _).early⟩
  · split at done
    · rw [← (Prod.mk.inj done).2]
      exact early
    · cases (Prod.mk.inj done).1

/-- A package that has passed inspection may be verified. -/
structure Inspectable (tools : Tools) (request : Request) (initial : Directory) (name : JsString)
    (store : Store) : Prop where
  moved : Moved tools request initial name store
  nothing : store.partialFile = none
  passed : ∃ time, Event.passed name time ∈ store.log
  listed : name ∈ packageNames store.directory

theorem Inspectable.verify {name : JsString} {store : Store}
    (inspectable : Inspectable tools request initial name store)
    (own : newPackage tools request = some name) :
    Published tools request initial
      { store with verified := true, log := store.log ++ [.verified name] } where
  late :=
    { sound := inspectable.moved.early.sound.event nofun nofun
      established := by
        obtain ⟨time, passed⟩ := inspectable.passed
        exact ⟨name, time, own, List.mem_append_left _ inspectable.moved.published,
          List.mem_append_left _ passed, List.mem_append_right _ (List.mem_singleton_self _)⟩
      stays := fun new same => by
        obtain rfl := Option.some.inj (own.symm.trans same)
        exact inspectable.listed }
  flag := rfl
  nothing := inspectable.nothing

theorem inspect_new_ends {name : JsString} :
    Ends (fun store => Moved tools request initial name store ∧ store.partialFile = none)
      (inspectCustodyPackage tools name)
      (fun inspected store => inspected.packageName = name ∧
        Inspectable tools request initial name store)
      (Early tools request initial) (Safe tools request initial) := by
  refine inspect_ends (fun _ both => both.1.early) (fun _ both => both.1.early.safe)
    fun store inspected both listed named stamped => ?_
  have logged : Early tools request initial
      { store with log := store.log ++ [.passed name inspected.sourceCreatedAt] } := by
    refine both.1.early.logs nofun nofun fun own time same => ?_
    obtain ⟨rfl, rfl⟩ := Event.passed.inj same
    exact stamped
  exact ⟨⟨named, ⟨logged, List.mem_append_left _ both.1.published⟩, both.2,
    ⟨_, List.mem_append_right _ (List.mem_singleton_self _)⟩, listed⟩, logged⟩

/-- The package is published and verified, or what has been written is still to be
discarded. -/
theorem publish_ends {draft : Draft} (own : newPackage tools request =
      some (custodyPackageName draft.sourceCreatedAt (tools.sha256Hex draft.writes.flatten))) :
    Ends (Early tools request initial) (publish tools request draft)
      (fun inspected store => Published tools request initial store ∧
        newPackage tools request = some inspected.packageName)
      (Early tools request initial) (Safe tools request initial) := by
  unfold publish
  generalize custodyPackageName draft.sourceCreatedAt (tools.sha256Hex draft.writes.flatten) =
    name at own ⊢
  have notForeign : ¬Foreign tools request name := fun foreign => foreign.new own.symm
  refine (ends_assign fun store early => ({ early with
    partialFile := fun file same => (Option.some.inj same).symm } :
      Early tools request initial _)).bind fun _ => ?_
  refine (early_openExclusive (partial_own tools request) _).bind fun _ => ?_
  refine (((early_writeChunks (partial_own tools request) draft.writes).bind fun _ =>
    early_await _).withFinally (fun _ => early_await _) (early_await _)).bind fun _ => ?_
  refine (ends_assign fun store early => ({ early with
    destination := fun file same => by
      rw [← Option.some.inj same]
      exact own.symm } : Early tools request initial _)).bind fun _ => ?_
  have missing (message : JsString) : Ends (Early tools request initial)
      (assertMissing name message) (fun _ => Early tools request initial)
      (Early tools request initial) (Safe tools request initial) := by
    unfold assertMissing
    exact early_perform fun _ early => early
  refine (missing _).bind fun _ => ?_
  refine (rename_ends notForeign).bind fun _ => ?_
  have emptied : Ends (Moved tools request initial name)
      (assign fun store => { store with partialFile := none } : Custody Unit)
      (fun _ store => Moved tools request initial name store ∧ store.partialFile = none)
      (Early tools request initial) (Safe tools request initial) :=
    ends_assign fun store moved =>
      ⟨⟨{ moved.early with partialFile := nofun }, moved.published⟩, rfl⟩
  refine emptied.bind fun _ => ?_
  have synced : Ends
      (fun store => Moved tools request initial name store ∧ store.partialFile = none)
      (await (.ok ()) : Custody Unit)
      (fun _ store => Moved tools request initial name store ∧ store.partialFile = none)
      (Early tools request initial) (Safe tools request initial) := by
    refine ends_perform (fun _ both => both.1.early) (fun _ both => both.1.early.safe)
      (fun store _ after both done => ?_)
      (fun store failure after both done => by cases (Prod.mk.inj done).1)
    rw [← (Prod.mk.inj done).2]
    exact ⟨both, both.1.early⟩
  refine synced.bind fun _ => inspect_new_ends.bind fun inspected => ?_
  split
  · exact ends_throws fun _ both => both.2.moved.early
  · have verified : Ends
        (fun store => inspected.packageName = name ∧
          Inspectable tools request initial name store)
        (assign fun store =>
          { store with verified := true, log := store.log ++ [.verified name] } : Custody Unit)
        (fun _ store => Published tools request initial store ∧
          newPackage tools request = some inspected.packageName)
        (Early tools request initial) (Safe tools request initial) :=
      ends_assign fun store both => ⟨both.2.verify own, by rw [own, both.1]⟩
    exact verified.bind fun _ => ends_pure fun store both => both

/-- A verified package is not discarded. -/
theorem published_discard {fact : Prop} :
    Ends (fun store => Published tools request initial store ∧ fact) discard
      (fun _ store => Late tools request initial 0 store ∧ fact) (Early tools request initial)
      (Safe tools request initial) := by
  unfold discard
  refine ends_look.bind fun found => ?_
  refine Ends.assuming (fun store both => ⟨by rw [both.1]; exact both.2.1, both.2⟩)
    fun published : Published tools request initial found => ?_
  have partialPart : discardPartial found = pure () := by
    rw [discardPartial, published.nothing]
  have destinationPart : discardDestination found = pure () := by
    rw [discardDestination]
    cases found.destination with
    | none => rfl
    | some name => exact if_pos published.flag
  rw [partialPart, destinationPart]
  exact (ends_pure fun _ both => both).bind fun _ =>
    ends_pure fun store (both : Published tools request initial store ∧ fact) =>
      ⟨both.1.late, both.2⟩

/-- The envelope ends with a package that stays, or with everything else as it was. -/
theorem envelope_ends {source : JsString}
    (last : (managedBackupNames request).getLast? = some source) :
    Ends (Early tools request initial) (createCustodyEnvelope tools request source)
      (fun created store => Late tools request initial 0 store ∧
        newPackage tools request = some created.packageName)
      (Early tools request initial) (Safe tools request initial) := by
  unfold createCustodyEnvelope
  have drafted : Ends (Early tools request initial) (await (request.draft source))
      (fun draft store => request.draft source = .ok draft ∧ Early tools request initial store)
      (Early tools request initial) (Safe tools request initial) := by
    refine ends_perform (fun _ early => early) (fun _ early => early.safe)
      (fun store draft after early done => ?_) (fun store failure after early done => ?_)
    · obtain ⟨result, rfl⟩ := Prod.mk.inj done
      exact ⟨⟨result, early⟩, early⟩
    · obtain ⟨-, rfl⟩ := Prod.mk.inj done
      exact early
  refine drafted.bind fun draft => Ends.assuming (fun store both => both) fun result => ?_
  have own : newPackage tools request =
      some (custodyPackageName draft.sourceCreatedAt (tools.sha256Hex draft.writes.flatten)) := by
    simp only [newPackage, last, result]
  exact (publish_ends own).withFinally (fun created => published_discard) early_discard

/-! ## The loop -/

theorem Late.length {store : Store} (late : Late tools request initial count store) :
    (packageNames store.directory).length =
      ((others initial (newPackage tools request)).drop count).length + 1 := by
  obtain ⟨new, -, own, -⟩ := late.established
  have listed := packageNames_length (late.stays new own)
  have drop := others_drop fun name managed other =>
    late.sound.kept name (Foreign.of_managed managed other)
  rw [listed, ← drop, own]

/-- Another package that has passed inspection is removed, the oldest one that is left. -/
theorem Late.remove {store : Store} (late : Late tools request initial count store)
    {name : JsString} {time : Time} {rest : List JsString}
    (next : others store.directory (newPackage tools request) = name :: rest)
    (passed : Event.passed name time ∈ store.log) :
    Late tools request initial (count + 1) (store.remove name) where
  sound := late.sound.remove next late.established passed
  established := late.established.append _
  stays := fun new own => by
    obtain ⟨-, other⟩ := mem_others.mp (next ▸ List.mem_cons_self)
    refine mem_packageNames_erase (late.stays new own) fun same => other ?_
    rw [← same, own]

/-- A round shortens what is left. -/
theorem Late.shorter {before after : Store} (early : Late tools request initial count before)
    (late : Late tools request initial (count + 1) after) {name : JsString} {rest : List JsString}
    (next : others before.directory (newPackage tools request) = name :: rest) :
    (packageNames after.directory).length < (packageNames before.directory).length := by
  have drop := others_drop fun name managed other =>
    early.sound.kept name (Foreign.of_managed managed other)
  rw [next] at drop
  have some := congrArg List.length drop
  rw [early.length, late.length]
  simp only [List.length_drop, List.length_cons] at some ⊢
  omega

theorem Late.logs {store : Store} (late : Late tools request initial count store)
    {name : JsString} {time : Time}
    (stamped : ∃ digest, stampedBy name (custodyTimestamp time) digest) :
    Late tools request initial count { store with log := store.log ++ [.passed name time] } where
  sound := late.sound.event nofun fun other otherTime same => by
    obtain ⟨rfl, rfl⟩ := Event.passed.inj same
    exact stamped
  established := late.established.append _
  stays := late.stays

theorem names_ends {pre : Store → Prop} {thrown crashed : Store → Prop}
    (refused : ∀ store, pre store → thrown store) (stopped : ∀ store, pre store → crashed store) :
    Ends pre managedCustodyNames
      (fun names store => pre store ∧ names = packageNames store.directory) thrown crashed := by
  unfold managedCustodyNames
  refine ends_perform refused stopped (fun store names after holds done => ?_)
    (fun store failure after holds done => by cases (Prod.mk.inj done).1)
  obtain ⟨result, rfl⟩ := Prod.mk.inj done
  exact ⟨⟨holds, (Except.ok.inj result).symm⟩, refused _ holds⟩

/-- The loop ends, with no more packages than are to be retained. -/
theorem retention_ends {created : JsString} (own : newPackage tools request = some created)
    (retain allowed : ℕ) {names : List JsString} (enough : names.length < allowed) :
    Ends (fun store => Late tools request initial count store ∧
        names = packageNames store.directory)
      (retention tools created retain allowed count names)
      (fun result store => Late tools request initial result.1 store ∧
        result.2 = packageNames store.directory ∧ result.2.length ≤ retain)
      (Safe tools request initial) (Safe tools request initial) := by
  induction allowed generalizing count names with
  | zero => exact absurd enough (Nat.not_lt_zero _)
  | succ allowed inductionHypothesis =>
      unfold retention
      by_cases more : names.length > retain
      · rw [if_pos more]
        cases found : names.find? (· ≠ created) with
        | none => exact ends_throws fun _ both => both.1.safe
        | some candidate =>
            dsimp only
            have heads {store : Store} (same : names = packageNames store.directory) :
                ∃ rest, others store.directory (newPackage tools request) = candidate :: rest := by
              have first : (others store.directory (newPackage tools request)).head? =
                  some candidate := by
                rw [others, own, List.head?_filter, ← same, ← found]
                refine congrArg (List.find? · names) (funext fun name => ?_)
                simp
              exact ⟨_, List.eq_cons_of_mem_head? first⟩
            have inspected : Ends
                (fun store => Late tools request initial count store ∧
                  names = packageNames store.directory)
                (inspectCustodyPackage tools candidate)
                (fun _ store => (Late tools request initial count store ∧
                  names = packageNames store.directory) ∧
                    ∃ time, Event.passed candidate time ∈ store.log)
                (Safe tools request initial) (Safe tools request initial) := by
              refine inspect_ends (fun _ both => both.1.safe) (fun _ both => both.1.safe)
                fun store inspected both _ _ stamped => ?_
              have logged := both.1.logs stamped
              exact ⟨⟨⟨logged, both.2⟩, _, List.mem_append_right _ (List.mem_singleton_self _)⟩,
                logged.safe⟩
            have removed : Ends
                (fun store => (Late tools request initial count store ∧
                  names = packageNames store.directory) ∧
                    ∃ time, Event.passed candidate time ∈ store.log)
                (rm candidate)
                (fun _ store => Late tools request initial (count + 1) store ∧
                  (packageNames store.directory).length < names.length)
                (Safe tools request initial) (Safe tools request initial) := by
              unfold rm
              refine ends_perform (fun _ all => all.1.1.safe) (fun _ all => all.1.1.safe)
                (fun store value after all done => ?_) (fun store failure after all done => ?_)
              · split at done
                · obtain ⟨-, rfl⟩ := Prod.mk.inj done
                  obtain ⟨⟨late, same⟩, time, passed⟩ := all
                  obtain ⟨rest, next⟩ := heads same
                  have left := late.remove next passed
                  exact ⟨⟨left, by rw [same]; exact late.shorter left next⟩, left.safe⟩
                · cases (Prod.mk.inj done).1
              · split at done
                · cases (Prod.mk.inj done).1
                · obtain ⟨-, rfl⟩ := Prod.mk.inj done
                  exact all.1.1.safe
            refine inspected.bind fun _ => removed.bind fun _ =>
              (names_ends (fun _ both => both.1.safe) (fun _ both => both.1.safe)).bind
                fun later => ?_
            have known : ∀ store, ((Late tools request initial (count + 1) store ∧
                (packageNames store.directory).length < names.length) ∧
                  later = packageNames store.directory) →
                later.length < names.length ∧ (Late tools request initial (count + 1) store ∧
                  later = packageNames store.directory) := by
              rintro store ⟨⟨late, shorter⟩, rfl⟩
              exact ⟨shorter, late, rfl⟩
            exact Ends.assuming known fun shorter => inductionHypothesis (by omega)
      · rw [if_neg more]
        exact ends_pure fun store both => ⟨both.1, both.2, not_lt.mp more⟩

/-! ## The cycle -/

theorem Safe.remove {store : Store} (safe : Safe tools request initial store) {name : JsString}
    (own : ¬Foreign tools request name) (unmanaged : ¬Managed name) :
    Safe tools request initial (store.remove name) := by
  obtain ⟨count, sound⟩ := safe
  exact ⟨count, sound.discard own fun managed => absurd managed unmanaged⟩

theorem Late.unlock {store : Store} (late : Late tools request initial count store) :
    Late tools request initial count (store.remove LOCK_NAME) where
  sound := late.sound.discard (lock_own tools request) fun managed => absurd managed lock_unmanaged
  established := late.established.append _
  stays := fun new own => by
    have listed := late.stays new own
    refine mem_packageNames_erase listed fun same => lock_unmanaged ?_
    rw [← same]
    exact (mem_packageNames.mp listed).1

/-- The lock is released wherever the cycle has got to. -/
theorem unlock_ends :
    Ends (Safe tools request initial) (rmForce LOCK_NAME) (fun _ => Safe tools request initial)
      (Safe tools request initial) (Safe tools request initial) := by
  unfold rmForce
  refine ends_perform (fun _ safe => safe) (fun _ safe => safe)
    (fun store value after safe done => ?_)
    (fun store failure after safe done => by cases (Prod.mk.inj done).1)
  obtain ⟨-, rfl⟩ := Prod.mk.inj done
  have kept : Safe tools request initial
      (if LOCK_NAME ∈ store.directory then store.remove LOCK_NAME else store) := by
    split
    · exact safe.remove (lock_own tools request) lock_unmanaged
    · exact safe
  exact ⟨kept, kept⟩

/-- What a cycle that succeeds has made of the directory. -/
structure Done (tools : Tools) (request : Request) (initial : Directory) (retain : ℕ)
    (summary : Summary) (store : Store) : Prop where
  late : Late tools request initial summary.removed store
  retained : summary.retained =
    ((others initial (newPackage tools request)).drop summary.removed).length + 1
  few : summary.retained ≤ retain

theorem done_unlock {retain : ℕ} {summary : Summary} :
    Ends (Done tools request initial retain summary) (rmForce LOCK_NAME)
      (fun _ => Done tools request initial retain summary) (Safe tools request initial)
      (Safe tools request initial) := by
  unfold rmForce
  refine ends_perform (fun _ done => done.late.safe) (fun _ done => done.late.safe)
    (fun store value after holds done => ?_)
    (fun store failure after holds done => by cases (Prod.mk.inj done).1)
  obtain ⟨-, rfl⟩ := Prod.mk.inj done
  have kept : Done tools request initial retain summary
      (if LOCK_NAME ∈ store.directory then store.remove LOCK_NAME else store) := by
    split
    · exact { holds with late := holds.late.unlock }
    · exact holds
  exact ⟨kept, kept.late.safe⟩

theorem acquireLock_ends (now : Time) :
    Ends (Early tools request initial) (acquireLock now) (fun _ => Early tools request initial)
      (Early tools request initial) (Safe tools request initial) := by
  unfold acquireLock
  refine (early_openExclusive (lock_own tools request) _).bind fun _ => ?_
  exact ((early_writeAll (lock_own tools request) _).bind fun _ => early_await _).withFinally
    (fun _ => (early_await _).ignoring) (early_await _).ignoring

theorem start_early (tools : Tools) (request : Request) (initial : Directory) :
    Early tools request initial (.start initial) where
  sound := sound_start tools request initial
  unverified := nofun
  flag := rfl
  partialFile := nofun
  destination := nofun

theorem Ends.early {Result : Type} {run : Custody Result} {post : Result → Store → Prop}
    (ends : Ends (Early tools request initial) run post (Early tools request initial)
      (Safe tools request initial)) :
    Ends (Early tools request initial) run post (Safe tools request initial)
      (Safe tools request initial) :=
  ends.weaken (fun _ holds => holds) (fun _ _ holds => holds) (fun _ early => early.safe)
    fun _ holds => holds

/-- Under the lock the new package is written and verified, and older ones are removed. -/
theorem underLock_ends (retain : ℕ) :
    Ends (Early tools request initial) (underLock tools request retain)
      (Done tools request initial retain) (Safe tools request initial)
      (Safe tools request initial) := by
  unfold underLock
  have backups : Ends (Early tools request initial) (await (.ok (managedBackupNames request)))
      (fun backups store => backups = managedBackupNames request ∧
        Early tools request initial store)
      (Safe tools request initial) (Safe tools request initial) := by
    refine ends_perform (fun _ early => early.safe) (fun _ early => early.safe)
      (fun store found after early done => ?_)
      (fun store failure after early done => by cases (Prod.mk.inj done).1)
    obtain ⟨result, rfl⟩ := Prod.mk.inj done
    exact ⟨⟨(Except.ok.inj result).symm, early⟩, early.safe⟩
  refine backups.bind fun backups => Ends.assuming (fun store both => both) fun same => ?_
  cases last : backups.getLast? with
  | none => exact ends_throws fun _ early => early.safe
  | some source =>
      rw [same] at last
      refine (Ends.early (envelope_ends last)).bind fun created => ?_
      split
      · exact ends_throws fun _ both => both.1.safe
      · refine (names_ends (fun _ both => both.1.safe) (fun _ both => both.1.safe)).bind
          fun names => ?_
        have known : ∀ store, ((Late tools request initial 0 store ∧
            newPackage tools request = some created.packageName) ∧
              names = packageNames store.directory) →
            newPackage tools request = some created.packageName ∧
              (Late tools request initial 0 store ∧ names = packageNames store.directory) :=
          fun store all => ⟨all.1.2, all.1.1, all.2⟩
        refine Ends.assuming known fun own => ?_
        refine (retention_ends own retain _ (Nat.lt_succ_self _)).bind fun left => ?_
        have decided : Ends
            (fun store => Late tools request initial left.1 store ∧
              left.2 = packageNames store.directory ∧ left.2.length ≤ retain)
            (ofExcept (request.readiness left.2.length created))
            (fun _ store => Late tools request initial left.1 store ∧
              left.2 = packageNames store.directory ∧ left.2.length ≤ retain)
            (Safe tools request initial) (Safe tools request initial) :=
          ends_ofExcept (fun _ _ _ all => all) fun _ _ _ all => all.1.safe
        refine decided.bind fun _ => ends_pure fun store all => ?_
        obtain ⟨late, names, few⟩ := all
        exact ⟨late, by rw [names]; exact late.length, few⟩

/-- Whatever befalls its steps, a cycle ends as it may leave the directory. -/
theorem cycle_ends :
    Ends (Early tools request initial) (createCustodyCycle tools request)
      (fun summary store => ∃ retain, retain? request = some retain ∧
        Done tools request initial retain summary store)
      (Safe tools request initial) (Safe tools request initial) := by
  unfold createCustodyCycle
  refine (Ends.early (early_await _)).bind fun _ => ?_
  cases limit : retain? request with
  | none => exact ends_throws fun _ early => early.safe
  | some retain =>
      refine (Ends.early (acquireLock_ends _)).bind fun _ => ?_
      exact ((underLock_ends retain).withFinally (fun summary => done_unlock) unlock_ends).weaken
        (fun _ holds => holds) (fun summary store done => ⟨retain, rfl, done⟩)
        (fun _ holds => holds) fun _ holds => holds

/-- What a cycle keeps to wherever it has got to: removals are allowed by what stands before
them, the removed packages other than the new one are the oldest ones in their order, no
other file changes, and a cycle that succeeds leaves the new package and no more packages
than are to be retained. -/
structure Retains (tools : Tools) (request : Request) (initial : Directory)
    (outcome : Outcome Failure Summary) (final : Store) : Prop where
  ends : outcome ≠ .endless
  orderly : Orderly (newPackage tools request) final.log
  oldest : ∃ count, removals (newPackage tools request) final.log =
    (others initial (newPackage tools request)).take count
  ascending : (removals (newPackage tools request) final.log).Pairwise Older
  stamped : ∀ name time, Event.passed name time ∈ final.log →
    ∃ digest, stampedBy name (custodyTimestamp time) digest
  untouched : ∀ name, Foreign tools request name →
    name ∉ removals (newPackage tools request) final.log →
    final.directory.lookup name = initial.lookup name
  succeeded : ∀ summary, outcome = .returned summary →
    ∃ retain new, retain? request = some retain ∧ newPackage tools request = some new ∧
      Event.verified new ∈ final.log ∧ new ∈ packageNames final.directory ∧
      (packageNames final.directory).length = summary.retained ∧ summary.retained ≤ retain

theorem others_ascending (directory : Directory) (own : Option JsString) :
    (others directory own).Pairwise Older := by
  have sorted := others_sorted directory own
  have once := others_nodup directory own
  refine (sorted.and once).imp fun both => older_of_lt ?_
  exact lt_of_le_of_ne both.1 both.2

/-- A state that a cycle may leave has everything in its order. -/
theorem Safe.retains {store : Store} (safe : Safe tools request initial store)
    {outcome : Outcome Failure Summary} (ends : outcome ≠ .endless)
    (succeeded : ∀ summary, outcome = .returned summary →
      ∃ retain new, retain? request = some retain ∧ newPackage tools request = some new ∧
        Event.verified new ∈ store.log ∧ new ∈ packageNames store.directory ∧
        (packageNames store.directory).length = summary.retained ∧ summary.retained ≤ retain) :
    Retains tools request initial outcome store := by
  obtain ⟨count, sound⟩ := safe
  refine ⟨ends, sound.orderly, ⟨count, sound.removed⟩, ?_, sound.stamped,
    fun name foreign outside => ?_, succeeded⟩
  · rw [sound.removed]
    exact (others_ascending _ _).sublist (List.take_sublist _ _)
  · rw [sound.removed] at outside
    exact (sound.kept name foreign).trans (if_neg outside)

/-- A cycle retains what it is to retain, whatever the directory holds and whatever befalls
its steps. -/
theorem cycle_retains (tools : Tools) (request : Request) (initial : Directory)
    (faults : ℕ → Option (Fault Failure)) :
    Retains tools request initial
      (createCustodyCycle tools request ⟨.start initial, faults⟩).1
      (createCustodyCycle tools request ⟨.start initial, faults⟩).2.state := by
  have ended := @cycle_ends tools request initial ⟨.start initial, faults⟩
    (start_early tools request initial)
  generalize createCustodyCycle tools request ⟨.start initial, faults⟩ = result at ended
  obtain ⟨outcome, final⟩ := result
  cases outcome with
  | returned summary =>
      obtain ⟨retain, limit, done⟩ := ended
      refine done.late.safe.retains nofun fun own same => ?_
      obtain rfl := Outcome.returned.inj same
      obtain ⟨new, -, name, -, -, verified⟩ := done.late.established
      exact ⟨retain, new, limit, name, verified, done.late.stays new name,
        done.late.length.trans done.retained.symm, done.few⟩
  | threw failure => exact Safe.retains ended nofun nofun
  | crashed => exact Safe.retains ended nofun nofun
  | endless => exact ended.elim

/-! ## A package that is discarded -/

def exampleTools : Tools where
  sha256Hex := fun _ => List.replicate 64 97
  readHeader := fun _ => .error (.error [])

/-- One matched backup, of the first second of 1970. -/
def exampleRequest : Request where
  backups := [(js "vasi-19700101T000000Z", true)]
  checked := .ok ()
  draft := fun _ => .ok ⟨0, [OUTER_MAGIC]⟩
  now := 0
  readiness := fun _ _ => .ok ()
  retain := .finite 2
  uuid := js "0"

/-- The sync of the directory after the new package has got its name fails. -/
def exampleFaults (place : ℕ) : Option (Fault Failure) :=
  if place = 13 then some (.refuses (.system (js "EIO"))) else none

/-- Packages are removed only after another one has been written and has passed inspection. -/
def AfterInspection (log : List Event) : Prop :=
  ∀ before name after, log = before ++ Event.removed name :: after → Managed name →
    ∃ new time, Event.published new ∈ before ∧ Event.passed new time ∈ before ∧ name ≠ new

/-- The package whose directory could not be synced has its name, and is removed without
having been inspected. -/
theorem unsynced_removed :
    ¬AfterInspection
      (createCustodyCycle exampleTools exampleRequest ⟨.start ∅, exampleFaults⟩).2.state.log := by
  have log : (createCustodyCycle exampleTools exampleRequest
      ⟨.start ∅, exampleFaults⟩).2.state.log =
        [.published (custodyPackageName 0 (List.replicate 64 97))] ++
          Event.removed (custodyPackageName 0 (List.replicate 64 97)) ::
            [.removed LOCK_NAME] := by
    decide +kernel
  intro inspected
  obtain ⟨new, time, -, passed, -⟩ := inspected _ _ _ log (by decide +kernel)
  cases List.mem_singleton.mp passed

end Vasi.CustodyCycle
