import Vasi.Intervals
import Vasi.StoredZip
import Vasi.Validation

/-!
# Reading an archive through its central directory

The reader of a bundle walks the local records from the start. Other tools start at
the other end: they search the end record from the back, follow its offset to the
central directory, take names and sizes from there and find the bytes of an entry
behind the local header that the directory points to. An archive the bundle reader
accepts gives both the same entries, and its records leave no byte out and share
none.

The second reader is not in the repository. It uses nothing of the first one but the
reading of an integer and of a part of the buffer.
-/
namespace Vasi.StoredZip

open JsValue Utf8 Intervals Validation

/-! ## The directory -/

/-- A record of the central directory and the bytes it takes. -/
structure CentralRecord where
  start : ℕ
  stop : ℕ
  flags : ℕ
  method : ℕ
  checksum : ℕ
  compressedSize : ℕ
  size : ℕ
  localOffset : ℕ
  name : JsString

/-- The last end record whose comment ends with the archive. -/
def findEnd (bytes : List Byte) : Option ℕ :=
  (List.range (bytes.length - 21)).reverse.find? fun offset =>
    readUInt bytes offset 4 = 0x06054b50 &&
      offset + 22 + readUInt bytes (offset + 20) 2 = bytes.length

/-- The fields of the directory record at a cursor. -/
def centralAt (bytes : List Byte) (cursor : ℕ) : CentralRecord :=
  let nameStop := cursor + 46 + readUInt bytes (cursor + 28) 2
  { start := cursor
    stop := nameStop + readUInt bytes (cursor + 30) 2 + readUInt bytes (cursor + 32) 2
    flags := readUInt bytes (cursor + 8) 2
    method := readUInt bytes (cursor + 10) 2
    checksum := readUInt bytes (cursor + 16) 4
    compressedSize := readUInt bytes (cursor + 20) 4
    size := readUInt bytes (cursor + 24) 4
    localOffset := readUInt bytes (cursor + 42) 4
    name := decode (subarray bytes (cursor + 46) nameStop) }

def readCentral (bytes : List Byte) (limit cursor : ℕ) : Option CentralRecord :=
  if readUInt bytes cursor 4 ≠ 0x02014b50 ∨ (centralAt bytes cursor).stop > limit then none
  else some (centralAt bytes cursor)

/-- A number of records from a cursor on. -/
def readCentrals (bytes : List Byte) (limit : ℕ) : ℕ → ℕ → Option (List CentralRecord)
  | 0, _ => some []
  | count + 1, cursor => do
      let record ← readCentral bytes limit cursor
      let rest ← readCentrals bytes limit count record.stop
      return record :: rest

/-- The central directory that the end record points to. -/
def readDirectory (bytes : List Byte) : Option (List CentralRecord) := do
  let ending ← findEnd bytes
  readCentrals bytes ending (readUInt bytes (ending + 10) 2) (readUInt bytes (ending + 16) 4)

/-- Where the bytes of a directory entry begin: behind the local header, its name and
its extra field. -/
def dataStart (bytes : List Byte) (record : CentralRecord) : ℕ :=
  record.localOffset + 30 + readUInt bytes (record.localOffset + 26) 2 +
    readUInt bytes (record.localOffset + 28) 2

/-- The bytes of the local record of a directory entry. -/
def localSpan (bytes : List Byte) (record : CentralRecord) : ℕ × ℕ :=
  (record.localOffset, dataStart bytes record + record.compressedSize)

def centralSpan (record : CentralRecord) : ℕ × ℕ := (record.start, record.stop)

/-- The bytes of every record, the local records first. -/
def recordSpans (bytes : List Byte) (records : List CentralRecord) : List (ℕ × ℕ) :=
  records.map (localSpan bytes) ++ records.map centralSpan

section Reader

variable (crc32 : List Byte → ℕ)

/-- One stored entry, read through the directory. -/
def extract (bytes : List Byte) (record : CentralRecord) : Option Entry :=
  let stop := dataStart bytes record + record.compressedSize
  let data := subarray bytes (dataStart bytes record) stop
  if readUInt bytes record.localOffset 4 ≠ 0x04034b50 ∨ record.flags ≠ 0 ∨ record.method ≠ 0 ∨
      record.compressedSize ≠ record.size ∨ stop > bytes.length ∨
      checksum crc32 data ≠ record.checksum then none
  else some ⟨record.name, data⟩

/-- A path that stays below the directory it is resolved in. -/
def Relative (path : JsString) : Prop :=
  path ≠ [] ∧ path.head? ≠ some 47 ∧ (92 : CodeUnit) ∉ path ∧
    ∀ part ∈ path.splitOn 47, part ≠ [] ∧ part ≠ js "." ∧ part ≠ js ".."

/-- The entries of an archive are the only ones it can be read to have. -/
structure Unambiguous (bytes : List Byte) (entries : List Entry) : Prop where
  directory : ∃ records, readDirectory bytes = some records ∧
    records.mapM (extract crc32 bytes) = some entries ∧
    ∀ position < bytes.length - 22, ∃! index, InSpan (recordSpans bytes records) position index
  distinct : (entries.map Entry.path).Nodup
  relative : ∀ entry ∈ entries, Relative entry.path

/-- The walk over the local records ends: rounds beyond the length of the archive
change nothing. -/
def WalkEnds (bytes : List Byte) : Prop :=
  ∀ centralOffset ≤ bytes.length, ∀ rounds ≥ bytes.length,
    readLocals crc32 bytes centralOffset rounds 0 [] [] =
      readLocals crc32 bytes centralOffset bytes.length 0 [] []

/-- Whatever the reader accepts is unambiguous. -/
def AcceptsUnambiguous (maxBytes maxEntries : ℕ) : Prop :=
  ∀ bytes, WalkEnds crc32 bytes ∧
    ∀ entries, parseStoredZip crc32 maxBytes maxEntries bytes = .ok entries →
      Unambiguous crc32 bytes entries

/-! ## The walk over the local records -/

theorem validatePath_ok {value path : JsString} (accepted : validatePath value = .ok path) :
    path = value ∧ Relative value := by
  unfold validatePath at accepted
  split at accepted
  · cases accepted
  · rename_i safe
    cases accepted
    push Not at safe
    obtain ⟨nonempty, _, absolute, backslash, parts, _⟩ := safe
    refine ⟨rfl, nonempty, absolute, backslash, fun part member => ?_⟩
    have usual := fun bad => parts (List.any_eq_true.mpr ⟨part, member, bad⟩)
    simp only [Bool.or_eq_true, decide_eq_true_eq] at usual
    exact ⟨fun bad => usual (.inl (.inl bad)), fun bad => usual (.inl (.inr bad)),
      fun bad => usual (.inr bad)⟩

/-- What the walk found out about one local record. -/
structure LocalRecord (bytes : List Byte) (centralOffset : ℕ) (entry : Entry) (seen : Local)
    (next : ℕ) : Prop where
  signature : readUInt bytes seen.offset 4 = 0x04034b50
  path : entry.path = seen.path
  safe : Relative entry.path
  extra : readUInt bytes (seen.offset + 28) 2 = 0
  reaches : next = seen.offset + 30 + readUInt bytes (seen.offset + 26) 2 + seen.size
  data : entry.bytes = subarray bytes (seen.offset + 30 + readUInt bytes (seen.offset + 26) 2) next
  stored : checksum crc32 entry.bytes = seen.checksum
  inside : next ≤ centralOffset

theorem readLocal_ok {bytes : List Byte} {centralOffset offset next : ℕ} {found : List Entry}
    {entry : Entry} {seen : Local}
    (read : readLocal crc32 bytes centralOffset offset found = .ok (entry, seen, next)) :
    seen.offset = offset ∧ LocalRecord crc32 bytes centralOffset entry seen next ∧
      entry.path ∉ found.map Entry.path := by
  unfold readLocal at read
  split at read
  · cases read
  rename_i header
  split at read
  · cases read
  dsimp only at read
  split at read
  · cases read
  rename_i shape
  split at read
  · cases read
  rename_i bounds
  cases checked : validatePath (decode (subarray bytes (offset + 30)
      (offset + 30 + readUInt bytes (offset + 26) 2))) with
  | error failure =>
      rw [checked] at read
      cases read
  | ok path =>
      obtain ⟨rfl, safe⟩ := validatePath_ok checked
      rw [checked] at read
      simp only [bind, Except.bind] at read
      split at read
      · cases read
      rename_i fresh
      cases read
      push Not at header shape bounds fresh
      refine ⟨rfl, ⟨header.2, rfl, safe, shape.2, rfl, rfl, fresh.1, bounds.2⟩, ?_⟩
      intro member
      obtain ⟨other, there, same⟩ := List.mem_map.mp member
      exact fresh.2 (List.any_eq_true.mpr ⟨other, there, decide_eq_true same⟩)

/-- Local records, one after the other. -/
inductive Walk (bytes : List Byte) (centralOffset : ℕ) : ℕ → List (Entry × Local) → ℕ → Prop
  | nil (offset : ℕ) : Walk bytes centralOffset offset [] offset
  | cons {next stop : ℕ} {entry : Entry} {seen : Local} {rest : List (Entry × Local)}
      (record : LocalRecord crc32 bytes centralOffset entry seen next)
      (others : Walk bytes centralOffset next rest stop) :
      Walk bytes centralOffset seen.offset ((entry, seen) :: rest) stop

theorem readLocals_ok {bytes : List Byte} {centralOffset fuel offset stop : ℕ}
    {entries found : List Entry} {metadata seen : List Local}
    (read : readLocals crc32 bytes centralOffset fuel offset entries metadata =
      .ok (found, seen, stop)) (distinct : (entries.map Entry.path).Nodup) :
    ∃ walked, Walk crc32 bytes centralOffset offset walked stop ∧
      found = entries ++ walked.map Prod.fst ∧ seen = metadata ++ walked.map Prod.snd ∧
      (found.map Entry.path).Nodup := by
  induction fuel generalizing offset entries metadata with
  | zero =>
      cases read
      exact ⟨[], .nil _, by simp, by simp, distinct⟩
  | succ fuel inductionHypothesis =>
      unfold readLocals at read
      split at read
      · cases first : readLocal crc32 bytes centralOffset offset entries with
        | error failure =>
            rw [first] at read
            cases read
        | ok triple =>
            obtain ⟨entry, record, next⟩ := triple
            rw [first] at read
            obtain ⟨rfl, here, fresh⟩ := readLocal_ok crc32 first
            have distinctNow : ((entries ++ [entry]).map Entry.path).Nodup := by
              rw [List.map_append]
              exact distinct.append (List.nodup_singleton _)
                (List.disjoint_singleton.mpr fresh)
            obtain ⟨walked, walk, rfl, rfl, nodup⟩ := inductionHypothesis read distinctNow
            exact ⟨(entry, record) :: walked, .cons here walk, by simp, by simp, nodup⟩
      · cases read
        exact ⟨[], .nil _, by simp, by simp, distinct⟩

/-- Rounds beyond the bytes that are left change nothing. -/
theorem readLocals_rounds {bytes : List Byte} {centralOffset : ℕ} (fuel rounds offset : ℕ)
    (entries : List Entry) (metadata : List Local) (enough : centralOffset ≤ offset + fuel)
    (more : centralOffset ≤ offset + rounds) :
    readLocals crc32 bytes centralOffset fuel offset entries metadata =
      readLocals crc32 bytes centralOffset rounds offset entries metadata := by
  induction fuel generalizing rounds offset entries metadata with
  | zero =>
      cases rounds with
      | zero => rfl
      | succ rounds => rw [readLocals, readLocals, if_neg (by omega)]
  | succ fuel inductionHypothesis =>
      cases rounds with
      | zero => rw [readLocals, readLocals, if_neg (by omega)]
      | succ rounds =>
          rw [readLocals, readLocals]
          split
          · cases first : readLocal crc32 bytes centralOffset offset entries with
            | error failure => rfl
            | ok triple =>
                obtain ⟨entry, record, next⟩ := triple
                obtain ⟨rfl, here, _⟩ := readLocal_ok crc32 first
                have further := here.reaches
                exact inductionHypothesis rounds next _ _ (by omega) (by omega)
          · rfl

/-! ## The check of the directory -/

/-- A directory entry that says what the walk found at its offset. -/
structure Describes (record : CentralRecord) (seen : Local) : Prop where
  flags : record.flags = 0
  method : record.method = 0
  name : record.name = seen.path
  checksum : record.checksum = seen.checksum
  compressedSize : record.compressedSize = seen.size
  size : record.size = seen.size
  localOffset : record.localOffset = seen.offset
  nonempty : record.start < record.stop

theorem checkCentral_ok {bytes : List Byte} {endOffset cursor next : ℕ} {expected : Local}
    (checked : checkCentral bytes endOffset cursor expected = .ok next) (inside : next ≤ endOffset) :
    ∃ record, readCentral bytes endOffset cursor = some record ∧ record.start = cursor ∧
      record.stop = next ∧ Describes record expected := by
  unfold checkCentral at checked
  split at checked
  · cases checked
  rename_i header
  dsimp only at checked
  split at checked
  · cases checked
  rename_i plain
  cases valid : validatePath (decode (subarray bytes (cursor + 46)
      (cursor + 46 + readUInt bytes (cursor + 28) 2))) with
  | error failure =>
      rw [valid] at checked
      cases checked
  | ok path =>
      obtain ⟨rfl, _⟩ := validatePath_ok valid
      rw [valid] at checked
      simp only [bind, Except.bind] at checked
      split at checked
      · cases checked
      rename_i matching
      cases checked
      push Not at header plain matching
      obtain ⟨name, extra, comment, sum, compressed, size, offset⟩ := matching
      have stop : (centralAt bytes cursor).stop =
          cursor + 46 + readUInt bytes (cursor + 28) 2 := by
        simp only [centralAt, extra, comment, Nat.add_zero]
      refine ⟨centralAt bytes cursor, ?_, rfl, stop, ⟨plain.1, plain.2, name, sum, compressed, size,
        offset, ?_⟩⟩
      · rw [readCentral, if_neg]
        rw [stop, not_or, not_not, not_lt]
        exact ⟨header.2, inside⟩
      · rw [stop]
        exact Nat.lt_of_lt_of_le (by simp [centralAt]) (Nat.le_add_right (cursor + 46) _)

theorem checkCentral_le {bytes : List Byte} {endOffset cursor next : ℕ} {expected : Local}
    (checked : checkCentral bytes endOffset cursor expected = .ok next) : cursor ≤ next := by
  unfold checkCentral at checked
  split at checked
  · cases checked
  dsimp only at checked
  split at checked
  · cases checked
  cases valid : validatePath (decode (subarray bytes (cursor + 46)
      (cursor + 46 + readUInt bytes (cursor + 28) 2))) with
  | error failure =>
      rw [valid] at checked
      cases checked
  | ok path =>
      rw [valid] at checked
      simp only [bind, Except.bind] at checked
      split at checked
      · cases checked
      cases checked
      omega

theorem checkCentrals_le {bytes : List Byte} {endOffset cursor stop : ℕ} {expected : List Local}
    (checked : checkCentrals bytes endOffset expected cursor = .ok stop) : cursor ≤ stop := by
  induction expected generalizing cursor with
  | nil =>
      cases checked
      exact le_rfl
  | cons first rest inductionHypothesis =>
      obtain ⟨next, here, others⟩ := bind_ok checked
      exact (checkCentral_le here).trans (inductionHypothesis others)

/-- The directory has one record for each local record, and they tile it. -/
theorem checkCentrals_ok {bytes : List Byte} {endOffset cursor : ℕ} {expected : List Local}
    (checked : checkCentrals bytes endOffset expected cursor = .ok endOffset) :
    ∃ records, readCentrals bytes endOffset expected.length cursor = some records ∧
      List.Forall₂ Describes records expected ∧
      Tiles cursor (records.map centralSpan) endOffset := by
  induction expected generalizing cursor with
  | nil =>
      cases checked
      exact ⟨[], rfl, .nil, .nil _⟩
  | cons first rest inductionHypothesis =>
      obtain ⟨next, here, others⟩ := bind_ok checked
      obtain ⟨record, read, rfl, rfl, describes⟩ := checkCentral_ok here (checkCentrals_le others)
      obtain ⟨records, readRest, describesRest, tiles⟩ := inductionHypothesis others
      refine ⟨record :: records, ?_, .cons describes describesRest, .cons describes.nonempty tiles⟩
      rw [List.length_cons, readCentrals, read]
      simp only [Option.bind_eq_bind, Option.bind_some, readRest]
      rfl

/-! ## The two readings -/

/-- The directory entry of a local record leads back to it. -/
theorem LocalRecord.extract_eq {bytes : List Byte} {centralOffset next : ℕ} {entry : Entry}
    {seen : Local} {record : CentralRecord}
    (walked : LocalRecord crc32 bytes centralOffset entry seen next)
    (describes : Describes record seen) (inside : centralOffset ≤ bytes.length) :
    extract crc32 bytes record = some entry ∧ localSpan bytes record = (seen.offset, next) := by
  have start : dataStart bytes record =
      seen.offset + 30 + readUInt bytes (seen.offset + 26) 2 := by
    rw [dataStart, describes.localOffset, walked.extra, Nat.add_zero]
  have stop : dataStart bytes record + record.compressedSize = next := by
    rw [start, describes.compressedSize, walked.reaches]
  have data : subarray bytes (dataStart bytes record) next = entry.bytes := by
    rw [start, walked.data]
  refine ⟨?_, by rw [localSpan, stop, describes.localOffset]⟩
  have fits := walked.inside
  rw [extract, stop, data, if_neg, describes.name, ← walked.path]
  rw [describes.localOffset, describes.flags, describes.method, describes.compressedSize,
    describes.size, walked.stored, describes.checksum, walked.signature]
  simp only [ne_eq, not_true_eq_false, false_or, or_false, not_lt, gt_iff_lt]
  exact fits.trans inside

/-- The directory extracts the entries of the walk, and their records tile it. -/
theorem Walk.extract_eq {bytes : List Byte} {centralOffset offset stop : ℕ}
    {walked : List (Entry × Local)} {records : List CentralRecord}
    (walk : Walk crc32 bytes centralOffset offset walked stop)
    (describes : List.Forall₂ Describes records (walked.map Prod.snd))
    (inside : centralOffset ≤ bytes.length) :
    records.mapM (extract crc32 bytes) = some (walked.map Prod.fst) ∧
      Tiles offset (records.map (localSpan bytes)) stop := by
  induction walk generalizing records with
  | nil offset =>
      cases describes
      exact ⟨rfl, .nil offset⟩
  | @cons next stop entry seen rest here others inductionHypothesis =>
      cases describes with
      | @cons record _ records _ first remaining =>
          obtain ⟨extracted, tiles⟩ := inductionHypothesis remaining
          obtain ⟨entryRead, span⟩ := here.extract_eq crc32 first inside
          have further := here.reaches
          rw [List.mapM_cons, entryRead, extracted, List.map_cons, List.map_cons, span]
          exact ⟨rfl, .cons (by omega) tiles⟩

theorem Walk.relative {bytes : List Byte} {centralOffset offset stop : ℕ}
    {walked : List (Entry × Local)} (walk : Walk crc32 bytes centralOffset offset walked stop) :
    ∀ entry ∈ walked.map Prod.fst, Relative entry.path := by
  induction walk with
  | nil => simp
  | cons here _ inductionHypothesis =>
      exact List.forall_mem_cons.mpr ⟨here.safe, inductionHypothesis⟩

/-- Without a comment the end record is the last one of the archive. -/
theorem findEnd_eq {bytes : List Byte} (long : 22 ≤ bytes.length)
    (signature : readUInt bytes (bytes.length - 22) 4 = 0x06054b50)
    (comment : readUInt bytes (bytes.length - 22 + 20) 2 = 0) :
    findEnd bytes = some (bytes.length - 22) := by
  have last : bytes.length - 21 = bytes.length - 22 + 1 := by omega
  rw [findEnd, last, List.range_succ, List.reverse_append, List.reverse_singleton,
    List.singleton_append, List.find?_cons_of_pos]
  rw [signature, comment]
  simp only [decide_true, Bool.true_and, decide_eq_true_eq]
  omega

theorem walkEnds (bytes : List Byte) : WalkEnds crc32 bytes := by
  intro centralOffset inside rounds many
  exact readLocals_rounds crc32 rounds bytes.length 0 [] [] (by omega) (by omega)

end Reader

end Vasi.StoredZip
