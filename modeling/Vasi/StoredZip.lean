import Vasi.Utf8
import Mathlib.Algebra.BigOperators.Group.List.Basic
import Mathlib.Data.List.Dedup
import Mathlib.Tactic.NormNum

/-!
# The stored ZIP archive of an evidence bundle

The writer sorts its entries by path and lays out a local header, the name and
the bytes of each, then a central record for each, then the end record. The
reader walks the local entries from the start, checks each central record
against the local entry it stands for, and returns the entries in the order it
met them. Each side computes its own offsets and lengths.

The checksum is a parameter: what is proved holds of every function of the
bytes, CRC-32 among them. A buffer write outside the range of its field throws,
and each layout below is a list of fields with their widths.
-/
namespace Vasi.StoredZip

open JsValue Utf8

/-- Why an archive is not written or not read: one of the thrown messages, or a
buffer write outside the range of its field. -/
inductive ZipError where
  | failure (message : JsString)
  | outOfRange
deriving DecidableEq

/-- One entry: its path and its bytes. -/
structure Entry where
  path : JsString
  bytes : List Byte
deriving DecidableEq

/-! ## Paths -/

/-- The bundle entry paths that are accepted. -/
def validatePath (value : JsString) : Except ZipError JsString :=
  if value = [] ∨ value.length > 512 ∨ value.head? = some 47 ∨ (92 : CodeUnit) ∈ value ∨
      (value.splitOn 47).any (fun part => part = [] || part = js "." || part = js "..") ∨
      value.any (fun unit => unit.val ≤ 0x1F || unit.val = 0x7F) then
    .error (.failure (js "The bundle entry path is unsafe."))
  else .ok value

/-- Ascending path order. -/
def comparePath (left right : Entry) : Prop := left.path ≤ right.path

instance : DecidableRel comparePath :=
  fun left right => inferInstanceAs (Decidable (left.path ≤ right.path))

instance : Std.Total comparePath := ⟨fun left right => le_total left.path right.path⟩

instance : IsTrans Entry comparePath :=
  ⟨fun _ _ _ below above => le_trans below above⟩

/-! ## Layouts -/

/-- An unsigned integer in little-endian order. -/
def little : ℕ → ℕ → List Byte
  | 0, _ => []
  | width + 1, value => Fin.ofNat 256 value :: little width (value / 256)

/-- The number that little-endian bytes denote. -/
def littleValue : List Byte → ℕ
  | [] => 0
  | byte :: rest => byte.val + 256 * littleValue rest

/-- Writing fields of given widths one after another. -/
def writeFields : List (ℕ × ℕ) → Except ZipError (List Byte)
  | [] => .ok []
  | (width, value) :: rest =>
      if value < 256 ^ width then (writeFields rest).map (little width value ++ ·)
      else .error .outOfRange

/-- Reading an unsigned integer at an offset. Every offset read below has been
checked to lie inside the buffer. -/
def readUInt (bytes : List Byte) (offset width : ℕ) : ℕ :=
  littleValue ((bytes.drop offset).take width)

/-- The part of a buffer between two offsets. -/
def subarray (bytes : List Byte) (start stop : ℕ) : List Byte :=
  (bytes.drop start).take (stop - start)

section Archive

-- The checksum function; nothing is assumed of it.
variable (crc32 : List Byte → ℕ)

/-- The checksum as the archive stores it. -/
def checksum (bytes : List Byte) : ℕ := crc32 bytes % 2 ^ 32

/-! ## Writing -/

/-- The fields of a local header. -/
def localFields (entry : Entry) : List (ℕ × ℕ) :=
  [(4, 0x04034b50), (2, 20), (2, 0), (2, 0), (2, 0), (2, 33), (4, checksum crc32 entry.bytes),
   (4, entry.bytes.length), (4, entry.bytes.length), (2, (encode entry.path).length), (2, 0)]

/-- A regular file that its owner may write. -/
def externalAttributes : ℕ := 0o100644 * 65536 % 2 ^ 32

/-- The fields of a central record. -/
def centralFields (entry : Entry) (offset : ℕ) : List (ℕ × ℕ) :=
  [(4, 0x02014b50), (2, 0x033f), (2, 20), (2, 0), (2, 0), (2, 0), (2, 33),
   (4, checksum crc32 entry.bytes), (4, entry.bytes.length), (4, entry.bytes.length),
   (2, (encode entry.path).length), (2, 0), (2, 0), (2, 0), (2, 0),
   (4, externalAttributes), (4, offset)]

/-- The fields of the end record. -/
def endFields (count centralLength offset : ℕ) : List (ℕ × ℕ) :=
  [(4, 0x06054b50), (2, 0), (2, 0), (2, count), (2, count), (4, centralLength), (4, offset),
   (2, 0)]

/-- The local parts, the central parts and the offset after the last entry. -/
def writeEntries : List Entry → ℕ → Except ZipError (List Byte × List Byte × ℕ)
  | [], offset => .ok ([], [], offset)
  | entry :: rest, offset =>
      if entry.bytes.length > 0xffffffff ∨ offset > 0xffffffff then
        .error (.failure (js "The VASI ZIP exceeds the supported non-ZIP64 size."))
      else do
        let header ← writeFields (localFields crc32 entry)
        let central ← writeFields (centralFields crc32 entry offset)
        let name := encode entry.path
        let (locals, centrals, stop) ←
          writeEntries rest (offset + (header.length + name.length + entry.bytes.length))
        return (header ++ (name ++ (entry.bytes ++ locals)), central ++ (name ++ centrals), stop)

def createStoredZip (entries : List Entry) : Except ZipError (List Byte) := do
  let validated ← entries.mapM fun entry =>
    (validatePath entry.path).map fun path => { entry with path }
  let normalized := validated.insertionSort comparePath
  if normalized.length = 0 ∨ normalized.length > 10000 then
    .error (.failure (js "The ZIP entry count is invalid."))
  else if (normalized.map Entry.path).dedup.length ≠ normalized.length then
    .error (.failure (js "A ZIP entry path cannot repeat."))
  else
    let (locals, centrals, offset) ← writeEntries crc32 normalized 0
    let ending ← writeFields (endFields normalized.length centrals.length offset)
    return locals ++ (centrals ++ ending)

/-! ## Reading -/

/-- What the reader remembers of a local entry. -/
structure Local where
  checksum : ℕ
  size : ℕ
  offset : ℕ
  path : JsString

/-- One local entry, the offset after it and its data. -/
def readLocal (bytes : List Byte) (centralOffset offset : ℕ) (found : List Entry) :
    Except ZipError (Entry × Local × ℕ) :=
  if offset + 30 > centralOffset ∨ readUInt bytes offset 4 ≠ 0x04034b50 then
    .error (.failure (js "The VASI ZIP local entry is invalid."))
  else if readUInt bytes (offset + 6) 2 ≠ 0 ∨ readUInt bytes (offset + 8) 2 ≠ 0 then
    .error (.failure (js "The VASI ZIP uses unsupported flags or compression."))
  else
    let stored := readUInt bytes (offset + 14) 4
    let compressedSize := readUInt bytes (offset + 18) 4
    let uncompressedSize := readUInt bytes (offset + 22) 4
    let nameLength := readUInt bytes (offset + 26) 2
    let extraLength := readUInt bytes (offset + 28) 2
    if compressedSize ≠ uncompressedSize ∨ extraLength ≠ 0 then
      .error (.failure (js "The VASI ZIP entry shape is invalid."))
    else
      let nameStart := offset + 30
      let dataStart := nameStart + nameLength
      let dataEnd := dataStart + compressedSize
      if nameLength = 0 ∨ dataEnd > centralOffset then
        .error (.failure (js "The VASI ZIP entry bounds are invalid."))
      else do
        let path ← validatePath (decode (subarray bytes nameStart dataStart))
        let data := subarray bytes dataStart dataEnd
        if checksum crc32 data ≠ stored ∨ found.any (fun entry => entry.path = path) then
          .error (.failure (js "The VASI ZIP entry checksum or path is invalid."))
        else return (⟨path, data⟩, ⟨stored, compressedSize, offset, path⟩, dataEnd)

/-- The local entries up to the central directory, with the offset reached. Each
entry takes at least 31 bytes, so the length of the buffer bounds the loop. -/
def readLocals (bytes : List Byte) (centralOffset : ℕ) :
    ℕ → ℕ → List Entry → List Local → Except ZipError (List Entry × List Local × ℕ)
  | 0, offset, entries, metadata => .ok (entries, metadata, offset)
  | fuel + 1, offset, entries, metadata =>
      if offset < centralOffset then do
        let (entry, seen, next) ← readLocal crc32 bytes centralOffset offset entries
        readLocals bytes centralOffset fuel next (entries ++ [entry]) (metadata ++ [seen])
      else .ok (entries, metadata, offset)

/-- One central record against its local entry, and the cursor after it. -/
def checkCentral (bytes : List Byte) (endOffset centralCursor : ℕ) (expected : Local) :
    Except ZipError ℕ :=
  if centralCursor + 46 > endOffset ∨ readUInt bytes centralCursor 4 ≠ 0x02014b50 then
    .error (.failure (js "The VASI ZIP central entry is invalid."))
  else
    let nameLength := readUInt bytes (centralCursor + 28) 2
    let extraLength := readUInt bytes (centralCursor + 30) 2
    let commentLength := readUInt bytes (centralCursor + 32) 2
    let name := decode (subarray bytes (centralCursor + 46) (centralCursor + 46 + nameLength))
    let mismatch : Except ZipError ℕ :=
      .error (.failure (js "The VASI ZIP central entry does not match its local entry."))
    if readUInt bytes (centralCursor + 8) 2 ≠ 0 ∨ readUInt bytes (centralCursor + 10) 2 ≠ 0 then
      mismatch
    else do
      let path ← validatePath name
      if path ≠ expected.path ∨ extraLength ≠ 0 ∨ commentLength ≠ 0 ∨
          readUInt bytes (centralCursor + 16) 4 ≠ expected.checksum ∨
          readUInt bytes (centralCursor + 20) 4 ≠ expected.size ∨
          readUInt bytes (centralCursor + 24) 4 ≠ expected.size ∨
          readUInt bytes (centralCursor + 42) 4 ≠ expected.offset then mismatch
      else return centralCursor + 46 + nameLength

/-- Every central record in turn, from the start of the directory. -/
def checkCentrals (bytes : List Byte) (endOffset : ℕ) :
    List Local → ℕ → Except ZipError ℕ
  | [], centralCursor => .ok centralCursor
  | expected :: rest, centralCursor => do
      let next ← checkCentral bytes endOffset centralCursor expected
      checkCentrals bytes endOffset rest next

/-- The entries of an archive in the order of their local records. -/
def parseStoredZip (maxBytes maxEntries : ℕ) (bytes : List Byte) :
    Except ZipError (List Entry) :=
  if bytes.length < 22 ∨ bytes.length > maxBytes then
    .error (.failure (js "The VASI ZIP size is invalid."))
  else
    let endOffset := bytes.length - 22
    if readUInt bytes endOffset 4 ≠ 0x06054b50 ∨ readUInt bytes (endOffset + 20) 2 ≠ 0 then
      .error (.failure (js "The VASI ZIP end record is invalid."))
    else
      let entryCount := readUInt bytes (endOffset + 10) 2
      let centralSize := readUInt bytes (endOffset + 12) 4
      let centralOffset := readUInt bytes (endOffset + 16) 4
      if entryCount = 0 ∨ entryCount > maxEntries ∨ centralOffset + centralSize ≠ endOffset then
        .error (.failure (js "The VASI ZIP central directory is invalid."))
      else do
        let (entries, metadata, offset) ←
          readLocals crc32 bytes centralOffset bytes.length 0 [] []
        if offset ≠ centralOffset ∨ metadata.length ≠ entryCount then
          .error (.failure (js "The VASI ZIP entry count is invalid."))
        else
          let cursor ← checkCentrals bytes endOffset metadata centralOffset
          if cursor ≠ endOffset then
            .error (.failure (js "The VASI ZIP central directory length is invalid."))
          else return entries

end Archive

/-- The limits of a reader that names none. -/
def defaultMaxBytes : ℕ := 1073741824

def defaultMaxEntries : ℕ := 10000

/-! ## Fields -/

/-- The bytes of fields that all fit. -/
def layout (fields : List (ℕ × ℕ)) : List Byte :=
  fields.flatMap fun field => little field.1 field.2

@[simp] theorem little_length (width value : ℕ) : (little width value).length = width := by
  induction width generalizing value with
  | zero => rfl
  | succ width inductionHypothesis => simp [little, inductionHypothesis]

theorem littleValue_little {width value : ℕ} (fits : value < 256 ^ width) :
    littleValue (little width value) = value := by
  induction width generalizing value with
  | zero =>
      have zero : value = 0 := by simpa using fits
      simp [little, littleValue, zero]
  | succ width inductionHypothesis =>
      have quotient : value / 256 < 256 ^ width := by
        rw [pow_succ] at fits
        omega
      have first : (Fin.ofNat 256 value).val = value % 256 := rfl
      rw [little, littleValue, inductionHypothesis quotient, first]
      omega

theorem writeFields_ok {fields : List (ℕ × ℕ)} {bytes : List Byte}
    (written : writeFields fields = .ok bytes) :
    bytes = layout fields ∧ ∀ field ∈ fields, field.2 < 256 ^ field.1 := by
  induction fields generalizing bytes with
  | nil =>
      cases written
      simp [layout]
  | cons field rest inductionHypothesis =>
      obtain ⟨width, value⟩ := field
      rw [writeFields] at written
      split at written
      case isFalse => cases written
      case isTrue fits =>
        cases later : writeFields rest with
        | error failure => simp [later, Except.map] at written
        | ok tail =>
            obtain ⟨rfl, restFits⟩ := inductionHypothesis later
            simp only [later, Except.map, Except.ok.injEq] at written
            subst written
            exact ⟨rfl, List.forall_mem_cons.mpr ⟨fits, restFits⟩⟩

theorem writeFields_fits {fields : List (ℕ × ℕ)}
    (fits : ∀ field ∈ fields, field.2 < 256 ^ field.1) :
    writeFields fields = .ok (layout fields) := by
  induction fields with
  | nil => rfl
  | cons field rest inductionHypothesis =>
      obtain ⟨width, value⟩ := field
      rw [List.forall_mem_cons] at fits
      rw [writeFields, if_pos fits.1, inductionHypothesis fits.2]
      rfl

@[simp] theorem layout_nil : layout [] = [] := rfl

@[simp] theorem layout_cons (width value : ℕ) (rest : List (ℕ × ℕ)) :
    layout ((width, value) :: rest) = little width value ++ layout rest := rfl

/-- A layout is as long as its fields are wide. -/
theorem layout_length (fields : List (ℕ × ℕ)) :
    (layout fields).length = (fields.map Prod.fst).sum := by
  simp [layout, List.length_flatMap]

/-- Reading past a prefix reads the rest. -/
theorem readUInt_append (left right : List Byte) (offset width : ℕ) :
    readUInt (left ++ right) (left.length + offset) width = readUInt right offset width := by
  rw [readUInt, List.drop_length_add_append, readUInt]

theorem readUInt_skip {skipped offset : ℕ} (value width : ℕ) (right : List Byte)
    (past : skipped ≤ offset) :
    readUInt (little skipped value ++ right) offset width =
      readUInt right (offset - skipped) width := by
  have split := readUInt_append (little skipped value) right (offset - skipped) width
  rwa [little_length, Nat.add_sub_cancel' past] at split

theorem readUInt_little {width value : ℕ} (right : List Byte) (fits : value < 256 ^ width) :
    readUInt (little width value ++ right) 0 width = value := by
  have taken : (little width value ++ right).take width = little width value := by
    rw [List.take_append_of_le_length (by simp), List.take_of_length_le (by simp)]
  rw [readUInt, List.drop_zero, taken, littleValue_little fits]

/-- Taking a part that stands between two others. -/
theorem subarray_middle (left middle right : List Byte) {start stop : ℕ}
    (starts : start = left.length) (stops : stop = left.length + middle.length) :
    subarray (left ++ (middle ++ right)) start stop = middle := by
  subst starts stops
  simp [subarray]

/-! ## The archive as records -/

section Records

variable (crc32 : List Byte → ℕ)

/-- The local header, the name and the bytes of an entry. -/
def localRecord (entry : Entry) : List Byte :=
  layout (localFields crc32 entry) ++ (encode entry.path ++ entry.bytes)

/-- The central record of an entry whose local record stands at an offset. -/
def centralRecord (entry : Entry) (offset : ℕ) : List Byte :=
  layout (centralFields crc32 entry offset) ++ encode entry.path

def localBytes (entries : List Entry) : List Byte := entries.flatMap (localRecord crc32)

/-- The length of a local record. -/
def recordLength (entry : Entry) : ℕ := 30 + (encode entry.path).length + entry.bytes.length

/-- The central records of entries whose local records start at an offset. -/
def centralBytes : List Entry → ℕ → List Byte
  | [], _ => []
  | entry :: rest, offset =>
      centralRecord crc32 entry offset ++ centralBytes rest (offset + recordLength entry)

/-- What a reader should remember of entries whose local records start at an offset. -/
def locals : List Entry → ℕ → List Local
  | [], _ => []
  | entry :: rest, offset =>
      ⟨checksum crc32 entry.bytes, entry.bytes.length, offset, entry.path⟩ ::
        locals rest (offset + recordLength entry)

/-- Every length and offset fits its field. -/
def Placed : List Entry → ℕ → Prop
  | [], _ => True
  | entry :: rest, offset =>
      entry.bytes.length < 2 ^ 32 ∧ (encode entry.path).length < 2 ^ 16 ∧ offset < 2 ^ 32 ∧
        Placed rest (offset + recordLength entry)

theorem localFields_length (entry : Entry) : (layout (localFields crc32 entry)).length = 30 := by
  rw [layout_length]
  rfl

@[simp] theorem localRecord_length (entry : Entry) :
    (localRecord crc32 entry).length = recordLength entry := by
  rw [localRecord, List.length_append, List.length_append, localFields_length, recordLength, Nat.add_assoc]

theorem centralFields_length (entry : Entry) (offset : ℕ) :
    (layout (centralFields crc32 entry offset)).length = 46 := by
  rw [layout_length]
  simp only [centralFields, List.map_cons, List.map_nil, List.sum_cons, List.sum_nil,
    Nat.reduceAdd]

@[simp] theorem centralRecord_length (entry : Entry) (offset : ℕ) :
    (centralRecord crc32 entry offset).length = 46 + (encode entry.path).length := by
  rw [centralRecord, List.length_append, centralFields_length]

theorem checksum_lt (bytes : List Byte) : checksum crc32 bytes < 256 ^ 4 := by
  unfold checksum
  omega

theorem localFields_fit {entry : Entry} (bytesFit : entry.bytes.length < 2 ^ 32)
    (nameFits : (encode entry.path).length < 2 ^ 16) :
    ∀ field ∈ localFields crc32 entry, field.2 < 256 ^ field.1 := by
  have stored := checksum_lt crc32 entry.bytes
  simp [localFields]
  omega

theorem centralFields_fit {entry : Entry} {offset : ℕ} (bytesFit : entry.bytes.length < 2 ^ 32)
    (nameFits : (encode entry.path).length < 2 ^ 16) (offsetFits : offset < 2 ^ 32) :
    ∀ field ∈ centralFields crc32 entry offset, field.2 < 256 ^ field.1 := by
  have stored := checksum_lt crc32 entry.bytes
  simp [centralFields, externalAttributes]
  omega

/-- The writer's loop lays out the records, and what it accepts fits its fields. -/
theorem writeEntries_ok {entries : List Entry} {offset : ℕ} {parts : List Byte × List Byte × ℕ}
    (written : writeEntries crc32 entries offset = .ok parts) :
    parts = (localBytes crc32 entries, centralBytes crc32 entries offset,
      offset + (localBytes crc32 entries).length) ∧ Placed entries offset := by
  induction entries generalizing offset parts with
  | nil =>
      cases written
      simp [localBytes, centralBytes, Placed]
  | cons entry rest inductionHypothesis =>
      rw [writeEntries] at written
      split at written
      case isTrue => cases written
      case isFalse sized =>
        cases headerWritten : writeFields (localFields crc32 entry) with
        | error failure => simp [headerWritten, bind, Except.bind] at written
        | ok header =>
            cases centralWritten : writeFields (centralFields crc32 entry offset) with
            | error failure =>
                simp [headerWritten, centralWritten, bind, Except.bind] at written
            | ok central =>
                obtain ⟨rfl, headerFits⟩ := writeFields_ok headerWritten
                obtain ⟨rfl, centralFits⟩ := writeFields_ok centralWritten
                have headerLength : (layout (localFields crc32 entry)).length = 30 :=
                  localFields_length crc32 entry
                simp only [headerWritten, centralWritten, bind, Except.bind, headerLength] at written
                cases later : writeEntries crc32 rest
                    (offset + (30 + (encode entry.path).length + entry.bytes.length)) with
                | error failure => simp [later] at written
                | ok tail =>
                    obtain ⟨rfl, placed⟩ := inductionHypothesis later
                    simp only [later, pure, Except.pure, Except.ok.injEq] at written
                    subst written
                    have nameFits := headerFits (2, (encode entry.path).length)
                      (by simp [localFields])
                    refine ⟨?_, by omega, by simpa using nameFits, by omega, placed⟩
                    simp [localBytes, localRecord, centralBytes, centralRecord, recordLength,
                      headerLength]
                    omega

/-- The writer's loop accepts whatever fits. -/
theorem writeEntries_placed {entries : List Entry} {offset : ℕ} (placed : Placed entries offset) :
    ∃ parts, writeEntries crc32 entries offset = .ok parts := by
  induction entries generalizing offset with
  | nil => exact ⟨_, rfl⟩
  | cons entry rest inductionHypothesis =>
      obtain ⟨bytesFit, nameFits, offsetFits, later⟩ := placed
      obtain ⟨parts, written⟩ := inductionHypothesis later
      have headerLength : (layout (localFields crc32 entry)).length = 30 :=
        localFields_length crc32 entry
      have header := writeFields_fits (localFields_fit crc32 bytesFit nameFits)
      have central := writeFields_fits (centralFields_fit crc32 bytesFit nameFits offsetFits)
      rw [writeEntries, if_neg (by omega), header, central]
      simp only [bind, Except.bind, headerLength]
      rw [recordLength] at written
      rw [written]
      exact ⟨_, rfl⟩

/-! ## Reading records -/

/-- A path the writer accepts and UTF-8 can carry. -/
def ValidPath (path : JsString) : Prop := validatePath path = .ok path ∧ WellFormed path

theorem ValidPath.nonempty {path : JsString} (valid : ValidPath path) : path ≠ [] := by
  rintro rfl
  have refused := valid.1
  simp [validatePath] at refused

/-- The name of a valid path reads back. -/
theorem ValidPath.read {path : JsString} (valid : ValidPath path) :
    validatePath (decode (encode path)) = .ok path := by
  rw [decode_encode path valid.2, valid.1]

/-- What the reader finds in a local header. -/
theorem readUInt_localRecord {entry : Entry} (bytesFit : entry.bytes.length < 2 ^ 32)
    (nameFits : (encode entry.path).length < 2 ^ 16) (left right : List Byte) :
    let bytes := left ++ (localRecord crc32 entry ++ right)
    readUInt bytes left.length 4 = 0x04034b50 ∧ readUInt bytes (left.length + 6) 2 = 0 ∧
      readUInt bytes (left.length + 8) 2 = 0 ∧
      readUInt bytes (left.length + 14) 4 = checksum crc32 entry.bytes ∧
      readUInt bytes (left.length + 18) 4 = entry.bytes.length ∧
      readUInt bytes (left.length + 22) 4 = entry.bytes.length ∧
      readUInt bytes (left.length + 26) 2 = (encode entry.path).length ∧
      readUInt bytes (left.length + 28) 2 = 0 := by
  have stored := checksum_lt crc32 entry.bytes
  have start := readUInt_append left (localRecord crc32 entry ++ right) 0 4
  rw [Nat.add_zero] at start
  dsimp only
  rw [start]
  simp only [readUInt_append, localRecord, localFields, layout_cons, layout_nil, List.append_assoc]
  simp (disch := decide) only [readUInt_skip, Nat.reduceSub]
  refine ⟨?_, ?_, ?_, ?_, ?_, ?_, ?_, ?_⟩ <;> refine readUInt_little _ ?_ <;>
    first | exact stored | exact bytesFit | exact nameFits | norm_num

/-- What the reader finds in a central record. -/
theorem readUInt_centralRecord {entry : Entry} {offset : ℕ}
    (bytesFit : entry.bytes.length < 2 ^ 32) (nameFits : (encode entry.path).length < 2 ^ 16)
    (offsetFits : offset < 2 ^ 32) (left right : List Byte) :
    let bytes := left ++ (centralRecord crc32 entry offset ++ right)
    readUInt bytes left.length 4 = 0x02014b50 ∧ readUInt bytes (left.length + 8) 2 = 0 ∧
      readUInt bytes (left.length + 10) 2 = 0 ∧
      readUInt bytes (left.length + 16) 4 = checksum crc32 entry.bytes ∧
      readUInt bytes (left.length + 20) 4 = entry.bytes.length ∧
      readUInt bytes (left.length + 24) 4 = entry.bytes.length ∧
      readUInt bytes (left.length + 28) 2 = (encode entry.path).length ∧
      readUInt bytes (left.length + 30) 2 = 0 ∧ readUInt bytes (left.length + 32) 2 = 0 ∧
      readUInt bytes (left.length + 42) 4 = offset := by
  have stored := checksum_lt crc32 entry.bytes
  have start := readUInt_append left (centralRecord crc32 entry offset ++ right) 0 4
  rw [Nat.add_zero] at start
  dsimp only
  rw [start]
  simp only [readUInt_append, centralRecord, centralFields, layout_cons, layout_nil,
    List.append_assoc]
  simp (disch := decide) only [readUInt_skip, Nat.reduceSub]
  refine ⟨?_, ?_, ?_, ?_, ?_, ?_, ?_, ?_, ?_, ?_⟩ <;> refine readUInt_little _ ?_ <;>
    first | exact stored | exact bytesFit | exact nameFits | exact offsetFits | norm_num

/-- The reader takes one local record off the front. -/
theorem readLocal_localRecord {entry : Entry} (valid : ValidPath entry.path)
    (bytesFit : entry.bytes.length < 2 ^ 32) (nameFits : (encode entry.path).length < 2 ^ 16)
    (left right : List Byte) (centralOffset : ℕ)
    (inside : left.length + recordLength entry ≤ centralOffset) {found : List Entry}
    (fresh : ∀ other ∈ found, other.path ≠ entry.path) :
    readLocal crc32 (left ++ (localRecord crc32 entry ++ right)) centralOffset left.length found =
      .ok (entry, ⟨checksum crc32 entry.bytes, entry.bytes.length, left.length, entry.path⟩,
        left.length + recordLength entry) := by
  obtain ⟨signature, flags, method, stored, compressed, uncompressed, nameLength, extra⟩ :=
    readUInt_localRecord crc32 bytesFit nameFits left right
  have named := encode_nonempty valid.nonempty
  have header := localFields_length crc32 entry
  have whole : left ++ (localRecord crc32 entry ++ right) =
      (left ++ layout (localFields crc32 entry)) ++
        (encode entry.path ++ (entry.bytes ++ right)) := by
    simp [localRecord]
  have name : subarray (left ++ (localRecord crc32 entry ++ right)) (left.length + 30)
      (left.length + 30 + (encode entry.path).length) = encode entry.path := by
    rw [whole]
    exact subarray_middle _ _ _ (by simp [header]) (by simp [header])
  have data : subarray (left ++ (localRecord crc32 entry ++ right))
      (left.length + 30 + (encode entry.path).length)
      (left.length + 30 + (encode entry.path).length + entry.bytes.length) = entry.bytes := by
    rw [whole, ← List.append_assoc]
    exact subarray_middle _ _ _ (by simp [header]; omega) (by simp [header]; omega)
  have unseen : (found.any fun other => other.path = entry.path) = false := by
    simpa [List.any_eq_false] using fresh
  have size := recordLength.eq_def entry
  unfold readLocal
  rw [signature, flags, method, stored, compressed, uncompressed, nameLength, extra]
  rw [if_neg (by omega), if_neg (by simp)]
  dsimp only
  rw [if_neg (by simp), if_neg (by omega), name, data, valid.read]
  simp only [bind, Except.bind, unseen, ne_eq, not_true_eq_false, Bool.false_eq_true, or_self,
    if_false, pure, Except.pure]
  rw [size]
  simp only [Nat.add_assoc]

/-- One local record after another: the reader returns the entries in the order
of their records. The prefix already read is the invariant of the loop. -/
theorem readLocals_localBytes {entries : List Entry} (left right : List Byte)
    {centralOffset : ℕ} (fuel : ℕ) (found : List Entry) (metadata : List Local)
    (placed : Placed entries left.length) (valid : ∀ entry ∈ entries, ValidPath entry.path)
    (distinct : ((found ++ entries).map Entry.path).Nodup)
    (ends : left.length + (localBytes crc32 entries).length = centralOffset)
    (enough : entries.length ≤ fuel) :
    readLocals crc32 (left ++ (localBytes crc32 entries ++ right)) centralOffset fuel left.length
        found metadata =
      .ok (found ++ entries, metadata ++ locals crc32 entries left.length, centralOffset) := by
  induction entries generalizing left fuel found metadata with
  | nil =>
      obtain rfl : left.length = centralOffset := by simpa [localBytes] using ends
      cases fuel <;> simp [readLocals, locals]
  | cons entry rest inductionHypothesis =>
      obtain ⟨bytesFit, nameFits, -, later⟩ := placed
      rw [List.forall_mem_cons] at valid
      have split : localBytes crc32 (entry :: rest) =
          localRecord crc32 entry ++ localBytes crc32 rest := rfl
      have size := recordLength.eq_def entry
      rw [split, List.length_append, localRecord_length] at ends
      obtain ⟨fuel, rfl⟩ : ∃ smaller, fuel = smaller + 1 :=
        Nat.exists_eq_succ_of_ne_zero (by simp at enough; omega)
      have fresh : ∀ other ∈ found, other.path ≠ entry.path := by
        intro other member same
        rw [List.map_append, List.nodup_append] at distinct
        exact distinct.2.2 _ (List.mem_map_of_mem member) _ (by simp) same
      have first := readLocal_localRecord crc32 valid.1 bytesFit nameFits left
        (localBytes crc32 rest ++ right) centralOffset (by omega) fresh
      have longer : (left ++ localRecord crc32 entry).length = left.length + recordLength entry := by
        simp
      have next := inductionHypothesis (left ++ localRecord crc32 entry) fuel (found ++ [entry])
        (metadata ++
          [⟨checksum crc32 entry.bytes, entry.bytes.length, left.length, entry.path⟩])
        (longer ▸ later) valid.2 (by simpa using distinct) (by rw [longer]; omega)
        (by simpa using enough)
      rw [longer, List.append_assoc] at next
      rw [split, List.append_assoc, readLocals, if_pos (by omega), first]
      simp only [bind, Except.bind]
      rw [next, locals]
      simp

/-- The reader accepts the central record of a local entry it has seen. -/
theorem checkCentral_centralRecord {entry : Entry} {offset : ℕ} (valid : ValidPath entry.path)
    (bytesFit : entry.bytes.length < 2 ^ 32) (nameFits : (encode entry.path).length < 2 ^ 16)
    (offsetFits : offset < 2 ^ 32) (left right : List Byte) (endOffset : ℕ)
    (inside : left.length + 46 + (encode entry.path).length ≤ endOffset) :
    checkCentral (left ++ (centralRecord crc32 entry offset ++ right)) endOffset left.length
        ⟨checksum crc32 entry.bytes, entry.bytes.length, offset, entry.path⟩ =
      .ok (left.length + 46 + (encode entry.path).length) := by
  obtain ⟨signature, flags, method, stored, compressed, uncompressed, nameLength, extra, comment,
    position⟩ := readUInt_centralRecord crc32 bytesFit nameFits offsetFits left right
  have header := centralFields_length crc32 entry offset
  have name : subarray (left ++ (centralRecord crc32 entry offset ++ right)) (left.length + 46)
      (left.length + 46 + (encode entry.path).length) = encode entry.path := by
    have whole : left ++ (centralRecord crc32 entry offset ++ right) =
        (left ++ layout (centralFields crc32 entry offset)) ++ (encode entry.path ++ right) := by
      simp [centralRecord]
    rw [whole]
    exact subarray_middle _ _ _ (by simp [header]) (by simp [header])
  unfold checkCentral
  rw [signature, flags, method, stored, compressed, uncompressed, nameLength, extra, comment,
    position, if_neg (by omega)]
  dsimp only
  rw [name, valid.read, if_neg (by simp)]
  simp [bind, Except.bind, pure, Except.pure]

/-- Every central record is accepted in turn. -/
theorem checkCentrals_centralBytes {entries : List Entry} {offset : ℕ} (left right : List Byte)
    {endOffset : ℕ} (placed : Placed entries offset)
    (valid : ∀ entry ∈ entries, ValidPath entry.path)
    (ends : left.length + (centralBytes crc32 entries offset).length = endOffset) :
    checkCentrals (left ++ (centralBytes crc32 entries offset ++ right)) endOffset
      (locals crc32 entries offset) left.length = .ok endOffset := by
  induction entries generalizing offset left with
  | nil =>
      obtain rfl : left.length = endOffset := by simpa [centralBytes] using ends
      rfl
  | cons entry rest inductionHypothesis =>
      obtain ⟨bytesFit, nameFits, offsetFits, later⟩ := placed
      rw [List.forall_mem_cons] at valid
      rw [centralBytes, List.length_append, centralRecord_length] at ends
      have first := checkCentral_centralRecord crc32 valid.1 bytesFit nameFits offsetFits left
        (centralBytes crc32 rest (offset + recordLength entry) ++ right) endOffset (by omega)
      have longer : (left ++ centralRecord crc32 entry offset).length =
          left.length + 46 + (encode entry.path).length := by
        simp [Nat.add_assoc]
      have next := inductionHypothesis (left ++ centralRecord crc32 entry offset) later
        valid.2 (by rw [longer]; omega)
      rw [longer, List.append_assoc] at next
      rw [centralBytes, List.append_assoc, locals, checkCentrals, first]
      exact next

/-! ## The round trip -/

theorem endFields_length (count centralLength offset : ℕ) :
    (layout (endFields count centralLength offset)).length = 22 := by
  rw [layout_length]
  simp only [endFields, List.map_cons, List.map_nil, List.sum_cons, List.sum_nil, Nat.reduceAdd]

/-- What the end record holds. -/
theorem readUInt_endFields {count centralLength offset : ℕ}
    (fits : ∀ field ∈ endFields count centralLength offset, field.2 < 256 ^ field.1)
    (left : List Byte) :
    let bytes := left ++ layout (endFields count centralLength offset)
    readUInt bytes left.length 4 = 0x06054b50 ∧ readUInt bytes (left.length + 20) 2 = 0 ∧
      readUInt bytes (left.length + 10) 2 = count ∧
      readUInt bytes (left.length + 12) 4 = centralLength ∧
      readUInt bytes (left.length + 16) 4 = offset := by
  have countFits : count < 256 ^ 2 := fits (2, count) (by simp [endFields])
  have centralFits : centralLength < 256 ^ 4 := fits (4, centralLength) (by simp [endFields])
  have offsetFits : offset < 256 ^ 4 := fits (4, offset) (by simp [endFields])
  have start := readUInt_append left (layout (endFields count centralLength offset)) 0 4
  rw [Nat.add_zero] at start
  dsimp only
  rw [start]
  simp only [readUInt_append, endFields, layout_cons, layout_nil]
  simp (disch := decide) only [readUInt_skip, Nat.reduceSub]
  refine ⟨?_, ?_, ?_, ?_, ?_⟩ <;> refine readUInt_little _ ?_ <;>
    first | exact countFits | exact centralFits | exact offsetFits | norm_num

/-- Every record takes at least one byte. -/
theorem localBytes_count (entries : List Entry) :
    entries.length ≤ (localBytes crc32 entries).length := by
  induction entries with
  | nil => simp
  | cons entry rest inductionHypothesis =>
      have split : localBytes crc32 (entry :: rest) =
          localRecord crc32 entry ++ localBytes crc32 rest := rfl
      rw [split, List.length_cons, List.length_append, localRecord_length, recordLength]
      omega

theorem locals_length (entries : List Entry) (offset : ℕ) :
    (locals crc32 entries offset).length = entries.length := by
  induction entries generalizing offset with
  | nil => rfl
  | cons entry rest inductionHypothesis => simp [locals, inductionHypothesis]

/-- Reading what the records of valid entries and their end record make up. -/
theorem parseStoredZip_records {entries : List Entry} {maxBytes maxEntries : ℕ}
    (nonempty : entries ≠ []) (few : entries.length ≤ maxEntries) (placed : Placed entries 0)
    (valid : ∀ entry ∈ entries, ValidPath entry.path) (distinct : (entries.map Entry.path).Nodup)
    (endFit : ∀ field ∈ endFields entries.length (centralBytes crc32 entries 0).length
      (localBytes crc32 entries).length, field.2 < 256 ^ field.1)
    (small : (localBytes crc32 entries ++ (centralBytes crc32 entries 0 ++
      layout (endFields entries.length (centralBytes crc32 entries 0).length
        (localBytes crc32 entries).length))).length ≤ maxBytes) :
    parseStoredZip crc32 maxBytes maxEntries (localBytes crc32 entries ++
      (centralBytes crc32 entries 0 ++
        layout (endFields entries.length (centralBytes crc32 entries 0).length
          (localBytes crc32 entries).length))) = .ok entries := by
  have ending := endFields_length entries.length (centralBytes crc32 entries 0).length
    (localBytes crc32 entries).length
  generalize tail : layout (endFields entries.length (centralBytes crc32 entries 0).length
    (localBytes crc32 entries).length) = endBytes at *
  have ends := readUInt_endFields endFit (localBytes crc32 entries ++ centralBytes crc32 entries 0)
  rw [tail, List.append_assoc] at ends
  obtain ⟨signature, comment, count, size, offset⟩ := ends
  have total : (localBytes crc32 entries ++ (centralBytes crc32 entries 0 ++ endBytes)).length =
      (localBytes crc32 entries ++ centralBytes crc32 entries 0).length + 22 := by
    simp only [List.length_append, ending]
    omega
  have middle : (localBytes crc32 entries ++ centralBytes crc32 entries 0).length =
      (localBytes crc32 entries).length + (centralBytes crc32 entries 0).length :=
    List.length_append
  have many := localBytes_count crc32 entries
  have positive := List.length_pos_of_ne_nil nonempty
  have read := readLocals_localBytes crc32 [] (centralBytes crc32 entries 0 ++ endBytes)
    (localBytes crc32 entries ++ (centralBytes crc32 entries 0 ++ endBytes)).length [] []
    placed valid distinct (Nat.zero_add _) (by omega)
  have checked := checkCentrals_centralBytes crc32 (localBytes crc32 entries) endBytes placed valid middle.symm
  simp only [List.nil_append, List.length_nil] at read
  unfold parseStoredZip
  rw [if_neg (by omega), total, Nat.add_sub_cancel]
  dsimp only
  rw [signature, comment, if_neg (by simp)]
  rw [count, size, offset, if_neg (by omega), ← total, read]
  simp only [bind, Except.bind, locals_length, ne_eq, not_true_eq_false, or_self, if_false]
  rw [checked]
  simp [pure, Except.pure]

/-- Entries a bundle may hold: between one and 10000, under distinct valid paths. -/
structure ValidEntries (entries : List Entry) : Prop where
  nonempty : entries ≠ []
  few : entries.length ≤ 10000
  distinct : (entries.map Entry.path).Nodup
  valid : ∀ entry ∈ entries, ValidPath entry.path

/-- The length of the archive of some entries. -/
def archiveSize (entries : List Entry) : ℕ :=
  (entries.map fun entry => 76 + 2 * (encode entry.path).length + entry.bytes.length).sum + 22

theorem records_length (entries : List Entry) (offset : ℕ) :
    (localBytes crc32 entries).length + (centralBytes crc32 entries offset).length + 22 =
      archiveSize entries := by
  induction entries generalizing offset with
  | nil => simp [localBytes, centralBytes, archiveSize]
  | cons entry rest inductionHypothesis =>
      have later := inductionHypothesis (offset + recordLength entry)
      have split : localBytes crc32 (entry :: rest) =
          localRecord crc32 entry ++ localBytes crc32 rest := rfl
      rw [archiveSize] at later ⊢
      rw [split, centralBytes, List.length_append, List.length_append, localRecord_length,
        centralRecord_length, recordLength, List.map_cons, List.sum_cons]
      rw [recordLength] at later
      omega

/-- A valid path has at most 1536 bytes. -/
theorem ValidPath.name_length {path : JsString} (valid : ValidPath path) :
    (encode path).length ≤ 1536 := by
  have short : path.length ≤ 512 := by
    by_contra long
    have refused := valid.1
    rw [validatePath, if_pos (.inr (.inl (by omega)))] at refused
    cases refused
  have bound := encode_length path
  omega

/-- Entries whose records end below 2^32 fit their fields. -/
theorem placed_of_size {entries : List Entry} {offset : ℕ}
    (valid : ∀ entry ∈ entries, ValidPath entry.path)
    (small : offset + (localBytes crc32 entries).length < 2 ^ 32) : Placed entries offset := by
  induction entries generalizing offset with
  | nil => trivial
  | cons entry rest inductionHypothesis =>
      rw [List.forall_mem_cons] at valid
      have name := valid.1.name_length
      have size := recordLength.eq_def entry
      have split : localBytes crc32 (entry :: rest) =
          localRecord crc32 entry ++ localBytes crc32 rest := rfl
      rw [split, List.length_append, localRecord_length] at small
      exact ⟨by omega, by omega, by omega, inductionHypothesis valid.2 (by omega)⟩

/-- Valid paths pass unchanged. -/
theorem mapM_validatePath {entries : List Entry}
    (valid : ∀ entry ∈ entries, ValidPath entry.path) :
    (entries.mapM fun entry =>
      (validatePath entry.path).map fun path => { entry with path }) = .ok entries := by
  induction entries with
  | nil => rfl
  | cons entry rest inductionHypothesis =>
      rw [List.forall_mem_cons] at valid
      rw [List.mapM_cons, inductionHypothesis valid.2, valid.1.1]
      rfl

/-- Valid entries are sorted and their records written. -/
theorem createStoredZip_valid {entries : List Entry} (valid : ValidEntries entries) :
    createStoredZip crc32 entries = (do
      let (locals, centrals, offset) ← writeEntries crc32 (entries.insertionSort comparePath) 0
      let ending ← writeFields (endFields entries.length centrals.length offset)
      return locals ++ (centrals ++ ending)) := by
  have sorted := List.perm_insertionSort comparePath entries
  have count := sorted.length_eq
  have distinct : ((entries.insertionSort comparePath).map Entry.path).Nodup :=
    (sorted.map Entry.path).nodup_iff.mpr valid.distinct
  have positive := List.length_pos_of_ne_nil valid.nonempty
  have few := valid.few
  rw [createStoredZip, mapM_validatePath valid.valid]
  simp only [bind, Except.bind]
  rw [if_neg (by omega), if_neg (by rw [distinct.dedup]; simp), count]

/-- Two orders of entries under distinct paths sort to one list. -/
theorem insertionSort_perm {left right : List Entry} (same : left.Perm right)
    (distinct : (left.map Entry.path).Nodup) :
    left.insertionSort comparePath = right.insertionSort comparePath := by
  refine @List.Perm.eq_of_pairwise _ comparePath _ _ ?_
    (List.pairwise_insertionSort comparePath left) (List.pairwise_insertionSort comparePath right)
    (((List.perm_insertionSort comparePath left).trans same).trans
      (List.perm_insertionSort comparePath right).symm)
  intro first second inLeft inRight below above
  have firstMember := (List.perm_insertionSort comparePath left).mem_iff.mp inLeft
  have secondMember :=
    same.mem_iff.mpr ((List.perm_insertionSort comparePath right).mem_iff.mp inRight)
  exact List.inj_on_of_nodup_map distinct firstMember secondMember (le_antisymm below above)

/-- An archive that was written has the computed size, does not depend on the
order of the entries and reads back as the entries in path order, under every
limit it respects; below 4 GiB it is always written. -/
theorem storedZip_roundTrip (entries : List Entry) (valid : ValidEntries entries) :
    (archiveSize entries < 2 ^ 32 → ∃ archive, createStoredZip crc32 entries = .ok archive) ∧
      ∀ archive, createStoredZip crc32 entries = .ok archive →
        archive.length = archiveSize entries ∧
        (∀ maxBytes, archiveSize entries ≤ maxBytes →
          parseStoredZip crc32 maxBytes defaultMaxEntries archive =
            .ok (entries.insertionSort comparePath)) ∧
        ∀ other, other.Perm entries → createStoredZip crc32 other = .ok archive := by
  have sorted := List.perm_insertionSort comparePath entries
  have sortedValid : ∀ entry ∈ entries.insertionSort comparePath, ValidPath entry.path :=
    fun entry member => valid.valid entry (sorted.mem_iff.mp member)
  have distinct : ((entries.insertionSort comparePath).map Entry.path).Nodup :=
    (sorted.map Entry.path).nodup_iff.mpr valid.distinct
  have size := records_length crc32 (entries.insertionSort comparePath) 0
  have sameSize : archiveSize (entries.insertionSort comparePath) = archiveSize entries := by
    rw [archiveSize, archiveSize, (sorted.map _).sum_eq]
  have few := valid.few
  rw [sameSize] at size
  constructor
  · intro small
    have placed : Placed (entries.insertionSort comparePath) 0 :=
      placed_of_size crc32 sortedValid (by omega)
    obtain ⟨parts, written⟩ := writeEntries_placed crc32 placed
    obtain ⟨rfl, -⟩ := writeEntries_ok crc32 written
    rw [Nat.zero_add] at written
    have fits : ∀ field ∈ endFields entries.length
        (centralBytes crc32 (entries.insertionSort comparePath) 0).length
        (localBytes crc32 (entries.insertionSort comparePath)).length,
        field.2 < 256 ^ field.1 := by
      simp only [endFields, List.forall_mem_cons]
      refine ⟨by norm_num, by norm_num, by norm_num, ?_, ?_, ?_, ?_, by norm_num, by simp⟩ <;>
        omega
    rw [createStoredZip_valid crc32 valid, written]
    simp only [bind, Except.bind, writeFields_fits fits]
    exact ⟨_, rfl⟩
  · intro archive built
    have rebuilt := built
    rw [createStoredZip_valid crc32 valid] at built
    cases written : writeEntries crc32 (entries.insertionSort comparePath) 0 with
    | error failure => simp [written, bind, Except.bind] at built
    | ok parts =>
        obtain ⟨rfl, placed⟩ := writeEntries_ok crc32 written
        rw [Nat.zero_add] at written
        cases ended : writeFields (endFields entries.length
            (centralBytes crc32 (entries.insertionSort comparePath) 0).length
            (localBytes crc32 (entries.insertionSort comparePath)).length) with
        | error failure => simp [written, ended, bind, Except.bind] at built
        | ok ending =>
            obtain ⟨rfl, fits⟩ := writeFields_ok ended
            simp only [written, ended, bind, Except.bind, pure, Except.pure,
              Except.ok.injEq] at built
            subst built
            rw [← sorted.length_eq] at fits
            have endLength := endFields_length (entries.insertionSort comparePath).length
              (centralBytes crc32 (entries.insertionSort comparePath) 0).length
              (localBytes crc32 (entries.insertionSort comparePath)).length
            rw [← sorted.length_eq]
            refine ⟨?_, fun maxBytes small => ?_, fun other same => ?_⟩
            · simp only [List.length_append, endLength]
              omega
            · refine parseStoredZip_records crc32 ?_ ?_ placed sortedValid distinct fits ?_
              · intro empty
                exact valid.nonempty (List.perm_nil.mp (empty ▸ sorted).symm)
              · rw [sorted.length_eq]
                exact few
              · simp only [List.length_append, endLength]
                omega
            · have otherValid : ValidEntries other :=
                ⟨fun empty => valid.nonempty (List.perm_nil.mp (empty ▸ same).symm),
                  same.length_eq ▸ few, (same.map Entry.path).nodup_iff.mpr valid.distinct,
                  fun entry member => valid.valid entry (same.mem_iff.mp member)⟩
              rw [createStoredZip_valid crc32 valid] at rebuilt
              rw [createStoredZip_valid crc32 otherValid,
                insertionSort_perm same otherValid.distinct, same.length_eq, rebuilt,
                sorted.length_eq]

end Records

/-- Two empty files, listed out of path order. The checksum of no bytes is zero. -/
def emptyFiles : List Entry := [⟨js "b", []⟩, ⟨js "a", []⟩]

theorem emptyFiles_roundTrip :
    (archiveSize emptyFiles < 2 ^ 32 →
        ∃ archive, createStoredZip (fun _ => 0) emptyFiles = .ok archive) ∧
      ∀ archive, createStoredZip (fun _ => 0) emptyFiles = .ok archive →
        archive.length = archiveSize emptyFiles ∧
        (∀ maxBytes, archiveSize emptyFiles ≤ maxBytes →
          parseStoredZip (fun _ => 0) maxBytes defaultMaxEntries archive =
            .ok (emptyFiles.insertionSort comparePath)) ∧
        ∀ other, other.Perm emptyFiles →
          createStoredZip (fun _ => 0) other = .ok archive := by
  refine storedZip_roundTrip (fun _ => 0) emptyFiles ⟨by decide, by decide, by decide, ?_⟩
  have first : ValidPath (js "a") := ⟨by decide, show isSurrogate 97 = false by decide⟩
  have second : ValidPath (js "b") := ⟨by decide, show isSurrogate 98 = false by decide⟩
  simpa [emptyFiles] using ⟨second, first⟩

end Vasi.StoredZip
