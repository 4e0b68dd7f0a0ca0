import Vasi.BoundedLoops
import Vasi.IsoTime
import Vasi.Utf8
import Vasi.Validation

/-!
# Release archives

The reader of a compressed tar archive that holds a release. It takes the
decompressed stream chunk by chunk, checks each header, and hands every entry to
its caller as soon as the entry is read, so that a release is extracted while later
entries are still to come.

Decompression, normalisation to NFC and the digest are the platform's; a stream is
the chunks it gives and how it ends.
-/
namespace Vasi.ReleaseArchive

open JsValue BoundedLoops
open Utf8 (Byte Pending advance lead)
open Validation (trim decimal isDigit isLowerLetter isUpperLetter isControl)

abbrev Bytes := List Byte

def maximumDecompressedBytes : ℕ := 160 * 1024 * 1024
def maximumEntries : ℕ := 4096
def maximumExpandedBytes : ℕ := 128 * 1024 * 1024
def maximumFileBytes : ℕ := 4 * 1024 * 1024
def maximumPaxBytes : ℕ := 64 * 1024
def tarBlockBytes : ℕ := 512

/-- The code of a ReleaseStagingError. -/
inductive Code where
  | ambiguousArchiveMode
  | archiveChecksumMismatch
  | archiveDecompressedSizeExceeded
  | archiveExpandedSizeExceeded
  | archiveFileTooLarge
  | archiveLinkTargetPresent
  | archiveParentMissing
  | duplicateArchiveEntry
  | duplicateArchiveRoot
  | forbiddenArchivePath
  | incompleteReleaseArchive
  | invalidArchiveDirectory
  | invalidArchiveEnd
  | invalidArchiveEntryPath
  | invalidArchiveHeaderText
  | invalidArchiveNumericField
  | invalidArchivePadding
  | invalidArchiveProvenance
  | invalidArchiveRead
  | invalidArchiveRoot
  | invalidArchiveTrailer
  | invalidReleaseArchive
  | missingArchiveProvenance
  | tooManyArchiveEntries
  | truncatedArchiveHeader
  | truncatedReleaseArchive
  | unexpectedArchiveExtension
  | unexpectedArchiveRoot
  | unsafeArchiveEntryType
  | unsafeArchiveMode
  | unsupportedArchiveFormat
  | unsafeExtraction (detail : JsString)
deriving DecidableEq

/-- What the parser takes from its platform. -/
structure Platform where
  normalize : JsString → JsString
  sha256 : Bytes → JsString

def require (holds : Bool) (code : Code) : Except Code Unit :=
  if holds then .ok () else .error code

@[simp] theorem require_ok {holds : Bool} {code : Code} {done : Unit} :
    require holds code = .ok done ↔ holds = true := by
  cases holds <;> simp [require]

/-! ## The reader of a stream -/

/-- How a decompressed stream ends: at its end, or with an error of gunzip. -/
inductive Ending where
  | finished
  | broken
deriving DecidableEq

/-- A decompressed stream. -/
structure Stream where
  chunks : List Bytes
  ending : Ending

/-- The bytes of a stream. -/
def Stream.bytes (stream : Stream) : Bytes := stream.chunks.flatten

/-- The state of streamReader. -/
structure Reader where
  buffered : Bytes
  chunks : List Bytes
  ending : Ending
  decompressedBytes : ℕ

def Ending.code : Ending → Code
  | finished => .truncatedReleaseArchive
  | broken => .invalidReleaseArchive

/-- `fill`: chunks are taken until enough bytes are buffered. -/
def fill (length : ℕ) (ending : Ending) : Bytes → List Bytes → ℕ → Except Code Reader
  | buffered, [], decompressedBytes =>
      if length ≤ buffered.length then .ok ⟨buffered, [], ending, decompressedBytes⟩
      else .error ending.code
  | buffered, chunk :: rest, decompressedBytes =>
      if length ≤ buffered.length then
        .ok ⟨buffered, chunk :: rest, ending, decompressedBytes⟩
      else if maximumDecompressedBytes < decompressedBytes + chunk.length then
        .error .archiveDecompressedSizeExceeded
      else fill length ending (buffered ++ chunk) rest (decompressedBytes + chunk.length)

/-- Programs that read from a stream. -/
abbrev Reading := StateT Reader (Except Code)

/-- `read`: the given number of bytes. -/
def read (length : ℕ) : Reading Bytes := fun reader => do
  require (decide (length ≤ maximumExpandedBytes)) .invalidArchiveRead
  let filled ← fill length reader.ending reader.buffered reader.chunks reader.decompressedBytes
  return (filled.buffered.take length, { filled with buffered := filled.buffered.drop length })

def isZero (bytes : Bytes) : Bool := bytes.all fun byte => byte = 0

/-- The chunks after the last block: all of them are zero. -/
def zeroChunks (ending : Ending) : List Bytes → ℕ → Except Code Reader
  | [], decompressedBytes =>
      match ending with
      | .finished => .ok ⟨[], [], ending, decompressedBytes⟩
      | .broken => .error .invalidReleaseArchive
  | chunk :: rest, decompressedBytes => do
      require (decide (decompressedBytes + chunk.length ≤ maximumDecompressedBytes) &&
        isZero chunk) .invalidArchiveTrailer
      zeroChunks ending rest (decompressedBytes + chunk.length)

def requireZeroRemainder : Reading Unit := fun reader => do
  require (isZero reader.buffered) .invalidArchiveTrailer
  let read ← zeroChunks reader.ending reader.chunks reader.decompressedBytes
  return ((), read)

def isZeroBlock (block : Bytes) : Bool := decide (0 < block.length) && isZero block

/-! ## Text and numbers -/

def subarray (bytes : Bytes) (offset length : ℕ) : Bytes := (bytes.drop offset).take length

/-- One byte of a strict decoder. -/
def advanceFatal : Option Pending → Byte → Option (JsString × Option Pending)
  | none, byte =>
      if byte.val < 0x80 ∨ (0xC2 ≤ byte.val ∧ byte.val ≤ 0xF4) then some (lead byte) else none
  | some pending, byte =>
      if pending.lower ≤ byte.val ∧ byte.val ≤ pending.upper then
        some (advance (some pending) byte)
      else none

def decodeFatalFrom : Option Pending → Bytes → Option JsString
  | none, [] => some []
  | some _, [] => none
  | pending, byte :: rest => do
      let (units, left) ← advanceFatal pending byte
      let text ← decodeFatalFrom left rest
      return units ++ text

/-- TextDecoder for utf-8 with fatal: malformed bytes are refused, and a byte order
mark at the start is dropped. -/
def decodeFatal (bytes : Bytes) : Option JsString :=
  (decodeFatalFrom none bytes).map fun text =>
    match text with
    | 0xFEFF :: rest => rest
    | other => other

def latin1 (bytes : Bytes) : JsString := bytes.map fun byte => Fin.ofNat 65536 byte.val

/-- Decoding as ascii leaves out the high bit. -/
def ascii (bytes : Bytes) : JsString := bytes.map fun byte => Fin.ofNat 65536 (byte.val % 128)

def tarText (header : Bytes) (offset length : ℕ) : Except Code JsString := do
  let field := subarray header offset length
  require (isZero (field.dropWhile fun byte => byte ≠ 0)) .invalidArchiveHeaderText
  match decodeFatal (field.takeWhile fun byte => byte ≠ 0) with
  | none => throw .invalidArchiveHeaderText
  | some value =>
      require (!value.any isControl) .invalidArchiveHeaderText
      return value

def isOctal (unit : CodeUnit) : Bool := 48 ≤ unit.val && unit.val ≤ 55

/-- The number that octal digits denote. -/
def octalValue (digits : JsString) : ℕ :=
  digits.foldl (fun total unit => total * 8 + (unit.val - 48)) 0

def tarOctal (header : Bytes) (offset length maximum : ℕ) : Except Code ℕ := do
  let source := trim ((latin1 (subarray header offset length)).filter fun unit => unit ≠ 0)
  require (decide (source ≠ []) && source.all isOctal) .invalidArchiveNumericField
  let value := octalValue source
  require (decide (value ≤ 2 ^ 53 - 1 ∧ value ≤ maximum)) .invalidArchiveNumericField
  return value

def isAllowedUnit (unit : CodeUnit) : Bool :=
  isUpperLetter unit || isLowerLetter unit || isDigit unit || (js "./_@+,:=[]-").contains unit

/-- The test of allowedPath. -/
def isAllowedPath (value : JsString) : Bool := decide (value ≠ []) && value.all isAllowedUnit

def tarPath (header : Bytes) : Except Code JsString := do
  let name ← tarText header 0 100
  let namePrefix ← tarText header 345 155
  let value := if namePrefix ≠ [] then namePrefix ++ js "/" ++ name else name
  require (decide (value ≠ []) && decide (value.length ≤ 1200) && isAllowedPath value)
    .invalidArchiveEntryPath
  return value

/-- The sum of a header's bytes, with spaces for the checksum itself. -/
def checksum (header : Bytes) : ℕ :=
  (header.mapIdx fun index byte => if 148 ≤ index ∧ index < 156 then 32 else byte.val).sum

def validateTarHeader (header : Bytes) : Except Code Unit := do
  require (decide (header.length = tarBlockBytes)) .truncatedArchiveHeader
  require ((js "ustar").isPrefixOf (latin1 (subarray header 257 6)) &&
    decide (latin1 (subarray header 263 2) = js "00")) .unsupportedArchiveFormat
  let recorded ← tarOctal header 148 8 1000000
  require (decide (recorded = checksum header)) .archiveChecksumMismatch
  let target ← tarText header 157 100
  require (decide (target = [])) .archiveLinkTargetPresent

/-! ## Entries -/

def slash : CodeUnit := 47

/-- The parts of a text right after a separator. -/
def afterSeparators : JsString → List JsString
  | [] => []
  | unit :: rest => if unit = slash then rest :: afterSeparators rest else afterSeparators rest

/-- A pattern for a word at the start of a path segment and what follows it. -/
def segmentStarts (word : JsString) (follows : JsString → Bool) (value : JsString) : Bool :=
  (value :: afterSeparators value).any fun suffix =>
    word.isPrefixOf suffix && follows (suffix.drop word.length)

/-- The end of the text, or the given character. -/
def endsOr (unit : CodeUnit) (text : JsString) : Bool := text = [] || text.head? = some unit

def lowerCase (unit : CodeUnit) : CodeUnit := if isUpperLetter unit then unit + 32 else unit

def forbiddenPathPatterns : List (JsString → Bool) :=
  [segmentStarts (js ".env") (endsOr 46), segmentStarts (js ".git") (endsOr slash),
    segmentStarts (js ".private") (endsOr slash), segmentStarts (js ".tasks") (endsOr slash),
    segmentStarts (js "data") (endsOr slash),
    segmentStarts (js "VASI.settings") fun text => text = [],
    fun value => [js ".jks", js ".key", js ".p12", js ".pfx"].any fun ending =>
      ending.isSuffixOf (value.map lowerCase)]

def reservedPaths : List JsString := [js "compose.live.yaml", js "data"]

def isForbidden (relativePath : JsString) : Bool :=
  reservedPaths.contains relativePath ||
    forbiddenPathPatterns.any fun rule => rule relativePath

inductive EntryType where
  | directory
  | file
deriving DecidableEq

def EntryType.text : EntryType → JsString
  | directory => js "directory"
  | file => js "file"

structure Entry where
  mode : ℕ
  relativePath : JsString
  size : ℕ
  type : EntryType

/-- The segments of a path. -/
def segments (value : JsString) : List JsString := value.splitOn slash

def validateRelativePath (platform : Platform) (value : JsString) : Except Code Unit :=
  if value = [] then .ok () else do
  require (decide (value.length ≤ 1024) && isAllowedPath value &&
    decide (value = platform.normalize value) && decide (value.head? ≠ some slash) &&
    decide (value.getLast? ≠ some slash)) .invalidArchiveEntryPath
  require ((segments value).all fun segment =>
    decide (segment ≠ []) && decide (segment ≠ js ".") && decide (segment ≠ js "..") &&
      decide (segment.length ≤ 255)) .invalidArchiveEntryPath

def directoryFlag : CodeUnit := 53

def archiveEntry (platform : Platform) (fullPath rootPrefix : JsString) (typeFlag : CodeUnit)
    (size : ℕ) (header : Bytes) : Except Code Entry := do
  require (rootPrefix.isPrefixOf fullPath) .unexpectedArchiveRoot
  let directory := decide (typeFlag = directoryFlag)
  require (directory == decide (fullPath.getLast? = some slash)) .invalidArchiveEntryPath
  let relativePath :=
    (if directory then fullPath.take (fullPath.length - 1) else fullPath).drop rootPrefix.length
  validateRelativePath platform relativePath
  require (!(decide (relativePath ≠ []) && isForbidden relativePath)) .forbiddenArchivePath
  let mode ← tarOctal header 100 8 0o7777
  require (decide (mode &&& 0o7000 = 0)) .unsafeArchiveMode
  if directory then do
    require (decide (size = 0)) .invalidArchiveDirectory
    return ⟨0o755, relativePath, 0, .directory⟩
  else do
    require (decide (size ≤ maximumFileBytes)) .archiveFileTooLarge
    let execute := mode &&& 0o111
    require (decide (execute = 0 ∨ execute = 0o111)) .ambiguousArchiveMode
    return ⟨if execute ≠ 0 then 0o755 else 0o644, relativePath, size, .file⟩

/-! ## Provenance -/

abbrev PaxRecords := List (JsString × JsString)

/-- A record length: two to six digits without a leading zero. -/
def isRecordLength : JsString → Bool
  | [] => false
  | first :: rest =>
      isDigit first && decide (first ≠ 48) && decide (1 ≤ rest.length ∧ rest.length ≤ 5) &&
        rest.all isDigit

def isRecordKey : JsString → Bool
  | [] => false
  | first :: rest =>
      isLowerLetter first && decide (rest.length ≤ 63) &&
        rest.all fun unit => isLowerLetter unit || isDigit unit || (js "._-").contains unit

/-- One record of an extended header: where it ends, its key and its value. -/
def paxRecord (contents : Bytes) (offset : ℕ) : Except Code (ℕ × JsString × JsString) := do
  match (contents.drop offset).findIdx? fun byte => byte = 32 with
  | none => throw .invalidArchiveProvenance
  | some space =>
      let lengthText := ascii (subarray contents offset space)
      require (isRecordLength lengthText) .invalidArchiveProvenance
      let length := IsoTime.number lengthText
      require (decide (offset + length ≤ contents.length ∧
        contents[offset + length - 1]? = some 10)) .invalidArchiveProvenance
      let record := (contents.take (offset + length - 1)).drop (offset + space + 1)
      match record.findIdx? fun byte => byte = 61 with
      | none => throw .invalidArchiveProvenance
      | some equals =>
          require (decide (1 ≤ equals)) .invalidArchiveProvenance
          let key := ascii (record.take equals)
          match decodeFatal (record.drop (equals + 1)) with
          | none => throw .invalidArchiveProvenance
          | some value =>
              require (isRecordKey key) .invalidArchiveProvenance
              return (offset + length, key, value)

/-- One round of parsePax, at an offset and with the records read before it. -/
def paxRound (contents : Bytes) (state : ℕ × PaxRecords) :
    Round (ℕ × PaxRecords) (Except Code PaxRecords) :=
  if state.1 < contents.length then
    match paxRecord contents state.1 with
    | .error code => .done (.error code)
    | .ok (stop, key, value) =>
        if state.2.any fun record => record.1 = key then .done (.error .invalidArchiveProvenance)
        else .again (stop, state.2 ++ [(key, value)])
  else .done (.ok state.2)

/-- The digits of a record length denote a positive number. -/
theorem number_pos {lengthText : JsString} (accepted : isRecordLength lengthText = true) :
    0 < IsoTime.number lengthText := by
  have grows (digits : JsString) : ∀ total : ℕ, 0 < total →
      0 < digits.foldl (fun total unit => total * 10 + (unit.val - 48)) total := by
    induction digits with
    | nil => exact fun total positive => positive
    | cons unit rest inductionHypothesis =>
        exact fun total positive => inductionHypothesis _ (Nat.add_pos_left (by omega) _)
  cases lengthText with
  | nil => cases accepted
  | cons first rest =>
      simp only [isRecordLength, isDigit, Bool.and_eq_true, decide_eq_true_eq] at accepted
      obtain ⟨⟨⟨⟨low, _⟩, nonzero⟩, _⟩, _⟩ := accepted
      have above : first.val ≠ 48 := fun same => nonzero (Fin.ext same)
      exact grows rest _ (Nat.add_pos_right _ (by omega))

/-- A record ends after its offset. -/
theorem paxRecord_advances {contents : Bytes} {offset stop : ℕ} {key value : JsString}
    (accepted : paxRecord contents offset = .ok (stop, key, value)) :
    offset < stop ∧ stop ≤ contents.length := by
  unfold paxRecord at accepted
  split at accepted
  · cases accepted
  · obtain ⟨_, shape, accepted⟩ := Validation.bind_ok accepted
    obtain ⟨_, inside, accepted⟩ := Validation.bind_ok accepted
    rw [require_ok] at shape inside
    have positive := number_pos shape
    have bound := (of_decide_eq_true inside).1
    dsimp only at accepted
    split at accepted
    · cases accepted
    · obtain ⟨_, _, accepted⟩ := Validation.bind_ok accepted
      split at accepted
      · cases accepted
      · obtain ⟨_, _, accepted⟩ := Validation.bind_ok accepted
        cases accepted
        omega

def paxLoop (contents : Bytes) : Loop (ℕ × PaxRecords) (Except Code PaxRecords) where
  round := paxRound contents
  measure state := contents.length - state.1
  lessens := by
    intro state next taken
    unfold paxRound at taken
    split at taken
    · split at taken
      · cases taken
      · rename_i accepted
        have advances := paxRecord_advances accepted
        split at taken
        · cases taken
        · cases taken
          dsimp only
          omega
    · cases taken

def parsePax (contents : Bytes) : Except Code PaxRecords := do
  require (decide (0 < contents.length ∧ contents.length ≤ maximumPaxBytes))
    .invalidArchiveProvenance
  (paxLoop contents).run (0, [])

/-! ## The loop over the entries -/

/-- The contents of an entry, with the padding that fills its last block. -/
def readContents (size : ℕ) : Reading Bytes := do
  let contents ← read size
  let padding := (tarBlockBytes - size % tarBlockBytes) % tarBlockBytes
  if padding = 0 then return contents
  else do
    let block ← read padding
    require (isZeroBlock block) .invalidArchivePadding
    return contents

def isCommit (comment : JsString) : Bool :=
  decide (comment.length = 40) &&
    comment.all fun unit => isDigit unit || decide (97 ≤ unit.val ∧ unit.val ≤ 102)

/-- The commit that the records name, which have no other key. -/
def provenance (pax : PaxRecords) : Except Code JsString := do
  let comment := (pax.lookup (js "comment")).getD []
  require (decide (pax.length = 1) && isCommit comment) .invalidArchiveProvenance
  return comment

def readProvenance (header : Bytes) (typeFlag : CodeUnit) (size : ℕ) : Reading JsString := do
  require (decide (typeFlag = 103)) .missingArchiveProvenance
  let path ← tarPath header
  require (decide (path = js "pax_global_header") && decide (size ≤ maximumPaxBytes))
    .missingArchiveProvenance
  let contents ← readContents size
  let pax ← parsePax contents
  provenance pax

structure FileRecord where
  mode : ℕ
  sha256 : JsString
  size : ℕ

/-- What is known of the entries read so far. -/
structure Scan where
  paths : List JsString
  directories : List JsString
  files : List (JsString × FileRecord)
  fileContents : List (JsString × Bytes)
  index : Bytes
  entries : ℕ
  expandedBytes : ℕ
  sourceCommit : Option JsString
  rootSeen : Bool

def Scan.start : Scan := ⟨[], [[]], [], [], [], 0, 0, none, false⟩

/-- path.posix.dirname of a path without leading, trailing or doubled separators. -/
def dirname (value : JsString) : JsString :=
  if (segments value).dropLast = [] then js "."
  else [slash].intercalate (segments value).dropLast

def parentDirectory (relativePath : JsString) : JsString :=
  if dirname relativePath = js "." then [] else dirname relativePath

/-- The checks of an entry against the entries before it. -/
def requirePlace (scan : Scan) (entry : Entry) : Except Code Unit := do
  if scan.rootSeen then
    require (decide (entry.relativePath ≠ [])) .duplicateArchiveRoot
  else
    require (decide (entry.relativePath = []) && decide (entry.type = .directory))
      .invalidArchiveRoot
  require (!scan.paths.contains entry.relativePath) .duplicateArchiveEntry
  require (decide (entry.relativePath = []) ||
    scan.directories.contains (parentDirectory entry.relativePath)) .archiveParentMissing

/-- An entry of the archive: the path in its header, and what onEntry is given. -/
structure Visit where
  path : JsString
  entry : Entry
  contents : Bytes

def rootPrefix (releaseId : JsString) : JsString := releaseId ++ js "/"

def readEntry (platform : Platform) (releaseId : JsString) (scan : Scan) (header : Bytes)
    (typeFlag : CodeUnit) (size : ℕ) : Reading Visit := do
  require (!(decide (typeFlag = 103) || decide (typeFlag = 120))) .unexpectedArchiveExtension
  require (decide (typeFlag = 48) || decide (typeFlag = directoryFlag)) .unsafeArchiveEntryType
  require (decide (scan.entries + 1 ≤ maximumEntries)) .tooManyArchiveEntries
  let fullPath ← tarPath header
  let entry ← archiveEntry platform fullPath (rootPrefix releaseId) typeFlag size header
  require (decide (entry.type = .directory) ||
    decide (scan.expandedBytes + entry.size ≤ maximumExpandedBytes)) .archiveExpandedSizeExceeded
  let contents ← readContents size
  requirePlace scan entry
  return ⟨fullPath, entry, contents⟩

/-- What one round of the loop reads. -/
inductive Turn where
  | ended
  | provenance (commit : JsString)
  | entry (visit : Visit)

def typeFlagOf (header : Bytes) : CodeUnit :=
  let byte := header.getD 156 0
  if byte = 0 then 48 else Fin.ofNat 65536 byte.val

def readTurn (platform : Platform) (releaseId : JsString) (scan : Scan) : Reading Turn := do
  let header ← read tarBlockBytes
  if isZeroBlock header then do
    let last ← read tarBlockBytes
    require (isZeroBlock last) .invalidArchiveEnd
    requireZeroRemainder
    return .ended
  else do
    validateTarHeader header
    let size ← tarOctal header 124 12 maximumExpandedBytes
    match scan.sourceCommit with
    | none => do
        let commit ← readProvenance header (typeFlagOf header) size
        return .provenance commit
    | some _ => do
        let visit ← readEntry platform releaseId scan header (typeFlagOf header) size
        return .entry visit

def FileRecord.of (platform : Platform) (visit : Visit) : FileRecord :=
  ⟨visit.entry.mode, platform.sha256 visit.contents, visit.entry.size⟩

/-- What an entry adds to the digest of the index. -/
def indexOf (platform : Platform) (visit : Visit) : Bytes :=
  Utf8.encode (visit.entry.type.text ++ [0] ++ visit.entry.relativePath ++ [0] ++
    decimal visit.entry.mode ++ [0] ++ decimal visit.entry.size ++ [0]) ++
  (match visit.entry.type with
    | .directory => []
    | .file => Utf8.encode (platform.sha256 visit.contents)) ++ Utf8.encode [0]

/-- The scan after an entry. -/
def Scan.record (platform : Platform) (scan : Scan) (visit : Visit) : Scan :=
  let seen :=
    { scan with
      paths := scan.paths ++ [visit.entry.relativePath]
      index := scan.index ++ indexOf platform visit
      entries := scan.entries + 1
      rootSeen := true }
  match visit.entry.type with
  | .directory =>
      { seen with
        directories :=
          if scan.directories.contains visit.entry.relativePath then scan.directories
          else scan.directories ++ [visit.entry.relativePath] }
  | .file =>
      { seen with
        expandedBytes := scan.expandedBytes + visit.entry.size
        files := scan.files ++ [(visit.entry.relativePath, FileRecord.of platform visit)]
        fileContents :=
          if visit.entry.relativePath = js "package.json" then
            scan.fileContents ++ [(visit.entry.relativePath, visit.contents)]
          else scan.fileContents }

/-- The summary of an archive. -/
structure Summary where
  directories : List JsString
  entries : ℕ
  expandedBytes : ℕ
  fileContents : List (JsString × Bytes)
  files : List (JsString × FileRecord)
  indexSha256 : JsString
  sourceCommit : JsString

def Scan.summary (platform : Platform) (scan : Scan) : Except Code Summary :=
  match scan.sourceCommit with
  | none => .error .incompleteReleaseArchive
  | some commit =>
      if scan.rootSeen = true ∧ scan.files ≠ [] then
        .ok ⟨scan.directories, scan.entries, scan.expandedBytes, scan.fileContents, scan.files,
          platform.sha256 scan.index, commit⟩
      else .error .incompleteReleaseArchive

/-- The calls of onEntry, and the result. -/
structure Outcome where
  visits : List Visit
  result : Except Code Summary

/-- The loop between two rounds. -/
structure Parse where
  reader : Reader
  scan : Scan
  visits : List Visit

/-- The caller's onEntry: the code it throws with, when it throws, after the calls
up to and including the present one. -/
abbrev OnEntry := List Visit → Option Code

/-- One round of parseTarGzip. -/
def parseRound (platform : Platform) (releaseId : JsString) (onEntry : OnEntry) (parse : Parse) :
    Round Parse Outcome :=
  match readTurn platform releaseId parse.scan parse.reader with
  | .error code => .done ⟨parse.visits, .error code⟩
  | .ok (.ended, _) => .done ⟨parse.visits, parse.scan.summary platform⟩
  | .ok (.provenance commit, reader) =>
      .again ⟨reader, { parse.scan with sourceCommit := some commit }, parse.visits⟩
  | .ok (.entry visit, reader) =>
      let visits := parse.visits ++ [visit]
      match onEntry visits with
      | some code => .done ⟨visits, .error code⟩
      | none => .again ⟨reader, parse.scan.record platform visit, visits⟩

/-! ## What the programs read

Each program that succeeds reads on in its stream: what is left is shorter by at
least the bytes it reads, and the stream it belongs to stays as long. -/

/-- The bytes still to be read. -/
def Reader.remaining (reader : Reader) : Bytes := reader.buffered ++ reader.chunks.flatten

/-- The length of the stream. -/
def Reader.total (reader : Reader) : ℕ := reader.decompressedBytes + reader.chunks.flatten.length

/-- What a step does to the reader: it takes at least the given number of bytes, in a
stream that stays as long, and keeps the limit on what is decompressed. -/
structure Step (reader after : Reader) (count : ℕ) : Prop where
  shorter : after.remaining.length + count ≤ reader.remaining.length
  total : after.total = reader.total
  limit : reader.decompressedBytes ≤ maximumDecompressedBytes →
    after.decompressedBytes ≤ maximumDecompressedBytes

/-- A program that takes at least the given number of bytes from the stream. -/
def Takes {α : Type} (program : Reading α) (count : ℕ) : Prop :=
  ∀ reader value after, program reader = .ok (value, after) → Step reader after count

theorem Takes.pure {α : Type} (value : α) : Takes (pure value) 0 := by
  intro reader value after taken
  cases taken
  exact ⟨le_rfl, rfl, id⟩

theorem Takes.throw {α : Type} (code : Code) (count : ℕ) :
    Takes (throw code : Reading α) count := by
  intro reader value after taken
  cases taken

theorem Takes.lift {α : Type} (checked : Except Code α) :
    Takes (liftM checked : Reading α) 0 := by
  intro reader value after taken
  cases checked with
  | error code => cases taken
  | ok value =>
      cases taken
      exact ⟨le_rfl, rfl, id⟩

theorem Takes.bind {α β : Type} {first : Reading α} {second : α → Reading β} {count more : ℕ}
    (takes : Takes first count) (rest : ∀ value, Takes (second value) more) :
    Takes (first >>= second) (count + more) := by
  intro reader value after taken
  obtain ⟨⟨middleValue, middle⟩, firstTaken, secondTaken⟩ := Validation.bind_ok taken
  have step := takes reader middleValue middle firstTaken
  have next := rest middleValue middle value after secondTaken
  have shorter := step.shorter
  have shorterYet := next.shorter
  exact ⟨by omega, next.total.trans step.total, fun below => next.limit (step.limit below)⟩

/-- A program that begins with a read takes at least what is read. -/
theorem Takes.followed {α β : Type} {first : Reading α} {second : α → Reading β} {count : ℕ}
    (takes : Takes first count) (rest : ∀ value, Takes (second value) 0) :
    Takes (first >>= second) count :=
  takes.bind rest

theorem Takes.less {α : Type} {program : Reading α} {count fewer : ℕ}
    (takes : Takes program count) (le : fewer ≤ count) : Takes program fewer := by
  intro reader value after taken
  have step := takes reader value after taken
  have shorter := step.shorter
  exact ⟨by omega, step.total, step.limit⟩

/-- Filling moves chunks into the buffer until it holds enough bytes. -/
theorem fill_spec {length decompressedBytes : ℕ} {ending : Ending} {buffered : Bytes}
    {chunks : List Bytes} {filled : Reader}
    (accepted : fill length ending buffered chunks decompressedBytes = .ok filled) :
    length ≤ filled.buffered.length ∧ filled.remaining = buffered ++ chunks.flatten ∧
      filled.total = decompressedBytes + chunks.flatten.length ∧ filled.ending = ending ∧
      (decompressedBytes ≤ maximumDecompressedBytes →
        filled.decompressedBytes ≤ maximumDecompressedBytes) := by
  induction chunks generalizing buffered decompressedBytes with
  | nil =>
      unfold fill at accepted
      split at accepted
      · rename_i enough
        cases accepted
        exact ⟨enough, rfl, rfl, rfl, id⟩
      · cases accepted
  | cons chunk rest inductionHypothesis =>
      unfold fill at accepted
      split at accepted
      · rename_i enough
        cases accepted
        exact ⟨enough, rfl, rfl, rfl, id⟩
      · split at accepted
        · cases accepted
        · rename_i within
          obtain ⟨enough, remaining, total, same, limit⟩ := inductionHypothesis accepted
          refine ⟨enough, ?_, ?_, same, fun _ => limit (Nat.le_of_not_lt within)⟩
          · rw [remaining, List.flatten_cons, List.append_assoc]
          · rw [total, List.flatten_cons, List.length_append, Nat.add_assoc]

/-- A read gives as many bytes as it is asked for, the next ones of the stream. -/
theorem read_spec {length : ℕ} {reader after : Reader} {block : Bytes}
    (taken : read length reader = .ok (block, after)) :
    block.length = length ∧ reader.remaining = block ++ after.remaining ∧
      after.ending = reader.ending ∧ Step reader after length := by
  obtain ⟨_, _, taken⟩ := Validation.bind_ok taken
  obtain ⟨filled, filling, taken⟩ := Validation.bind_ok taken
  cases taken
  obtain ⟨enough, remaining, total, same, limit⟩ := fill_spec filling
  have size : (filled.buffered.take length).length = length := by
    rw [List.length_take, Nat.min_eq_left enough]
  have parts : reader.remaining = filled.buffered.take length ++
      Reader.remaining { filled with buffered := filled.buffered.drop length } := by
    rw [Reader.remaining, ← remaining, Reader.remaining, Reader.remaining, ← List.append_assoc,
      List.take_append_drop]
  refine ⟨size, parts, same, ?_, total, limit⟩
  rw [parts, List.length_append, size, Nat.add_comm]

theorem Takes.read (length : ℕ) : Takes (read length) length :=
  fun _ _ _ taken => (read_spec taken).2.2.2

/-- After the zero chunks the stream is at its end. -/
theorem zeroChunks_spec {ending : Ending} {chunks : List Bytes} {decompressedBytes : ℕ}
    {read : Reader} (accepted : zeroChunks ending chunks decompressedBytes = .ok read) :
    read.buffered = [] ∧ read.chunks = [] ∧ ending = .finished ∧
      read.decompressedBytes = decompressedBytes + chunks.flatten.length ∧
      (decompressedBytes ≤ maximumDecompressedBytes →
        read.decompressedBytes ≤ maximumDecompressedBytes) := by
  induction chunks generalizing decompressedBytes with
  | nil =>
      cases ending with
      | finished =>
          cases accepted
          exact ⟨rfl, rfl, rfl, rfl, id⟩
      | broken => cases accepted
  | cons chunk rest inductionHypothesis =>
      obtain ⟨_, held, accepted⟩ := Validation.bind_ok accepted
      rw [require_ok, Bool.and_eq_true, decide_eq_true_eq] at held
      obtain ⟨buffered, chunks, finished, count, limit⟩ := inductionHypothesis accepted
      refine ⟨buffered, chunks, finished, ?_, fun _ => limit held.1⟩
      rw [count, List.flatten_cons, List.length_append, Nat.add_assoc]

/-- The remainder is read to the end of the stream. -/
theorem requireZeroRemainder_spec {reader after : Reader} {done : Unit}
    (taken : requireZeroRemainder reader = .ok (done, after)) :
    Step reader after 0 ∧ after.chunks = [] := by
  obtain ⟨_, _, taken⟩ := Validation.bind_ok taken
  obtain ⟨read, reading, taken⟩ := Validation.bind_ok taken
  cases taken
  obtain ⟨buffered, chunks, _, count, limit⟩ := zeroChunks_spec reading
  refine ⟨⟨?_, ?_, limit⟩, chunks⟩
  · rw [Reader.remaining, buffered, chunks]
    exact Nat.zero_le _
  · rw [Reader.total, chunks, count]
    rfl

theorem Takes.requireZeroRemainder : Takes requireZeroRemainder 0 :=
  fun _ _ _ taken => (requireZeroRemainder_spec taken).1

theorem Takes.check {α β : Type} {checked : Except Code α} {rest : α → Reading β} {count : ℕ}
    (takes : ∀ value, Takes (rest value) count) :
    Takes ((liftM checked : Reading α) >>= rest) count :=
  ((Takes.lift checked).bind takes).less (Nat.le_add_left _ _)

theorem Takes.readContents (size : ℕ) : Takes (readContents size) 0 := by
  refine ((Takes.read size).followed fun contents => ?_).less (Nat.zero_le _)
  dsimp only
  split
  · exact Takes.pure contents
  · refine ((Takes.read _).followed fun block => ?_).less (Nat.zero_le _)
    exact Takes.check fun _ => Takes.pure contents

theorem Takes.readProvenance (header : Bytes) (typeFlag : CodeUnit) (size : ℕ) :
    Takes (readProvenance header typeFlag size) 0 := by
  refine Takes.check fun _ => Takes.check fun path => Takes.check fun _ => ?_
  refine (Takes.readContents size).followed fun contents => ?_
  exact Takes.check fun pax => Takes.lift (provenance pax)

theorem Takes.readEntry (platform : Platform) (releaseId : JsString) (scan : Scan)
    (header : Bytes) (typeFlag : CodeUnit) (size : ℕ) :
    Takes (readEntry platform releaseId scan header typeFlag size) 0 := by
  refine Takes.check fun _ => Takes.check fun _ => Takes.check fun _ => ?_
  refine Takes.check fun fullPath => Takes.check fun entry => Takes.check fun _ => ?_
  refine (Takes.readContents size).followed fun contents => ?_
  exact Takes.check fun _ => Takes.pure _

/-- Every round takes a header. -/
theorem Takes.readTurn (platform : Platform) (releaseId : JsString) (scan : Scan) :
    Takes (readTurn platform releaseId scan) tarBlockBytes := by
  refine (Takes.read tarBlockBytes).followed fun header => ?_
  split
  · refine ((Takes.read tarBlockBytes).followed fun last => ?_).less (Nat.zero_le _)
    refine Takes.check fun _ => ?_
    exact Takes.requireZeroRemainder.bind fun _ => Takes.pure Turn.ended
  · refine Takes.check fun _ => Takes.check fun size => ?_
    split
    · exact (Takes.readProvenance _ _ _).bind fun commit => Takes.pure _
    · exact (Takes.readEntry _ _ _ _ _ _).bind fun visit => Takes.pure _

/-- The loop of parseTarGzip; its measure is what is left of the stream. -/
def parseLoop (platform : Platform) (releaseId : JsString) (onEntry : OnEntry) :
    Loop Parse Outcome where
  round := parseRound platform releaseId onEntry
  measure parse := parse.reader.remaining.length
  lessens := by
    intro parse next taken
    unfold parseRound at taken
    split at taken
    · cases taken
    · cases taken
    · rename_i reading
      have shorter := (Takes.readTurn _ _ _ _ _ _ reading).shorter
      cases taken
      exact Nat.lt_of_lt_of_le (Nat.lt_add_of_pos_right (by decide)) shorter
    · rename_i reading
      have shorter := (Takes.readTurn _ _ _ _ _ _ reading).shorter
      dsimp only at taken
      split at taken
      · cases taken
      · cases taken
        exact Nat.lt_of_lt_of_le (Nat.lt_add_of_pos_right (by decide)) shorter

def Stream.start (stream : Stream) : Parse :=
  ⟨⟨[], stream.chunks, stream.ending, 0⟩, Scan.start, []⟩

def parseTarGzip (platform : Platform) (releaseId : JsString) (onEntry : OnEntry)
    (stream : Stream) : Outcome :=
  (parseLoop platform releaseId onEntry).run stream.start

end Vasi.ReleaseArchive
