import Vasi.FaultyRuns
import Vasi.IsoTime
import Vasi.Utf8
import Vasi.Validation
import Mathlib.Data.List.AList
import Mathlib.Data.List.Sort

/-!
# The custody cycle

A cycle writes a custody package for the newest matched backup next to the packages of
earlier cycles, and removes the oldest of these as long as there are more than are to be
retained. Each step on the custody directory can fail, and the process can end before any of
them.

What the bytes of a package are is left open: they are computed from the matched backup, the
recipients and random keys, and nothing of that touches the custody directory. So is the
digest, the reading of a header, and the decision about the age of the source.
-/
namespace Vasi.CustodyCycle

open JsValue Utf8 Validation FaultyRuns FaultyRuns.Run
open IsoTime (Time isoText)

abbrev Bytes := List Byte

def OUTER_PREFIX_BYTES : ℕ := 12

def AUTH_TAG_BYTES : ℕ := 16

def MAX_HEADER_BYTES : ℕ := 64 * 1024

def MAX_PACKAGE_BYTES : ℕ := 2 ^ 40 + 128 * 1024 * 1024

/-- The bytes of VASICU01. -/
def OUTER_MAGIC : Bytes := [86, 65, 83, 73, 67, 85, 48, 49]

def LOCK_NAME : JsString := js ".vasi-custody.lock"

inductive Failure where
  | error (message : JsString)
  | system (code : JsString)
deriving DecidableEq

variable {Value : Type}

/-! ## Names -/

/-- Eight digits, a T, six digits and a Z. -/
def isTimestamp (text : JsString) : Bool :=
  text.length = 16 && (text.take 8).all isDigit && (text.drop 8).take 1 = [84] &&
    ((text.drop 9).take 6).all isDigit && text.drop 15 = [90]

def isDigestUnit (unit : CodeUnit) : Bool := isDigit unit || (97 ≤ unit.val && unit.val ≤ 102)

/-- The name of a package with a time stamp and a digest. -/
def packageName (stamp digest : JsString) : JsString :=
  js "vasi-custody-" ++ (stamp ++ ([45] ++ (digest ++ js ".vbc")))

/-- The groups of PACKAGE_NAME: the time stamp and the digest that a name is made of. -/
def packageParts (name : JsString) : Option (JsString × JsString) :=
  let stamp := (name.drop 13).take 16
  let digest := (name.drop 30).take 64
  if isTimestamp stamp ∧ digest.length = 64 ∧ digest.all isDigestUnit ∧
      name = packageName stamp digest then
    some (stamp, digest)
  else none

/-- BACKUP_NAME. -/
def isBackupName (name : JsString) : Bool :=
  name.take 5 = js "vasi-" && isTimestamp (name.drop 5)

def custodyTimestamp (date : Time) : JsString :=
  (((isoText date).take 19).filter (· ≠ 45)).filter (· ≠ 58) ++ [90]

def custodyPackageName (sourceCreatedAt : Time) (digest : JsString) : JsString :=
  packageName (custodyTimestamp sourceCreatedAt) digest

def backupDirectoryName (date : Time) : JsString := js "vasi-" ++ custodyTimestamp date

/-! ## The custody directory -/

/-- What lstat and the content of an entry tell. -/
structure FileEntry where
  isFile : Bool
  mode : ℕ
  bytes : Bytes
deriving DecidableEq

abbrev Directory := AList fun _ : JsString => FileEntry

/-- What a cycle has done to packages. -/
inductive Event where
  | passed (name : JsString) (sourceCreatedAt : Time)
  | published (name : JsString)
  | verified (name : JsString)
  | removed (name : JsString)
deriving DecidableEq

/-- The directory, what has been done so far, and the variables that the final part of the
envelope reads. -/
structure Store where
  directory : Directory
  log : List Event
  partialFile : Option JsString
  destination : Option JsString
  verified : Bool

def Store.start (directory : Directory) : Store where
  directory := directory
  log := []
  partialFile := none
  destination := none
  verified := false

abbrev Custody := Run Store Failure

/-- A file is created that must not exist. -/
def openExclusive (name : JsString) (taken : Failure) : Custody Unit :=
  perform fun store =>
    if name ∈ store.directory then (.error taken, store)
    else (.ok (), { store with directory := store.directory.insert name ⟨true, 0o600, []⟩ })

/-- Bytes are added to a file that is open. -/
def writeAll (name : JsString) (bytes : Bytes) : Custody Unit :=
  perform fun store =>
    match store.directory.lookup name with
    | none => (.error (.system (js "EBADF")), store)
    | some entry =>
        (.ok (), { store with
          directory := store.directory.insert name { entry with bytes := entry.bytes ++ bytes } })

/-- A step that changes nothing, such as a sync, a close or a check of another place. -/
def await (result : Except Failure Value) : Custody Value := perform fun store => (result, store)

def assertMissing (name message : JsString) : Custody Unit :=
  perform fun store =>
    (if name ∈ store.directory then .error (.error message) else .ok (), store)

/-- A file is moved to another name, where it takes the place of what was there. -/
def rename (source target : JsString) : Custody Unit :=
  perform fun store =>
    match store.directory.lookup source with
    | none => (.error (.system (js "ENOENT")), store)
    | some entry =>
        (.ok (), { store with
          directory := (store.directory.erase source).insert target entry
          log := store.log ++ [.published target] })

def Store.remove (store : Store) (name : JsString) : Store :=
  { store with directory := store.directory.erase name, log := store.log ++ [.removed name] }

/-- A file is removed. -/
def rm (name : JsString) : Custody Unit :=
  perform fun store =>
    if name ∈ store.directory then (.ok (), store.remove name)
    else (.error (.system (js "ENOENT")), store)

/-- A file is removed if it exists. -/
def rmForce (name : JsString) : Custody Unit :=
  perform fun store =>
    (.ok (), if name ∈ store.directory then store.remove name else store)

/-- The names of the packages in a directory, in their order. -/
def packageNames (directory : Directory) : List JsString :=
  ((directory.entries.filter fun entry =>
    entry.2.isFile && (packageParts entry.1).isSome).map Sigma.fst).insertionSort (· ≤ ·)

def managedCustodyNames : Custody (List JsString) :=
  perform fun store => (.ok (packageNames store.directory), store)

/-! ## Inspection -/

/-- What a header tells, once it has been parsed and validated and is canonical. -/
structure Header where
  contentBytes : ℕ
  contentChunks : ℕ
  createdAt : Time
  recipients : ℕ
  sourceCreatedAt : Time

/-- The digest of a package, and the header that bytes are read as. -/
structure Tools where
  sha256Hex : Bytes → JsString
  readHeader : Bytes → Except Failure Header

structure Inspected where
  createdAt : Time
  packageName : JsString
  recipientCount : ℕ
  sourceCreatedAt : Time

variable (tools : Tools)

def readUInt32BE (bytes : Bytes) : ℕ := bytes.foldl (fun value byte => value * 256 + byte.val) 0

def refuse (message : JsString) : Except Failure Value := .error (.error message)

def openReadonlyRegular (entry : FileEntry) : Except Failure Unit :=
  if entry.isFile = false then
    refuse (js "The backup custody package must be an existing real file.")
  else if entry.mode &&& 0o077 ≠ 0 then
    refuse (js "The backup custody package must be mode 0600 or stricter.")
  else if entry.bytes.length > MAX_PACKAGE_BYTES then
    refuse (js "The backup custody package is too large.")
  else .ok ()

def inspectOpenPackage (name : JsString) (entry : FileEntry) : Except Failure Inspected :=
  if entry.bytes.length < OUTER_PREFIX_BYTES + AUTH_TAG_BYTES ∨
      entry.bytes.length > MAX_PACKAGE_BYTES then
    refuse (js "The backup custody package size is invalid.")
  else
    match packageParts name with
    | none => refuse (js "The backup custody package name is invalid.")
    | some (stamp, digest) =>
        if tools.sha256Hex entry.bytes ≠ digest then
          refuse (js "The backup custody package copy digest is invalid.")
        else if entry.bytes.take OUTER_MAGIC.length ≠ OUTER_MAGIC then
          refuse (js "The backup custody package magic is unsupported.")
        else
          let headerLength := readUInt32BE ((entry.bytes.drop OUTER_MAGIC.length).take 4)
          if headerLength < 2 ∨ headerLength > MAX_HEADER_BYTES then
            refuse (js "The backup custody header length is invalid.")
          else if entry.bytes.length < OUTER_PREFIX_BYTES + headerLength then
            refuse (js "The backup custody package is truncated.")
          else do
            let header ← tools.readHeader ((entry.bytes.drop OUTER_PREFIX_BYTES).take headerLength)
            if OUTER_PREFIX_BYTES + headerLength + header.contentBytes +
                header.contentChunks * AUTH_TAG_BYTES ≠ entry.bytes.length then
              refuse (js "The backup custody package length is invalid.")
            else if custodyTimestamp header.sourceCreatedAt ≠ stamp then
              refuse (js "The backup custody filename and source timestamp disagree.")
            else
              return ⟨header.createdAt, name, header.recipients, header.sourceCreatedAt⟩

def inspectCustodyPackage (name : JsString) : Custody Inspected :=
  perform fun store =>
    match store.directory.lookup name with
    | none => (refuse (js "The backup custody package must be an existing real file."), store)
    | some entry =>
        match openReadonlyRegular entry >>= fun _ => inspectOpenPackage tools name entry with
        | .error failure => (.error failure, store)
        | .ok inspected =>
            (.ok inspected,
              { store with log := store.log ++ [.passed name inspected.sourceCreatedAt] })

/-! ## The envelope -/

/-- What is computed from the matched backup before the directory is touched: its time, and
the bytes of the package as they are written. -/
structure Draft where
  sourceCreatedAt : Time
  writes : List Bytes

/-- What a cycle is asked to do, and what it finds outside of the custody directory. -/
structure Request where
  backups : List (JsString × Bool)
  checked : Except Failure Unit
  draft : JsString → Except Failure Draft
  now : Time
  readiness : ℕ → Inspected → Except Failure Unit
  retain : JsNumber
  uuid : JsString

variable (request : Request)

def partialName : JsString := js ".vasi-custody.partial-" ++ request.uuid

def writeChunks (name : JsString) : List Bytes → Custody Unit
  | [] => pure ()
  | bytes :: rest => do
      writeAll name bytes
      writeChunks name rest

/-- The package is written, published and inspected. -/
def publish (draft : Draft) : Custody Inspected := do
  assign fun store => { store with partialFile := some (partialName request) }
  openExclusive (partialName request) (.system (js "EEXIST"))
  withFinally
    (do
      writeChunks (partialName request) draft.writes
      await (.ok ()))
    (await (.ok ()))
  let name := custodyPackageName draft.sourceCreatedAt (tools.sha256Hex draft.writes.flatten)
  assign fun store => { store with destination := some name }
  assertMissing name (js "A custody package with this exact digest already exists.")
  rename (partialName request) name
  assign fun store => { store with partialFile := none }
  await (.ok ())
  let inspected ← inspectCustodyPackage tools name
  if inspected.sourceCreatedAt ≠ draft.sourceCreatedAt then
    throws (.error (js "The custody package source timestamp changed during creation."))
  else do
    assign fun store => { store with verified := true, log := store.log ++ [.verified name] }
    return inspected

def discardPartial (store : Store) : Custody Unit :=
  match store.partialFile with
  | none => pure ()
  | some name => ignoring (rmForce name)

def discardDestination (store : Store) : Custody Unit :=
  match store.destination with
  | none => pure ()
  | some name => if store.verified then pure () else ignoring (rmForce name)

/-- The final part: what is left of a package that has not been verified is removed. -/
def discard : Custody Unit := do
  let store ← look
  discardPartial store
  discardDestination store

def createCustodyEnvelope (source : JsString) : Custody Inspected := do
  let draft ← await (request.draft source)
  withFinally (publish tools request draft) discard

/-! ## The cycle -/

/-- The text of the lock file. -/
def lockText (now : Time) : Bytes :=
  encode (js "\x7b\"schema\":\"vasi-backup-custody-lock/v1\",\"startedAt\":\"" ++ isoText now ++
    js "\"\x7d\n")

def acquireLock (now : Time) : Custody Unit := do
  openExclusive LOCK_NAME
    (.error (js "Another backup custody cycle holds the protected custody lock."))
  withFinally
    (do
      writeAll LOCK_NAME (lockText now)
      await (.ok ()))
    (ignoring (await (.ok ())))

def managedBackupNames : List JsString :=
  ((request.backups.filter fun entry => entry.2 && isBackupName entry.1).map Prod.fst).insertionSort
    (· ≤ ·)

structure Summary where
  removed : ℕ
  retained : ℕ

/-- The loop that removes the oldest packages, for at most so many rounds. -/
def retention (created : JsString) (retain : ℕ) :
    ℕ → ℕ → List JsString → Custody (ℕ × List JsString)
  | 0, _, _ => neverEnds
  | allowed + 1, removed, names =>
      if names.length > retain then
        match names.find? (· ≠ created) with
        | none =>
            throws (.error (js "Custody retention cannot remove the newly verified package."))
        | some candidate => do
            let _ ← inspectCustodyPackage tools candidate
            rm candidate
            let names ← managedCustodyNames
            retention created retain allowed (removed + 1) names
      else pure (removed, names)

def retain? (request : Request) : Option ℕ :=
  match request.retain.toRat? with
  | none => none
  | some value => if value.den = 1 ∧ 2 ≤ value ∧ value ≤ 365 then some value.num.toNat else none

/-- The part of a cycle that holds the lock. -/
def underLock (retain : ℕ) : Custody Summary := do
  let backups ← await (.ok (managedBackupNames request))
  match backups.getLast? with
  | none => throws (.error (js "No managed matched backup is available for custody."))
  | some sourceName => do
      let created ← createCustodyEnvelope tools request sourceName
      if backupDirectoryName created.sourceCreatedAt ≠ sourceName then
        throws (.error (js "The managed backup name and custody source timestamp disagree."))
      else do
        let names ← managedCustodyNames
        let left ← retention tools created.packageName retain (names.length + 1) 0 names
        ofExcept (request.readiness left.2.length created)
        return ⟨left.1, left.2.length⟩

def createCustodyCycle : Custody Summary := do
  await request.checked
  match retain? request with
  | none =>
      throws (.error (js "The retained custody-package count must be between 2 and 365."))
  | some retain => do
      acquireLock request.now
      withFinally (underLock tools request retain) (rmForce LOCK_NAME)

end Vasi.CustodyCycle
