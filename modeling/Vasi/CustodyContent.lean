import Vasi.Binary64
import Vasi.BoundedLoops
import Vasi.Utf8

/-!
# The content of a custody package

The authenticated content of a package is a magic text and the three files of a matched
backup, each behind a header with its code and its length. The extractor is fed with the
chunks of the content as they are decrypted. It gathers the magic and the headers in a
buffer and writes the bodies to the files of a fresh directory.
-/
namespace Vasi.BackupCustody

open JsValue Utf8 BoundedLoops

abbrev Bytes := List Byte

/-- One of the files of a matched backup. -/
structure FileDefinition where
  code : Byte
  maximumBytes : ℕ
  minimumBytes : ℕ
  name : JsString

def FILES : List FileDefinition :=
  [⟨1, 1024 * 1024, 2, js "manifest.json"⟩,
   ⟨2, 64 * 1024 * 1024, 1, js "VASI.settings"⟩,
   ⟨3, 2 ^ 40, 1, js "postgresql.dump"⟩]

/-- The bytes of VASIBM01. -/
def INNER_MAGIC : Bytes := [86, 65, 83, 73, 66, 77, 48, 49]

/-- Why the extraction fails: a thrown message, a file that exists already, or a write
without a handle. -/
inductive Failure where
  | error (message : JsString)
  | fileExists (name : JsString)
  | noHandle
deriving DecidableEq

/-! ## The directory -/

/-- The files of a directory with their bytes. -/
abbrev Directory := List (JsString × Bytes)

/-- Opening a file that must not exist. -/
def openExclusive (directory : Directory) (name : JsString) : Except Failure Directory :=
  if name ∈ directory.map Prod.fst then .error (.fileExists name)
  else .ok (directory ++ [(name, [])])

def writeAll (directory : Directory) (name : JsString) (bytes : Bytes) : Directory :=
  directory.map fun file => if file.1 = name then (file.1, file.2 ++ bytes) else file

/-! ## The extractor -/

inductive State where
  | magic
  | header
  | body
  | complete
deriving DecidableEq

/-- The states in which bytes are gathered in the buffer. -/
def State.Gathers (state : State) : Prop := state = .magic ∨ state = .header

instance (state : State) : Decidable state.Gathers := inferInstanceAs (Decidable (_ ∨ _))

structure InnerExtractor where
  directory : Directory
  entryIndex : ℤ
  remaining : ℕ
  state : State
  buffer : Bytes
  handle : Option JsString
deriving DecidableEq

def InnerExtractor.start (directory : Directory) : InnerExtractor where
  directory := directory
  entryIndex := -1
  remaining := 0
  state := .magic
  buffer := []
  handle := none

/-- The bytes that the magic and a header consist of. -/
def required (state : State) : ℕ := if state = .magic then INNER_MAGIC.length else 9

def readBigUInt64BE (bytes : Bytes) : ℕ := bytes.foldl (fun value byte => value * 256 + byte.val) 0

/-- The definition at an index, undefined outside the list. -/
def definitionAt (index : ℤ) : Option FileDefinition :=
  if index < 0 then none else FILES[index.toNat]?

/-- A header has been gathered: its file is opened. -/
def startEntry (extractor : InnerExtractor) : Except Failure InnerExtractor :=
  let entryIndex := extractor.entryIndex + 1
  match definitionAt entryIndex with
  | none => .error (.error (js "The authenticated custody file inventory is invalid."))
  | some definition =>
      if extractor.buffer.head? ≠ some definition.code then
        .error (.error (js "The authenticated custody file inventory is invalid."))
      else
        let size := Binary64.round (readBigUInt64BE (extractor.buffer.drop 1))
        if (JsNumber.finite size).isSafeInteger = false ∨ size < definition.minimumBytes ∨
            size > definition.maximumBytes then
          .error (.error (js "The authenticated " ++ definition.name ++ js " length is invalid."))
        else do
          let directory ← openExclusive extractor.directory definition.name
          return { extractor with
            directory := directory
            entryIndex := entryIndex
            remaining := size.num.toNat
            state := .body
            buffer := []
            handle := some definition.name }

/-- Bytes of a body, which is closed with its last byte. -/
def writeBody (extractor : InnerExtractor) (bytes : Bytes) : Except Failure InnerExtractor :=
  match extractor.handle with
  | none => .error .noHandle
  | some name =>
      let written := { extractor with
        directory := writeAll extractor.directory name bytes
        remaining := extractor.remaining - bytes.length }
      .ok (if written.remaining = 0 then
        { written with
          handle := none
          state := if written.entryIndex = FILES.length - 1 then .complete else .header }
      else written)

/-- Nothing stands after the last body. -/
def refuseTrailing (extractor : InnerExtractor) (chunk : Bytes) :
    Except Failure (InnerExtractor × Bytes) :=
  if extractor.state = .complete ∧ chunk ≠ [] then
    .error (.error (js "The authenticated custody content contains trailing data."))
  else .ok (extractor, chunk)

/-- The end of a pass: the bytes of the body. -/
def fillBody (extractor : InnerExtractor) (chunk : Bytes) :
    Except Failure (InnerExtractor × Bytes) :=
  if extractor.state = .body then do
    let written ← writeBody extractor (chunk.take (min extractor.remaining chunk.length))
    refuseTrailing written (chunk.drop (min extractor.remaining chunk.length))
  else refuseTrailing extractor chunk

/-- A pass through the loop over a chunk. -/
def pass (extractor : InnerExtractor) (chunk : Bytes) :
    Except Failure (InnerExtractor × Bytes) :=
  if extractor.state.Gathers then
    let take := min (required extractor.state - extractor.buffer.length) chunk.length
    let gathered := { extractor with buffer := extractor.buffer ++ chunk.take take }
    let rest := chunk.drop take
    if gathered.buffer.length < required extractor.state then .ok (gathered, rest)
    else if extractor.state = .magic then
      if gathered.buffer ≠ INNER_MAGIC then
        .error (.error (js "The authenticated custody content magic is unsupported."))
      else .ok ({ gathered with buffer := [], state := .header }, rest)
    else do
      let opened ← startEntry gathered
      fillBody opened rest
  else fillBody extractor chunk

def feedRound (current : InnerExtractor × Bytes) :
    Round (InnerExtractor × Bytes) (Except Failure InnerExtractor) :=
  if current.2 = [] then .done (.ok current.1)
  else
    match pass current.1 current.2 with
    | .error failure => .done (.error failure)
    | .ok next => .again next

/-- The loop over a chunk, for at most one round more than it has bytes. -/
def feed (extractor : InnerExtractor) (chunk : Bytes) : Option (Except Failure InnerExtractor) :=
  within feedRound (chunk.length + 1) (extractor, chunk)

def finish (extractor : InnerExtractor) : Except Failure Directory :=
  if extractor.state ≠ .complete ∨ extractor.buffer ≠ [] ∨ extractor.handle ≠ none then
    .error (.error (js "The authenticated custody content is truncated."))
  else .ok extractor.directory

/-- One chunk after the other is fed, and then the extraction is finished. -/
def extractChunks (extractor : InnerExtractor) : List Bytes → Option (Except Failure Directory)
  | [] => some (finish extractor)
  | chunk :: rest =>
      match feed extractor chunk with
      | none => none
      | some (.error failure) => some (.error failure)
      | some (.ok fed) => extractChunks fed rest

/-- The content is extracted into a directory, chunk by chunk. -/
def extract (directory : Directory) (chunks : List Bytes) : Option (Except Failure Directory) :=
  extractChunks (.start directory) chunks

end Vasi.BackupCustody
