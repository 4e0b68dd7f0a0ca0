import Vasi.FatalUtf8
import Mathlib.Data.List.Infix

/-!
# Inspecting a document while it streams in

The inspector sees an upload chunk by chunk and keeps four things between chunks:
the first bytes, the last code units, the state of the text decoder and what it has
found so far. Whatever the chunks are, it finds what an inspection of the whole
file would find: the window over a chunk is wide enough for the test marker, and
the decoder goes on where it stopped.
-/
namespace Vasi.DocumentInspection

open JsValue Validation Utf8 ReleaseArchive FatalUtf8

/-! ## The streaming decoder -/

/-- A fatal TextDecoder between two calls: the sequence that has been begun, and what an
error has left unread. -/
structure TextDecoder where
  pending : Option Pending
  unread : List Byte

/-- Decode until the end or the first error, and whether there was one. A byte that
cannot go on with a sequence is read again. -/
def decodeAvailable : Option Pending → List Byte → TextDecoder × Bool
  | pending, [] => (⟨pending, []⟩, false)
  | pending, byte :: rest =>
      match advanceFatal pending byte with
      | some (_, left) => decodeAvailable left rest
      | none => (⟨none, if pending.isSome then byte :: rest else rest⟩, true)

/-- decode with stream: true; the flag says that it threw. -/
def TextDecoder.decodeStream (decoder : TextDecoder) (chunk : List Byte) : TextDecoder × Bool :=
  decodeAvailable decoder.pending (decoder.unread ++ chunk)

/-- The last decode, without input: whether it threw. -/
def TextDecoder.flush (decoder : TextDecoder) : Bool :=
  match decodeAvailable decoder.pending decoder.unread with
  | (after, threw) => threw || after.pending.isSome

/-! ## The inspector -/

def EICAR_MARKER : JsString := js "EICAR-STANDARD-ANTIVIRUS-TEST-FILE"

def TEXT_MEDIA_TYPES : List JsString :=
  [js "application/json", js "application/xml", js "text/csv", js "text/markdown",
    js "text/plain"]

def ZIP_MEDIA_TYPES : List JsString :=
  [js "application/vnd.oasis.opendocument.presentation",
    js "application/vnd.oasis.opendocument.spreadsheet",
    js "application/vnd.oasis.opendocument.text",
    js "application/vnd.openxmlformats-officedocument.presentationml.presentation",
    js "application/vnd.openxmlformats-officedocument.spreadsheetml.sheet",
    js "application/vnd.openxmlformats-officedocument.wordprocessingml.document"]

/-- What the inspector carries between chunks. -/
structure Inspector where
  firstBytes : List Byte
  signatureTail : JsString
  containsEicar : Bool
  containsNul : Bool
  utf8Valid : Bool
  decoder : Option TextDecoder

def createDocumentInspector (mediaType : JsString) : Inspector where
  firstBytes := []
  signatureTail := []
  containsEicar := false
  containsNul := false
  utf8Valid := true
  decoder := if mediaType ∈ TEXT_MEDIA_TYPES then some ⟨none, []⟩ else none

/-- The last code units of a text, as slice(-count) takes them. -/
def lastUnits (count : ℕ) (text : JsString) : JsString := text.drop (text.length - count)

def chunkRequired : JsString := js "A non-empty document chunk is required."

def Inspector.update (inspector : Inspector) (mediaType : JsString) (chunk : List Byte) :
    Except JsString Inspector :=
  if chunk = [] then .error chunkRequired
  else
    let firstBytes := if inspector.firstBytes.length < 8192
      then inspector.firstBytes ++ subarray chunk 0 (8192 - inspector.firstBytes.length)
      else inspector.firstBytes
    let signatureWindow := inspector.signatureTail ++ latin1 chunk
    let containsEicar := inspector.containsEicar || EICAR_MARKER <:+: signatureWindow
    let signatureTail := lastUnits 128 signatureWindow
    if mediaType ∈ TEXT_MEDIA_TYPES then
      match inspector.decoder.map (·.decodeStream chunk) with
      | some (decoder, threw) => .ok {
          firstBytes, signatureTail, containsEicar
          containsNul := inspector.containsNul || 0 ∈ chunk
          utf8Valid := inspector.utf8Valid && !threw
          decoder := some decoder }
      | none => .ok {
          firstBytes, signatureTail, containsEicar
          containsNul := inspector.containsNul || 0 ∈ chunk
          utf8Valid := false
          decoder := none }
    else .ok { inspector with firstBytes, signatureTail, containsEicar }

/-- The text in the first bytes, without a mark and white space at its start. -/
def startOf (firstBytes : List Byte) : JsString :=
  let text := decode firstBytes
  let text := if text.head? = some 0xFEFF then text.tail else text
  text.dropWhile isWhiteSpace

def validateContent (mediaType : JsString) (firstBytes : List Byte)
    (containsNul utf8Valid : Bool) : JsString :=
  if mediaType = js "application/pdf" then
    if ascii (subarray firstBytes 0 5) = js "%PDF-" then js "passed"
    else js "pdf_signature_mismatch"
  else if mediaType ∈ ZIP_MEDIA_TYPES then
    let signature := subarray firstBytes 0 4
    if signature = [0x50, 0x4B, 0x03, 0x04] ∨ signature = [0x50, 0x4B, 0x05, 0x06] ∨
        signature = [0x50, 0x4B, 0x07, 0x08] then js "passed"
    else js "zip_container_signature_mismatch"
  else if mediaType ∈ TEXT_MEDIA_TYPES then
    if containsNul then js "text_contains_nul"
    else if !utf8Valid then js "invalid_utf8"
    else
      let start := (startOf firstBytes).head?
      if mediaType = js "application/json" ∧ start ≠ some 0x7B ∧ start ≠ some 0x5B then
        js "json_shape_mismatch"
      else if mediaType = js "application/xml" ∧ start ≠ some 0x3C then
        js "xml_shape_mismatch"
      else js "passed"
  else js "unsupported_media_type"

structure Inspection where
  adapter : JsString
  adapterVersion : JsString
  contentValidation : JsString
  limitation : JsString
  malwareSignatureProfile : JsString
  malwareStatus : JsString
  passed : Bool
  rejectionCode : Option JsString
deriving DecidableEq

def inspectionOf (containsEicar : Bool) (contentValidation : JsString) : Inspection where
  adapter := js "vasi-bounded-document-inspector"
  adapterVersion := js "1"
  contentValidation := contentValidation
  limitation := js "Built-in inspection validates bounded type signatures, UTF-8 where applicable, and the EICAR test marker; it is not a comprehensive antivirus signature service."
  malwareSignatureProfile := js "eicar-test-marker/v1"
  malwareStatus := if containsEicar then js "test_signature_detected"
    else js "no_test_signature_detected"
  passed := !containsEicar && contentValidation == js "passed"
  rejectionCode := if containsEicar then some (js "malware_test_signature_detected")
    else if contentValidation = js "passed" then none else some contentValidation

def Inspector.finalize (inspector : Inspector) (mediaType : JsString) : Inspection :=
  let utf8Valid := match inspector.decoder with
    | some decoder => inspector.utf8Valid && !decoder.flush
    | none => inspector.utf8Valid
  inspectionOf inspector.containsEicar
    (validateContent mediaType inspector.firstBytes inspector.containsNul utf8Valid)

/-- A chunk of an upload. -/
abbrev Chunk := { bytes : List Byte // bytes ≠ [] }

/-- The updates, in order. -/
def updates (mediaType : JsString) : Inspector → List Chunk → Except JsString Inspector
  | inspector, [] => .ok inspector
  | inspector, chunk :: rest => do
      let next ← inspector.update mediaType chunk.val
      updates mediaType next rest

/-- An inspection from start to end. -/
def inspectChunks (mediaType : JsString) (chunks : List Chunk) : Except JsString Inspection :=
  (updates mediaType (createDocumentInspector mediaType) chunks).map (·.finalize mediaType)

/-! ## The whole file -/

/-- The bytes that the chunks make up. -/
def content (chunks : List Chunk) : List Byte := chunks.flatMap Subtype.val

/-- Valid UTF-8: the encodings of scalar values, one after the other. -/
def ValidUtf8 (bytes : List Byte) : Prop :=
  ∃ points : List ℕ, (∀ point ∈ points, IsScalar point) ∧ bytes = points.flatMap encodeScalar

/-- What an inspection of the whole file finds: the marker anywhere, and in a text the
bytes that make it invalid. -/
structure Inspects (mediaType : JsString) (bytes : List Byte) (found : Inspection) : Prop where
  marker : found.malwareStatus = js "test_signature_detected" ↔ EICAR_MARKER <:+: latin1 bytes
  text : mediaType ∈ TEXT_MEDIA_TYPES →
    (found.contentValidation ≠ js "text_contains_nul" ∧
        found.contentValidation ≠ js "invalid_utf8" ↔ 0 ∉ bytes ∧ ValidUtf8 bytes)

/-! ## Decoding goes on -/

/-- The state of a decoder that has met no error. -/
def scan : Option Pending → List Byte → Option (Option Pending)
  | pending, [] => some pending
  | pending, byte :: rest => (advanceFatal pending byte).bind fun step => scan step.2 rest

theorem scan_append (pending : Option Pending) (first second : List Byte) :
    scan pending (first ++ second) = (scan pending first).bind fun left => scan left second := by
  induction first generalizing pending with
  | nil => rfl
  | cons byte rest inductionHypothesis =>
      rw [List.cons_append, scan, scan]
      cases advanceFatal pending byte with
      | none => rfl
      | some step => exact inductionHypothesis step.2

/-- A call throws exactly when the scan fails; without an error nothing is left unread. -/
theorem decodeAvailable_scan (pending : Option Pending) (bytes : List Byte) :
    (∃ left, scan pending bytes = some left ∧
        decodeAvailable pending bytes = (⟨left, []⟩, false)) ∨
      (scan pending bytes = none ∧ (decodeAvailable pending bytes).2 = true) := by
  induction bytes generalizing pending with
  | nil => exact .inl ⟨pending, rfl, rfl⟩
  | cons byte rest inductionHypothesis =>
      rw [scan, decodeAvailable]
      cases advanceFatal pending byte with
      | none => exact .inr ⟨rfl, rfl⟩
      | some step => exact inductionHypothesis step.2

theorem decodeFatalFrom_scan (pending : Option Pending) (bytes : List Byte) :
    (decodeFatalFrom pending bytes).isSome = true ↔ scan pending bytes = some none := by
  induction bytes generalizing pending with
  | nil => cases pending <;> simp [decodeFatalFrom, scan]
  | cons byte rest inductionHypothesis =>
      have unfolded : decodeFatalFrom pending (byte :: rest) =
          (advanceFatal pending byte).bind fun step =>
            (decodeFatalFrom step.2 rest).bind fun later => some (step.1 ++ later) := by
        cases pending <;> rfl
      rw [unfolded, scan]
      cases advanceFatal pending byte with
      | none => simp
      | some step =>
          rw [Option.bind_some, Option.bind_some, ← inductionHypothesis step.2]
          cases decodeFatalFrom step.2 rest <;> simp

theorem advanceFatal_some {pending : Pending} {value : ℕ} (small : value < 256)
    (above : pending.lower ≤ value) (below : value ≤ pending.upper) :
    advanceFatal (some pending) (Fin.ofNat 256 value) =
      some (advance (some pending) (Fin.ofNat 256 value)) := by
  rw [advanceFatal, if_pos (by rw [byte_val small]; exact ⟨above, below⟩)]

/-- The bytes of a scalar value bring the decoder back to where it was. The cases are the
four lengths of a sequence. -/
theorem scan_encodeScalar {point : ℕ} (scalar : IsScalar point) :
    scan none (encodeScalar point) = some none := by
  obtain ⟨bound, outside⟩ := scalar
  unfold encodeScalar
  split
  case isTrue small =>
    simp only [scan, advanceFatal, byte_val (show point < 256 by omega), small, true_or, if_true,
      lead, Option.bind_some]
  case isFalse large =>
    split
    case isTrue small =>
      have opened : advanceFatal none (Fin.ofNat 256 (0xC0 + point / 0x40)) =
          some ([], some ⟨1, point / 0x40, 0x80, 0xBF⟩) := by
        rw [advanceFatal, if_pos (by rw [byte_val (by omega)]; omega), lead, byte_val (by omega),
          if_neg (by omega), if_pos (by omega)]
        simp
      rw [scan, opened, Option.bind_some, scan, advanceFatal_some (by omega) (by simp)
        (by dsimp only; omega), advance_complete (by omega) (by simp) (by dsimp only; omega) rfl]
      rfl
    case isFalse large =>
      split
      case isTrue small =>
        have opened : advanceFatal none (Fin.ofNat 256 (0xE0 + point / 0x1000)) =
            some ([], some ⟨2, point / 0x1000, if point / 0x1000 = 0 then 0xA0 else 0x80,
              if point / 0x1000 = 13 then 0x9F else 0xBF⟩) := by
          rw [advanceFatal, if_pos (by rw [byte_val (by omega)]; omega), lead,
            byte_val (by omega), if_neg (by omega), if_neg (by omega), if_pos (by omega)]
          simp [show 224 + point / 4096 = 237 ↔ point / 4096 = 13 by omega]
        rw [scan, opened, Option.bind_some, scan,
          advanceFatal_some (by omega) (by dsimp only; split <;> omega)
            (by dsimp only; split <;> omega),
          advance_continue (by omega) (by dsimp only; split <;> omega)
            (by dsimp only; split <;> omega) (by simp),
          Option.bind_some, scan, advanceFatal_some (by omega) (by simp) (by dsimp only; omega),
          advance_complete (by omega) (by simp) (by dsimp only; omega) rfl]
        rfl
      case isFalse large =>
        have opened : advanceFatal none (Fin.ofNat 256 (0xF0 + point / 0x40000)) =
            some ([], some ⟨3, point / 0x40000, if point / 0x40000 = 0 then 0x90 else 0x80,
              if point / 0x40000 = 4 then 0x8F else 0xBF⟩) := by
          rw [advanceFatal, if_pos (by rw [byte_val (by omega)]; omega), lead,
            byte_val (by omega), if_neg (by omega), if_neg (by omega), if_neg (by omega),
            if_pos (by omega)]
          simp [show 240 + point / 262144 = 244 ↔ point / 262144 = 4 by omega]
        rw [scan, opened, Option.bind_some, scan,
          advanceFatal_some (by omega) (by dsimp only; split <;> omega)
            (by dsimp only; split <;> omega),
          advance_continue (by omega) (by dsimp only; split <;> omega)
            (by dsimp only; split <;> omega) (by simp),
          Option.bind_some, scan, advanceFatal_some (by omega) (by simp) (by dsimp only; omega),
          advance_continue (by omega) (by simp) (by dsimp only; omega) (by simp),
          Option.bind_some, scan, advanceFatal_some (by omega) (by simp) (by dsimp only; omega),
          advance_complete (by omega) (by simp) (by dsimp only; omega) rfl]
        rfl

/-- The decoder comes through a byte string exactly when it is valid. The induction of
the harder direction is on the number of bytes. -/
theorem scan_valid (bytes : List Byte) : scan none bytes = some none ↔ ValidUtf8 bytes := by
  constructor
  · intro through
    obtain ⟨text, read⟩ :=
      Option.isSome_iff_exists.mp ((decodeFatalFrom_scan none bytes).mpr through)
    clear through
    induction length : bytes.length using Nat.strong_induction_on generalizing bytes text with
    | _ length inductionHypothesis =>
        cases bytes with
        | nil => exact ⟨[], by simp, rfl⟩
        | cons byte rest =>
            obtain ⟨point, later, remaining, opened⟩ := decodeFatalFrom_opened read
            have shorter : remaining.length < (byte :: rest).length := by
              have long := (encodeScalar_length point).1
              rw [opened.bytes, List.length_append]
              omega
            obtain ⟨points, scalars, same⟩ := inductionHypothesis remaining.length (by omega)
              remaining later opened.remaining rfl
            refine ⟨point :: points, List.forall_mem_cons.mpr ⟨opened.scalar, scalars⟩, ?_⟩
            rw [opened.bytes, same, List.flatMap_cons]
  · rintro ⟨points, scalars, rfl⟩
    induction points with
    | nil => rfl
    | cons point rest inductionHypothesis =>
        rw [List.forall_mem_cons] at scalars
        rw [List.flatMap_cons, scan_append, scan_encodeScalar scalars.1]
        exact inductionHypothesis scalars.2

/-! ## The window -/

theorem lastUnits_append (count : ℕ) (whole chunk : JsString) :
    lastUnits count (lastUnits count whole ++ chunk) = lastUnits count (whole ++ chunk) := by
  have window : lastUnits count whole ++ chunk =
      (whole ++ chunk).drop (whole.length - count) := by
    rw [List.drop_append_of_le_length (Nat.sub_le _ _), lastUnits]
  rw [window, lastUnits, lastUnits, List.drop_drop, List.length_drop, List.length_append]
  congr 1
  omega

/-- A pattern that is no longer than the window by more than one unit is not missed:
what ends inside the chunk begins inside the window. -/
theorem infix_window {pattern : JsString} {count : ℕ} (fits : pattern.length ≤ count + 1)
    (whole chunk : JsString) :
    pattern <:+: whole ++ chunk ↔
      pattern <:+: whole ∨ pattern <:+: lastUnits count whole ++ chunk := by
  have window : lastUnits count whole ++ chunk =
      (whole ++ chunk).drop (whole.length - count) := by
    rw [List.drop_append_of_le_length (Nat.sub_le _ _), lastUnits]
  constructor
  · rintro ⟨before, after, same⟩
    by_cases inside : before.length + pattern.length ≤ whole.length
    · left
      have early : (before ++ pattern) <+: whole := by
        refine List.prefix_of_prefix_length_le ⟨after, same⟩
          (List.prefix_append whole chunk) (by rw [List.length_append]; exact inside)
      exact (List.suffix_append before pattern).isInfix.trans early.isInfix
    · right
      refine ⟨before.drop (whole.length - count), after, ?_⟩
      rw [window, ← same, List.append_assoc, List.append_assoc,
        List.drop_append_of_le_length (by omega)]
  · rintro (early | late)
    · exact early.trans (List.prefix_append _ _).isInfix
    · rw [window] at late
      exact late.trans (List.drop_suffix _ _).isInfix

/-! ## What the inspector carries -/

/-- The state of the inspector after the bytes that it has seen. -/
structure Carries (mediaType : JsString) (bytes : List Byte) (inspector : Inspector) : Prop where
  firstBytes : inspector.firstBytes = bytes.take 8192
  signatureTail : inspector.signatureTail = lastUnits 128 (latin1 bytes)
  marker : inspector.containsEicar = decide (EICAR_MARKER <:+: latin1 bytes)
  other : mediaType ∉ TEXT_MEDIA_TYPES → inspector.decoder = none
  nul : mediaType ∈ TEXT_MEDIA_TYPES → inspector.containsNul = decide (0 ∈ bytes)
  reading : mediaType ∈ TEXT_MEDIA_TYPES → ∃ decoder, inspector.decoder = some decoder ∧
    ((inspector.utf8Valid = true ∧ ∃ left, scan none bytes = some left ∧ decoder = ⟨left, []⟩) ∨
      (inspector.utf8Valid = false ∧ scan none bytes = none))

theorem create_carries (mediaType : JsString) :
    Carries mediaType [] (createDocumentInspector mediaType) where
  firstBytes := rfl
  signatureTail := rfl
  marker := (by decide : false = decide (EICAR_MARKER <:+: latin1 []))
  other := fun other => by simp [createDocumentInspector, other]
  nul := fun _ => by simp [createDocumentInspector]
  reading := fun text => ⟨⟨none, []⟩, by simp [createDocumentInspector, text],
    .inl ⟨rfl, none, rfl, rfl⟩⟩

theorem take_firstBytes (bytes chunk : List Byte) :
    (if (bytes.take 8192).length < 8192
      then bytes.take 8192 ++ subarray chunk 0 (8192 - (bytes.take 8192).length)
      else bytes.take 8192) = (bytes ++ chunk).take 8192 := by
  rw [List.length_take]
  split
  case isTrue short =>
    rw [List.take_of_length_le (by omega), min_eq_right (by omega), List.take_append,
      List.take_of_length_le (by omega), subarray, List.drop_zero]
  case isFalse full =>
    rw [List.take_append_of_le_length (by omega)]

theorem latin1_append (first second : List Byte) :
    latin1 (first ++ second) = latin1 first ++ latin1 second := by simp [latin1]

/-- An update goes on from the bytes seen before to those with the chunk. -/
theorem update_carries {mediaType : JsString} {bytes chunk : List Byte} {inspector : Inspector}
    (carries : Carries mediaType bytes inspector) (present : chunk ≠ []) :
    ∃ next, inspector.update mediaType chunk = .ok next ∧
      Carries mediaType (bytes ++ chunk) next := by
  have firstBytes := take_firstBytes bytes chunk
  have signatureTail : lastUnits 128 (inspector.signatureTail ++ latin1 chunk) =
      lastUnits 128 (latin1 (bytes ++ chunk)) := by
    rw [carries.signatureTail, lastUnits_append, latin1_append]
  have marker : (inspector.containsEicar ||
      decide (EICAR_MARKER <:+: inspector.signatureTail ++ latin1 chunk)) =
      decide (EICAR_MARKER <:+: latin1 (bytes ++ chunk)) := by
    rw [carries.marker, carries.signatureTail, latin1_append, ← Bool.decide_or]
    exact decide_eq_decide.mpr (infix_window (by decide) _ _).symm
  rw [Inspector.update, if_neg present, carries.firstBytes]
  dsimp only
  by_cases text : mediaType ∈ TEXT_MEDIA_TYPES
  · obtain ⟨decoder, own, reading⟩ := carries.reading text
    have nul : (inspector.containsNul || decide (0 ∈ chunk)) = decide (0 ∈ bytes ++ chunk) := by
      rw [carries.nul text, ← Bool.decide_or]
      exact decide_eq_decide.mpr List.mem_append.symm
    rw [if_pos text, own, Option.map_some]
    dsimp only
    refine ⟨_, rfl, firstBytes, ?_, marker, fun other => (other text).elim,
      fun _ => nul, fun _ => ⟨_, rfl, ?_⟩⟩
    · dsimp only
      exact signatureTail
    rcases reading with ⟨valid, left, scanned, rfl⟩ | ⟨invalid, failed⟩
    · have joined : scan none (bytes ++ chunk) = scan left chunk := by
        rw [scan_append, scanned, Option.bind_some]
      rw [joined]
      rcases decodeAvailable_scan left chunk with ⟨after, through, decoded⟩ | ⟨failed, threw⟩
      · exact .inl ⟨by simp [TextDecoder.decodeStream, decoded, valid], after, through,
          by simp [TextDecoder.decodeStream, decoded]⟩
      · exact .inr ⟨by simp [TextDecoder.decodeStream, threw], failed⟩
    · exact .inr ⟨by simp [invalid], by rw [scan_append, failed, Option.bind_none]⟩
  · rw [if_neg text]
    refine ⟨_, rfl, firstBytes, ?_, marker, carries.other,
      fun own => (text own).elim, fun own => (text own).elim⟩
    dsimp only
    exact signatureTail

theorem updates_carry {mediaType : JsString} (chunks : List Chunk) {bytes : List Byte}
    {inspector : Inspector} (carries : Carries mediaType bytes inspector) :
    ∃ last, updates mediaType inspector chunks = .ok last ∧
      Carries mediaType (bytes ++ content chunks) last := by
  induction chunks generalizing bytes inspector with
  | nil => exact ⟨inspector, rfl, by simpa [content] using carries⟩
  | cons chunk rest inductionHypothesis =>
      obtain ⟨next, updated, after⟩ := update_carries carries chunk.property
      obtain ⟨last, run, final⟩ := inductionHypothesis after
      refine ⟨last, ?_, by simpa [content] using final⟩
      rw [updates, updated]
      exact run

/-- What an inspection of the whole file finds, as the validators compute it. -/
def inspectContent (mediaType : JsString) (bytes : List Byte) : Inspection :=
  inspectionOf (EICAR_MARKER <:+: latin1 bytes)
    (validateContent mediaType (bytes.take 8192) (0 ∈ bytes) (decodeFatalFrom none bytes).isSome)

/-- Content is validated by the flags only where it is text. -/
theorem validateContent_other {mediaType : JsString} (other : mediaType ∉ TEXT_MEDIA_TYPES)
    (firstBytes : List Byte) (containsNul utf8Valid otherNul otherValid : Bool) :
    validateContent mediaType firstBytes containsNul utf8Valid =
      validateContent mediaType firstBytes otherNul otherValid := by
  simp only [validateContent, other, if_false]

theorem finalize_carries {mediaType : JsString} {bytes : List Byte} {inspector : Inspector}
    (carries : Carries mediaType bytes inspector) :
    inspector.finalize mediaType = inspectContent mediaType bytes := by
  rw [Inspector.finalize, inspectContent, carries.marker, carries.firstBytes]
  by_cases text : mediaType ∈ TEXT_MEDIA_TYPES
  · obtain ⟨decoder, own, reading⟩ := carries.reading text
    have flag : (inspector.utf8Valid && !decoder.flush) =
        (decodeFatalFrom none bytes).isSome := by
      rw [Bool.eq_iff_iff, decodeFatalFrom_scan]
      rcases reading with ⟨valid, left, scanned, rfl⟩ | ⟨invalid, failed⟩
      · rw [valid, scanned]
        cases left <;> simp [TextDecoder.flush, decodeAvailable]
      · rw [invalid, failed]
        simp
    rw [own, carries.nul text]
    dsimp only
    rw [flag]
  · congr 1
    exact validateContent_other text _ _ _ _ _

theorem inspectContent_inspects (mediaType : JsString) (bytes : List Byte) :
    Inspects mediaType bytes (inspectContent mediaType bytes) := by
  constructor
  · have apart : js "no_test_signature_detected" ≠ js "test_signature_detected" := by decide
    by_cases marked : EICAR_MARKER <:+: latin1 bytes <;>
      simp [inspectContent, inspectionOf, marked, apart]
  · intro text
    have pdf : mediaType ≠ js "application/pdf" := by
      rintro rfl
      exact absurd text (by decide)
    have zip : mediaType ∉ ZIP_MEDIA_TYPES := by
      have disjoint : ∀ name ∈ TEXT_MEDIA_TYPES, name ∉ ZIP_MEDIA_TYPES := by decide
      exact disjoint mediaType text
    have nul : ∀ code ∈ [js "invalid_utf8", js "json_shape_mismatch", js "xml_shape_mismatch",
        js "passed"], code ≠ js "text_contains_nul" := by decide
    have invalid : ∀ code ∈ [js "text_contains_nul", js "json_shape_mismatch",
        js "xml_shape_mismatch", js "passed"], code ≠ js "invalid_utf8" := by decide
    rw [← scan_valid, ← decodeFatalFrom_scan]
    simp only [inspectContent, inspectionOf, validateContent, if_neg pdf, if_neg zip, if_pos text,
      decide_eq_true_eq]
    by_cases empty : (0 : Byte) ∈ bytes
    · simp [empty]
    · cases valid : (decodeFatalFrom none bytes).isSome with
      | false => simp [empty]
      | true =>
          simp only [empty, if_false, Bool.not_true, Bool.false_eq_true, not_false_eq_true,
            and_self, iff_true]
          split
          · exact ⟨nul _ (by simp), invalid _ (by simp)⟩
          · split
            · exact ⟨nul _ (by simp), invalid _ (by simp)⟩
            · exact ⟨nul _ (by simp), invalid _ (by simp)⟩

/-- However a file is split into chunks, the inspector finds what an inspection of the
whole file finds. -/
theorem inspectChunks_whole (mediaType : JsString) (chunks : List Chunk) :
    inspectChunks mediaType chunks = .ok (inspectContent mediaType (content chunks)) ∧
      Inspects mediaType (content chunks) (inspectContent mediaType (content chunks)) := by
  obtain ⟨last, run, carries⟩ := updates_carry chunks (create_carries mediaType)
  refine ⟨?_, inspectContent_inspects mediaType _⟩
  rw [List.nil_append] at carries
  rw [inspectChunks, run, ← finalize_carries carries]
  rfl

end Vasi.DocumentInspection
