import Vasi.PartialMaps
import Vasi.VerifierSoundness
import Vasi.ZipDirectory

/-!
# What the seal of a bundle covers

The index of a bundle lists its entries with their lengths and digests, and the seals are over
the index. In a bundle that verifies and whose index has a list of entries, every file other
than the two control documents is listed once, with its own length and digest, and nothing else
is listed. Two such bundles with one sealed index have the same files.

An index without a list of entries is not looked into, so the condition is needed.
-/
namespace Vasi.EvidenceVerifier

open JsValue Coercion CanonicalForm
open CanonicalJson (canonicalJSON)
open EngineCrypto (isText_iff)
open JsonText (parse stringify)
open Productization (isText wholeNumber)
open Redaction (Stored)
open StoredZip (Entry parseStoredZip)
open Utf8 (Byte decode encode)

/-- The documents that the index does not list. -/
def CONTROLS : List JsString := [js "bundle-index.json", js "bundle-seals.json"]

section Tools

variable (tools : Tools)

/-- A descriptor of the index is that of one file. -/
structure Describes (descriptor : Value) (entry : Entry) : Prop where
  path : descriptor.get (js "path") = .string entry.path
  other : entry.path ∉ CONTROLS
  byteLength : same (descriptor.get (js "byteLength")) (wholeNumber entry.bytes.length) = true
  sha256 : descriptor.get (js "sha256") = .string (tools.sha256Bytes entry.bytes)

/-- The index lists exactly the files, each once. -/
structure Covered (index : Value) (entries : List Entry) : Prop where
  rootHash : hasHash tools (index.get (js "entries")) (index.get (js "rootHash")) = true
  listed : ∃ descriptors, index.get (js "entries") = .array descriptors ∧
    (∀ descriptor ∈ descriptors, ∃ entry ∈ entries, Describes tools descriptor entry) ∧
    (descriptors.map (Value.get · (js "path"))).Nodup ∧
    ∀ entry ∈ entries, entry.path ∉ CONTROLS →
      ∃ descriptor ∈ descriptors, Describes tools descriptor entry

variable {tools} {entries : List Entry}

theorem entryBytes_eq_some (distinct : (entries.map Entry.path).Nodup) {name : JsString}
    {bytes : List Byte} : entryBytes entries name = some bytes ↔ ⟨name, bytes⟩ ∈ entries := by
  unfold entryBytes
  constructor
  · intro found
    obtain ⟨entry, selected, rfl⟩ := Option.map_eq_some_iff.mp found
    have same : entry.path = name := by simpa using List.find?_some selected
    rw [← same]
    exact List.mem_of_find?_eq_some selected
  · intro inside
    cases selected : entries.find? (fun entry => entry.path = name) with
    | none => simpa using List.find?_eq_none.mp selected _ inside
    | some entry =>
        have there := List.mem_of_find?_eq_some selected
        have same : entry.path = name := by simpa using List.find?_some selected
        have equal : entry = ⟨name, bytes⟩ :=
          List.inj_on_of_nodup_map distinct there inside same
        rw [equal]
        rfl

/-- A descriptor that adds no error describes a file under a path that is new. -/
theorem visitDescriptor_nil (distinct : (entries.map Entry.path).Nodup)
    {state : List JsString × List JsString} (reserved : CONTROLS ⊆ state.1) {descriptor : Value}
    (clean : (visitDescriptor tools entries state descriptor).2 = []) :
    state.2 = [] ∧ ∃ entry ∈ entries, Describes tools descriptor entry ∧ entry.path ∉ state.1 ∧
      (visitDescriptor tools entries state descriptor).1 = entry.path :: state.1 := by
  unfold visitDescriptor at clean ⊢
  cases named : stringText (descriptor.get (js "path")) with
  | none => simp [named] at clean
  | some name =>
      simp only [named] at clean ⊢
      by_cases known : state.1.contains name = true
      · rw [if_pos known] at clean
        simp at clean
      · rw [if_neg known] at clean ⊢
        have new : name ∉ state.1 := by simpa using known
        obtain ⟨earlier, found⟩ := List.append_eq_nil_iff.mp clean
        cases read : entryBytes entries name with
        | none => simp [read] at found
        | some bytes =>
            simp only [read] at found
            split at found
            case isFalse => cases found
            case isTrue agrees =>
              refine ⟨earlier, ⟨name, bytes⟩, (entryBytes_eq_some distinct).mp read,
                ⟨stringText_eq_some.mp named, fun control => new (reserved control), agrees.1,
                  isText_iff.mp agrees.2⟩, new, rfl⟩

theorem visitDescriptors_errors {descriptors : List Value}
    {state : List JsString × List JsString}
    (clean : (descriptors.foldl (visitDescriptor tools entries) state).2 = []) : state.2 = [] := by
  induction descriptors generalizing state with
  | nil => exact clean
  | cons descriptor rest inductionHypothesis =>
      have next := inductionHypothesis clean
      unfold visitDescriptor at next
      split at next
      · exact (List.append_eq_nil_iff.mp next).1
      · split at next <;> exact (List.append_eq_nil_iff.mp next).1

/-- What a walk over the descriptors without an error has established: each describes a file
under a path that was not declared before, and in the end exactly these paths are declared. -/
theorem visitDescriptors_nil (distinct : (entries.map Entry.path).Nodup)
    {descriptors : List Value} {state : List JsString × List JsString}
    (reserved : CONTROLS ⊆ state.1)
    (clean : (descriptors.foldl (visitDescriptor tools entries) state).2 = []) :
    (∀ descriptor ∈ descriptors, ∃ entry ∈ entries, Describes tools descriptor entry ∧
        entry.path ∉ state.1) ∧
      (descriptors.map (Value.get · (js "path"))).Nodup ∧
      ∀ name ∈ (descriptors.foldl (visitDescriptor tools entries) state).1, name ∈ state.1 ∨
        ∃ descriptor ∈ descriptors, descriptor.get (js "path") = .string name := by
  induction descriptors generalizing state with
  | nil => exact ⟨by simp, List.nodup_nil, fun name inside => .inl inside⟩
  | cons descriptor rest inductionHypothesis =>
      obtain ⟨-, entry, there, describes, new, declared⟩ :=
        visitDescriptor_nil distinct reserved (visitDescriptors_errors clean)
      obtain ⟨others, apart, final⟩ := inductionHypothesis
        (by rw [declared]; exact List.subset_cons_of_subset _ reserved) clean
      rw [declared] at others final
      refine ⟨List.forall_mem_cons.mpr ⟨⟨entry, there, describes, new⟩, ?_⟩,
        List.nodup_cons.mpr ⟨?_, apart⟩, ?_⟩
      · intro other inside
        obtain ⟨file, listed, own, fresh⟩ := others other inside
        exact ⟨file, listed, own, fun old => fresh (List.mem_cons_of_mem _ old)⟩
      · intro again
        obtain ⟨other, inside, same⟩ := List.mem_map.mp again
        obtain ⟨file, -, own, fresh⟩ := others other inside
        have equal : file.path = entry.path :=
          Value.string.inj (own.path.symm.trans (same.trans describes.path))
        exact fresh (equal ▸ List.mem_cons_self)
      · intro name inside
        rcases final name inside with old | ⟨other, member, path⟩
        · rcases List.mem_cons.mp old with rfl | old
          · exact .inr ⟨descriptor, List.mem_cons_self, describes.path⟩
          · exact .inl old
        · exact .inr ⟨other, List.mem_cons_of_mem _ member, path⟩

/-- An index with a list of entries in which nothing wrong is found covers the files. -/
theorem indexErrors_nil (distinct : (entries.map Entry.path).Nodup) {index : Value}
    (listed : (index.get (js "entries")).truthy = true)
    (clean : indexErrors tools entries index = []) : Covered tools index entries := by
  rw [indexErrors, if_neg (not_not.mpr listed)] at clean
  cases items : index.get (js "entries") with
  | array descriptors =>
      simp only [items, arrayItems] at clean
      split at clean
      · cases clean
      case isFalse rooted =>
        obtain ⟨found, undeclared⟩ := List.append_eq_nil_iff.mp clean
        obtain ⟨each, apart, final⟩ :=
          visitDescriptors_nil distinct (fun _ control => control) found
        refine ⟨by rw [items]; simpa using rooted, descriptors, items,
          fun descriptor inside => ?_, apart, fun entry inside other => ?_⟩
        · obtain ⟨entry, there, describes, -⟩ := each descriptor inside
          exact ⟨entry, there, describes⟩
        · have declared := List.flatMap_eq_nil_iff.mp undeclared entry inside
          split at declared
          case isFalse => cases declared
          case isTrue known =>
            rcases final entry.path (by simpa using known) with control | ⟨descriptor, member, path⟩
            · exact absurd control other
            · obtain ⟨file, there, describes, -⟩ := each descriptor member
              have equal : file = entry := List.inj_on_of_nodup_map distinct there inside
                (Value.string.inj (describes.path.symm.trans path))
              exact ⟨descriptor, member, equal ▸ describes⟩
  | _ => simp [items, arrayItems] at clean

/-! ## The bundle -/

/-- The first seal of a record that has the integrity role. -/
def integritySeal (record : Value) : Value :=
  ((normalizedSeals record).find? fun sealed =>
    isText (sealRole sealed) (js "vasi_integrity")).getD .undefined

/-- What the verifier has established about a bundle in which it finds nothing wrong. -/
structure SoundBundle (tools : Tools) (entries : List Entry) : Prop where
  covered : ((control entries "bundle-index.json").get (js "entries")).truthy = true →
    Covered tools (control entries "bundle-index.json") entries
  sealed : ∃ seals, (control entries "bundle-seals.json").get (js "seals") = .array seals ∧
    (∀ sealed ∈ seals,
      bundleSealVerified tools (control entries "bundle-index.json") sealed = true) ∧
    ∃ sealed ∈ seals, sealed.get (js "profile") = .string (js "vasi-bundle-seal/v1")
  record : Sound tools (control entries "record.json")
  source : (control entries "bundle-index.json").truthy = true →
    same ((integritySeal (control entries "record.json")).get (js "manifestHash"))
      ((control entries "bundle-index.json").get (js "sourceManifestHash")) = true
  reports : ∃ reports, tools.evidenceReports (control entries "record.json") = some reports ∧
    ∀ expected ∈ reports, entryBytes entries expected.1 = some expected.2

theorem visitBundleSeals_nil {index : Value} {seals : List Value}
    {results : List BundleSealResult}
    (visited : visitBundleSeals tools index seals = some (results, [])) :
    (∀ sealed ∈ seals, bundleSealVerified tools index sealed = true) ∧
      ∀ result ∈ results, ∃ sealed ∈ seals, result.profile = sealed.get (js "profile") := by
  induction seals generalizing results with
  | nil =>
      cases visited
      simp
  | cons sealed rest inductionHypothesis =>
      simp only [visitBundleSeals, Option.bind_eq_bind, Option.bind_eq_some_iff, Option.pure_def,
        Option.some.injEq, Prod.mk.injEq, List.append_eq_nil_iff] at visited
      obtain ⟨⟨result, errors⟩, first, ⟨others, later⟩, following, rfl, rfl, rfl⟩ := visited
      obtain ⟨each, origins⟩ := inductionHypothesis following
      unfold visitBundleSeal at first
      split at first
      · cases first
      · by_cases verified : bundleSealVerified tools index sealed = true
        · simp only [if_pos verified, Option.some.injEq, Prod.mk.injEq, and_true] at first
          refine ⟨List.forall_mem_cons.mpr ⟨verified, each⟩, List.forall_mem_cons.mpr
            ⟨⟨sealed, List.mem_cons_self, by rw [← first]⟩, fun other inside => ?_⟩⟩
          obtain ⟨origin, there, same⟩ := origins other inside
          exact ⟨origin, List.mem_cons_of_mem _ there, same⟩
        · simp only [if_neg verified] at first
          obtain ⟨name, -, first⟩ := Option.bind_eq_some_iff.mp first
          simp at first

theorem verified_eq {expectedPublicJWK record : Value} {result : RecordResult}
    (returned : verifyEvidenceRecord tools expectedPublicJWK record = some result) :
    result.verified = result.errors.isEmpty := by
  simp only [verifyEvidenceRecord, Option.bind_eq_bind, Option.bind_eq_some_iff, Option.pure_def,
    Option.some.injEq] at returned
  obtain ⟨_, -, _, -, rfl⟩ := returned
  rfl

/-- The record of a bundle without an error verifies. -/
theorem bundledRecord_sound {record : Value} {result : Option RecordResult}
    (checked : bundledRecord tools record = some result) (clean : recordResultErrors result = []) :
    record.truthy = true ∧ Sound tools record := by
  unfold bundledRecord at checked
  split at checked
  case isFalse =>
    cases checked
    cases clean
  case isTrue truthy =>
    obtain ⟨found, returned, rfl⟩ := Option.map_eq_some_iff.mp checked
    refine ⟨truthy, verified_sound returned ?_⟩
    by_cases verified : found.verified = true
    · exact verified
    · rw [recordResultErrors, if_neg verified, List.map_eq_nil_iff] at clean
      rw [verified_eq returned, clean]
      rfl

/-- A bundle in which nothing wrong is found is sound. -/
theorem verifyBundleEntries_sound (distinct : (entries.map Entry.path).Nodup)
    {result : BundleResult} (returned : verifyBundleEntries tools entries = some result)
    (verified : result.verified = true) : SoundBundle tools entries := by
  simp only [verifyBundleEntries, Option.bind_eq_bind, Option.bind_eq_some_iff, Option.pure_def,
    Option.some.injEq] at returned
  obtain ⟨seals, listed, ⟨results, sealErrors⟩, visited, record, checked, rfl⟩ := returned
  simp only [bundleResult, List.isEmpty_iff, List.append_eq_nil_iff, report_eq_nil] at verified
  obtain ⟨⟨⟨⟨⟨⟨⟨⟨⟨⟨-, -⟩, -⟩, -⟩, schema⟩, indexed⟩, rfl⟩, primary⟩, recorded⟩, sourced⟩,
    reported⟩ := verified
  obtain ⟨truthy, sound⟩ := bundledRecord_sound checked recorded
  obtain ⟨each, origins⟩ := visitBundleSeals_nil visited
  refine ⟨fun some => indexErrors_nil distinct some indexed, ?_, sound, ?_, ?_⟩
  · rw [Bool.or_eq_false_iff] at schema
    cases items : (control entries "bundle-seals.json").get (js "seals") with
    | array own =>
        rw [show (parseJSONEntry entries "bundle-seals.json").1.get (js "seals") = .array own from
          items] at listed
        obtain rfl : own = seals := by simpa [iterated, Value.truthy] using listed
        simp only [Bool.not_eq_false', List.any_eq_true, Bool.and_eq_true, isText_iff] at primary
        obtain ⟨found, inside, profile, -⟩ := primary
        obtain ⟨sealed, there, same⟩ := origins found inside
        exact ⟨own, rfl, each, sealed, there, same ▸ profile⟩
    | _ =>
        rw [show (parseJSONEntry entries "bundle-seals.json").1.get (js "seals") = _ from
          items] at schema
        simp [arrayItems] at schema
  · intro there
    rw [sourceManifestErrors, report_eq_nil, show (parseJSONEntry entries
      "bundle-index.json").1.truthy = true from there, Bool.true_and, Bool.not_eq_false'] at sourced
    exact sourced
  · rw [reportErrors, if_neg (not_not.mpr truthy)] at reported
    cases regenerated : tools.evidenceReports (parseJSONEntry entries "record.json").1 with
    | none => simp [regenerated] at reported
    | some reports =>
        refine ⟨reports, regenerated, fun expected inside => ?_⟩
        simp only [regenerated, List.flatMap_eq_nil_iff] at reported
        by_contra other
        have wrong := reported expected inside
        rw [if_neg other] at wrong
        cases wrong

/-! ## The archive -/

/-- The files of an archive; none when it is not read. -/
def bundleFiles (tools : Tools) (maxBytes maxEntries : ℕ) (bytes : List Byte) : List Entry :=
  ((parseStoredZip tools.crc32 maxBytes maxEntries bytes).toOption).getD []

/-- The verifier returns, and finds nothing wrong. -/
def bundleVerifies (tools : Tools) (maxBytes maxEntries : ℕ) (bytes : List Byte) : Bool :=
  (verifyEvidenceBundle tools maxBytes maxEntries bytes).any BundleResult.verified

/-- The files that are read have different paths. -/
theorem parseStoredZip_distinct {maxBytes maxEntries : ℕ} {bytes : List Byte}
    (read : parseStoredZip tools.crc32 maxBytes maxEntries bytes = .ok entries) :
    (entries.map Entry.path).Nodup := by
  unfold parseStoredZip at read
  split at read
  · cases read
  dsimp only at read
  split at read
  · cases read
  split at read
  · cases read
  obtain ⟨⟨found, metadata, offset⟩, located, read⟩ := Validation.bind_ok read
  dsimp only at read
  split at read
  · cases read
  obtain ⟨cursor, -, read⟩ := Validation.bind_ok read
  split at read
  · cases read
  cases read
  obtain ⟨walked, -, same, -, distinct⟩ := StoredZip.readLocals_ok tools.crc32 located (by simp)
  simpa [same] using distinct

theorem bundleVerifies_sound {maxBytes maxEntries : ℕ} {bytes : List Byte}
    (verified : bundleVerifies tools maxBytes maxEntries bytes = true) :
    ((bundleFiles tools maxBytes maxEntries bytes).map Entry.path).Nodup ∧
      SoundBundle tools (bundleFiles tools maxBytes maxEntries bytes) := by
  unfold bundleVerifies verifyEvidenceBundle at verified
  unfold bundleFiles
  cases read : parseStoredZip tools.crc32 maxBytes maxEntries bytes with
  | error failure => simp [read, bundleResult] at verified
  | ok entries =>
      have distinct := parseStoredZip_distinct read
      cases returned : verifyBundleEntries tools entries with
      | none => simp [read, returned] at verified
      | some result =>
          refine ⟨distinct, verifyBundleEntries_sound distinct returned ?_⟩
          simpa [read, returned] using verified

/-- In a bundle that verifies and has a list of entries in its index, the index describes
exactly the files other than the two control documents, each by one descriptor with its length
and digest; the record verifies; and each report that the record gives rise to stands in the
bundle as it is, described like any other file. -/
theorem verified_bundle_listed (tools : Tools) (maxBytes maxEntries : ℕ) (bytes : List Byte)
    (files : List Entry) (read : files = bundleFiles tools maxBytes maxEntries bytes)
    (verified : bundleVerifies tools maxBytes maxEntries bytes = true)
    (listed : ((control files "bundle-index.json").get (js "entries")).truthy = true) :
    Sound tools (control files "record.json") ∧
      ∃ descriptors reports,
        (control files "bundle-index.json").get (js "entries") = .array descriptors ∧
        tools.evidenceReports (control files "record.json") = some reports ∧
        (∀ descriptor ∈ descriptors, ∃ entry ∈ files, Describes tools descriptor entry) ∧
        (∀ entry ∈ files, entry.path ∉ CONTROLS →
          ∃! descriptor, descriptor ∈ descriptors ∧ Describes tools descriptor entry) ∧
        ∀ expected ∈ reports, entryBytes files expected.1 = some expected.2 ∧
          (expected.1 ∉ CONTROLS →
            ∃ descriptor ∈ descriptors, Describes tools descriptor ⟨expected.1, expected.2⟩) := by
  obtain ⟨distinct, sound⟩ := bundleVerifies_sound verified
  rw [← read] at distinct sound
  obtain ⟨descriptors, items, each, apart, complete⟩ := (sound.covered listed).listed
  obtain ⟨reports, regenerated, present⟩ := sound.reports
  refine ⟨sound.record, descriptors, reports, items, regenerated, each, ?_, ?_⟩
  · intro entry inside other
    obtain ⟨descriptor, member, describes⟩ := complete entry inside other
    refine ⟨descriptor, ⟨member, describes⟩, fun rival ⟨there, own⟩ => ?_⟩
    exact List.inj_on_of_nodup_map apart there member (own.path.trans describes.path.symm)
  · intro expected inside
    have stands := present expected inside
    refine ⟨stands, fun other => ?_⟩
    exact complete _ ((entryBytes_eq_some distinct).mp stands) other

/-! ## Two bundles -/

/-- The hashes that the bundle seals of a bundle state. -/
def sealedIndexHashes (entries : List Entry) : List Value :=
  (((arrayItems ((control entries "bundle-seals.json").get (js "seals"))).getD []).filter
    fun sealed => isText (sealed.get (js "profile")) (js "vasi-bundle-seal/v1")).map
      (Value.get · (js "manifestHash"))

/-- The canonical text of the index, when there is one. -/
def indexTexts (entries : List Entry) : List JsString :=
  (canonicalJSON (control entries "bundle-index.json")).toOption.toList

theorem control_stored (name : String) :
    Stored (control entries name) ∨ control entries name = .undefined := by
  unfold control parseJSONEntry
  split
  · exact .inr rfl
  · split
    · exact .inr rfl
    case h_2 value read => exact .inl (parse_stored read)

/-- A hash that a bundle seal states is that of the index. -/
theorem SoundBundle.states {verify : JsString → Value → JsString → Option Bool}
    (sound : SoundBundle (tools.sealing verify) entries) {hash : Value}
    (stated : hash ∈ sealedIndexHashes entries) :
    ∃ text, canonicalJSON (control entries "bundle-index.json") = .ok text ∧
      hash = .string (tools.sha256Hex text) := by
  obtain ⟨sealed, inside, rfl⟩ := List.mem_map.mp stated
  obtain ⟨listed, profile⟩ := List.mem_filter.mp inside
  rw [isText_iff] at profile
  obtain ⟨seals, items, each, -⟩ := sound.sealed
  rw [items] at listed
  have verified := each sealed listed
  have other : isText (.string (js "vasi-bundle-seal/v1")) (js "vasi-certificate-seal/v1") =
      false := by decide
  rw [bundleSealVerified, sealVerified, profile, other, if_neg (by decide)] at verified
  obtain ⟨text, -, written, states, -⟩ := EngineCrypto.verifyDetachedIntegritySeal_states verified
  exact ⟨text, written, states⟩

/-- Alike descriptors describe files with one path and one content. -/
theorem Describes.agree {left right : Value} {one other : Entry} (alike : Alike left right)
    (storedLeft : Stored left) (storedRight : Stored right) (first : Describes tools left one)
    (second : Describes tools right other)
    (distinct : tools.sha256Bytes one.bytes = tools.sha256Bytes other.bytes →
      one.bytes = other.bytes) : one = other := by
  have paths := (alike.get (.inl storedLeft) (.inl storedRight)
    (show js "path" ≠ js "__proto__" by decide)).string first.path
  have digests := (alike.get (.inl storedLeft) (.inl storedRight)
    (show js "sha256" ≠ js "__proto__" by decide)).string first.sha256
  have path := Value.string.inj (paths.symm.trans second.path)
  have bytes := distinct (Value.string.inj (digests.symm.trans second.sha256))
  cases one
  cases other
  simp_all

section Pairs

variable {left right : List Entry}

/-- The files that two bundles with alike indexes list are the same. -/
theorem Covered.agree {index other : Value} (alike : Alike index other)
    (storedIndex : Stored index) (storedOther : Stored other) (first : Covered tools index left)
    (second : Covered tools other right)
    (distinct : NoCollision tools.sha256Bytes ((left ++ right).map Entry.bytes)) (entry : Entry)
    (listed : entry.path ∉ CONTROLS) : entry ∈ left ↔ entry ∈ right := by
  obtain ⟨descriptors, items, each, -, complete⟩ := first.listed
  obtain ⟨others, otherItems, otherEach, -, otherComplete⟩ := second.listed
  obtain ⟨partners, found, pairs⟩ := (alike.get (.inl storedIndex) (.inl storedOther)
    (show js "entries" ≠ js "__proto__" by decide)).array items
  obtain rfl := Value.array.inj (found.symm.trans otherItems)
  obtain ⟨onward, backward⟩ := PartialMaps.forall₂_partners pairs
  have stored : ∀ descriptor ∈ descriptors, Stored descriptor := by
    rcases stored_or (.inl storedIndex) (js "entries") with there | missing
    · rw [items] at there
      exact (Redaction.stored_array _).mp there
    · rw [items] at missing
      cases missing
  have otherStored : ∀ descriptor ∈ partners, Stored descriptor := by
    rcases stored_or (.inl storedOther) (js "entries") with there | missing
    · rw [otherItems] at there
      exact (Redaction.stored_array _).mp there
    · rw [otherItems] at missing
      cases missing
  have pinned : ∀ one ∈ left, ∀ two ∈ right,
      tools.sha256Bytes one.bytes = tools.sha256Bytes two.bytes → one.bytes = two.bytes :=
    fun one inLeft two inRight => distinct _ (List.mem_map_of_mem (List.mem_append_left _ inLeft))
      _ (List.mem_map_of_mem (List.mem_append_right _ inRight))
  constructor
  · intro inside
    obtain ⟨descriptor, member, describes⟩ := complete entry inside listed
    obtain ⟨partner, there, same⟩ := onward descriptor member
    obtain ⟨file, present, own⟩ := otherEach partner there
    rw [describes.agree same (stored _ member) (otherStored _ there) own
      (pinned entry inside file present)]
    exact present
  · intro inside
    obtain ⟨descriptor, member, describes⟩ := otherComplete entry inside listed
    obtain ⟨partner, there, same⟩ := backward descriptor member
    obtain ⟨file, present, own⟩ := each partner there
    rw [← own.agree same (stored _ there) (otherStored _ member) describes
      (pinned file present entry inside)]
    exact present

end Pairs

/-- Two bundles that verify, the first one with a list of entries in its index, and whose
bundle seals state one hash of an index have the same files: whatever is not one of the two
control documents is in both or in neither, byte for byte. The only way out is a collision of
two index texts or of the contents of two files. -/
theorem sealed_bundles_agree (tools : Tools)
    (verify : JsString → Value → JsString → Option Bool) (maxBytes maxEntries : ℕ)
    (first second : List Byte) (left right : List Entry)
    (readFirst : left = bundleFiles (tools.sealing verify) maxBytes maxEntries first)
    (readSecond : right = bundleFiles (tools.sealing verify) maxBytes maxEntries second)
    (firstVerifies : bundleVerifies (tools.sealing verify) maxBytes maxEntries first = true)
    (secondVerifies : bundleVerifies (tools.sealing verify) maxBytes maxEntries second = true)
    (listed : ((control left "bundle-index.json").get (js "entries")).truthy = true)
    (sameIndex : ∃ hash ∈ sealedIndexHashes left, hash ∈ sealedIndexHashes right)
    (distinctTexts : NoCollision tools.sha256Hex (indexTexts left ++ indexTexts right))
    (distinctFiles : NoCollision tools.sha256Bytes ((left ++ right).map Entry.bytes)) :
    ∀ path ∉ CONTROLS, entryBytes left path = entryBytes right path := by
  obtain ⟨distinctLeft, soundLeft⟩ := bundleVerifies_sound firstVerifies
  obtain ⟨distinctRight, soundRight⟩ := bundleVerifies_sound secondVerifies
  rw [← readFirst] at distinctLeft soundLeft
  rw [← readSecond] at distinctRight soundRight
  obtain ⟨hash, statedLeft, statedRight⟩ := sameIndex
  obtain ⟨text, written, rfl⟩ := soundLeft.states statedLeft
  obtain ⟨otherText, otherWritten, digests⟩ := soundRight.states statedRight
  obtain rfl := distinctTexts text (by simp [indexTexts, written, Except.toOption]) otherText
    (by simp [indexTexts, otherWritten, Except.toOption]) (Value.string.inj digests)
  have stored : Stored (control left "bundle-index.json") := by
    rcases control_stored "bundle-index.json" with there | missing
    · exact there
    · rw [missing] at written
      cases written
  have otherStored : Stored (control right "bundle-index.json") := by
    rcases control_stored "bundle-index.json" with there | missing
    · exact there
    · rw [missing] at otherWritten
      cases otherWritten
  have alike := alike_of_text stored otherStored written otherWritten
  have covered := soundLeft.covered listed
  have otherListed : ((control right "bundle-index.json").get (js "entries")).truthy = true := by
    obtain ⟨descriptors, items, -⟩ := covered.listed
    obtain ⟨others, found, -⟩ := (alike.get (.inl stored) (.inl otherStored)
      (show js "entries" ≠ js "__proto__" by decide)).array items
    rw [found]
    rfl
  have agree := covered.agree alike stored otherStored (soundRight.covered otherListed)
    distinctFiles
  intro path other
  refine Option.ext fun bytes => ?_
  rw [entryBytes_eq_some distinctLeft, entryBytes_eq_some distinctRight]
  exact agree ⟨path, bytes⟩ other

end Tools

/-! ## An archive that verifies -/

/-- The text of a document as it stands in a bundle. -/
def document (value : Value) : List Byte := encode ((stringify value).getD [])

/-- A bundle of a record without reports. -/
def sampleEntries : List Entry :=
  [⟨js "bundle-index.json", document (.object [
      (js "entries", .array [.object [(js "byteLength", wholeNumber 568),
        (js "path", .string (js "record.json")), (js "sha256", .string [568])]]),
      (js "rootHash", .string [54]), (js "schema", .string (js "vasi-evidence-bundle/v1")),
      (js "sourceManifestHash", .string [164])])⟩,
    ⟨js "bundle-seals.json", document (.object [
      (js "schema", .string (js "vasi-bundle-seals/v1")),
      (js "seals", .array [.object [(js "algorithm", .string (js "Ed25519")),
        (js "manifestHash", .string [141]), (js "profile", .string (js "vasi-bundle-seal/v1")),
        (js "signature", .string (js "s"))]])])⟩,
    ⟨js "record.json", document (sampleRecord id)⟩]

/-- The sample tools with the length as the digest of bytes too, and no reports. -/
def bundleTools : Tools :=
  ({ sampleTools with
    sha256Bytes := fun bytes => [Fin.ofNat _ bytes.length]
    evidenceReports := fun _ => some [] } : Tools).sealing fun _ _ _ => some true

/-- The archive of the entries of a bundle. -/
def archive (entries : List Entry) : List Byte :=
  StoredZip.localBytes bundleTools.crc32 entries ++
    (StoredZip.centralBytes bundleTools.crc32 entries 0 ++
      StoredZip.layout (StoredZip.endFields entries.length
        (StoredZip.centralBytes bundleTools.crc32 entries 0).length
        (StoredZip.localBytes bundleTools.crc32 entries).length))

theorem archive_read {entries : List Entry} {maxBytes : ℕ}
    (valid : StoredZip.ValidEntries entries) (small : StoredZip.archiveSize entries < 2 ^ 32)
    (enough : StoredZip.archiveSize entries ≤ maxBytes) :
    parseStoredZip bundleTools.crc32 maxBytes 10000 (archive entries) = .ok entries := by
  have size := StoredZip.records_length bundleTools.crc32 entries 0
  have few := valid.few
  refine StoredZip.parseStoredZip_records bundleTools.crc32 valid.nonempty few
    (StoredZip.placed_of_size bundleTools.crc32 valid.valid (by omega)) valid.valid
    valid.distinct ?_ ?_
  · simp only [StoredZip.endFields, List.forall_mem_cons]
    refine ⟨by norm_num, by norm_num, by norm_num, ?_, ?_, ?_, ?_, by norm_num, by simp⟩ <;> omega
  · simp only [List.length_append, StoredZip.endFields_length]
    omega

theorem sampleEntries_valid : StoredZip.ValidEntries sampleEntries :=
  ⟨by decide, by decide, by decide, by
    have named (name : JsString) (valid : StoredZip.validatePath name = .ok name)
        (printable : (name.all fun unit => decide (JsonText.Printable unit)) = true) :
        StoredZip.ValidPath name :=
      ⟨valid, JsonText.wellFormed_printable (JsonText.printable_of_all printable)⟩
    simp only [sampleEntries, List.forall_mem_cons, List.not_mem_nil, false_implies,
      implies_true, and_true]
    exact ⟨named _ (by decide) (by decide), named _ (by decide) (by decide),
      named _ (by decide) (by decide)⟩⟩

theorem sampleEntries_lengths :
    sampleEntries.map (fun entry => entry.bytes.length) = [143, 135, 568] := by decide +kernel

theorem sampleEntries_size : StoredZip.archiveSize sampleEntries = 1186 := by
  have lengths := sampleEntries_lengths
  simp only [sampleEntries, List.map_cons, List.map_nil, List.cons.injEq, and_true] at lengths
  obtain ⟨index, seals, record⟩ := lengths
  simp only [StoredZip.archiveSize, sampleEntries, List.map_cons, List.map_nil, index, seals,
    record]
  decide +kernel

theorem sampleArchive_read :
    parseStoredZip bundleTools.crc32 2000 10000 (archive sampleEntries) = .ok sampleEntries :=
  archive_read sampleEntries_valid (by rw [sampleEntries_size]; norm_num)
    (by rw [sampleEntries_size]; norm_num)

theorem sampleArchive_files :
    sampleEntries = bundleFiles bundleTools 2000 10000 (archive sampleEntries) := by
  rw [bundleFiles, sampleArchive_read]
  rfl

theorem sampleArchive_verifies :
    bundleVerifies bundleTools 2000 10000 (archive sampleEntries) = true := by
  have verified : (verifyBundleEntries bundleTools sampleEntries).any BundleResult.verified =
      true := by decide +kernel
  rw [bundleVerifies, verifyEvidenceBundle, sampleArchive_read]
  exact verified

theorem sampleEntries_listed :
    ((control sampleEntries "bundle-index.json").get (js "entries")).truthy = true := by
  decide +kernel

theorem verified_bundle_listed_sample :
    Sound bundleTools (control sampleEntries "record.json") ∧
      ∃ descriptors reports,
        (control sampleEntries "bundle-index.json").get (js "entries") = .array descriptors ∧
        bundleTools.evidenceReports (control sampleEntries "record.json") = some reports ∧
        (∀ descriptor ∈ descriptors, ∃ entry ∈ sampleEntries,
          Describes bundleTools descriptor entry) ∧
        (∀ entry ∈ sampleEntries, entry.path ∉ CONTROLS →
          ∃! descriptor, descriptor ∈ descriptors ∧ Describes bundleTools descriptor entry) ∧
        ∀ expected ∈ reports, entryBytes sampleEntries expected.1 = some expected.2 ∧
          (expected.1 ∉ CONTROLS → ∃ descriptor ∈ descriptors,
            Describes bundleTools descriptor ⟨expected.1, expected.2⟩) :=
  verified_bundle_listed bundleTools 2000 10000 (archive sampleEntries) sampleEntries
    sampleArchive_files sampleArchive_verifies sampleEntries_listed

theorem noCollision_of_nodup {α β : Type} {digest : α → β} {inputs : List α}
    (distinct : (inputs.map digest).Nodup) : NoCollision digest (inputs ++ inputs) := by
  intro left inLeft right inRight same
  rw [List.mem_append, or_self] at inLeft inRight
  exact List.inj_on_of_nodup_map distinct inLeft inRight same

theorem sampleEntries_digests :
    ((sampleEntries.map Entry.bytes).map bundleTools.sha256Bytes).Nodup := by
  have digests : (sampleEntries.map Entry.bytes).map bundleTools.sha256Bytes =
      (sampleEntries.map fun entry => entry.bytes.length).map fun length =>
        [Fin.ofNat 65536 length] := by
    simp only [List.map_map]
    rfl
  rw [digests, sampleEntries_lengths]
  decide

theorem sealed_bundles_agree_sample :
    ∀ path ∉ CONTROLS, entryBytes sampleEntries path = entryBytes sampleEntries path := by
  have nonempty : (sealedIndexHashes sampleEntries).isEmpty = false := by decide +kernel
  obtain ⟨hash, stated⟩ := List.exists_mem_of_ne_nil _ (List.isEmpty_eq_false_iff.mp nonempty)
  have texts : ((indexTexts sampleEntries).map bundleTools.sha256Hex).Nodup := by
    unfold indexTexts
    cases (canonicalJSON (control sampleEntries "bundle-index.json")).toOption <;> simp
  have files := noCollision_of_nodup sampleEntries_digests
  rw [← List.map_append] at files
  exact sealed_bundles_agree bundleTools (fun _ _ _ => some true) 2000 10000
    (archive sampleEntries) (archive sampleEntries) sampleEntries sampleEntries
    sampleArchive_files sampleArchive_files sampleArchive_verifies sampleArchive_verifies
    sampleEntries_listed ⟨hash, stated, stated⟩ (noCollision_of_nodup texts) files

end Vasi.EvidenceVerifier
