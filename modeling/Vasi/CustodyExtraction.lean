import Vasi.CustodyContent
import Mathlib.Tactic.NormNum

/-!
# What the extractor accepts

Byte for byte the extractor is one machine, and a chunk takes it where its bytes take it one
after the other. How the content is cut therefore makes no difference, and it is enough to
follow the machine over the magic and from entry to entry.
-/
namespace Vasi.BackupCustody

open JsValue Utf8 BoundedLoops

/-! ## Byte for byte -/

/-- What becomes of a buffer that has grown. -/
def settle (extractor : InnerExtractor) : Except Failure InnerExtractor :=
  if extractor.buffer.length < required extractor.state then .ok extractor
  else if extractor.state = .magic then
    if extractor.buffer ≠ INNER_MAGIC then
      .error (.error (js "The authenticated custody content magic is unsupported."))
    else .ok { extractor with buffer := [], state := .header }
  else startEntry extractor

/-- One byte is taken. -/
def push (extractor : InnerExtractor) (byte : Byte) : Except Failure InnerExtractor :=
  if extractor.state.Gathers then settle { extractor with buffer := extractor.buffer ++ [byte] }
  else if extractor.state = .body then writeBody extractor [byte]
  else .error (.error (js "The authenticated custody content contains trailing data."))

/-- Between two bytes a buffer that is gathered is not full, and a body that is written has
a file, lacks a byte and leaves the buffer empty. -/
structure InnerExtractor.Sound (extractor : InnerExtractor) : Prop where
  gathers : extractor.state.Gathers → extractor.buffer.length < required extractor.state
  writes : extractor.state = .body →
    0 < extractor.remaining ∧ extractor.handle.isSome = true ∧ extractor.buffer = []

theorem start_sound (directory : Directory) : (InnerExtractor.start directory).Sound where
  gathers _ := by simp [InnerExtractor.start, required, INNER_MAGIC]
  writes := nofun

theorem settle_short {extractor : InnerExtractor}
    (short : extractor.buffer.length < required extractor.state) :
    settle extractor = .ok extractor := if_pos short

/-- The bytes up to the length of a magic or header are gathered in the buffer. -/
theorem foldlM_gather {extractor : InnerExtractor} (gathers : extractor.state.Gathers)
    (short : extractor.buffer.length < required extractor.state) {bytes : Bytes}
    (fits : extractor.buffer.length + bytes.length ≤ required extractor.state) :
    bytes.foldlM push extractor =
      settle { extractor with buffer := extractor.buffer ++ bytes } := by
  induction bytes generalizing extractor with
  | nil =>
      rw [List.append_nil]
      exact (settle_short short).symm
  | cons byte rest inductionHypothesis =>
      rw [List.length_cons] at fits
      have first : push extractor byte =
          settle { extractor with buffer := extractor.buffer ++ [byte] } := if_pos gathers
      rw [List.foldlM_cons, first]
      cases rest with
      | nil =>
          generalize settle _ = result
          cases result <;> rfl
      | cons next more =>
          rw [List.length_cons] at fits
          have shorter : (extractor.buffer ++ [byte]).length < required extractor.state := by
            rw [List.length_append, List.length_singleton]
            omega
          rw [settle_short shorter]
          have within : (extractor.buffer ++ [byte]).length + (next :: more).length ≤
              required extractor.state := by
            simp only [List.length_append, List.length_cons, List.length_nil]
            omega
          refine (@inductionHypothesis { extractor with buffer := extractor.buffer ++ [byte] }
            gathers shorter within).trans ?_
          rw [List.append_assoc, List.singleton_append]

theorem writeAll_nil (directory : Directory) (name : JsString) :
    writeAll directory name [] = directory := by
  unfold writeAll
  conv_rhs => rw [← List.map_id directory]
  refine List.map_congr_left fun file _ => ?_
  split
  · rw [List.append_nil]
    rfl
  · rfl

theorem writeAll_append (directory : Directory) (name : JsString) (first second : Bytes) :
    writeAll (writeAll directory name first) name second =
      writeAll directory name (first ++ second) := by
  unfold writeAll
  rw [List.map_map]
  refine List.map_congr_left fun file _ => ?_
  by_cases same : file.1 = name
  · simp only [Function.comp_apply, if_pos same, List.append_assoc]
  · simp only [Function.comp_apply, if_neg same]

/-- Bytes that do not end the body are added to its file. -/
theorem writeBody_short {extractor : InnerExtractor} {name : JsString}
    (opened : extractor.handle = some name) {bytes : Bytes}
    (short : bytes.length < extractor.remaining) :
    writeBody extractor bytes = .ok { extractor with
      directory := writeAll extractor.directory name bytes
      remaining := extractor.remaining - bytes.length } := by
  unfold writeBody
  rw [opened]
  dsimp only
  rw [if_neg (by omega)]

/-- The bytes of a body are written to its file. -/
theorem foldlM_write {extractor : InnerExtractor} {name : JsString}
    (writing : extractor.state = .body) (opened : extractor.handle = some name) {bytes : Bytes}
    (lacks : 0 < extractor.remaining) (fits : bytes.length ≤ extractor.remaining) :
    bytes.foldlM push extractor = writeBody extractor bytes := by
  induction bytes generalizing extractor with
  | nil =>
      have nothing : ([] : Bytes).length < extractor.remaining := lacks
      rw [writeBody_short opened nothing, writeAll_nil]
      rfl
  | cons byte rest inductionHypothesis =>
      rw [List.length_cons] at fits
      have first : push extractor byte = writeBody extractor [byte] := by
        rw [push, if_neg (by simp [writing, State.Gathers]), if_pos writing]
      rw [List.foldlM_cons, first]
      cases rest with
      | nil =>
          generalize writeBody _ _ = result
          cases result <;> rfl
      | cons next more =>
          rw [List.length_cons] at fits
          have lacking : [byte].length < extractor.remaining := by
            rw [List.length_singleton]
            omega
          rw [writeBody_short opened lacking]
          have left : (next :: more).length ≤ extractor.remaining - [byte].length := by
            rw [List.length_cons, List.length_singleton]
            omega
          refine (@inductionHypothesis { extractor with
            directory := writeAll extractor.directory name [byte]
            remaining := extractor.remaining - [byte].length } writing opened
              (lt_of_lt_of_le (Nat.succ_pos _) left) left).trans ?_
          have count : extractor.remaining - [byte].length - (next :: more).length =
              extractor.remaining - (byte :: next :: more).length := by
            simp only [List.length_cons, List.length_nil]
            omega
          unfold writeBody
          rw [opened]
          dsimp only
          rw [writeAll_append, List.singleton_append, count]

/-! ## The start of an entry -/

theorem definitionAt_mem {index : ℤ} {definition : FileDefinition}
    (defined : definitionAt index = some definition) : definition ∈ FILES := by
  unfold definitionAt at defined
  split at defined
  · cases defined
  · exact List.mem_of_getElem? defined

theorem FILES_limits : ∀ definition ∈ FILES,
    0 < definition.minimumBytes ∧ definition.maximumBytes < 2 ^ 52 := by
  simp [FILES]

/-- The conversion of a length leaves it in its limits or outside of them. -/
theorem size_within {length minimum maximum : ℕ} (exact : maximum < 2 ^ 52) :
    ¬((JsNumber.finite (Binary64.round length)).isSafeInteger = false ∨
        Binary64.round length < minimum ∨ Binary64.round length > maximum) ↔
      minimum ≤ length ∧ length ≤ maximum := by
  by_cases small : length < 2 ^ 53
  · have same : Binary64.round (length : ℚ) = length := by
      have bound : |(length : ℤ)| < 2 ^ 53 := by
        rw [abs_of_nonneg (by positivity)]
        exact_mod_cast small
      exact_mod_cast Binary64.round_intCast (length : ℤ) bound
    have safe : (JsNumber.finite (length : ℚ)).isSafeInteger = true := by
      simp only [JsNumber.isSafeInteger, JsNumber.toRat?, Rat.den_natCast, BEq.rfl, Bool.true_and,
        Rat.num_natCast, Int.natAbs_natCast]
      exact decide_eq_true (by omega)
    rw [same, safe]
    push Not
    simp only [ne_eq, Bool.true_eq_false, not_false_eq_true, true_and]
    norm_cast
  · have large := Binary64.round_large (not_lt.mp small)
    refine iff_of_false (fun accepted => ?_) (by omega)
    push Not at accepted
    have most : (maximum : ℚ) < 2 ^ 52 := by exact_mod_cast exact
    linarith [accepted.2.2]

theorem round_num {length maximum : ℕ} (exact : maximum < 2 ^ 52) (within : length ≤ maximum) :
    (Binary64.round length).num.toNat = length := by
  have bound : |(length : ℤ)| < 2 ^ 53 := by
    rw [abs_of_nonneg (by positivity)]
    have small : length < 2 ^ 53 := by omega
    exact_mod_cast small
  have same : Binary64.round (length : ℚ) = length := by
    exact_mod_cast Binary64.round_intCast (length : ℤ) bound
  rw [same]
  simp

/-- An entry is started by the code of the next file and a length within its limits. -/
theorem startEntry_iff {extractor opened : InnerExtractor} :
    startEntry extractor = .ok opened ↔
      ∃ definition, definitionAt (extractor.entryIndex + 1) = some definition ∧
        extractor.buffer.head? = some definition.code ∧
        definition.minimumBytes ≤ readBigUInt64BE (extractor.buffer.drop 1) ∧
        readBigUInt64BE (extractor.buffer.drop 1) ≤ definition.maximumBytes ∧
        definition.name ∉ extractor.directory.map Prod.fst ∧
        opened = { extractor with
          directory := extractor.directory ++ [(definition.name, [])]
          entryIndex := extractor.entryIndex + 1
          remaining := readBigUInt64BE (extractor.buffer.drop 1)
          state := .body
          buffer := []
          handle := some definition.name } := by
  unfold startEntry openExclusive
  dsimp only
  cases defined : definitionAt (extractor.entryIndex + 1) with
  | none => exact iff_of_false nofun (by rintro ⟨definition, found, -⟩; cases found)
  | some definition =>
      have limit := (FILES_limits definition (definitionAt_mem defined)).2
      dsimp only
      by_cases code : extractor.buffer.head? = some definition.code
      · rw [if_neg (not_not.mpr code)]
        by_cases within : definition.minimumBytes ≤ readBigUInt64BE (extractor.buffer.drop 1) ∧
            readBigUInt64BE (extractor.buffer.drop 1) ≤ definition.maximumBytes
        · rw [if_neg ((size_within limit).mpr within), round_num limit within.2]
          by_cases taken : definition.name ∈ extractor.directory.map Prod.fst
          · rw [if_pos taken]
            refine iff_of_false nofun ?_
            rintro ⟨_, found, -, -, -, free, -⟩
            obtain rfl := Option.some.inj found
            exact free taken
          · rw [if_neg taken]
            constructor
            · intro started
              obtain rfl := Except.ok.inj started
              exact ⟨definition, rfl, code, within.1, within.2, taken, rfl⟩
            · rintro ⟨_, found, -, -, -, -, rfl⟩
              obtain rfl := Option.some.inj found
              rfl
        · rw [if_pos (not_not.mp (mt (size_within limit).mp within))]
          refine iff_of_false nofun ?_
          rintro ⟨_, found, -, least, most, -⟩
          obtain rfl := Option.some.inj found
          exact within ⟨least, most⟩
      · rw [if_pos code]
        refine iff_of_false nofun ?_
        rintro ⟨_, found, own, -⟩
        obtain rfl := Option.some.inj found
        exact code own

/-! ## Chunk for chunk -/

theorem settle_sound {extractor settled : InnerExtractor} (gathers : extractor.state.Gathers)
    (done : settle extractor = .ok settled) : settled.Sound := by
  unfold settle at done
  split at done
  · rename_i short
    obtain rfl := Except.ok.inj done
    refine ⟨fun _ => short, fun writing => ?_⟩
    rcases gathers with state | state <;>
    · rw [state] at writing
      cases writing
  · split at done
    · split at done
      · cases done
      · obtain rfl := Except.ok.inj done
        exact ⟨fun _ => by simp [required], nofun⟩
    · obtain ⟨definition, defined, -, least, -, -, rfl⟩ := startEntry_iff.mp done
      have positive := (FILES_limits definition (definitionAt_mem defined)).1
      refine ⟨fun gathers => ?_, fun _ => ⟨lt_of_lt_of_le positive least, rfl, rfl⟩⟩
      rcases gathers with state | state <;> cases state

theorem writeBody_sound {extractor written : InnerExtractor} (sound : extractor.Sound)
    (writing : extractor.state = .body) {bytes : Bytes}
    (done : writeBody extractor bytes = .ok written) : written.Sound := by
  obtain ⟨-, opened, empty⟩ := sound.writes writing
  obtain ⟨name, opened⟩ := Option.isSome_iff_exists.mp opened
  unfold writeBody at done
  rw [opened] at done
  obtain rfl := Except.ok.inj done
  by_cases whole : extractor.remaining - bytes.length = 0
  · dsimp only
    rw [if_pos whole]
    refine ⟨fun _ => ?_, fun state => ?_⟩
    · rw [empty]
      dsimp only [required]
      split <;> decide
    · dsimp only at state
      split at state <;> cases state
  · dsimp only
    rw [if_neg whole]
    exact ⟨fun gathers => absurd gathers (by simp [writing, State.Gathers]),
      fun _ => ⟨Nat.pos_of_ne_zero whole, rfl, empty⟩⟩

/-- What a pass leaves over is taken as the machine takes it, and a pass that fails fails as
the machine does. -/
def Follows (extractor : InnerExtractor) (chunk : Bytes) :
    Except Failure (InnerExtractor × Bytes) → Prop
  | .ok (next, rest) =>
      chunk.foldlM push extractor = rest.foldlM push next ∧ next.Sound ∧
        (rest.length < chunk.length ∨ chunk = [] ∧ rest = [])
  | .error failure => chunk.foldlM push extractor = .error failure

/-- What follows on the rest of a chunk follows on the chunk. -/
theorem Follows.after {extractor next : InnerExtractor} {chunk rest : Bytes}
    {result : Except Failure (InnerExtractor × Bytes)} (follows : Follows next rest result)
    (same : chunk.foldlM push extractor = rest.foldlM push next)
    (shorter : rest.length < chunk.length) : Follows extractor chunk result := by
  cases result with
  | error failure => exact same.trans follows
  | ok pair =>
      obtain ⟨goes, sound, left⟩ := follows
      refine ⟨same.trans goes, sound, .inl ?_⟩
      rcases left with less | ⟨-, none⟩
      · exact less.trans shorter
      · rw [none]
        exact lt_of_le_of_lt (Nat.zero_le _) shorter

theorem foldlM_split (extractor : InnerExtractor) (chunk : Bytes) (count : ℕ) :
    chunk.foldlM push extractor =
      (chunk.take count).foldlM push extractor >>= (chunk.drop count).foldlM push := by
  rw [← List.foldlM_append, List.take_append_drop]

theorem refuseTrailing_error {extractor : InnerExtractor} {chunk : Bytes} {failure : Failure}
    (refused : refuseTrailing extractor chunk = .error failure) :
    chunk.foldlM push extractor = .error failure := by
  unfold refuseTrailing at refused
  split at refused
  · rename_i trailing
    obtain ⟨byte, rest, rfl⟩ := List.exists_cons_of_ne_nil trailing.2
    rw [List.foldlM_cons, push, if_neg (by simp [trailing.1, State.Gathers]), if_neg (by simp [trailing.1])]
    rw [Except.error.inj refused]
    rfl
  · cases refused

theorem refuseTrailing_ok {extractor : InnerExtractor} {chunk : Bytes}
    {result : InnerExtractor × Bytes} (passed : refuseTrailing extractor chunk = .ok result) :
    result = (extractor, chunk) ∧ (extractor.state = .complete → chunk = []) := by
  unfold refuseTrailing at passed
  split at passed
  · cases passed
  · rename_i inside
    exact ⟨(Except.ok.inj passed).symm, fun complete => by
      by_contra more
      exact inside ⟨complete, more⟩⟩

/-- The end of a pass takes the bytes of the body. -/
theorem fillBody_follows {extractor : InnerExtractor} (sound : extractor.Sound)
    (filled : ¬extractor.state.Gathers) (chunk : Bytes) :
    Follows extractor chunk (fillBody extractor chunk) := by
  unfold fillBody
  by_cases writing : extractor.state = .body
  · obtain ⟨lacks, opened, -⟩ := sound.writes writing
    obtain ⟨name, opened⟩ := Option.isSome_iff_exists.mp opened
    rw [if_pos writing]
    have taken : (chunk.take (min extractor.remaining chunk.length)).foldlM push extractor =
        writeBody extractor (chunk.take (min extractor.remaining chunk.length)) := by
      refine foldlM_write writing opened lacks ?_
      rw [List.length_take]
      omega
    have whole := foldlM_split extractor chunk
      (min extractor.remaining chunk.length)
    rw [taken] at whole
    cases written : writeBody extractor (chunk.take (min extractor.remaining chunk.length)) with
    | error failure =>
        rw [written] at whole
        exact whole
    | ok next =>
        rw [written] at whole
        have nextSound := writeBody_sound sound writing written
        change Follows extractor chunk
          (refuseTrailing next (chunk.drop (min extractor.remaining chunk.length)))
        cases passed : refuseTrailing next
            (chunk.drop (min extractor.remaining chunk.length)) with
        | error failure => exact whole.trans (refuseTrailing_error passed)
        | ok result =>
            obtain ⟨rfl, -⟩ := refuseTrailing_ok passed
            refine ⟨whole, nextSound, ?_⟩
            rw [List.length_drop]
            cases chunk with
            | nil => exact .inr ⟨rfl, List.drop_nil⟩
            | cons byte rest =>
                rw [List.length_cons]
                exact .inl (by omega)
  · have complete : extractor.state = .complete := by
      cases state : extractor.state with
      | magic => exact absurd (.inl state) filled
      | header => exact absurd (.inr state) filled
      | body => exact absurd state writing
      | complete => rfl
    rw [if_neg writing]
    cases passed : refuseTrailing extractor chunk with
    | error failure => exact refuseTrailing_error passed
    | ok result =>
        obtain ⟨rfl, nothing⟩ := refuseTrailing_ok passed
        exact ⟨rfl, sound, .inr ⟨nothing complete, nothing complete⟩⟩

theorem required_gap {extractor : InnerExtractor} (sound : extractor.Sound)
    (gathers : extractor.state.Gathers) :
    0 < required extractor.state - extractor.buffer.length :=
  Nat.sub_pos_of_lt (sound.gathers gathers)

/-- A pass over a chunk takes its bytes as the machine does. -/
theorem pass_follows {extractor : InnerExtractor} (sound : extractor.Sound) {chunk : Bytes}
    (some : chunk ≠ []) : Follows extractor chunk (pass extractor chunk) := by
  unfold pass
  by_cases gathers : extractor.state.Gathers
  · have gap := required_gap sound gathers
    have counted : 0 < chunk.length := List.length_pos_iff.mpr some
    rw [if_pos gathers]
    dsimp only
    generalize amount : min (required extractor.state - extractor.buffer.length) chunk.length =
      take
    have taken : (chunk.take take).foldlM push extractor =
        settle { extractor with buffer := extractor.buffer ++ chunk.take take } := by
      refine foldlM_gather gathers (sound.gathers gathers) ?_
      rw [List.length_take]
      omega
    have whole := foldlM_split extractor chunk take
    have shorter : (chunk.drop take).length < chunk.length := by
      rw [List.length_drop]
      omega
    rw [taken] at whole
    have settled : ∀ {next}, settle { extractor with buffer := extractor.buffer ++ chunk.take take }
        = .ok next → Follows extractor chunk (.ok (next, chunk.drop take)) := by
      intro next done
      rw [done] at whole
      exact ⟨whole, settle_sound (by exact gathers) done, .inl shorter⟩
    by_cases short : (extractor.buffer ++ chunk.take take).length < required extractor.state
    · rw [if_pos short]
      exact settled (settle_short short)
    · rw [if_neg short]
      by_cases magic : extractor.state = .magic
      · rw [if_pos magic]
        by_cases own : extractor.buffer ++ chunk.take take = INNER_MAGIC
        · rw [if_neg (not_not.mpr own)]
          refine settled ?_
          rw [settle, if_neg short, if_pos (by exact magic), if_neg (not_not.mpr own)]
        · rw [if_pos own]
          rw [settle, if_neg short, if_pos (by exact magic), if_pos own] at whole
          exact whole
      · rw [if_neg magic]
        have started : settle { extractor with buffer := extractor.buffer ++ chunk.take take } =
            startEntry { extractor with buffer := extractor.buffer ++ chunk.take take } := by
          rw [settle, if_neg short, if_neg (by exact magic)]
        rw [← started]
        cases done : settle { extractor with buffer := extractor.buffer ++ chunk.take take } with
        | error failure =>
            rw [done] at whole
            exact whole
        | ok opened =>
            rw [done] at whole
            have openedSound := settle_sound (by exact gathers) done
            rw [started] at done
            have body : ¬opened.state.Gathers := by
              obtain ⟨definition, -, -, -, -, -, rfl⟩ := startEntry_iff.mp done
              simp [State.Gathers]
            exact (fillBody_follows openedSound body (chunk.drop take)).after whole shorter
  · rw [if_neg gathers]
    exact fillBody_follows sound gathers chunk

/-- A chunk takes the extractor where its bytes take the machine, and its loop ends. -/
theorem feed_eq {extractor : InnerExtractor} (sound : extractor.Sound) (chunk : Bytes) :
    feed extractor chunk = some (chunk.foldlM push extractor) ∧
      ∀ fed, chunk.foldlM push extractor = .ok fed → fed.Sound := by
  have loops : ∀ allowed, chunk.length < allowed →
      within feedRound allowed (extractor, chunk) = some (chunk.foldlM push extractor) ∧
        ∀ fed, chunk.foldlM push extractor = .ok fed → fed.Sound := by
    generalize size : chunk.length = length
    induction length using Nat.strong_induction_on generalizing extractor chunk with
    | h length inductionHypothesis =>
        rintro (_ | allowed) enough
        · exact absurd enough (Nat.not_lt_zero _)
        by_cases none : chunk = []
        · rw [within, feedRound, if_pos none, none]
          refine ⟨rfl, fun fed done => ?_⟩
          rw [← Except.ok.inj done]
          exact sound
        · have follows := pass_follows sound none
          rw [within, feedRound, if_neg none]
          dsimp only
          cases passed : pass extractor chunk with
          | error failure =>
              rw [passed] at follows
              have failed : chunk.foldlM push extractor = .error failure := follows
              rw [failed]
              refine ⟨rfl, fun fed done => ?_⟩
              cases done
          | ok next =>
              rw [passed] at follows
              obtain ⟨next, rest⟩ := next
              obtain ⟨goes, nextSound, less | ⟨empty, -⟩⟩ := follows
              · rw [goes]
                exact inductionHypothesis rest.length (by omega) nextSound rest rfl allowed
                  (by omega)
              · exact absurd empty none
  exact loops (chunk.length + 1) (Nat.lt_succ_self _)

/-- The bytes alone decide, however they are cut into chunks. -/
theorem extractChunks_eq {extractor : InnerExtractor} (sound : extractor.Sound)
    (chunks : List Bytes) : extractChunks extractor chunks =
      some (chunks.flatten.foldlM push extractor >>= finish) := by
  induction chunks generalizing extractor with
  | nil => rfl
  | cons chunk rest inductionHypothesis =>
      obtain ⟨fed, kept⟩ := feed_eq sound chunk
      rw [extractChunks, fed, List.flatten_cons, List.foldlM_append]
      cases done : chunk.foldlM push extractor with
      | error failure => rfl
      | ok next => exact inductionHypothesis (kept next done)

/-! ## The format -/

/-- The bytes of an entry: its code, its length in eight bytes, and so many bytes of
content. The length lies within the limits of the entry. -/
structure IsEntry (definition : FileDefinition) (content bytes : Bytes) : Prop where
  least : definition.minimumBytes ≤ content.length
  most : content.length ≤ definition.maximumBytes
  layout : ∃ size : Bytes, size.length = 8 ∧ readBigUInt64BE size = content.length ∧
    bytes = definition.code :: (size ++ content)

/-- Entry after entry, in the order of the definitions, and nothing after the last. -/
inductive Entries : List FileDefinition → List Bytes → Bytes → Prop
  | nil : Entries [] [] []
  | cons {definition : FileDefinition} {definitions : List FileDefinition} {content : Bytes}
      {contents : List Bytes} {entry rest : Bytes} (first : IsEntry definition content entry)
      (others : Entries definitions contents rest) :
      Entries (definition :: definitions) (content :: contents) (entry ++ rest)

/-- The machine takes the bytes and is finished with the files. -/
def Finishes (extractor : InnerExtractor) (bytes : Bytes) (files : Directory) : Prop :=
  (bytes.foldlM push extractor >>= finish) = .ok files

/-- The extractor before the entry of an index, complete after the last. -/
def boundary (index : ℕ) (directory : Directory) : InnerExtractor where
  directory := directory
  entryIndex := index - 1
  remaining := 0
  state := if index = FILES.length then .complete else .header
  buffer := []
  handle := none

/-- An extractor that is not complete is not finished. -/
theorem finishes_incomplete {extractor : InnerExtractor} (incomplete : extractor.state ≠ .complete)
    (files : Directory) : ¬Finishes extractor [] files := by
  intro finishes
  change finish extractor = .ok files at finishes
  rw [finish, if_pos (.inl incomplete)] at finishes
  cases finishes

theorem finishes_append {extractor : InnerExtractor} {first second : Bytes} {files : Directory} :
    Finishes extractor (first ++ second) files ↔
      ∃ next, first.foldlM push extractor = .ok next ∧ Finishes next second files := by
  unfold Finishes
  rw [List.foldlM_append]
  cases first.foldlM push extractor with
  | error failure => exact iff_of_false nofun (by rintro ⟨_, done, -⟩; cases done)
  | ok next =>
      constructor
      · exact fun finishes => ⟨next, rfl, finishes⟩
      · rintro ⟨_, done, finishes⟩
        rw [← Except.ok.inj done] at finishes
        exact finishes

/-- Nothing stands after the last entry. -/
theorem finishes_complete {directory files : Directory} {bytes : Bytes} :
    Finishes (boundary FILES.length directory) bytes files ↔ bytes = [] ∧ files = directory := by
  have complete : (boundary FILES.length directory).state = .complete := by simp [boundary]
  constructor
  · intro finishes
    cases bytes with
    | nil => exact ⟨rfl, (Except.ok.inj finishes).symm⟩
    | cons byte rest =>
        unfold Finishes at finishes
        rw [List.foldlM_cons, push, if_neg (by simp [complete, State.Gathers]),
          if_neg (by simp [complete])] at finishes
        cases finishes
  · rintro ⟨rfl, rfl⟩
    rfl

/-- A magic or header that is not gathered to its end is not finished. -/
theorem finishes_short {extractor : InnerExtractor} (gathers : extractor.state.Gathers)
    (empty : extractor.buffer = []) {bytes : Bytes}
    (short : bytes.length < required extractor.state) (files : Directory) : ¬Finishes extractor bytes files := by
  have started : extractor.buffer.length < required extractor.state := by
    rw [empty]
    exact lt_of_le_of_lt (Nat.zero_le _) short
  have gathered : (extractor.buffer ++ bytes).length < required extractor.state := by
    rw [empty]
    exact short
  intro finishes
  rw [← List.append_nil bytes, finishes_append, foldlM_gather gathers started
    (by rw [empty]; simpa using short.le), settle_short gathered] at finishes
  obtain ⟨next, done, finishes⟩ := finishes
  obtain rfl := Except.ok.inj done
  refine finishes_incomplete (fun complete => ?_) files finishes
  rcases gathers with state | state <;>
  · rw [state] at complete
    cases complete

/-! ## One entry -/

/-- The extractor in the body of an entry, with all of its bytes to come. -/
def opening (index : ℕ) (definition : FileDefinition) (directory : Directory) (length : ℕ) :
    InnerExtractor where
  directory := directory ++ [(definition.name, [])]
  entryIndex := (index : ℤ) - 1 + 1
  remaining := length
  state := .body
  buffer := []
  handle := some definition.name

section entry

variable {index : ℕ} {definition : FileDefinition} (defined : FILES[index]? = some definition)
include defined

theorem definitionAt_index : definitionAt ((index : ℤ) - 1 + 1) = some definition := by
  rw [sub_add_cancel, definitionAt, if_neg (by omega), Int.toNat_natCast, defined]

theorem boundary_header (directory : Directory) : (boundary index directory).state = .header := by
  obtain ⟨inside, -⟩ := List.getElem?_eq_some_iff.mp defined
  exact if_neg inside.ne

/-- Nine bytes at the boundary start an entry or fail. -/
theorem foldlM_header {directory : Directory} {header : Bytes} (nine : header.length = 9)
    {opened : InnerExtractor} :
    header.foldlM push (boundary index directory) = .ok opened ↔
      header.head? = some definition.code ∧
        definition.minimumBytes ≤ readBigUInt64BE (header.drop 1) ∧
        readBigUInt64BE (header.drop 1) ≤ definition.maximumBytes ∧
        definition.name ∉ directory.map Prod.fst ∧
        opened = opening index definition directory (readBigUInt64BE (header.drop 1)) := by
  have state := boundary_header defined directory
  have length : required (boundary index directory).state = 9 := by
    rw [state]
    rfl
  have gathered : header.foldlM push (boundary index directory) =
      startEntry { boundary index directory with buffer := header } := by
    rw [foldlM_gather (.inr state) (by rw [length]; exact Nat.succ_pos _)
      (by rw [length, ← nine]; exact (Nat.zero_add _).le)]
    change settle { boundary index directory with buffer := header } = _
    rw [settle, if_neg (by exact (nine.trans length.symm).not_lt), if_neg (by simp [state])]
  rw [gathered, startEntry_iff]
  constructor
  · rintro ⟨own, found, code, least, most, free, rfl⟩
    obtain rfl := Option.some.inj ((definitionAt_index defined).symm.trans found)
    exact ⟨code, least, most, free, rfl⟩
  · rintro ⟨code, least, most, free, rfl⟩
    exact ⟨definition, definitionAt_index defined, code, least, most, free, rfl⟩

/-- The bytes of the body lead to the next boundary, and the file has them. -/
theorem foldlM_body {directory : Directory} {content : Bytes} (some : 0 < content.length)
    (free : definition.name ∉ directory.map Prod.fst) :
    content.foldlM push (opening index definition directory content.length) =
      .ok (boundary (index + 1) (directory ++ [(definition.name, content)])) := by
  obtain ⟨inside, -⟩ := List.getElem?_eq_some_iff.mp defined
  have written : writeAll (directory ++ [(definition.name, [])]) definition.name content =
      directory ++ [(definition.name, content)] := by
    have others : writeAll directory definition.name content = directory := by
      conv_rhs => rw [← List.map_id directory]
      refine List.map_congr_left fun file listed => if_neg fun same => ?_
      exact free (same ▸ List.mem_map_of_mem listed)
    unfold writeAll at others ⊢
    rw [List.map_append, others, List.map_singleton, if_pos rfl, List.nil_append]
  have last : ((index : ℤ) - 1 + 1 = FILES.length - 1) ↔ index + 1 = FILES.length := by omega
  rw [foldlM_write rfl rfl some le_rfl]
  simp only [writeBody, opening, boundary, written, Nat.sub_self, if_true, last]
  congr 2
  push_cast
  ring

/-- The content from an entry on is an entry and the content after it. -/
theorem finishes_entry {directory files : Directory} {bytes : Bytes} :
    Finishes (boundary index directory) bytes files ↔
      definition.name ∉ directory.map Prod.fst ∧
        ∃ content entry rest, bytes = entry ++ rest ∧ IsEntry definition content entry ∧
          Finishes (boundary (index + 1) (directory ++ [(definition.name, content)])) rest
            files := by
  have state := boundary_header defined directory
  have positive := (FILES_limits definition (List.mem_of_getElem? defined)).1
  constructor
  · intro finishes
    by_cases short : bytes.length < 9
    · exact absurd finishes (finishes_short (.inr state) rfl (by rw [state]; exact short) files)
    have nine : (bytes.take 9).length = 9 := List.length_take_of_le (not_lt.mp short)
    rw [← List.take_append_drop 9 bytes, finishes_append] at finishes
    obtain ⟨opened, started, finishes⟩ := finishes
    obtain ⟨code, least, most, free, rfl⟩ := (foldlM_header defined nine).mp started
    generalize sized : readBigUInt64BE ((bytes.take 9).drop 1) = length at *
    have enough : length ≤ (bytes.drop 9).length := by
      by_contra few
      rw [not_le] at few
      rw [← List.append_nil (bytes.drop 9), finishes_append,
        foldlM_write rfl rfl (lt_of_lt_of_le positive least) few.le,
        writeBody_short rfl few] at finishes
      obtain ⟨next, done, finishes⟩ := finishes
      obtain rfl := Except.ok.inj done
      exact finishes_incomplete (by simp [opening]) files finishes
    have exactly : ((bytes.drop 9).take length).length = length := List.length_take_of_le enough
    rw [← List.take_append_drop length (bytes.drop 9), finishes_append] at finishes
    obtain ⟨next, done, finishes⟩ := finishes
    have body : ((bytes.drop 9).take length).foldlM push
        (opening index definition directory ((bytes.drop 9).take length).length) =
          .ok (boundary (index + 1) (directory ++
            [(definition.name, (bytes.drop 9).take length)])) :=
      foldlM_body defined (by rw [exactly]; exact lt_of_lt_of_le positive least) free
    rw [exactly, done] at body
    obtain rfl := Except.ok.inj body
    obtain ⟨first, others, header⟩ := List.exists_cons_of_ne_nil
      (show bytes.take 9 ≠ [] from List.ne_nil_of_length_pos (by omega))
    rw [header] at code sized nine
    refine ⟨free, (bytes.drop 9).take length, bytes.take 9 ++ (bytes.drop 9).take length,
      (bytes.drop 9).drop length, by simp, ⟨by rw [exactly]; exact least,
        by rw [exactly]; exact most, others, Nat.succ.inj nine, by rw [exactly]; exact sized, ?_⟩,
      finishes⟩
    rw [header, ← Option.some.inj code, List.cons_append]
  · rintro ⟨free, content, entry, rest, rfl, ⟨least, most, size, eight, sized, rfl⟩, finishes⟩
    have shape : definition.code :: (size ++ content) ++ rest =
        (definition.code :: size) ++ (content ++ rest) := by simp
    have started : (definition.code :: size).foldlM push (boundary index directory) =
        .ok (opening index definition directory content.length) := by
      refine (foldlM_header defined (by rw [List.length_cons, eight])).mpr ?_
      rw [List.drop_one, List.tail_cons, sized]
      exact ⟨rfl, least, most, free, rfl⟩
    rw [shape, finishes_append]
    refine ⟨_, started, finishes_append.mpr ⟨_, ?_, finishes⟩⟩
    exact foldlM_body defined (lt_of_lt_of_le positive least) free

end entry

/-! ## The whole content -/

/-- The files that the entries are extracted to. -/
def extracted (definitions : List FileDefinition) (contents : List Bytes) : Directory :=
  (definitions.map FileDefinition.name).zip contents

theorem FILES_names : (FILES.map FileDefinition.name).Nodup := by decide

/-- From any boundary on, what is finished is a sequence of the entries to come. -/
theorem finishes_entries {index : ℕ} {definitions : List FileDefinition}
    (later : FILES.drop index = definitions) (inside : index ≤ FILES.length)
    {directory files : Directory} {bytes : Bytes}
    (free : ∀ definition ∈ definitions, definition.name ∉ directory.map Prod.fst) :
    Finishes (boundary index directory) bytes files ↔
      ∃ contents, Entries definitions contents bytes ∧
        files = directory ++ extracted definitions contents := by
  induction definitions generalizing index directory bytes with
  | nil =>
      have last : index = FILES.length :=
        le_antisymm inside (List.drop_eq_nil_iff.mp later)
      rw [last, finishes_complete]
      constructor
      · rintro ⟨rfl, rfl⟩
        exact ⟨[], .nil, (List.append_nil _).symm⟩
      · rintro ⟨contents, entries, rfl⟩
        cases entries
        exact ⟨rfl, List.append_nil _⟩
  | cons definition rest inductionHypothesis =>
      have before : index < FILES.length := by
        by_contra outside
        rw [List.drop_of_length_le (not_lt.mp outside)] at later
        cases later
      obtain ⟨head, tail⟩ := List.cons.inj ((List.drop_eq_getElem_cons before).symm.trans later)
      have defined : FILES[index]? = some definition := by
        rw [List.getElem?_eq_getElem before, head]
      rw [List.forall_mem_cons] at free
      have names : ∀ other ∈ rest, definition.name ≠ other.name := by
        have distinct := (List.Sublist.map FileDefinition.name
          (List.drop_sublist index FILES)).nodup FILES_names
        rw [later, List.map_cons, List.nodup_cons] at distinct
        exact fun other listed same => distinct.1 (same ▸ List.mem_map_of_mem listed)
      have next (content : Bytes) : ∀ other ∈ rest,
          other.name ∉ (directory ++ [(definition.name, content)]).map Prod.fst := by
        intro other listed
        rw [List.map_append, List.mem_append, not_or, List.map_singleton, List.mem_singleton]
        exact ⟨free.2 other listed, (names other listed).symm⟩
      have shape (content : Bytes) (contents : List Bytes) :
          directory ++ [(definition.name, content)] ++ extracted rest contents =
            directory ++ extracted (definition :: rest) (content :: contents) := by
        simp [extracted]
      rw [finishes_entry defined, and_iff_right free.1]
      constructor
      · rintro ⟨content, entry, others, rfl, first, finishes⟩
        obtain ⟨contents, entries, rfl⟩ :=
          (inductionHypothesis tail before (next content)).mp finishes
        exact ⟨content :: contents, .cons first entries, shape content contents⟩
      · rintro ⟨_, entries, rfl⟩
        cases entries with
        | cons first entries =>
            rename_i content contents entry others
            exact ⟨content, entry, others, rfl, first,
              (inductionHypothesis tail before (next content)).mpr
                ⟨contents, entries, (shape content contents).symm⟩⟩

/-- The bytes are the magic and the three entries. -/
def IsContent (contents : List Bytes) (bytes : Bytes) : Prop :=
  ∃ entries, Entries FILES contents entries ∧ bytes = INNER_MAGIC ++ entries

/-- Eight bytes at the start are the magic or fail. -/
theorem foldlM_magic {directory : Directory} {magic : Bytes} (eight : magic.length = 8) :
    magic.foldlM push (.start directory) =
      if magic ≠ INNER_MAGIC then
        .error (.error (js "The authenticated custody content magic is unsupported."))
      else .ok (boundary 0 directory) := by
  have full : ¬magic.length < required .magic := by
    rw [eight]
    decide
  have gathered : magic.foldlM push (.start directory) =
      settle { InnerExtractor.start directory with buffer := [] ++ magic } :=
    foldlM_gather (.inl rfl) ((start_sound directory).gathers (.inl rfl))
      (by
        rw [eight]
        exact le_of_eq rfl)
  rw [gathered, List.nil_append]
  unfold settle
  dsimp only
  rw [if_neg (by exact full), if_pos (by rfl)]
  rfl

theorem finishes_start {directory files : Directory} {bytes : Bytes}
    (free : ∀ definition ∈ FILES, definition.name ∉ directory.map Prod.fst) :
    Finishes (.start directory) bytes files ↔
      ∃ contents, IsContent contents bytes ∧ files = directory ++ extracted FILES contents := by
  constructor
  · intro finishes
    by_cases short : bytes.length < 8
    · exact absurd finishes (finishes_short (.inl rfl) rfl short files)
    have eight : (bytes.take 8).length = 8 := List.length_take_of_le (not_lt.mp short)
    rw [← List.take_append_drop 8 bytes, finishes_append, foldlM_magic eight] at finishes
    obtain ⟨next, done, finishes⟩ := finishes
    split at done
    · cases done
    · rename_i own
      obtain rfl := Except.ok.inj done
      obtain ⟨contents, entries, rfl⟩ := (finishes_entries rfl (Nat.zero_le _) free).mp finishes
      exact ⟨contents, ⟨_, entries, by rw [← not_not.mp own, List.take_append_drop]⟩, rfl⟩
  · rintro ⟨contents, ⟨entries, listed, rfl⟩, rfl⟩
    rw [finishes_append, foldlM_magic rfl, if_neg (not_not.mpr rfl)]
    exact ⟨_, rfl, (finishes_entries rfl (Nat.zero_le _) free).mpr ⟨contents, listed, rfl⟩⟩

/-- The extraction into a directory without these files succeeds exactly for the magic and
the three entries, however they are cut into chunks, and each file gets the content of its
entry. -/
theorem extract_iff {directory : Directory}
    (free : ∀ definition ∈ FILES, definition.name ∉ directory.map Prod.fst)
    (chunks : List Bytes) (files : Directory) :
    extract directory chunks = some (.ok files) ↔
      ∃ contents, IsContent contents chunks.flatten ∧
        files = directory ++ extracted FILES contents := by
  rw [extract, extractChunks_eq (start_sound directory), Option.some.injEq]
  exact finishes_start free

/-- A small content, with a chunk that ends within a header. -/
theorem extract_small :
    extract [] [INNER_MAGIC ++ [1, 0, 0], [0, 0, 0, 0, 0, 2, 123, 125, 2, 0, 0, 0, 0, 0, 0, 0, 1],
        [7, 3], [0, 0, 0, 0, 0, 0, 0, 1, 9]] =
      some (.ok [(js "manifest.json", [123, 125]), (js "VASI.settings", [7]),
        (js "postgresql.dump", [9])]) := by
  refine (extract_iff (by simp) _ _).mpr ⟨[[123, 125], [7], [9]], ⟨_, ?_, rfl⟩, rfl⟩
  have entry (definition : FileDefinition) (content : Bytes) (low : Byte)
      (least : definition.minimumBytes ≤ content.length)
      (most : content.length ≤ definition.maximumBytes) (length : low.val = content.length) :
      IsEntry definition content
        (definition.code :: ([0, 0, 0, 0, 0, 0, 0, low] ++ content)) :=
    ⟨least, most, [0, 0, 0, 0, 0, 0, 0, low], rfl, by simpa [readBigUInt64BE] using length, rfl⟩
  exact .cons (entry _ _ 2 (by decide) (by decide) rfl)
    (.cons (entry _ _ 1 (by decide) (by decide) rfl)
      (.cons (entry _ _ 1 (by decide) (by decide) rfl) .nil))

end Vasi.BackupCustody
