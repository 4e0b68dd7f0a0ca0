import Vasi.AdminAudit

/-!
# The audit chain is complete and sound

The rows of a run form an intact chain, so the verifier accepts them in every
order of reading, up to the largest safe sequence. A list of rows that it
accepts under the head of a run is intact too and ends in the same digest; from
there the two chains agree backwards, row by row.

Hashing takes the UTF-8 bytes of a text, which do not tell a lone surrogate from
a replacement character. The rows an attacker may present are therefore those
whose payload is well-formed, as PostgreSQL returns it.
-/
namespace Vasi.AdminAudit

open JsValue JsonText CanonicalJson HashChain

section
variable {platform : Platform}

/-! ## Rounding sequences -/

/-- The sequence that a bigint column reads as. -/
theorem round_sequence {sequence : ℕ} (safe : sequence < 2 ^ 53) :
    Binary64.round (sequence : ℚ) = sequence := by
  have exact := Binary64.round_intCast (sequence : ℤ) (by rw [abs_of_nonneg] <;> omega)
  exact_mod_cast exact

/-- A sequence beyond the safe ones does not read as a safe one. -/
theorem round_large {sequence : ℕ} (large : 2 ^ 53 ≤ sequence) :
    2 ^ 53 ≤ Binary64.round (sequence : ℚ) := by
  have positive : (0 : ℚ) < sequence := by
    have whole : 0 < sequence := lt_of_lt_of_le (by norm_num) large
    exact_mod_cast whole
  have exponent : (53 : ℤ) ≤ Int.log 2 |(sequence : ℚ)| := by
    rw [abs_of_pos positive]
    refine (Int.zpow_le_iff_le_log (by norm_num) positive).mp ?_
    exact_mod_cast large
  have bit : Binary64.lastBit (sequence : ℚ) = Int.log 2 |(sequence : ℚ)| - 52 := by
    unfold Binary64.lastBit
    omega
  have unit : (0 : ℚ) < 2 ^ Binary64.lastBit (sequence : ℚ) := zpow_pos (by norm_num) _
  have below : (2 : ℚ) ^ (52 : ℕ) ≤ sequence / 2 ^ Binary64.lastBit (sequence : ℚ) := by
    rw [le_div_iff₀ unit, bit, ← zpow_natCast, ← zpow_add₀ (by norm_num)]
    have least := Int.zpow_log_le_self (b := 2) (by norm_num) (abs_pos.mpr positive.ne')
    rw [abs_of_pos positive] at least
    simpa [abs_of_pos positive] using least
  have rounded : (2 : ℤ) ^ 52 ≤
      Binary64.roundHalfEven (sequence / 2 ^ Binary64.lastBit (sequence : ℚ)) := by
    have floor : (2 : ℤ) ^ 52 ≤ ⌊(sequence : ℚ) / 2 ^ Binary64.lastBit (sequence : ℚ)⌋ := by
      rw [Int.le_floor]
      exact_mod_cast below
    unfold Binary64.roundHalfEven
    dsimp only
    split_ifs <;> omega
  have last : (2 : ℚ) ^ (1 : ℤ) ≤ 2 ^ Binary64.lastBit (sequence : ℚ) := by
    refine zpow_le_zpow_right₀ (by norm_num) ?_
    rw [bit]
    omega
  have significand : (2 : ℚ) ^ 52 ≤
      Binary64.roundHalfEven (sequence / 2 ^ Binary64.lastBit (sequence : ℚ)) := by
    exact_mod_cast rounded
  calc (2 : ℚ) ^ 53 = 2 ^ 52 * 2 ^ (1 : ℤ) := by norm_num
    _ ≤ (Binary64.roundHalfEven (sequence / 2 ^ Binary64.lastBit (sequence : ℚ)) : ℚ) *
        2 ^ Binary64.lastBit (sequence : ℚ) := by gcongr
    _ = Binary64.round (sequence : ℚ) := rfl

/-! ## The verifier's loop as an intact chain -/

/-- A row as a link of the chain. -/
def link (row : AuditChainRow) : Link AuditChainRow JsString :=
  ⟨(row.sequence.toRat?.getD 0).num.toNat, row.previousHash, row, row.eventHash⟩

/-- What the loop checks of one row besides its place and reference. -/
structure Checked (platform : Platform) (link : Link AuditChainRow JsString) : Prop where
  sequence : link.body.sequence = .finite link.sequence
  safe : link.sequence < 2 ^ 53
  digest : link.digest =
    platform.sha256Hex (Utf8.encode (link.previous ++ link.body.canonicalPayload))
  matched : semanticMatch platform link.body = true

theorem isSafeAtLeast_finite (sequence least : ℕ) :
    isSafeAtLeast (.finite sequence) least = true ↔ sequence < 2 ^ 53 ∧ least ≤ sequence := by
  rw [isSafeAtLeast, Bool.and_eq_true]
  refine and_congr ?_ ?_
  · have safe : JsNumber.isSafeInteger (.finite (sequence : ℚ)) = true ↔
        sequence ≤ 2 ^ 53 - 1 := by
      simp only [JsNumber.isSafeInteger, JsNumber.toRat?, Rat.den_natCast, Rat.num_natCast,
        beq_self_eq_true, Bool.true_and, Int.natAbs_natCast]
      exact decide_eq_true_iff
    rw [safe]
    omega
  · rw [decide_eq_true_iff]
    simp [JsNumber.toRat?]

theorem rowFailure_none (previous : JsString) (before : ℕ) (row : AuditChainRow) :
    rowFailure platform previous (before + 1) row = none ↔
      (link row).sequence = before + 1 ∧ (link row).previous = previous ∧
        Checked platform (link row) := by
  unfold rowFailure
  constructor
  · intro passed
    split_ifs at passed with within gap reference digest payload
    rw [not_not] at gap reference digest
    have place : (link row).sequence = before + 1 := by
      rw [link, gap]
      simp [JsNumber.toRat?]
      exact_mod_cast Int.toNat_natCast (before + 1)
    rw [gap] at within
    have safe := ((isSafeAtLeast_finite (before + 1) 1).mp (by exact_mod_cast within)).1
    refine ⟨place, reference, ⟨?_, by rw [place]; exact safe, ?_, payload⟩⟩
    · rw [place]
      exact gap
    · rw [show (link row).previous = previous from reference]
      exact digest
  · rintro ⟨place, reference, checked⟩
    have sequence : row.sequence = .finite (before + 1 : ℕ) := by
      rw [← place]
      exact checked.sequence
    have safe : isSafeAtLeast row.sequence 1 = true := by
      rw [sequence]
      have bound := checked.safe
      rw [place] at bound
      exact_mod_cast (isSafeAtLeast_finite (before + 1) 1).mpr ⟨bound, by omega⟩
    have digest : row.eventHash =
        platform.sha256Hex (Utf8.encode (previous ++ row.canonicalPayload)) := by
      rw [← reference]
      exact checked.digest
    rw [if_neg (not_not.mpr safe), if_neg (not_not.mpr sequence),
      if_neg (not_not.mpr (show row.previousHash = previous from reference)),
      if_neg (not_not.mpr digest), if_neg (not_not.mpr (show semanticMatch platform row = true from checked.matched))]

/-- The loop finds no failure exactly in an intact chain of checked rows. -/
theorem firstRowFailure_none (previous : JsString) (before : ℕ) (rows : List AuditChainRow) :
    firstRowFailure platform previous (before + 1) rows = none ↔
      Intact (Checked platform) before previous (rows.map link) := by
  induction rows generalizing previous before with
  | nil => simp [firstRowFailure, Intact]
  | cons row rows inductionHypothesis =>
      rw [firstRowFailure, Option.or_eq_none_iff, rowFailure_none, inductionHypothesis,
        List.map_cons, Intact]
      constructor
      · rintro ⟨⟨place, reference, checked⟩, rest⟩
        exact ⟨place, reference, checked, place ▸ rest⟩
      · rintro ⟨place, reference, checked, rest⟩
        exact ⟨⟨place, reference, checked⟩, place ▸ rest⟩

/-! ## The verifier's answer -/

/-- Places in an intact chain count up to its last link. -/
theorem last_place {Body Digest : Type} {sound : Link Body Digest → Prop} {sequence : ℕ}
    {previous : Digest} {links : List (Link Body Digest)} {last : Link Body Digest}
    (intact : Intact sound sequence previous (links ++ [last])) :
    last.sequence = sequence + (links ++ [last]).length := by
  rw [((intact_append sound sequence previous links last).mp intact).2.1, List.length_append]
  rfl

/-- The verifier accepts an intact chain of checked rows whose head agrees. -/
theorem verify_valid (rows : List AuditChainRow) (head : Head) :
    (verifyAdminAuditChain platform rows head).valid = true ↔
      Intact (Checked platform) 0 ADMIN_AUDIT_GENESIS_HASH ((ordered rows).map link) ∧
        isSafeAtLeast head.lastSequence 0 = true ∧
        head.lastSequence.toRat? = some ((ordered rows).length : ℚ) ∧
        head.lastHash = lastDigest ADMIN_AUDIT_GENESIS_HASH ((ordered rows).map link) := by
  unfold verifyAdminAuditChain
  simp only [Option.isNone_iff_eq_none, Option.or_eq_none_iff]
  have loop := @firstRowFailure_none platform ADMIN_AUDIT_GENESIS_HASH 0 (ordered rows)
  rw [Nat.zero_add] at loop
  rw [loop]
  refine and_congr_right fun intact => ?_
  rcases List.eq_nil_or_concat (ordered rows) with none | ⟨rest, last, some⟩
  · rw [none]
    simp only [List.getLast?_nil, Option.map_none, Option.getD_none, List.map_nil, lastDigest,
      List.length_nil, ite_eq_left_iff, reduceCtorEq, imp_false, not_not, Bool.and_eq_true,
      and_assoc]
    exact and_congr_right fun _ => and_congr decide_eq_true_iff decide_eq_true_iff
  · rw [List.concat_eq_append] at some
    rw [some, List.map_append, List.map_singleton] at intact
    have checked := intact_sound intact (link last) (by simp)
    have place := last_place intact
    rw [Nat.zero_add, List.length_append, List.length_map] at place
    have sequence : last.sequence = .finite ((rest ++ [last]).length : ℕ) := by
      rw [show last.sequence = .finite (link last).sequence from checked.sequence, place,
        List.length_append]
      rfl
    have safe : isSafeAtLeast last.sequence 0 = true := by
      rw [sequence]
      have bound := checked.safe
      rw [place] at bound
      exact_mod_cast (isSafeAtLeast_finite (rest ++ [last]).length 0).mpr
        ⟨by simpa using bound, by omega⟩
    rw [some, List.map_append, List.map_singleton, lastDigest_append, List.getLast?_concat]
    simp only [safe, if_true, Option.map_some, Option.getD_some, ite_eq_left_iff,
      reduceCtorEq, imp_false, not_not, Bool.and_eq_true, and_assoc]
    rw [sequence]
    exact and_congr_right fun _ => and_congr decide_eq_true_iff decide_eq_true_iff

/-- No list of unsafe length is accepted. -/
theorem verify_bounded {rows : List AuditChainRow} {head : Head}
    (valid : (verifyAdminAuditChain platform rows head).valid = true) :
    rows.length < 2 ^ 53 := by
  obtain ⟨intact, _⟩ := (verify_valid rows head).mp valid
  have size : (ordered rows).length = rows.length := List.length_insertionSort _ _
  rw [← size]
  rcases List.eq_nil_or_concat (ordered rows) with none | ⟨rest, last, some⟩
  · rw [none]
    norm_num
  · rw [List.concat_eq_append] at some
    rw [some, List.map_append, List.map_singleton] at intact
    have safe := (intact_sound intact (link last) (by simp)).safe
    have place := last_place intact
    rw [Nat.zero_add, List.length_append, List.length_map] at place
    rw [some, List.length_append]
    rw [place] at safe
    exact safe

/-! ## Rows of a run -/

theorem safeInteger_double {value : ℚ} (safe : JsNumber.isSafeInteger (.finite value) = true) :
    IsDouble value := by
  simp only [JsNumber.isSafeInteger, JsNumber.toRat?, Bool.and_eq_true, beq_iff_eq,
    decide_eq_true_eq] at safe
  obtain ⟨whole, small⟩ := safe
  have bound : value.num.natAbs ≤ 2 ^ 53 - 1 := by simpa using small
  have integer : (value.num : ℚ) = value := Rat.coe_int_num_of_den_eq_one whole
  have magnitude : |value.num| < 2 ^ 53 := by
    rw [Int.abs_eq_natAbs]
    omega
  rw [← integer]
  refine ⟨Binary64.round_intCast value.num magnitude, ?_⟩
  calc |(value.num : ℚ)| < 2 ^ 53 := by exact_mod_cast magnitude
    _ ≤ 2 ^ 1024 := by gcongr <;> norm_num

/-- Inspected metadata holds doubles only. -/
theorem inspectMetadata_doubles (value : Value) :
    ∀ depth, inspectMetadata depth value = true → Doubles value := by
  induction value using Value.induction
    (fun items => ∀ depth, inspectItems depth items = true → DoublesItems items)
    (fun members => ∀ depth, inspectMembers depth members = true → DoublesMembers members)
  case undefined => exact fun _ _ => trivial
  case null => exact fun _ _ => trivial
  case bool value => exact fun _ _ => trivial
  case number value =>
    intro depth passed
    rw [inspectMetadata, Bool.and_eq_true] at passed
    cases value with
    | finite value => exact safeInteger_double passed.2
    | negativeZero => trivial
    | infinite negative => trivial
    | nan => trivial
  case string value => exact fun _ _ => trivial
  case array items inductionHypothesis =>
    intro depth passed
    rw [inspectMetadata, Bool.and_eq_true] at passed
    exact inductionHypothesis (depth + 1) passed.2
  case object members inductionHypothesis =>
    intro depth passed
    rw [inspectMetadata, Bool.and_eq_true] at passed
    exact inductionHypothesis (depth + 1) passed.2
  case noItem => trivial
  case item head rest first others depth passed =>
    rw [inspectItems, Bool.and_eq_true] at passed
    exact ⟨first depth passed.1, others depth passed.2⟩
  case noMember => trivial
  case member key value rest first others depth passed =>
    rw [inspectMembers, Bool.and_eq_true, Bool.and_eq_true] at passed
    exact ⟨first depth passed.1.2, others depth passed.2⟩

/-- Normalised metadata is a JSON object. -/
theorem normalizeAdminAuditMetadata_json {value normalized : Value} (formed : WellFormed value)
    (accepted : normalizeAdminAuditMetadata value = some normalized) :
    Json normalized ∧ ∃ members, normalized = .object members := by
  cases value with
  | object members =>
      rw [normalizeAdminAuditMetadata] at accepted
      obtain ⟨_, inspected, accepted⟩ := Option.bind_eq_some_iff.mp accepted
      obtain ⟨encoded, written, accepted⟩ := Option.bind_eq_some_iff.mp accepted
      obtain ⟨_, _, read⟩ := Option.bind_eq_some_iff.mp accepted
      have passed : inspectMetadata 0 (.object members) = true := by
        by_contra refused
        rw [guard, if_neg refused] at inspected
        cases inspected
      have doubles := inspectMetadata_doubles _ 0 passed
      have round := parse_stringify_readBack formed doubles rfl
      rw [written, Option.bind_some, read, Option.some.injEq] at round
      exact ⟨round ▸ json_readBack _ formed doubles rfl, _, round⟩
  | _ => cases accepted

/-- A stored row as a link of the chain. -/
def storedLink (row : StoredRow) : Link StoredRow JsString :=
  ⟨row.sequence, row.previousHash, row, row.eventHash⟩

/-- What the trigger writes into a row. -/
structure Written (platform : Platform) (link : Link StoredRow JsString) : Prop where
  payload : link.body.canonicalPayload = platform.jsonbText (payloadOf platform link.body)
  digest : link.digest =
    platform.sha256Hex (Utf8.encode (link.previous ++ link.body.canonicalPayload))
  metadata : Json link.body.metadata ∧ ∃ members, link.body.metadata = .object members

/-- The head names the last row, and the rows form an intact chain. -/
structure Chained (platform : Platform) (store : Store) : Prop where
  sequence : store.lastSequence = store.rows.length
  last : store.lastHash = lastDigest ADMIN_AUDIT_GENESIS_HASH (store.rows.map storedLink)
  intact : Intact (Written platform) 0 ADMIN_AUDIT_GENESIS_HASH (store.rows.map storedLink)

theorem chained_empty : Chained platform Store.empty := ⟨rfl, rfl, trivial⟩

/-- One call appends one sound row, or nothing. -/
theorem writeAdminAudit_chained {call : AuditCall} {store after : Store}
    (chained : Chained platform store)
    (written : writeAdminAudit platform call store = some after) : Chained platform after := by
  unfold writeAdminAudit at written
  obtain ⟨metadata, normalized, written⟩ := Option.bind_eq_some_iff.mp written
  obtain ⟨action, _, written⟩ := Option.bind_eq_some_iff.mp written
  obtain ⟨commandId, _, written⟩ := Option.bind_eq_some_iff.mp written
  obtain ⟨requestId, _, written⟩ := Option.bind_eq_some_iff.mp written
  obtain ⟨_, _, written⟩ := Option.bind_eq_some_iff.mp written
  cases written
  have formed : WellFormed
      (if call.metadata.isUndefined then .object [] else call.metadata) := by
    split_ifs
    · exact ⟨List.nodup_nil, trivial⟩
    · exact call.formed
  have json := normalizeAdminAuditMetadata_json formed normalized
  constructor
  · rw [List.length_append, ← chained.sequence]
    rfl
  · rw [List.map_append, List.map_singleton, lastDigest_append]
    rfl
  · rw [List.map_append, List.map_singleton, intact_append]
    refine ⟨chained.intact, ?_, chained.last, ⟨rfl, rfl, json⟩⟩
    rw [List.length_map, Nat.zero_add, ← chained.sequence]
    rfl

/-- Every sequence of calls leaves an intact chain under its head. -/
theorem run_chained (calls : List AuditCall) : Chained platform (run platform calls) := by
  have each : ∀ (calls : List AuditCall) (store : Store), Chained platform store →
      Chained platform (calls.foldl
        (fun store call => (writeAdminAudit platform call store).getD store) store) := by
    intro calls
    induction calls with
    | nil => exact fun _ chained => chained
    | cons call calls inductionHypothesis =>
        intro store chained
        refine inductionHypothesis _ ?_
        change Chained platform ((writeAdminAudit platform call store).getD store)
        cases written : writeAdminAudit platform call store with
        | none => exact chained
        | some after => exact writeAdminAudit_chained chained written
  exact each calls Store.empty chained_empty

/-! ## Payloads -/

/-- The payload of a written row is a JSON value. -/
theorem payload_json {row : StoredRow} (metadata : Json row.metadata) :
    Json (payloadOf platform row) := by
  have nullable_json : ∀ text, Json (nullable text) := by
    intro text
    cases text <;> exact trivial
  refine ⟨?_, rfl, trivial, nullable_json _, nullable_json _, trivial, trivial, trivial,
    nullable_json _, metadata, trivial, trivial, nullable_json _, nullable_json _, trivial⟩
  simp only [List.map_cons, List.map_nil]
  decide

theorem nullable_readBack (order : Members → Members) (text : Option JsString) :
    readBack order (nullable text) = nullable text := by
  cases text <;> rfl

theorem sameText_string (own text : JsString) : sameText (.string own) text = true ↔ text = own := by
  simp [sameText, eq_comm]

theorem sameNullable_nullable (own text : Option JsString) :
    sameNullable (nullable own) text = true ↔ text = own := by
  cases own <;> cases text <;> simp [nullable, sameNullable, sameText, eq_comm]

theorem phase_text {left right : Phase} (same : left.text = right.text) : left = right := by
  cases left <;> cases right <;> first | rfl | (revert same; decide)

/-- A presented row that repeats a stored row, metadata compared as JSON text
with sorted keys. -/
structure Repeats (platform : Platform) (row : AuditChainRow) (stored : StoredRow) : Prop where
  action : row.action = stored.action
  actorSessionId : row.actorSessionId = stored.actorSessionId
  actorUserId : row.actorUserId = stored.actorUserId
  commandId : row.commandId = stored.commandId
  createdAt : row.createdAt = some ((stored.createdAt / 1000 : ℕ) : ℤ)
  id : row.id = stored.id
  ipAddress : row.ipAddress = stored.ipAddress
  metadata : semanticJSON (readBack platform.order stored.metadata) =
    semanticJSON (presentMetadata row)
  phase : row.phase = stored.phase
  requestId : row.requestId = stored.requestId
  targetUserId : row.targetUserId = stored.targetUserId
  userAgent : row.userAgent = stored.userAgent

/-- A row that presents the payload of a written row passes the comparison
exactly when it repeats that row. -/
theorem semanticMatch_iff {row : AuditChainRow} {stored : StoredRow}
    (metadata : Json stored.metadata)
    (payload : row.canonicalPayload = platform.jsonbText (payloadOf platform stored)) :
    semanticMatch platform row = true ↔ Repeats platform row stored := by
  have json : Json (payloadOf platform stored) := payload_json metadata
  have read := platform.parse_jsonbText _ json
  have formed : ∀ key value, (key, value) ∈ [(js "action", Value.string stored.action),
      (js "actorSessionId", nullable stored.actorSessionId),
      (js "actorUserId", nullable stored.actorUserId),
      (js "commandId", .string stored.commandId),
      (js "createdAt", .string (platform.timestampText stored.createdAt)),
      (js "id", .string stored.id),
      (js "ipAddress", nullable stored.ipAddress),
      (js "metadata", stored.metadata),
      (js "phase", .string stored.phase.text),
      (js "requestId", .string stored.requestId),
      (js "targetUserId", nullable stored.targetUserId),
      (js "userAgent", nullable stored.userAgent)] → value.isUndefined = false →
      (readBack platform.order (payloadOf platform stored)).get key =
        readBack platform.order value := by
    intro key value member defined
    exact get_readBack platform.order platform.rearranges _ key value
      (json_formed _ json).1 member defined
  have nullableDefined : ∀ text, (nullable text).isUndefined = false := by
    intro text
    cases text <;> rfl
  have metadataDefined : stored.metadata.isUndefined = false := by
    cases content : stored.metadata with
    | undefined =>
        rw [content] at metadata
        exact metadata.elim
    | _ => rfl
  have truthy : (readBack platform.order (payloadOf platform stored)).truthy = true := rfl
  unfold semanticMatch
  rw [payload, read, Option.getD_some]
  simp only [truthy, Bool.true_and, Bool.and_eq_true, decide_eq_true_eq,
    formed (js "action") (.string stored.action) (by simp) rfl,
    formed (js "actorSessionId") (nullable stored.actorSessionId) (by simp) (nullableDefined _),
    formed (js "actorUserId") (nullable stored.actorUserId) (by simp) (nullableDefined _),
    formed (js "commandId") (.string stored.commandId) (by simp) rfl,
    formed (js "createdAt") (.string (platform.timestampText stored.createdAt)) (by simp) rfl,
    formed (js "id") (.string stored.id) (by simp) rfl,
    formed (js "ipAddress") (nullable stored.ipAddress) (by simp) (nullableDefined _),
    formed (js "metadata") stored.metadata (by simp) metadataDefined,
    formed (js "phase") (.string stored.phase.text) (by simp) rfl,
    formed (js "requestId") (.string stored.requestId) (by simp) rfl,
    formed (js "targetUserId") (nullable stored.targetUserId) (by simp) (nullableDefined _),
    formed (js "userAgent") (nullable stored.userAgent) (by simp) (nullableDefined _), nullable_readBack]
  simp only [readBack, sameText_string, sameNullable_nullable, platform.dateTime_timestamp,
    Option.isSome_some, true_and]
  constructor
  · rintro ⟨⟨⟨⟨⟨⟨⟨⟨⟨⟨⟨id, action⟩, session⟩, actor⟩, command⟩, address⟩, phase⟩, request⟩,
      target⟩, agent⟩, time⟩, same⟩
    exact ⟨action, session, actor, command, time.symm, id, address, same, phase_text phase,
      request, target, agent⟩
  · intro repeats
    exact ⟨⟨⟨⟨⟨⟨⟨⟨⟨⟨⟨repeats.id, repeats.action⟩, repeats.actorSessionId⟩,
      repeats.actorUserId⟩, repeats.commandId⟩, repeats.ipAddress⟩, by rw [repeats.phase]⟩,
      repeats.requestId⟩, repeats.targetUserId⟩, repeats.userAgent⟩, repeats.createdAt.symm⟩,
      repeats.metadata⟩

/-! ## Completeness -/

/-- Places in an intact chain are consecutive. -/
theorem intact_places {Body Digest : Type} {sound : Link Body Digest → Prop} {sequence : ℕ}
    {previous : Digest} {links : List (Link Body Digest)}
    (intact : Intact sound sequence previous links) :
    links.map Link.sequence = List.range' (sequence + 1) links.length := by
  induction links generalizing sequence previous with
  | nil => rfl
  | cons first rest inductionHypothesis =>
      obtain ⟨place, -, -, tail⟩ := intact
      rw [List.map_cons, inductionHypothesis tail, place, List.length_cons, List.range'_succ]

theorem read_sequence {row : StoredRow} (safe : row.sequence < 2 ^ 53) :
    (readRow platform row).sequence = .finite row.sequence ∧
      (link (readRow platform row)).sequence = row.sequence := by
  have exact : (readRow platform row).sequence = .finite row.sequence := by
    rw [readRow, round_sequence safe]
  refine ⟨exact, ?_⟩
  rw [link, exact]
  exact Int.toNat_natCast row.sequence

theorem readRow_repeats {row : StoredRow} (metadata : ∃ members, row.metadata = .object members) :
    Repeats platform (readRow platform row) row := by
  obtain ⟨members, object⟩ := metadata
  have present : presentMetadata (readRow platform row) =
      readBack platform.order row.metadata := by
    unfold presentMetadata readRow
    rw [object]
    rfl
  constructor <;> first | rfl | exact (congrArg semanticJSON present).symm

/-- The rows that are read back are checked, as long as their sequences are safe. -/
theorem readable_intact {rows : List StoredRow} {before : ℕ} {previous : JsString}
    (intact : Intact (Written platform) before previous (rows.map storedLink))
    (safe : before + rows.length < 2 ^ 53) :
    Intact (Checked platform) before previous ((rows.map (readRow platform)).map link) := by
  induction rows generalizing before previous with
  | nil => trivial
  | cons row rows inductionHypothesis =>
      obtain ⟨place, reference, written, tail⟩ := intact
      rw [List.length_cons] at safe
      have bound : row.sequence < 2 ^ 53 := by
        rw [show row.sequence = before + 1 from place]
        omega
      obtain ⟨number, sequence⟩ := @read_sequence platform _ bound
      refine ⟨sequence.trans place, reference, ⟨by rw [sequence]; exact number,
        by rw [sequence]; exact bound, written.digest, ?_⟩, ?_⟩
      · exact (semanticMatch_iff written.metadata.1 written.payload).mpr
          (readRow_repeats written.metadata.2)
      · rw [sequence]
        refine inductionHypothesis tail ?_
        have here : row.sequence = before + 1 := place
        omega

instance : Std.Total sequenceOrder := ⟨fun _ _ => le_total _ _⟩

instance : IsTrans AuditChainRow sequenceOrder := ⟨fun _ _ _ => le_trans⟩

/-- Sorting any arrangement of the rows of a run restores their order. -/
theorem ordered_run {stored : List StoredRow} {rows : List AuditChainRow}
    (intact : Intact (Written platform) 0 ADMIN_AUDIT_GENESIS_HASH (stored.map storedLink))
    (safe : stored.length < 2 ^ 53) (same : rows.Perm (stored.map (readRow platform))) :
    ordered rows = stored.map (readRow platform) := by
  have places := intact_places intact
  rw [List.map_map, List.length_map, Nat.zero_add] at places
  have places : stored.map StoredRow.sequence = List.range' 1 stored.length := places
  have bound : ∀ row ∈ stored, row.sequence < 2 ^ 53 := by
    intro row member
    have inside : row.sequence ∈ List.range' 1 stored.length :=
      places ▸ List.mem_map_of_mem member
    rw [List.mem_range'_1] at inside
    omega
  have number : ∀ row ∈ stored, (readRow platform row).sequence.toRat?.getD 0 = row.sequence := by
    intro row member
    rw [(read_sequence (bound row member)).1]
    rfl
  refine ((List.perm_insertionSort _ rows).trans same).eq_of_pairwise ?_
    (List.pairwise_insertionSort sequenceOrder rows) ?_
  · intro first second inFirst inSecond below above
    have inside := same.mem_iff.mp ((List.perm_insertionSort _ rows).mem_iff.mp inFirst)
    obtain ⟨left, leftStored, rfl⟩ := List.mem_map.mp inside
    obtain ⟨right, rightStored, rfl⟩ := List.mem_map.mp inSecond
    have equal := le_antisymm below above
    rw [number left leftStored, number right rightStored] at equal
    have distinct : (stored.map StoredRow.sequence).Nodup := places ▸ List.nodup_range'
    rw [List.inj_on_of_nodup_map distinct leftStored rightStored (by exact_mod_cast equal)]
  · have increasing : stored.Pairwise fun left right => left.sequence < right.sequence := by
      rw [← List.pairwise_map (f := StoredRow.sequence), places]
      exact List.pairwise_lt_range'
    rw [List.pairwise_map]
    refine increasing.imp_of_mem fun {left right} inLeft inRight less => ?_
    change _ ≤ _
    rw [number left inLeft, number right inRight]
    exact_mod_cast less.le

/-- The rows of a run pass in every order, up to the largest safe sequence. -/
theorem run_verifies (calls : List AuditCall) (rows : List AuditChainRow)
    (same : rows.Perm ((run platform calls).rows.map (readRow platform))) :
    (verifyAdminAuditChain platform rows (readHead (run platform calls))).valid = true ↔
      (run platform calls).rows.length < 2 ^ 53 := by
  have chained := @run_chained platform calls
  constructor
  · intro valid
    have bound := verify_bounded valid
    rwa [same.length_eq, List.length_map] at bound
  · intro safe
    have sorted := ordered_run chained.intact safe same
    have sequence : (readHead (run platform calls)).lastSequence =
        .finite ((run platform calls).rows.length : ℚ) := by
      rw [readHead, chained.sequence, round_sequence safe]
    rw [verify_valid, sorted]
    refine ⟨readable_intact chained.intact (by omega), ?_, ?_, ?_⟩
    · rw [sequence]
      exact_mod_cast (isSafeAtLeast_finite _ 0).mpr ⟨safe, Nat.zero_le _⟩
    · rw [sequence, List.length_map]
      rfl
    · rw [show (readHead (run platform calls)).lastHash = (run platform calls).lastHash from rfl,
        chained.last]
      have digests : ∀ (stored : List StoredRow) (previous : JsString),
          lastDigest previous (stored.map storedLink) =
            lastDigest previous ((stored.map (readRow platform)).map link) := by
        intro stored
        induction stored with
        | nil => exact fun _ => rfl
        | cons row stored inductionHypothesis => exact fun _ => inductionHypothesis row.eventHash
      exact digests _ _

/-! ## Soundness -/

theorem sortMembers_keys (members : Members) :
    (sortMembers members).map Prod.fst = members.map Prod.fst := by
  induction members with
  | nil => rfl
  | cons entry members inductionHypothesis => simp [sortMembers, inductionHypothesis]

/-- Sorted members make a JSON value of whatever order they came in. -/
theorem sortValue_json (value : Value) : Carried value → Json (sortValue value) := by
  induction value using Value.induction
    (fun items => CarriedItems items → JsonItems (sortItems items))
    (fun members => CarriedMembers members → JsonMembers (sortMembers members))
  case undefined => exact False.elim
  case null => exact fun _ => trivial
  case bool value => exact fun _ => trivial
  case number value =>
    intro carried
    cases value with
    | finite value => exact carried
    | negativeZero => exact carried.elim
    | infinite negative => exact carried.elim
    | nan => exact carried.elim
  case string value => exact fun _ => trivial
  case array items inductionHypothesis => exact inductionHypothesis
  case object members inductionHypothesis =>
    rintro ⟨distinct, carried⟩
    have each := inductionHypothesis carried
    have same := (propertyOrder_perm ((sortMembers members).insertionSort keyOrder)).trans
      (List.perm_insertionSort keyOrder (sortMembers members))
    refine ⟨(same.map Prod.fst).nodup_iff.mpr ?_, propertyOrder_idem _, ?_⟩
    · rwa [sortMembers_keys]
    · rw [jsonMembers_iff] at each ⊢
      exact fun entry member => each entry (same.mem_iff.mp member)
  case noItem => exact trivial
  case item head rest first others carried => exact ⟨first carried.1, others carried.2⟩
  case noMember => exact trivial
  case member key value rest first others carried =>
    exact ⟨first carried.1, others carried.2⟩

/-- Values with the same sorted text are equal once sorted. -/
theorem semanticJSON_injective {left right : Value} (first : Carried left)
    (second : Carried right) (same : semanticJSON left = semanticJSON right) :
    sortValue left = sortValue right := by
  have parsed := parse_stringify (sortValue_json left first)
  rw [show stringify (sortValue left) = stringify (sortValue right) from same,
    parse_stringify (sortValue_json right second)] at parsed
  exact (Option.some.inj parsed).symm

/-- The presented row is the row of the run: all columns, with the metadata
equal as JSON up to the order of members. -/
structure SameRow (row honest : AuditChainRow) : Prop where
  action : row.action = honest.action
  actorSessionId : row.actorSessionId = honest.actorSessionId
  actorUserId : row.actorUserId = honest.actorUserId
  canonicalPayload : row.canonicalPayload = honest.canonicalPayload
  commandId : row.commandId = honest.commandId
  createdAt : row.createdAt = honest.createdAt
  eventHash : row.eventHash = honest.eventHash
  id : row.id = honest.id
  ipAddress : row.ipAddress = honest.ipAddress
  metadataText : semanticJSON (presentMetadata row) = semanticJSON honest.metadata
  metadata : Carried (presentMetadata row) →
    sortValue (presentMetadata row) = sortValue honest.metadata
  phase : row.phase = honest.phase
  previousHash : row.previousHash = honest.previousHash
  requestId : row.requestId = honest.requestId
  sequence : row.sequence = honest.sequence
  targetUserId : row.targetUserId = honest.targetUserId
  userAgent : row.userAgent = honest.userAgent

/-- The bytes that a row's digest is taken of. -/
def hashedBytes (row : AuditChainRow) : List Utf8.Byte :=
  Utf8.encode (row.previousHash ++ row.canonicalPayload)

/-- No two different inputs of the two lists have one digest. -/
def NoCollision (platform : Platform) (rows honest : List AuditChainRow) : Prop :=
  ∀ row ∈ rows, ∀ other ∈ honest,
    platform.sha256Hex (hashedBytes row) = platform.sha256Hex (hashedBytes other) →
      hashedBytes row = hashedBytes other

/-- A digest or the genesis value: sixty-four printable characters. -/
def DigestText (text : JsString) : Prop := text.length = 64 ∧ ∀ unit ∈ text, Printable unit

theorem digestText_genesis : DigestText ADMIN_AUDIT_GENESIS_HASH := by
  refine ⟨List.length_replicate, fun unit member => ?_⟩
  rw [List.eq_of_mem_replicate member]
  decide

theorem digestText_sha256Hex (bytes : List Utf8.Byte) : DigestText (platform.sha256Hex bytes) :=
  ⟨platform.sha256Hex_length bytes, platform.sha256Hex_printable bytes⟩

/-- Equal hashed bytes split into equal references and equal payloads. -/
theorem hashed_split {previous previous' payload payload' : JsString}
    (digest : DigestText previous) (digest' : DigestText previous')
    (formed : Utf8.WellFormed payload) (formed' : Utf8.WellFormed payload')
    (same : Utf8.encode (previous ++ payload) = Utf8.encode (previous' ++ payload')) :
    previous = previous' ∧ payload = payload' := by
  have whole := wellFormed_append (wellFormed_printable digest.2) formed
  have whole' := wellFormed_append (wellFormed_printable digest'.2) formed'
  have texts : previous ++ payload = previous' ++ payload' := by
    rw [← Utf8.decode_encode _ whole, same, Utf8.decode_encode _ whole']
  exact List.append_inj texts (digest.1.trans digest'.1.symm)

/-- A relation of paired elements may use that they are listed. -/
theorem forall₂_imp_mem {α β : Type} {first second : α → β → Prop} {left : List α}
    {right : List β} (implied : ∀ one other, one ∈ left → other ∈ right → first one other →
      second one other) (related : List.Forall₂ first left right) :
    List.Forall₂ second left right := by
  induction related with
  | nil => exact .nil
  | cons same _ inductionHypothesis =>
      exact .cons (implied _ _ List.mem_cons_self List.mem_cons_self same)
        (inductionHypothesis fun one other inLeft inRight =>
          implied one other (List.mem_cons_of_mem _ inLeft) (List.mem_cons_of_mem _ inRight))

/-- An accepted list repeats the run row by row. -/
theorem accepted_repeats (calls : List AuditCall) (rows : List AuditChainRow)
    (formed : ∀ row ∈ rows, Utf8.WellFormed row.canonicalPayload)
    (apart : NoCollision platform rows ((run platform calls).rows.map (readRow platform)))
    (valid : (verifyAdminAuditChain platform rows
      (readHead (run platform calls))).valid = true) :
    List.Forall₂ SameRow (ordered rows)
      ((run platform calls).rows.map (readRow platform)) := by
  have chained := @run_chained platform calls
  generalize run platform calls = store at apart valid chained ⊢
  obtain ⟨intact, safe, place, last⟩ := (verify_valid rows (readHead store)).mp valid
  have inside : ∀ row ∈ ordered rows, row ∈ rows := fun row member =>
    (List.perm_insertionSort _ rows).mem_iff.mp member
  have bounded := verify_bounded valid
  have size : (ordered rows).length = rows.length := List.length_insertionSort _ _
  have sequence : store.lastSequence < 2 ^ 53 := by
    by_contra large
    have beyond := round_large (Nat.le_of_not_lt large)
    have number : Binary64.round (store.lastSequence : ℚ) = ((ordered rows).length : ℚ) :=
      Option.some.inj place
    rw [number, size] at beyond
    exact absurd bounded (Nat.not_lt.mpr (by exact_mod_cast beyond))
  have sameLength : (ordered rows).length = store.rows.length := by
    have number : Binary64.round (store.lastSequence : ℚ) = ((ordered rows).length : ℚ) :=
      Option.some.inj place
    rw [round_sequence sequence, chained.sequence] at number
    exact_mod_cast number.symm
  have presented : ∀ row ∈ ordered rows, DigestText row.previousHash ∧
      row.eventHash = platform.sha256Hex (hashedBytes row) := by
    have digests : ∀ one ∈ (ordered rows).map link, DigestText one.digest := by
      intro one member
      rw [(intact_sound intact one member).digest]
      exact digestText_sha256Hex _
    intro row member
    have listed := List.mem_map_of_mem (f := link) member
    exact ⟨intact_previous intact digestText_genesis digests _ listed,
      (intact_sound intact _ listed).digest⟩
  have honest : ∀ row ∈ store.rows, DigestText row.previousHash ∧
      row.eventHash = platform.sha256Hex (hashedBytes (readRow platform row)) ∧
        Utf8.WellFormed row.canonicalPayload ∧ Written platform (storedLink row) := by
    have digests : ∀ one ∈ store.rows.map storedLink, DigestText one.digest := by
      intro one member
      rw [(intact_sound chained.intact one member).digest]
      exact digestText_sha256Hex _
    intro row member
    have listed := List.mem_map_of_mem (f := storedLink) member
    have written := intact_sound chained.intact _ listed
    refine ⟨intact_previous chained.intact digestText_genesis digests _ listed, written.digest,
      ?_, written⟩
    rw [show row.canonicalPayload = platform.jsonbText (payloadOf platform row) from
      written.payload]
    exact platform.jsonbText_formed _
  have split : ∀ row ∈ ordered rows, ∀ stored ∈ store.rows, row.eventHash = stored.eventHash →
      row.previousHash = stored.previousHash ∧
        row.canonicalPayload = stored.canonicalPayload := by
    intro row member stored listed same
    obtain ⟨digest, hashed⟩ := presented row member
    obtain ⟨storedDigest, storedHashed, storedFormed, _⟩ := honest stored listed
    rw [hashed, storedHashed] at same
    exact hashed_split digest storedDigest (formed row (inside row member)) storedFormed
      (apart row (inside row member) _ (List.mem_map_of_mem listed) same)
  have agree := intact_agree intact chained.intact
    (by rw [List.length_map, List.length_map, sameLength]) (by rw [← last, ← chained.last]; rfl)
    (by
      intro one member other listed same
      obtain ⟨row, rowListed, rfl⟩ := List.mem_map.mp member
      obtain ⟨stored, storedListed, rfl⟩ := List.mem_map.mp listed
      exact (split row rowListed stored storedListed same).1)
  rw [List.forall₂_map_left_iff, List.forall₂_map_right_iff] at agree
  rw [List.forall₂_map_right_iff]
  refine forall₂_imp_mem ?_ agree
  rintro row stored member listed ⟨number, reference, digest⟩
  have checked := intact_sound intact _ (List.mem_map_of_mem (f := link) member)
  obtain ⟨_, _, _, written⟩ := honest stored listed
  have payload := (split row member stored listed digest).2
  have repeats := (semanticMatch_iff written.metadata.1 (payload.trans written.payload)).mp
    checked.matched
  have bound : stored.sequence < 2 ^ 53 := by
    rw [show stored.sequence = (link row).sequence from number.symm]
    exact checked.safe
  exact
    { action := repeats.action
      actorSessionId := repeats.actorSessionId
      actorUserId := repeats.actorUserId
      canonicalPayload := payload
      commandId := repeats.commandId
      createdAt := repeats.createdAt
      eventHash := digest
      id := repeats.id
      ipAddress := repeats.ipAddress
      metadataText := repeats.metadata.symm
      metadata := fun carried => semanticJSON_injective carried
        (carried_readBack platform.rearranges _ written.metadata.1) repeats.metadata.symm
      phase := repeats.phase
      previousHash := reference
      requestId := repeats.requestId
      sequence := by
        rw [(read_sequence bound).1, ← show (link row).sequence = stored.sequence from number]
        exact checked.sequence
      targetUserId := repeats.targetUserId
      userAgent := repeats.userAgent }

/-- What the audit chain gives: the rows of a run are accepted in every order,
up to the largest safe sequence, and whatever is accepted under the run's head
repeats the run, when payloads are well-formed and digests do not collide. -/
structure AuditFaithful (platform : Platform) (calls : List AuditCall) : Prop where
  complete : ∀ rows : List AuditChainRow,
    rows.Perm ((run platform calls).rows.map (readRow platform)) →
      ((verifyAdminAuditChain platform rows (readHead (run platform calls))).valid = true ↔
        (run platform calls).rows.length < 2 ^ 53)
  sound : ∀ rows : List AuditChainRow,
    (∀ row ∈ rows, Utf8.WellFormed row.canonicalPayload) →
      NoCollision platform rows ((run platform calls).rows.map (readRow platform)) →
      (verifyAdminAuditChain platform rows (readHead (run platform calls))).valid = true →
        List.Forall₂ SameRow (ordered rows)
          ((run platform calls).rows.map (readRow platform))

theorem audit_faithful (platform : Platform) (calls : List AuditCall) :
    AuditFaithful platform calls where
  complete := run_verifies calls
  sound := accepted_repeats calls

end

/-! ## A payload with a lone surrogate -/

/-- A platform with a constant digest and unspaced jsonb text. -/
def plainPlatform : Platform where
  sha256Hex _ := List.replicate 64 48
  sha256Hex_length _ := List.length_replicate
  sha256Hex_printable _ := digestText_genesis.2
  order := propertyOrder
  rearranges := propertyOrder_perm
  jsonbText value := (stringify value).getD []
  jsonbText_formed value := by
    cases written : stringify value with
    | none => trivial
    | some text => exact wellFormed_stringify value text written
  parse_jsonbText value json := by
    have parsed := parse_stringify_readBack (json_formed value json).1 (json_formed value json).2
      (by cases value <;> first | rfl | exact json.elim)
    cases written : stringify value with
    | none => simp [written] at parsed
    | some text => simpa [written] using parsed
  timestampText time := js (Nat.repr time)
  dateTime
    | .string text => some ((digitsValue text / 1000 : ℕ) : ℤ)
    | _ => none
  dateTime_timestamp time := by simp only [digitsValue_repr]
  accepts _ _ := true

/-- A call whose user agent is a replacement character. -/
def replacementCall : AuditCall where
  id := js "a"
  now := 0
  action := js "user.set_active"
  actorSessionId := none
  actorUserId := none
  commandId := none
  ipAddress := none
  metadata := .object []
  phase := .event
  requestId := none
  targetUserId := none
  userAgent := some [0xFFFD]
  formed := ⟨List.nodup_nil, trivial⟩

/-- The row of that call with a lone surrogate in place of the character. -/
def surrogateRow : AuditChainRow :=
  let replaced (text : JsString) : JsString :=
    text.map fun unit => if unit = 0xFFFD then 0xD800 else unit
  match ((run plainPlatform [replacementCall]).rows.map (readRow plainPlatform)).head? with
  | some row =>
      { row with
        canonicalPayload := replaced row.canonicalPayload
        userAgent := row.userAgent.map replaced }
  | none => ⟨[], none, none, [], [], none, [], [], none, .null, .event, [], [], .nan, none, none⟩

/-- The verifier accepts the changed row, whose bytes are those of the honest one. -/
theorem surrogate_accepted :
    (verifyAdminAuditChain plainPlatform [surrogateRow]
        (readHead (run plainPlatform [replacementCall]))).valid = true ∧
      NoCollision plainPlatform [surrogateRow]
        ((run plainPlatform [replacementCall]).rows.map (readRow plainPlatform)) ∧
      ¬ List.Forall₂ SameRow (ordered [surrogateRow])
        ((run plainPlatform [replacementCall]).rows.map (readRow plainPlatform)) := by
  refine ⟨by decide +kernel, ?_, fun related => ?_⟩
  · have bytes : ∀ row ∈ [surrogateRow],
        ∀ other ∈ (run plainPlatform [replacementCall]).rows.map (readRow plainPlatform),
          hashedBytes row = hashedBytes other := by decide +kernel
    exact fun row member other listed _ => bytes row member other listed
  · have agents : (ordered [surrogateRow]).map AuditChainRow.userAgent =
        ((run plainPlatform [replacementCall]).rows.map (readRow plainPlatform)).map
          AuditChainRow.userAgent := by
      rw [← List.forall₂_eq_eq_eq, List.forall₂_map_left_iff, List.forall₂_map_right_iff]
      exact related.imp fun _ _ same => same.userAgent
    revert agents
    decide +kernel

end Vasi.AdminAudit
