import Vasi.AddressSpelling
import Vasi.PartialMaps
import Mathlib.Data.List.GetD

/-!
# Attribution

A trusted network is a family and the first bits of its addresses; the comparison of
bytes and masks decides exactly that. The walk over a forwarding header finds the
right-most address outside the trusted networks, which nothing further to the left can
change.
-/
namespace Vasi.ClientAddress

open JsValue Validation Utf8 PartialMaps

/-! ## Membership in a network -/

/-- The bits of a byte, the highest first. -/
def byteBits (byte : Byte) : List Bool :=
  [7, 6, 5, 4, 3, 2, 1, 0].map fun place => byte.val.testBit place

/-- The first bits of an address. -/
def leadingBits (count : ℕ) (bytes : List Byte) : List Bool := (bytes.flatMap byteBits).take count

/-- The address lies in the network: it is of the same family and starts with its bits. -/
def Within (network : TrustedNetwork) (address : ParsedAddress) : Prop :=
  network.family = address.family ∧
    leadingBits network.bits network.bytes = leadingBits network.bits address.bytes

theorem byteBits_injective {first second : Byte} (same : byteBits first = byteBits second) :
    first = second := by
  have bits : ∀ place, first.val.testBit place = second.val.testBit place := by
    intro place
    by_cases low : place < 8
    · simp only [byteBits, List.map_cons, List.map_nil, List.cons.injEq, and_true] at same
      interval_cases place <;> tauto
    · have high (byte : Byte) : byte.val.testBit place = false := by
        refine Nat.testBit_lt_two_pow ?_
        calc byte.val < 2 ^ 8 := byte.isLt
          _ ≤ 2 ^ place := Nat.pow_le_pow_right (by decide) (by omega)
      rw [high, high]
  exact Fin.ext (Nat.eq_of_testBit_eq bits)

theorem flatMap_bits_injective {first second : List Byte} (length : first.length = second.length)
    (same : first.flatMap byteBits = second.flatMap byteBits) : first = second := by
  induction first generalizing second with
  | nil => exact (List.length_eq_zero_iff.mp length.symm).symm
  | cons byte rest inductionHypothesis =>
      cases second with
      | nil => cases length
      | cons own others =>
          rw [List.flatMap_cons, List.flatMap_cons] at same
          obtain ⟨head, tail⟩ := List.append_inj same rfl
          rw [byteBits_injective head, inductionHypothesis (Nat.succ.inj length) tail]

/-- The mask keeps the first bits of a byte. -/
theorem mask_bits {first second : Byte} {count : ℕ} (some : 1 ≤ count) (few : count < 8) :
    first.val &&& ((255 <<< (8 - count)) &&& 255) =
        second.val &&& ((255 <<< (8 - count)) &&& 255) ↔
      (byteBits first).take count = (byteBits second).take count := by
  have kept (byte : Byte) (place : ℕ) :
      (byte.val &&& ((255 <<< (8 - count)) &&& 255)).testBit place =
        (byte.val.testBit place && decide (8 - count ≤ place)) := by
    have top : (255 : ℕ) = 2 ^ 8 - 1 := rfl
    by_cases low : place < 8
    · simp only [Nat.testBit_and, Nat.testBit_shiftLeft, top, Nat.testBit_two_pow_sub_one, low,
        decide_true, Bool.and_true]
      have inside : place - (8 - count) < 8 := by omega
      simp [inside]
    · have high : byte.val.testBit place = false := by
        refine Nat.testBit_lt_two_pow ?_
        calc byte.val < 2 ^ 8 := byte.isLt
          _ ≤ 2 ^ place := Nat.pow_le_pow_right (by decide) (by omega)
      rw [Nat.testBit_and, high, Bool.false_and, Bool.false_and]
  constructor
  · intro same
    have bits : ∀ place, 8 - count ≤ place →
        first.val.testBit place = second.val.testBit place := by
      intro place high
      have own := congrArg (Nat.testBit · place) same
      simpa [kept, high] using own
    interval_cases count <;> simp [byteBits, bits]
  · intro same
    refine Nat.eq_of_testBit_eq fun place => ?_
    rw [kept, kept]
    by_cases high : 8 - count ≤ place
    · by_cases low : place < 8
      · simp only [high, decide_true, Bool.and_true]
        interval_cases count <;> interval_cases place <;>
          simp_all [byteBits]
      · have outside (byte : Byte) : byte.val.testBit place = false := by
          refine Nat.testBit_lt_two_pow ?_
          calc byte.val < 2 ^ 8 := byte.isLt
            _ ≤ 2 ^ place := Nat.pow_le_pow_right (by decide) (by omega)
        rw [outside, outside]
    · simp [high]

theorem length_flatMap_bits (bytes : List Byte) :
    (bytes.flatMap byteBits).length = 8 * bytes.length := by
  rw [List.length_flatMap]
  have each : (fun byte => (byteBits byte).length) = fun _ : Byte => 8 := rfl
  rw [each, List.map_const', List.sum_replicate_nat, Nat.mul_comm]

/-- The bits of the whole bytes before a place, of the byte at it, and of those after it. -/
theorem flatMap_bits_split {place : ℕ} {bytes : List Byte} (inside : place < bytes.length) :
    bytes.flatMap byteBits = (bytes.take place).flatMap byteBits ++
      (byteBits (bytes.getD place 0) ++ (bytes.drop (place + 1)).flatMap byteBits) := by
  have parts : bytes = bytes.take place ++ bytes.getD place 0 :: bytes.drop (place + 1) := by
    rw [List.getD_eq_getElem _ _ inside, List.cons_getElem_drop_succ, List.take_append_drop]
  rw [← List.flatMap_cons, ← List.flatMap_append, ← parts]

theorem length_bits_before {place : ℕ} {bytes : List Byte} (inside : place < bytes.length) :
    ((bytes.take place).flatMap byteBits).length = 8 * place := by
  rw [length_flatMap_bits, List.length_take_of_le (Nat.le_of_lt inside)]

/-- The whole bytes and the bits of the byte after them. -/
theorem leadingBits_split (count : ℕ) {bytes : List Byte} (inside : count / 8 < bytes.length) :
    leadingBits count bytes = (bytes.take (count / 8)).flatMap byteBits ++
      (byteBits (bytes.getD (count / 8) 0)).take (count % 8) := by
  have whole := length_bits_before inside
  have short : count % 8 ≤ (byteBits (bytes.getD (count / 8) 0)).length :=
    Nat.le_of_lt (Nat.mod_lt count (by decide))
  have amount : count - 8 * (count / 8) = count % 8 := by omega
  rw [leadingBits, flatMap_bits_split inside, List.take_append, whole, amount,
    List.take_of_length_le (by rw [whole]; omega), List.take_append_of_le_length short]

theorem leadingBits_whole {count : ℕ} {bytes : List Byte} (all : count = 8 * bytes.length) :
    leadingBits count bytes = bytes.flatMap byteBits := by
  refine List.take_of_length_le ?_
  rw [length_flatMap_bits, all]

/-- A network with bytes of the width of its family and no more bits than they have. -/
structure TrustedNetwork.Normal (network : TrustedNetwork) : Prop where
  width : network.bytes.length = network.family.width
  bits : network.bits ≤ 8 * network.family.width

/-- The byte comparison finds the addresses that lie in the network. -/
theorem containsAddress_iff {network : TrustedNetwork} {address : ParsedAddress}
    (proper : network.Normal) (normal : address.Normal) :
    containsAddress network address = true ↔ Within network address := by
  unfold containsAddress Within
  by_cases family : network.family = address.family
  · have lengths : network.bytes.length = address.bytes.length := by
      rw [proper.width, normal.width, family]
    rw [if_neg (not_not.mpr family), and_iff_right family]
    dsimp only
    by_cases all : network.bits = 8 * network.bytes.length
    · have complete : network.bits / 8 = network.bytes.length := by omega
      have none : network.bits % 8 = 0 := by omega
      rw [leadingBits_whole all, leadingBits_whole (lengths ▸ all), complete, if_pos none,
        List.take_length, lengths, List.take_length]
      constructor
      · intro found
        split at found
        · cases found
        · rename_i same
          rw [not_not.mp same]
      · intro same
        rw [if_neg (not_not.mpr (flatMap_bits_injective lengths same))]
    · have least := proper.bits
      rw [← proper.width] at least
      have inside : network.bits / 8 < network.bytes.length := by omega
      have whole : (network.bytes.take (network.bits / 8)).length =
          (address.bytes.take (network.bits / 8)).length := by
        rw [List.length_take, List.length_take, lengths]
      rw [leadingBits_split _ inside, leadingBits_split _ (lengths ▸ inside)]
      constructor
      · intro found
        split at found
        · cases found
        · rename_i same
          rw [not_not.mp same]
          congr 1
          split at found
          · rename_i none
            rw [none, List.take_zero, List.take_zero]
          · rename_i some
            exact (mask_bits (by omega) (by omega)).mp (of_decide_eq_true found)
      · intro same
        obtain ⟨front, last⟩ := List.append_inj same (by
          rw [length_flatMap_bits, length_flatMap_bits, whole])
        rw [if_neg (not_not.mpr (flatMap_bits_injective whole front))]
        split
        · rfl
        · rename_i some
          exact decide_eq_true ((mask_bits (by omega) (by omega)).mpr last)
  · rw [if_pos family]
    exact iff_of_false Bool.false_ne_true fun both => family both.1

theorem networkAt_normal {address : ParsedAddress} (normal : address.Normal) {size : JsNumber}
    {network : TrustedNetwork} (placed : networkAt address size = some network) :
    network.Normal := by
  unfold networkAt at placed
  split at placed
  · rename_i integer
    obtain ⟨bits, whole, placed⟩ := Option.bind_eq_some_iff.mp placed
    split at placed
    · cases placed
    · rename_i range
      split at placed
      · obtain rfl := Option.some.inj placed
        push Not at range
        refine ⟨normal.width, ?_⟩
        have bound : (bits.num.toNat : ℚ) ≤ address.family.bits := by
          have least : 0 ≤ bits.num := Rat.num_nonneg.mpr range.1
          have exact : ((bits.num.toNat : ℤ) : ℚ) = bits := by
            rw [Int.toNat_of_nonneg least]
            simp only [JsNumber.isInteger, whole, beq_iff_eq] at integer
            exact Rat.coe_int_num_of_den_eq_one integer
          rw [← Int.cast_natCast, exact]
          exact range.2
        have width : address.family.bits = 8 * address.family.width := by
          cases address.family <;> rfl
        rw [← width]
        exact_mod_cast bound
      · cases placed
  · cases placed

theorem parseNetwork_normal {value : JsString} {network : TrustedNetwork}
    (parsed : parseNetwork value = some network) : network.Normal := by
  unfold parseNetwork at parsed
  dsimp only at parsed
  split at parsed
  · cases parsed
  · obtain ⟨address, read, parsed⟩ := Option.bind_eq_some_iff.mp parsed
    exact networkAt_normal (parseAddress_normal read) parsed

/-! ## Attribution -/

/-- The address is the last one of the header that lies in no trusted network. -/
def RightMostUntrusted (headers : Headers) (trustedProxyCIDRs : List JsString)
    (address : JsString) : Prop :=
  ∃ source networks before own after, headers.source = some source ∧
    trustedProxyCIDRs.mapM parseNetwork = some networks ∧
    ((source.splitOn comma).map trim).mapM parseAddress = some (before ++ own :: after) ∧
    own.normalized = address ∧ (∀ network ∈ networks, ¬Within network own) ∧
    ∀ later ∈ after, ∃ network ∈ networks, Within network later

/-- Addresses stand to the left of what the header has. -/
def prepend (more : List JsString) (source : JsString) : JsString :=
  join [comma] (more ++ [source])

/-- The header keeps to the limits of size and hops. -/
def WithinLimits (source : JsString) : Prop :=
  (encode source).length ≤ MAXIMUM_FORWARDING_HEADER_BYTES ∧
    (source.splitOn comma).length ≤ MAXIMUM_FORWARDING_HOPS

theorem forwardedAddresses_some {source : JsString} {addresses : List ParsedAddress}
    (read : forwardedAddresses source = some addresses) :
    source ≠ [] ∧ WithinLimits source ∧ [] ∉ (source.splitOn comma).map trim ∧
      ((source.splitOn comma).map trim).mapM parseAddress = some addresses := by
  unfold forwardedAddresses at read
  split at read
  · cases read
  · rename_i sized
    push Not at sized
    dsimp only at read
    split at read
    · cases read
    · rename_i filled
      push Not at filled
      rw [List.length_map] at filled
      exact ⟨sized.1, ⟨sized.2, filled.1⟩, filled.2, read⟩

/-- The walk from the right stops at the right-most untrusted address. -/
theorem rightmost_of_resolve {headers : Headers} {trustedProxyCIDRs : List JsString}
    {address : JsString} (configured : trustedProxyCIDRs ≠ [])
    (resolved : resolveTrustedClientAddress headers trustedProxyCIDRs = some address) :
    RightMostUntrusted headers trustedProxyCIDRs address := by
  obtain ⟨source, present, resolved⟩ := Option.bind_eq_some_iff.mp resolved
  obtain ⟨addresses, read, resolved⟩ := Option.bind_eq_some_iff.mp resolved
  rw [if_neg configured] at resolved
  obtain ⟨networks, trusted, resolved⟩ := Option.bind_eq_some_iff.mp resolved
  obtain ⟨own, found, resolved⟩ := Option.bind_eq_some_iff.mp resolved
  obtain ⟨untrusted, after, before, parts, inside⟩ := List.find?_eq_some_iff_append.mp found
  have parsed := (forwardedAddresses_some read).2.2.2
  have order : addresses = before.reverse ++ own :: after.reverse := by
    rw [← List.reverse_reverse addresses, parts]
    simp
  have proper : ∀ network ∈ networks, network.Normal := by
    intro network listed
    obtain ⟨value, -, read⟩ := mapM_source trusted listed
    exact parseNetwork_normal read
  have normal : ∀ other ∈ addresses, other.Normal := by
    intro other listed
    obtain ⟨text, -, read⟩ := mapM_source parsed listed
    exact parseAddress_normal read
  refine ⟨source, networks, before.reverse, own, after.reverse, present, trusted,
    by rw [parsed, order], Option.some.inj resolved, fun network listed within => ?_,
    fun later listed => ?_⟩
  · have contained := (containsAddress_iff (proper network listed)
      (normal own (by rw [order]; simp))).mpr within
    rw [Bool.not_eq_true', List.any_eq_false] at untrusted
    exact untrusted network listed contained
  · have passed := inside later (List.mem_reverse.mp listed)
    rw [Bool.not_not, List.any_eq_true] at passed
    obtain ⟨network, member, contained⟩ := passed
    refine ⟨network, member, (containsAddress_iff (proper network member)
      (normal later ?_)).mp contained⟩
    rw [order]
    exact List.mem_append_right _ (List.mem_cons_of_mem _ listed)

/-! ### Addresses to the left -/

/-- A text that can stand in a forwarding header as one address. -/
def IsAddress (text : JsString) : Prop := comma ∉ text ∧ (parseAddress text).isSome = true

theorem prepend_split {more : List JsString} (apart : ∀ text ∈ more, comma ∉ text)
    (source : JsString) :
    (prepend more source).splitOn comma = more ++ source.splitOn comma := by
  induction more with
  | nil => simp [prepend, join]
  | cons text rest inductionHypothesis =>
      rw [List.forall_mem_cons] at apart
      have shape : prepend (text :: rest) source = text ++ comma :: prepend rest source := by
        obtain ⟨next, others, same⟩ := List.exists_cons_of_ne_nil
          (show rest ++ [source] ≠ [] by simp)
        simp only [prepend, List.cons_append, same, join_cons_cons]
        simp
      rw [shape, List.splitOn_append_cons_self_of_not_mem apart.1, inductionHypothesis apart.2,
        List.cons_append]

theorem parseAddress_trim (text : JsString) : parseAddress (trim text) = parseAddress text := by
  simp only [parseAddress, StoredConfiguration.trim_trim]

/-- What stands further to the left is not reached by the walk. -/
theorem resolve_prepend {headers longer : Headers} {trustedProxyCIDRs : List JsString}
    {address source : JsString} (configured : trustedProxyCIDRs ≠ [])
    (resolved : resolveTrustedClientAddress headers trustedProxyCIDRs = some address)
    {more : List JsString} (valid : ∀ text ∈ more, IsAddress text)
    (present : headers.source = some source)
    (extended : longer.source = some (prepend more source))
    (limits : WithinLimits (prepend more source)) :
    resolveTrustedClientAddress longer trustedProxyCIDRs = some address := by
  obtain ⟨own, found, resolved⟩ := Option.bind_eq_some_iff.mp resolved
  obtain rfl := Option.some.inj (present.symm.trans found)
  obtain ⟨addresses, read, resolved⟩ := Option.bind_eq_some_iff.mp resolved
  rw [if_neg configured] at resolved
  obtain ⟨networks, trusted, resolved⟩ := Option.bind_eq_some_iff.mp resolved
  obtain ⟨client, walked, resolved⟩ := Option.bind_eq_some_iff.mp resolved
  obtain ⟨-, -, filled, parsed⟩ := forwardedAddresses_some read
  have split := prepend_split (fun text listed => (valid text listed).1) source
  obtain ⟨others, parsedMore⟩ : ∃ others, (more.map trim).mapM parseAddress = some others := by
    refine mapM_isSome fun item listed => ?_
    obtain ⟨text, inside, rfl⟩ := List.mem_map.mp listed
    rw [parseAddress_trim]
    exact (valid text inside).2
  have visible : [] ∉ ((prepend more source).splitOn comma).map trim := by
    rw [split, List.map_append, List.mem_append, not_or]
    refine ⟨fun inside => ?_, filled⟩
    obtain ⟨text, listed, blank⟩ := List.mem_map.mp inside
    have known := (valid text listed).2
    rw [← parseAddress_trim, blank] at known
    cases known
  have nonempty : prepend more source ≠ [] := by
    intro empty
    rw [empty] at visible
    exact visible List.mem_cons_self
  have again : forwardedAddresses (prepend more source) = some (others ++ addresses) := by
    unfold forwardedAddresses
    dsimp only
    rw [if_neg (not_or.mpr ⟨nonempty, not_lt.mpr limits.1⟩), if_neg (not_or.mpr ⟨?_, visible⟩),
      split, List.map_append, List.mapM_append, parsedMore, parsed]
    · rfl
    · rw [List.length_map]
      exact not_lt.mpr limits.2
  unfold resolveTrustedClientAddress
  rw [extended]
  simp only [Option.bind_eq_bind, Option.bind_some, again, if_neg configured, trusted,
    List.reverse_append, List.find?_append, walked, Option.some_or]
  exact resolved

/-- Spellings of an address: the normal text stands for the same bytes and family, two
normal texts are the same only for the same bytes and family, and the rate limit goes by
these. -/
def Canonical : Prop :=
  (∀ text address, parseAddress text = some address →
    parseAddress address.normalized = some address) ∧
  ∀ first one second other, parseAddress first = some one → parseAddress second = some other →
    (one.normalized = other.normalized ↔ one.bytes = other.bytes ∧ one.family = other.family) ∧
    (one.bytes = other.bytes ∧ one.family = other.family →
      clientAddressRateLimitIdentity (some first) = clientAddressRateLimitIdentity (some second))

theorem canonical : Canonical := by
  constructor
  · intro text address parsed
    exact (parseAddress_normal parsed).parse
  · intro first one second other parsed parsedOther
    have same := (parseAddress_normal parsed).text_iff (parseAddress_normal parsedOther)
    refine ⟨same, fun agree => ?_⟩
    rw [identity_eq parsed, identity_eq parsedOther, same.mpr agree]

/-- The client's address is the right-most untrusted one, whatever valid addresses are put
to the left of the header, and addresses have one spelling. -/
theorem attribution_laws {headers : Headers} {trustedProxyCIDRs : List JsString}
    {address : JsString} (configured : trustedProxyCIDRs ≠ [])
    (resolved : resolveTrustedClientAddress headers trustedProxyCIDRs = some address) :
    RightMostUntrusted headers trustedProxyCIDRs address ∧
      (∀ source more longer, headers.source = some source → (∀ text ∈ more, IsAddress text) →
        longer.source = some (prepend more source) → WithinLimits (prepend more source) →
        resolveTrustedClientAddress longer trustedProxyCIDRs = some address) ∧
      Canonical :=
  ⟨rightmost_of_resolve configured resolved,
    fun _ _ _ present valid extended limits =>
      resolve_prepend configured resolved valid present extended limits,
    canonical⟩

/-- A chain of two hops behind a proxy of the private network. -/
theorem attribution_laws_chain :
    RightMostUntrusted ⟨some (js "203.0.113.7, 10.0.0.9"), none⟩ [js "10.0.0.0/8"]
      (js "203.0.113.7") :=
  (attribution_laws (by decide) (by decide +kernel)).1

end Vasi.ClientAddress
