import Vasi.JsValue

/-!
# Canonical JSON

The canonical form that every hash in the engine is taken over. Object keys are
visited in ascending code-unit order, undefined members are skipped, and only
safe integers are accepted as numbers; anything else is an error that the
caller of the hash receives. The text is then the ordinary JSON text of the
rebuilt object, whose own property order puts array indices first, and in which
an assignment to `__proto__` has left no own member.

The digest itself is a parameter: `sha256Hex` stands for the lower-case
hexadecimal SHA-256 of the UTF-8 bytes of a text. A stored document is read
back with undefined members gone and with its members in whatever order the
store chose; `canonicalValue_readBack` says that the hash cannot tell.
-/
namespace Vasi.CanonicalJson

open JsValue

/-- The rebuilt value, in which every number is a safe integer. -/
inductive Canonical where
  | null
  | bool (value : Bool)
  | integer (value : ℤ)
  | string (value : JsString)
  | array (items : List Canonical)
  | object (members : List (JsString × Canonical))

/-- The two errors of the canonical form, by message. -/
def unsafeNumberMessage : JsString := js "Canonical VASI JSON accepts only safe integers."

def unrepresentableMessage : JsString :=
  js "The value cannot be represented as canonical VASI JSON."

/-- Ascending key order, by code units. -/
def keyOrder {α : Type} (left right : JsString × α) : Prop := left.1 ≤ right.1

instance {α : Type} : DecidableRel (@keyOrder α) :=
  fun left right => inferInstanceAs (Decidable (left.1 ≤ right.1))

instance {α : Type} : Std.Total (@keyOrder α) := ⟨fun left right => le_total left.1 right.1⟩

instance {α : Type} : IsTrans (JsString × α) keyOrder :=
  ⟨fun _ _ _ below above => le_trans below above⟩

/-- Evaluate the members in key order; the first failing one is the error. -/
def assignAll : List (JsString × Except JsString Canonical) →
    Except JsString (List (JsString × Canonical))
  | [] => .ok []
  | (key, outcome) :: rest => do
      let value ← outcome
      let assigned ← assignAll rest
      return (key, value) :: assigned

/-- The object built by assigning the members in key order. -/
def canonicalObject (members : List (JsString × Except JsString Canonical)) :
    Except JsString Canonical := do
  let assigned ← assignAll (members.insertionSort keyOrder)
  return .object (propertyOrder (assigned.filter fun entry => entry.1 ≠ js "__proto__"))

mutual
/-- Rebuild a value in canonical form. -/
def canonicalValue : Value → Except JsString Canonical
  | .undefined => .error unrepresentableMessage
  | .null => .ok .null
  | .bool value => .ok (.bool value)
  | .string value => .ok (.string value)
  | .number number =>
      if number.isSafeInteger then .ok (.integer ((number.toRat?.getD 0).num))
      else .error unsafeNumberMessage
  | .array items => (canonicalItems items).map .array
  | .object members => canonicalObject (canonicalMembers members)

def canonicalItems : List Value → Except JsString (List Canonical)
  | [] => .ok []
  | item :: rest => do
      let head ← canonicalValue item
      let tail ← canonicalItems rest
      return head :: tail

/-- The defined members with the outcome of rebuilding each. -/
def canonicalMembers : List (JsString × Value) → List (JsString × Except JsString Canonical)
  | [] => []
  | (key, value) :: rest =>
      if value.isUndefined then canonicalMembers rest
      else (key, canonicalValue value) :: canonicalMembers rest
end

mutual
/-- The JSON text of a rebuilt value. -/
def text : Canonical → JsString
  | .null => js "null"
  | .bool value => if value then js "true" else js "false"
  | .integer value => js (toString value)
  | .string value => quote value
  | .array items => js "[" ++ join (js ",") (itemTexts items) ++ js "]"
  | .object members => js "\x7b" ++ join (js ",") (memberTexts members) ++ js "\x7d"

def itemTexts : List Canonical → List JsString
  | [] => []
  | item :: rest => text item :: itemTexts rest

def memberTexts : List (JsString × Canonical) → List JsString
  | [] => []
  | (key, value) :: rest => (quote key ++ js ":" ++ text value) :: memberTexts rest
end

/-- The canonical text of a value, or the error that rejects it. -/
def canonicalJSON (value : Value) : Except JsString JsString :=
  (canonicalValue value).map text

/-- The hexadecimal digest of the canonical text. -/
def hashCanonicalJSON (sha256Hex : JsString → JsString) (value : Value) :
    Except JsString JsString :=
  (canonicalJSON value).map sha256Hex

/-! ## The domain of the canonical form -/

mutual
/-- The value has a canonical form: its numbers are safe integers and no array
holds undefined. -/
def Representable : Value → Prop
  | .undefined => False
  | .null | .bool _ | .string _ => True
  | .number number => number.isSafeInteger = true
  | .array items => RepresentableItems items
  | .object members => RepresentableMembers members

def RepresentableItems : List Value → Prop
  | [] => True
  | item :: rest => Representable item ∧ RepresentableItems rest

/-- A member may be undefined, since it is skipped. -/
def RepresentableMembers : List (JsString × Value) → Prop
  | [] => True
  | (_, value) :: rest =>
      (value.isUndefined = true ∨ Representable value) ∧ RepresentableMembers rest
end

/-- Assigning every member succeeds exactly when each outcome does. -/
theorem assignAll_succeeds (members : List (JsString × Except JsString Canonical)) :
    (∃ assigned, assignAll members = .ok assigned) ↔
      ∀ entry ∈ members, ∃ value, entry.2 = .ok value := by
  induction members with
  | nil => simp [assignAll]
  | cons entry rest inductionHypothesis =>
      obtain ⟨key, outcome⟩ := entry
      cases outcome with
      | error message => simp [assignAll, bind, Except.bind]
      | ok value =>
          rw [List.forall_mem_cons, ← inductionHypothesis]
          cases tail : assignAll rest with
          | error message => simp [assignAll, bind, Except.bind, tail]
          | ok assigned => simp [assignAll, bind, Except.bind, tail, pure, Except.pure]

/-- Sorting the members does not change whether the object can be built. -/
theorem canonicalObject_succeeds (members : List (JsString × Except JsString Canonical)) :
    (∃ value, canonicalObject members = .ok value) ↔
      ∀ entry ∈ members, ∃ value, entry.2 = .ok value := by
  have sorted := assignAll_succeeds (members.insertionSort keyOrder)
  simp only [(List.perm_insertionSort keyOrder members).mem_iff] at sorted
  rw [← sorted]
  unfold canonicalObject
  cases assigned : assignAll (members.insertionSort keyOrder) <;>
    simp [bind, Except.bind, pure, Except.pure]

/-- The canonical form exists exactly for representable values. The induction
follows the value together with its item and member lists. -/
theorem canonicalValue_succeeds (value : Value) :
    (∃ result, canonicalValue value = .ok result) ↔ Representable value := by
  induction value using Value.induction
    (fun items => (∃ result, canonicalItems items = .ok result) ↔ RepresentableItems items)
    (fun members => (∀ entry ∈ canonicalMembers members, ∃ result, entry.2 = .ok result) ↔
      RepresentableMembers members) with
  | undefined => simp [canonicalValue, Representable]
  | null => simp [canonicalValue, Representable]
  | bool value => simp [canonicalValue, Representable]
  | string value => simp [canonicalValue, Representable]
  | number number => by_cases safe : number.isSafeInteger <;> simp [canonicalValue, Representable, safe]
  | array items inductionHypothesis =>
      rw [Representable, ← inductionHypothesis, canonicalValue]
      cases canonicalItems items <;> simp [Except.map]
  | object members inductionHypothesis =>
      rw [Representable, ← inductionHypothesis, canonicalValue, canonicalObject_succeeds]
  | noItem => simp [canonicalItems, RepresentableItems]
  | item item rest itemExact restExact =>
      rw [RepresentableItems, ← itemExact, ← restExact, canonicalItems]
      cases canonicalValue item <;> cases canonicalItems rest <;>
        simp [bind, Except.bind, pure, Except.pure]
  | noMember => simp [canonicalMembers, RepresentableMembers]
  | member key value rest entryExact restExact =>
      by_cases skipped : value.isUndefined = true
      · rw [canonicalMembers, RepresentableMembers, if_pos skipped, restExact]
        simp [skipped]
      · simp only [canonicalMembers, RepresentableMembers, skipped, false_or,
          List.forall_mem_cons, restExact, Bool.false_eq_true, if_false]
        exact and_congr_left' entryExact

/-- Hashing throws exactly on the values without a canonical form. -/
theorem hashCanonicalJSON_succeeds (sha256Hex : JsString → JsString) (value : Value) :
    (∃ digest, hashCanonicalJSON sha256Hex value = .ok digest) ↔ Representable value := by
  rw [← canonicalValue_succeeds]
  unfold hashCanonicalJSON canonicalJSON
  cases canonicalValue value <;> simp [Except.map]

/-! ## Reading a stored document back -/

mutual
/-- The value that a JSON round trip returns. The member order is the store's
choice, undefined members are dropped, and undefined array items and numbers
without JSON text become null. -/
def readBack (order : Members → Members) : Value → Value
  | .number number => (number.toRat?.map fun value => .number (.finite value)).getD .null
  | .array items => .array (readBackItems order items)
  | .object members => .object (order (readBackMembers order members))
  | value => value

def readBackItems (order : Members → Members) : List Value → List Value
  | [] => []
  | item :: rest =>
      (if item.isUndefined then .null else readBack order item) :: readBackItems order rest

def readBackMembers (order : Members → Members) : List (JsString × Value) → Members
  | [] => []
  | (key, value) :: rest =>
      if value.isUndefined then readBackMembers order rest
      else (key, readBack order value) :: readBackMembers order rest
end

/-- A round trip of a defined value is defined. -/
theorem readBack_defined (order : Members → Members) (value : Value)
    (defined : value.isUndefined = false) : (readBack order value).isUndefined = false := by
  cases value with
  | number number => cases number <;> simp [readBack, JsNumber.toRat?, Value.isUndefined]
  | undefined => simp [Value.isUndefined] at defined
  | _ => simp [readBack, Value.isUndefined]

/-- A sorted list of members under distinct keys is determined by its members. -/
theorem insertionSort_perm {α : Type} {left right : List (JsString × α)}
    (same : left.Perm right) (distinct : (left.map Prod.fst).Nodup) :
    left.insertionSort keyOrder = right.insertionSort keyOrder := by
  refine @List.Perm.eq_of_pairwise _ keyOrder _ _ ?_
    (List.pairwise_insertionSort keyOrder left) (List.pairwise_insertionSort keyOrder right)
    (((List.perm_insertionSort keyOrder left).trans same).trans
      (List.perm_insertionSort keyOrder right).symm)
  intro a b inLeft inRight below above
  have aMember := (List.perm_insertionSort keyOrder left).mem_iff.mp inLeft
  have bMember := same.mem_iff.mpr ((List.perm_insertionSort keyOrder right).mem_iff.mp inRight)
  exact List.inj_on_of_nodup_map distinct aMember bMember (le_antisymm below above)

/-- Outcomes listed under distinct keys are determined by their set: two
orders of the same members give the same object. -/
theorem canonicalObject_perm {left right : List (JsString × Except JsString Canonical)}
    (same : left.Perm right) (distinct : (left.map Prod.fst).Nodup) :
    canonicalObject left = canonicalObject right := by
  unfold canonicalObject
  rw [insertionSort_perm same distinct]

/-- The keys of the rebuilt members are among the keys of the original. -/
theorem canonicalMembers_keys (members : Members) :
    ((canonicalMembers members).map Prod.fst).Sublist (members.map Prod.fst) := by
  induction members with
  | nil => simp [canonicalMembers]
  | cons entry rest inductionHypothesis =>
      obtain ⟨key, value⟩ := entry
      by_cases skipped : value.isUndefined = true
      · simpa [canonicalMembers, skipped] using inductionHypothesis.cons key
      · simpa [canonicalMembers, skipped] using inductionHypothesis.cons_cons key

/-- Outcomes follow the members through a permutation. -/
theorem canonicalMembers_perm {left right : Members} (same : left.Perm right) :
    (canonicalMembers left).Perm (canonicalMembers right) := by
  induction same with
  | nil => exact .refl _
  | cons entry _ inductionHypothesis =>
      obtain ⟨key, value⟩ := entry
      by_cases skipped : value.isUndefined = true
      · simpa [canonicalMembers, skipped] using inductionHypothesis
      · simpa [canonicalMembers, skipped] using inductionHypothesis
  | swap first second rest =>
      obtain ⟨firstKey, firstValue⟩ := first
      obtain ⟨secondKey, secondValue⟩ := second
      by_cases firstSkipped : firstValue.isUndefined = true <;>
        by_cases secondSkipped : secondValue.isUndefined = true <;>
        simp [canonicalMembers, firstSkipped, secondSkipped, List.Perm.swap]
  | trans _ _ firstPerm secondPerm => exact firstPerm.trans secondPerm

/-- A stored document has the canonical form of the value that was stored. The
induction follows the value; for members the claim is made before the store's
reordering, which `canonicalObject_perm` then absorbs. -/
theorem canonicalValue_readBack (order : Members → Members)
    (rearranges : ∀ members, (order members).Perm members) (value : Value) :
    WellFormed value → Representable value →
      canonicalValue (readBack order value) = canonicalValue value := by
  induction value using Value.induction
    (fun items => WellFormedItems items → RepresentableItems items →
      canonicalItems (readBackItems order items) = canonicalItems items)
    (fun members => WellFormedMembers members → RepresentableMembers members →
      canonicalMembers (readBackMembers order members) = canonicalMembers members) with
  | undefined => intros; rfl
  | null => intros; rfl
  | bool value => intros; rfl
  | string value => intros; rfl
  | number number =>
      intro _ safe
      cases number <;>
        simp_all [readBack, canonicalValue, Representable, JsNumber.isSafeInteger, JsNumber.toRat?]
  | array items inductionHypothesis =>
      intro formed representable
      rw [readBack, canonicalValue, canonicalValue, inductionHypothesis formed representable]
  | object members inductionHypothesis =>
      intro formed representable
      have exact := inductionHypothesis formed.2 representable
      have same := canonicalMembers_perm (rearranges (readBackMembers order members))
      rw [exact] at same
      rw [readBack, canonicalValue, canonicalValue]
      refine (canonicalObject_perm same.symm ?_).symm
      exact formed.1.sublist (canonicalMembers_keys members)
  | noItem => rfl
  | item item rest itemExact restExact formed representable =>
      have defined : item.isUndefined = false := by
        cases item <;> simp_all [RepresentableItems, Representable, Value.isUndefined]
      rw [readBackItems, defined, canonicalItems, canonicalItems]
      simp only [Bool.false_eq_true, if_false]
      rw [itemExact formed.1 representable.1, restExact formed.2 representable.2]
  | noMember => rfl
  | member key value rest entryExact restExact formed representable =>
      have tail := restExact formed.2 representable.2
      by_cases skipped : value.isUndefined = true
      · simp only [readBackMembers, canonicalMembers, skipped, if_true, tail]
      · have head := entryExact formed.1 (representable.1.resolve_left skipped)
        have defined := readBack_defined order value (by simpa using skipped)
        simp only [readBackMembers, canonicalMembers, skipped, defined, if_false, tail, head,
          Bool.false_eq_true]

/-- A defined member that no other member repeats is found in every arrangement. -/
theorem lookup_perm {left right : Members} (same : left.Perm right)
    (distinct : (left.map Prod.fst).Nodup) (key : JsString) :
    left.lookup key = right.lookup key := by
  induction same with
  | nil => rfl
  | cons entry _ inductionHypothesis =>
      rw [List.lookup_cons, List.lookup_cons,
        inductionHypothesis (List.nodup_cons.mp distinct).2]
  | swap first second rest =>
      obtain ⟨firstName, firstValue⟩ := first
      obtain ⟨secondName, secondValue⟩ := second
      have apart : secondName ≠ firstName := by
        simp only [List.map_cons, List.nodup_cons, List.mem_cons, not_or] at distinct
        exact distinct.1.1
      by_cases firstKey : key = firstName
      · subst firstKey
        simp [List.lookup_cons, beq_eq_false_iff_ne.mpr apart.symm]
      · simp [List.lookup_cons, beq_eq_false_iff_ne.mpr firstKey]
  | trans first _ firstExact secondExact =>
      exact (firstExact distinct).trans (secondExact ((first.map Prod.fst).nodup_iff.mp distinct))

theorem readBackMembers_keys (order : Members → Members) (members : Members) :
    ((readBackMembers order members).map Prod.fst).Sublist (members.map Prod.fst) := by
  induction members with
  | nil => exact List.Sublist.refl _
  | cons entry rest inductionHypothesis =>
      obtain ⟨key, value⟩ := entry
      rw [readBackMembers]
      split
      · exact inductionHypothesis.cons key
      · exact inductionHypothesis.cons_cons key

/-- A member of a stored object reads back as the round trip of its value. -/
theorem lookup_readBackMembers (order : Members → Members) {members : Members} {key : JsString}
    {value : Value} (distinct : (members.map Prod.fst).Nodup)
    (found : members.lookup key = some value) (defined : value.isUndefined = false) :
    (readBackMembers order members).lookup key = some (readBack order value) := by
  induction members with
  | nil => cases found
  | cons entry rest inductionHypothesis =>
      obtain ⟨first, head⟩ := entry
      obtain ⟨_, distinctRest⟩ := List.nodup_cons.mp distinct
      by_cases same : key = first
      · subst same
        obtain rfl : head = value := by simpa using found
        simp [readBackMembers, defined]
      · have later : rest.lookup key = some value := by
          simpa [List.lookup_cons, beq_eq_false_iff_ne.mpr same] using found
        rw [readBackMembers]
        split
        · exact inductionHypothesis distinctRest later
        · simpa [List.lookup_cons, beq_eq_false_iff_ne.mpr same] using
            inductionHypothesis distinctRest later

/-- A member is found by its key wherever it stands. -/
theorem lookup_of_mem {members : Members} (distinct : (members.map Prod.fst).Nodup)
    {key : JsString} {value : Value} (member : (key, value) ∈ members) :
    members.lookup key = some value := by
  induction members with
  | nil => cases member
  | cons entry rest inductionHypothesis =>
      obtain ⟨first, head⟩ := entry
      obtain ⟨fresh, distinctRest⟩ := List.nodup_cons.mp distinct
      cases List.mem_cons.mp member with
      | inl here => simp [← here]
      | inr later =>
          have apart : key ≠ first := fun same =>
            fresh (List.mem_map.mpr ⟨_, later, same⟩)
          simpa [List.lookup_cons, beq_eq_false_iff_ne.mpr apart] using
            inductionHypothesis distinctRest later

/-- Reading a member of a stored object gives the round trip of the member. -/
theorem get_readBack (order : Members → Members)
    (rearranges : ∀ members, (order members).Perm members) (members : Members)
    (key : JsString) (value : Value) (formed : WellFormed (.object members))
    (member : (key, value) ∈ members) (defined : value.isUndefined = false) :
    (readBack order (.object members)).get key = readBack order value := by
  have stored := lookup_readBackMembers order formed.1 (lookup_of_mem formed.1 member) defined
  have distinct := formed.1.sublist (readBackMembers_keys order members)
  have same := lookup_perm (rearranges (readBackMembers order members)).symm distinct key
  simp only [readBack, Value.get, Value.member, ← same, stored, Option.getD_some]

/-- The digest of a stored document is the digest taken before storing it. -/
theorem hashCanonicalJSON_readBack (sha256Hex : JsString → JsString)
    (order : Members → Members) (rearranges : ∀ members, (order members).Perm members)
    (value : Value) (formed : WellFormed value) (representable : Representable value) :
    hashCanonicalJSON sha256Hex (readBack order value) = hashCanonicalJSON sha256Hex value := by
  unfold hashCanonicalJSON canonicalJSON
  rw [canonicalValue_readBack order rearranges value formed representable]

end Vasi.CanonicalJson
