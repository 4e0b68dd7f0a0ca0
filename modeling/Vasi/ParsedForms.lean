import Vasi.CanonicalForm
import Vasi.Redaction

/-!
# Canonical forms of parsed values

What holds of the atoms and passes to arrays and objects holds of every value that
JSON.parse returns. A parsed value with a canonical form is seen through that form
member by member: two values with one canonical text have the same texts and numbers
under every path that does not lead through `__proto__`.
-/
namespace Vasi.CanonicalForm

open JsValue CanonicalJson JsonText
open Redaction (Stored stored_array stored_object)

/-! ## Induction over parsed values -/

/-- A property of the values that JSON.parse builds up: it holds of the atoms and passes
from items to their array and from members to the object that they create. -/
structure Inherited (property : Value → Prop) : Prop where
  null : property .null
  bool : ∀ value, property (.bool value)
  number : ∀ value, property (.number value)
  string : ∀ value, property (.string value)
  array : ∀ items, (∀ item ∈ items, property item) → property (.array items)
  object : ∀ members : Members, (∀ entry ∈ members, property entry.2) →
    property (.object (createMembers members))

section

variable {property : Value → Prop}

/-- The readers keep what is inherited. The induction is on the fuel that they share. -/
theorem Inherited.readers (inherited : Inherited property) (fuel : ℕ) :
    (∀ text value rest, readValue fuel text = some (value, rest) → property value) ∧
    (∀ text items rest, readItems fuel text = some (items, rest) →
      ∀ item ∈ items, property item) ∧
    (∀ text members rest, readMembers fuel text = some (members, rest) →
      ∀ entry ∈ members, property entry.2) := by
  induction fuel with
  | zero => exact ⟨by intros; contradiction, by intros; contradiction, by intros; contradiction⟩
  | succ fuel inductionHypothesis =>
      obtain ⟨values, items, members⟩ := inductionHypothesis
      refine ⟨fun text value rest read => ?_, fun text list rest read => ?_,
        fun text list rest read => ?_⟩
      · rw [readValue] at read
        split at read
        · obtain ⟨_, _, same⟩ := Option.map_eq_some_iff.mp read
          cases same
          exact inherited.string _
        split at read
        · split at read
          · cases read
            exact inherited.array [] (by simp)
          · obtain ⟨⟨list, left⟩, found, same⟩ := Option.map_eq_some_iff.mp read
            cases same
            exact inherited.array _ (items _ _ _ found)
        split at read
        · split at read
          · cases read
            exact inherited.object [] (by simp)
          · obtain ⟨⟨list, left⟩, found, same⟩ := Option.map_eq_some_iff.mp read
            cases same
            exact inherited.object _ (members _ _ _ found)
        split at read
        · obtain ⟨_, _, same⟩ := Option.map_eq_some_iff.mp read
          cases same
          exact inherited.null
        split at read
        · obtain ⟨_, _, same⟩ := Option.map_eq_some_iff.mp read
          cases same
          exact inherited.bool _
        split at read
        · obtain ⟨_, _, same⟩ := Option.map_eq_some_iff.mp read
          cases same
          exact inherited.bool _
        · obtain ⟨_, _, same⟩ := Option.map_eq_some_iff.mp read
          cases same
          exact inherited.number _
      · rw [readItems] at read
        obtain ⟨⟨item, left⟩, first, read⟩ := Option.bind_eq_some_iff.mp read
        split at read
        · obtain ⟨⟨later, left⟩, others, same⟩ := Option.map_eq_some_iff.mp read
          cases same
          exact List.forall_mem_cons.mpr ⟨values _ _ _ first, items _ _ _ others⟩
        · obtain ⟨_, _, same⟩ := Option.map_eq_some_iff.mp read
          cases same
          exact List.forall_mem_cons.mpr ⟨values _ _ _ first, by simp⟩
      · rw [readMembers] at read
        obtain ⟨_, _, read⟩ := Option.bind_eq_some_iff.mp read
        obtain ⟨_, _, read⟩ := Option.bind_eq_some_iff.mp read
        obtain ⟨_, _, read⟩ := Option.bind_eq_some_iff.mp read
        obtain ⟨⟨value, left⟩, first, read⟩ := Option.bind_eq_some_iff.mp read
        split at read
        · obtain ⟨⟨later, left⟩, others, same⟩ := Option.map_eq_some_iff.mp read
          cases same
          exact List.forall_mem_cons.mpr ⟨values _ _ _ first, members _ _ _ others⟩
        · obtain ⟨_, _, same⟩ := Option.map_eq_some_iff.mp read
          cases same
          exact List.forall_mem_cons.mpr ⟨values _ _ _ first, by simp⟩

/-- Whatever is inherited holds of a parsed value. -/
theorem Inherited.parse (inherited : Inherited property) {text : JsString} {value : Value}
    (read : JsonText.parse text = some value) : property value := by
  unfold JsonText.parse at read
  split at read
  case h_1 parsed rest found =>
    split at read
    · cases read
      exact (inherited.readers text.length).1 _ _ _ found
    · cases read
  case h_2 => cases read

end

/-! ## Parsed values are well-formed -/

theorem createMember_keys (built : Members) (key : JsString) (value : Value) :
    (createMember built key value).map Prod.fst =
      if key ∈ built.map Prod.fst then built.map Prod.fst else built.map Prod.fst ++ [key] := by
  have known : (built.any fun entry => entry.1 = key) = true ↔ key ∈ built.map Prod.fst := by
    simp
  unfold createMember
  by_cases there : key ∈ built.map Prod.fst
  · rw [if_pos (known.mpr there), if_pos there, List.map_map]
    refine List.map_congr_left fun entry _ => ?_
    by_cases same : entry.1 = key <;> simp [same]
  · rw [if_neg (mt known.mp there), if_neg there]
    simp

/-- An object literal has every key once. -/
theorem createMembers_nodup (members : Members) : ((createMembers members).map Prod.fst).Nodup := by
  have each : ∀ (rest built : Members), (built.map Prod.fst).Nodup →
      ((rest.foldl (fun built entry => createMember built entry.1 entry.2) built).map
        Prod.fst).Nodup := by
    intro rest
    induction rest with
    | nil => exact fun built distinct => distinct
    | cons entry rest inductionHypothesis =>
        intro built distinct
        refine inductionHypothesis _ ?_
        rw [createMember_keys]
        split
        · exact distinct
        case isFalse fresh => exact List.nodup_append.mpr ⟨distinct, by simp, by grind⟩
  exact each members [] (by simp)

/-- A created member has the new value, and the others keep theirs. -/
theorem createMember_values {property : Value → Prop} {built : Members} {key : JsString}
    {value : Value} (held : ∀ entry ∈ built, property entry.2) (new : property value) :
    ∀ entry ∈ createMember built key value, property entry.2 := by
  intro entry inside
  unfold createMember at inside
  split at inside
  · obtain ⟨old, member, rfl⟩ := List.mem_map.mp inside
    split
    · exact new
    · exact held old member
  · rcases List.mem_append.mp inside with old | last
    · exact held entry old
    · rw [List.mem_singleton.mp last]
      exact new

/-- The values of an object literal are among those that it lists. -/
theorem createMembers_values {property : Value → Prop} {members : Members}
    (each : ∀ entry ∈ members, property entry.2) :
    ∀ entry ∈ createMembers members, property entry.2 := by
  have walk : ∀ (rest built : Members), (∀ entry ∈ built, property entry.2) →
      (∀ entry ∈ rest, property entry.2) →
      ∀ entry ∈ rest.foldl (fun built entry => createMember built entry.1 entry.2) built,
        property entry.2 := by
    intro rest
    induction rest with
    | nil => exact fun built held _ => held
    | cons entry rest inductionHypothesis =>
        intro built held listed
        rw [List.forall_mem_cons] at listed
        exact inductionHypothesis _ (createMember_values held listed.1) listed.2
  exact walk members [] (by simp) each

/-- A stored document is what JSON.parse returns: nothing undefined inside, no key twice. -/
theorem inherited_stored : Inherited Stored where
  null := ⟨trivial, trivial⟩
  bool := fun _ => ⟨trivial, trivial⟩
  number := fun _ => ⟨trivial, trivial⟩
  string := fun _ => ⟨trivial, trivial⟩
  array := fun items each => (stored_array items).mpr each
  object := fun members each => (stored_object _).mpr
    ⟨createMembers_nodup members, createMembers_values each⟩

theorem parse_stored {text : JsString} {value : Value} (read : JsonText.parse text = some value) :
    Stored value :=
  inherited_stored.parse read

/-! ## Values through their canonical forms -/

/-- A stored value with a canonical form has only safe integers for numbers. -/
theorem parsed_of_representable (value : Value) :
    Stored value → Representable value → Parsed value := by
  induction value using Value.induction
    (fun items => (∀ item ∈ items, Stored item) → RepresentableItems items → ParsedItems items)
    (fun members => (∀ entry ∈ members, Stored entry.2) → RepresentableMembers members →
      ParsedMembers members) with
  | undefined => exact fun stored _ => stored.1
  | null => exact fun _ _ => trivial
  | bool value => exact fun _ _ => trivial
  | string value => exact fun _ _ => trivial
  | number number => exact fun _ safe => safe
  | array items inductionHypothesis =>
      exact fun stored => inductionHypothesis ((stored_array items).mp stored)
  | object members inductionHypothesis =>
      intro stored representable
      obtain ⟨distinct, each⟩ := (stored_object members).mp stored
      exact ⟨distinct, inductionHypothesis each representable⟩
  | noItem => trivial
  | item item rest itemExact restExact stored representable =>
      rw [List.forall_mem_cons] at stored
      exact ⟨itemExact stored.1 representable.1, restExact stored.2 representable.2⟩
  | noMember => trivial
  | member key value rest valueExact restExact stored representable =>
      rw [List.forall_mem_cons] at stored
      refine ⟨?_, restExact stored.2 representable.2⟩
      rcases representable.1 with undefined | found
      · rw [stored.1.isUndefined] at undefined
        cases undefined
      · exact valueExact stored.1 found

theorem parsed_of_canonical {value : Value} {form : Canonical} (stored : Stored value)
    (built : canonicalValue value = .ok form) : Parsed value :=
  parsed_of_representable value stored ((canonicalValue_succeeds value).mp ⟨form, built⟩)

theorem lookup_denotedMembers {kept : List (JsString × Canonical)} {key : JsString}
    {form : Canonical} (distinct : (kept.map Prod.fst).Nodup) (inside : (key, form) ∈ kept) :
    (denotedMembers kept).lookup key = some (denoted form) := by
  refine lookup_of_mem (by rwa [denotedMembers_keys]) ?_
  rw [denotedMembers_map]
  exact List.mem_map_of_mem inside

/-- Below an object the canonical form has what the object has, `__proto__` apart. -/
theorem canonicalValue_get {value : Value} {form : Canonical} (stored : Stored value)
    (built : canonicalValue value = .ok form) {key : JsString} (other : key ≠ js "__proto__") :
    value.get key = .undefined ∧ (denoted form).get key = .undefined ∨
      ∃ inner, canonicalValue (value.get key) = .ok inner ∧
        (denoted form).get key = denoted inner := by
  have parsed := parsed_of_canonical stored built
  have rebuilt := canonicalValue_rebuilt value parsed form built
  cases value with
  | undefined => exact stored.1.elim
  | null | bool | string =>
      cases built
      exact .inl ⟨rfl, rfl⟩
  | number number =>
      rw [canonicalValue, if_pos (show number.isSafeInteger = true from parsed)] at built
      cases built
      exact .inl ⟨rfl, rfl⟩
  | array items =>
      cases forms : canonicalItems items with
      | error message => simp [canonicalValue, forms, Except.map] at built
      | ok list =>
          simp only [canonicalValue, forms, Except.map, Except.ok.injEq] at built
          subst built
          exact .inl ⟨rfl, rfl⟩
  | object members =>
      obtain ⟨assigned, kept, rfl, fewer, all⟩ := canonicalObject_ok parsed.2 built
      have distinct : (kept.map Prod.fst).Nodup := rebuilt.sound.1
      change Value.member members key = .undefined ∧
          Value.member (denotedMembers kept) key = .undefined ∨
        ∃ inner, canonicalValue (Value.member members key) = .ok inner ∧
          Value.member (denotedMembers kept) key = denoted inner
      unfold Value.member
      cases look : members.lookup key with
      | none =>
          have absent : (denotedMembers kept).lookup key = none := by
            rw [List.lookup_eq_none_iff]
            intro entry inside
            have listed : entry.1 ∈ kept.map Prod.fst := by
              rw [← denotedMembers_keys]
              exact List.mem_map_of_mem inside
            obtain ⟨origin, member, same⟩ := List.mem_map.mp listed
            obtain ⟨-, original, source, -⟩ := canonicalObject_members fewer all member
            rw [List.lookup_eq_none_iff] at look
            simpa [same] using look _ source
          exact .inl ⟨rfl, by rw [absent]; rfl⟩
      | some found =>
          have source := all.mem_iff.mpr (List.mem_map_of_mem
            (f := fun entry : JsString × Value => (entry.1, canonicalValue entry.2))
            (Redaction.mem_of_lookup look))
          obtain ⟨origin, there, same⟩ := List.mem_map.mp source
          simp only [Prod.mk.injEq] at same
          have inside : origin ∈ kept := fewer.mem_iff.mpr (List.mem_filter.mpr
            ⟨there, by simp [same.1, other]⟩)
          have denotes := lookup_denotedMembers distinct inside
          rw [same.1] at denotes
          exact .inr ⟨origin.2, same.2.symm, by rw [denotes]; rfl⟩

/-- The kind of a value is the kind of its canonical form. -/
theorem canonicalValue_shape {value : Value} {form : Canonical}
    (built : canonicalValue value = .ok form) :
    match value with
    | .undefined => False
    | .null => form = .null
    | .bool value => form = .bool value
    | .string text => form = .string text
    | .number number => form = .integer (number.toRat?.getD 0).num
    | .array items => ∃ list, canonicalItems items = .ok list ∧ form = .array list
    | .object _ => ∃ list, form = .object list := by
  cases value with
  | undefined => cases built
  | null | bool | string =>
      cases built
      rfl
  | number number =>
      rw [canonicalValue] at built
      split at built
      · exact (Except.ok.inj built).symm
      · cases built
  | array items =>
      cases forms : canonicalItems items with
      | error message => simp [canonicalValue, forms, Except.map] at built
      | ok list =>
          simp only [canonicalValue, forms, Except.map, Except.ok.injEq] at built
          exact ⟨list, forms, built.symm⟩
  | object members =>
      rw [canonicalValue, canonicalObject] at built
      cases done : assignAll ((canonicalMembers members).insertionSort keyOrder) with
      | error message => simp [done, bind, Except.bind] at built
      | ok assigned =>
          simp only [done, bind, Except.bind, pure, Except.pure, Except.ok.injEq] at built
          exact ⟨_, built.symm⟩

theorem canonicalItems_cons {item : Value} {rest : List Value} {forms : List Canonical}
    (built : canonicalItems (item :: rest) = .ok forms) :
    ∃ head tail, canonicalValue item = .ok head ∧ canonicalItems rest = .ok tail ∧
      forms = head :: tail := by
  cases first : canonicalValue item with
  | error message => simp [canonicalItems, first, bind, Except.bind] at built
  | ok head =>
      cases later : canonicalItems rest with
      | error message => simp [canonicalItems, first, later, bind, Except.bind] at built
      | ok tail =>
          simp only [canonicalItems, first, later, bind, Except.bind, pure, Except.pure,
            Except.ok.injEq] at built
          exact ⟨head, tail, rfl, rfl, built.symm⟩

/-- Two values with canonical forms that denote the same, or two that are missing. -/
def Alike (left right : Value) : Prop :=
  left = .undefined ∧ right = .undefined ∨
    ∃ leftForm rightForm, canonicalValue left = .ok leftForm ∧
      canonicalValue right = .ok rightForm ∧ denoted leftForm = denoted rightForm

section

variable {left right : Value}

/-- Stored values with one canonical text are alike. -/
theorem alike_of_text (storedLeft : Stored left) (storedRight : Stored right) {text : JsString}
    (first : canonicalJSON left = .ok text) (second : canonicalJSON right = .ok text) :
    Alike left right := by
  cases leftBuilt : canonicalValue left with
  | error message => simp [canonicalJSON, leftBuilt, Except.map] at first
  | ok leftForm =>
      cases rightBuilt : canonicalValue right with
      | error message => simp [canonicalJSON, rightBuilt, Except.map] at second
      | ok rightForm =>
          simp only [canonicalJSON, leftBuilt, rightBuilt, Except.map, Except.ok.injEq]
            at first second
          have leftSound := canonicalValue_rebuilt left (parsed_of_canonical storedLeft leftBuilt)
            leftForm leftBuilt
          have rightSound := canonicalValue_rebuilt right
            (parsed_of_canonical storedRight rightBuilt) rightForm rightBuilt
          exact .inr ⟨leftForm, rightForm, leftBuilt, rightBuilt,
            text_injective leftSound.sound rightSound.sound (first.trans second.symm)⟩

theorem denoted_defined (form : Canonical) : denoted form ≠ .undefined := by
  cases form <;> simp [denoted]

/-- Values that are alike have alike members, `__proto__` apart. -/
theorem Alike.get (alike : Alike left right) (storedLeft : Stored left ∨ left = .undefined)
    (storedRight : Stored right ∨ right = .undefined) {key : JsString}
    (other : key ≠ js "__proto__") : Alike (left.get key) (right.get key) := by
  rcases alike with ⟨rfl, rfl⟩ | ⟨leftForm, rightForm, leftBuilt, rightBuilt, same⟩
  · exact .inl ⟨rfl, rfl⟩
  · rcases storedLeft with storedLeft | rfl
    case inr => cases leftBuilt
    rcases storedRight with storedRight | rfl
    case inr => cases rightBuilt
    rcases canonicalValue_get storedLeft leftBuilt other with ⟨none, missing⟩ | ⟨one, first, found⟩
    · rcases canonicalValue_get storedRight rightBuilt other with ⟨also, _⟩ | ⟨two, _, present⟩
      · exact .inl ⟨none, also⟩
      · rw [← same, missing] at present
        exact absurd present.symm (denoted_defined two)
    · rcases canonicalValue_get storedRight rightBuilt other with ⟨_, missing⟩ | ⟨two, second, also⟩
      · rw [← same, found] at missing
        exact absurd missing (denoted_defined one)
      · exact .inr ⟨one, two, first, second, by rw [← found, ← also, same]⟩

/-- A text is alike to itself only. -/
theorem Alike.string (alike : Alike left right) {text : JsString} (is : left = .string text) :
    right = .string text := by
  subst is
  rcases alike with ⟨missing, _⟩ | ⟨leftForm, rightForm, leftBuilt, rightBuilt, same⟩
  · cases missing
  · cases leftBuilt
    have shape := canonicalValue_shape rightBuilt
    cases right with
    | string other =>
        obtain rfl : rightForm = .string other := shape
        simpa [denoted] using same.symm
    | array items =>
        obtain ⟨list, -, rfl⟩ := shape
        cases same
    | object members =>
        obtain ⟨list, rfl⟩ := shape
        cases same
    | undefined => exact shape.elim
    | null | bool | number =>
        change rightForm = _ at shape
        subst shape
        cases same

/-- A number is alike to the numbers that it equals. -/
theorem Alike.number (alike : Alike left right) {number : JsNumber} (is : left = .number number) :
    ∃ other : JsNumber, right = .number other ∧
      (other.toRat?.getD 0).num = (number.toRat?.getD 0).num := by
  subst is
  rcases alike with ⟨missing, _⟩ | ⟨leftForm, rightForm, leftBuilt, rightBuilt, same⟩
  · cases missing
  · obtain rfl : leftForm = .integer (number.toRat?.getD 0).num := canonicalValue_shape leftBuilt
    have shape := canonicalValue_shape rightBuilt
    cases right with
    | number other =>
        obtain rfl : rightForm = .integer (other.toRat?.getD 0).num := shape
        exact ⟨other, rfl, by simpa [denoted] using same.symm⟩
    | array items =>
        obtain ⟨list, -, rfl⟩ := shape
        cases same
    | object members =>
        obtain ⟨list, rfl⟩ := shape
        cases same
    | undefined => exact shape.elim
    | null | bool | string =>
        change rightForm = _ at shape
        subst shape
        cases same

/-- The items of two arrays that denote the same are alike. -/
theorem alike_items {items others : List Value} {forms otherForms : List Canonical}
    (built : canonicalItems items = .ok forms) (otherBuilt : canonicalItems others = .ok otherForms)
    (same : denotedItems forms = denotedItems otherForms) : List.Forall₂ Alike items others := by
  induction items generalizing others forms otherForms with
  | nil =>
      cases built
      cases others with
      | nil => exact .nil
      | cons other rest =>
          obtain ⟨head, tail, -, -, rfl⟩ := canonicalItems_cons otherBuilt
          cases same
  | cons item items inductionHypothesis =>
      obtain ⟨head, tail, first, later, rfl⟩ := canonicalItems_cons built
      cases others with
      | nil =>
          cases otherBuilt
          cases same
      | cons other rest =>
          obtain ⟨otherHead, otherTail, otherFirst, otherLater, rfl⟩ :=
            canonicalItems_cons otherBuilt
          rw [denotedItems, denotedItems, List.cons.injEq] at same
          exact .cons (.inr ⟨head, otherHead, first, otherFirst, same.1⟩)
            (inductionHypothesis later otherLater same.2)

/-- An array is alike to an array, item by item. -/
theorem Alike.array (alike : Alike left right) {items : List Value} (is : left = .array items) :
    ∃ others, right = .array others ∧ List.Forall₂ Alike items others := by
  subst is
  rcases alike with ⟨missing, _⟩ | ⟨leftForm, rightForm, leftBuilt, rightBuilt, same⟩
  · cases missing
  · obtain ⟨forms, built, rfl⟩ := canonicalValue_shape leftBuilt
    have shape := canonicalValue_shape rightBuilt
    cases right with
    | array others =>
        obtain ⟨otherForms, otherBuilt, rfl⟩ := shape
        rw [denoted, denoted, Value.array.injEq] at same
        exact ⟨others, rfl, alike_items built otherBuilt same⟩
    | object members =>
        obtain ⟨list, rfl⟩ := shape
        cases same
    | undefined => exact shape.elim
    | null | bool | string | number =>
        change rightForm = _ at shape
        subst shape
        cases same

/-- Values that are alike and keep every member are the same up to the order of members. -/
theorem Alike.sameUpToOrder (alike : Alike left right) (storedLeft : Stored left)
    (storedRight : Stored right) (keptLeft : Kept false left) (keptRight : Kept false right) :
    SameUpToOrder false left right := by
  rcases alike with ⟨rfl, -⟩ | ⟨leftForm, rightForm, leftBuilt, rightBuilt, same⟩
  · exact storedLeft.1.elim
  · have leftRebuilt := canonicalValue_rebuilt left (parsed_of_canonical storedLeft leftBuilt)
      leftForm leftBuilt
    have rightRebuilt := canonicalValue_rebuilt right (parsed_of_canonical storedRight rightBuilt)
      rightForm rightBuilt
    calc arrange false left = arrange false (denoted leftForm) :=
          (leftRebuilt.same false keptLeft).symm
      _ = arrange false (denoted rightForm) := by rw [same]
      _ = arrange false right := rightRebuilt.same false keptRight

end

end Vasi.CanonicalForm
