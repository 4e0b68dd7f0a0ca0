import Vasi.JsonText

/-!
# The canonical form is faithful off `__proto__`

Two values as JSON.parse produces them are compared up to the order in which
their objects list their members. Rebuilding an object assigns its members one
by one, and the assignment to `__proto__` sets a prototype instead of a member.
On every value that has no such member the canonical text determines the value
and reads back as it; on every other value it does not.

Whether the two zeros are the same number is a parameter: they are equal under
`===` and have one canonical text.
-/
namespace Vasi.CanonicalForm

open JsValue CanonicalJson JsonText

mutual
/-- A value as JSON.parse produces it, all numbers being safe integers. -/
def Parsed : Value → Prop
  | .undefined => False
  | .null | .bool _ | .string _ => True
  | .number number => number.isSafeInteger = true
  | .array items => ParsedItems items
  | .object members => (members.map Prod.fst).Nodup ∧ ParsedMembers members

def ParsedItems : List Value → Prop
  | [] => True
  | item :: rest => Parsed item ∧ ParsedItems rest

def ParsedMembers : Members → Prop
  | [] => True
  | (_, value) :: rest => Parsed value ∧ ParsedMembers rest
end

mutual
/-- The value with the members of every object listed in key order, and with
one zero unless the zeros are told apart. -/
def arrange (signed : Bool) : Value → Value
  | .number .negativeZero => if signed then .number .negativeZero else .number (.finite 0)
  | .array items => .array (arrangeItems signed items)
  | .object members => .object ((arrangeMembers signed members).insertionSort keyOrder)
  | value => value

def arrangeItems (signed : Bool) : List Value → List Value
  | [] => []
  | item :: rest => arrange signed item :: arrangeItems signed rest

def arrangeMembers (signed : Bool) : Members → Members
  | [] => []
  | (key, value) :: rest => (key, arrange signed value) :: arrangeMembers signed rest
end

/-- Equality up to the order of object members. -/
def SameUpToOrder (signed : Bool) (left right : Value) : Prop :=
  arrange signed left = arrange signed right

mutual
/-- No object has a `__proto__` member, nor is a number the negative zero where
the zeros are told apart. -/
def Kept (signed : Bool) : Value → Prop
  | .number number => signed = true → number ≠ .negativeZero
  | .array items => KeptItems signed items
  | .object members => KeptMembers signed members
  | _ => True

def KeptItems (signed : Bool) : List Value → Prop
  | [] => True
  | item :: rest => Kept signed item ∧ KeptItems signed rest

def KeptMembers (signed : Bool) : Members → Prop
  | [] => True
  | (key, value) :: rest => key ≠ js "__proto__" ∧ Kept signed value ∧ KeptMembers signed rest
end

/-- JSON.parse(canonicalJSON(value)) is the value up to member order. -/
def ReadsBack (signed : Bool) (value : Value) : Prop :=
  ∃ text back, canonicalJSON value = .ok text ∧ parse text = some back ∧
    SameUpToOrder signed back value

/-- Both values read back, and they share a canonical text exactly when they
are equal up to member order. -/
def Faithful (signed : Bool) (left right : Value) : Prop :=
  (canonicalJSON left = canonicalJSON right ↔ SameUpToOrder signed left right) ∧
    ReadsBack signed left ∧ ReadsBack signed right

/-! ## Members as lists -/

theorem arrangeMembers_map (signed : Bool) (members : Members) :
    arrangeMembers signed members =
      members.map fun entry => (entry.1, arrange signed entry.2) := by
  induction members with
  | nil => rfl
  | cons entry rest inductionHypothesis => simp [arrangeMembers, inductionHypothesis]

theorem denotedMembers_map (members : List (JsString × Canonical)) :
    denotedMembers members = members.map fun entry => (entry.1, denoted entry.2) := by
  induction members with
  | nil => rfl
  | cons entry rest inductionHypothesis => simp [denotedMembers, inductionHypothesis]

/-- Nothing that was parsed is undefined. -/
theorem Parsed.defined {value : Value} (parsed : Parsed value) : value.isUndefined = false := by
  cases value <;> simp_all [Parsed, Value.isUndefined]

theorem canonicalMembers_map {members : Members} (parsed : ParsedMembers members) :
    canonicalMembers members = members.map fun entry => (entry.1, canonicalValue entry.2) := by
  induction members with
  | nil => rfl
  | cons entry rest inductionHypothesis =>
      obtain ⟨key, value⟩ := entry
      simp [canonicalMembers, Parsed.defined parsed.1, inductionHypothesis parsed.2]

theorem parsedMembers_iff (members : Members) :
    ParsedMembers members ↔ ∀ entry ∈ members, Parsed entry.2 := by
  induction members with
  | nil => simp [ParsedMembers]
  | cons entry rest inductionHypothesis => simp [ParsedMembers, inductionHypothesis]

theorem keptMembers_iff (signed : Bool) (members : Members) :
    KeptMembers signed members ↔
      ∀ entry ∈ members, entry.1 ≠ js "__proto__" ∧ Kept signed entry.2 := by
  induction members with
  | nil => simp [KeptMembers]
  | cons entry rest inductionHypothesis => simp [KeptMembers, inductionHypothesis, and_assoc]

theorem soundMembers_iff (members : List (JsString × Canonical)) :
    SoundMembers members ↔ ∀ entry ∈ members, Sound entry.2 := by
  induction members with
  | nil => simp [SoundMembers]
  | cons entry rest inductionHypothesis => simp [SoundMembers, inductionHypothesis]

/-- Assigning members succeeds with exactly the outcomes it was given. -/
theorem assignAll_ok {members : List (JsString × Except JsString Canonical)}
    {assigned : List (JsString × Canonical)} (done : assignAll members = .ok assigned) :
    members = assigned.map fun entry => (entry.1, .ok entry.2) := by
  induction members generalizing assigned with
  | nil =>
      cases done
      rfl
  | cons entry rest inductionHypothesis =>
      obtain ⟨key, outcome⟩ := entry
      cases outcome with
      | error message => cases done
      | ok value =>
          cases tail : assignAll rest with
          | error message => simp [assignAll, bind, Except.bind, tail] at done
          | ok later =>
              simp only [assignAll, bind, Except.bind, tail, pure, Except.pure,
                Except.ok.injEq] at done
              subst done
              simpa using inductionHypothesis tail

/-- A rebuilt object holds the rebuilt members other than `__proto__`. -/
theorem canonicalObject_ok {members : Members} (parsed : ParsedMembers members)
    {form : Canonical} (built : canonicalValue (.object members) = .ok form) :
    ∃ assigned kept : List (JsString × Canonical), form = .object kept ∧
      kept.Perm (assigned.filter fun entry => entry.1 ≠ js "__proto__") ∧
      (assigned.map fun entry => (entry.1, Except.ok entry.2)).Perm
        (members.map fun entry => (entry.1, canonicalValue entry.2)) := by
  rw [canonicalValue, canonicalObject] at built
  cases done : assignAll ((canonicalMembers members).insertionSort keyOrder) with
  | error message => simp [done, bind, Except.bind] at built
  | ok assigned =>
      simp only [done, bind, Except.bind, pure, Except.pure, Except.ok.injEq] at built
      refine ⟨assigned, _, built.symm, propertyOrder_perm _, ?_⟩
      rw [← assignAll_ok done, ← canonicalMembers_map parsed]
      exact List.perm_insertionSort keyOrder _

/-- The members of a rebuilt object are rebuilt members of the original. -/
theorem canonicalObject_members {members : Members}
    {assigned kept : List (JsString × Canonical)}
    (fewer : kept.Perm (assigned.filter fun entry => entry.1 ≠ js "__proto__"))
    (all : (assigned.map fun entry => (entry.1, Except.ok entry.2)).Perm
      (members.map fun entry => (entry.1, canonicalValue entry.2)))
    {entry : JsString × Canonical} (member : entry ∈ kept) :
    entry.1 ≠ js "__proto__" ∧
      ∃ value, (entry.1, value) ∈ members ∧ canonicalValue value = .ok entry.2 := by
  obtain ⟨assignedHere, other⟩ := List.mem_filter.mp (fewer.mem_iff.mp member)
  have listed := all.mem_iff.mp (List.mem_map_of_mem assignedHere)
  obtain ⟨original, inside, same⟩ := List.mem_map.mp listed
  simp only [Prod.mk.injEq] at same
  exact ⟨by simpa using other, original.2, same.1 ▸ inside, same.2⟩

/-! ## Rebuilding -/

/-- Dropping the sign of zero keeps what was kept. -/
theorem Kept.unsigned {value : Value} : Kept true value → Kept false value := by
  induction value using Value.induction
    (fun items => KeptItems true items → KeptItems false items)
    (fun members => KeptMembers true members → KeptMembers false members) with
  | number number => exact fun _ signed => absurd signed (by decide)
  | array items inductionHypothesis => exact inductionHypothesis
  | object members inductionHypothesis => exact inductionHypothesis
  | item item rest itemExact restExact kept => exact ⟨itemExact kept.1, restExact kept.2⟩
  | member key value rest valueExact restExact kept =>
      exact ⟨kept.1, valueExact kept.2.1, restExact kept.2.2⟩
  | noItem => trivial
  | noMember => trivial
  | _ => exact id

/-- What rebuilding a value guarantees about the result. -/
structure Rebuilt (value : Value) (form : Canonical) : Prop where
  sound : Sound form
  kept : Kept true (denoted form)
  same : ∀ signed, Kept signed value → SameUpToOrder signed (denoted form) value

/-- The arranged value of a rebuilt member. -/
def arrangedOutcome (signed : Bool) : Except JsString Canonical → Value
  | .ok form => arrange signed (denoted form)
  | .error _ => .null

/-- Rebuilding an object, given what rebuilding each member guarantees. -/
theorem rebuilt_object {members : Members} (parsed : Parsed (.object members))
    (each : ∀ entry ∈ members, ∀ form, canonicalValue entry.2 = .ok form → Rebuilt entry.2 form)
    {form : Canonical} (built : canonicalValue (.object members) = .ok form) :
    Rebuilt (.object members) form := by
  obtain ⟨assigned, kept, rfl, fewer, all⟩ := canonicalObject_ok parsed.2 built
  have origin := fun entry (member : entry ∈ kept) =>
    canonicalObject_members fewer all member
  have keys : (assigned.map Prod.fst).Perm (members.map Prod.fst) := by
    have mapped := all.map Prod.fst
    simpa [Function.comp_def] using mapped
  have distinct : (kept.map Prod.fst).Nodup := by
    have smaller := (List.filter_sublist (l := assigned)
      (p := fun entry => entry.1 ≠ js "__proto__")).map Prod.fst
    exact (fewer.map Prod.fst).nodup_iff.mpr ((keys.nodup_iff.mpr parsed.1).sublist smaller)
  refine ⟨⟨distinct, (soundMembers_iff kept).mpr fun entry member => ?_⟩, ?_, ?_⟩
  · obtain ⟨_, value, inside, rebuilt⟩ := origin entry member
    exact (each _ inside _ rebuilt).sound
  · rw [denoted, Kept, keptMembers_iff, denotedMembers_map]
    intro entry member
    obtain ⟨source, inside, rfl⟩ := List.mem_map.mp member
    obtain ⟨other, value, listed, rebuilt⟩ := origin source inside
    exact ⟨other, (each _ listed _ rebuilt).kept⟩
  · intro signed keptMembers
    have clean := (keptMembers_iff signed members).mp keptMembers
    -- No member is `__proto__`, so the filter keeps every assigned member.
    have whole : (assigned.filter fun entry => entry.1 ≠ js "__proto__") = assigned := by
      rw [List.filter_eq_self]
      intro entry member
      have listed := keys.mem_iff.mp (List.mem_map_of_mem member)
      obtain ⟨original, inside, same⟩ := List.mem_map.mp listed
      simpa [← same] using (clean original inside).1
    rw [whole] at fewer
    have arranged := all.map fun entry : JsString × Except JsString Canonical =>
      (entry.1, arrangedOutcome signed entry.2)
    have outcomes : members.map ((fun entry : JsString × Except JsString Canonical =>
        (entry.1, arrangedOutcome signed entry.2)) ∘
          fun entry => (entry.1, canonicalValue entry.2)) =
        arrangeMembers signed members := by
      rw [arrangeMembers_map]
      refine List.map_congr_left fun entry member => ?_
      have succeeds : ∃ form, canonicalValue entry.2 = .ok form := by
        have listed := all.mem_iff.mpr
          (List.mem_map_of_mem (f := fun entry : JsString × Value =>
            (entry.1, canonicalValue entry.2)) member)
        obtain ⟨source, _, same⟩ := List.mem_map.mp listed
        simp only [Prod.mk.injEq] at same
        exact ⟨source.2, same.2.symm⟩
      obtain ⟨form, rebuilt⟩ := succeeds
      have same : arrange signed (denoted form) = arrange signed entry.2 :=
        (each entry member form rebuilt).same signed (clean entry member).2
      simpa [rebuilt, arrangedOutcome] using same
    rw [List.map_map, List.map_map, outcomes] at arranged
    unfold SameUpToOrder
    rw [denoted, arrange, arrange]
    refine congrArg _ (insertionSort_perm ?_ ?_)
    · rw [denotedMembers_map, arrangeMembers_map, List.map_map]
      exact (fewer.map _).trans arranged
    · rw [denotedMembers_map, arrangeMembers_map, List.map_map, List.map_map]
      exact distinct

/-- Rebuilding a parsed value gives a sound form without `__proto__` members
that denotes the value, wherever it had none itself. The induction follows the
value together with its item and member lists. -/
theorem canonicalValue_rebuilt (value : Value) :
    Parsed value → ∀ form, canonicalValue value = .ok form → Rebuilt value form := by
  induction value using Value.induction
    (fun items => ParsedItems items → ∀ forms, canonicalItems items = .ok forms →
      SoundItems forms ∧ KeptItems true (denotedItems forms) ∧ ∀ signed, KeptItems signed items →
        arrangeItems signed (denotedItems forms) = arrangeItems signed items)
    (fun members => ParsedMembers members → ∀ entry ∈ members, ∀ form,
      canonicalValue entry.2 = .ok form → Rebuilt entry.2 form) with
  | undefined =>
      intro parsed
      exact parsed.elim
  | null =>
      rintro - form ⟨⟩
      exact ⟨trivial, trivial, fun _ _ => rfl⟩
  | bool value =>
      rintro - form ⟨⟩
      exact ⟨trivial, trivial, fun _ _ => rfl⟩
  | string value =>
      rintro - form ⟨⟩
      exact ⟨trivial, trivial, fun _ _ => rfl⟩
  | number number =>
      intro safe form built
      rw [canonicalValue, if_pos (show number.isSafeInteger = true from safe)] at built
      cases built
      cases number with
      | finite value =>
          simp only [Parsed, JsNumber.isSafeInteger, JsNumber.toRat?, Bool.and_eq_true, beq_iff_eq,
            decide_eq_true_eq] at safe
          have whole : ((value.num : ℤ) : ℚ) = value := Rat.coe_int_num_of_den_eq_one safe.1
          refine ⟨?_, by simp [denoted, Kept], fun signed _ => ?_⟩
          · simp only [Sound, JsNumber.toRat?, Option.getD_some]
            omega
          · simp [SameUpToOrder, denoted, JsNumber.toRat?, whole]
      | negativeZero =>
          refine ⟨by simp [Sound, JsNumber.toRat?], by simp [denoted, Kept], fun signed kept => ?_⟩
          have unsigned : signed = false := by
            cases signed with
            | false => rfl
            | true => exact absurd rfl (kept rfl)
          subst unsigned
          simp [SameUpToOrder, denoted, arrange, JsNumber.toRat?]
      | infinite negative => simp [Parsed, JsNumber.isSafeInteger, JsNumber.toRat?] at safe
      | nan => simp [Parsed, JsNumber.isSafeInteger, JsNumber.toRat?] at safe
  | array items inductionHypothesis =>
      intro parsed form built
      cases rebuilt : canonicalItems items with
      | error message => simp [canonicalValue, rebuilt, Except.map] at built
      | ok forms =>
          simp only [canonicalValue, rebuilt, Except.map, Except.ok.injEq] at built
          subst built
          obtain ⟨sound, kept, same⟩ := inductionHypothesis parsed forms rebuilt
          refine ⟨sound, kept, fun signed clean => ?_⟩
          unfold SameUpToOrder
          rw [denoted, arrange, arrange, same signed clean]
  | object members inductionHypothesis =>
      intro parsed form built
      exact rebuilt_object parsed (inductionHypothesis parsed.2) built
  | noItem parsed forms built =>
      cases built
      exact ⟨trivial, trivial, fun _ _ => rfl⟩
  | item item rest itemRebuilt restRebuilt parsed forms built =>
      cases head : canonicalValue item with
      | error message => simp [canonicalItems, head, bind, Except.bind] at built
      | ok form =>
          cases tail : canonicalItems rest with
          | error message => simp [canonicalItems, head, tail, bind, Except.bind] at built
          | ok later =>
              simp only [canonicalItems, head, tail, bind, Except.bind, pure, Except.pure,
                Except.ok.injEq] at built
              subst built
              have first := itemRebuilt parsed.1 form head
              obtain ⟨sound, kept, same⟩ := restRebuilt parsed.2 later tail
              refine ⟨⟨first.sound, sound⟩, ⟨first.kept, kept⟩, fun signed clean => ?_⟩
              have headSame : arrange signed (denoted form) = arrange signed item :=
                first.same signed clean.1
              rw [denotedItems, arrangeItems, arrangeItems, headSame, same signed clean.2]
  | noMember parsed entry member form built => cases member
  | member key value rest valueRebuilt restRebuilt parsed entry member form built =>
      cases List.mem_cons.mp member with
      | inl here =>
          subst here
          exact valueRebuilt parsed.1 form built
      | inr later => exact restRebuilt parsed.2 entry later form built

/-! ## Arranging -/

theorem arrange_defined (signed : Bool) {value : Value} (defined : value.isUndefined = false) :
    (arrange signed value).isUndefined = false := by
  cases value with
  | number number => cases number <;> cases signed <;> rfl
  | undefined => cases defined
  | _ => rfl

/-- The canonical form does not see how members are arranged. -/
theorem canonicalValue_arrange (signed : Bool) (value : Value) :
    Parsed value → canonicalValue (arrange signed value) = canonicalValue value := by
  induction value using Value.induction
    (fun items => ParsedItems items →
      canonicalItems (arrangeItems signed items) = canonicalItems items)
    (fun members => ParsedMembers members →
      canonicalMembers (arrangeMembers signed members) = canonicalMembers members) with
  | undefined => intros; rfl
  | null => intros; rfl
  | bool value => intros; rfl
  | string value => intros; rfl
  | number number =>
      intro _
      cases number <;> cases signed <;> rfl
  | array items inductionHypothesis =>
      intro parsed
      rw [arrange, canonicalValue, canonicalValue, inductionHypothesis parsed]
  | object members inductionHypothesis =>
      intro parsed
      have exact := inductionHypothesis parsed.2
      have sorted := canonicalMembers_perm
        (List.perm_insertionSort keyOrder (arrangeMembers signed members))
      rw [exact] at sorted
      rw [arrange, canonicalValue, canonicalValue]
      refine (canonicalObject_perm sorted.symm ?_).symm
      exact parsed.1.sublist (canonicalMembers_keys members)
  | noItem => rfl
  | item item rest itemSame restSame parsed =>
      rw [arrangeItems, canonicalItems, canonicalItems, itemSame parsed.1, restSame parsed.2]
  | noMember => rfl
  | member key value rest valueSame restSame parsed =>
      have defined := Parsed.defined parsed.1
      rw [arrangeMembers, canonicalMembers, canonicalMembers, defined,
        arrange_defined signed defined, valueSame parsed.1, restSame parsed.2]

/-- Arranging neither adds nor loses what the canonical form drops. -/
theorem kept_arrange (signed : Bool) (value : Value) :
    Kept signed (arrange signed value) ↔ Kept signed value := by
  induction value using Value.induction
    (fun items => KeptItems signed (arrangeItems signed items) ↔ KeptItems signed items)
    (fun members => KeptMembers signed (arrangeMembers signed members) ↔
      KeptMembers signed members) with
  | undefined => rfl
  | null => rfl
  | bool value => rfl
  | string value => rfl
  | number number => cases number <;> cases signed <;> simp [arrange, Kept]
  | array items inductionHypothesis => exact inductionHypothesis
  | object members inductionHypothesis =>
      rw [arrange, Kept, Kept, ← inductionHypothesis, keptMembers_iff, keptMembers_iff]
      simp only [(List.perm_insertionSort keyOrder _).mem_iff]
  | noItem => rfl
  | item item rest itemSame restSame =>
      rw [arrangeItems, KeptItems, KeptItems, itemSame, restSame]
  | noMember => rfl
  | member key value rest valueSame restSame =>
      rw [arrangeMembers, KeptMembers, KeptMembers, valueSame, restSame]

/-- Every parsed value has a canonical form. -/
theorem parsed_representable (value : Value) : Parsed value → Representable value := by
  induction value using Value.induction
    (fun items => ParsedItems items → RepresentableItems items)
    (fun members => ParsedMembers members → RepresentableMembers members) with
  | undefined => exact id
  | null => exact id
  | bool value => exact id
  | string value => exact id
  | number number => exact id
  | array items inductionHypothesis => exact inductionHypothesis
  | object members inductionHypothesis => exact fun parsed => inductionHypothesis parsed.2
  | noItem => trivial
  | item item rest itemExact restExact parsed => exact ⟨itemExact parsed.1, restExact parsed.2⟩
  | noMember => trivial
  | member key value rest valueExact restExact parsed =>
      exact ⟨.inr (valueExact parsed.1), restExact parsed.2⟩

/-! ## Faithfulness -/

/-- A canonical text determines the canonical form. -/
theorem text_injective {left right : Canonical} (soundLeft : Sound left)
    (soundRight : Sound right) (same : text left = text right) : denoted left = denoted right := by
  have readLeft := parse_text left soundLeft
  rw [same, parse_text right soundRight] at readLeft
  exact (Option.some.inj readLeft).symm

/-- A value reads back exactly when the canonical form drops nothing of it. -/
theorem readsBack_iff (signed : Bool) {value : Value} (parsed : Parsed value) :
    ReadsBack signed value ↔ Kept signed value := by
  obtain ⟨form, built⟩ := (canonicalValue_succeeds value).mpr (parsed_representable value parsed)
  have rebuilt := canonicalValue_rebuilt value parsed form built
  have written : canonicalJSON value = .ok (text form) := by rw [canonicalJSON, built, Except.map]
  constructor
  · rintro ⟨_, back, same, read, equal⟩
    rw [written, Except.ok.injEq] at same
    rw [← same, parse_text form rebuilt.sound, Option.some.injEq] at read
    subst read
    have kept : Kept signed (denoted form) := by
      cases signed with
      | true => exact rebuilt.kept
      | false => exact rebuilt.kept.unsigned
    rw [← kept_arrange, ← equal, kept_arrange]
    exact kept
  · intro kept
    exact ⟨_, denoted form, written, parse_text form rebuilt.sound, rebuilt.same signed kept⟩

/-- The canonical form is faithful on a pair of values exactly when neither has
anything it drops. -/
theorem faithful_iff_kept (signed : Bool) (left right : Value) (parsedLeft : Parsed left)
    (parsedRight : Parsed right) :
    Faithful signed left right ↔ Kept signed left ∧ Kept signed right := by
  unfold Faithful
  rw [readsBack_iff signed parsedLeft, readsBack_iff signed parsedRight]
  refine ⟨fun faithful => faithful.2, fun kept => ⟨⟨fun same => ?_, fun same => ?_⟩, kept⟩⟩
  · obtain ⟨leftForm, leftBuilt⟩ :=
      (canonicalValue_succeeds left).mpr (parsed_representable left parsedLeft)
    obtain ⟨rightForm, rightBuilt⟩ :=
      (canonicalValue_succeeds right).mpr (parsed_representable right parsedRight)
    have leftRebuilt := canonicalValue_rebuilt left parsedLeft leftForm leftBuilt
    have rightRebuilt := canonicalValue_rebuilt right parsedRight rightForm rightBuilt
    rw [canonicalJSON, canonicalJSON, leftBuilt, rightBuilt, Except.map, Except.map,
      Except.ok.injEq] at same
    have denotes := text_injective leftRebuilt.sound rightRebuilt.sound same
    calc arrange signed left = arrange signed (denoted leftForm) :=
          (leftRebuilt.same signed kept.1).symm
      _ = arrange signed (denoted rightForm) := by rw [denotes]
      _ = arrange signed right := rightRebuilt.same signed kept.2
  · unfold SameUpToOrder at same
    rw [canonicalJSON, canonicalJSON, ← canonicalValue_arrange signed left parsedLeft, same,
      canonicalValue_arrange signed right parsedRight]

/-- `{"__proto__": 1}`, as JSON.parse produces it. -/
def prototypeMember : Value := .object [(js "__proto__", .number (.finite 1))]

theorem prototypeMember_parsed : Parsed prototypeMember := by
  refine ⟨by simp, ?_, trivial⟩
  change JsNumber.isSafeInteger (.finite 1) = true
  decide

theorem faithful_iff_kept_prototypeMember :
    Faithful false prototypeMember (.object []) ↔
      Kept false prototypeMember ∧ Kept false (.object []) :=
  faithful_iff_kept false _ _ prototypeMember_parsed ⟨List.nodup_nil, trivial⟩

/-- A value with an own `__proto__` member has the canonical text of the empty
object. -/
theorem prototypeMember_not_faithful :
    Parsed prototypeMember ∧ ¬ Faithful false prototypeMember (.object []) := by
  refine ⟨prototypeMember_parsed, ?_⟩
  rintro ⟨⟨collides, _⟩, _⟩
  have same := collides rfl
  simp [SameUpToOrder, arrange, arrangeMembers, prototypeMember] at same

end Vasi.CanonicalForm
