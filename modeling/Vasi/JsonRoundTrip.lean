import Vasi.JsonStringify

/-!
# JSON round trips of program values

What JSON.parse returns for the text of a program value: undefined members are
dropped, undefined items and numbers without a text become null, and members
come back in property order. Values whose objects list their keys in any order
become JSON values once their members are sorted.
-/
namespace Vasi.JsonText

open JsValue CanonicalJson

/-- Ordering twice is ordering once. -/
theorem propertyOrder_idem {α : Type} (members : List (JsString × α)) :
    propertyOrder (propertyOrder members) = propertyOrder members := by
  have sorted : ∀ entry ∈ (members.filter fun entry => (arrayIndex? entry.1).isSome).insertionSort
      (fun left right => (arrayIndex? left.1).getD 0 ≤ (arrayIndex? right.1).getD 0),
      (arrayIndex? entry.1).isSome = true := by
    intro entry member
    exact (List.mem_filter.mp ((List.perm_insertionSort _ _).mem_iff.mp member)).2
  have named : ∀ entry ∈ members.filter fun entry => (arrayIndex? entry.1).isNone,
      (arrayIndex? entry.1).isNone = true := fun entry member => (List.mem_filter.mp member).2
  have total : Std.Total fun left right : JsString × α =>
      (arrayIndex? left.1).getD 0 ≤ (arrayIndex? right.1).getD 0 := ⟨fun _ _ => le_total _ _⟩
  have transitive : IsTrans (JsString × α) fun left right =>
      (arrayIndex? left.1).getD 0 ≤ (arrayIndex? right.1).getD 0 :=
    ⟨fun _ _ _ first second => le_trans first second⟩
  have ordered := List.pairwise_insertionSort (fun left right : JsString × α =>
    (arrayIndex? left.1).getD 0 ≤ (arrayIndex? right.1).getD 0)
    (members.filter fun entry => (arrayIndex? entry.1).isSome)
  unfold propertyOrder
  rw [List.filter_append, List.filter_append, List.filter_eq_self.mpr sorted,
    List.filter_eq_self.mpr named]
  have noName : (members.filter fun entry => (arrayIndex? entry.1).isNone).filter
      (fun entry => (arrayIndex? entry.1).isSome) = [] := by
    rw [List.filter_eq_nil_iff]
    intro entry member some
    rw [Option.isNone_iff_eq_none.mp (named entry member)] at some
    cases some
  have noIndex : ((members.filter fun entry => (arrayIndex? entry.1).isSome).insertionSort
      (fun left right => (arrayIndex? left.1).getD 0 ≤ (arrayIndex? right.1).getD 0)).filter
      (fun entry => (arrayIndex? entry.1).isNone) = [] := by
    rw [List.filter_eq_nil_iff]
    intro entry member none
    have some := sorted entry member
    rw [Option.isNone_iff_eq_none.mp none] at some
    cases some
  rw [noName, noIndex, List.append_nil, List.nil_append, List.Pairwise.insertionSort_eq ordered]

mutual
/-- Every finite number in the value is a double. -/
def Doubles : Value → Prop
  | .number (.finite value) => IsDouble value
  | .array items => DoublesItems items
  | .object members => DoublesMembers members
  | _ => True

def DoublesItems : List Value → Prop
  | [] => True
  | item :: rest => Doubles item ∧ DoublesItems rest

def DoublesMembers : Members → Prop
  | [] => True
  | (_, value) :: rest => Doubles value ∧ DoublesMembers rest
end

theorem isDouble_zero : IsDouble 0 := by
  constructor
  · simp [Binary64.round, Binary64.roundHalfEven]
  · simp

/-- Membership form of the conditions on members. -/
theorem jsonMembers_iff (members : Members) :
    JsonMembers members ↔ ∀ entry ∈ members, Json entry.2 := by
  induction members with
  | nil => simp [JsonMembers]
  | cons entry members inductionHypothesis => simp [JsonMembers, inductionHypothesis]

/-- What a round trip returns is a JSON value. -/
theorem json_readBack (value : Value) : WellFormed value → Doubles value →
    value.isUndefined = false → Json (readBack propertyOrder value) := by
  induction value using Value.induction
    (fun items => WellFormedItems items ∧ DoublesItems items →
      JsonItems (readBackItems propertyOrder items))
    (fun members => WellFormedMembers members ∧ DoublesMembers members →
      JsonMembers (readBackMembers propertyOrder members))
  case undefined =>
    intro _ _ undefined
    cases undefined
  case null => exact fun _ _ _ => trivial
  case bool value => exact fun _ _ _ => trivial
  case number value =>
    intro _ double _
    cases value with
    | finite value => exact double
    | negativeZero => exact isDouble_zero
    | infinite negative => exact trivial
    | nan => exact trivial
  case string value => exact fun _ _ _ => trivial
  case array items inductionHypothesis =>
    intro formed doubles _
    exact inductionHypothesis ⟨formed, doubles⟩
  case object members inductionHypothesis =>
    intro formed doubles _
    have each := inductionHypothesis ⟨formed.2, doubles⟩
    have same := propertyOrder_perm (readBackMembers propertyOrder members)
    refine ⟨(same.map Prod.fst).nodup_iff.mpr
      (formed.1.sublist (readBackMembers_keys propertyOrder members)), propertyOrder_idem _, ?_⟩
    rw [jsonMembers_iff] at each ⊢
    exact fun entry member => each entry (same.mem_iff.mp member)
  case noItem => exact trivial
  case item head rest first others both =>
    obtain ⟨formed, doubles⟩ := both
    refine ⟨?_, others ⟨formed.2, doubles.2⟩⟩
    cases defined : head.isUndefined with
    | true => exact trivial
    | false => exact first formed.1 doubles.1 defined
  case noMember => exact trivial
  case member key value rest first others both =>
    obtain ⟨formed, doubles⟩ := both
    rw [readBackMembers]
    split_ifs with undefined
    · exact others ⟨formed.2, doubles.2⟩
    · exact ⟨first formed.1 doubles.1 (by simpa using undefined), others ⟨formed.2, doubles.2⟩⟩

theorem stringify_defined (value : Value) :
    (stringify value).isSome = true ↔ value.isUndefined = false := by
  cases value with
  | bool value => cases value <;> simp [stringify, Value.isUndefined]
  | _ => simp [stringify, Value.isUndefined]

/-- The texts of members that have one follow the members. -/
theorem memberTexts_related {members : Members} (defined : ∀ entry ∈ members,
    entry.2.isUndefined = false) :
    List.Forall₂ (fun text entry => text.1 = entry.1 ∧
      ∃ body, stringify entry.2 = some body ∧ text.2 = quote entry.1 ++ 58 :: body)
      (memberTexts members) members := by
  induction members with
  | nil => exact .nil
  | cons entry members inductionHypothesis =>
      obtain ⟨key, value⟩ := entry
      rw [List.forall_mem_cons] at defined
      obtain ⟨text, written⟩ := Option.isSome_iff_exists.mp
        ((stringify_defined value).mpr defined.1)
      rw [memberTexts, written]
      exact .cons ⟨rfl, text, written, rfl⟩ (inductionHypothesis defined.2)

/-- Related texts are determined by the members. -/
theorem memberTexts_determined {texts : List (JsString × JsString)} {members : Members}
    (related : List.Forall₂ (fun text entry => text.1 = entry.1 ∧
      ∃ body, stringify entry.2 = some body ∧ text.2 = quote entry.1 ++ 58 :: body)
      texts members) : texts = memberTexts members := by
  induction related with
  | nil => rfl
  | @cons text entry texts members first _ inductionHypothesis =>
      obtain ⟨key, value⟩ := entry
      obtain ⟨sameKey, body, written, spelled⟩ := first
      rw [memberTexts, written, ← inductionHypothesis]
      exact congrArg (· :: texts) (Prod.ext sameKey spelled)

/-- The texts of ordered members are the ordered texts. -/
theorem memberTexts_propertyOrder {members : Members} (defined : ∀ entry ∈ members,
    entry.2.isUndefined = false) :
    memberTexts (propertyOrder members) = propertyOrder (memberTexts members) :=
  (memberTexts_determined (propertyOrder_forall₂ (fun _ _ related => related.1)
    (memberTexts_related defined))).symm

theorem readBackMembers_defined (order : Members → Members) (members : Members) :
    ∀ entry ∈ readBackMembers order members, entry.2.isUndefined = false := by
  induction members with
  | nil => simp [readBackMembers]
  | cons entry members inductionHypothesis =>
      obtain ⟨key, value⟩ := entry
      rw [readBackMembers]
      split_ifs with undefined
      · exact inductionHypothesis
      · exact List.forall_mem_cons.mpr
          ⟨readBack_defined order value (by simpa using undefined), inductionHypothesis⟩

/-- A value and what its round trip returns have the same text. -/
theorem stringify_readBack (value : Value) :
    value.isUndefined = false → stringify (readBack propertyOrder value) = stringify value := by
  induction value using Value.induction
    (fun items => itemTexts (readBackItems propertyOrder items) = itemTexts items)
    (fun members => memberTexts (readBackMembers propertyOrder members) = memberTexts members)
  case undefined => exact fun _ => rfl
  case null => exact fun _ => rfl
  case bool value => exact fun _ => rfl
  case number value =>
    intro _
    cases value with
    | finite value => rfl
    | negativeZero => simp [readBack, JsNumber.toRat?, stringify, stringifyNumber, numberText]
    | infinite negative => rfl
    | nan => rfl
  case string value => exact fun _ => rfl
  case array items inductionHypothesis =>
    intro _
    rw [readBack, stringify, stringify, inductionHypothesis]
  case object members inductionHypothesis =>
    intro _
    rw [readBack, stringify, stringify,
      memberTexts_propertyOrder (readBackMembers_defined propertyOrder members),
      propertyOrder_idem, inductionHypothesis]
  case noItem => rfl
  case item head rest first others =>
    rw [readBackItems, itemTexts, itemTexts, others]
    cases defined : head.isUndefined with
    | true =>
        obtain rfl : head = .undefined := by cases head <;> simp_all [Value.isUndefined]
        rfl
    | false =>
        simp only [Bool.false_eq_true, if_false]
        rw [first defined]
  case noMember => rfl
  case member key value rest first others =>
    rw [readBackMembers]
    cases defined : value.isUndefined with
    | true =>
        obtain rfl : value = .undefined := by cases value <;> simp_all [Value.isUndefined]
        simpa [memberTexts, stringify] using others
    | false =>
        simp only [Bool.false_eq_true, if_false]
        rw [memberTexts, memberTexts, first defined, others]

/-- JSON.parse of the text of a program value. -/
theorem parse_stringify_readBack {value : Value} (formed : WellFormed value)
    (doubles : Doubles value) (defined : value.isUndefined = false) :
    (stringify value).bind parse = some (readBack propertyOrder value) := by
  rw [← stringify_readBack value defined]
  exact parse_stringify (json_readBack value formed doubles defined)

/-! ## Sorted members -/

mutual
/-- A value that JSON can carry, its objects listing distinct keys in any order. -/
def Carried : Value → Prop
  | .undefined => False
  | .number (.finite value) => IsDouble value
  | .number _ => False
  | .array items => CarriedItems items
  | .object members => (members.map Prod.fst).Nodup ∧ CarriedMembers members
  | _ => True

def CarriedItems : List Value → Prop
  | [] => True
  | item :: rest => Carried item ∧ CarriedItems rest

def CarriedMembers : Members → Prop
  | [] => True
  | (_, value) :: rest => Carried value ∧ CarriedMembers rest
end

theorem carriedMembers_iff (members : Members) :
    CarriedMembers members ↔ ∀ entry ∈ members, Carried entry.2 := by
  induction members with
  | nil => simp [CarriedMembers]
  | cons entry members inductionHypothesis => simp [CarriedMembers, inductionHypothesis]

/-- A stored JSON value comes back as one, with the store's member order. -/
theorem carried_readBack {order : Members → Members}
    (rearranges : ∀ members, (order members).Perm members) (value : Value) :
    Json value → Carried (readBack order value) := by
  induction value using Value.induction
    (fun items => JsonItems items → CarriedItems (readBackItems order items))
    (fun members => JsonMembers members → CarriedMembers (readBackMembers order members))
  case undefined => exact False.elim
  case null => exact fun _ => trivial
  case bool value => exact fun _ => trivial
  case number value =>
    intro json
    cases value with
    | finite value => exact json
    | negativeZero => exact json.elim
    | infinite negative => exact json.elim
    | nan => exact json.elim
  case string value => exact fun _ => trivial
  case array items inductionHypothesis => exact inductionHypothesis
  case object members inductionHypothesis =>
    rintro ⟨distinct, _, json⟩
    have each := inductionHypothesis json
    have same := rearranges (readBackMembers order members)
    refine ⟨(same.map Prod.fst).nodup_iff.mpr
      (distinct.sublist (readBackMembers_keys order members)), ?_⟩
    rw [carriedMembers_iff] at each ⊢
    exact fun entry member => each entry (same.mem_iff.mp member)
  case noItem => exact trivial
  case item head rest first others json =>
    refine ⟨?_, others json.2⟩
    split_ifs
    · exact trivial
    · exact first json.1
  case noMember => exact trivial
  case member key value rest first others json =>
    rw [readBackMembers]
    split_ifs
    · exact others json.2
    · exact ⟨first json.1, others json.2⟩

/-- A JSON value lists each key once, and its numbers are doubles. -/
theorem json_formed (value : Value) : Json value → WellFormed value ∧ Doubles value := by
  induction value using Value.induction
    (fun items => JsonItems items → WellFormedItems items ∧ DoublesItems items)
    (fun members => JsonMembers members → WellFormedMembers members ∧ DoublesMembers members)
  case undefined => exact False.elim
  case null => exact fun _ => ⟨trivial, trivial⟩
  case bool value => exact fun _ => ⟨trivial, trivial⟩
  case number value =>
    intro json
    cases value with
    | finite value => exact ⟨trivial, json⟩
    | negativeZero => exact json.elim
    | infinite negative => exact json.elim
    | nan => exact json.elim
  case string value => exact fun _ => ⟨trivial, trivial⟩
  case array items inductionHypothesis => exact inductionHypothesis
  case object members inductionHypothesis =>
    rintro ⟨distinct, _, json⟩
    exact ⟨⟨distinct, (inductionHypothesis json).1⟩, (inductionHypothesis json).2⟩
  case noItem => exact ⟨trivial, trivial⟩
  case item head rest first others json =>
    exact ⟨⟨(first json.1).1, (others json.2).1⟩, ⟨(first json.1).2, (others json.2).2⟩⟩
  case noMember => exact ⟨trivial, trivial⟩
  case member key value rest first others json =>
    exact ⟨⟨(first json.1).1, (others json.2).1⟩, ⟨(first json.1).2, (others json.2).2⟩⟩

end Vasi.JsonText
