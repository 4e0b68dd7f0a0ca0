import Vasi.NumberText

/-!
# Coercions of parsed values

What JavaScript makes of a parsed value where a text or a set member is expected:
the conversion to a string, the sort order of an array, and membership in a Set.
Two arrays or objects inside one document are two references and never the same
member.
-/
namespace Vasi.Coercion

open JsValue

/-- The text of any number, as String writes it. -/
def numberString : JsNumber → JsString
  | .finite value => JsonText.numberText value
  | .negativeZero => [48]
  | .infinite negative => if negative then js "-Infinity" else js "Infinity"
  | .nan => js "NaN"

mutual
/-- The string conversion of a parsed value; none is its TypeError. An own member
named toString hides the inherited conversion and cannot be called. -/
def toText : Value → Option JsString
  | .undefined => some (js "undefined")
  | .null => some (js "null")
  | .bool value => some (if value then js "true" else js "false")
  | .number value => some (numberString value)
  | .string value => some value
  | .array items => (itemTexts items).map (join (js ","))
  | .object members =>
      if (members.lookup (js "toString")).isSome then none else some (js "[object Object]")

/-- The texts that Array.prototype.join puts together. -/
def itemTexts : List Value → Option (List JsString)
  | [] => some []
  | .undefined :: rest => (itemTexts rest).map fun texts => [] :: texts
  | .null :: rest => (itemTexts rest).map fun texts => [] :: texts
  | item :: rest =>
      (toText item).bind fun text => (itemTexts rest).map fun texts => text :: texts
end

/-- The conversion that a check for a string makes: only a string passes. -/
def stringText : Value → Option JsString
  | .string value => some value
  | _ => none

/-- Whether a value is a string. -/
def isString (value : Value) : Bool := (stringText value).isSome

/-- Array.prototype.join; a conversion that throws does not occur where it is used. -/
def joined (separator : JsString) (items : List Value) : JsString :=
  join separator ((itemTexts items).getD [])

/-- Array.prototype.sort without a comparator: undefined items stand last. -/
def sorted (items : List Value) : List Value :=
  items.insertionSort fun left right =>
    right.isUndefined ||
      !left.isUndefined && decide ((toText left).getD [] ≤ (toText right).getD [])

/-- The equality of members of a Set. -/
def sameMember : Value → Value → Bool
  | .undefined, .undefined | .null, .null => true
  | .bool left, .bool right => left == right
  | .number left, .number right =>
      left.toRat? = right.toRat? && (left = right || left.toRat?.isSome)
  | .string left, .string right => left == right
  | _, _ => false

/-- Set.prototype.has. -/
def has (set : List Value) (value : Value) : Bool := set.any fun member => sameMember member value

/-- Set.prototype.add. -/
def add (set : List Value) (value : Value) : List Value :=
  if has set value then set else set ++ [value]

/-- The Set of the items of an array. -/
def newSet (items : List Value) : List Value := items.foldl add []

theorem stringText_eq_some {value : Value} {text : JsString} :
    stringText value = some text ↔ value = .string text := by
  cases value <;> simp [stringText]

/-- On a string both conversions are the string itself. -/
theorem toText_of_stringText {value : Value} {text : JsString}
    (read : stringText value = some text) : toText value = some text := by
  rw [stringText_eq_some.mp read, toText]

theorem stringText_of_toText {value : Value} {text : JsString} (string : isString value = true)
    (read : toText value = some text) : stringText value = some text := by
  obtain ⟨own, same⟩ := Option.isSome_iff_exists.mp string
  rw [toText_of_stringText same] at read
  rw [same, read]

/-- A member of a Set of strings is a string. -/
theorem isString_of_has {set : List Value} {value : Value}
    (strings : ∀ member ∈ set, isString member = true) (found : has set value = true) :
    isString value = true := by
  obtain ⟨member, inside, same⟩ := List.any_eq_true.mp found
  have string := strings member inside
  cases member <;> cases value <;> simp_all [sameMember, isString, stringText]

/-! ## Parsed values hold no undefined -/

mutual
/-- Nothing inside the value is undefined. -/
def Defined : Value → Prop
  | .undefined => False
  | .array items => DefinedItems items
  | .object members => DefinedMembers members
  | _ => True

def DefinedItems : List Value → Prop
  | [] => True
  | item :: rest => Defined item ∧ DefinedItems rest

def DefinedMembers : Members → Prop
  | [] => True
  | (_, value) :: rest => Defined value ∧ DefinedMembers rest
end

theorem definedItems_iff (items : List Value) :
    DefinedItems items ↔ ∀ item ∈ items, Defined item := by
  induction items with
  | nil => simp [DefinedItems]
  | cons item rest inductionHypothesis => simp [DefinedItems, inductionHypothesis]

theorem definedMembers_iff (members : Members) :
    DefinedMembers members ↔ ∀ entry ∈ members, Defined entry.2 := by
  induction members with
  | nil => simp [DefinedMembers]
  | cons entry rest inductionHypothesis => simp [DefinedMembers, inductionHypothesis]

theorem defined_createMembers {members : Members} (defined : ∀ entry ∈ members, Defined entry.2) :
    ∀ entry ∈ JsonText.createMembers members, Defined entry.2 := by
  have each : ∀ (rest built : Members), (∀ entry ∈ built, Defined entry.2) →
      (∀ entry ∈ rest, Defined entry.2) →
      ∀ entry ∈ rest.foldl (fun built entry => JsonText.createMember built entry.1 entry.2) built,
        Defined entry.2 := by
    intro rest
    induction rest with
    | nil => exact fun built held _ => held
    | cons entry rest inductionHypothesis =>
        intro built held defined
        rw [List.forall_mem_cons] at defined
        refine inductionHypothesis _ (fun other inside => ?_) defined.2
        dsimp only [JsonText.createMember] at inside
        split at inside
        · obtain ⟨old, member, rfl⟩ := List.mem_map.mp inside
          split
          · exact defined.1
          · exact held old member
        · rcases List.mem_append.mp inside with old | new
          · exact held other old
          · rw [List.mem_singleton.mp new]
            exact defined.1
  exact each members [] (by simp) defined

/-- The readers make no undefined. The induction is on the fuel that they share. -/
theorem readers_defined (fuel : ℕ) :
    (∀ text value rest, JsonText.readValue fuel text = some (value, rest) → Defined value) ∧
    (∀ text items rest, JsonText.readItems fuel text = some (items, rest) →
      DefinedItems items) ∧
    (∀ text members rest, JsonText.readMembers fuel text = some (members, rest) →
      DefinedMembers members) := by
  induction fuel with
  | zero => exact ⟨by intros; contradiction, by intros; contradiction, by intros; contradiction⟩
  | succ fuel inductionHypothesis =>
      obtain ⟨values, items, members⟩ := inductionHypothesis
      refine ⟨fun text value rest read => ?_, fun text list rest read => ?_,
        fun text list rest read => ?_⟩
      · rw [JsonText.readValue] at read
        split at read
        · obtain ⟨_, _, same⟩ := Option.map_eq_some_iff.mp read
          cases same
          trivial
        split at read
        · split at read
          · cases read
            trivial
          · obtain ⟨⟨list, left⟩, found, same⟩ := Option.map_eq_some_iff.mp read
            cases same
            exact items _ _ _ found
        split at read
        · split at read
          · cases read
            trivial
          · obtain ⟨⟨list, left⟩, found, same⟩ := Option.map_eq_some_iff.mp read
            cases same
            have defined := (definedMembers_iff list).mp (members _ _ _ found)
            exact (definedMembers_iff _).mpr (defined_createMembers defined)
        split at read
        · obtain ⟨_, _, same⟩ := Option.map_eq_some_iff.mp read
          cases same
          trivial
        split at read
        · obtain ⟨_, _, same⟩ := Option.map_eq_some_iff.mp read
          cases same
          trivial
        split at read
        · obtain ⟨_, _, same⟩ := Option.map_eq_some_iff.mp read
          cases same
          trivial
        · obtain ⟨_, _, same⟩ := Option.map_eq_some_iff.mp read
          cases same
          trivial
      · rw [JsonText.readItems] at read
        obtain ⟨⟨item, left⟩, first, read⟩ := Option.bind_eq_some_iff.mp read
        split at read
        · obtain ⟨⟨later, left⟩, others, same⟩ := Option.map_eq_some_iff.mp read
          cases same
          exact ⟨values _ _ _ first, items _ _ _ others⟩
        · obtain ⟨_, _, same⟩ := Option.map_eq_some_iff.mp read
          cases same
          exact ⟨values _ _ _ first, trivial⟩
      · rw [JsonText.readMembers] at read
        obtain ⟨_, _, read⟩ := Option.bind_eq_some_iff.mp read
        obtain ⟨_, _, read⟩ := Option.bind_eq_some_iff.mp read
        obtain ⟨_, _, read⟩ := Option.bind_eq_some_iff.mp read
        obtain ⟨⟨value, left⟩, first, read⟩ := Option.bind_eq_some_iff.mp read
        split at read
        · obtain ⟨⟨later, left⟩, others, same⟩ := Option.map_eq_some_iff.mp read
          cases same
          exact ⟨values _ _ _ first, members _ _ _ others⟩
        · obtain ⟨_, _, same⟩ := Option.map_eq_some_iff.mp read
          cases same
          exact ⟨values _ _ _ first, trivial⟩

theorem parse_defined {text : JsString} {value : Value} (read : JsonText.parse text = some value) :
    Defined value := by
  unfold JsonText.parse at read
  split at read
  case h_1 parsed rest found =>
    split at read
    · cases read
      exact (readers_defined text.length).1 _ _ _ found
    · cases read
  case h_2 => cases read

/-- What a defined value has under a key is undefined only when the key is absent. -/
theorem key_absent {members : Members} (defined : DefinedMembers members) {key : JsString}
    (absent : (Value.member members key).isUndefined = true) : key ∉ members.map Prod.fst := by
  intro inside
  have found : (members.lookup key).isSome := by
    rw [List.lookup_isSome_iff]
    obtain ⟨entry, member, same⟩ := List.mem_map.mp inside
    exact ⟨entry, member, by simp [same]⟩
  obtain ⟨value, look⟩ := Option.isSome_iff_exists.mp found
  obtain ⟨before, after, split, _⟩ := List.lookup_eq_some_iff.mp look
  have whole := (definedMembers_iff members).mp defined (key, value) (by rw [split]; simp)
  rw [Value.member, look] at absent
  cases value <;> simp_all [Value.isUndefined, Defined]

theorem key_present {members : Members} {key : JsString}
    (present : (Value.member members key).isUndefined = false) : key ∈ members.map Prod.fst := by
  unfold Value.member at present
  cases look : members.lookup key with
  | none => simp [look, Value.isUndefined] at present
  | some value =>
      obtain ⟨before, after, split, _⟩ := List.lookup_eq_some_iff.mp look
      rw [split]
      simp

end Vasi.Coercion
