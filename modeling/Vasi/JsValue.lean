import Mathlib.Data.List.Lex
import Mathlib.Data.List.Perm.Basic
import Mathlib.Data.List.Sort
import Mathlib.Data.Rat.Defs
import Mathlib.Algebra.Order.Ring.Rat

/-!
# JavaScript data values

The plain data a JSON document carries: strings as sequences of UTF-16 code
units, numbers as exact values of finite doubles with the remaining
non-rational cases named, and values built from arrays and own enumerable
members. A member that is present with the value undefined is distinguished
from an absent one here, and every operation below says what it does with it.

Functions, dates, symbols and prototypes are not modelled. Rounding is not
modelled here either: a finite number is the rational number it denotes.
-/
namespace Vasi.JsValue

/-- One UTF-16 code unit. -/
abbrev CodeUnit := Fin 65536

/-- A JavaScript string is its sequence of code units, lone surrogates included. -/
abbrev JsString := List CodeUnit

-- Numerals and comparisons of code units rest on these by name, in every module alike.
instance codeUnit_neZero : @NeZero ℕ Zero.ofOfNat0 65536 := ⟨Nat.succ_ne_zero 65535⟩

instance codeUnit_lawful : LawfulBEq CodeUnit := inferInstance

instance jsString_lawful : LawfulBEq JsString := inferInstance

/-- The code units of one Unicode scalar value. -/
def codeUnits (character : Char) : JsString :=
  if character.toNat < 0x10000 then [Fin.ofNat 65536 character.toNat]
  else
    [Fin.ofNat 65536 (0xD800 + (character.toNat - 0x10000) / 0x400),
     Fin.ofNat 65536 (0xDC00 + (character.toNat - 0x10000) % 0x400)]

/-- The JavaScript string a source literal denotes. -/
def js (literal : String) : JsString := literal.toList.flatMap codeUnits

/-- A number value. Finite doubles other than negative zero are the rational
number they denote. -/
inductive JsNumber where
  | finite (value : ℚ)
  | negativeZero
  | infinite (negative : Bool)
  | nan
deriving DecidableEq

namespace JsNumber

/-- The rational value of a finite number; both zeros denote zero. -/
def toRat? : JsNumber → Option ℚ
  | finite value => some value
  | negativeZero => some 0
  | infinite _ | nan => none

/-- Number.isInteger. -/
def isInteger (number : JsNumber) : Bool :=
  match number.toRat? with
  | some value => value.den == 1
  | none => false

/-- Number.isSafeInteger: an integer of magnitude at most 2^53 - 1. -/
def isSafeInteger (number : JsNumber) : Bool :=
  match number.toRat? with
  | some value => value.den == 1 && value.num.natAbs ≤ 2 ^ 53 - 1
  | none => false

end JsNumber

/-- A data value. The members of an object stand in creation order. -/
inductive Value where
  | undefined
  | null
  | bool (value : Bool)
  | number (value : JsNumber)
  | string (value : JsString)
  | array (items : List Value)
  | object (members : List (JsString × Value))

/-- The members of an object value. -/
abbrev Members := List (JsString × Value)

namespace Value

/-- Reading an own member; an absent one reads as undefined. -/
def member (members : Members) (key : JsString) : Value :=
  (members.lookup key).getD .undefined

/-- Optional member access: a value without own members reads as undefined. -/
def get (value : Value) (key : JsString) : Value :=
  match value with
  | object members => member members key
  | _ => undefined

/-- Whether a value is neither null nor undefined. -/
def isPresent : Value → Bool
  | undefined | null => false
  | _ => true

/-- The boolean an if statement sees. -/
def truthy : Value → Bool
  | undefined | null => false
  | bool value => value
  | number (.finite value) => value ≠ 0
  | number .negativeZero | number .nan => false
  | number (.infinite _) => true
  | string value => value ≠ []
  | array _ | object _ => true

/-- Whether a value is the undefined value. -/
def isUndefined : Value → Bool
  | undefined => true
  | _ => false

end Value

/-- Induction over a value together with its item and member lists. -/
theorem Value.induction {motive : Value → Prop} (items : List Value → Prop)
    (members : Members → Prop)
    (undefined : motive .undefined) (null : motive .null)
    (bool : ∀ value, motive (.bool value)) (number : ∀ value, motive (.number value))
    (string : ∀ value, motive (.string value))
    (array : ∀ list, items list → motive (.array list))
    (object : ∀ list, members list → motive (.object list))
    (noItem : items []) (item : ∀ head rest, motive head → items rest → items (head :: rest))
    (noMember : members [])
    (member : ∀ key value rest, motive value → members rest → members ((key, value) :: rest))
    (value : Value) : motive value :=
  @Value.rec motive items members (fun entry => motive entry.2)
    undefined null bool number string array object noItem item noMember
    (fun entry rest head tail => member entry.1 entry.2 rest head tail)
    (fun _ _ exact => exact) value

/-! ## Well-formed values -/

mutual
/-- Every object in the value lists each of its keys once. Values that a
program builds or parses have this shape; lists with repeated keys exist only
in the representation. -/
def WellFormed : Value → Prop
  | .array items => WellFormedItems items
  | .object members => (members.map Prod.fst).Nodup ∧ WellFormedMembers members
  | _ => True

def WellFormedItems : List Value → Prop
  | [] => True
  | item :: rest => WellFormed item ∧ WellFormedItems rest

def WellFormedMembers : List (JsString × Value) → Prop
  | [] => True
  | (_, value) :: rest => WellFormed value ∧ WellFormedMembers rest
end

/-! ## Property order -/

/-- The decimal value of a digit string without a redundant leading zero. -/
def arrayIndex? (key : JsString) : Option ℕ :=
  let digit (unit : CodeUnit) : Bool := 48 ≤ unit.val && unit.val ≤ 57
  let value := key.foldl (fun total unit => total * 10 + (unit.val - 48)) 0
  if key ≠ [] ∧ key.all digit ∧ (key.head? = some 48 → key.length = 1) ∧ value < 2 ^ 32 - 1
  then some value else none

/-- Own property order: array indices ascending, then strings in creation order. -/
def propertyOrder {α : Type} (members : List (JsString × α)) : List (JsString × α) :=
  (members.filter fun entry => (arrayIndex? entry.1).isSome).insertionSort
      (fun left right => (arrayIndex? left.1).getD 0 ≤ (arrayIndex? right.1).getD 0) ++
    members.filter fun entry => (arrayIndex? entry.1).isNone

/-- Property order rearranges members and loses none. -/
theorem propertyOrder_perm {α : Type} (members : List (JsString × α)) :
    (propertyOrder members).Perm members := by
  unfold propertyOrder
  refine ((List.perm_insertionSort _ _).append_right _).trans ?_
  have split := List.filter_append_perm
    (fun entry : JsString × α => (arrayIndex? entry.1).isSome) members
  simpa [Option.isNone_iff_eq_none, Option.not_isSome] using split

/-! ## JSON text -/

/-- A lower-case hexadecimal digit. -/
def hexDigit (value : ℕ) : CodeUnit :=
  if value < 10 then Fin.ofNat 65536 (48 + value) else Fin.ofNat 65536 (87 + value)

/-- The escape of one code unit as \u followed by four hexadecimal digits. -/
def unicodeEscape (unit : CodeUnit) : JsString :=
  [92, 117, hexDigit (unit.val / 4096), hexDigit (unit.val / 256 % 16),
   hexDigit (unit.val / 16 % 16), hexDigit (unit.val % 16)]

/-- The text of one code unit other than a surrogate inside a JSON string. -/
def escapeUnit (unit : CodeUnit) : JsString :=
  match unit.val with
  | 0x08 => js "\\b"
  | 0x09 => js "\\t"
  | 0x0A => js "\\n"
  | 0x0C => js "\\f"
  | 0x0D => js "\\r"
  | 0x22 => js "\\\""
  | 0x5C => js "\\\\"
  | value => if value < 0x20 then unicodeEscape unit else [unit]

def isHighSurrogate (unit : CodeUnit) : Bool := 0xD800 ≤ unit.val && unit.val ≤ 0xDBFF

def isLowSurrogate (unit : CodeUnit) : Bool := 0xDC00 ≤ unit.val && unit.val ≤ 0xDFFF

/-- The body of a JSON string literal. Surrogate pairs stand as they are and a
lone surrogate is escaped. -/
def quoteBody : JsString → JsString
  | [] => []
  | [unit] =>
      if isHighSurrogate unit || isLowSurrogate unit then unicodeEscape unit
      else escapeUnit unit
  | unit :: next :: rest =>
      if isHighSurrogate unit && isLowSurrogate next then unit :: next :: quoteBody rest
      else if isHighSurrogate unit || isLowSurrogate unit then
        unicodeEscape unit ++ quoteBody (next :: rest)
      else escapeUnit unit ++ quoteBody (next :: rest)

/-- A JSON string literal. -/
def quote (value : JsString) : JsString := js "\"" ++ quoteBody value ++ js "\""

/-- Texts joined by a separator. -/
def join (separator : JsString) (texts : List JsString) : JsString :=
  (texts.intersperse separator).flatten

end Vasi.JsValue
