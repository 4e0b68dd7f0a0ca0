import Mathlib.Data.List.DropRight
import Vasi.JsValue

/-!
# Field validation

The checks that the domain packages repeat: objects without unknown members,
strings of bounded length after trimming, whole numbers in a range, and
identifiers. Each package throws its own error, so the error is a parameter and
the packages state their own copies of these functions as instances.

Only what the checks decide and the text of their errors is modelled. An error
carries its code and message; stack traces and error classes are left out.
-/
namespace Vasi.Validation

open JsValue

/-- A thrown error: its code member and its message. -/
structure Failure where
  code : JsString
  message : JsString
deriving DecidableEq

/-- The result of a validator. -/
abbrev Checked (α : Type) := Except Failure α

/-- A sequence of checks that succeeds has succeeded in each. -/
theorem bind_ok {ε α β : Type} {first : Except ε α} {second : α → Except ε β} {result : β}
    (accepted : (first >>= second) = .ok result) :
    ∃ value, first = .ok value ∧ second value = .ok result := by
  cases first with
  | error failure => cases accepted
  | ok value => exact ⟨value, rfl, accepted⟩

/-- The white space that String.prototype.trim removes. -/
def isWhiteSpace (unit : CodeUnit) : Bool :=
  unit.val ∈ [0x09, 0x0A, 0x0B, 0x0C, 0x0D, 0x20, 0xA0, 0x1680, 0x2028, 0x2029, 0x202F, 0x205F,
    0x3000, 0xFEFF] || (0x2000 ≤ unit.val && unit.val ≤ 0x200A)

/-- String.prototype.trim. -/
def trim (text : JsString) : JsString :=
  (text.dropWhile isWhiteSpace).rdropWhile isWhiteSpace

/-- Trimming never makes a string longer. -/
theorem trim_length_le (text : JsString) : (trim text).length ≤ text.length :=
  (List.rdropWhile_prefix _ _).length_le.trans (List.dropWhile_suffix _).length_le

/-- The decimal text of a number that is printed in a message. -/
def decimal (value : ℕ) : JsString := js (toString value)

def isDigit (unit : CodeUnit) : Bool := 48 ≤ unit.val && unit.val ≤ 57

def isLowerLetter (unit : CodeUnit) : Bool := 97 ≤ unit.val && unit.val ≤ 122

def isUpperLetter (unit : CodeUnit) : Bool := 65 ≤ unit.val && unit.val ≤ 90

/-- A C0 control code or delete. -/
def isControl (unit : CodeUnit) : Bool := unit.val ≤ 0x1F || unit.val == 0x7F

/-- The pattern ^[a-z0-9_]{1,64}$ of stored error codes. -/
def isErrorCode (text : JsString) : Bool :=
  1 ≤ text.length && text.length ≤ 64 &&
    text.all fun unit => isLowerLetter unit || isDigit unit || unit == 95

/-- The pattern ^[A-Za-z0-9._:-]+$ of tokens. -/
def isTokenUnit (unit : CodeUnit) : Bool :=
  isLowerLetter unit || isUpperLetter unit || isDigit unit || unit.val ∈ [46, 95, 58, 45]

/-- The pattern ^[a-z][a-z0-9_-]{0,63}$ of identifiers. -/
def isIdentifier : JsString → Bool
  | [] => false
  | first :: rest => isLowerLetter first && rest.length ≤ 63 &&
      rest.all fun unit => isLowerLetter unit || isDigit unit || unit.val ∈ [95, 45]

/-- The value, or a default for null and undefined. -/
def orDefault (value fallback : Value) : Value := if value.isPresent then value else fallback

section

variable (fail : JsString → Failure)

/-- The members of an object that has only allowed ones. The first offending
key in property order is named. -/
def strictObjectWith (value : Value) (name : JsString) (allowedKeys : List JsString) :
    Checked Members :=
  match value with
  | .object members =>
      match (propertyOrder members).find? fun entry => entry.1 ∉ allowedKeys with
      | some entry => .error (fail (js "The " ++ name ++ js " field " ++ entry.1 ++
          js " is unsupported."))
      | none => .ok members
  | _ => .error (fail (js "The " ++ name ++ js " must be an object."))

/-- An object that may be left out, in which case it has no members. -/
def optionalObjectWith (value : Value) (name : JsString) (allowedKeys : List JsString) :
    Checked Members :=
  match value with
  | .undefined => .ok []
  | _ => strictObjectWith fail value name allowedKeys

/-- A string whose trimmed length is in range; the trimmed text is the result. -/
def boundedStringWith (value : Value) (field : JsString) (minimum maximum : ℕ) :
    Checked JsString :=
  match value with
  | .string text =>
      let normalized := trim text
      if normalized.length < minimum ∨ normalized.length > maximum then
        .error (fail (field ++ js " must contain " ++ decimal minimum ++ js " to " ++
          decimal maximum ++ js " characters."))
      else .ok normalized
  | _ => .error (fail (field ++ js " must be a string."))

/-- An optional string: undefined, null and the empty string are absent. -/
def optionalStringWith (value : Value) (field : JsString) (maximum : ℕ) :
    Checked (Option JsString) :=
  match value with
  | .undefined | .null | .string [] => .ok none
  | _ => (boundedStringWith fail value field 1 maximum).map some

/-- A safe integer in range. -/
def safeIntegerWith (value : Value) (field : JsString) (minimum maximum : ℕ) : Checked ℕ :=
  let failure := Except.error (fail (field ++ js " must be a whole number between " ++
    decimal minimum ++ js " and " ++ decimal maximum ++ js "."))
  match value with
  | .number number =>
      if number.isSafeInteger then
        let integer := (number.toRat?.getD 0).num
        if integer < minimum ∨ integer > maximum then failure else .ok integer.toNat
      else failure
  | _ => failure

/-- An identifier of at most 64 code units. -/
def identifierWith (value : Value) (field : JsString) : Checked JsString := do
  let result ← boundedStringWith fail value field 1 64
  if isIdentifier result then return result
  else .error (fail (field ++ js " has an invalid format."))

end

/-- An accepted string has the length the check names. -/
theorem boundedStringWith_length {fail : JsString → Failure} {value : Value} {field : JsString}
    {minimum maximum : ℕ} {result : JsString}
    (accepted : boundedStringWith fail value field minimum maximum = .ok result) :
    minimum ≤ result.length ∧ result.length ≤ maximum := by
  cases value with
  | string text =>
      simp only [boundedStringWith] at accepted
      split at accepted
      · cases accepted
      · rename_i inside
        cases accepted
        omega
  | _ => cases accepted

/-- An accepted integer lies in the range the check names. -/
theorem safeIntegerWith_range {fail : JsString → Failure} {value : Value} {field : JsString}
    {minimum maximum result : ℕ}
    (accepted : safeIntegerWith fail value field minimum maximum = .ok result) :
    minimum ≤ result ∧ result ≤ maximum := by
  cases value with
  | number number =>
      simp only [safeIntegerWith] at accepted
      split at accepted
      · split at accepted
        · cases accepted
        · rename_i inside
          cases accepted
          omega
      · cases accepted
  | _ => cases accepted

end Vasi.Validation
