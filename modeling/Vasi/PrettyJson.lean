import Vasi.JsonStringify

/-!
# Canonical JSON documents

The form in which the packages write their documents: objects with sorted keys,
printed with an indent of two spaces and a final line break. The digest of a
document is that of its text without any white space.
-/
namespace Vasi.PrettyJson

open JsValue JsonText

mutual
/-- canonicalValue: the keys of every object are sorted. -/
def canonicalValue : Value → Value
  | .array items => .array (canonicalItems items)
  | .object members =>
      .object ((canonicalMembers members).insertionSort CanonicalJson.keyOrder)
  | value => value

def canonicalItems : List Value → List Value
  | [] => []
  | item :: rest => canonicalValue item :: canonicalItems rest

def canonicalMembers : Members → Members
  | [] => []
  | (key, value) :: rest => (key, canonicalValue value) :: canonicalMembers rest
end

/-- The lines of a list between its brackets, or the bare brackets of an empty one. -/
def block (opening closing indent : JsString) (texts : List JsString) : JsString :=
  if texts = [] then opening ++ closing
  else
    opening ++ [10] ++ indent ++ js "  " ++ join (js "," ++ [10] ++ indent ++ js "  ") texts ++
      [10] ++ indent ++ closing

mutual
/-- JSON.stringify with an indent of two spaces; none is its undefined result. -/
def prettyText (indent : JsString) : Value → Option JsString
  | .array items =>
      some (block (js "[") (js "]") indent (prettyItems (indent ++ js "  ") items))
  | .object members =>
      some (block (js "\x7b") (js "\x7d") indent
        ((propertyOrder (prettyMembers (indent ++ js "  ") members)).map Prod.snd))
  | value => stringify value

def prettyItems (indent : JsString) : List Value → List JsString
  | [] => []
  | item :: rest => (prettyText indent item).getD (js "null") :: prettyItems indent rest

def prettyMembers (indent : JsString) : Members → List (JsString × JsString)
  | [] => []
  | (key, value) :: rest =>
      match prettyText indent value with
      | none => prettyMembers indent rest
      | some text => (key, quote key ++ js ": " ++ text) :: prettyMembers indent rest
end

/-- A template literal writes an undefined result as that word. -/
def template (text : Option JsString) : JsString := text.getD (js "undefined")

def prettyCanonicalJSON (value : Value) : JsString :=
  template (prettyText [] (canonicalValue value)) ++ [10]

def digestCanonical (sha256Hex : JsString → JsString) (value : Value) : JsString :=
  sha256Hex (template (stringify (canonicalValue value)))

end Vasi.PrettyJson
