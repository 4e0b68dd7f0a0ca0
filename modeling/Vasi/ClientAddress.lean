import Vasi.Validation
import Vasi.JsonText
import Vasi.Utf8
import Mathlib.Data.Nat.Digits.Lemmas

/-!
# Client addresses

The address that a request is attributed to behind trusted proxies. The forwarding
header is read from right to left; the first address outside every trusted network
is the client's. An address is normalized on the way: every spelling of the same
bytes has one text, and the rate limit of a client goes by it.
-/
namespace Vasi.ClientAddress

open JsValue Validation Utf8

def MAXIMUM_FORWARDING_HEADER_BYTES : ℕ := 1024

def MAXIMUM_FORWARDING_HOPS : ℕ := 16

def comma : CodeUnit := 44

def dot : CodeUnit := 46

def slash : CodeUnit := 47

def colon : CodeUnit := 58

def percent : CodeUnit := 37

/-- An address family, named by its version. -/
inductive Family where
  | four
  | six
deriving DecidableEq, Repr

structure ParsedAddress where
  bytes : List Byte
  family : Family
  normalized : JsString
deriving DecidableEq

structure TrustedNetwork where
  bytes : List Byte
  family : Family
  bits : ℕ
deriving DecidableEq

/-! ## Strings -/

/-- Lower case of an ASCII letter. Every other character stays, and is no part of an
address in either case. -/
def lowerCase (unit : CodeUnit) : CodeUnit := if isUpperLetter unit then unit + 32 else unit

def toLowerCase (text : JsString) : JsString := text.map lowerCase

/-- text.split("::"): the separators are found from left to right and do not overlap. -/
def splitDoubleColon : JsString → List JsString
  | [] => [[]]
  | [unit] => [[unit]]
  | unit :: next :: rest =>
      if unit = colon ∧ next = colon then [] :: splitDoubleColon rest
      else (splitDoubleColon (next :: rest)).modifyHead (unit :: ·)

def isHexDigit (unit : CodeUnit) : Bool :=
  isDigit unit || (97 ≤ unit.val && unit.val ≤ 102) || (65 ≤ unit.val && unit.val ≤ 70)

/-- The value of a lower-case hexadecimal digit. -/
def hexDigitValue (unit : CodeUnit) : ℕ := if isDigit unit then unit.val - 48 else unit.val - 87

/-- Number.parseInt(text, 16) of hexadecimal digits. -/
def parseHex (text : JsString) : ℕ :=
  text.foldl (fun total unit => total * 16 + hexDigitValue unit) 0

/-- value.toString(16). -/
def hexText (value : ℕ) : JsString :=
  if value = 0 then js "0" else (Nat.digits 16 value).reverse.map hexDigit

/-! ### Numbers from text -/

/-- The exponent at the end of a decimal literal. -/
def numberExponent (text : JsString) : Option ℤ :=
  (JsonText.readExponent text).bind fun (exponent, rest) =>
    if rest = [] then some exponent else none

/-- A decimal literal without its sign; one side of the point may be missing. -/
def unsignedNumber (negative : Bool) (text : JsString) : JsNumber :=
  if text = js "Infinity" then .infinite negative
  else
    let whole := text.takeWhile isDigit
    let afterWhole := text.dropWhile isDigit
    let fraction := if afterWhole.head? = some dot then afterWhole.tail.takeWhile isDigit else []
    let afterFraction :=
      if afterWhole.head? = some dot then afterWhole.tail.dropWhile isDigit else afterWhole
    match numberExponent afterFraction with
    | some exponent =>
        if whole ++ fraction = [] then .nan
        else JsonText.decimal negative whole fraction exponent
    | none => .nan

/-- An integer literal in another base. -/
def radixNumber (base : ℕ) (digit : CodeUnit → Option ℕ) (digits : JsString) : JsNumber :=
  match digits.mapM digit with
  | some (first :: others) =>
      let value := Binary64.round
        ((first :: others).foldl (fun total own => total * base + own) 0 : ℕ)
      if 2 ^ 1024 ≤ value then .infinite false else .finite value
  | _ => .nan

def smallDigit (base : ℕ) (unit : CodeUnit) : Option ℕ :=
  (JsonText.hexValue unit).filter (· < base)

/-- Number(text). -/
def toNumber (text : JsString) : JsNumber :=
  match trim text with
  | [] => .finite 0
  | 43 :: rest => unsignedNumber false rest
  | 45 :: rest => unsignedNumber true rest
  | 48 :: letter :: rest =>
      if letter.val ∈ [88, 120] then radixNumber 16 (smallDigit 16) rest
      else if letter.val ∈ [79, 111] then radixNumber 8 (smallDigit 8) rest
      else if letter.val ∈ [66, 98] then radixNumber 2 (smallDigit 2) rest
      else unsignedNumber false (48 :: letter :: rest)
  | own => unsignedNumber false own

/-! ### The address check of the runtime -/

/-- A decimal number up to 255 without a leading zero. -/
def isOctet (part : JsString) : Bool :=
  part ≠ [] && part.all isDigit && (part.length = 1 || part.head? ≠ some 48) &&
    JsonText.digitsValue part ≤ 255

def isIPv4 (text : JsString) : Bool :=
  (text.splitOn dot).length = 4 && (text.splitOn dot).all isOctet

def isGroup (part : JsString) : Bool :=
  1 ≤ part.length && part.length ≤ 4 && part.all isHexDigit

/-- The number of groups between colons; a dotted address counts for two at the end. -/
def countGroups (dotted : Bool) : List JsString → Option ℕ
  | [] => some 0
  | part :: rest =>
      if isGroup part then (countGroups dotted rest).map (· + 1)
      else if dotted ∧ rest = [] ∧ isIPv4 part then some 2
      else none

/-- The groups of one side of a double colon. -/
def sideGroups (dotted : Bool) (side : JsString) : Option ℕ :=
  if side = [] then some 0 else countGroups dotted (side.splitOn colon)

/-- A zone index: letters, digits, hyphens, dots and colons. -/
def isZone (text : JsString) : Bool :=
  text ≠ [] && text.all fun unit => isDigit unit || isLowerLetter unit || isUpperLetter unit ||
    unit.val ∈ [45, 46, 58]

/-- Eight groups, or fewer around a double colon. -/
def isIPv6Address (text : JsString) : Bool :=
  match splitDoubleColon text with
  | [whole] => countGroups true (whole.splitOn colon) = some 8
  | [left, right] =>
      match sideGroups false left, sideGroups true right with
      | some before, some after => before + after ≤ 7
      | _, _ => false
  | _ => false

def isIPv6 (text : JsString) : Bool :=
  isIPv6Address (text.takeWhile (· ≠ percent)) &&
    match text.dropWhile (· ≠ percent) with
    | [] => true
    | _ :: zone => isZone zone

/-- isIP of node:net: the version of the address, or zero. -/
def isIP (text : JsString) : ℕ := if isIPv4 text then 4 else if isIPv6 text then 6 else 0

/-! ## Parsing -/

/-- The bytes of a dotted address. -/
def dottedBytes (text : JsString) : List Byte :=
  (text.splitOn dot).map fun part => Fin.ofNat 256 (JsonText.digitsValue part)

/-- The words of the parts between colons. -/
def parseParts : List JsString → Option (List ℕ)
  | [] => some []
  | part :: rest =>
      if dot ∈ part then
        if rest ≠ [] ∨ isIP part ≠ 4 then none
        else match (part.splitOn dot).map JsonText.digitsValue with
          | [first, second, third, fourth] =>
              some [(first <<< 8) ||| second, (third <<< 8) ||| fourth]
          | _ => none
      else if isGroup part then (parseParts rest).map (parseHex part :: ·)
      else none

def parseIPv6Side (value : JsString) : Option (List ℕ) :=
  if value = [] then some [] else parseParts (value.splitOn colon)

/-- The two bytes of a word. -/
def wordBytes (word : ℕ) : List Byte := [Fin.ofNat 256 (word >>> 8), Fin.ofNat 256 (word &&& 255)]

def parseIPv6Bytes (value : JsString) : Option (List Byte) := do
  let pieces := splitDoubleColon value
  if pieces.length > 2 then none
  else
    let left ← parseIPv6Side (pieces.headD [])
    let right ← parseIPv6Side ((pieces[1]?).getD [])
    let missing : ℤ := 8 - left.length - right.length
    if (pieces.length = 1 ∧ missing ≠ 0) ∨ (pieces.length = 2 ∧ missing < 1) then none
    else
      let words := left ++ List.replicate missing.toNat 0 ++ right
      if words.length ≠ 8 then none
      else some (words.flatMap wordBytes)

/-! ## Normal texts -/

/-- The words of the bytes. -/
def wordsOf : List Byte → List ℕ
  | high :: low :: rest => ((high.val <<< 8) ||| low.val) :: wordsOf rest
  | _ => []

/-- A run of zero words; of length zero when there is none. -/
structure Run where
  start : ℕ
  length : ℕ

/-- The first of the longest runs of two or more zero words. Each pass of the loop moves the
start, so it passes once at most for each word. -/
def longestRun (words : List JsString) : ℕ → ℕ → Run → Run
  | 0, _, best => best
  | passes + 1, start, best =>
      match words.drop start with
      | [] => best
      | word :: rest =>
          if word ≠ js "0" then longestRun words passes (start + 1) best
          else
            let length := ((word :: rest).takeWhile (· = js "0")).length
            longestRun words passes (start + length)
              (if length > best.length ∧ length ≥ 2 then ⟨start, length⟩ else best)

def formatWords (words : List JsString) : JsString :=
  let best := longestRun words words.length 0 ⟨0, 0⟩
  if best.length = 0 then join [colon] words
  else join [colon] (words.take best.start) ++ [colon, colon] ++
    join [colon] (words.drop (best.start + best.length))

def formatIPv6 (bytes : List Byte) : JsString := formatWords ((wordsOf bytes).map hexText)

def dottedText (bytes : List Byte) : JsString :=
  join [dot] (bytes.map fun byte => decimal byte.val)

/-- The first twelve bytes of an IPv4 address that is mapped into IPv6. -/
def mappedStart : List Byte := List.replicate 10 0 ++ [255, 255]

def parseAddress (value : JsString) : Option ParsedAddress :=
  let candidate := toLowerCase (trim value)
  if isIP candidate = 4 then
    some ⟨dottedBytes candidate, .four, dottedText (dottedBytes candidate)⟩
  else if isIP candidate ≠ 6 then none
  else do
    let bytes ← parseIPv6Bytes candidate
    if bytes.take 12 = mappedStart then
      return ⟨bytes.drop 12, .four, dottedText (bytes.drop 12)⟩
    else return ⟨bytes, .six, formatIPv6 bytes⟩

/-! ## Networks -/

def networkBitsAreZero (bytes : List Byte) (bits : ℕ) : Bool :=
  let completeBytes := bits / 8
  let remainingBits := bits % 8
  (remainingBits = 0 ||
    (bytes.getD completeBytes 0).val &&& ((1 <<< (8 - remainingBits)) - 1) = 0) &&
    (bytes.drop (completeBytes + if remainingBits = 0 then 0 else 1)).all (· = 0)

def Family.bits : Family → ℕ
  | .four => 32
  | .six => 128

/-- The network that starts at an address, with a prefix of the given size. -/
def networkAt (address : ParsedAddress) (size : JsNumber) : Option TrustedNetwork :=
  if size.isInteger then do
    let bits ← size.toRat?
    if bits < 0 ∨ bits > address.family.bits then none
    else if networkBitsAreZero address.bytes bits.num.toNat then
      return ⟨address.bytes, address.family, bits.num.toNat⟩
    else none
  else none

def parseNetwork (value : JsString) : Option TrustedNetwork := do
  let components := value.splitOn slash
  if components.length > 2 then none
  else
    let address ← parseAddress (components.headD [])
    networkAt address (match components[1]? with
      | none => .finite address.family.bits
      | some text => toNumber text)

def containsAddress (network : TrustedNetwork) (address : ParsedAddress) : Bool :=
  if network.family ≠ address.family then false
  else
    let completeBytes := network.bits / 8
    let remainingBits := network.bits % 8
    if network.bytes.take completeBytes ≠ address.bytes.take completeBytes then false
    else if remainingBits = 0 then true
    else
      let mask := (255 <<< (8 - remainingBits)) &&& 255
      (network.bytes.getD completeBytes 0).val &&& mask =
        (address.bytes.getD completeBytes 0).val &&& mask

/-! ## Attribution -/

/-- What the headers answer for the two forwarding headers. -/
structure Headers where
  forwardedFor : Option JsString
  realIp : Option JsString

/-- The header that is read. -/
def Headers.source (headers : Headers) : Option JsString := headers.forwardedFor.or headers.realIp

/-- The addresses of a forwarding header, in its order. -/
def forwardedAddresses (source : JsString) : Option (List ParsedAddress) :=
  if source = [] ∨ (encode source).length > MAXIMUM_FORWARDING_HEADER_BYTES then none
  else
    let rawAddresses := (source.splitOn comma).map trim
    if rawAddresses.length > MAXIMUM_FORWARDING_HOPS ∨ [] ∈ rawAddresses then none
    else rawAddresses.mapM parseAddress

def resolveTrustedClientAddress (headers : Headers) (trustedProxyCIDRs : List JsString) :
    Option JsString := do
  let source ← headers.source
  let addresses ← forwardedAddresses source
  if trustedProxyCIDRs = [] then
    match addresses with
    | [address] => some address.normalized
    | _ => none
  else
    let trustedNetworks ← trustedProxyCIDRs.mapM parseNetwork
    let address ← addresses.reverse.find? fun address =>
      !trustedNetworks.any fun network => containsAddress network address
    return address.normalized

def clientAddressRateLimitIdentity (address : Option JsString) : JsString :=
  match address.bind parseAddress with
  | none => js "unattributed"
  | some parsed =>
      match parsed.family with
      | .four => js "ipv4:" ++ parsed.normalized
      | .six => js "ipv6-64:" ++ (parsed.bytes.take 8).flatMap fun byte =>
          [hexDigit (byte.val / 16), hexDigit (byte.val % 16)]

end Vasi.ClientAddress
