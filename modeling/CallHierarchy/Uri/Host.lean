import CallHierarchy.DomainName.Basic
import CallHierarchy.Text.Utf8
import CallHierarchy.Uri.Basic

/-!
Hosts of URLs: the domain name that a percent-decoded host stands for. A name whose last label is a
number has to be a 32-bit address in one of its written forms.
-/

namespace CallHierarchy.Uri

def decodedBytes : Text → List UInt8
  | [] => []
  | '%' :: high :: low :: rest =>
      UInt8.ofNat (16 * Text.hexValue high + Text.hexValue low) :: decodedBytes rest
  | first :: rest => UInt8.ofNat first.toNat :: decodedBytes rest

/-- The text that is left once the percent signs are resolved, if those bytes are text. -/
def decoded? (text : Text) : Option Text :=
  Text.ofUtf8? (decodedBytes text)

/-- A number in a host: hexadecimal after `0x`, octal after `0`, and decimal otherwise. -/
def hostNumber? (text : Text) : Option Nat :=
  let value (base : Nat) (digits : Text) : Nat :=
    digits.foldl (fun value digit => base * value + Text.hexValue digit) 0
  match text with
  | [] => none
  | '0' :: 'x' :: digits | '0' :: 'X' :: digits =>
      if digits.all Text.isHexDigit then some (value 16 digits) else none
  | '0' :: first :: digits =>
      if (first :: digits).all fun digit => '0' ≤ digit && digit ≤ '7' then
        some (value 8 (first :: digits))
      else
        none
  | digits => if digits.all Char.isDigit then some (value 10 digits) else none

/-- The labels of a name; an empty label at the end does not count. -/
def labels (name : Text) : List Text :=
  let pieces := Text.splitOn '.' name
  if pieces.getLast? = some [] then pieces.dropLast else pieces

def endsInNumber (name : Text) : Bool :=
  match (labels name).getLast? with
  | none => false
  | some label => (!label.isEmpty && label.all Char.isDigit) || (hostNumber? label).isSome

/-- Whether the labels are the numbers of a 32-bit address, the last of which fills what the
others leave. -/
def isNumericAddress (name : Text) : Bool :=
  let pieces := labels name
  pieces.length ≤ 4 &&
    match pieces.mapM hostNumber? with
    | none => false
    | some numbers =>
        numbers.dropLast.all (· ≤ 255) &&
          numbers.getLast?.all (· < Nat.pow 256 (5 - numbers.length))

/-- The name of a host in its plain form, if the text can be a host. -/
def hostName? : Text → Option Text
  | '[' :: rest =>
      match Text.cut ']' rest with
      | (address, some []) => if isColonAddress address then some ('[' :: rest) else none
      | _ => none
  | text => do
      let name ← DomainName.ofText? (← decoded? text)
      if endsInNumber name && !isNumericAddress name then none else some name

/-- Whether a host is the machine itself. -/
def isLocalName (host : Text) : Bool :=
  hostName? host = some ['l', 'o', 'c', 'a', 'l', 'h', 'o', 's', 't']

/-- Whether a port part is missing, empty or a number of sixteen bits. -/
def isSmallPort : Text → Bool
  | [] => true
  | first :: digits =>
      first == ':' && digits.all Char.isDigit &&
        digits.foldl (fun value digit => 10 * value + Text.hexValue digit) 0 ≤ 65535

end CallHierarchy.Uri
