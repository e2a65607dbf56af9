import CallHierarchy.Settings.Basic
import CallHierarchy.Telemetry.Directive
import CallHierarchy.Text.Visible

/-!
Written events: one line for each, as a JSON object or for people.
-/

namespace CallHierarchy

def hexDigits (number : Nat) : Text :=
  Nat.toDigits 16 number

def jsonCharacter (character : Char) : Text :=
  match character.toNat with
  | 0x22 => ['\\', '"']
  | 0x5C => ['\\', '\\']
  | 0x08 => ['\\', 'b']
  | 0x0C => ['\\', 'f']
  | 0x0A => ['\\', 'n']
  | 0x0D => ['\\', 'r']
  | 0x09 => ['\\', 't']
  | code =>
      if code < 0x20 then
        ['\\', 'u', '0', '0'] ++ (if code < 0x10 then ['0'] else []) ++ hexDigits code
      else
        [character]

def jsonString (text : Text) : Text :=
  ['"'] ++ text.flatMap jsonCharacter ++ ['"']

/-- A character inside a quoted text for people: what does not show is written as its code. -/
def visibleCharacter (character : Char) : Text :=
  match character.toNat with
  | 0x22 => ['\\', '"']
  | 0x5C => ['\\', '\\']
  | 0x00 => ['\\', '0']
  | 0x0A => ['\\', 'n']
  | 0x0D => ['\\', 'r']
  | 0x09 => ['\\', 't']
  | code =>
      if Text.isVisible character then [character]
      else ['\\', 'u', '\x7b'] ++ hexDigits code ++ ['\x7d']

def visibleString (text : Text) : Text :=
  ['"'] ++ text.flatMap visibleCharacter ++ ['"']

def decimalDigits (number : Int) : Text :=
  if number < 0 then '-' :: Nat.toDigits 10 number.natAbs else Nat.toDigits 10 number.natAbs

namespace Event

/-- The members of the event's JSON object: level, message, fields and target. -/
def jsonMembers (event : Event) : List Text :=
  let member (name : String) (value : Text) : Text := jsonString name.toList ++ [':'] ++ value
  let field (entry : String × FieldValue) : Text :=
    member entry.1 <| match entry.2 with
      | .text value => jsonString value
      | .number value => decimalDigits value
  [member "level" (jsonString event.level.label.toList),
    member "message" (jsonString event.message.toList)] ++
    event.fields.map field ++ [member "target" (jsonString event.target.name.toList)]

def jsonLine (event : Event) : Text :=
  ['\x7b'] ++ [','].intercalate event.jsonMembers ++ ['\x7d']

/-- The event for people: level, target, message and fields. -/
def compactLine (event : Event) : Text :=
  let field (entry : String × FieldValue) : Text :=
    [' '] ++ entry.1.toList ++ ['='] ++ match entry.2 with
      | .text value => visibleString value
      | .number value => decimalDigits value
  event.level.label.toList ++ [' '] ++ event.target.name.toList ++ [':', ' '] ++
    event.message.toList ++ event.fields.flatMap field

def line (format : LogFormat) (event : Event) : Text :=
  match format with
  | .json => event.jsonLine
  | .compact => event.compactLine

end Event

end CallHierarchy
