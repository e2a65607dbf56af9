import CallHierarchy.DomainName.Composition
import CallHierarchy.DomainName.Direction
import CallHierarchy.DomainName.Joining
import CallHierarchy.DomainName.Punycode

/-!
Domain names: labels with full stops between them. A name is folded and composed first; then a
label that starts with `xn--` stands for the text that it encodes, and every label is checked.
-/

namespace CallHierarchy.DomainName

/-- The ASCII characters that a name cannot hold. -/
def isForbidden (character : Char) : Bool :=
  character.toNat ≤ 0x20 || character.toNat == 0x7F ||
    ['#', '/', ':', '<', '>', '?', '@', '[', '\\', ']', '^', '|', '%'].contains character

def isAscii (text : Text) : Bool :=
  text.all fun character => character.toNat < 0x80

/-- The longest label that is not ASCII. -/
def labelLimit : Nat := 1000

/-- The longest text that is decoded. -/
def encodedLimit : Nat := 2000

/-- Whether a folded and composed label can be in a name. It does not start with a mark. -/
def isLabel (label : Text) : Bool :=
  !label.any isForbidden && !label.head?.any Text.isMark && joinersFit [] label &&
    (isAscii label || label.length ≤ labelLimit)

/-- The label that an encoded one stands for, which is not ASCII, but folded and composed. -/
def decodedLabel? (encoded : Text) : Option Text :=
  if isAscii encoded && encoded.length ≤ encodedLimit && encoded.getLast? ≠ some '-' then do
    let label ← Punycode.decode? encoded
    if !isAscii label && label.all isFolded && compose label = label && isLabel label then
      some label
    else
      none
  else
    none

def label? (label : Text) : Option Text :=
  match Text.after? ['x', 'n', '-', '-'] label with
  | some encoded => decodedLabel? encoded
  | none => if isLabel label then some label else none

def ofText? (text : Text) : Option Text := do
  let folded ← folded? text
  let labels ← (Text.splitOn '.' (compose folded)).mapM label?
  let name := ['.'].intercalate labels
  if name.isEmpty || (name.any isRightToLeft && !labels.all hasOneDirection) then
    none
  else
    some name

end CallHierarchy.DomainName
