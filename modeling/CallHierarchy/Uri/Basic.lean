import CallHierarchy.Text.Basic

/-!
URI references. A reference is a scheme, an authority, a path, a query and a fragment, all but the
path optional. It is kept as its text and compared as that text; the grammar only decides which
texts are references.
-/

namespace CallHierarchy

namespace Uri

def isUnreserved (character : Char) : Bool :=
  character.isAlphanum || ['-', '.', '_', '~'].contains character

def isSubDelimiter (character : Char) : Bool :=
  ['!', '$', '&', '\'', '(', ')', '*', '+', ',', ';', '='].contains character

def isNameCharacter (character : Char) : Bool :=
  isUnreserved character || isSubDelimiter character

def isSegmentCharacter (character : Char) : Bool :=
  isNameCharacter character || character == ':' || character == '@'

def isPathCharacter (character : Char) : Bool :=
  isSegmentCharacter character || character == '/'

/-- The characters of a query or a fragment. -/
def isQueryCharacter (character : Char) : Bool :=
  isPathCharacter character || character == '?'

/-- Whether every character is allowed or belongs to a percent sign with two digits. -/
def isEncoded (allowed : Char → Bool) : Text → Bool
  | [] => true
  | '%' :: high :: low :: rest =>
      Text.isHexDigit high && Text.isHexDigit low && isEncoded allowed rest
  | first :: rest => allowed first && isEncoded allowed rest

/-- The five components of a reference. -/
structure Parts where
  scheme : Option Text
  authority : Option Text
  path : Text
  query : Option Text
  fragment : Option Text
  deriving DecidableEq, Repr

/-- A scheme ends at the first colon, unless a slash stands before it. -/
def cutScheme (text : Text) : Option Text × Text :=
  let head := text.takeWhile fun character => character ≠ ':' && character ≠ '/'
  match text.dropWhile fun character => character ≠ ':' && character ≠ '/' with
  | ':' :: rest => (some head, rest)
  | _ => (none, text)

/-- An authority follows two slashes and ends before the next one. -/
def cutAuthority : Text → Option Text × Text
  | '/' :: '/' :: rest => (some (rest.takeWhile (· ≠ '/')), rest.dropWhile (· ≠ '/'))
  | text => (none, text)

/-- The components of a text, whether or not they are well formed. -/
def Parts.ofText (text : Text) : Parts :=
  let (body, fragment) := Text.cut '#' text
  let (hierarchy, query) := Text.cut '?' body
  let (scheme, afterScheme) := cutScheme hierarchy
  let (authority, path) := cutAuthority afterScheme
  ⟨scheme, authority, path, query, fragment⟩

/-- A scheme is a letter followed by letters, digits, `+`, `-` and `.`. -/
def isScheme : Text → Bool
  | [] => false
  | first :: rest =>
      first.isAlpha && rest.all fun character =>
        character.isAlphanum || ['+', '-', '.'].contains character

/-- A number from 0 to 255 without leading zeros. -/
def isOctet (text : Text) : Bool :=
  !text.isEmpty && text.length ≤ 3 && text.all Char.isDigit &&
    (text.length = 1 || text.head? ≠ some '0') &&
    text.foldl (fun value digit => 10 * value + (digit.toNat - 48)) 0 ≤ 255

def isDottedAddress (text : Text) : Bool :=
  let pieces := Text.splitOn '.' text
  pieces.length = 4 && pieces.all isOctet

def isGroup (text : Text) : Bool :=
  1 ≤ text.length && text.length ≤ 4 && text.all Text.isHexDigit

/-- The number of 16-bit groups that the pieces stand for, the last of which may be a dotted
address worth two. -/
def groupCount? : (pieces : List Text) → Option Nat
  | [] => some 0
  | [last] => if isGroup last then some 1 else if isDottedAddress last then some 2 else none
  | first :: rest => if isGroup first then (groupCount? rest).map (· + 1) else none

def cutDoubleColon : Text → Text × Option Text
  | [] => ([], none)
  | ':' :: ':' :: rest => ([], some rest)
  | first :: rest =>
      let (before, behind) := cutDoubleColon rest
      (first :: before, behind)

def groups (text : Text) : List Text :=
  if text.isEmpty then [] else Text.splitOn ':' text

/-- Eight groups of hexadecimal digits, or fewer around one double colon. -/
def isColonAddress (text : Text) : Bool :=
  match cutDoubleColon text with
  | (all, none) => groupCount? (groups all) = some 8
  | (before, some behind) =>
      (groups before).all isGroup &&
        match groupCount? (groups behind) with
        | some count => (groups before).length + count ≤ 7
        | none => false

/-- A port is a colon and any number of digits; it may be missing. -/
def isPortPart : Text → Bool
  | [] => true
  | first :: digits => first == ':' && digits.all Char.isDigit

/-- A host, either an address in brackets or a name, with an optional port. Addresses of later
versions are not taken. -/
def isHostPart : Text → Bool
  | '[' :: rest =>
      match Text.cut ']' rest with
      | (address, some port) =>
          isColonAddress address && isPortPart port
      | _ => false
  | text =>
      isEncoded isNameCharacter (text.takeWhile (· ≠ ':')) &&
        isPortPart (text.dropWhile (· ≠ ':'))

def isAuthority (text : Text) : Bool :=
  match Text.cut '@' text with
  | (host, none) => isHostPart host
  | (user, some host) =>
      isEncoded (fun character => isNameCharacter character || character == ':') user &&
        isHostPart host

def Parts.wellFormed (parts : Parts) : Bool :=
  parts.scheme.all isScheme && parts.authority.all isAuthority &&
    isEncoded isPathCharacter parts.path && parts.query.all (isEncoded isQueryCharacter) &&
    parts.fragment.all (isEncoded isQueryCharacter)

def isReference (text : Text) : Bool :=
  (Parts.ofText text).wellFormed

end Uri

/-- A URI reference, kept as it was written. -/
structure Uri where
  text : Text
  wellFormed : Uri.isReference text = true
  deriving DecidableEq, Repr

def Uri.ofText? (text : Text) : Option Uri :=
  if wellFormed : Uri.isReference text = true then some ⟨text, wellFormed⟩ else none

/-- Every reference is read back from its text. -/
@[simp] theorem Uri.ofText?_text (uri : Uri) : Uri.ofText? uri.text = some uri := by
  rw [Uri.ofText?, dif_pos uri.wellFormed]

end CallHierarchy
