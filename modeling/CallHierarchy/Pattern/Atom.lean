import CallHierarchy.Pattern.Basic

/-!
The smallest pieces of patterns: characters, positions, classes with a letter of their own and
general categories, each written as it is or after a backslash.
-/

namespace CallHierarchy.Pattern

/-- A piece that is not made of others. -/
inductive Atom where
  /-- A character, and whether it was given as a byte of two hexadecimal digits. -/
  | literal (character : Char) (byte : Bool)
  /-- A position, and whether it is the end of a word or the lack of one. -/
  | position (ofWord : Bool)
  /-- Digits, blanks or word characters, or all others. -/
  | shorthand (negated : Bool)
  /-- A general category. -/
  | category
  /-- Any character. -/
  | any
  deriving DecidableEq, Repr

/-- Whether an atom matches characters only, and never a part of one, under the flags. -/
def Atom.isWhole (flags : Flags) : Atom → Bool
  | literal character byte => flags.unicode || !byte || character.toNat < 0x80
  | position _ => true
  | shorthand negated => flags.unicode || !negated
  | category => flags.unicode
  | any => flags.unicode

def Atom.shape? (flags : Flags) (atom : Atom) : Option Shape :=
  if atom.isWhole flags then
    match atom with
    | position ofWord => some { Shape.single with asksForWords := ofWord && flags.unicode }
    | _ => some Shape.single
  else
    none

/-- The first `count` digits of a text, and what follows them. Blanks may stand between. -/
def takeDigits? (flags : Flags) : (count : Nat) → Text → Option (Text × Text)
  | 0, text => some ([], text)
  | count + 1, text =>
      match text with
      | [] => none
      | digit :: rest => do
          let (digits, rest) ← takeDigits? flags count (flags.skip rest)
          some (digit :: digits, rest)

def hexLiteral? (flags : Flags) (count : Nat) (byte : Bool) (text : Text) :
    Option (Atom × Text) := do
  let (digits, rest) ← takeDigits? flags count (flags.skip text)
  let character ← Text.hexCharacter? digits
  some (.literal character byte, rest)

def isCategory (letter : Char) : Bool :=
  ['c', 'l', 'm', 'n', 'p', 's', 'z'].contains letter.toLower

/-- The characters that stand for themselves after a backslash: all of ASCII but letters, digits
and angle brackets. -/
def isEscapable (character : Char) : Bool :=
  character.toNat < 0x80 && !character.isAlphanum && character ≠ '<' && character ≠ '>'

def escape? (flags : Flags) : Text → Option (Atom × Text)
  | [] => none
  | first :: rest =>
      match first with
      | 'x' => hexLiteral? flags 2 true rest
      | 'u' => hexLiteral? flags 4 false rest
      | 'U' => hexLiteral? flags 8 false rest
      | 'p' | 'P' =>
          match flags.skip rest with
          | letter :: rest => if isCategory letter then some (.category, rest) else none
          | [] => none
      | 'd' | 's' | 'w' => some (.shorthand false, rest)
      | 'D' | 'S' | 'W' => some (.shorthand true, rest)
      | 'a' => some (.literal (Char.ofNat 7) false, rest)
      | 'f' => some (.literal (Char.ofNat 12) false, rest)
      | 't' => some (.literal '\t' false, rest)
      | 'n' => some (.literal '\n' false, rest)
      | 'r' => some (.literal '\r' false, rest)
      | 'v' => some (.literal (Char.ofNat 11) false, rest)
      | 'A' | 'z' => some (.position false, rest)
      | 'b' => if rest.head? = some '\x7b' then none else some (.position true, rest)
      | 'B' | '<' | '>' => some (.position true, rest)
      | _ => if isEscapable first then some (.literal first false, rest) else none

def atom? (flags : Flags) : Text → Option (Atom × Text)
  | [] => none
  | '\\' :: rest => escape? flags rest
  | '.' :: rest => some (.any, rest)
  | '^' :: rest | '$' :: rest => some (.position false, rest)
  | first :: rest => some (.literal first false, rest)

end CallHierarchy.Pattern
