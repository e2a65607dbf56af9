import CallHierarchy.Text.Basic

/-!
Blanks, line ends, comments and strings of TOML. A reader takes a text and gives what it read with
the rest of the text, or nothing if the text does not fit.
-/

namespace CallHierarchy.Toml

abbrev Reader (α : Type) := Text → Option (α × Text)

def isSpace (character : Char) : Bool :=
  character == ' ' || character == '\t'

def skipSpaces (text : Text) : Text :=
  text.dropWhile isSpace

def newline? : Text → Option Text
  | '\n' :: rest => some rest
  | '\r' :: '\n' :: rest => some rest
  | _ => none

/-- The characters that may stand in a comment: all but control characters, tabs apart. -/
def isPlain (character : Char) : Bool :=
  character == '\t' || (0x20 ≤ character.toNat && character.toNat ≠ 0x7F)

def skipComment : Text → Text
  | '#' :: rest => rest.dropWhile isPlain
  | text => text

/-- The text after the end of a line, which may end in blanks and a comment. -/
def lineEnd? (text : Text) : Option Text :=
  match skipComment (skipSpaces text) with
  | [] => some []
  | rest => newline? rest

def skipLines : (fuel : Nat) → Text → Text
  | 0, text => text
  | fuel + 1, text =>
      match newline? (skipComment (skipSpaces text)) with
      | some rest => skipLines fuel rest
      | none => skipSpaces text

/-- The character that a letter after a backslash stands for. -/
def shortEscape? : Char → Option Char
  | 'b' => some (Char.ofNat 8)
  | 't' => some '\t'
  | 'n' => some '\n'
  | 'f' => some (Char.ofNat 12)
  | 'r' => some '\r'
  | '"' => some '"'
  | '\\' => some '\\'
  | _ => none

def escape? : Reader Char
  | 'u' :: a :: b :: c :: d :: rest => (Text.hexCharacter? [a, b, c, d]).map (·, rest)
  | 'U' :: a :: b :: c :: d :: e :: f :: g :: h :: rest =>
      (Text.hexCharacter? [a, b, c, d, e, f, g, h]).map (·, rest)
  | mark :: rest => (shortEscape? mark).map (·, rest)
  | [] => none

def basicString? : (fuel : Nat) → Reader Text
  | 0, _ => none
  | _ + 1, [] => none
  | _ + 1, '"' :: rest => some ([], rest)
  | fuel + 1, '\\' :: rest => do
      let (character, rest) ← escape? rest
      let (text, rest) ← basicString? fuel rest
      some (character :: text, rest)
  | fuel + 1, first :: rest =>
      if isPlain first then do
        let (text, rest) ← basicString? fuel rest
        some (first :: text, rest)
      else
        none

def literalString? : Reader Text
  | [] => none
  | '\'' :: rest => some ([], rest)
  | first :: rest =>
      if isPlain first then do
        let (text, rest) ← literalString? rest
        some (first :: text, rest)
      else
        none

/-- The text after the blanks and line ends that a backslash at the end of a line swallows. -/
def skipBlankLines : (fuel : Nat) → Text → Text
  | 0, text => text
  | fuel + 1, text =>
      match newline? (skipSpaces text) with
      | some rest => skipBlankLines fuel rest
      | none => skipSpaces text

/-- Reads the end of a string over several lines: three quotes, before which up to two belong to
the string. -/
def closing? (quote : Char) (text : Text) : Option (Text × Text) :=
  let run := min 5 (text.takeWhile (· = quote)).length
  if 3 ≤ run then some (text.take (run - 3), text.drop run) else none

def longBasicString? : (fuel : Nat) → Reader Text
  | 0, _ => none
  | fuel + 1, text =>
      match closing? '"' text with
      | some ending => some ending
      | none =>
          match newline? text with
          | some rest => (longBasicString? fuel rest).map fun (text, rest) => ('\n' :: text, rest)
          | none =>
              match text with
              | [] => none
              | '\\' :: rest =>
                  match newline? (skipSpaces rest) with
                  | some later => longBasicString? fuel (skipBlankLines later.length later)
                  | none => do
                      let (character, rest) ← escape? rest
                      let (text, rest) ← longBasicString? fuel rest
                      some (character :: text, rest)
              | first :: rest =>
                  if isPlain first then do
                    let (text, rest) ← longBasicString? fuel rest
                    some (first :: text, rest)
                  else
                    none

def longLiteralString? : (fuel : Nat) → Reader Text
  | 0, _ => none
  | fuel + 1, text =>
      match closing? '\'' text with
      | some ending => some ending
      | none =>
          match newline? text with
          | some rest => (longLiteralString? fuel rest).map fun (text, rest) => ('\n' :: text, rest)
          | none =>
              match text with
              | [] => none
              | first :: rest =>
                  if isPlain first then do
                    let (text, rest) ← longLiteralString? fuel rest
                    some (first :: text, rest)
                  else
                    none

def skipNewline (text : Text) : Text :=
  (newline? text).getD text

def string? (text : Text) : Option (Text × Text) :=
  match text with
  | '"' :: '"' :: '"' :: rest => longBasicString? text.length (skipNewline rest)
  | '"' :: rest => basicString? text.length rest
  | '\'' :: '\'' :: '\'' :: rest => longLiteralString? text.length (skipNewline rest)
  | '\'' :: rest => literalString? rest
  | _ => none

def isBareKeyCharacter (character : Char) : Bool :=
  character.isAlphanum || character == '_' || character == '-'

def simpleKey? (text : Text) : Option (Text × Text) :=
  match text with
  | '"' :: rest => basicString? text.length rest
  | '\'' :: rest => literalString? rest
  | _ =>
      let name := text.takeWhile isBareKeyCharacter
      if name.isEmpty then none else some (name, text.dropWhile isBareKeyCharacter)

/-- Reads the parts of a dotted key, with blanks around each. -/
def keyParts? : (fuel : Nat) → Reader (List Text)
  | 0, _ => none
  | fuel + 1, text => do
      let (part, rest) ← simpleKey? (skipSpaces text)
      match skipSpaces rest with
      | '.' :: rest => do
          let (parts, rest) ← keyParts? fuel rest
          some (part :: parts, rest)
      | rest => some ([part], rest)

/-- How deep values may nest, and how many parts a key may have. -/
def nestingLimit : Nat := 79

/-- Reads a key: the path before its last part, and the last part. -/
def key? (text : Text) : Option ((List Text × Text) × Text) := do
  let (parts, rest) ← keyParts? text.length text
  if parts.length ≤ nestingLimit then
    some ((parts.dropLast, ← parts.getLast?), rest)
  else
    none

end CallHierarchy.Toml
