import CallHierarchy.Declaration.Keyword

/-!
Blocks of lines. A block opens with a header line, which is the keyword, one space, a name, any
blanks and an opening brace, and closes with the first later line that is a closing brace and
nothing else. Blocks do not nest: inside one, headers are ordinary lines.
-/

namespace CallHierarchy

def isNameCharacter (character : Char) : Bool :=
  character.isAlphanum || character == '_'

/-- The name that a header line declares, if the line is one. -/
def headerName? (keyword : Keyword) (line : Text) : Option Text := do
  let rest ← Text.after? (keyword.text ++ [' ']) line
  let name := rest.takeWhile isNameCharacter
  let brace := (rest.dropWhile isNameCharacter).dropWhile Text.isBlank
  if name.isEmpty || brace.head? ≠ some '\x7b' then none else some name

def closingLine : Text := ['\x7d']

structure Block where
  name : Text
  first : Nat
  last : Nat
  deriving DecidableEq, Repr

/-- A header line that no line has closed yet. -/
structure Opening where
  name : Text
  line : Nat
  deriving DecidableEq, Repr

/-- The blocks of a text, and the header that was left open at its end. -/
structure Blocks where
  closed : List Block
  unterminated : Option Opening
  deriving DecidableEq, Repr

/-- Scans lines, the first of which has the number `line`, with `opening` still open. -/
def scanLines (keyword : Keyword) : (lines : List Text) → (line : Nat) → Option Opening → Blocks
  | [], _, opening => ⟨[], opening⟩
  | text :: rest, line, none =>
      scanLines keyword rest (line + 1) ((headerName? keyword text).map (Opening.mk · line))
  | text :: rest, line, some opening =>
      if text = closingLine then
        let later := scanLines keyword rest (line + 1) none
        { later with closed := ⟨opening.name, opening.line, line⟩ :: later.closed }
      else
        scanLines keyword rest (line + 1) (some opening)

def Blocks.ofLines (keyword : Keyword) (lines : List Text) : Blocks :=
  scanLines keyword lines 0 none

end CallHierarchy
