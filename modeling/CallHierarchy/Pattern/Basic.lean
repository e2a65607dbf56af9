import CallHierarchy.Text.Basic

/-!
Patterns: the regular expressions by which a filter asks for the value of a field. No value is
ever compared with a pattern here, so reading a pattern only gives its shape: how deeply it is
nested, and whether it asks where words begin and end. The text of a pattern holds no closing
brace, no comma and no sign of equality, because a filter is cut at them; so no form that needs
one of them is ever complete.
-/

namespace CallHierarchy.Pattern

structure Flags where
  /-- Blanks stand for nothing, and a number sign starts a comment. -/
  spaced : Bool
  /-- Characters are matched rather than bytes. -/
  unicode : Bool
  deriving DecidableEq, Repr

def Flags.initial : Flags :=
  ⟨false, true⟩

def isFlag (letter : Char) : Bool :=
  ['i', 'm', 's', 'U', 'u', 'R', 'x'].contains letter

/-- Whether a text lists flags: letters, none twice, and at most one dash with letters after it. -/
def isFlagList (items : Text) : Bool :=
  items.all (fun item => isFlag item || item == '-') && decide items.Nodup &&
    items.getLast? ≠ some '-'

/-- The flags after a list of them: those before the dash are set, those after it are cleared. -/
def Flags.change (flags : Flags) (items : Text) : Flags :=
  let set := items.takeWhile (· ≠ '-')
  let value (letter : Char) (before : Bool) : Bool :=
    set.contains letter || (before && !items.contains letter)
  ⟨value 'x' flags.spaced, value 'u' flags.unicode⟩

/-- The text after blanks and comments; a comment ends with its line. -/
def skipSpacing : (inComment : Bool) → Text → Text
  | _, [] => []
  | true, first :: rest => skipSpacing (first ≠ '\n') rest
  | false, first :: rest =>
      if Text.isBlank first then skipSpacing false rest
      else if first = '#' then skipSpacing true rest
      else first :: rest

def Flags.skip (flags : Flags) (text : Text) : Text :=
  if flags.spaced then skipSpacing false text else text

/-- The character that comes next. Where blanks stand for nothing they are passed over together
with one number sign, unless nothing follows them. -/
def Flags.next? (flags : Flags) (text : Text) : Option Char :=
  let found := match text.dropWhile Text.isBlank with
    | '#' :: rest => (rest.dropWhile Text.isBlank).head?
    | rest => rest.head?
  if flags.spaced then found <|> text.head? else text.head?

/-- What is known of a piece of a pattern. -/
structure Shape where
  /-- How many forms stand inside each other. -/
  depth : Nat
  /-- Whether the ends of words are asked for by the Unicode rules. -/
  asksForWords : Bool
  /-- Whether the piece may be repeated. -/
  repeatable : Bool
  deriving DecidableEq, Repr

namespace Shape

def single : Shape := ⟨0, false, true⟩

def flags : Shape := ⟨0, false, false⟩

def wrap (shape : Shape) : Shape :=
  ⟨shape.depth + 1, shape.asksForWords, true⟩

/-- Several pieces side by side. Fewer than two need no form around them. -/
def join : List Shape → Shape
  | [] => ⟨0, false, false⟩
  | [shape] => shape
  | shapes => ⟨(shapes.map depth).foldl max 0 + 1, shapes.any asksForWords, true⟩

end Shape

end CallHierarchy.Pattern
