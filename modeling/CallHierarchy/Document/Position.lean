/-!
Positions in a document, ranges between them and their order. Lines and columns count from zero,
and a column counts UTF-16 units.
-/

namespace CallHierarchy

/-- A place in a document: a line and a UTF-16 column. -/
structure Position where
  line : Nat
  character : Nat
  deriving DecidableEq, Repr

namespace Position

def atOrBefore (left right : Position) : Bool :=
  left.line < right.line || (left.line == right.line && left.character ≤ right.character)

end Position

structure Range where
  start : Position
  finish : Position
  deriving DecidableEq, Repr

namespace Range

def emptyAt (position : Position) : Range :=
  ⟨position, position⟩

/-- The stretch from one column to another of one line. -/
def onLine (line first last : Nat) : Range :=
  ⟨⟨line, first⟩, ⟨line, last⟩⟩

/-- Whether a position lies in the range; both ends belong to it. -/
def contains (range : Range) (position : Position) : Bool :=
  range.start.atOrBefore position && position.atOrBefore range.finish

def encloses (outer inner : Range) : Bool :=
  outer.contains inner.start && outer.contains inner.finish

end Range

end CallHierarchy
