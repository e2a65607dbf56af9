import CallHierarchy.Outline.Symbol

/-!
The symbol that encloses a position. The outline is walked from the top: a symbol that contains
the position replaces the best one so far only if it nests in it, and then its children are walked
with it as the best. A variable is passed over together with what is nested in it.
-/

namespace CallHierarchy.Symbol

mutual

/-- The best symbol after walking a list of symbols. -/
def enclosingFrom (position : Position) : List Symbol → (best : Option Symbol) → Option Symbol
  | [], best => best
  | symbol :: rest, best => enclosingFrom position rest (enclosingStep position symbol best)

/-- The best symbol after walking one symbol and, if it is better, its children. -/
def enclosingStep (position : Position) : Symbol → (best : Option Symbol) → Option Symbol
  | mk info children, best =>
      if info.kind = .variableKind || !info.range.contains position then
        best
      else if best.all fun outer => outer.range.encloses info.range then
        enclosingChildren position children (some (mk info children))
      else
        best

def enclosingChildren (position : Position) :
    Option (List Symbol) → (best : Option Symbol) → Option Symbol
  | none, best => best
  | some symbols, best => enclosingFrom position symbols best

end

/-- The symbol of an outline that encloses a position. -/
def enclosing? (outline : List Symbol) (position : Position) : Option Symbol :=
  enclosingFrom position outline none

end CallHierarchy.Symbol
