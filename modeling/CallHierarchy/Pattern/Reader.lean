import CallHierarchy.Pattern.Set
import CallHierarchy.Text.WordCharacter

/-!
Whole patterns: alternatives, repetitions and groups. A group may have a name, which no other
group has, or flags of its own; flags without a group hold up to the end of the group they stand
in.
-/

namespace CallHierarchy.Pattern

/-- What a round bracket opens. -/
inductive Opening where
  /-- A change of flags, with nothing inside. -/
  | flags (items : Text)
  /-- A group that is read under flags of its own. -/
  | plain (items : Text)
  /-- A group with a name. -/
  | named (name : Text)
  deriving DecidableEq, Repr

/-- Whether a text can name a group: a letter or a low line, then also digits, dots and square
brackets. -/
def isGroupName : Text → Bool
  | [] => false
  | first :: rest =>
      (first == '_' || Text.isAlphabetic first) && rest.all fun character =>
        Text.isWordCharacter character || ['.', '[', ']'].contains character

def name? (text : Text) : Option (Opening × Text) :=
  let name := text.takeWhile (· ≠ '>')
  match text.dropWhile (· ≠ '>') with
  | _ :: rest => if isGroupName name then some (.named name, rest) else none
  | [] => none

def flagList? (text : Text) : Option (Opening × Text) :=
  let items := text.takeWhile fun character => character ≠ ':' && character ≠ ')'
  if isFlagList items then
    match text.dropWhile fun character => character ≠ ':' && character ≠ ')' with
    | ':' :: rest => some (.plain items, rest)
    | ')' :: rest => if items.isEmpty then none else some (.flags items, rest)
    | _ => none
  else
    none

/-- Reads what follows a round bracket. Conditions on what stands before or after are refused. -/
def opening? : Text → Option (Opening × Text)
  | '?' :: 'P' :: '<' :: rest => name? rest
  | '?' :: '<' :: rest => name? rest
  | '?' :: rest => flagList? rest
  | text => some (.plain [], text)

/-- The alternatives of a group: the finished ones and the pieces of the current one, the last
one first. -/
structure Branches where
  finished : List Shape
  pieces : List Shape
  deriving DecidableEq, Repr

def Branches.shape (branches : Branches) : Shape :=
  Shape.join (Shape.join branches.pieces :: branches.finished)

structure Reading where
  flags : Flags
  /-- The names of the groups so far. -/
  names : List Text
  current : Branches
  /-- The open groups around the current one, each with the flags to go back to. -/
  outer : List (Flags × Branches)
  deriving DecidableEq, Repr

namespace Reading

def start : Reading :=
  ⟨.initial, [], ⟨[], []⟩, []⟩

def push (reading : Reading) (shape : Shape) : Reading :=
  { reading with current.pieces := shape :: reading.current.pieces }

def alternate (reading : Reading) : Reading :=
  { reading with current :=
      ⟨Shape.join reading.current.pieces :: reading.current.finished, []⟩ }

def repeat? (reading : Reading) : Option Reading :=
  match reading.current.pieces with
  | last :: pieces =>
      if last.repeatable then some { reading with current.pieces := last.wrap :: pieces } else none
  | [] => none

/-- The inside of a new group, under its own flags. -/
def enter (reading : Reading) (flags : Flags) : Reading :=
  { reading with
    flags := flags
    current := ⟨[], []⟩
    outer := (reading.flags, reading.current) :: reading.outer }

/-- What a round bracket makes of the pattern; no name is given twice. -/
def open? (reading : Reading) : Opening → Option Reading
  | .flags items => some ({ reading with flags := reading.flags.change items }.push .flags)
  | .plain items => some (reading.enter (reading.flags.change items))
  | .named name =>
      if name ∈ reading.names then none
      else some { reading.enter reading.flags with names := name :: reading.names }

def close? (reading : Reading) : Option Reading :=
  match reading.outer with
  | [] => none
  | (flags, branches) :: outer =>
      let group := reading.current.shape.wrap
      some { reading with
        flags := flags
        current := { branches with pieces := group :: branches.pieces }
        outer := outer }

/-- The end of the pattern, where no group is open. -/
def finish? (reading : Reading) : Option Shape :=
  if reading.outer.isEmpty then some reading.current.shape else none

end Reading

/-- Reads a pattern piece by piece. A question mark after a repetition belongs to it. -/
def readFrom? : (fuel : Nat) → Reading → Text → Option Shape
  | 0, _, _ => none
  | fuel + 1, reading, text =>
      match reading.flags.skip text with
      | [] => reading.finish?
      | '(' :: rest => do
          let (opening, rest) ← opening? (reading.flags.skip rest)
          readFrom? fuel (← reading.open? opening) rest
      | ')' :: rest => do readFrom? fuel (← reading.close?) rest
      | '|' :: rest => readFrom? fuel reading.alternate rest
      | '[' :: rest => do
          let (shape, rest) ← set? reading.flags rest
          readFrom? fuel (reading.push shape) rest
      | '?' :: rest | '*' :: rest | '+' :: rest => do
          let rest := match rest with
            | '?' :: rest => rest
            | _ => rest
          readFrom? fuel (← reading.repeat?) rest
      | '\x7b' :: _ => none
      | text => do
          let (atom, rest) ← atom? reading.flags text
          readFrom? fuel (reading.push (← atom.shape? reading.flags)) rest

/-- How deeply a pattern may be nested. -/
def depthLimit : Nat := 250

/-- The shape of a pattern, if it can be read and is not nested too deeply. -/
def shape? (text : Text) : Option Shape := do
  let shape ← readFrom? (text.length + 1) .start text
  if shape.depth ≤ depthLimit then some shape else none

end CallHierarchy.Pattern
