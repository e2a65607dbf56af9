import CallHierarchy.Pattern.Atom

/-!
Sets of characters in brackets. A set holds characters, ranges, classes and other sets; two signs
in a row make the intersection or a difference of what stands before and after them. A dash or a
closing bracket at the start of a set stands for itself.
-/

namespace CallHierarchy.Pattern

/-- Whether a character can be a member of a set: a set of bytes holds only ASCII. -/
def isMember (flags : Flags) (character : Char) : Bool :=
  flags.unicode || character.toNat < 0x80

def setAtom? (flags : Flags) : Text → Option (Atom × Text)
  | [] => none
  | '\\' :: rest => escape? flags rest
  | first :: rest => some (.literal first false, rest)

def Atom.isMember (flags : Flags) : Atom → Bool
  | literal character _ => Pattern.isMember flags character
  | shorthand negated => (shorthand negated).isWhole flags
  | category => category.isWhole flags
  | position _ | any => false

/-- Whether two atoms are the ends of a range. -/
def isRange (flags : Flags) : (first last : Atom) → Bool
  | .literal first _, .literal last _ =>
      isMember flags first && isMember flags last && first ≤ last
  | _, _ => false

def skipMember? (flags : Flags) (text : Text) : Option Text := do
  let (first, rest) ← setAtom? flags text
  match flags.skip rest with
  | [] => none
  | '-' :: behind =>
      if flags.next? behind = some ']' || flags.next? behind = some '-' then
        if first.isMember flags then some ('-' :: behind) else none
      else
        let (last, rest) ← setAtom? flags (flags.skip behind)
        if isRange flags first last then some rest else none
  | rest => if first.isMember flags then some rest else none

def isClassName (name : Text) : Bool :=
  ["alnum", "alpha", "ascii", "blank", "cntrl", "digit", "graph", "lower", "print", "punct",
    "space", "upper", "word", "xdigit"].any fun known => known.toList = name

/-- Whether a class between colons is negated, and the text after it, given the text after its
first bracket. -/
def namedClass? : Text → Option (Bool × Text)
  | ':' :: rest =>
      let negated := rest.head? = some '^'
      let body := if negated then rest.drop 1 else rest
      match body.dropWhile (· ≠ ':') with
      | ':' :: ']' :: behind =>
          if isClassName (body.takeWhile (· ≠ ':')) then some (negated, behind) else none
      | _ => none
  | _ => none

structure OpenSet where
  /-- How deeply what stands before the last operator is nested, if there is one. -/
  operand : Option Nat
  /-- How deeply the members after it are nested, the last one first. -/
  members : List Nat
  /-- Whether nothing but dashes has been read yet. -/
  atStart : Bool
  deriving DecidableEq, Repr

namespace OpenSet

def push (set : OpenSet) (depth : Nat) : OpenSet :=
  { set with members := depth :: set.members, atStart := false }

/-- How deeply the set read so far is nested. -/
def depth (set : OpenSet) : Nat :=
  let last := match set.members with
    | [] => 0
    | [depth] => depth
    | depths => depths.foldl max 0 + 1
  match set.operand with
  | none => last
  | some operand => max operand last + 1

def operate (set : OpenSet) : OpenSet :=
  ⟨some set.depth, [], false⟩

end OpenSet

/-- Opens a set after its bracket. What a negated set of bytes matches may be part of a
character. -/
def openSet? (flags : Flags) (text : Text) : Option (OpenSet × Text) :=
  match flags.skip text with
  | '^' :: rest => if flags.unicode then some (⟨none, [], true⟩, rest) else none
  | rest => some (⟨none, [], true⟩, rest)

/-- Reads up to the end of the outermost set, and gives its depth. -/
def setFrom? (flags : Flags) : (fuel : Nat) → OpenSet → (outer : List OpenSet) → Text →
    Option (Nat × Text)
  | 0, _, _, _ => none
  | fuel + 1, set, outer, text =>
      match flags.skip text with
      | [] => none
      | '[' :: rest =>
          match namedClass? rest with
          | some (negated, rest) =>
              if flags.unicode || !negated then setFrom? flags fuel (set.push 0) outer rest
              else none
          | none => do
              let (inner, rest) ← openSet? flags rest
              setFrom? flags fuel inner (set :: outer) rest
      | ']' :: rest =>
          if set.atStart && set.members.isEmpty then
            setFrom? flags fuel (set.push 0) outer rest
          else
            match outer with
            | [] => some (set.depth + 1, rest)
            | parent :: outer => setFrom? flags fuel (parent.push (set.depth + 1)) outer rest
      | '-' :: rest =>
          if set.atStart then
            setFrom? flags fuel { set.push 0 with atStart := true } outer rest
          else if rest.head? = some '-' then
            setFrom? flags fuel set.operate outer (rest.drop 1)
          else do
            let rest ← skipMember? flags ('-' :: rest)
            setFrom? flags fuel (set.push 0) outer rest
      | '&' :: '&' :: rest | '~' :: '~' :: rest => setFrom? flags fuel set.operate outer rest
      | text => do
          let rest ← skipMember? flags text
          setFrom? flags fuel (set.push 0) outer rest

def set? (flags : Flags) (text : Text) : Option (Shape × Text) := do
  let (set, rest) ← openSet? flags text
  let (depth, rest) ← setFrom? flags (rest.length + 1) set [] rest
  some ({ Shape.single with depth := depth }, rest)

end CallHierarchy.Pattern
