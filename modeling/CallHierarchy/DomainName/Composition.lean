import CallHierarchy.DomainName.CombiningClass
import CallHierarchy.DomainName.Composite

/-!
The composed form of a text. Texts that differ only in how characters and marks are written have
one composed form: composites are taken apart, marks are put in order, and everything that can be
joined is joined again.
-/

namespace CallHierarchy.DomainName

/-- The parts of a character; the first part may have parts itself. -/
def partsOf : (fuel : Nat) → Nat → List Nat
  | 0, code => [code]
  | fuel + 1, code =>
      match compositeParts? code with
      | none => [code]
      | some (first, mark) => partsOf fuel first ++ [mark]

def partsLimit : Nat := 4

def decompose (text : Text) : Text :=
  text.flatMap fun character => (partsOf partsLimit character.toNat).map Char.ofNat

/-- Puts a character before an ordered text: a mark goes behind the marks of lower classes. -/
def insertMark (character : Char) : Text → Text
  | [] => [character]
  | first :: rest =>
      if combiningClass first ≠ 0 && combiningClass first < combiningClass character then
        first :: insertMark character rest
      else
        character :: first :: rest

/-- The text with the marks behind each character in the order of their classes. -/
def orderMarks (text : Text) : Text :=
  text.foldr insertMark []

/-- Joins what follows a character to it. The marks that were not joined are kept in reverse; one
of them is in the way of everything whose class is not above its own. -/
def joinFrom (base : Char) (kept : Text) : Text → Text
  | [] => base :: kept.reverse
  | first :: rest =>
      let isFree := kept.head?.all fun last => combiningClass last < combiningClass first
      let joined := if isFree then composite? base.toNat first.toNat else none
      match joined with
      | some code => joinFrom (Char.ofNat code) kept rest
      | none =>
          if combiningClass first = 0 then
            base :: kept.reverse ++ joinFrom first [] rest
          else
            joinFrom base (first :: kept) rest

/-- Joins whatever can be joined. Marks at the start have nothing to be joined to. -/
def joinAll : Text → Text
  | [] => []
  | first :: rest =>
      if combiningClass first = 0 then joinFrom first [] rest else first :: joinAll rest

def compose (text : Text) : Text :=
  joinAll (orderMarks (decompose text))

end CallHierarchy.DomainName
