import CallHierarchy.DomainName.Folding.Expansion
import CallHierarchy.DomainName.Folding.Range
import CallHierarchy.DomainName.Folding.Single
import CallHierarchy.Text.Visible

/-!
Folding: names that differ only in the case, the width or the style of their characters are the
same name. Some characters are left out of a name, and some cannot be in a name at all.
-/

namespace CallHierarchy.DomainName

/-- Characters that are left out of names. -/
def ignoredRanges : List (Nat × Nat) :=
  [
    (0x00AD, 0x00AD), (0x034F, 0x034F), (0x115F, 0x1160), (0x17B4, 0x17B5), (0x180B, 0x180F),
    (0x200B, 0x200B), (0x2060, 0x2064), (0x206A, 0x206F), (0x3164, 0x3164), (0xFE00, 0xFE0F),
    (0xFEFF, 0xFEFF), (0xFFA0, 0xFFA0), (0x1BCA0, 0x1BCA3), (0x1D173, 0x1D17A), (0xE0100, 0xE01EF)
  ]

/-- Visible characters that cannot be in a name: most hold a full stop, or say how others are
laid out. -/
def refusedRanges : List (Nat × Nat) :=
  [
    (0x2024, 0x2026), (0x2488, 0x249B), (0x2FF0, 0x2FFF), (0x31EF, 0x31EF), (0x33C2, 0x33C2),
    (0x33C7, 0x33C7), (0x33D8, 0x33D8), (0xFE12, 0xFE12), (0xFE19, 0xFE19), (0xFE30, 0xFE30),
    (0xFE52, 0xFE52), (0xFFFC, 0xFFFD), (0x1F100, 0x1F100)
  ]

def isJoiner (character : Char) : Bool :=
  character.toNat == 0x200C || character.toNat == 0x200D

def rangeFolding? (code : Nat) : Option Nat :=
  let alternates (range : Nat × Nat) : Bool :=
    range.1 ≤ code && code ≤ range.2 && (code - range.1) % 2 = 0
  if alternatingRanges.any alternates then
    some (code + 1)
  else
    match shiftedRanges.find? fun range => range.1 ≤ code && code ≤ range.2.1 with
    | some range => some (range.2.2 + (code - range.1))
    | none =>
        (variantRanges.find? fun range => range.1 ≤ code && code ≤ range.2.1).map fun range =>
          range.2.2

def inRows? {α : Type} (rows : List (Nat × List α)) (code : Nat) : Option α :=
  rows.findSome? fun row => if row.1 ≤ code then row.2[code - row.1]? else none

/-- The codes that a code above ASCII is folded into, which is the code itself for most. -/
def foldingOf (code : Nat) : List Nat :=
  match rangeFolding? code with
  | some folded => [folded]
  | none =>
      match inRows? (letterFoldings ++ styledFoldings ++ ideographFoldings) code with
      | some folded => [folded]
      | none => (inRows? expansions code).getD [code]

/-- What a character becomes in a name, if it can be in one. -/
def foldedCharacter? (character : Char) : Option Text :=
  let code := character.toNat
  if code < 0x80 then some [character.toLower]
  else if Text.inRanges ignoredRanges code then some []
  else if isJoiner character then some [character]
  else if Text.inRanges Text.hiddenRanges code || Text.inRanges refusedRanges code then none
  else some ((foldingOf code).map Char.ofNat)

def folded? (text : Text) : Option Text :=
  (text.mapM foldedCharacter?).map List.flatten

def isFolded (character : Char) : Bool :=
  foldedCharacter? character = some [character]

end CallHierarchy.DomainName
