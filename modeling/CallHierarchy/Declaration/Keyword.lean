import CallHierarchy.Text.Basic

/-!
The keyword that opens a declaration: any non-empty text without blanks.
-/

namespace CallHierarchy

def isKeyword (text : Text) : Bool :=
  !text.isEmpty && !text.any Text.isBlank

/-- The word at the start of every header line. -/
structure Keyword where
  text : Text
  valid : isKeyword text = true
  deriving DecidableEq

namespace Keyword

def refusal (text : Text) : String :=
  s!"function keyword '{String.ofList text}' must be non-empty and contain no whitespace"

def ofText? (text : Text) : Option Keyword :=
  if valid : isKeyword text = true then some ⟨text, valid⟩ else none

/-- Every keyword is read back from its text. -/
@[simp] theorem ofText?_text (keyword : Keyword) : ofText? keyword.text = some keyword := by
  rw [ofText?, dif_pos keyword.valid]

end Keyword

end CallHierarchy
