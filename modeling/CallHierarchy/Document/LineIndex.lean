import CallHierarchy.Document.Position
import CallHierarchy.Text.Basic

/-!
The line index of a text, and the conversions between positions and byte offsets that it serves.
The index holds only the starts of the lines. Every query names the text again, and stays safe
when that text is not the one that was indexed: a cut that falls inside a character, or past the
end, counts as missing.
-/

namespace CallHierarchy

/-- The byte offsets at which the lines of a text start. -/
structure LineIndex where
  lineStarts : List Nat
  deriving DecidableEq, Repr

namespace LineIndex

/-- The offsets that follow a line feed, for a text whose first character stands at `offset`. -/
def startsAfter : Text → (offset : Nat) → List Nat
  | [], _ => []
  | first :: rest, offset =>
      if first = '\n' then
        (offset + first.utf8Size) :: startsAfter rest (offset + first.utf8Size)
      else
        startsAfter rest (offset + first.utf8Size)

/-- The index of a text: its first line starts at zero, each other one after a line feed. -/
def ofText (text : Text) : LineIndex :=
  ⟨0 :: startsAfter text 0⟩

def lineCount (index : LineIndex) : Nat :=
  Text.saturate index.lineStarts.length

/-- A line without its terminator: at most one line feed and then at most one carriage return are
dropped from its end. -/
def withoutTerminator (line : Text) : Text :=
  Text.dropFinal '\r' (Text.dropFinal '\n' line)

/-- The start of a line in `source` and its text without the terminator. -/
def line? (index : LineIndex) (source : Text) (line : Nat) : Option (Nat × Text) := do
  let start ← index.lineStarts[line]?
  let next := index.lineStarts[line + 1]?.getD source.byteLength
  let whole ← source.slice? start next
  some (start, withoutTerminator whole)

def lineText? (index : LineIndex) (source : Text) (line : Nat) : Option Text :=
  (index.line? source line).map Prod.snd

/-- The texts of the lines in order, up to the first line that is missing. -/
def lineTexts (index : LineIndex) (source : Text) : List Text :=
  (((List.range index.lineCount).map (index.lineText? source)).takeWhile Option.isSome).filterMap id

/-- The byte offset of a position. A column past the end of its line is taken to that end, and a
line past the last one to the end of the text. -/
def offset (index : LineIndex) (source : Text) (position : Position) : Nat :=
  match index.line? source position.line with
  | none => source.byteLength
  | some (start, line) => start + line.columnOffset position.character

/-- The position of a byte offset. An offset past the end is taken to the end of the text, and one
inside a character to the start of that character. -/
def position (index : LineIndex) (source : Text) (offset : Nat) : Position :=
  let snapped := source.floorBoundary offset
  let line := (index.lineStarts.takeWhile (· ≤ snapped)).length - 1
  let lineStart := index.lineStarts[line]?.getD 0
  let before := (source.slice? lineStart snapped).getD []
  ⟨Text.saturate line, before.columnCount⟩

end LineIndex

end CallHierarchy
