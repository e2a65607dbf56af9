import CallHierarchy.Document.LineIndex
import CallHierarchy.Text.WordCharacter
import CallHierarchy.Uri.Basic

/-!
Snapshots of documents. A snapshot is the text of one version of a document and never changes;
an edit gives the snapshot of the next version.
-/

namespace CallHierarchy

structure Location where
  uri : Uri
  range : Range
  deriving DecidableEq, Repr

/-- The text of one version of a document. -/
structure Snapshot where
  uri : Uri
  languageId : Text
  version : Int32
  text : Text
  deriving DecidableEq

namespace Snapshot

/-- The version after this one; the greatest version is followed by itself. -/
def nextVersion (version : Int32) : Int32 :=
  if version = Int32.maxValue then version else version + 1

/-- The snapshot that follows this one when its text is replaced. -/
def edit (snapshot : Snapshot) (text : Text) : Snapshot :=
  { snapshot with version := nextVersion snapshot.version, text := text }

def lineIndex (snapshot : Snapshot) : LineIndex :=
  LineIndex.ofText snapshot.text

def lineCount (snapshot : Snapshot) : Nat :=
  snapshot.lineIndex.lineCount

def lineText? (snapshot : Snapshot) (line : Nat) : Option Text :=
  snapshot.lineIndex.lineText? snapshot.text line

def lineTexts (snapshot : Snapshot) : List Text :=
  snapshot.lineIndex.lineTexts snapshot.text

def offsetAt (snapshot : Snapshot) (position : Position) : Nat :=
  snapshot.lineIndex.offset snapshot.text position

def positionAt (snapshot : Snapshot) (offset : Nat) : Position :=
  snapshot.lineIndex.position snapshot.text offset

/-- The text of a range; a range that ends before its start is empty. -/
def textIn (snapshot : Snapshot) (range : Range) : Text :=
  let start := snapshot.offsetAt range.start
  let stop := max (snapshot.offsetAt range.finish) start
  (snapshot.text.slice? start stop).getD []

def finalWord (text : Text) : Text :=
  (text.reverse.takeWhile Text.isWordCharacter).reverse

def initialWord (text : Text) : Text :=
  text.takeWhile Text.isWordCharacter

/-- The range of the word that touches a position: the word characters just before and just after
it on its line. -/
def wordRangeAt? (snapshot : Snapshot) (position : Position) : Option Range := do
  let line ← snapshot.lineText? position.line
  let (before, behind) ← line.splitAtByte? (line.columnOffset position.character)
  let left := finalWord before
  let right := initialWord behind
  if left.isEmpty && right.isEmpty then
    none
  else
    let start := before.take (before.length - left.length)
    some (Range.onLine position.line (Text.columnCount start) (Text.columnCount (before ++ right)))

end Snapshot

end CallHierarchy
