import CallHierarchy.Toml.Scalar

/-!
TOML documents: values, and the lines that build the tables of a document.
-/

namespace CallHierarchy.Toml

/-- Reads the items of an array, given a reader of values, after the opening bracket. -/
def items? (value : Reader Value) : (fuel : Nat) → Reader (List Value)
  | 0, _ => none
  | fuel + 1, text =>
      match skipLines text.length text with
      | ']' :: rest => some ([], rest)
      | text => do
          let (first, rest) ← value text
          match skipLines rest.length rest with
          | ',' :: rest => do
              let (others, rest) ← items? value fuel rest
              some (first :: others, rest)
          | ']' :: rest => some ([first], rest)
          | _ => none

def keyValue? (value : Reader Value) : Reader ((List Text × Text) × Value) := fun text => do
  let (key, rest) ← key? text
  let (value, rest) ← value (skipSpaces (← Text.after? ['='] rest))
  some ((key, value), rest)

/-- Reads the entries of a table in braces, given a reader of values and the entries so far. -/
def inlineEntries? (value : Reader Value) : (fuel : Nat) → Entries → Reader Entries
  | 0, _, _ => none
  | fuel + 1, entries, text => do
      let (((path, key), value'), rest) ← keyValue? value text
      let entries ← entries.addDotted? path key value'
      match skipSpaces rest with
      | ',' :: rest => inlineEntries? value fuel entries rest
      | '\x7d' :: rest => some (entries, rest)
      | _ => none

/-- Reads a value that may nest `depth` levels deep. -/
def value? : (depth : Nat) → Reader Value
  | 0, text =>
      match text with
      | '"' :: _ | '\'' :: _ => (string? text).map fun (text, rest) => (.string text, rest)
      | _ => scalar? text
  | depth + 1, text =>
      match text with
      | '"' :: _ | '\'' :: _ => (string? text).map fun (text, rest) => (.string text, rest)
      | '[' :: rest =>
          (items? (value? depth) text.length rest).map fun (items, rest) => (.array items, rest)
      | '\x7b' :: rest =>
          match skipSpaces rest with
          | '\x7d' :: rest => some (.table .inline [], rest)
          | rest =>
              (inlineEntries? (value? depth) text.length [] rest).map fun (entries, rest) =>
                (.table .inline entries, rest)
      | _ => scalar? text

/-- The tables so far, and the header under which keys now stand. -/
structure Progress where
  root : Entries
  header : List Text

/-- Reads a header after its opening brackets: a key, the closing brackets and the line's end. -/
def header? (closing : Text) : Reader (List Text × Text) := fun text => do
  let (key, rest) ← key? text
  some (key, ← lineEnd? (← Text.after? closing rest))

def lines? : (fuel : Nat) → Progress → Text → Option Entries
  | 0, _, _ => none
  | fuel + 1, progress, text =>
      match skipSpaces text with
      | [] => some progress.root
      | '#' :: rest => do lines? fuel progress (← lineEnd? ('#' :: rest))
      | '[' :: '[' :: rest => do
          let ((path, key), rest) ← header? [']', ']'] rest
          lines? fuel ⟨← progress.root.openNextTable? path key, path ++ [key]⟩ rest
      | '[' :: rest => do
          let ((path, key), rest) ← header? [']'] rest
          lines? fuel ⟨← progress.root.openTable? path key, path ++ [key]⟩ rest
      | text =>
          match newline? text with
          | some rest => lines? fuel progress rest
          | none => do
              let (((path, key), value), rest) ← keyValue? (value? nestingLimit) text
              let add (entries : Entries) : Option Entries := entries.addDotted? path key value
              let root ← Entries.change? add progress.header progress.root
              lines? fuel { progress with root := root } (← lineEnd? rest)

/-- The entries of a document; a byte order mark at its start is skipped. -/
def document? (text : Text) : Option Entries :=
  let body := match text with
    | '\uFEFF' :: rest => rest
    | text => text
  lines? (body.length + 1) ⟨[], []⟩ body

end CallHierarchy.Toml
