import CallHierarchy.Text.Basic

/-!
TOML values and the rules by which keys and headers build tables. A table remembers how it came to
be, because that decides who may add to it: a written-out table is closed, a table that only a
header's path or a dotted key called for may still grow.
-/

namespace CallHierarchy.Toml

/-- How a table came to be. -/
inductive TableForm where
  /-- Written in braces; closed. -/
  | inline
  /-- Called for by the path of a header. -/
  | implied
  /-- Called for by a dotted key. -/
  | dotted
  /-- Opened by a header of its own. -/
  | headed
  deriving DecidableEq, Repr

/-- A TOML value. Numbers that nothing here computes with are kept as they were written. -/
inductive Value where
  | string (text : Text)
  | integer (number : Int)
  | float (literal : Text)
  | boolean (truth : Bool)
  | datetime (literal : Text)
  | array (items : List Value)
  | table (form : TableForm) (entries : List (Text × Value))
  /-- Tables that share a header in double brackets. -/
  | tables (items : List (List (Text × Value)))

abbrev Entries := List (Text × Value)

namespace Entries

def value? (entries : Entries) (key : Text) : Option Value :=
  (entries.find? fun entry => entry.1 = key).map Prod.snd

def assign (key : Text) (value : Value) : Entries → Entries
  | [] => [(key, value)]
  | first :: rest =>
      if first.1 = key then (key, value) :: rest else first :: assign key value rest

/-- Adds a key, which must be new. -/
def add? (entries : Entries) (key : Text) (value : Value) : Option Entries :=
  match value? entries key with
  | some _ => none
  | none => some (entries ++ [(key, value)])

/-- Adds a key at the end of a dotted path. The table it goes into must have been called for by
dotted keys only; on the way there, tables called for by headers may be passed. -/
def addDotted? (entries : Entries) : (path : List Text) → (key : Text) → Value → Option Entries
  | [], key, value => add? entries key value
  | step :: rest, key, value =>
      match value? entries step with
      | none => do
          let inner ← addDotted? [] rest key value
          some (entries ++ [(step, .table .dotted inner)])
      | some (.table .dotted inner) => do
          let inner ← addDotted? inner rest key value
          some (assign step (.table .dotted inner) entries)
      | some (.table .implied inner) =>
          if rest.isEmpty then
            none
          else do
            let inner ← addDotted? inner rest key value
            some (assign step (.table .implied inner) entries)
      | some (.tables items) =>
          if rest.isEmpty then
            none
          else do
            let inner ← addDotted? (← items.getLast?) rest key value
            some (assign step (.tables (items.dropLast ++ [inner])) entries)
      | some _ => none

/-- Changes the table that a header's path leads to. Missing tables on the way are called for; of
tables that share a header the last one is meant. -/
def change? (change : Entries → Option Entries) : (path : List Text) → Entries → Option Entries
  | [], entries => change entries
  | step :: rest, entries =>
      match value? entries step with
      | none => do
          let inner ← change? change rest []
          some (entries ++ [(step, .table .implied inner)])
      | some (.table form inner) =>
          if form = .inline then
            none
          else do
            let inner ← change? change rest inner
            some (assign step (.table form inner) entries)
      | some (.tables items) => do
          let inner ← change? change rest (← items.getLast?)
          some (assign step (.tables (items.dropLast ++ [inner])) entries)
      | some _ => none

/-- Opens the table of a header. It may have been called for before, but by headers only. -/
def openTable? (root : Entries) (path : List Text) (key : Text) : Option Entries :=
  let opened (parent : Entries) : Option Entries :=
    match value? parent key with
    | none => some (assign key (.table .headed []) parent)
    | some (.table .implied inner) => some (assign key (.table .headed inner) parent)
    | some _ => none
  change? opened path root

/-- Opens one more of the tables that share a header. -/
def openNextTable? (root : Entries) (path : List Text) (key : Text) : Option Entries :=
  let opened (parent : Entries) : Option Entries :=
    match value? parent key with
    | none => some (assign key (.tables [[]]) parent)
    | some (.tables items) => some (assign key (.tables (items ++ [[]])) parent)
    | some _ => none
  change? opened path root

end Entries

end CallHierarchy.Toml
