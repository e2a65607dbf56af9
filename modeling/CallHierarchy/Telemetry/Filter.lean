import CallHierarchy.Telemetry.Directive

/-!
Filters: which events are let through. Of the rules that fit an event the most specific one
decides: the one with the longest target, then the one with the most fields. A target fits
whatever starts with it. Directives about spans never fit an event outside of spans, and without
any directive only errors are let through.
-/

namespace CallHierarchy

/-- A directive about events: a target, names of fields, and what is let through. -/
structure FilterRule where
  target : Option Text
  fields : List Text
  verbosity : Verbosity
  deriving DecidableEq, Repr

/-- The rules of a filter, the most specific ones first. -/
structure EventFilter where
  rules : List FilterRule
  deriving DecidableEq, Repr

namespace FilterRule

/-- How specific the target is: the longer the better, and none at all the least. -/
def targetSize (rule : FilterRule) : Nat :=
  match rule.target with
  | none => 0
  | some target => target.byteLength + 1

def precedes (left right : FilterRule) : Bool :=
  if left.targetSize ≠ right.targetSize then right.targetSize < left.targetSize
  else if left.fields.length ≠ right.fields.length then right.fields.length < left.fields.length
  else if left.target ≠ right.target then right.target.getD [] < left.target.getD []
  else right.fields < left.fields

def fits (rule : FilterRule) (event : Event) : Bool :=
  rule.target.all (fun target => target.isPrefixOf event.target.name.toList) &&
    rule.fields.all fun name =>
      name = "message".toList || event.fields.any fun field => field.1.toList = name

/-- Puts a rule in its place, instead of the one about the same events. -/
def insertInto (rule : FilterRule) : List FilterRule → List FilterRule
  | [] => [rule]
  | first :: rest =>
      if first.target = rule.target && first.fields = rule.fields then rule :: rest
      else if rule.precedes first then rule :: first :: rest
      else first :: insertInto rule rest

/-- The rule that a directive states about events, if it states one. -/
def ofDirective? (directive : Directive) : Option FilterRule :=
  if directive.span.isNone && directive.fields.all fun field => !field.hasValue then
    some ⟨directive.target, directive.fields.map FieldMatch.name, directive.verbosity⟩
  else
    none

end FilterRule

namespace EventFilter

def isAboutSpans (directive : Directive) : Bool :=
  directive.span.isSome || !directive.fields.isEmpty

/-- The filter of a list of directives; later ones about the same events win. -/
def ofDirectives (directives : List Directive) : EventFilter :=
  let ordered := directives.filter (!isAboutSpans ·) ++ directives.filter isAboutSpans
  let rules := (ordered.filterMap FilterRule.ofDirective?).foldl
    (fun rules rule => rule.insertInto rules) []
  if directives.isEmpty then ⟨[⟨none, [], Level.error.rank⟩]⟩ else ⟨rules⟩

/-- Reads a filter: directives with commas between them, empty ones skipped. -/
def ofText (text : Text) : Except FilterError EventFilter := do
  let pieces := (Text.splitOn ',' text).filter fun piece => !piece.isEmpty
  return ofDirectives (← pieces.mapM Directive.ofText)

def allows (filter : EventFilter) (event : Event) : Bool :=
  match filter.rules.find? fun rule => rule.fits event with
  | some rule => event.level.rank ≤ rule.verbosity
  | none => false

end EventFilter

end CallHierarchy
