import CallHierarchy.Event
import CallHierarchy.Pattern.Reader

/-!
Filter directives. A directive is a target, a span with fields in brackets, and a level after a
sign of equality, each of which may be missing. A word alone is a level if it names one and a
target otherwise; where no level is given, everything is let through.
-/

namespace CallHierarchy

/-- How many levels are let through, from the one that matters most: none at zero, all at five. -/
abbrev Verbosity := Nat

/-- The least verbosity that lets a level through. -/
def Level.rank : Level → Verbosity
  | error => 1
  | warn => 2
  | info => 3
  | debug => 4
  | trace => 5

def Level.label : Level → String
  | error => "ERROR"
  | warn => "WARN"
  | info => "INFO"
  | debug => "DEBUG"
  | trace => "TRACE"

namespace Verbosity

def all : Verbosity := 5

def number? (text : Text) : Option Nat :=
  let digits := match text with
    | '+' :: rest => rest
    | _ => text
  if !digits.isEmpty && digits.all Char.isDigit then
    some (digits.foldl (fun value digit => 10 * value + (digit.toNat - 48)) 0)
  else
    none

/-- The verbosity that a number or a name stands for; case does not matter. -/
def ofText? (text : Text) : Option Verbosity :=
  match number? text with
  | some number => if number ≤ 5 then some number else none
  | none =>
      ["off", "error", "warn", "info", "debug", "trace"].findIdx? fun name =>
        name.toList = text.map Char.toLower

end Verbosity

inductive FilterError where
  | malformedDirective
  | unknownLevel
  /-- The pattern for a value cannot be read. -/
  | malformedPattern
  /-- The pattern for a value asks where words begin and end. -/
  | wordPattern
  deriving DecidableEq, Repr

def FilterError.message : FilterError → String
  | malformedDirective => "invalid filter directive"
  | unknownLevel =>
      "error parsing level filter: expected one of \"off\", \"error\", \"warn\", \"info\", " ++
        "\"debug\", \"trace\", or a number 0-5"
  | malformedPattern => "invalid field filter: error building NFA"
  | wordPattern =>
      "invalid field filter: unsupported regex feature for DFAs: cannot build DFAs for regexes " ++
        "with Unicode word boundaries; switch to ASCII word boundaries, or heuristically " ++
        "enable Unicode word boundaries or use a different regex engine"

/-- Whether a text is the exponent of a decimal number, or empty. -/
def isExponent : Text → Bool
  | [] => true
  | mark :: rest =>
      let digits := match rest with
        | '+' :: digits | '-' :: digits => digits
        | _ => rest
      (mark == 'e' || mark == 'E') && !digits.isEmpty && digits.all Char.isDigit

/-- Whether a text without its sign is a decimal number: digits before or after a point. -/
def isDecimal (text : Text) : Bool :=
  let whole := text.takeWhile Char.isDigit
  match text.dropWhile Char.isDigit with
  | '.' :: rest =>
      !(whole.isEmpty && (rest.takeWhile Char.isDigit).isEmpty) &&
        isExponent (rest.dropWhile Char.isDigit)
  | rest => !whole.isEmpty && isExponent rest

/-- Whether a text is a number, infinite or undefined ones included. -/
def isNumber (text : Text) : Bool :=
  let body := match text with
    | '+' :: rest | '-' :: rest => rest
    | _ => text
  isDecimal body || ["inf", "infinity", "nan"].any fun name => name.toList = body.map Char.toLower

/-- Checks the value that a field is compared with: what is not a number is a pattern. -/
def checkValue (value : Text) : Except FilterError Unit :=
  if isNumber value then
    .ok ()
  else
    match Pattern.shape? value with
    | none => .error .malformedPattern
    | some shape => if shape.asksForWords then .error .wordPattern else .ok ()

structure FieldMatch where
  name : Text
  hasValue : Bool
  deriving DecidableEq, Repr

structure Directive where
  verbosity : Verbosity
  target : Option Text
  span : Option Text
  fields : List FieldMatch
  deriving DecidableEq, Repr

namespace Directive

/-- How far a directive has been read; the numbers are the offsets at which the part starts. -/
inductive Stage where
  | start
  | word (first : Nat)
  | span (first : Nat)
  | field (first : Nat)
  | fieldsDone
  | spanDone
  | level (first : Nat)
  deriving DecidableEq, Repr

/-- Reads one field of a span: a name, and a value between the first sign of equality and the
next. -/
def fieldMatch (text : Text) : Except FilterError FieldMatch :=
  if text.isEmpty then
    .error .malformedDirective
  else
    match Text.splitOn '=' text with
    | name :: value :: _ => do
        checkValue value
        return ⟨name, true⟩
    | _ => .ok ⟨text, false⟩

/-- Reads one character at an offset. The parts are cut from `whole`, which still has the blanks
that were taken from both ends before the offsets were counted. -/
def step (whole : Text) (offset : Nat) (character : Char) (stage : Stage) (directive : Directive) :
    Except FilterError (Stage × Directive) :=
  let cut (first : Nat) : Text := (whole.slice? first offset).getD []
  match stage with
  | .start =>
      if character = '[' then .ok (.span (offset + 1), directive)
      else if ['-', ':', '_'].contains character || Text.isAlphanumeric character then
        .ok (.word offset, directive)
      else .error .malformedDirective
  | .word first =>
      if character = '=' then
        .ok (.level (offset + 1), { directive with target := some (cut first) })
      else if character = '[' then
        .ok (.span (offset + 1), { directive with target := some (cut first) })
      else .ok (stage, directive)
  | .span first =>
      if character = ']' then .ok (.spanDone, { directive with span := some (cut first) })
      else if character = '\x7b' then
        let name := cut first
        .ok (.field (offset + 1),
          { directive with span := if name.isEmpty then none else some name })
      else .ok (stage, directive)
  | .field first =>
      if character = '\x7d' then do
        let field ← fieldMatch (cut first)
        .ok (.fieldsDone, { directive with fields := directive.fields ++ [field] })
      else .ok (stage, directive)
  | .fieldsDone =>
      if character = ']' then .ok (.spanDone, directive) else .error .malformedDirective
  | .spanDone =>
      if character = '=' then .ok (.level (offset + 1), directive) else .error .malformedDirective
  | .level _ => .ok (stage, directive)

/-- Reads all characters, the first of which stands at `offset`. -/
def readFrom (whole : Text) : Text → (offset : Nat) → Stage → Directive →
    Except FilterError (Stage × Directive)
  | [], _, stage, directive => .ok (stage, directive)
  | first :: rest, offset, stage, directive => do
      let (stage, directive) ← step whole offset first stage directive
      readFrom whole rest (offset + first.utf8Size) stage directive

def finish (whole : Text) (stage : Stage) (directive : Directive) : Except FilterError Directive :=
  let tail (first : Nat) : Text := (whole.slice? first whole.byteLength).getD []
  match stage with
  | .word first =>
      match Verbosity.ofText? (tail first) with
      | some verbosity => .ok { directive with verbosity := verbosity, target := none }
      | none => .ok { directive with target := some (tail first) }
  | .level first =>
      if (tail first).isEmpty then
        .ok directive
      else
        match Verbosity.ofText? (tail first) with
        | some verbosity => .ok { directive with verbosity := verbosity }
        | none => .error .unknownLevel
  | .spanDone => .ok directive
  | _ => .error .malformedDirective

def ofText (text : Text) : Except FilterError Directive := do
  let (stage, directive) ← readFrom text (Text.trim text) 0 .start ⟨.all, none, none, []⟩
  finish text stage directive

end Directive

end CallHierarchy
