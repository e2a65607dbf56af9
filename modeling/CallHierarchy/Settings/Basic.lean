import CallHierarchy.Declaration.Keyword

/-!
Settings: which language is indexed, what opens a declaration, and which events are written how.
-/

namespace CallHierarchy

inductive LogFormat where
  /-- One JSON object for each event. -/
  | json
  /-- One line for people. -/
  | compact
  deriving DecidableEq, Repr

namespace LogFormat

def label : LogFormat → String
  | json => "json"
  | compact => "compact"

/-- The format with exactly this label. -/
def ofLabel? (text : Text) : Option LogFormat :=
  [json, compact].find? fun format => format.label.toList = text

/-- The format with this label, in upper or lower ASCII letters. -/
def ofText? (text : Text) : Option LogFormat :=
  ofLabel? (text.map Char.toLower)

def refusal : String :=
  "Matching variant not found"

end LogFormat

structure Settings where
  languageId : Text
  functionKeyword : Text
  logFilter : Text
  logFormat : LogFormat
  deriving DecidableEq, Repr

inductive SettingsError where
  /-- The file cannot be read. -/
  | unreadable (path : Text) (reason : String)
  /-- The text is not TOML, or a setting has the wrong type. -/
  | malformed
  /-- The keyword is empty or holds a blank. -/
  | invalidKeyword (keyword : Text)
  deriving DecidableEq, Repr

/-- What is said about the error; the wording for a malformed text is open. -/
def SettingsError.message? : SettingsError → Option String
  | unreadable path reason =>
      some s!"failed to read configuration from {String.ofList path}: {reason}"
  | malformed => none
  | invalidKeyword keyword => some (Keyword.refusal keyword)

namespace Settings

def default : Settings where
  languageId := "abc".toList
  functionKeyword := "func".toList
  logFilter := "info".toList
  logFormat := .json

/-- Accepts settings whose keyword can open a declaration. -/
def validate (settings : Settings) : Except SettingsError Keyword :=
  match Keyword.ofText? settings.functionKeyword with
  | some keyword => .ok keyword
  | none => .error (.invalidKeyword settings.functionKeyword)

end Settings

end CallHierarchy
