import CallHierarchy.Settings.Basic
import CallHierarchy.Text.Utf8
import CallHierarchy.Toml.Document

/-!
Settings read from TOML. Every setting is optional and unknown ones are ignored, but a setting of
the wrong type makes the whole text malformed. The keyword is looked at last.
-/

namespace CallHierarchy.Settings

open Toml

def textSetting? (entries : Entries) (key : Text) (preset : Text) : Option Text :=
  match entries.value? key with
  | none => some preset
  | some (.string text) => some text
  | some _ => none

def isHollow : Value → Bool
  | .array items => items.isEmpty
  | .table _ entries => entries.isEmpty
  | .tables items => items.isEmpty
  | _ => false

/-- A format setting: the label of a format, or a table whose only key is the label and whose value
holds nothing. -/
def formatSetting? (entries : Entries) (key : Text) (preset : LogFormat) : Option LogFormat :=
  match entries.value? key with
  | none => some preset
  | some (.string text) => LogFormat.ofLabel? text
  | some (.table _ [(label, value)]) => if isHollow value then LogFormat.ofLabel? label else none
  | some _ => none

def ofEntries? (entries : Entries) : Option Settings := do
  let preset := Settings.default
  some
    { languageId := ← textSetting? entries "language_id".toList preset.languageId
      functionKeyword := ← textSetting? entries "function_keyword".toList preset.functionKeyword
      logFilter := ← textSetting? entries "log_filter".toList preset.logFilter
      logFormat := ← formatSetting? entries "log_format".toList preset.logFormat }

def ofToml (text : Text) : Except SettingsError Settings := do
  match (document? text).bind ofEntries? with
  | none => throw .malformed
  | some settings =>
      let _ ← settings.validate
      return settings

/-- The usable settings that a file gives, from its contents if there is such a file. -/
def ofFile (path : Text) (contents : Option (List UInt8)) : Except SettingsError Settings :=
  match contents with
  | none => throw (.unreadable path "No such file or directory (os error 2)")
  | some bytes =>
      match Text.ofUtf8? bytes with
      | none => throw (.unreadable path "stream did not contain valid UTF-8")
      | some text => ofToml text

end CallHierarchy.Settings
