import MemberOutline.Reading.Mismatch
import MemberOutline.Settings.Basic
import MemberOutline.Toml.Reader

/-!
# Settings from a document

The document may have a table `scanner` with `strip_type_arguments` and a table `output` with
`format`. What is missing keeps its default and what is unknown is passed over. In place of a table
an array may stand, whose first item is the value of the one key.
-/

namespace MemberOutline

/-- What a node is found to be. -/
def Toml.Node.found : Toml.Node → Reading.Found
  | .string s => .string s
  | .integer n => .integer n
  | .float x => .float x
  | .boolean b => .boolean b
  | .datetime => .map
  | .array _ => .sequence
  | .table _ _ => .map
  | .tables _ => .sequence

namespace Settings

/-- Why a text gives no settings. -/
inductive ReadError where
  /-- The text is no document. -/
  | malformed
  /-- A value of the wrong kind stands at a place. -/
  | mismatch (m : Reading.Mismatch)
  /-- This word is no form of a report. -/
  | unknownFormat (word : Text)
  /-- The form is neither a word nor a table. -/
  | formatKind
  /-- The form is an empty table. -/
  | formatEmpty
  /-- The form is a table with several keys. -/
  | formatCrowded
  /-- The form is a table whose key names one but that gives it a value. -/
  | formatValue
  deriving Repr

/-- Doubles in the messages on settings have no exponent. -/
def floatLayout : Decimal.Layout where
  tie := .up
  plainPowers := none

/-- The message for a text that gives no settings, if the form of the settings is what it breaks. -/
def ReadError.message? : ReadError → Option String
  | .malformed | .formatValue => none
  | .mismatch m => some (m.message floatLayout)
  | .unknownFormat word =>
    some ("unknown variant \x60" ++ String.ofList word ++
      "\x60, expected \x60text\x60 or \x60json\x60")
  | .formatKind => some "wanted string or table"
  | .formatEmpty => some "wanted exactly 1 element, found 0 elements"
  | .formatCrowded => some "wanted exactly 1 element, more than 1 element"

instance : ToString ReadError where
  toString e := e.message?.getD "the text is no settings document"

/-- What a section has for its one key, if anything. -/
def sectionValue? (key expected : String) : Toml.Node → Except ReadError (Option Toml.Node)
  | .table _ entries => .ok (Toml.Entries.find? entries key.toList)
  | .array items => .ok items.head?
  | .tables elements => .ok (elements.head?.map (.table .declared))
  | .datetime => .ok none
  | node => .error (.mismatch ⟨node.found, expected⟩)

/-- The truth value that a node is. -/
def booleanOf : Toml.Node → Except ReadError Bool
  | .boolean b => .ok b
  | node => .error (.mismatch ⟨node.found, "a boolean"⟩)

/-- The form that a word names. -/
def formatOfWord (word : Text) : Except ReadError Format :=
  match Format.ofWord? (String.ofList word) with
  | some format => .ok format
  | none => .error (.unknownFormat word)

/-- The form that a node names: a word, or a table with the word as its only key and no value. -/
def formatOf : Toml.Node → Except ReadError Format
  | .string word => formatOfWord word
  | .table _ [] => .error .formatEmpty
  | .table _ [(word, value)] => do
    let format ← formatOfWord word
    match value with
    | .array [] | .table _ [] => .ok format
    | _ => .error .formatValue
  | .table _ _ => .error .formatCrowded
  | _ => .error .formatKind

/-- The settings with what one entry of the document says. -/
def applyEntry (s : Settings) (entry : Text × Toml.Node) : Except ReadError Settings := do
  if entry.1 = "scanner".toList then
    match ← sectionValue? "strip_type_arguments" "struct ScannerSettings" entry.2 with
    | none => .ok s
    | some node => return { s with stripTypeArguments := ← booleanOf node }
  else if entry.1 = "output".toList then
    match ← sectionValue? "format" "struct OutputSettings" entry.2 with
    | none => .ok s
    | some node => return { s with format := ← formatOf node }
  else .ok s

/-- The settings that a text gives. -/
def ofToml (t : Text) : Except ReadError Settings :=
  match Toml.read? t with
  | none => .error .malformed
  | some entries => entries.foldlM applyEntry {}

end Settings

end MemberOutline
