import ManifestEdit.Document.Reading
import ManifestEdit.Json.Parser

/-!
# Why a document cannot be read

An error names its source once that is known, and keeps the failures with the value that failed. A
bound of the machine that a text passes is no error of the document.
-/

namespace ManifestEdit

namespace DocumentError

inductive Reason where
  | syntaxFault (fault : Json.Fault)
  | notAnObject
  /-- What is wrong with a value that stands at this path. -/
  | invalid (data : Json) (root : String) (failures : List Failure)

def Reason.message [Glyphs] : Reason → String
  | syntaxFault fault => "invalid JSON: " ++ fault.message
  | notAnObject => "top-level value must be a JSON object"
  | invalid data root failures => String.intercalate "; " (Failure.report data root failures)

end DocumentError

structure DocumentError where
  reason : DocumentError.Reason
  source : Option Text

namespace DocumentError

/-- The error as an error of that source. -/
def ofSource (e : DocumentError) (source : Text) : DocumentError :=
  { e with source := some source }

/-- A cause with its source; an empty source is no source. -/
def attributed (source : Option Text) (cause : Text) : Text :=
  match source with
  | none => cause
  | some source => if source.isEmpty then cause else "error parsing " ++ source ++ ": " ++ cause

def message [Glyphs] (e : DocumentError) : Text :=
  attributed e.source e.reason.message

end DocumentError

/-- Why a text is no document. -/
inductive LoadError where
  | document (error : DocumentError)
  | limit (fault : Machine.Fault)

/-- The object of a JSON text. -/
def parseObject [Machine] (text : Text) (source : Option Text) : Except LoadError Json :=
  match Json.parse text with
  | .error (.fault fault) => .error (.document ⟨.syntaxFault fault, source⟩)
  | .error (.limit fault) => .error (.limit fault)
  | .ok (.obj fields) => .ok (.obj fields)
  | .ok _ => .error (.document ⟨.notAnObject, source⟩)

/-- Reads a value by a schema; `root` is the path of the value. -/
def Schema.decode (s : Schema) (data : Json) (root : String) : Except DocumentError Record :=
  match s.read data with
  | .ok r => .ok r
  | .error failures => .error ⟨.invalid data root failures, none⟩

end ManifestEdit
