import ManifestEdit.Directive
import ManifestEdit.Files.Store

/-!
# Settings

Settings come from a JSON object, of which every key may be absent and none may be null.
-/

namespace ManifestEdit

structure Settings where
  indent : Nat
  manifestFile : Text
  directiveFile : Text
  dryRun : Bool
  deriving DecidableEq

namespace SettingsError

inductive Obstacle where
  | file (error : FileError)
  | syntaxFault (fault : Json.Fault)
  deriving DecidableEq

def Obstacle.message [Glyphs] : Obstacle → String
  | file error => error.message
  | syntaxFault fault => fault.message

end SettingsError

inductive SettingsError where
  | notAnObject
  /-- What is wrong with a value. -/
  | invalid (data : Json) (failures : List Failure)
  | notFound (path : FilePath)
  | unreadable (path : FilePath) (obstacle : SettingsError.Obstacle)

def SettingsError.message [Glyphs] : SettingsError → Text
  | notAnObject => "settings must be a JSON object"
  | invalid data failures => String.intercalate "; " (Failure.report data "" failures)
  | notFound path => "settings file not found: " ++ path.text
  | unreadable path obstacle =>
    "cannot read settings file " ++ path.text ++ ": " ++ obstacle.message

namespace Settings

open DeclaredField

def schema : Schema :=
  ⟨"ModifierSettings", true,
    [(defaulted "indent", .count), (defaulted "manifest_file", .text),
      (defaulted "directive_file", .text), (defaulted "dry_run", .flag)]⟩

def initial : Settings :=
  ⟨4, Manifest.fileName, Directive.fileName, false⟩

def count? : Document → Option Nat
  | .leaf (.num (.int i)) => some i.toNat
  | _ => none

def ofRecord (r : Record) : Settings where
  indent := ((r.field? "indent").bind count?).getD initial.indent
  manifestFile := ((r.field? "manifest_file").bind Document.text?).getD initial.manifestFile
  directiveFile := ((r.field? "directive_file").bind Document.text?).getD initial.directiveFile
  dryRun := ((r.field? "dry_run").bind Document.flag?).getD initial.dryRun

def decode (data : Json) : Except SettingsError Settings :=
  match data with
  | .obj _ =>
    match schema.read data with
    | .ok r => .ok (ofRecord r)
    | .error failures => .error (.invalid data failures)
  | _ => .error .notAnObject

def toJson (s : Settings) : Json :=
  .obj [("indent", .ofNat s.indent), ("manifest_file", .str s.manifestFile),
    ("directive_file", .str s.directiveFile), ("dry_run", .bool s.dryRun)]

end Settings

end ManifestEdit
