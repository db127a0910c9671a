import ManifestEdit.Apply
import ManifestEdit.Exporter

/-!
# Runs

A run reads a manifest and a directive, applies one to the other, reports the changes and hands the
result to the exporters. Nothing is exported before the directive has been applied. Exporters that
persist are skipped on a dry run and where nothing changed.
-/

namespace ManifestEdit

inductive DocumentKind where
  | manifest
  | directive
  deriving DecidableEq

namespace DocumentKind

/-- A kind goes by the usual name of its file. -/
def name : DocumentKind → String
  | manifest => Manifest.fileName
  | directive => Directive.fileName

end DocumentKind

/-- Reads a document from text; errors name the source. -/
def loadText [Machine] {α : Type} (decode : Json → String → Except DocumentError α) (text : Text)
    (source : Option Text) : Except LoadError α :=
  match parseObject text source with
  | .error e => .error e
  | .ok data =>
    match decode data "" with
    | .ok a => .ok a
    | .error e => .error (.document { e with source := source })

def Manifest.load [Machine] (text : Text) (source : Option Text) : Except LoadError Manifest :=
  loadText Manifest.decode text source

def Directive.load [Machine] (text : Text) (source : Option Text) : Except LoadError Directive :=
  loadText Directive.decode text source

/-- The fault of a directive that cannot be applied. -/
def Fault.ofApplyError : ApplyError → Fault
  | .document error => .document error
  | .encode fault => .encode fault

namespace Run

def logger : String := "ComposerModifier"

def loaderLogger : String := "composer_modifier.parsers.composer"

def applierLogger : String := "composer_modifier.core.applier"

def settingsLogger : String := "composer_modifier.core.settings"

/-! ## Reading -/

/-- What is said of a document that has been read. -/
def successText (kind : DocumentKind) (path : Text) : Text :=
  "successfully parsed " ++ kind.name ++ " file: " ++ path

/-- Reads and checks one document, and says so. -/
def load [Machine] [Glyphs] {α : Type} (kind : DocumentKind)
    (decode : Json → String → Except DocumentError α) (path : Text) : Action α := do
  let text ← Action.readText path
  let document ← Action.ofExcept Fault.ofLoadError (loadText decode text (some path))
  let source : Text := if path.isEmpty then "<text>" else path
  Action.log .debug loaderLogger ("[Loader] Parsed " ++ kind.name ++ " from " ++ source)
  Action.printLine (successText kind path)
  Action.log .info logger ("Loaded " ++ kind.name ++ " from " ++ path)
  pure document

/-- The fault of settings that are no JSON. -/
def unreadFault (p : FilePath) : Json.Unread → Fault
  | .fault fault => .settings (.unreadable p (.syntaxFault fault))
  | .limit fault => .limit fault

/-- The JSON value of a settings file. -/
def readSettings [Machine] (p : FilePath) : Action Json := do
  Action.checkName p.text
  match (← get).store.read p with
  | .error ⟨.notFound, _⟩ => Action.fail (.settings (.notFound p))
  | .error e => Action.fail (.settings (.unreadable p (.file e)))
  | .ok bytes =>
    let text ← Action.decodeText bytes
    Action.ofExcept (unreadFault p) (Json.parse text)

/-- The settings at a path, else at the path that the environment names, else the initial ones. -/
def loadSettings [Machine] [Glyphs] (path environment : Option Text) : Action Settings := do
  let named :=
    match path, environment with
    | some p, _ => some p
    | none, some e => if e.isEmpty then none else some e
    | none, none => none
  match named with
  | none => pure Settings.initial
  | some name =>
    let p := FilePath.ofText name
    let data ← readSettings p
    let settings ← Action.ofExcept Fault.settings (Settings.decode data)
    Action.log .debug settingsLogger
      ("Loaded settings from " ++ p.text ++ ": " ++ settings.toJson.display)
    pure settings

/-! ## Reporting -/

/-- Says what was changed, in the course of applying a directive. -/
def logChanges [Machine] [Glyphs] (changes : List Change) : Action Unit :=
  changes.forM fun c => do
    let text ← Action.ofExcept Fault.limit c.describe
    Action.log .info applierLogger ("[Applier] " ++ c.pass ++ ": " ++ text)

/-- The text of a value in the table; an absent one leaves the cell empty. -/
def cell [Glyphs] : Json → Text
  | .null => ""
  | j => Console.cell j.display

def row [Glyphs] (c : Change) : List Text :=
  [Console.cell c.pass, Console.cell c.target, Console.cell c.key, c.kind.name, cell c.old,
    cell c.new]

def header : List String :=
  ["Section", "Target", "Package / key", "Action", "Before", "After"]

def printChanges [Glyphs] (changes : List Change) (dry : Bool) : Action Unit :=
  match changes with
  | [] => Action.printLine "Directive has nothing to apply."
  | changes =>
    Action.print
      (.table (if dry then "Planned changes (dry run)" else "Applied changes") header
        (changes.map row))

/-! ## The run -/

structure Request where
  manifest : Option Text
  directive : Option Text
  dry : Option Bool

/-- An empty path is no path. -/
def orElse (path : Option Text) (fallback : Text) : Text :=
  match path with
  | some p => if p.isEmpty then fallback else p
  | none => fallback

def run [Machine] [Glyphs] (settings : Settings) (exporters : List Exporter) (request : Request) :
    Action Applied := do
  let manifestPath := orElse request.manifest settings.manifestFile
  let directivePath := orElse request.directive settings.directiveFile
  let dry := request.dry.getD settings.dryRun
  let manifest ← load .manifest Manifest.decode manifestPath
  let directive ← load .directive Directive.decode directivePath
  Action.log .info logger ("Applying " ++ directivePath ++ " to " ++ manifestPath)
  let applied ← Action.ofExcept Fault.ofApplyError (manifest.apply directive)
  logChanges applied.changes
  printChanges applied.changes dry
  let skips := dry || !applied.isChanged
  let placed := exporters.zipIdx
  let active := placed.filter fun e => !(skips && e.1.persists)
  if skips then
    Action.log .info logger
      ((if dry then "Dry run" else "Nothing changed") ++ ": skipping " ++
        toString (placed.length - active.length) ++ " persisting exporter(s).")
  active.forM fun (e, place) => e.deliver applied.manifest place
  active.forM fun (e, place) => e.finish place
  Action.log .info logger "Modification complete."
  pure applied

end Run

end ManifestEdit
