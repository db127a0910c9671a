import ManifestEdit.Console
import ManifestEdit.Files.Store
import ManifestEdit.Settings

/-!
# What a run can see and change

A run works on a store of files, prints to the console and writes a log. `Action` runs on such a
world; what was done before a fault stays done. Only what the console can print is printed.
-/

namespace ManifestEdit

inductive LogLevel where
  | debug
  | info
  | warning
  deriving DecidableEq

namespace LogLevel

def name : LogLevel → String
  | debug => "DEBUG"
  | info => "INFO"
  | warning => "WARNING"

def rank : LogLevel → Nat
  | debug => 0
  | info => 1
  | warning => 2

end LogLevel

structure LogLine where
  level : LogLevel
  logger : String
  message : Text
  deriving DecidableEq

/-- One thing printed. -/
inductive Event where
  | out (text : Text)
  /-- Errors are printed apart. -/
  | err (text : Text)
  | table (title : String) (header : List String) (rows : List (List Text))
  deriving DecidableEq

/-- What the console does not print of an event. An error is printed whatever is in it. -/
def Event.refused? [Glyphs] : Event → Option Utf8.Unencodable
  | out text => Console.refused? text
  | err _ => none
  | table _ _ rows => rows.flatten.findSome? Console.refused?

structure World where
  store : Store
  console : List Event
  /-- Lines below this level are not written. -/
  threshold : LogLevel
  log : List LogLine
  /-- The places of the exporters that have delivered. -/
  delivered : List Nat

def World.ofStore (store : Store) (threshold : LogLevel) : World :=
  ⟨store, [], threshold, [], []⟩

/-- Why a run fails. -/
inductive Fault where
  | notFound (path : FilePath)
  | notAFile (path : FilePath)
  | document (error : DocumentError)
  | settings (error : SettingsError)
  | encoding (fault : Utf8.Fault)
  | unencodable (fault : Utf8.Unencodable)
  | encode (fault : EncodeFault)
  | indent (fault : Indent.Fault)
  | limit (fault : Machine.Fault)
  | name (fault : NameFault)
  | file (error : FileError)
  /-- The console does not print this. -/
  | console (fault : Utf8.Unencodable)

namespace Fault

/-- The fault of a text that is no document. -/
def ofLoadError : LoadError → Fault
  | .document error => .document error
  | .limit fault => .limit fault

/-- The fault of a document that cannot be rendered. -/
def ofRenderFault : RenderFault → Fault
  | .encode fault => .encode fault
  | .indent fault => .indent fault
  | .limit fault => .limit fault

def notFoundText (path : Text) : Text :=
  "File not found: " ++ path

def notAFileText (path : Text) : Text :=
  "Path is not a file: " ++ path

def consoleAdvice : String :=
  "\n*** You may need to add PYTHONIOENCODING=utf-8 to your environment ***"

def message [Machine] [Glyphs] : Fault → Text
  | notFound path => notFoundText path.text
  | notAFile path => notAFileText path.text
  | document error => error.message
  | settings error => error.message
  | encoding fault => fault.message
  | unencodable fault => fault.message
  | encode fault => fault.message
  | indent fault => fault.message
  | limit fault => fault.message
  | name fault => fault.message
  | file error => error.message
  | console fault => fault.message ++ consoleAdvice

/-- Whether the command line reports the fault as an error of the input. -/
def isReported : Fault → Bool
  | notFound _ => true
  | notAFile _ => true
  | document _ => true
  | settings _ => true
  | _ => false

end Fault

abbrev Action := ExceptT Fault (StateM World)

namespace Action

def fail {α : Type} (f : Fault) : Action α :=
  throw f

def put (e : Event) : Action Unit :=
  modify fun w => { w with console := w.console ++ [e] }

def print [Glyphs] (e : Event) : Action Unit :=
  match e.refused? with
  | some fault => fail (.console fault)
  | none => put e

/-- Prints a line as the console shows it. It is refused for what is in the text itself. -/
def printLine [Glyphs] (text : Text) : Action Unit :=
  match Console.refused? text with
  | some fault => fail (.console fault)
  | none => put (.out (Console.shown text ++ "\n"))

def log (level : LogLevel) (logger : String) (message : Text) : Action Unit :=
  modify fun w =>
    if w.threshold.rank ≤ level.rank then { w with log := w.log ++ [⟨level, logger, message⟩] }
    else w

def ofExcept {ε α : Type} (fault : ε → Fault) : Except ε α → Action α
  | .ok a => pure a
  | .error e => fail (fault e)

end Action

end ManifestEdit
