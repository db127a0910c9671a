import ManifestEdit.Files.Text
import ManifestEdit.Manifest

/-!
# Exporters

An exporter delivers a manifest to a file or to the console. One that persists is skipped when
nothing is to be written.
-/

namespace ManifestEdit

namespace Exporter

inductive Outlet where
  | file (path : FilePath)
  /-- The title stands above the manifest; without one the manifest's name does. -/
  | console (title : Option Text)
  deriving DecidableEq

end Exporter

structure Exporter where
  outlet : Exporter.Outlet
  indent : Int
  deriving DecidableEq

namespace Exporter

inductive Error where
  | noPath
  | unknown (name : Text)
  deriving DecidableEq

def Error.message [Glyphs] : Error → String
  | noPath => "The 'file' exporter needs an output path."
  | unknown name => "Unknown exporter: " ++ quotedText name ++ ". Use 'file' or 'console'."

/-- The exporter of a name. -/
def ofName (name : Text) (output : Option Text) (indent : Int) : Except Error Exporter :=
  if name = "file" then
    match output with
    | none => .error .noPath
    | some path => .ok ⟨.file (.ofText path), indent⟩
  else if name = "console" then .ok ⟨.console output, indent⟩
  else .error (.unknown name)

def persists (e : Exporter) : Bool :=
  match e.outlet with
  | .file _ => true
  | .console _ => false

def fileLogger : String := "composer_modifier.exporters.file_export"

def consoleLogger : String := "composer_modifier.exporters.console"

/-- An empty title is no title. -/
def heading (title : Option Text) (m : Manifest) : Text :=
  match title with
  | none => m.name
  | some t => if t.isEmpty then m.name else t

/-- A text under its heading, which is printed also where the document has no text. -/
def printDocument [Glyphs] (heading : Text) (text : Except RenderFault Text) : Action Unit := do
  Action.printLine ("\n" ++ heading ++ ":")
  let text ← Action.ofExcept Fault.ofRenderFault text
  Action.print (.out text)

/-- Delivers the manifest; `place` tells the exporters of a run apart. -/
def deliver [Machine] [Glyphs] (m : Manifest) (place : Nat) (e : Exporter) : Action Unit := do
  match e.outlet with
  | .file path =>
    let text ← Action.ofExcept Fault.ofRenderFault (m.render e.indent)
    Action.writeText path text
    modify fun w => { w with delivered := w.delivered ++ [place] }
    Action.log .debug fileLogger ("[Export] Wrote " ++ m.name ++ " to " ++ path.text)
  | .console title =>
    printDocument (heading title m) (m.render e.indent)
    modify fun w => { w with delivered := w.delivered ++ [place] }

/-- How often the exporter at a place has delivered. -/
def deliveries (place : Nat) (w : World) : Nat :=
  w.delivered.count place

/-- Sums up after all deliveries. -/
def finish (place : Nat) (e : Exporter) : Action Unit := do
  let count := toString (deliveries place (← get))
  match e.outlet with
  | .file path =>
    Action.log .info fileLogger
      ("[Export] Export complete: " ++ count ++ " manifest(s) written to " ++ path.text)
  | .console _ =>
    Action.log .debug consoleLogger ("[Export] Printed " ++ count ++ " manifest(s)")

end Exporter

end ManifestEdit
