import ManifestEdit.CommandLine.Arguments
import ManifestEdit.Run

/-!
# The command line

The first arguments choose the settings and how much is logged; then comes the command, which reads
its arguments after the settings have been loaded. A run ends with code 0, with 1 where an error
was reported or a fault got out, and with 2 where the arguments are wrong.
-/

namespace ManifestEdit

namespace CommandLine

/-! ## Arguments of the commands -/

def helpSwitch : Switch := ⟨"help", none, false⟩

def mainSwitches : List Switch :=
  [⟨"config", some 'c', true⟩, ⟨"debug", some 'd', false⟩, ⟨"version", none, false⟩, helpSwitch]

/-- Before the name of a command of a group. -/
def groupSwitches : List Switch :=
  [helpSwitch]

def printSwitch : Switch := ⟨"print", some 'p', false⟩

def parseSwitches : List Switch :=
  [printSwitch, helpSwitch]

def modifySwitches : List Switch :=
  [⟨"dry-run", some 'n', false⟩, printSwitch, ⟨"output", some 'o', true⟩, helpSwitch]

/-- The exit code of wrong arguments. -/
def usageExit : Nat := 2

/-- How arguments end a run before it starts. -/
inductive Stop where
  | exit (code : Nat)
  /-- The value of an option can be no path. -/
  | escaped (fault : NameFault)
  deriving DecidableEq

abbrev Checked := Except Stop

def wrongUsage {α : Type} : Checked α :=
  .error (.exit usageExit)

/-- Sorted arguments, or what ends the run. Help and the version are shown before any value is
looked at. -/
def sortOrStop (switches : List Switch) (anywhere : Bool) (arguments : List Text) :
    Checked Sorted :=
  match sortArguments switches anywhere arguments with
  | none => wrongUsage
  | some s => if s.has "help" || s.has "version" then .error (.exit 0) else .ok s

/-- What a text as it stands, longer perhaps than its path, is the name of. -/
def nodeNamed (store : Store) (value : Text) : Option Node :=
  if value.isEmpty || Store.longestPath < FilePath.nameSize value then none
  else (store.find (.ofText value)).toOption

/-- A value that can be a path, but not that of a folder or of a file that may not be read. -/
def checkFile (store : Store) (value : Option Text) : Checked Unit :=
  match value with
  | none => .ok ()
  | some v =>
    match FilePath.nameFault? v, nodeNamed store v with
    | some f, _ => .error (.escaped f)
    | none, some (.folder _) => wrongUsage
    | none, some (.file _ access) => if access.read then .ok () else wrongUsage
    | none, none => .ok ()

inductive Group where
  | parse
  | modify
  deriving DecidableEq

def Group.ofName? (name : Text) : Option Group :=
  if name = "parse" then some .parse else if name = "modify" then some .modify else none

structure Start where
  config : Option Text
  threshold : LogLevel
  group : Group
  rest : List Text

def threshold (debug : Nat) : LogLevel :=
  match debug with
  | 0 => .warning
  | 1 => .info
  | _ => .debug

/-- A command's name with its arguments. Where no command has the name, options that end the run may
still stand there, which `read` looks for. -/
def commandOf {α : Type} (read : List Text → Checked Sorted) (ofName? : Text → Option α) :
    List Text → Checked (α × List Text)
  | [] => wrongUsage
  | name :: rest =>
    match ofName? name, read (name :: rest) with
    | some command, _ => .ok (command, rest)
    | none, .error stop => .error stop
    | none, .ok _ => wrongUsage

def readMain (store : Store) (arguments : List Text) : Checked Sorted := do
  let s ← sortOrStop mainSwitches false arguments
  checkFile store (s.value? "config")
  pure s

def readGroup (arguments : List Text) : Checked Sorted :=
  sortOrStop groupSwitches false arguments

def start (store : Store) (arguments : List Text) : Checked Start := do
  let s ← readMain store arguments
  let (group, rest) ← commandOf (readMain store) Group.ofName? s.others
  pure ⟨s.value? "config", threshold (s.count "debug"), group, rest⟩

structure ParseCommand where
  kind : DocumentKind
  file : Option Text
  print : Bool

def parseKind? (name : Text) : Option DocumentKind :=
  if name = "composer-json" then some .manifest
  else if name = "modify" then some .directive
  else none

def parseCommand (arguments : List Text) : Checked ParseCommand := do
  let group ← readGroup arguments
  let (kind, rest) ← commandOf readGroup parseKind? group.others
  let s ← sortOrStop parseSwitches true rest
  match s.others with
  | [] => pure ⟨kind, none, s.has "print"⟩
  | [file] => pure ⟨kind, some file, s.has "print"⟩
  | _ => wrongUsage

structure ModifyCommand where
  manifest : Option Text
  directive : Option Text
  output : Option Text
  dry : Bool
  print : Bool

def modifyCommand (store : Store) (arguments : List Text) : Checked ModifyCommand := do
  let s ← sortOrStop modifySwitches true arguments
  checkFile store (s.value? "output")
  let command (manifest directive : Option Text) : ModifyCommand :=
    ⟨manifest, directive, s.value? "output", s.has "dry-run", s.has "print"⟩
  match s.others with
  | [] => pure (command none none)
  | [manifest] => pure (command (some manifest) none)
  | [manifest, directive] => pure (command (some manifest) (some directive))
  | _ => wrongUsage

/-! ## Running a command -/

/-- How a run ended. -/
structure Outcome where
  exit : Nat
  world : World
  /-- The fault that got out. -/
  escaped : Option Fault

/-- The outcome of a run that arguments end. -/
def Stop.outcome (stop : Stop) (w : World) : Outcome :=
  match stop with
  | .exit code => ⟨code, w, none⟩
  | .escaped fault => ⟨1, w, some (.name fault)⟩

/-- What is printed for an error; of a document error the source is known already. -/
def report [Machine] [Glyphs] (f : Fault) (source : Option Text) : Text :=
  match f, source with
  | .document e, _ => e.message
  | f, none => f.message
  | f, some s => "error parsing " ++ s ++ ": " ++ f.message

def failed [Machine] [Glyphs] (f : Fault) (source : Option Text) (w : World) : Outcome :=
  if f.isReported then
    ⟨1, { w with console := w.console ++ [.err (Console.shown (report f source) ++ "\n")] }, none⟩
  else ⟨1, w, some f⟩

def finished [Machine] [Glyphs] {α : Type} (source : Option Text)
    (result : Except Fault α × World) : Outcome :=
  match result with
  | (.ok _, w) => ⟨0, w, none⟩
  | (.error f, w) => failed f source w

/-- Reads a document and prints it where that is wanted. -/
def parseDocument [Machine] [Glyphs] (settings : Settings) (kind : DocumentKind) (path : Text)
    (print : Bool) : Action Unit := do
  let document ←
    match kind with
    | .manifest => do
      let m ← Run.load kind Manifest.decode path
      pure m.toRecord
    | .directive => do
      let d ← Run.load kind Directive.decode path
      pure d.toRecord
  if print then Exporter.printDocument path (document.render settings.indent)

def runParse [Machine] [Glyphs] (settings : Settings) (c : ParseCommand) (w : World) : Outcome :=
  let usual :=
    match c.kind with
    | .manifest => settings.manifestFile
    | .directive => settings.directiveFile
  let path := Run.orElse c.file usual
  finished (some path) ((parseDocument settings c.kind path c.print).run.run w)

/-- The result replaces the manifest unless another path is given. -/
def exportersFor (settings : Settings) (c : ModifyCommand) (manifest : Text) : List Exporter :=
  let output := Run.orElse c.output manifest
  ⟨.file (.ofText output), settings.indent⟩ ::
    (if c.print then [⟨.console (some manifest), settings.indent⟩] else [])

def runModify [Machine] [Glyphs] (settings : Settings) (c : ModifyCommand) (w : World) : Outcome :=
  let manifest := Run.orElse c.manifest settings.manifestFile
  let directive := Run.orElse c.directive settings.directiveFile
  let request : Run.Request := ⟨some manifest, some directive, some (c.dry || settings.dryRun)⟩
  finished none ((Run.run settings (exportersFor settings c manifest) request).run.run w)

def runGroup [Machine] [Glyphs] (settings : Settings) (s : Start) (w : World) : Outcome :=
  match s.group with
  | .parse =>
    match parseCommand s.rest with
    | .error stop => stop.outcome w
    | .ok c => runParse settings c w
  | .modify =>
    match modifyCommand w.store s.rest with
    | .error stop => stop.outcome w
    | .ok c => runModify settings c w

/-- Runs the program on stored files. -/
def run [Machine] [Glyphs] (store : Store) (arguments : List Text) (environment : Option Text) :
    Outcome :=
  match start store arguments with
  | .error stop => stop.outcome (.ofStore store .warning)
  | .ok s =>
    match (Run.loadSettings s.config environment).run.run (.ofStore store s.threshold) with
    | (.error f, w) => failed f none w
    | (.ok settings, w) => runGroup settings s w

end CommandLine

end ManifestEdit
