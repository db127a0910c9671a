import ManifestEdit.CommandLine.Paths
import ManifestEdit.Glyphs.Unicode

/-!
# The program

Fetches what stands at the paths that the command line names, runs the command on it, and carries
out what the run wrote and printed.
-/

namespace ManifestEdit

namespace Program

/-- The console takes whole texts only. -/
local instance : Glyphs := Unicode.glyphs fun _ => false

def environmentName : String := "COMPOSER_MODIFIER_CONFIG"

def isFolder (path : String) : IO Bool := do
  try
    let p ← IO.FS.realPath path
    p.isDir
  catch _ => pure false

/-- What stands at a path. Only of a file that cannot be read the access is known beforehand. -/
def fetchNode (path : String) : IO (Option Node) := do
  if ← isFolder path then pure (some (.folder .full))
  else
    try
      let bytes ← IO.FS.readBinFile path
      pure (some (.file bytes.toList .full))
    catch
      | .permissionDenied _ _ _ => pure (some (.file [] { Access.full with read := false }))
      | _ => pure none

def locationText (l : Location) : String :=
  (FilePath.text ⟨if l.absolute then 1 else 0, l.parts⟩).readable

/-- Adds a path and the folders above it to the store, part by part. -/
def fetchParts (store : Store) (l : Location) : List Text → IO Store
  | [] => pure store
  | part :: rest => do
    let next := l.child part
    match ← fetchNode (locationText next) with
    | none => pure store
    | some n => fetchParts (store.put next n) next rest

def fetch (store : Store) (path : Text) : IO Store :=
  let p := FilePath.ofText path
  fetchParts store ⟨p.isAbsolute, []⟩ p.parts

def carryOut (e : Location × Node) : IO Unit :=
  match e.2 with
  | .folder _ => IO.FS.createDirAll (locationText e.1)
  | .file bytes _ => IO.FS.writeBinFile (locationText e.1) ⟨bytes.toArray⟩

def pad (width : Nat) (text : String) : String :=
  text ++ String.ofList (List.replicate (width - text.length) ' ')

/-- A table in columns as wide as their widest cell. -/
def tableText (title : String) (rows : List (List String)) : String :=
  let widths := rows.foldl (fun ws row =>
    (row.zipIdx.map fun (cell, i) => max cell.length (ws.getD i 0))) ([] : List Nat)
  let line (row : List String) : String :=
    String.intercalate "  " (row.zipIdx.map fun (cell, i) => pad (widths.getD i 0) cell)
  title ++ "\n" ++ String.intercalate "\n" (rows.map line) ++ "\n"

def printEvent : Event → IO Unit
  | .out text => IO.print text.readable
  | .err text => IO.eprint text.readable
  | .table title header rows =>
    IO.print (tableText title (header :: rows.map (List.map Text.readable)))

def printLog (l : LogLine) : IO Unit :=
  IO.eprintln (l.logger ++ " - " ++ l.level.name ++ " - " ++ l.message.readable)

def run (arguments : List String) : IO UInt32 := do
  let arguments := arguments.map Text.ofString
  let environment := (← IO.getEnv environmentName).map Text.ofString
  let store ← (CommandLine.settingsPaths arguments environment).foldlM fetch Store.empty
  let paths :=
    match CommandLine.settingsFor store arguments environment with
    | some (s, settings) => CommandLine.documentPaths settings s
    | none => []
  let store ← paths.foldlM fetch store
  let outcome := CommandLine.run store arguments environment
  (CommandLine.written store outcome.world.store).forM carryOut
  outcome.world.console.forM printEvent
  outcome.world.log.forM printLog
  match outcome.escaped with
  | some f => IO.eprintln f.message.readable
  | none => pure ()
  pure (UInt32.ofNat outcome.exit)

end Program

end ManifestEdit

def main (arguments : List String) : IO UInt32 :=
  ManifestEdit.Program.run arguments
