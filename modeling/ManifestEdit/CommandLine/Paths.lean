import ManifestEdit.CommandLine

/-!
# The paths that a command line names

What stands at these paths, and in the folders above them, is all that a run looks at.
-/

namespace ManifestEdit

namespace CommandLine

def settingsPaths (arguments : List Text) (environment : Option Text) : List Text :=
  let config := (sortArguments mainSwitches false arguments).bind fun s => s.value? "config"
  config.toList ++ environment.toList

def documentPaths (settings : Settings) (s : Start) : List Text :=
  match s.group with
  | .parse =>
    match parseCommand s.rest with
    | .ok c => c.file.toList ++ [settings.manifestFile, settings.directiveFile]
    | .error _ => []
  | .modify =>
    match sortArguments modifySwitches true s.rest with
    | some a =>
      a.others ++ (a.value? "output").toList ++ [settings.manifestFile, settings.directiveFile]
    | none => []

/-- The settings that a run will use, where they can be loaded. -/
def settingsFor [Machine] [Glyphs] (store : Store) (arguments : List Text)
    (environment : Option Text) : Option (Start × Settings) :=
  match start store arguments with
  | .error _ => none
  | .ok s =>
    match (Run.loadSettings s.config environment).run.run (.ofStore store .warning) with
    | (.ok settings, _) => some (s, settings)
    | (.error _, _) => none

/-- The nodes of the second store that the first does not hold. -/
def written (before after : Store) : List (Location × Node) :=
  after.nodes.filter fun e => decide (before.nodes.lookup e.1 ≠ some e.2)

end CommandLine

end ManifestEdit
