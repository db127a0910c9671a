import ManifestEdit.Manifest.Variants

/-!
# Scripts

A script runs on an event of the installer, or is a command of its own when no event has its name.
-/

namespace ManifestEdit

inductive EventKind where
  | command
  | installer
  | package
  | plugin
  deriving DecidableEq

namespace EventKind

def name : EventKind → String
  | command => "command"
  | installer => "installer"
  | package => "package"
  | plugin => "plugin"

def events : EventKind → List String
  | command =>
    ["pre-install-cmd", "post-install-cmd", "pre-update-cmd", "post-update-cmd", "pre-status-cmd",
      "post-status-cmd", "pre-archive-cmd", "post-archive-cmd", "pre-autoload-dump",
      "post-autoload-dump", "post-root-package-install", "post-create-project-cmd"]
  | installer => ["pre-operations-exec"]
  | package =>
    ["pre-package-install", "post-package-install", "pre-package-update", "post-package-update",
      "pre-package-uninstall", "post-package-uninstall"]
  | plugin =>
    ["init", "command", "pre-file-download", "post-file-download", "pre-command-run",
      "pre-pool-create"]

/-- The kind of an event's name. -/
def ofEvent? (event : Text) : Option EventKind :=
  [command, installer, package, plugin].find? fun k => k.events.any fun e => event = e

end EventKind

structure Scripts where
  entries : OrderedMap OneOrMany

namespace Scripts

def ofDocument? (d : Document) : Option Scripts :=
  (d.mapOf? OneOrMany.ofDocument?).map Scripts.mk

/-- The scripts that run on events, with the kind of each. -/
def hooks (s : Scripts) : List (Text × EventKind × OneOrMany) :=
  s.entries.entries.filterMap fun (name, commands) =>
    (EventKind.ofEvent? name).map fun kind => (name, kind, commands)

def commands (s : Scripts) : List (Text × OneOrMany) :=
  s.entries.entries.filter fun e => (EventKind.ofEvent? e.1).isNone

end Scripts

end ManifestEdit
