import ManifestEdit.Config
import ManifestEdit.Document.Rendering
import ManifestEdit.Manifest.Scripts

/-!
# Manifests

A manifest has two dependency maps and a configuration, which edits change, and other fields and
unknown keys, which they keep.
-/

namespace ManifestEdit

/-- Packages with the versions they are wanted in. -/
abbrev Links := OrderedMap Text

namespace Links

def toDocument (l : Links) : Document :=
  .map (l.entries.map fun (name, version) => (name, .leaf (.str version)))

def ofDocument? (d : Document) : Option Links :=
  d.mapOf? Document.text?

end Links

/-- The dependency maps that edits change. -/
inductive Target where
  | require
  | requireDev
  deriving DecidableEq

def Target.key : Target → String
  | require => "require"
  | requireDev => "require-dev"

structure Manifest where
  require : Option Links
  requireDev : Option Links
  config : Option Config
  others : List (Text × Document)
  unknown : List Unknown
  order : List Text

namespace Manifest

def fileName : String := "composer.json"

def configKey : String := "config"

/-- The keys of the fields that edits change. -/
def editableKeys : List Text :=
  [Target.require.key, Target.requireDev.key, configKey]

def ofRecord (r : Record) : Manifest where
  require := (r.field? Target.require.key).bind Links.ofDocument?
  requireDev := (r.field? Target.requireDev.key).bind Links.ofDocument?
  config := (r.field? configKey).bind Config.ofDocument?
  others := r.fields.filter fun f => !editableKeys.contains f.1
  unknown := r.unknown
  order := r.order

def field? (m : Manifest) (key : Text) : Option Document :=
  if key = Target.require.key then m.require.map Links.toDocument
  else if key = Target.requireDev.key then m.requireDev.map Links.toDocument
  else if key = configKey then m.config.map Config.toDocument
  else m.others.lookup key

/-- The manifest as a record, its fields as they are declared. -/
def toRecord (m : Manifest) : Record where
  fields := Schema.manifest.declared.filterMap fun f => (m.field? f.key).map (f.key, ·)
  unknown := m.unknown
  order := m.order

def decode (data : Json) (root : String) : Except DocumentError Manifest :=
  (Schema.manifest.decode data root).map ofRecord

/-- The text of a manifest, with an indentation for each level. -/
def render [Machine] (m : Manifest) (indent : Int) : Except RenderFault Text :=
  m.toRecord.render indent

def links (m : Manifest) : Target → Option Links
  | .require => m.require
  | .requireDev => m.requireDev

def withLinks (m : Manifest) (target : Target) (links : Option Links) : Manifest :=
  match target with
  | .require => { m with require := links }
  | .requireDev => { m with requireDev := links }

/-! ## What a manifest says -/

def name (m : Manifest) : Text :=
  ((m.field? "name").bind Document.text?).getD ""

def builtinTypes : List Text :=
  ["library", "project", "metapackage", "composer-plugin"]

/-- Whether the package has a type that is not built in. -/
def isCustomType (m : Manifest) : Bool :=
  match (m.field? "type").bind Document.text? with
  | some type => !builtinTypes.contains type
  | none => false

/-- The keys of all dependency maps. -/
def linkKeys : List Text :=
  ["require", "require-dev", "conflict", "replace", "provide", "suggest"]

/-- The dependency maps present. -/
def allLinks (m : Manifest) : List (Text × Links) :=
  linkKeys.filterMap fun key => ((m.field? key).bind Links.ofDocument?).map (key, ·)

def license? (m : Manifest) : Option OneOrMany :=
  (m.field? "license").bind OneOrMany.ofDocument?

def abandoned? (m : Manifest) : Option Abandoned :=
  (m.field? "abandoned").bind Abandoned.ofDocument?

def scripts? (m : Manifest) : Option Scripts :=
  (m.field? "scripts").bind Scripts.ofDocument?

def unknownKeys (m : Manifest) : List Text :=
  m.unknown.map Unknown.key

theorem links_withLinks_self (m : Manifest) (target : Target) :
    m.withLinks target (m.links target) = m := by
  cases target <;> rfl

end Manifest

end ManifestEdit
