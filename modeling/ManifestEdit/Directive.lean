import ManifestEdit.Directive.Policy
import ManifestEdit.Directive.Schema
import ManifestEdit.Manifest

/-!
# Directives

A directive edits a manifest in up to four passes: it removes, adds, replaces and then modifies
dependencies by package patterns. The last pass may also override configuration keys.
-/

namespace ManifestEdit

/-- Configuration values by key. -/
abbrev Overrides := OrderedMap Json

structure Section where
  require : Option (Rules Text)
  requireDev : Option (Rules Text)
  order : List Text

structure ModifySection extends Section where
  config : Option Overrides

structure Directive where
  modify : Option ModifySection
  add : Option Section
  remove : Option Section
  replace : Option Section
  order : List Text

/-- A section on its turn. -/
structure Pass where
  name : String
  policy : MergePolicy
  rules : Section
  overrides : Option Overrides

namespace Section

def rulesOf? (r : Record) (target : Target) : Option (Rules Text) :=
  (r.field? target.key).bind fun d => d.mapOf? Document.text?

def ofRecord (r : Record) : Section :=
  ⟨rulesOf? r .require, rulesOf? r .requireDev, r.order⟩

def ofDocument? : Document → Option Section
  | .record fields unknown order => some (ofRecord ⟨fields, unknown, order⟩)
  | _ => none

/-- The rules present, in the order in which they are applied. -/
def targets (s : Section) : List (Target × Rules Text) :=
  (s.require.map (Target.require, ·)).toList ++ (s.requireDev.map (Target.requireDev, ·)).toList

/-- The rules as fields of a record. -/
def fields (s : Section) : List (Text × Document) :=
  s.targets.map fun (target, rules) => (target.key, Links.toDocument rules)

def toRecord (s : Section) : Record :=
  ⟨s.fields, [], s.order⟩

end Section

namespace ModifySection

def leaf? : Document → Option Json
  | .leaf j => some j
  | _ => none

def ofRecord (r : Record) : ModifySection :=
  { Section.ofRecord r with
    config := (r.field? "config").bind fun d => d.mapOf? leaf? }

def ofDocument? : Document → Option ModifySection
  | .record fields unknown order => some (ofRecord ⟨fields, unknown, order⟩)
  | _ => none

def overridesDocument (o : Overrides) : Document :=
  .map (o.entries.map fun (k, v) => (k, .leaf v))

def toRecord (s : ModifySection) : Record :=
  ⟨s.fields ++ (s.config.map fun o => (("config" : Text), overridesDocument o)).toList, [],
    s.order⟩

end ModifySection

namespace Directive

def fileName : String := "modify-composer.json"

def ofRecord (r : Record) : Directive where
  modify := (r.field? "modify").bind ModifySection.ofDocument?
  add := (r.field? "add").bind Section.ofDocument?
  remove := (r.field? "remove").bind Section.ofDocument?
  replace := (r.field? "replace").bind Section.ofDocument?
  order := r.order

/-- A section as a field, where it is present. -/
def part (key : Text) (record : Option Record) : List (Text × Document) :=
  (record.map fun r => (key, r.toDocument)).toList

def toRecord (d : Directive) : Record where
  fields :=
    part "modify" (d.modify.map ModifySection.toRecord) ++
      part "add" (d.add.map Section.toRecord) ++
      part "remove" (d.remove.map Section.toRecord) ++
      part "replace" (d.replace.map Section.toRecord)
  unknown := []
  order := d.order

def decode (data : Json) (root : String) : Except DocumentError Directive :=
  (Schema.directive.decode data root).map ofRecord

/-- The sections present, in the order in which they are applied. -/
def passes (d : Directive) : List Pass :=
  (d.remove.map fun s => ⟨"remove", .delete, s, none⟩).toList ++
    (d.add.map fun s => ⟨"add", .insertIfAbsent, s, none⟩).toList ++
    (d.replace.map fun s => ⟨"replace", .overwrite, s, none⟩).toList ++
    (d.modify.map fun s => ⟨"modify", .overwriteIfPresent, s.toSection, s.config⟩).toList

end Directive

end ManifestEdit
