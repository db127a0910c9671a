import ManifestEdit.Apply.Config
import ManifestEdit.Apply.Links

/-!
# Applying a directive

The passes run one after the other, each on what the one before left; within a pass `require` comes
before `require-dev` and the configuration last.
-/

namespace ManifestEdit

/-- A manifest after edits, with the changes made. -/
structure Applied where
  manifest : Manifest
  changes : List Change

namespace Applied

def isChanged (a : Applied) : Bool :=
  a.changes.any fun c => c.kind.isEffective

/-- Applies the rules for one dependency map. -/
def links (pass : String) (policy : MergePolicy) (a : Applied) (rules : Target × Rules Text) :
    Applied :=
  let (result, changes) :=
    Links.applyRules ⟨pass, rules.1.key⟩ policy rules.2 (a.manifest.links rules.1)
  ⟨a.manifest.withLinks rules.1 result, a.changes ++ changes⟩

/-- Applies the overrides of a pass, where it has any. -/
def config (a : Applied) (overrides : Option Overrides) : Except ApplyError Applied :=
  match overrides with
  | none => .ok a
  | some o =>
    if o.isEmpty then .ok a
    else
      match Config.applyOverrides a.manifest.config o with
      | .ok (c, changes) => .ok ⟨{ a.manifest with config := c }, a.changes ++ changes⟩
      | .error e => .error e

def pass (a : Applied) (p : Pass) : Except ApplyError Applied :=
  (p.rules.targets.foldl (links p.name p.policy) a).config p.overrides

def passes (a : Applied) : List Pass → Except ApplyError Applied
  | [] => .ok a
  | p :: rest =>
    match a.pass p with
    | .ok b => passes b rest
    | .error e => .error e

end Applied

namespace Manifest

def apply (m : Manifest) (d : Directive) : Except ApplyError Applied :=
  Applied.passes ⟨m, []⟩ d.passes

/-- Drops every required package that a pattern matches. -/
def removeRequire (m : Manifest) (rules : Rules Text) : Applied :=
  Applied.links "remove" .delete ⟨m, []⟩ (.require, rules)

end Manifest

end ManifestEdit
