import ManifestEdit.Proofs.Document.Rendering
import ManifestEdit.Proofs.Manifest.Edits

/-!
# Manifests that directives reach

A manifest is reached when directives make it of one that was loaded. Whatever they are, its
configuration was read by the shape of configurations: either from the loaded text or from what an
earlier configuration writes, with overrides in it.
-/

namespace ManifestEdit

open Shape

/-- A configuration that was read from some value. -/
def Config.WasRead (c : Config) : Prop :=
  ∃ j, Schema.config.shape.read j = .ok c.toDocument

namespace Config

theorem wasRead_of_decode {j : Json} {root : String} {c : Config} (h : decode j root = .ok c) :
    c.WasRead := by
  obtain ⟨r, hr, rfl⟩ := Schema.map_decode_eq_ok_iff.1 h
  exact ⟨j, hr⟩

theorem wasRead_applyOverrides {config : Option Config} {overrides : Overrides} {c : Config}
    {changes : List Change} (h : applyOverrides config overrides = .ok (some c, changes)) :
    c.WasRead := by
  obtain ⟨base, hoverride, -⟩ := applyOverrides_eq_ok h
  obtain ⟨-, ⟨-, -, hnone⟩ | ⟨-, d, hsome, hdecode⟩⟩ := override_eq_ok hoverride
  · cases hnone
  · cases hsome
    exact wasRead_of_decode hdecode

end Config

namespace Manifest

/-- A manifest whose configuration was read. -/
def ConfigRead (m : Manifest) : Prop :=
  ∀ c, m.config = some c → c.WasRead

/-- A manifest that was loaded, and then edited by any number of directives. -/
inductive Reached [Machine] : Manifest → Prop where
  | load {text : Text} {source : Option Text} {m : Manifest}
      (h : Manifest.load text source = .ok m) : Reached m
  | apply {m : Manifest} {d : Directive} {a : Applied} (hm : Reached m)
      (h : m.apply d = .ok a) : Reached a.manifest

theorem configRead_of_load [Machine] {text : Text} {source : Option Text} {m : Manifest}
    (h : Manifest.load text source = .ok m) : m.ConfigRead := by
  obtain ⟨fields, hparse, hdecode⟩ := loadText_eq_ok_iff.1 h
  obtain ⟨r, hr, rfl⟩ := Schema.map_decode_eq_ok_iff.1 hdecode
  intro c hc
  have hkey : (configKey : Text) = (DeclaredField.optional "config").key := by decide
  obtain ⟨d, hd, hdocument⟩ := Option.bind_eq_some_iff.1 hc
  rw [hkey] at hd
  obtain ⟨e, he, hread⟩ :=
    Schema.exists_entry_of_field? Schema.isRegular_manifest hr Schema.mem_config hd
  have hdistinct := (Json.isDistinct_obj.1 (Json.isDistinct_of_parse hparse)).2 e he
  obtain ⟨c', hc', hsame⟩ := Config.viewedBy_config hdistinct hread
  rw [hdocument] at hc'
  cases hc'
  exact ⟨e.2, hsame ▸ hread⟩

end Manifest

namespace Applied

variable {a b : Applied}

theorem configRead_config {overrides : Option Overrides} (h : a.config overrides = .ok b)
    (ha : a.manifest.ConfigRead) : b.manifest.ConfigRead := by
  obtain rfl | ⟨o, config, changes, -, -, hok, rfl⟩ := config_eq_ok h
  · exact ha
  · intro c hc
    have hsome : config = some c := hc
    subst hsome
    exact Config.wasRead_applyOverrides hok

theorem configRead_pass {p : Pass} (ha : a.manifest.ConfigRead) (h : a.pass p = .ok b) :
    b.manifest.ConfigRead := by
  refine configRead_config h ?_
  unfold Manifest.ConfigRead
  rw [config_foldl_links]
  exact ha

end Applied

/-- The configuration of every manifest that is reached was read. -/
theorem Manifest.Reached.configRead [Machine] {m : Manifest} (h : m.Reached) : m.ConfigRead := by
  induction h with
  | load h => exact configRead_of_load h
  | apply _ h ih =>
    exact Applied.passes_induct (P := fun a => a.manifest.ConfigRead)
      (fun _ _ _ _ => Applied.configRead_pass) ih h

end ManifestEdit
