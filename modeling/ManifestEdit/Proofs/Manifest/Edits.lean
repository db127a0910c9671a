import ManifestEdit.Proofs.Apply.Passes
import ManifestEdit.Proofs.Manifest.Reread

/-!
# Edits of alike manifests

An edit changes one field. Alike manifests stay alike when the field writes the same value in both,
and a manifest stays storable when the field writes a settled value within the bounds.
-/

namespace ManifestEdit

open Shape

theorem Schema.isRegular_config : config.shape.isRegular = true := by
  have hregular := isRegular_of_mem isRegular_manifest mem_config
  exact hregular

theorem Schema.shape_of_target {f : DeclaredField × Shape} (hf : f ∈ manifest.fields)
    {target : Target} (hkey : f.1.key = target.key) : f.2 = textMap := by
  obtain ⟨g, hg, hgkey, hshape⟩ := exists_target target
  rw [eq_of_key isRegular_manifest hf hg (hkey.trans hgkey.symm), hshape]

theorem Schema.shape_of_configKey {f : DeclaredField × Shape} (hf : f ∈ manifest.fields)
    (hkey : f.1.key = Manifest.configKey) : f.2 = config.shape := by
  have hconfig : (DeclaredField.optional "config").key = (Manifest.configKey : Text) := by decide
  rw [eq_of_key isRegular_manifest hf mem_config (hkey.trans hconfig.symm)]

namespace Config

/-- The entries of a configuration that can be written are those that it writes. -/
theorem entries_eq_ok_iff {c : Config} {base : List (Text × Json)} :
    c.entries = .ok base ↔ c.toDocument.fault? = none ∧ c.toDocument.toJson = .obj base := by
  obtain ⟨written, hwritten⟩ : ∃ written, c.toDocument.toJson = .obj written := ⟨_, rfl⟩
  have hencode : c.encode = c.toDocument.encode := rfl
  rw [entries, hencode, Document.encode, hwritten]
  cases c.toDocument.fault? <;> simp

theorem entries_eq_ok {c : Config} (hfault : c.toDocument.fault? = none)
    {base : List (Text × Json)} (hjson : c.toDocument.toJson = .obj base) :
    c.entries = .ok base :=
  entries_eq_ok_iff.2 ⟨hfault, hjson⟩

/-- A configuration that can be written, and within a manifest. -/
structure Storable [Machine] (c : Config) : Prop where
  writes : Schema.config.shape.Writes c.toDocument
  bounded : c.toDocument.Bounded Number.fits

end Config

namespace Manifest

variable {m n : Manifest}

/-! ## One field changes -/

/-- A manifest that differs from another in the value of one field that edits change. -/
structure Edited (key : Text) (m n : Manifest) : Prop where
  editable : key ∈ editableKeys
  field : ∀ k, k ≠ key → n.field? k = m.field? k
  unknown : n.unknown = m.unknown

theorem Edited.json? {key : Text} (h : Edited key m n) {k : Text} (hk : k ≠ key) :
    n.json? k = m.json? k := by
  rw [Manifest.json?, Manifest.json?, h.field k hk]

theorem Durable.edited {key : Text} (h : m.Durable) (hedit : Edited key m n)
    (hlinks : ∀ target l, n.links target = some l → ∀ k ∈ l.keys, k.isWhole = true)
    (hwrites : ∀ f ∈ Schema.manifest.fields, f.1.key = key → ∀ d, n.field? key = some d →
      f.2.Writes d) : n.Durable where
  links := hlinks
  field := by
    intro f hf d hd
    by_cases hkey : f.1.key = key
    · exact hwrites f hf hkey d (hkey ▸ hd)
    · rw [hedit.field _ hkey] at hd
      exact h.field f hf d hd
  required := by
    intro f hf hrequired
    have hne : f.1.key ≠ key := by
      rintro rfl
      exact Schema.not_editable_of_required f hf hrequired hedit.editable
    rw [hedit.json? hne]
    exact h.required f hf hrequired
  nodup := by
    rw [unknownKeys, hedit.unknown]
    exact h.nodup
  unknown := by
    rw [hedit.unknown]
    exact h.unknown

theorem Bounded.edited {p : Number → Bool} {key : Text} (h : m.Bounded p)
    (hedit : Edited key m n) (hfield : ∀ d, n.field? key = some d → d.Bounded p) :
    n.Bounded p where
  field := by
    intro f hf d hd
    by_cases hkey : f.1.key = key
    · exact hfield d (hkey ▸ hd)
    · rw [hedit.field _ hkey] at hd
      exact h.field f hf d hd
  unknown := by
    rw [hedit.unknown]
    exact h.unknown

theorem Alike.edited [Machine] {key : Text} {m' n' : Manifest} (h : Alike m n)
    (hm : Edited key m m') (hn : Edited key n n') (hm' : m'.Storable) (hn' : n'.Storable)
    (hlinks : ∀ target, m'.links target = n'.links target) (hjson : m'.json? key = n'.json? key) :
    Alike m' n' where
  left := hm'
  right := hn'
  links := hlinks
  json := by
    intro f hf
    by_cases hkey : f.1.key = key
    · rw [hkey]
      exact hjson
    · rw [hm.json? hkey, hn.json? hkey]
      exact h.json f hf
  unknown := by
    rw [hm.unknown, hn.unknown]
    exact h.unknown

/-! ## Dependency maps -/

theorem edited_withLinks (m : Manifest) (target : Target) (links : Option Links) :
    Edited target.key m (m.withLinks target links) := by
  refine ⟨?_, ?_, ?_⟩
  · cases target <;> decide
  · intro k hk
    cases target with
    | require =>
      rw [field?, field?, if_neg hk, if_neg hk]
      rfl
    | requireDev =>
      rw [field?, field?, if_neg hk, if_neg hk]
      rfl
  · cases target <;> rfl

theorem Durable.withLinks (h : m.Durable) (target : Target) {links : Option Links}
    (hlinks : ∀ l, links = some l → ∀ k ∈ l.keys, k.isWhole = true) :
    (m.withLinks target links).Durable := by
  have hself : (m.withLinks target links).links target = links := by
    rw [links_withLinks, if_pos rfl]
  refine h.edited (edited_withLinks m target links) ?_ ?_
  · intro other l hl
    rw [links_withLinks] at hl
    split at hl
    · exact hlinks l hl
    · exact h.links other l hl
  · intro f hf hkey d hd
    rw [Schema.shape_of_target hf hkey]
    rw [field?_target, hself] at hd
    obtain ⟨l, hl, rfl⟩ := Option.map_eq_some_iff.1 hd
    exact (Links.settled (hlinks l hl)).toWrites

theorem Bounded.withLinks {p : Number → Bool} (h : m.Bounded p) (target : Target)
    (links : Option Links) : (m.withLinks target links).Bounded p := by
  refine h.edited (edited_withLinks m target links) fun d hd => ?_
  rw [field?_target, Option.map_eq_some_iff] at hd
  obtain ⟨l, -, rfl⟩ := hd
  exact l.bounded_toDocument

theorem Storable.withLinks [Machine] (h : m.Storable) (target : Target) {links : Option Links}
    (hlinks : ∀ l, links = some l → ∀ k ∈ l.keys, k.isWhole = true) :
    (m.withLinks target links).Storable :=
  ⟨h.durable.withLinks target hlinks, h.bounded.withLinks target links⟩

theorem Alike.withLinks [Machine] (h : Alike m n) (target : Target) {links : Option Links}
    (hlinks : ∀ l, links = some l → ∀ k ∈ l.keys, k.isWhole = true) :
    Alike (m.withLinks target links) (n.withLinks target links) := by
  refine h.edited (edited_withLinks m target links) (edited_withLinks n target links)
    (h.left.withLinks target hlinks) (h.right.withLinks target hlinks) ?_ ?_
  · intro other
    rw [links_withLinks, links_withLinks, h.links other]
  · rw [json?_target, json?_target, links_withLinks, links_withLinks, if_pos rfl, if_pos rfl]

/-! ## The configuration -/

theorem edited_config (m : Manifest) (config : Option Config) :
    Edited configKey m { m with config := config } := by
  refine ⟨by decide, fun k hk => ?_, rfl⟩
  rw [field?, field?, if_neg hk, if_neg hk]

theorem Durable.withConfig (h : m.Durable) {config : Option Config}
    (hwrites : ∀ c, config = some c → Schema.config.shape.Writes c.toDocument) :
    Durable { m with config := config } := by
  refine h.edited (edited_config m config) (fun target l hl => h.links target l ?_) ?_
  · cases target <;> exact hl
  · intro f hf hkey d hd
    rw [Schema.shape_of_configKey hf hkey]
    rw [field?_config] at hd
    obtain ⟨c, hc, rfl⟩ := Option.map_eq_some_iff.1 hd
    exact hwrites c hc

theorem Bounded.withConfig {p : Number → Bool} (h : m.Bounded p) {config : Option Config}
    (hbounded : ∀ c, config = some c → c.toDocument.Bounded p) :
    Bounded p { m with config := config } := by
  refine h.edited (edited_config m config) fun d hd => ?_
  rw [field?_config, Option.map_eq_some_iff] at hd
  obtain ⟨c, hc, rfl⟩ := hd
  exact hbounded c hc

theorem Storable.withConfig [Machine] (h : m.Storable) {config : Option Config}
    (hconfig : ∀ c, config = some c → c.Storable) : Storable { m with config := config } :=
  ⟨h.durable.withConfig fun c hc => (hconfig c hc).writes,
    h.bounded.withConfig fun c hc => (hconfig c hc).bounded⟩

theorem Alike.withConfig [Machine] (h : Alike m n) {config : Option Config}
    (hconfig : ∀ c, config = some c → c.Storable) :
    Alike { m with config := config } { n with config := config } := by
  refine h.edited (edited_config m config) (edited_config n config) (h.left.withConfig hconfig)
    (h.right.withConfig hconfig) (fun target => ?_) ?_
  · have hlinks := h.links target
    cases target <;> exact hlinks
  · rw [json?_config, json?_config]

end Manifest

end ManifestEdit
