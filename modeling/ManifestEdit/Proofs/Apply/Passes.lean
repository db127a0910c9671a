import ManifestEdit.Apply
import ManifestEdit.Proofs.Links.Rules

/-!
# What the passes of a directive do to one dependency map

A pass changes each dependency map by the rules that it has for it, and by nothing else: an absent
rule map changes it as little as an empty one. What a step can do is said here once; what holds of a
run follows from it.
-/

namespace ManifestEdit

/-- The rules of a section for one dependency map. -/
def Section.rulesFor (s : Section) : Target → Option (Rules Text)
  | .require => s.require
  | .requireDev => s.requireDev

/-- The rules of a pass for one dependency map; there are none where the map is absent. -/
def Pass.rulesFor (p : Pass) (target : Target) : Rules Text :=
  (p.rules.rulesFor target).getD .empty

namespace Links

variable {policy : MergePolicy} {rules : Rules Text} (scope : Scope)

theorem resolve?_empty (package : Text) :
    Rules.resolve? (OrderedMap.empty : Rules Text) package = none :=
  rfl

theorem entries_editEntries_empty (entries : Links) :
    (editEntries policy (.empty : Rules Text) entries).entries = entries.entries := by
  cases policy with
  | delete =>
    have hkeep : ∀ e ∈ entries.entries,
        (!isSelected (OrderedMap.empty : Rules Text) e.1) = true := fun _ _ => rfl
    exact List.filter_eq_self.2 hkeep
  | insertIfAbsent => rfl
  | overwrite | overwriteIfPresent =>
    simp only [editEntries, OrderedMap.mapEntries, resolve?_empty, Option.getD_none]
    exact List.map_id' _

/-- No rules change nothing. -/
theorem applyRules_empty (links : Option Links) :
    (applyRules scope policy .empty links).1 = links := by
  refine applyRules_eq_of_entries scope ?_
  rw [entries_applyRules, entries_editEntries_empty]
  simp [added, OrderedMap.filterKeys, OrderedMap.empty]

end Links

/-! ## What a step can do -/

namespace Config

/-- The changes that overrides make to a configuration. -/
def overrideChanges (base : List (Text × Json)) (overrides : Overrides) : List Change :=
  overrides.entries.filterMap fun e => overrideChange? base e.1 e.2

/-- Overrides leave an absent configuration absent where they change nothing, and otherwise one that
is read from what they make. -/
theorem override_eq_ok {isAbsent : Bool} {base : List (Text × Json)} {overrides : Overrides}
    {result : Option Config} {changes : List Change}
    (h : override isAbsent base overrides = .ok (result, changes)) :
    changes = overrideChanges base overrides ∧
      (isAbsent = true ∧ changes = [] ∧ result = none ∨
        (isAbsent = true → changes ≠ []) ∧
          ∃ c, result = some c ∧ decode (.obj (merge base changes)) "config" = .ok c) := by
  unfold override at h
  dsimp only at h
  split at h
  · rename_i habsent
    rw [Bool.and_eq_true, List.isEmpty_iff] at habsent
    cases h
    exact ⟨habsent.2.symm, .inl ⟨habsent.1, rfl, rfl⟩⟩
  · rename_i hpresent
    split at h
    · rename_i c hdecode
      cases h
      refine ⟨rfl, .inr ⟨fun habsent hnil => hpresent ?_, c, rfl, hdecode⟩⟩
      rw [habsent, hnil]
      rfl
    · cases h

/-- Overrides are written over what a configuration writes; one that is absent writes nothing. -/
theorem applyOverrides_eq_ok {config : Option Config} {overrides : Overrides}
    {result : Option Config × List Change} (h : applyOverrides config overrides = .ok result) :
    ∃ base, override config.isNone base overrides = .ok result ∧
      (config = none ∧ base = [] ∨ ∃ c, config = some c ∧ c.entries = .ok base) := by
  unfold applyOverrides at h
  split at h
  · exact ⟨[], h, .inl ⟨rfl, rfl⟩⟩
  · rename_i c
    split at h
    · rename_i base hbase
      exact ⟨base, h, .inr ⟨c, rfl, hbase⟩⟩
    · cases h

/-- An override is reported where it differs from what stands under its key. -/
theorem of_mem_overrideChanges {base : List (Text × Json)} {overrides : Overrides} {c : Change}
    (h : c ∈ overrideChanges base overrides) :
    c.target = "config" ∧ c.kind = .configured ∧
      ((base.lookup c.key).getD .null).sameValue c.new = false := by
  obtain ⟨e, -, he⟩ := List.mem_filterMap.1 h
  unfold overrideChange? at he
  dsimp only at he
  split at he
  · cases he
  · rename_i hdiffers
    cases he
    exact ⟨rfl, rfl, Bool.eq_false_iff.2 hdiffers⟩

end Config

namespace Manifest

theorem links_withLinks (m : Manifest) (target other : Target) (links : Option Links) :
    (m.withLinks target links).links other = if other = target then links else m.links other := by
  cases target <;> cases other <;> rfl

end Manifest

namespace Applied

variable {a b : Applied}

theorem links_links (pass : String) (policy : MergePolicy) (target : Target) (rules : Rules Text) :
    (a.links pass policy (target, rules)).manifest.links target =
      (Links.applyRules ⟨pass, target.key⟩ policy rules (a.manifest.links target)).1 :=
  (Manifest.links_withLinks ..).trans (if_pos rfl)

theorem links_links_ne (pass : String) (policy : MergePolicy) {target other : Target}
    (h : other ≠ target) (rules : Rules Text) :
    (a.links pass policy (target, rules)).manifest.links other = a.manifest.links other :=
  (Manifest.links_withLinks ..).trans (if_neg h)

/-- Rules leave the configuration as it is. -/
theorem config_links (pass : String) (policy : MergePolicy) (rules : Target × Rules Text) :
    (a.links pass policy rules).manifest.config = a.manifest.config := by
  unfold links Manifest.withLinks
  dsimp only
  cases rules.1 <;> rfl

theorem config_foldl_links (pass : String) (policy : MergePolicy)
    (targets : List (Target × Rules Text)) :
    (targets.foldl (links pass policy) a).manifest.config = a.manifest.config := by
  induction targets generalizing a with
  | nil => rfl
  | cons r rest ih => rw [List.foldl_cons, ih, config_links]

/-- What the rules of a section leave of one dependency map. -/
theorem links_foldl_targets (pass : String) (policy : MergePolicy) (s : Section)
    (target : Target) :
    (s.targets.foldl (links pass policy) a).manifest.links target =
      (Links.applyRules ⟨pass, target.key⟩ policy ((s.rulesFor target).getD .empty)
        (a.manifest.links target)).1 := by
  cases target with
  | require =>
    cases hreq : s.require <;> cases hdev : s.requireDev <;>
      simp [Section.targets, Section.rulesFor, hreq, hdev, links_links, links_links_ne,
        Links.applyRules_empty]
  | requireDev =>
    cases hreq : s.require <;> cases hdev : s.requireDev <;>
      simp [Section.targets, Section.rulesFor, hreq, hdev, links_links, links_links_ne,
        Links.applyRules_empty]

/-- The configuration step changes nothing or the configuration. -/
theorem config_eq_ok {overrides : Option Overrides} (h : a.config overrides = .ok b) :
    b = a ∨ ∃ o c changes, overrides = some o ∧ o.isEmpty = false ∧
      Config.applyOverrides a.manifest.config o = .ok (c, changes) ∧
        b = ⟨{ a.manifest with config := c }, a.changes ++ changes⟩ := by
  unfold config at h
  split at h
  · cases h
    exact .inl rfl
  · split at h
    · cases h
      exact .inl rfl
    · rename_i o hsome
      split at h
      · rename_i c changes hok
        cases h
        exact .inr ⟨o, c, changes, rfl, Bool.eq_false_iff.2 hsome, hok, rfl⟩
      · cases h

/-- Overrides of the configuration leave the dependency maps as they are. -/
theorem links_config {overrides : Option Overrides} (h : a.config overrides = .ok b)
    (target : Target) : b.manifest.links target = a.manifest.links target := by
  obtain rfl | ⟨o, c, changes, -, -, -, rfl⟩ := config_eq_ok h
  · rfl
  · cases target <;> rfl

theorem links_pass {p : Pass} (h : a.pass p = .ok b) (target : Target) :
    b.manifest.links target =
      (Links.applyRules ⟨p.name, target.key⟩ p.policy (p.rulesFor target)
        (a.manifest.links target)).1 := by
  unfold pass at h
  rw [links_config h, links_foldl_targets]
  rfl

theorem passes_cons_eq_ok {p : Pass} {rest : List Pass} :
    a.passes (p :: rest) = .ok b ↔ ∃ c, a.pass p = .ok c ∧ c.passes rest = .ok b := by
  rw [passes]
  constructor
  · intro h
    split at h
    · rename_i c hc
      exact ⟨c, hc, h⟩
    · cases h
  · rintro ⟨c, hc, h⟩
    rw [hc]
    exact h

theorem passes_append_eq_ok {ps qs : List Pass} :
    a.passes (ps ++ qs) = .ok b ↔ ∃ c, a.passes ps = .ok c ∧ c.passes qs = .ok b := by
  induction ps generalizing a with
  | nil => simp [passes]
  | cons p rest ih =>
    rw [List.cons_append, passes_cons_eq_ok]
    constructor
    · rintro ⟨c, hc, h⟩
      obtain ⟨d, hd, hthen⟩ := ih.1 h
      exact ⟨d, passes_cons_eq_ok.2 ⟨c, hc, hd⟩, hthen⟩
    · rintro ⟨d, hd, hthen⟩
      obtain ⟨c, hc, h⟩ := passes_cons_eq_ok.1 hd
      exact ⟨c, hc, ih.2 ⟨d, h, hthen⟩⟩

/-- What every pass keeps holds after all of them. -/
theorem passes_induct {P : Applied → Prop} {ps : List Pass}
    (hstep : ∀ p ∈ ps, ∀ a b, P a → a.pass p = .ok b → P b) (ha : P a)
    (h : a.passes ps = .ok b) : P b := by
  induction ps generalizing a with
  | nil =>
    cases h
    exact ha
  | cons p rest ih =>
    rw [List.forall_mem_cons] at hstep
    obtain ⟨c, hc, hrest⟩ := passes_cons_eq_ok.1 h
    exact ih hstep.2 (hstep.1 a c ha hc) hrest

/-- The dependency map after passes is what their rules make of it one after the other. -/
theorem links_passes {ps : List Pass} (h : a.passes ps = .ok b) (target : Target) :
    b.manifest.links target =
      ps.foldl (fun links p =>
        (Links.applyRules ⟨p.name, target.key⟩ p.policy (p.rulesFor target) links).1)
        (a.manifest.links target) := by
  induction ps generalizing a with
  | nil =>
    cases h
    rfl
  | cons p rest ih =>
    obtain ⟨c, hc, hrest⟩ := passes_cons_eq_ok.1 h
    rw [ih hrest, List.foldl_cons, links_pass hc]

end Applied

end ManifestEdit
