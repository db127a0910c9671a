import ManifestEdit.Proofs.Apply.Overrides

/-!
# Alike manifests under a directive

Applied to alike manifests a directive makes the same changes and leaves alike manifests, or fails
with the same error. Each pass keeps this, and so do all of them in turn.
-/

namespace ManifestEdit

namespace Links

variable {scope : Scope} {policy : MergePolicy} {rules : Rules Text} {links : Option Links}

/-- Rules that add packages under whole keys leave a map under whole keys. -/
theorem whole_applyRules (hlinks : ∀ l, links = some l → ∀ k ∈ l.keys, k.isWhole = true)
    (hrules : ∀ k ∈ rules.keys, adds policy ⟨k⟩ = true → k.isWhole = true) {result : Links}
    (h : (applyRules scope policy rules links).1 = some result) :
    ∀ k ∈ result.keys, k.isWhole = true := by
  have hkeys : ((applyRules scope policy rules links).1.getD .empty).keys = _ :=
    keys_applyRules scope
  rw [h, Option.getD_some] at hkeys
  intro k hk
  rw [hkeys, List.mem_append] at hk
  rcases hk with hk | hk
  · have hin := keys_editEntries_sublist.subset hk
    cases links with
    | none => cases hin
    | some l => exact hlinks l rfl k hin
  · obtain ⟨hrule, hadds, -⟩ := mem_keys_added.1 hk
    exact hrules k hrule hadds

end Links

/-- What is asked of a pass: its keys have bytes and its overrides are plain. -/
structure Pass.Plain (p : Pass) : Prop where
  rules : ∀ r ∈ p.rules.targets, ∀ k ∈ r.2.keys, k.isWhole = true
  overrides : ∀ o, p.overrides = some o → ∀ e ∈ o.entries, Config.PlainEntry e

/-- The overrides of a pass may stand in a configuration that may stand in a manifest. -/
def Pass.Bounded (q : Number → Bool) (p : Pass) : Prop :=
  ∀ o, p.overrides = some o → ∀ e ∈ o.entries, e.2.isWithin q (Machine.encodable - 1) = true

namespace Manifest

variable {m : Manifest}

/-- A durable manifest has a configuration that writes a settled value. -/
theorem Durable.writes_config (h : m.Durable) {c : Config} (hc : m.config = some c) :
    Schema.config.shape.Writes c.toDocument := by
  have hkey : (configKey : Text) = (DeclaredField.optional "config").key := by decide
  refine h.field _ Schema.mem_config c.toDocument ?_
  rw [← hkey, field?_config, hc, Option.map_some]

theorem Bounded.bounded_config {q : Number → Bool} (h : m.Bounded q) {c : Config}
    (hc : m.config = some c) : c.toDocument.Bounded q := by
  have hkey : (configKey : Text) = (DeclaredField.optional "config").key := by decide
  refine h.field _ Schema.mem_config c.toDocument ?_
  rw [← hkey, field?_config, hc, Option.map_some]

theorem Storable.config [Machine] (h : m.Storable) {c : Config} (hc : m.config = some c) :
    c.Storable :=
  ⟨h.durable.writes_config hc, h.bounded.bounded_config hc⟩

end Manifest

namespace Applied

variable {a b : Applied}

/-! ## Steps that succeed -/

section Steps

variable {pass : String} {policy : MergePolicy} {overrides : Option Overrides} {q : Number → Bool}

theorem durable_links (h : a.manifest.Durable) {rules : Target × Rules Text}
    (hrules : ∀ k ∈ rules.2.keys, Links.adds policy ⟨k⟩ = true → k.isWhole = true) :
    (a.links pass policy rules).manifest.Durable :=
  h.withLinks rules.1 fun _ hl => Links.whole_applyRules (h.links rules.1) hrules hl

theorem durable_foldl_links (h : a.manifest.Durable) {targets : List (Target × Rules Text)}
    (htargets : ∀ r ∈ targets, ∀ k ∈ r.2.keys, k.isWhole = true) :
    (targets.foldl (links pass policy) a).manifest.Durable := by
  induction targets generalizing a with
  | nil => exact h
  | cons r rest ih =>
    rw [List.forall_mem_cons] at htargets
    exact ih (durable_links h fun k hk _ => htargets.1 k hk) htargets.2

theorem durable_config (h : a.manifest.Durable)
    (hplain : ∀ o, overrides = some o → ∀ e ∈ o.entries, Config.PlainEntry e)
    (hconfig : a.config overrides = .ok b) : b.manifest.Durable := by
  obtain rfl | ⟨o, config, changes, hsome, -, hok, rfl⟩ := config_eq_ok hconfig
  · exact h
  · refine h.withConfig ?_
    rintro c rfl
    exact Config.writes_applyOverrides (hplain o hsome) (fun _ hb => h.writes_config hb) hok

theorem bounded_foldl_links (h : a.manifest.Bounded q) (targets : List (Target × Rules Text)) :
    (targets.foldl (links pass policy) a).manifest.Bounded q := by
  induction targets generalizing a with
  | nil => exact h
  | cons r rest ih => exact ih (h.withLinks r.1 _)

theorem bounded_config (h : a.manifest.Bounded q)
    (hwithin : ∀ o, overrides = some o →
      ∀ e ∈ o.entries, e.2.isWithin q (Machine.encodable - 1) = true)
    (hconfig : a.config overrides = .ok b) : b.manifest.Bounded q := by
  obtain rfl | ⟨o, config, changes, hsome, -, hok, rfl⟩ := config_eq_ok hconfig
  · exact h
  · refine h.withConfig ?_
    rintro c rfl
    exact Config.bounded_applyOverrides (hwithin o hsome) (fun _ hb => h.bounded_config hb) hok

end Steps

/-! ## Alike results -/

section Alike

variable [Machine]

/-- The same changes and alike manifests. -/
structure Alike (a b : Applied) : Prop where
  changes : a.changes = b.changes
  manifest : Manifest.Alike a.manifest b.manifest

/-- Alike results, or the same error. -/
def SameOutcome : Except ApplyError Applied → Except ApplyError Applied → Prop
  | .ok a, .ok b => a.Alike b
  | .error e, .error e' => e = e'
  | _, _ => False

theorem Alike.links (h : a.Alike b) (pass : String) (policy : MergePolicy)
    {rules : Target × Rules Text}
    (hrules : ∀ k ∈ rules.2.keys, Links.adds policy ⟨k⟩ = true → k.isWhole = true) :
    (a.links pass policy rules).Alike (b.links pass policy rules) := by
  have hsame := h.manifest.links rules.1
  unfold Applied.links
  rw [← hsame]
  refine ⟨congrArg (· ++ _) h.changes, h.manifest.withLinks rules.1 fun l hl => ?_⟩
  exact Links.whole_applyRules (h.manifest.left.durable.links rules.1) hrules hl

theorem Alike.foldl_links (h : a.Alike b) (pass : String) (policy : MergePolicy)
    {targets : List (Target × Rules Text)}
    (htargets : ∀ r ∈ targets, ∀ k ∈ r.2.keys, k.isWhole = true) :
    (targets.foldl (Applied.links pass policy) a).Alike
      (targets.foldl (Applied.links pass policy) b) := by
  induction targets generalizing a b with
  | nil => exact h
  | cons r rest ih =>
    rw [List.forall_mem_cons] at htargets
    exact ih (h.links pass policy fun k hk _ => htargets.1 k hk) htargets.2

theorem json_config {m n : Manifest} (h : Manifest.Alike m n) :
    m.config.map (fun c => c.toDocument.toJson) = n.config.map fun c => c.toDocument.toJson := by
  have hkey : (Manifest.configKey : Text) = (DeclaredField.optional "config").key := by decide
  rw [← Manifest.json?_config, ← Manifest.json?_config, hkey]
  exact h.json _ Schema.mem_config

theorem Alike.config (h : a.Alike b) {overrides : Option Overrides}
    (hplain : ∀ o, overrides = some o → ∀ e ∈ o.entries, Config.PlainEntry e)
    (hwithin : ∀ o, overrides = some o →
      ∀ e ∈ o.entries, e.2.isWithin Number.fits (Machine.encodable - 1) = true) :
    SameOutcome (a.config overrides) (b.config overrides) := by
  cases overrides with
  | none => exact h
  | some o =>
    have hleft := fun c hc => h.manifest.left.config (c := c) hc
    have hsame := Config.applyOverrides_congr o hleft
      (fun _ hc => h.manifest.right.config hc) (json_config h.manifest)
    unfold Applied.config
    dsimp only
    split
    · exact h
    · rw [← hsame]
      split
      · rename_i config changes hok
        refine ⟨congrArg (· ++ changes) h.changes, h.manifest.withConfig ?_⟩
        rintro c rfl
        exact ⟨Config.writes_applyOverrides (hplain o rfl) (fun b hb => (hleft b hb).writes) hok,
          Config.bounded_applyOverrides (hwithin o rfl) (fun b hb => (hleft b hb).bounded) hok⟩
      · exact rfl

theorem Alike.pass (h : a.Alike b) {p : Pass} (hp : p.Plain) (hbounded : p.Bounded Number.fits) :
    SameOutcome (a.pass p) (b.pass p) :=
  (h.foldl_links p.name p.policy hp.rules).config hp.overrides hbounded

/-- Passes make the same changes to alike manifests and leave alike ones. -/
theorem Alike.passes (h : a.Alike b) {ps : List Pass} (hps : ∀ p ∈ ps, p.Plain)
    (hbounded : ∀ p ∈ ps, p.Bounded Number.fits) : SameOutcome (a.passes ps) (b.passes ps) := by
  induction ps generalizing a b with
  | nil => exact h
  | cons p rest ih =>
    rw [List.forall_mem_cons] at hps hbounded
    have hpass := h.pass hps.1 hbounded.1
    unfold Applied.passes
    cases ha : a.pass p with
    | ok a' =>
      cases hb : b.pass p with
      | ok b' =>
        rw [ha, hb] at hpass
        exact ih hpass hps.2 hbounded.2
      | error e =>
        rw [ha, hb] at hpass
        exact absurd hpass id
    | error e =>
      cases hb : b.pass p with
      | ok b' =>
        rw [ha, hb] at hpass
        exact absurd hpass id
      | error e' =>
        rw [ha, hb] at hpass
        exact hpass

end Alike

end Applied

namespace Manifest

variable {m n : Manifest} {d : Directive} {a : Applied}

/-- A directive leaves a durable manifest durable. -/
theorem Durable.apply (h : m.Durable) (hd : ∀ p ∈ d.passes, p.Plain) (happly : m.apply d = .ok a) :
    a.manifest.Durable :=
  Applied.passes_induct (P := fun a => a.manifest.Durable)
    (fun p hp _ _ hb hpass => Applied.durable_config
      (Applied.durable_foldl_links hb (hd p hp).rules) (hd p hp).overrides hpass) h happly

/-- A directive leaves a bounded manifest bounded. -/
theorem Bounded.apply {q : Number → Bool} (h : m.Bounded q) (hd : ∀ p ∈ d.passes, p.Bounded q)
    (happly : m.apply d = .ok a) : a.manifest.Bounded q :=
  Applied.passes_induct (P := fun a => a.manifest.Bounded q)
    (fun p hp _ _ hb hpass => Applied.bounded_config
      (Applied.bounded_foldl_links hb p.rules.targets) (hd p hp) hpass) h happly

variable [Machine]

theorem Alike.apply (h : Alike m n) (hd : ∀ p ∈ d.passes, p.Plain)
    (hbounded : ∀ p ∈ d.passes, p.Bounded Number.fits) :
    Applied.SameOutcome (m.apply d) (n.apply d) := by
  have hstart : Applied.Alike ⟨m, []⟩ ⟨n, []⟩ := ⟨rfl, h⟩
  exact hstart.passes hd hbounded

/-- Removing packages inserts none, so the patterns may be any. -/
theorem Alike.removeRequire (h : Alike m n) (rules : Rules Text) :
    (m.removeRequire rules).Alike (n.removeRequire rules) := by
  have hstart : Applied.Alike ⟨m, []⟩ ⟨n, []⟩ := ⟨rfl, h⟩
  exact hstart.links "remove" .delete fun _ _ hadds => absurd hadds Bool.false_ne_true

end Manifest

end ManifestEdit
