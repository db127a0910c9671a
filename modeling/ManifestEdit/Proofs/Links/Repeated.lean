import ManifestEdit.Proofs.Links.Accounted
import ManifestEdit.Proofs.Links.Policies
import ManifestEdit.Proofs.Links.Report

/-!
# Rules applied again

A map meets rules when they have nothing left to do to it. After rules every map meets them: what
they delete is gone, what they insert is there, and a literal pattern decides for the package that
it inserted, so no wildcard overwrites it later. Where a map meets rules they only report the
packages that they keep and the patterns that match nothing.
-/

namespace ManifestEdit

namespace Links

/-- Rules have nothing left to delete, to overwrite or to insert. -/
structure Meets (policy : MergePolicy) (rules : Rules Text) (entries : Links) : Prop where
  deleted : policy = .delete → ∀ k ∈ entries.keys, rules.hits k = false
  overwritten : policy.overwrites = true → ∀ k ∈ entries.keys, ∀ new,
    rules.resolve? k = some new → entries.get? k = some new
  inserted : policy.inserts = true → ∀ k, rules.Inserts k → k ∈ entries.keys

variable {policy : MergePolicy} {rules : Rules Text} {links : Option Links} {c : Change}

/-! ## After rules -/

theorem hits_eq_false_of_delete (scope : Scope) {k : Text}
    (h : k ∈ ((applyRules scope .delete rules links).1.getD .empty).keys) :
    rules.hits k = false := by
  rw [keys_delete] at h
  exact (mem_survivors.1 h).2

theorem mem_of_inserts (scope : Scope) (hpolicy : policy.inserts = true) {k : Text}
    (h : rules.Inserts k) : k ∈ ((applyRules scope policy rules links).1.getD .empty).keys := by
  rw [keys_of_inserts scope hpolicy, List.mem_append, mem_newcomers]
  by_cases hk : k ∈ (links.getD .empty).keys
  · exact .inl hk
  · exact .inr ⟨h, hk⟩

theorem meets_applyRules (scope : Scope) (policy : MergePolicy) (rules : Rules Text)
    (links : Option Links) :
    Meets policy rules ((applyRules scope policy rules links).1.getD .empty) where
  deleted := by
    rintro rfl k hk
    exact hits_eq_false_of_delete scope hk
  overwritten hpolicy k hk new hnew := by
    rw [get?_of_overwrites scope hpolicy hk, ← Rules.resolve?_eq_chosen?, hnew, Option.some_or]
  inserted hpolicy k hk := mem_of_inserts scope hpolicy hk

/-! ## What rules report of a map that meets them -/

theorem EntryReport.skipped_of_meets {scope : Scope} {entries : Links} {e : Text × Text}
    (h : EntryReport scope policy rules e c) (hmeets : Meets policy rules entries)
    (he : e ∈ entries.entries) : c.kind = .skipped := by
  have hkey : e.1 ∈ entries.keys := List.mem_map_of_mem he
  cases h with
  | removed hpolicy hfirst =>
    have hhits : rules.hits e.1 = true := List.any_eq_true.2 ⟨_, hfirst.mem, hfirst.accepts⟩
    rw [hmeets.deleted hpolicy e.1 hkey] at hhits
    cases hhits
  | skipped => rfl
  | replaced hpolicy hdecides hvalue hdiffers =>
    have hheld : entries.get? e.1 = some e.2 := Entries.lookup_of_mem entries.distinct he
    rw [← Rules.resolve?_of_decides hdecides] at hvalue
    rw [hmeets.overwritten hpolicy e.1 hkey _ hvalue] at hheld
    exact absurd (Option.some.inj hheld) hdiffers

theorem PatternReport.unmatched_of_meets {scope : Scope} {entries : Links} {r : Text × Text}
    (h : PatternReport scope policy entries.keys r c) (hmeets : Meets policy rules entries)
    (hr : r ∈ rules.entries) : c.kind = .unmatched := by
  cases h with
  | added hidle hinserts hliteral =>
    have hkey : r.1 ∈ entries.keys :=
      hmeets.inserted hinserts r.1 ⟨List.mem_map_of_mem hr, hliteral⟩
    cases (hidle r.1 hkey).symm.trans (Pattern.accepts_self ⟨r.1⟩)
  | unmatched => rfl

theorem Meets.skipped_or_unmatched {scope : Scope} (h : Meets policy rules (links.getD .empty))
    (hc : c ∈ (applyRules scope policy rules links).2) :
    c.kind = .skipped ∨ c.kind = .unmatched := by
  rcases report_applyRules.entry_or_pattern hc with ⟨e, he, hreport⟩ | ⟨r, hr, hreport⟩
  · exact .inl (hreport.skipped_of_meets h he)
  · exact .inr (hreport.unmatched_of_meets h hr)

theorem isEffective_eq_false_iff {kind : ChangeKind} :
    kind.isEffective = false ↔ kind = .skipped ∨ kind = .unmatched := by
  cases kind <;> decide

/-- A map meets rules exactly where they report no effect. -/
theorem meets_iff (scope : Scope) : Meets policy rules (links.getD .empty) ↔
    ∀ c ∈ (applyRules scope policy rules links).2, c.kind = .skipped ∨ c.kind = .unmatched := by
  constructor
  · exact fun h c hc => h.skipped_or_unmatched hc
  · intro h
    have hstays := applyRules_eq_of_idle fun c hc => isEffective_eq_false_iff.2 (h c hc)
    have hmeets := meets_applyRules scope policy rules links
    rwa [hstays] at hmeets

/-- Rules applied to the map that they made leave it as it is, and report only the packages that
they keep and the patterns that match nothing. -/
theorem applyRules_applyRules (scope again : Scope) (policy : MergePolicy) (rules : Rules Text)
    (links : Option Links) :
    (applyRules again policy rules (applyRules scope policy rules links).1).1 =
        (applyRules scope policy rules links).1 ∧
      ∀ c ∈ (applyRules again policy rules (applyRules scope policy rules links).1).2,
        c.kind = .skipped ∨ c.kind = .unmatched := by
  have hidle := (meets_iff again).1 (meets_applyRules scope policy rules links)
  exact ⟨applyRules_eq_of_idle fun c hc => isEffective_eq_false_iff.2 (hidle c hc), hidle⟩

/-- The first time a wildcard overwrites an entry and a literal pattern, which the wildcard covers,
adds its package. The second time the wildcard matches that package too. -/
theorem applyRules_applyRules_covered :
    let scope : Scope := ⟨"replace", "require"⟩
    let rules : Rules Text := .ofPairs [("*", "9"), ("b", "2"), ("c/*", "3")]
    let once := applyRules scope .overwrite rules (some (.ofPairs [("a", "1")]))
    let twice := applyRules scope .overwrite rules once.1
    once.1.map OrderedMap.entries = some ([("a", "9"), ("b", "2")] : List (Text × Text)) ∧
      twice.1 = once.1 ∧
      twice.2.map (fun c => (c.kind, c.key)) =
        ([(.unmatched, "c/*")] : List (ChangeKind × Text)) ∧
      ∀ c ∈ twice.2, c.kind = .skipped ∨ c.kind = .unmatched := by
  intro scope rules once twice
  obtain ⟨hsame, hidle⟩ :=
    applyRules_applyRules scope scope .overwrite rules (some (.ofPairs [("a", "1")]))
  exact ⟨by decide +kernel, hsame, by decide +kernel, hidle⟩

end Links

end ManifestEdit
