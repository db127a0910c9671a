import ManifestEdit.Manifest.Variants
import ManifestEdit.Proofs.Links.Rules
import ManifestEdit.Proofs.Pattern.Inclusion

/-!
# Overlapping patterns

Of the patterns that match a name one decides: none that matches ranks higher, and all that match
before it rank lower. A pattern that names the package itself is that one. Whatever goes by patterns
takes the value of the one that decides: the plugins that are allowed, the source of an install and
the dependency maps under rules that overwrite.
-/

namespace ManifestEdit

/-! ## The value of the pattern that decides -/

namespace Rules

variable {α : Type} {rules : Rules α} {name : Text}

/-- The value that rules give a name: that of the pattern that decides, where one matches. -/
inductive Gives (rules : Rules α) (name : Text) : Option α → Prop where
  | value {p : Pattern} {v : α} (decides : Pattern.Decides rules.patterns name p)
      (lookup : rules.get? p.raw = some v) : Gives rules name (some v)
  | nothing (idle : ∀ p ∈ rules.patterns, p.accepts name = false) : Gives rules name none

theorem gives_resolve? (rules : Rules α) (name : Text) :
    Gives rules name (rules.resolve? name) := by
  unfold resolve? winner?
  cases h : Pattern.mostSpecific (Pattern.matching rules.patterns name) with
  | none => exact .nothing (Pattern.mostSpecific_matching_eq_none_iff.1 h)
  | some p =>
    have hdecides := Pattern.mostSpecific_matching_eq_some_iff.1 h
    obtain ⟨v, hv⟩ := OrderedMap.exists_get? (mem_patterns.1 hdecides.mem)
    rw [Option.bind_some, hv]
    exact .value hdecides hv

end Rules

namespace Links

variable {policy : MergePolicy} {rules : Rules Text} {links : Option Links} {name old : Text}

/-- Rules that overwrite write the value that they give. -/
theorem get?_applyRules_overwriting (scope : Scope)
    (hpolicy : policy = .overwrite ∨ policy = .overwriteIfPresent)
    (hold : (links.getD .empty).get? name = some old) :
    ((applyRules scope policy rules links).1.getD .empty).get? name =
      some ((rules.resolve? name).getD old) := by
  have hoverwrites : policy.overwrites = true := by
    rcases hpolicy with rfl | rfl <;> rfl
  rw [get?_applyRules, editEntries_of_overwrites hoverwrites, OrderedMap.get?_mapEntries, hold]
  rfl

end Links

namespace Pattern

/-- Of all patterns that match a name the one that decides is found, by either way of selecting, and
everything that goes by patterns uses its value. -/
theorem mostSpecific_matching_iff_decides (ps : List Pattern) (name : Text) :
    (mostSpecific (matching ps name) = none ↔ ∀ p ∈ ps, p.accepts name = false) ∧
    (∀ p, mostSpecific (matching ps name) = some p ↔ Decides ps name p) ∧
    ((Pattern.mk name).isLiteral = true → ⟨name⟩ ∈ ps →
      mostSpecific (matching ps name) = some ⟨name⟩) ∧
    (∀ names hits, (name, hits) ∈ select names ps ↔
      name ∈ names ∧ hits = matching ps name ∧ hits ≠ []) ∧
    (∀ rules, ∃ v, Rules.Gives rules name v ∧
      (AllowPlugins.byPattern rules).allows name = v.getD false) ∧
    (∀ rules fallback, ∃ v, Rules.Gives rules name v ∧
      (PreferredInstall.byPattern rules).modeFor name fallback = v.getD fallback) ∧
    (∀ scope policy rules links old, policy = .overwrite ∨ policy = .overwriteIfPresent →
      (links.getD OrderedMap.empty).get? name = some old → ∃ v, Rules.Gives rules name v ∧
        ((Links.applyRules scope policy rules links).1.getD .empty).get? name =
          some (v.getD old)) := by
  refine ⟨mostSpecific_matching_eq_none_iff,
    fun p => mostSpecific_matching_eq_some_iff,
    fun hlit hmem => mostSpecific_matching_eq_some_iff.2 (decides_literal hlit hmem),
    fun names hits => mem_select_iff, ?_, ?_, ?_⟩
  · exact fun rules => ⟨_, rules.gives_resolve? name, rfl⟩
  · exact fun rules fallback => ⟨_, rules.gives_resolve? name, rfl⟩
  · exact fun scope policy rules links old hpolicy hold =>
      ⟨_, rules.gives_resolve? name, Links.get?_applyRules_overwriting scope hpolicy hold⟩

/-- Two patterns of one rank. -/
def tiedRules : Rules Text :=
  .ofPairs [("symfony/*", "^6.0"), ("*/console", "^7.0")]

theorem mostSpecific_matching_iff_decides_tied :
    Decides tiedRules.patterns "symfony/console" ⟨"symfony/*"⟩ ∧
      mostSpecific (matching [⟨"symfony/*"⟩, ⟨"symfony/console"⟩] "symfony/console") =
        some ⟨"symfony/console"⟩ ∧
      ∃ v, Rules.Gives tiedRules "symfony/console" v ∧
        ((Links.applyRules ⟨"replace", "require"⟩ .overwrite tiedRules
          (some (.ofPairs [("symfony/console", "^5.0")]))).1.getD .empty).get? "symfony/console" =
            some (v.getD "^5.0") := by
  obtain ⟨-, hdecides, -, -, -, -, hwrites⟩ :=
    mostSpecific_matching_iff_decides tiedRules.patterns "symfony/console"
  obtain ⟨-, -, hliteral, -⟩ :=
    mostSpecific_matching_iff_decides [⟨"symfony/*"⟩, ⟨"symfony/console"⟩] "symfony/console"
  refine ⟨(hdecides _).1 (by decide +kernel), hliteral (by decide) (by simp), ?_⟩
  exact hwrites _ _ _ _ _ (.inl rfl) (by decide)

end Pattern

end ManifestEdit
