import ManifestEdit.Proofs.Pattern.Selection

/-!
# The value that rules give a name

`chosen?` says without a scan which rule decides: the first one, among those whose pattern matches,
that none of those outranks. A literal rule decides for the package that it names.
-/

namespace ManifestEdit

namespace Rules

variable {α : Type} {rules : Rules α} {name : Text}

/-- Whether some pattern matches a name. -/
def hits (rules : Rules α) (name : Text) : Bool :=
  rules.patterns.any fun p => p.accepts name

/-- The value of the first pattern that matches a name and that no matching pattern outranks. -/
def chosen? (rules : Rules α) (name : Text) : Option α :=
  let matching := Pattern.matching rules.patterns name
  (matching.find? fun p => matching.all fun q => !q.outranks p).bind fun p => rules.get? p.raw

theorem resolve?_eq_chosen? (rules : Rules α) (name : Text) :
    rules.resolve? name = rules.chosen? name := by
  unfold resolve? winner? chosen?
  rw [Pattern.mostSpecific_eq_find?]
  rfl

theorem mem_patterns {p : Pattern} : p ∈ rules.patterns ↔ p.raw ∈ rules.keys := by
  unfold patterns
  constructor
  · intro h
    obtain ⟨k, hk, rfl⟩ := List.mem_map.1 h
    exact hk
  · intro h
    exact List.mem_map.2 ⟨p.raw, h, rfl⟩

theorem winner?_of_decides {p : Pattern} (h : Pattern.Decides rules.patterns name p) :
    rules.winner? name = some p :=
  Pattern.mostSpecific_matching_eq_some_iff.2 h

theorem resolve?_of_decides {p : Pattern} (h : Pattern.Decides rules.patterns name p) :
    rules.resolve? name = rules.get? p.raw := by
  rw [resolve?, winner?_of_decides h, Option.bind_some]

theorem matching_eq_nil_iff :
    Pattern.matching rules.patterns name = [] ↔ rules.hits name = false := by
  simp [Pattern.matching, hits, List.filter_eq_nil_iff]

/-- A literal rule decides for the package that it names. -/
theorem resolve?_literal {k : Text} (hk : k ∈ rules.keys)
    (hlit : (Pattern.mk k).isLiteral = true) : rules.resolve? k = rules.get? k :=
  resolve?_of_decides (Pattern.decides_literal hlit (mem_patterns.2 hk))

end Rules

end ManifestEdit
