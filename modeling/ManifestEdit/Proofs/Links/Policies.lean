import ManifestEdit.Proofs.Links.Rules

/-!
# What each policy makes of a dependency map

Under each merge policy: which packages the map holds after the rules and in which order, the value
of each of them, and when the map is absent.
-/

namespace ManifestEdit

/-- The packages that literal rules name. -/
def Rules.Inserts (rules : Rules Text) (k : Text) : Prop :=
  k ∈ rules.keys ∧ (Pattern.mk k).isLiteral = true

namespace Links

/-- The keys that no removing rule matches. -/
def survivors (before : Option Links) (removing : Rules Text) : List Text :=
  (before.getD .empty).keys.filter fun k => !removing.hits k

/-- The packages that literal rules name and that are not among some keys. -/
def newcomers (rules : Rules Text) (present : List Text) : List Text :=
  rules.keys.filter fun k => (Pattern.mk k).isLiteral && !present.contains k

variable {rules : Rules Text} {links : Option Links} (scope : Scope)

theorem mem_survivors {k : Text} :
    k ∈ survivors links rules ↔
      k ∈ (links.getD .empty).keys ∧ rules.hits k = false := by
  rw [survivors, List.mem_filter, Bool.not_eq_true']

theorem mem_newcomers {present : List Text} {k : Text} :
    k ∈ newcomers rules present ↔ rules.Inserts k ∧ k ∉ present := by
  rw [newcomers, List.mem_filter, Bool.and_eq_true, Bool.not_eq_true', ← Bool.not_eq_true,
    List.contains_iff_mem, ← and_assoc]
  rfl

theorem keys_added_of_not_inserts {policy : MergePolicy} (h : policy.inserts = false)
    (entries : Links) : (added policy rules entries).keys = [] := by
  rw [List.eq_nil_iff_forall_not_mem]
  intro k hk
  have hadds := (mem_keys_added.1 hk).2.1
  rw [adds, h] at hadds
  cases hadds

theorem keys_added_of_inserts {policy : MergePolicy} (h : policy.inserts = true)
    (entries : Links) : (added policy rules entries).keys = newcomers rules entries.keys := by
  unfold added newcomers
  rw [OrderedMap.keys_filterKeys]
  simp only [adds, h, Bool.true_and]

/-- Removing rules keep the entries that none of them matches; no map becomes absent, or present. -/
theorem applyRules_delete (rules : Rules Text) (links : Option Links) :
    (applyRules scope .delete rules links).1 =
      links.map fun l => l.filterKeys fun k => !rules.hits k := by
  have hinserted : ∀ idle entries, insertIdle .delete idle entries = entries := by
    intro idle entries
    have hnone : (idle.filter fun r => adds .delete r.1) = [] :=
      List.filter_eq_nil_iff.2 fun _ _ => Bool.false_ne_true
    rw [insertIdle, hnone, List.foldl_nil]
  rw [applyRules_eq]
  dsimp only
  rw [hinserted, editEntries_delete]
  cases links with
  | none => rfl
  | some l => rfl

theorem keys_delete :
    ((applyRules scope .delete rules links).1.getD .empty).keys = survivors links rules := by
  rw [applyRules_delete]
  cases links with
  | none => rfl
  | some l =>
    rw [Option.map_some, Option.getD_some, OrderedMap.keys_filterKeys]
    rfl

theorem get?_delete (k : Text) :
    ((applyRules scope .delete rules links).1.getD .empty).get? k =
      if rules.hits k then none else (links.getD .empty).get? k := by
  rw [applyRules_delete]
  cases links with
  | none => cases rules.hits k <;> rfl
  | some l =>
    rw [Option.map_some, Option.getD_some, Option.getD_some, OrderedMap.get?_filterKeys]
    cases rules.hits k <;> rfl

/-- Every package keeps its place, and the inserted ones follow. -/
theorem keys_of_inserts {policy : MergePolicy} (hpolicy : policy.inserts = true) :
    ((applyRules scope policy rules links).1.getD .empty).keys =
      (links.getD .empty).keys ++ newcomers rules (links.getD .empty).keys := by
  have hkeeps : policy ≠ .delete := by
    rintro rfl
    cases hpolicy
  rw [keys_applyRules, keys_added_of_inserts hpolicy, keys_editEntries hkeeps]

theorem keys_overwriteIfPresent :
    ((applyRules scope .overwriteIfPresent rules links).1.getD .empty).keys =
      (links.getD .empty).keys := by
  rw [keys_applyRules, keys_added_of_not_inserts rfl, List.append_nil,
    keys_editEntries (by decide)]

/-- An added package has the value of its rule. -/
theorem get?_insertIfAbsent {k : Text}
    (h : k ∈ ((applyRules scope .insertIfAbsent rules links).1.getD .empty).keys) :
    ((applyRules scope .insertIfAbsent rules links).1.getD .empty).get? k =
      ((links.getD .empty).get? k).or (rules.get? k) := by
  rw [get?_applyRules, editEntries]
  rw [keys_applyRules, editEntries, List.mem_append] at h
  rcases h with h | h
  · obtain ⟨v, hv⟩ := OrderedMap.exists_get? h
    rw [hv, Option.some_or, Option.some_or]
  · rw [get?_added h]

/-- Where a rule decides, its value stands; elsewhere nothing changes. -/
theorem get?_of_overwrites {policy : MergePolicy} (hpolicy : policy.overwrites = true) {k : Text}
    (h : k ∈ ((applyRules scope policy rules links).1.getD .empty).keys) :
    ((applyRules scope policy rules links).1.getD .empty).get? k =
      (rules.chosen? k).or ((links.getD .empty).get? k) := by
  rw [get?_applyRules, editEntries_of_overwrites hpolicy, OrderedMap.get?_mapEntries,
    ← Rules.resolve?_eq_chosen?]
  cases hget : (links.getD OrderedMap.empty).get? k with
  | some old => cases rules.resolve? k <;> rfl
  | none =>
    -- The key is new, so it is a literal rule's, which decides for it.
    rw [keys_applyRules, editEntries_of_overwrites hpolicy, OrderedMap.keys_mapEntries,
      List.mem_append] at h
    rcases h with h | h
    · exact absurd h (OrderedMap.get?_eq_none_iff.1 hget)
    · obtain ⟨hk, hadds, -⟩ := mem_keys_added.1 h
      rw [adds, Bool.and_eq_true] at hadds
      rw [get?_added h, Rules.resolve?_literal hk hadds.2, Option.map_none, Option.none_or,
        Option.or_none]

theorem absent_iff_of_not_inserts {policy : MergePolicy} (h : policy.inserts = false) :
    (applyRules scope policy rules links).1 = none ↔ links = none := by
  rw [applyRules_eq_none_iff, keys_added_of_not_inserts h]
  simp

theorem absent_iff_of_inserts {policy : MergePolicy} (h : policy.inserts = true) :
    (applyRules scope policy rules links).1 = none ↔
      links = none ∧ ∀ k ∈ rules.keys, (Pattern.mk k).isLiteral = false := by
  rw [applyRules_eq_none_iff, keys_added_of_inserts h]
  simp [newcomers, OrderedMap.empty, OrderedMap.keys, Entries.keys, List.filter_eq_nil_iff]

end Links

end ManifestEdit
