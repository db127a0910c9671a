import ManifestEdit.Proofs.Links.ClosedForm
import ManifestEdit.Proofs.Pattern.Rules

/-!
# One dependency map under the rules of one section

The map after the rules is the edited map with the added rules behind it. No rule is added that the
map before holds, so the two parts share no key.
-/

namespace ManifestEdit

namespace OrderedMap

variable {α : Type} {m : OrderedMap α}

theorem entries_foldl_put {pairs : List (Text × α)}
    (h : (Entries.keys (m.entries ++ pairs)).Nodup) :
    (pairs.foldl (fun m e => m.put e.1 e.2) m).entries = m.entries ++ pairs := by
  induction pairs generalizing m with
  | nil => simp
  | cons p rest ih =>
    obtain ⟨k, v⟩ := p
    have hk : k ∉ Entries.keys m.entries := by
      simp only [Entries.keys, List.map_append, List.map_cons] at h
      intro hmem
      exact (List.nodup_append.1 h).2.2 k hmem k (by simp) rfl
    have hput : (m.put k v).entries = m.entries ++ [(k, v)] := Entries.put_of_not_mem hk
    rw [List.foldl_cons, ih (by rw [hput]; simpa using h), hput]
    simp

theorem get?_eq_none_iff {k : Text} : m.get? k = none ↔ k ∉ m.keys :=
  Entries.lookup_eq_none_iff

theorem exists_get? {k : Text} (h : k ∈ m.keys) : ∃ v, m.get? k = some v := by
  cases hget : m.get? k with
  | none => exact absurd h (get?_eq_none_iff.1 hget)
  | some v => exact ⟨v, rfl⟩

theorem entries_eq_nil_iff : m.isEmpty = true ↔ m.entries = [] := by
  unfold isEmpty
  exact List.isEmpty_iff

end OrderedMap

namespace Links

/-- The same packages with the same versions, and both maps absent or none; the order of the
packages is left out. -/
structure SameContent (links other : Option Links) : Prop where
  absent : links = none ↔ other = none
  get? : ∀ k, (links.getD .empty).get? k = (other.getD .empty).get? k

variable (policy : MergePolicy) (rules : Rules Text)

/-- The rules that add their package to a map. -/
def added (entries : Links) : Links :=
  rules.filterKeys fun k => adds policy ⟨k⟩ && !entries.keys.contains k

variable {policy rules} {entries : Links}

theorem isSelected_eq_hits (k : Text) : isSelected rules k = rules.hits k := by
  unfold isSelected
  cases hh : rules.hits k with
  | true =>
    have hne : Pattern.matching rules.patterns k ≠ [] := fun h => by
      rw [Rules.matching_eq_nil_iff.1 h] at hh
      cases hh
    simp [hne]
  | false => simp [Rules.matching_eq_nil_iff.2 hh]

theorem editEntries_delete :
    editEntries .delete rules entries = entries.filterKeys fun k => !rules.hits k := by
  unfold editEntries
  simp only [isSelected_eq_hits]

theorem editEntries_of_overwrites (hpolicy : policy.overwrites = true) :
    editEntries policy rules entries =
      entries.mapEntries fun package old => (rules.resolve? package).getD old := by
  cases policy with
  | delete | insertIfAbsent => cases hpolicy
  | overwrite | overwriteIfPresent => rfl

/-- Only rules that delete take packages away. -/
theorem keys_editEntries (hpolicy : policy ≠ .delete) :
    (editEntries policy rules entries).keys = entries.keys := by
  cases policy with
  | delete => exact absurd rfl hpolicy
  | insertIfAbsent => rfl
  | overwrite | overwriteIfPresent =>
    rw [editEntries_of_overwrites rfl, OrderedMap.keys_mapEntries]

theorem mem_keys_added {k : Text} :
    k ∈ (added policy rules entries).keys ↔
      k ∈ rules.keys ∧ adds policy ⟨k⟩ = true ∧ k ∉ entries.keys := by
  unfold added
  rw [OrderedMap.keys_filterKeys, List.mem_filter]
  simp

theorem get?_added {k : Text} (h : k ∈ (added policy rules entries).keys) :
    (added policy rules entries).get? k = rules.get? k := by
  obtain ⟨-, hadds, hnot⟩ := mem_keys_added.1 h
  unfold added
  rw [OrderedMap.get?_filterKeys, if_pos (by simp [hadds, hnot])]

/-- An idle rule that adds its package is a literal one whose package the map does not hold. -/
theorem idle_adds_eq_added :
    ((idleRules rules entries).filter fun r => adds policy r.1).map (fun r => (r.1.raw, r.2)) =
      (added policy rules entries).entries := by
  unfold idleRules added OrderedMap.filterKeys
  dsimp only
  induction rules.entries with
  | nil => rfl
  | cons e rest ih =>
    have hidle : (adds policy ⟨e.1⟩ && !entries.keys.any (Pattern.mk e.1).accepts) =
        (adds policy ⟨e.1⟩ && !entries.keys.contains e.1) := by
      cases hadds : adds policy ⟨e.1⟩ with
      | false => rfl
      | true =>
        have hlit : (Pattern.mk e.1).isLiteral = true := by
          rw [adds, Bool.and_eq_true] at hadds
          exact hadds.2
        have hsame : entries.keys.any (Pattern.mk e.1).accepts = entries.keys.contains e.1 := by
          rw [Bool.eq_iff_iff, List.any_eq_true, List.contains_iff_mem]
          constructor
          · rintro ⟨k, hk, hacc⟩
            have hk' : e.1 = k := (Pattern.accepts_literal hlit k).1 hacc
            exact hk'.symm ▸ hk
          · intro hk
            exact ⟨e.1, hk, (Pattern.accepts_literal hlit e.1).2 rfl⟩
        rw [hsame]
    simp only [List.map_cons, List.filter_cons]
    rw [← hidle, Bool.and_comm]
    cases hany : entries.keys.any (Pattern.mk e.1).accepts with
    | true => simpa using ih
    | false =>
      cases hadds : adds policy ⟨e.1⟩ with
      | true => simpa [hadds] using ih
      | false => simpa [hadds] using ih

theorem keys_editEntries_sublist :
    (editEntries policy rules entries).keys.Sublist entries.keys := by
  by_cases hpolicy : policy = .delete
  · rw [hpolicy, editEntries_delete, OrderedMap.keys_filterKeys]
    exact List.filter_sublist
  · exact (keys_editEntries hpolicy).symm ▸ List.Sublist.refl entries.keys

/-- The edited map and the added rules share no key. -/
theorem nodup_edited_added :
    (Entries.keys ((editEntries policy rules entries).entries ++
      (added policy rules entries).entries)).Nodup := by
  unfold Entries.keys
  rw [List.map_append]
  refine List.nodup_append.2
    ⟨(editEntries policy rules entries).distinct, (added policy rules entries).distinct, ?_⟩
  intro k hk k' hk' he
  have hin : k ∈ entries.keys := keys_editEntries_sublist.subset hk
  exact (mem_keys_added.1 (he ▸ hk')).2.2 hin

theorem entries_insertIdle :
    (insertIdle policy (idleRules rules entries) (editEntries policy rules entries)).entries =
      (editEntries policy rules entries).entries ++ (added policy rules entries).entries := by
  have hnodup : (Entries.keys ((editEntries policy rules entries).entries ++
      (added policy rules entries).entries)).Nodup := nodup_edited_added
  rw [← idle_adds_eq_added] at hnodup ⊢
  rw [← OrderedMap.entries_foldl_put hnodup, List.foldl_map]
  rfl

variable {links : Option Links} (scope : Scope)

/-- The map after the rules, as entries. -/
theorem entries_applyRules :
    ((applyRules scope policy rules links).1.getD .empty).entries =
      (editEntries policy rules (links.getD .empty)).entries ++
        (added policy rules (links.getD .empty)).entries := by
  rw [applyRules_eq]
  dsimp only
  rw [← entries_insertIdle]
  split
  · rename_i h
    rw [Bool.and_eq_true, OrderedMap.entries_eq_nil_iff] at h
    exact h.2.symm
  · rfl

/-- A map stays absent where no rule adds a package, and no map becomes absent. -/
theorem applyRules_eq_none_iff :
    (applyRules scope policy rules links).1 = none ↔
      links = none ∧ (added policy rules .empty).keys = [] := by
  rw [applyRules_eq]
  dsimp only
  cases links with
  | some l => simp
  | none =>
    have hedit : (editEntries policy rules .empty).entries = [] := by
      cases policy <;> rfl
    have hres : (insertIdle policy (idleRules rules OrderedMap.empty)
        (editEntries policy rules OrderedMap.empty)).isEmpty = true ↔
          (added policy rules .empty).keys = [] := by
      rw [OrderedMap.entries_eq_nil_iff, entries_insertIdle, hedit, List.nil_append,
        OrderedMap.keys, Entries.keys, List.map_eq_nil_iff]
    simp only [Option.isNone_none, Bool.true_and, Option.getD_none, true_and]
    rw [← hres]
    split <;> simp_all

/-- A map whose entries stay is not changed: it does not become present either. -/
theorem applyRules_eq_of_entries
    (h : ((applyRules scope policy rules links).1.getD .empty).entries =
      (links.getD .empty).entries) : (applyRules scope policy rules links).1 = links := by
  cases links with
  | none =>
    refine (applyRules_eq_none_iff scope).2 ⟨rfl, ?_⟩
    rw [entries_applyRules] at h
    have hadded : (added policy rules .empty).entries = [] := (List.append_eq_nil_iff.1 h).2
    rw [OrderedMap.keys, hadded]
    rfl
  | some l =>
    cases hresult : (applyRules scope policy rules (some l)).1 with
    | none => cases ((applyRules_eq_none_iff scope).1 hresult).1
    | some result =>
      rw [hresult, Option.getD_some, Option.getD_some] at h
      rw [OrderedMap.ext_entries h]

/-- The keys of the map after the rules. -/
theorem keys_applyRules :
    ((applyRules scope policy rules links).1.getD .empty).keys =
      (editEntries policy rules (links.getD .empty)).keys ++
        (added policy rules (links.getD .empty)).keys := by
  unfold OrderedMap.keys
  rw [entries_applyRules]
  unfold Entries.keys
  exact List.map_append

/-- The value of a key after the rules. -/
theorem get?_applyRules (k : Text) :
    ((applyRules scope policy rules links).1.getD .empty).get? k =
      ((editEntries policy rules (links.getD .empty)).get? k).or
        ((added policy rules (links.getD .empty)).get? k) := by
  unfold OrderedMap.get?
  rw [entries_applyRules, List.lookup_append]

end Links

end ManifestEdit
