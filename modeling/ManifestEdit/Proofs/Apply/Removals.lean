import ManifestEdit.Apply
import ManifestEdit.Proofs.Links.Policies

/-!
# Removing packages

A removal keeps the required packages that none of its patterns matches, in their places, and all
else of the manifest. So removals may be made in any order, and all at once.
-/

namespace ManifestEdit

namespace OrderedMap

variable {α : Type}

theorem filterKeys_filterKeys (m : OrderedMap α) (keep also : Text → Bool) :
    (m.filterKeys keep).filterKeys also = m.filterKeys fun k => keep k && also k := by
  refine ext_entries ?_
  unfold filterKeys
  dsimp only
  rw [List.filter_filter]
  simp only [Bool.and_comm]

end OrderedMap

namespace Rules

variable {rules first second : Rules Text} {name : Text}

theorem hits_eq_or (h : ∀ k, k ∈ rules.keys ↔ k ∈ first.keys ∨ k ∈ second.keys) (name : Text) :
    rules.hits name = (first.hits name || second.hits name) := by
  rw [Bool.eq_iff_iff, Bool.or_eq_true, hits, hits, hits, List.any_eq_true, List.any_eq_true,
    List.any_eq_true, ← exists_or]
  refine exists_congr fun p => ?_
  rw [mem_patterns, mem_patterns, mem_patterns, h, or_and_right]

theorem any_append_patterns :
    ((first.patterns ++ second.patterns).any fun p => p.accepts name) =
      (first.hits name || second.hits name) :=
  List.any_append

end Rules

namespace Manifest

variable {m : Manifest} {drops : Text → Bool}

/-- The manifest without some of the required packages. -/
def without (m : Manifest) (drops : Text → Bool) : Manifest :=
  { m with require := m.require.map fun l => l.filterKeys fun k => !drops k }

theorem without_without (m : Manifest) (drops also : Text → Bool) :
    (m.without drops).without also = m.without fun k => drops k || also k := by
  unfold without
  dsimp only
  rw [Option.map_map]
  congr 2
  funext l
  rw [Function.comp_apply, OrderedMap.filterKeys_filterKeys]
  simp only [Bool.not_or]

theorem without_comm (m : Manifest) (drops also : Text → Bool) :
    (m.without drops).without also = (m.without also).without drops := by
  rw [without_without, without_without]
  simp only [Bool.or_comm]

theorem entries_without (m : Manifest) (drops : Text → Bool) :
    (m.without drops).require.map OrderedMap.entries =
      m.require.map fun l => l.entries.filter fun e => !drops e.1 :=
  Option.map_map ..

theorem require_without_eq_none_iff : (m.without drops).require = none ↔ m.require = none :=
  Option.map_eq_none_iff

theorem require_without_eq_empty {l : Links} (hm : m.require = some l)
    (h : ∀ k ∈ l.keys, drops k = true) : (m.without drops).require = some .empty := by
  unfold without
  rw [hm, Option.map_some]
  refine congrArg some (OrderedMap.ext_entries (List.filter_eq_nil_iff.2 fun e he => ?_))
  simp [h e.1 (List.mem_map_of_mem he)]

/-- A removal leaves the manifest without the packages that its patterns match. -/
theorem manifest_removeRequire (m : Manifest) (rules : Rules Text) :
    (m.removeRequire rules).manifest = m.without rules.hits := by
  unfold removeRequire Applied.links without
  dsimp only
  rw [withLinks, Links.applyRules_delete]
  rfl

/-- Two removals, in either order, and one with the patterns of both make the same manifest. It
requires the packages that no pattern matches, in their order. An absent map stays absent, and one
of which all is removed is empty. -/
theorem removeRequire_removeRequire (m : Manifest) {first second both : Rules Text}
    (hboth : ∀ k, k ∈ both.keys ↔ k ∈ first.keys ∨ k ∈ second.keys) :
    let after := (m.removeRequire both).manifest
    ((m.removeRequire first).manifest.removeRequire second).manifest = after ∧
      ((m.removeRequire second).manifest.removeRequire first).manifest = after ∧
      after = { m with require := after.require } ∧
      after.require.map OrderedMap.entries = (m.require.map fun l => l.entries.filter fun e =>
        !(first.patterns ++ second.patterns).any fun p => p.accepts e.1) ∧
      (after.require = none ↔ m.require = none) ∧
      ∀ l, m.require = some l →
        (∀ k ∈ l.keys, ∃ p ∈ first.patterns ++ second.patterns, p.accepts k = true) →
          after.require = some .empty := by
  intro after
  have hafter : after = m.without fun k => first.hits k || second.hits k := by
    rw [← funext (Rules.hits_eq_or hboth)]
    exact manifest_removeRequire m both
  rw [hafter, manifest_removeRequire, manifest_removeRequire, manifest_removeRequire,
    manifest_removeRequire]
  refine ⟨without_without .., ?_, rfl, ?_, require_without_eq_none_iff, fun l hl hall => ?_⟩
  · rw [without_comm, without_without]
  · simp only [Rules.any_append_patterns]
    exact entries_without ..
  · refine require_without_eq_empty hl fun k hk => ?_
    rw [← Rules.any_append_patterns]
    exact List.any_eq_true.2 (hall k hk)

/-- The patterns overlap and name packages that are not there; together they match all but one
package of the first manifest and all of the second. -/
theorem removeRequire_removeRequire_overlap :
    let require : Links := .ofPairs [("php", "8"), ("a/x", "1"), ("b/x", "2"), ("a/y", "3")]
    let m : Manifest := ⟨some require, none, none, [("name", .leaf (.str "n"))], [],
      ["name", "require"]⟩
    let n : Manifest := { m with require := some (.ofPairs [("b/x", "2"), ("a/y", "3")]) }
    let first : Rules Text := .ofPairs [("a/*", ""), ("c", "")]
    let second : Rules Text := .ofPairs [("*/x", ""), ("a/*", "1")]
    let both : Rules Text := .ofPairs [("*/x", ""), ("c", ""), ("a/*", "")]
    (∀ k, k ∈ both.keys ↔ k ∈ first.keys ∨ k ∈ second.keys) ∧
      ((m.removeRequire first).manifest.removeRequire second).manifest =
        (m.removeRequire both).manifest ∧
      ((m.removeRequire second).manifest.removeRequire first).manifest =
        (m.removeRequire both).manifest ∧
      (m.removeRequire both).manifest.require.map OrderedMap.entries =
        some ([("php", "8")] : List (Text × Text)) ∧
      (n.removeRequire both).manifest.require = some .empty := by
  intro require m n first second both
  have hboth : ∀ k, k ∈ both.keys ↔ k ∈ first.keys ∨ k ∈ second.keys := by
    intro k
    change k ∈ (["*/x", "c", "a/*"] : List Text) ↔
      k ∈ (["a/*", "c"] : List Text) ∨ k ∈ (["*/x", "a/*"] : List Text)
    simp only [List.mem_cons, List.not_mem_nil, or_false]
    tauto
  obtain ⟨hinTurn, hreversed, -, hentries, -⟩ := removeRequire_removeRequire m hboth
  obtain ⟨-, -, -, -, -, hempty⟩ := removeRequire_removeRequire n hboth
  refine ⟨hboth, hinTurn, hreversed, ?_, hempty _ rfl (by decide +kernel)⟩
  rw [hentries]
  decide +kernel

end Manifest

end ManifestEdit
