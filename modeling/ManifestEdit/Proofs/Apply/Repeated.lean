import ManifestEdit.Proofs.Apply.ClosedForm
import ManifestEdit.Proofs.Apply.Local

/-!
# A directive applied to its own result

The second time the removing rules may take out what adding and replacing rules had put in, but
these put it back, and the values come from the same rules. So each dependency map holds the same
packages with the same versions. Only what is taken out and put back moves, to the end of the map;
where no removing rule matches a package that is put in, the map stays as it is.
-/

namespace ManifestEdit

namespace OrderedMap

variable {α : Type} {m n : OrderedMap α}

theorem entries_eq_filterMap (m : OrderedMap α) :
    m.entries = m.keys.filterMap fun k => (m.get? k).map (k, ·) := by
  rw [keys, Entries.keys, List.filterMap_map]
  have hself : ∀ e ∈ m.entries, ((m.get? e.1).map (e.1, ·)) = some e := by
    intro e he
    rw [get?, Entries.lookup_of_mem m.distinct he, Option.map_some]
  exact ((List.filterMap_congr hself).trans List.filterMap_some).symm

/-- Maps with the same keys in the same order and the same values are equal. -/
theorem ext_get? (hkeys : m.keys = n.keys) (hget : ∀ k, m.get? k = n.get? k) : m = n := by
  refine ext_entries ?_
  rw [entries_eq_filterMap, entries_eq_filterMap, hkeys, funext hget]

end OrderedMap

namespace Links

variable {before after again : Option Links} {removing adding replacing modifying : Rules Text}

theorem mem_finalKeys {k : Text} :
    k ∈ finalKeys before removing adding replacing ↔
      k ∈ survivors before removing ∨ adding.Inserts k ∨ replacing.Inserts k := by
  rw [finalKeys, keysBeforeReplacing, List.mem_append, List.mem_append, mem_newcomers,
    mem_newcomers, List.mem_append, mem_newcomers]
  tauto

namespace IsFinal

theorem of_eq_inTurn {target : String}
    (h : after = inTurn target before removing adding replacing modifying) :
    IsFinal before removing adding replacing modifying after :=
  h ▸ isFinal_inTurn target before removing adding replacing modifying

variable (h : IsFinal before removing adding replacing modifying after)
include h

/-- Packages that literal rules put in are there. -/
theorem mem_of_inserts {k : Text} (hk : adding.Inserts k ∨ replacing.Inserts k) :
    k ∈ (after.getD .empty).keys := by
  rw [h.keys_eq, mem_finalKeys]
  exact .inr hk

/-- Nothing new comes in once the packages of literal rules are there. -/
theorem newcomers_eq_nil {rules : Rules Text} {present : List Text}
    (hrules : ∀ k, rules.Inserts k → adding.Inserts k ∨ replacing.Inserts k)
    (hpresent : ∀ k ∈ (after.getD .empty).keys, k ∈ present) : newcomers rules present = [] := by
  rw [List.eq_nil_iff_forall_not_mem]
  intro k hk
  obtain ⟨hinserts, hnot⟩ := mem_newcomers.1 hk
  exact hnot (hpresent k (h.mem_of_inserts (hrules k hinserts)))

variable (h' : IsFinal after removing adding replacing modifying again)
include h'

/-- What a removing rule takes out the second time is put in again. -/
theorem mem_keys_again_iff {k : Text} :
    k ∈ (again.getD .empty).keys ↔ k ∈ (after.getD .empty).keys := by
  rw [h'.keys_eq, mem_finalKeys, mem_survivors]
  constructor
  · rintro (⟨hk, -⟩ | hk)
    · exact hk
    · exact h.mem_of_inserts hk
  · intro hk
    rw [h.keys_eq, mem_finalKeys, mem_survivors] at hk
    rcases hk with ⟨hbefore, hmiss⟩ | hk
    · refine .inl ⟨?_, hmiss⟩
      rw [h.keys_eq, mem_finalKeys, mem_survivors]
      exact .inl ⟨hbefore, hmiss⟩
    · exact .inr hk

theorem get?_again (k : Text) :
    (again.getD .empty).get? k = (after.getD .empty).get? k := by
  by_cases hk : k ∈ (after.getD .empty).keys
  · have hvalue := h.get?_eq k hk
    rw [h'.get?_eq k ((h.mem_keys_again_iff h').2 hk), hvalue, finalValue?, finalValue?]
    cases hmodify : modifying.chosen? k with
    | some v => rfl
    | none =>
      cases hreplace : replacing.chosen? k with
      | some v => rfl
      | none =>
        -- No rule overwrites the package, so it still has the value it was carried with.
        rw [finalValue?, hmodify, hreplace, Option.none_or, Option.none_or] at hvalue
        rw [Option.none_or, Option.none_or, Option.none_or, Option.none_or, carried?, hvalue,
          carried?]
        cases removing.hits k with
        | true => rfl
        | false => exact (Option.or_assoc).trans (by rw [Option.or_self])
  · rw [OrderedMap.get?_eq_none_iff.2 hk,
      OrderedMap.get?_eq_none_iff.2 fun hagain => hk ((h.mem_keys_again_iff h').1 hagain)]

theorem sameContent_again : SameContent after again where
  absent := by
    rw [h'.absent_iff]
    exact ⟨fun hnone => ⟨hnone, (h.absent_iff.1 hnone).2⟩, And.left⟩
  get? k := (h.get?_again h' k).symm

/-- Where no removing rule matches what is put in, the packages keep their places. -/
theorem keys_again
    (hkeeps : ∀ k, adding.Inserts k ∨ replacing.Inserts k → removing.hits k = false) :
    (again.getD .empty).keys = (after.getD .empty).keys := by
  have hsurvivors : survivors after removing = (after.getD .empty).keys := by
    rw [survivors, List.filter_eq_self]
    intro k hk
    rw [h.keys_eq, mem_finalKeys, mem_survivors] at hk
    rw [Bool.not_eq_true']
    exact hk.elim And.right (hkeeps k)
  have hadded : newcomers adding (survivors after removing) = [] :=
    h.newcomers_eq_nil (fun _ => .inl) fun k hk => hsurvivors ▸ hk
  have hreplaced : newcomers replacing (keysBeforeReplacing after removing adding) = [] := by
    refine h.newcomers_eq_nil (fun _ => .inr) fun k hk => ?_
    rw [keysBeforeReplacing, hsurvivors]
    exact List.mem_append_left _ hk
  rw [h'.keys_eq, finalKeys, hreplaced, keysBeforeReplacing, hadded, hsurvivors, List.append_nil,
    List.append_nil]

theorem eq_again
    (hkeeps : ∀ k, adding.Inserts k ∨ replacing.Inserts k → removing.hits k = false) :
    again = after := by
  have hsame := h.sameContent_again h'
  have hmap : again.getD .empty = after.getD .empty :=
    OrderedMap.ext_get? (h.keys_again h' hkeeps) (h.get?_again h')
  cases after with
  | none => exact hsame.absent.1 rfl
  | some l =>
    cases again with
    | none => cases hsame.absent.2 rfl
    | some l' => exact congrArg some hmap

end IsFinal

end Links

namespace Applied

/-- Where there are no overrides the configuration step does nothing. -/
theorem config_eq_self (a : Applied) {overrides : Option Overrides}
    (h : ∀ o, overrides = some o → o.isEmpty = true) : a.config overrides = .ok a := by
  cases overrides with
  | none => rfl
  | some o =>
    unfold config
    dsimp only
    rw [if_pos (h o rfl)]

/-- Passes without overrides cannot fail. -/
theorem exists_passes {ps : List Pass} (a : Applied)
    (hps : ∀ p ∈ ps, ∀ o, p.overrides = some o → o.isEmpty = true) :
    ∃ b, a.passes ps = .ok b := by
  induction ps generalizing a with
  | nil => exact ⟨a, rfl⟩
  | cons p rest ih =>
    rw [List.forall_mem_cons] at hps
    obtain ⟨b, hb⟩ := ih (p.rules.targets.foldl (links p.name p.policy) a) hps.2
    exact ⟨b, passes_cons_eq_ok.2 ⟨_, config_eq_self _ hps.1, hb⟩⟩

end Applied

namespace Manifest

variable {m : Manifest} {d : Directive} {a : Applied}

/-- A directive without overrides applies to every manifest. -/
theorem exists_apply (m : Manifest) (hd : d.overrides = []) : ∃ a, m.apply d = .ok a := by
  refine Applied.exists_passes ⟨m, []⟩ fun p hp o ho => ?_
  rw [OrderedMap.entries_eq_nil_iff, Directive.overrides_of_pass hp ho, hd]

/-- A dependency map after a directive is what its four sections make of it in turn. -/
theorem links_of_apply (h : m.apply d = .ok a) (target : Target) :
    a.manifest.links target =
      Links.inTurn target.key (m.links target) (Section.rulesOrNone d.remove target)
        (Section.rulesOrNone d.add target) (Section.rulesOrNone d.replace target)
        (Section.rulesOrNone (d.modify.map ModifySection.toSection) target) :=
  (Applied.links_passes h target).trans (d.foldl_passes target (m.links target))

/-- Applied to its own result a directive without overrides leaves the dependencies as they are, but
for the places of packages that it removes and puts back. -/
theorem links_apply_apply (m : Manifest) {d : Directive} (hd : d.overrides = []) :
    ∃ a b, m.apply d = .ok a ∧ a.manifest.apply d = .ok b ∧ ∀ target,
      Links.SameContent (a.manifest.links target) (b.manifest.links target) ∧
        ((∀ k, (Section.rulesOrNone d.add target).Inserts k ∨
            (Section.rulesOrNone d.replace target).Inserts k →
          (Section.rulesOrNone d.remove target).hits k = false) →
        b.manifest.links target = a.manifest.links target) := by
  obtain ⟨a, ha⟩ := exists_apply m hd
  obtain ⟨b, hb⟩ := exists_apply a.manifest hd
  refine ⟨a, b, ha, hb, fun target => ?_⟩
  have hfirst := Links.IsFinal.of_eq_inTurn (links_of_apply ha target)
  have hsecond := Links.IsFinal.of_eq_inTurn (links_of_apply hb target)
  exact ⟨hfirst.sameContent_again hsecond, hfirst.eq_again hsecond⟩

/-- Of two packages that are added a removing rule matches one, which then goes behind the other. In
the other map no removing rule matches what is added. -/
theorem links_apply_apply_moved :
    let m : Manifest :=
      ⟨some (.ofPairs [("x/a", "1"), ("b", "2")]), none, none, [("name", .leaf (.str "n"))], [],
        ["name", "require"]⟩
    let d : Directive :=
      { modify := some ⟨⟨some (.ofPairs [("x/*", "7")]), none, []⟩, none⟩
        add := some ⟨some (.ofPairs [("x/a", "3"), ("c", "4")]), some (.ofPairs [("c", "5")]), []⟩
        remove := some ⟨some (.ofPairs [("x/*", "")]), some (.ofPairs [("x/*", "")]), []⟩
        replace := some ⟨some (.ofPairs [("*", "6")]), none, []⟩
        order := ["remove", "add", "replace", "modify"] }
    d.overrides = [] ∧ ∃ a b, m.apply d = .ok a ∧ a.manifest.apply d = .ok b ∧
      Links.SameContent (a.manifest.links .require) (b.manifest.links .require) ∧
      (a.manifest.links .require).map OrderedMap.entries =
        some ([("b", "6"), ("x/a", "7"), ("c", "6")] : List (Text × Text)) ∧
      (b.manifest.links .require).map OrderedMap.entries =
        some ([("b", "6"), ("c", "6"), ("x/a", "7")] : List (Text × Text)) ∧
      b.manifest.links .requireDev = a.manifest.links .requireDev := by
  intro m d
  obtain ⟨a, b, ha, hb, hlinks⟩ := links_apply_apply m (d := d) rfl
  have hkeeps : ∀ k, (Section.rulesOrNone d.add .requireDev).Inserts k ∨
      (Section.rulesOrNone d.replace .requireDev).Inserts k →
        (Section.rulesOrNone d.remove .requireDev).hits k = false := by
    rintro k (⟨hk, -⟩ | ⟨hk, -⟩)
    · rw [List.mem_singleton.1 (show k ∈ ([("c" : Text)]) from hk)]
      decide +kernel
    · cases hk
  obtain rfl := Except.ok.inj ha
  obtain rfl := Except.ok.inj hb
  exact ⟨rfl, _, _, ha, hb, (hlinks .require).1, by decide +kernel, by decide +kernel,
    (hlinks .requireDev).2 hkeeps⟩

end Manifest

end ManifestEdit
