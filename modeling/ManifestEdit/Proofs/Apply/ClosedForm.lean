import ManifestEdit.Proofs.Apply.Passes
import ManifestEdit.Proofs.Links.Policies

/-!
# A whole pass in one step

What a directive makes of a dependency map, said without its sections taking turns: which keys
there are, in which order, and which value each of them has.
-/

namespace ManifestEdit

namespace Links

section
variable (before : Option Links) (removing adding replacing modifying : Rules Text)

def keysBeforeReplacing : List Text :=
  survivors before removing ++ newcomers adding (survivors before removing)

def finalKeys : List Text :=
  keysBeforeReplacing before removing adding ++
    newcomers replacing (keysBeforeReplacing before removing adding)

/-- The value that a surviving or an added package brings along. -/
def carried? (k : Text) : Option Text :=
  (if removing.hits k then none else (before.getD .empty).get? k).or (adding.get? k)

def finalValue? (k : Text) : Option Text :=
  (modifying.chosen? k).or ((replacing.chosen? k).or (carried? before removing adding k))

/-- The dependency map after a whole pass. -/
structure IsFinal (after : Option Links) : Prop where
  keys_eq : (after.getD .empty).keys = finalKeys before removing adding replacing
  nodup : (after.getD .empty).keys.Nodup
  get?_eq : ∀ k ∈ (after.getD .empty).keys,
    (after.getD .empty).get? k = finalValue? before removing adding replacing modifying k
  absent_iff : after = none ↔
    before = none ∧ ∀ k ∈ adding.keys ++ replacing.keys, (Pattern.mk k).isLiteral = false

end

/-! ## The four sections in turn -/

/-- The four sections one after the other. -/
def inTurn (target : String) (before : Option Links)
    (removing adding replacing modifying : Rules Text) : Option Links :=
  let removed := (applyRules ⟨"remove", target⟩ .delete removing before).1
  let extended := (applyRules ⟨"add", target⟩ .insertIfAbsent adding removed).1
  let replaced := (applyRules ⟨"replace", target⟩ .overwrite replacing extended).1
  (applyRules ⟨"modify", target⟩ .overwriteIfPresent modifying replaced).1

variable (target : String) (before : Option Links)
  (removing adding replacing modifying : Rules Text)

theorem keys_inTurn :
    ((inTurn target before removing adding replacing modifying).getD .empty).keys =
      finalKeys before removing adding replacing := by
  unfold inTurn finalKeys keysBeforeReplacing
  rw [keys_overwriteIfPresent, keys_of_inserts _ rfl, keys_of_inserts _ rfl, keys_delete]

theorem get?_inTurn {k : Text}
    (h : k ∈ ((inTurn target before removing adding replacing modifying).getD .empty).keys) :
    ((inTurn target before removing adding replacing modifying).getD .empty).get? k =
      finalValue? before removing adding replacing modifying k := by
  unfold inTurn finalValue? at *
  have hreplaced := h
  rw [keys_overwriteIfPresent] at hreplaced
  rw [get?_of_overwrites _ rfl h, get?_of_overwrites _ rfl hreplaced]
  rw [keys_of_inserts _ rfl, List.mem_append] at hreplaced
  rcases hreplaced with hextended | hnew
  · rw [get?_insertIfAbsent _ hextended, get?_delete]
    rfl
  · -- A package that only a replacing rule brings takes that rule's value.
    have hnew := List.mem_filter.1 hnew
    rw [Bool.and_eq_true] at hnew
    obtain ⟨hk, hlit, -⟩ := hnew
    obtain ⟨v, hv⟩ := OrderedMap.exists_get? hk
    rw [← Rules.resolve?_literal hk hlit, Rules.resolve?_eq_chosen?] at hv
    rw [hv, Option.some_or, Option.some_or]

theorem inTurn_eq_none_iff :
    inTurn target before removing adding replacing modifying = none ↔
      before = none ∧ ∀ k ∈ adding.keys ++ replacing.keys, (Pattern.mk k).isLiteral = false := by
  unfold inTurn
  rw [absent_iff_of_not_inserts _ rfl, absent_iff_of_inserts _ rfl, absent_iff_of_inserts _ rfl,
    absent_iff_of_not_inserts _ rfl, and_assoc, List.forall_mem_append]

theorem isFinal_inTurn :
    IsFinal before removing adding replacing modifying
      (inTurn target before removing adding replacing modifying) where
  keys_eq := keys_inTurn ..
  nodup := OrderedMap.distinct _
  get?_eq _ h := get?_inTurn _ _ _ _ _ _ h
  absent_iff := inTurn_eq_none_iff ..

end Links

/-! ## A directive -/

/-- The rules of a section for one dependency map; there are none where either is absent. -/
def Section.rulesOrNone (s : Option Section) (target : Target) : Rules Text :=
  (s.bind fun s => s.rulesFor target).getD .empty

/-- The passes of a directive are its four sections; one that is absent changes nothing. -/
theorem Directive.foldl_passes (d : Directive) (target : Target) (before : Option Links) :
    d.passes.foldl (fun links p =>
        (Links.applyRules ⟨p.name, target.key⟩ p.policy (p.rulesFor target) links).1) before =
      Links.inTurn target.key before (Section.rulesOrNone d.remove target)
        (Section.rulesOrNone d.add target) (Section.rulesOrNone d.replace target)
        (Section.rulesOrNone (d.modify.map ModifySection.toSection) target) := by
  unfold passes Links.inTurn Section.rulesOrNone
  cases d.remove <;> cases d.add <;> cases d.replace <;> cases d.modify <;>
    simp [Pass.rulesFor, Links.applyRules_empty]

/-- What a directive that applies makes of each dependency map. -/
theorem Manifest.isFinal_links_apply {m : Manifest} {d : Directive} {a : Applied}
    (h : m.apply d = .ok a) (target : Target) :
    Links.IsFinal (m.links target) (Section.rulesOrNone d.remove target)
      (Section.rulesOrNone d.add target) (Section.rulesOrNone d.replace target)
      (Section.rulesOrNone (d.modify.map ModifySection.toSection) target)
      (a.manifest.links target) := by
  rw [Applied.links_passes h target, Directive.foldl_passes]
  exact Links.isFinal_inTurn ..

/-- A package comes back that was removed, and wildcards and literals overlap in every section. -/
theorem Manifest.isFinal_links_apply_overlap :
    let m : Manifest :=
      ⟨some (.ofPairs [("a/x", "1"), ("a/y", "2"), ("b", "3")]), none, none,
        [("name", .leaf (.str "n"))], [], ["name", "require"]⟩
    let d : Directive :=
      { modify := some ⟨⟨some (.ofPairs [("d*", "9"), ("d/*", "8")]), none, []⟩, none⟩
        add := some ⟨some (.ofPairs [("a/x", "5"), ("b", "6"), ("*", "7")]), none, []⟩
        remove := some ⟨some (.ofPairs [("a/*", "")]), none, []⟩
        replace := some ⟨some (.ofPairs [("*", "4"), ("a/x", "0"), ("d/e", "2")]), none, []⟩
        order := ["remove", "add", "replace", "modify"] }
    ∃ a, m.apply d = .ok a ∧
      Links.IsFinal (m.links .require) (Section.rulesOrNone d.remove .require)
        (Section.rulesOrNone d.add .require) (Section.rulesOrNone d.replace .require)
        (Section.rulesOrNone (d.modify.map ModifySection.toSection) .require)
        (a.manifest.links .require) ∧
      (a.manifest.links .require).map OrderedMap.entries =
        some ([("b", "4"), ("a/x", "0"), ("d/e", "8")] : List (Text × Text)) := by
  intro m d
  exact ⟨_, rfl, isFinal_links_apply rfl .require, by decide +kernel⟩

end ManifestEdit
