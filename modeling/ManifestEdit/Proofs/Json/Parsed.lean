import ManifestEdit.Json.Parser
import ManifestEdit.Proofs.Entries
import ManifestEdit.Proofs.Json.Bounds

/-!
# What holds of parsed values

A property of values is built when it holds of what the reader makes of values that have it. Such a
property holds of every parsed value: the reader keeps one entry for each key, so that no object
holds a key twice, and it takes no integer that has too many digits.
-/

namespace ManifestEdit

namespace Json

theorem bind_ok {ε α β : Type} {x : Except ε α} {f : α → Except ε β} {b : β}
    (h : x >>= f = .ok b) : ∃ a, x = .ok a ∧ f a = .ok b := by
  cases x with
  | error e => cases h
  | ok a => exact ⟨a, rfl, h⟩

variable [Machine] {P : Json → Prop} {j : Json} {ls rest : List Letter}

/-- The property holds of whatever the reader makes of values that have it. -/
structure IsBuilt (P : Json → Prop) : Prop where
  scalar : ∀ {ls j rest}, scanScalar ls = .ok (j, rest) → P j
  str : ∀ text, P (str text)
  arr : ∀ {items}, (∀ j ∈ items, P j) → P (arr items)
  obj : ∀ {members}, (∀ e ∈ members, P e.2) → P (obj (Entries.ofPairs members))

/-- The reader with so many steps makes values of the property only. -/
structure Makes (P : Json → Prop) (fuel : Nat) : Prop where
  value : ∀ {levels ls j rest}, scanValue fuel levels ls = .ok (j, rest) → P j
  members : ∀ {levels ls members rest},
    scanMembers fuel levels ls = .ok (members, rest) → ∀ e ∈ members, P e.2
  items : ∀ {levels ls items rest},
    scanItems fuel levels ls = .ok (items, rest) → ∀ j ∈ items, P j

theorem IsBuilt.scanValue (hP : IsBuilt P) {fuel levels : Nat} (ih : Makes P fuel)
    (h : scanValue (fuel + 1) levels ls = .ok (j, rest)) : P j := by
  rw [Json.scanValue.eq_def] at h
  dsimp only at h
  split at h
  · obtain ⟨⟨text, more⟩, -, h⟩ := bind_ok h
    cases h
    exact hP.str text
  · split at h
    · cases h
    · split at h
      · cases h
        exact @IsBuilt.obj _ P hP [] fun e he => absurd he List.not_mem_nil
      · obtain ⟨⟨members, more⟩, hmembers, h⟩ := bind_ok h
        cases h
        exact hP.obj (ih.members hmembers)
  · split at h
    · cases h
    · split at h
      · cases h
        exact hP.arr fun j hj => absurd hj List.not_mem_nil
      · obtain ⟨⟨items, more⟩, hitems, h⟩ := bind_ok h
        cases h
        exact hP.arr (ih.items hitems)
  · exact hP.scalar h

theorem Makes.scanItems {fuel levels : Nat} (ih : Makes P fuel) {items : List Json}
    (h : scanItems (fuel + 1) levels ls = .ok (items, rest)) : ∀ j ∈ items, P j := by
  rw [Json.scanItems] at h
  obtain ⟨⟨j, more⟩, hvalue, h⟩ := bind_ok h
  have hj := ih.value hvalue
  dsimp only at h
  split at h
  · cases h
    exact List.forall_mem_singleton.2 hj
  · obtain ⟨⟨others, left⟩, hothers, h⟩ := bind_ok h
    cases h
    exact List.forall_mem_cons.2 ⟨hj, ih.items hothers⟩
  · cases h

theorem Makes.scanMembers {fuel levels : Nat} (ih : Makes P fuel) {members : List (Text × Json)}
    (h : scanMembers (fuel + 1) levels ls = .ok (members, rest)) : ∀ e ∈ members, P e.2 := by
  rw [Json.scanMembers.eq_def] at h
  dsimp only at h
  split at h
  · obtain ⟨⟨key, more⟩, -, h⟩ := bind_ok h
    dsimp only at h
    split at h
    · obtain ⟨⟨v, left⟩, hvalue, h⟩ := bind_ok h
      have hv := ih.value hvalue
      dsimp only at h
      split at h
      · cases h
        exact List.forall_mem_singleton.2 hv
      · obtain ⟨⟨others, left⟩, hothers, h⟩ := bind_ok h
        cases h
        exact List.forall_mem_cons.2 ⟨hv, ih.members hothers⟩
      · cases h
    · cases h
  · cases h

theorem IsBuilt.makes (hP : IsBuilt P) (fuel : Nat) : Makes P fuel := by
  induction fuel with
  | zero =>
    constructor
    · intro levels ls j rest h
      cases h
    · intro levels ls members rest h
      cases h
    · intro levels ls items rest h
      cases h
  | succ fuel ih => exact ⟨hP.scanValue ih, ih.scanMembers, ih.scanItems⟩

theorem IsBuilt.of_parse (hP : IsBuilt P) {text : Text} (h : parse text = .ok j) : P j := by
  rw [parse] at h
  dsimp only at h
  split at h
  · rename_i value hscan
    cases h
    unfold scanText at hscan
    split at hscan
    · cases hscan
    · split at hscan
      · cases hscan
      · rename_i rest hvalue
        split at hscan
        · cases hscan
          exact (hP.makes _).value hvalue
        · cases hscan
  · cases h
  · cases h

/-! ## Keys -/

/-- A scalar is one of the words or a number that fits. -/
theorem scanScalar_cases (h : scanScalar ls = .ok (j, rest)) :
    (∃ e ∈ words, j = e.2) ∨ ∃ n : Number, n.fits = true ∧ j = num n := by
  unfold scanScalar at h
  split at h
  · rename_i found hfound
    cases h
    obtain ⟨e, he, hmap⟩ := List.exists_of_findSome?_eq_some hfound
    obtain ⟨left, -, hleft⟩ := Option.map_eq_some_iff.1 hmap
    cases hleft
    exact .inl ⟨e, he, rfl⟩
  · split at h
    · cases h
    · rename_i n left _
      split at h
      · rename_i hfits
        cases h
        exact .inr ⟨n, hfits, rfl⟩
      · cases h

theorem isBuilt_isDistinct : IsBuilt fun j => j.isDistinct = true where
  scalar h := by
    obtain ⟨e, he, rfl⟩ | ⟨n, -, rfl⟩ := scanScalar_cases h
    · simp only [words, List.mem_cons, List.not_mem_nil, or_false] at he
      rcases he with rfl | rfl | rfl | rfl | rfl | rfl <;> rfl
    · rfl
  str _ := rfl
  arr h := isDistinct_arr.2 h
  obj h := isDistinct_obj.2 ⟨Entries.nodup_ofPairs _, fun e he => h e (Entries.mem_ofPairs he)⟩

/-- The objects of a parsed text hold each key once. -/
theorem isDistinct_of_parse {text : Text} (h : parse text = .ok j) : j.isDistinct = true :=
  isBuilt_isDistinct.of_parse h

/-! ## Integers -/

theorem isBuilt_fits : IsBuilt fun j => j.fits = true where
  scalar h := by
    obtain ⟨e, he, rfl⟩ | ⟨n, hn, rfl⟩ := scanScalar_cases h
    · simp only [words, List.mem_cons, List.not_mem_nil, or_false] at he
      rcases he with rfl | rfl | rfl | rfl | rfl | rfl <;> rfl
    · exact hn
  str _ := rfl
  arr h := fits_arr.2 h
  obj h := fits_obj.2 fun e he => h e (Entries.mem_ofPairs he)

/-- The integers of a parsed text may be written again. -/
theorem fits_of_parse {text : Text} (h : parse text = .ok j) : j.fits = true :=
  isBuilt_fits.of_parse h

end Json

end ManifestEdit
