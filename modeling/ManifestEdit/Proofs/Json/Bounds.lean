import ManifestEdit.Json.Bounds
import ManifestEdit.Proofs.Json.Values

/-!
# How deep values are and how long their integers

`isWithin p levels` asks for at most so many levels and for `p` of every number. What is encoded
without a shape, and what is written or shown, is checked by functions that look for the first
fault; each of them finds none exactly where the value is within its bounds.
-/

namespace ManifestEdit

namespace Json

mutual

/-- Whether a value has at most so many levels and only numbers that satisfy `p`. -/
def isWithin (p : Number → Bool) : Nat → Json → Bool
  | 0, _ => false
  | _ + 1, num n => p n
  | levels + 1, arr items => itemsWithin p levels items
  | levels + 1, obj fields => fieldsWithin p levels fields
  | _ + 1, _ => true

def itemsWithin (p : Number → Bool) (levels : Nat) : List Json → Bool
  | [] => true
  | j :: rest => j.isWithin p levels && itemsWithin p levels rest

def fieldsWithin (p : Number → Bool) (levels : Nat) : List (Text × Json) → Bool
  | [] => true
  | (_, v) :: rest => v.isWithin p levels && fieldsWithin p levels rest

end

/-- Whether no integer in a value has too many digits for a text. -/
def fits [Machine] (j : Json) : Bool :=
  j.isWithin Number.fits j.depth

mutual

/-- The levels of brackets of a value. -/
def nesting : Json → Nat
  | arr items => nestingOfItems items + 1
  | obj fields => nestingOfFields fields + 1
  | _ => 0

def nestingOfItems : List Json → Nat
  | [] => 0
  | j :: rest => max j.nesting (nestingOfItems rest)

def nestingOfFields : List (Text × Json) → Nat
  | [] => 0
  | (_, v) :: rest => max v.nesting (nestingOfFields rest)

end

variable {p : Number → Bool} {levels : Nat}

/-! ## Levels -/

theorem depthOfItems_le_iff {items : List Json} :
    depthOfItems items ≤ levels ↔ ∀ j ∈ items, j.depth ≤ levels := by
  induction items with
  | nil => simp [depthOfItems]
  | cons j rest ih => rw [depthOfItems, Nat.max_le, ih, List.forall_mem_cons]

theorem depthOfFields_le_iff {fields : List (Text × Json)} :
    depthOfFields fields ≤ levels ↔ ∀ e ∈ fields, e.2.depth ≤ levels := by
  induction fields with
  | nil => simp [depthOfFields]
  | cons e rest ih => rw [depthOfFields, Nat.max_le, ih, List.forall_mem_cons]

theorem depth_arr_le_iff {items : List Json} :
    (arr items).depth ≤ levels + 1 ↔ ∀ j ∈ items, j.depth ≤ levels := by
  rw [depth, Nat.add_le_add_iff_right, depthOfItems_le_iff]

theorem depth_obj_le_iff {fields : List (Text × Json)} :
    (obj fields).depth ≤ levels + 1 ↔ ∀ e ∈ fields, e.2.depth ≤ levels := by
  rw [depth, Nat.add_le_add_iff_right, depthOfFields_le_iff]

theorem depth_pos (j : Json) : 0 < j.depth := by
  cases j with
  | arr items => exact Nat.succ_pos _
  | obj fields => exact Nat.succ_pos _
  | _ => exact Nat.one_pos

mutual

theorem depth_finiteOnly : ∀ j : Json, j.finiteOnly.depth = j.depth
  | null => rfl
  | bool _ => rfl
  | str _ => rfl
  | num n => by
    rw [finiteOnly]
    split
    · rfl
    · rfl
  | arr items => congrArg (· + 1) (depthOfItems_finiteItems items)
  | obj fields => congrArg (· + 1) (depthOfFields_finiteFields fields)

theorem depthOfItems_finiteItems : ∀ items : List Json,
    depthOfItems (finiteItems items) = depthOfItems items
  | [] => rfl
  | j :: rest => by
    rw [finiteItems, depthOfItems, depth_finiteOnly j, depthOfItems_finiteItems rest, depthOfItems]

theorem depthOfFields_finiteFields : ∀ fields : List (Text × Json),
    depthOfFields (finiteFields fields) = depthOfFields fields
  | [] => rfl
  | (_, v) :: rest => by
    rw [finiteFields, depthOfFields, depth_finiteOnly v, depthOfFields_finiteFields rest,
      depthOfFields]

end

theorem nesting_arr_le_iff {items : List Json} :
    (arr items).nesting ≤ levels + 1 ↔ ∀ j ∈ items, j.nesting ≤ levels := by
  rw [nesting, Nat.add_le_add_iff_right]
  induction items with
  | nil => simp [nestingOfItems]
  | cons j rest ih => rw [nestingOfItems, Nat.max_le, ih, List.forall_mem_cons]

theorem nesting_obj_le_iff {fields : List (Text × Json)} :
    (obj fields).nesting ≤ levels + 1 ↔ ∀ e ∈ fields, e.2.nesting ≤ levels := by
  rw [nesting, Nat.add_le_add_iff_right]
  induction fields with
  | nil => simp [nestingOfFields]
  | cons e rest ih => rw [nestingOfFields, Nat.max_le, ih, List.forall_mem_cons]

mutual

/-- There are at most as many levels of brackets as levels. -/
theorem nesting_le_depth : ∀ j : Json, j.nesting ≤ j.depth
  | arr items => Nat.succ_le_succ (nestingOfItems_le items)
  | obj fields => Nat.succ_le_succ (nestingOfFields_le fields)
  | null | bool _ | num _ | str _ => Nat.zero_le _

theorem nestingOfItems_le : ∀ items : List Json, nestingOfItems items ≤ depthOfItems items
  | [] => Nat.le_refl 0
  | j :: rest =>
    Nat.max_le.2 ⟨Nat.le_trans (nesting_le_depth j) (Nat.le_max_left _ _),
      Nat.le_trans (nestingOfItems_le rest) (Nat.le_max_right _ _)⟩

theorem nestingOfFields_le : ∀ fields : List (Text × Json),
    nestingOfFields fields ≤ depthOfFields fields
  | [] => Nat.le_refl 0
  | (_, v) :: rest =>
    Nat.max_le.2 ⟨Nat.le_trans (nesting_le_depth v) (Nat.le_max_left _ _),
      Nat.le_trans (nestingOfFields_le rest) (Nat.le_max_right _ _)⟩

end

/-! ## Levels and numbers -/

theorem isWithin_arr {items : List Json} :
    (arr items).isWithin p (levels + 1) = true ↔ ∀ j ∈ items, j.isWithin p levels = true := by
  rw [isWithin]
  induction items with
  | nil => simp [itemsWithin]
  | cons j rest ih => rw [itemsWithin, Bool.and_eq_true, ih, List.forall_mem_cons]

theorem isWithin_obj {fields : List (Text × Json)} :
    (obj fields).isWithin p (levels + 1) = true ↔ ∀ e ∈ fields, e.2.isWithin p levels = true := by
  rw [isWithin]
  induction fields with
  | nil => simp [fieldsWithin]
  | cons e rest ih => rw [fieldsWithin, Bool.and_eq_true, ih, List.forall_mem_cons]

theorem not_isWithin_zero (p : Number → Bool) (j : Json) : j.isWithin p 0 = false := by
  rw [isWithin]

theorem isWithin_mono {more : Nat} (hmore : levels ≤ more) {j : Json}
    (h : j.isWithin p levels = true) : j.isWithin p more = true := by
  induction levels generalizing more j with
  | zero =>
    rw [not_isWithin_zero] at h
    cases h
  | succ levels ih =>
    obtain ⟨more, rfl⟩ : ∃ n, more = n + 1 := ⟨more - 1, by omega⟩
    have hmore := Nat.le_of_succ_le_succ hmore
    cases j with
    | arr items => exact isWithin_arr.2 fun i hi => ih hmore (isWithin_arr.1 h i hi)
    | obj fields => exact isWithin_obj.2 fun e he => ih hmore (isWithin_obj.1 h e he)
    | _ => exact h

theorem depth_le_of_isWithin {j : Json} (h : j.isWithin p levels = true) : j.depth ≤ levels := by
  induction levels generalizing j with
  | zero =>
    rw [not_isWithin_zero] at h
    cases h
  | succ levels ih =>
    cases j with
    | arr items => exact depth_arr_le_iff.2 fun i hi => ih (isWithin_arr.1 h i hi)
    | obj fields => exact depth_obj_le_iff.2 fun e he => ih (isWithin_obj.1 h e he)
    | _ => exact Nat.succ_le_succ (Nat.zero_le levels)

theorem isWithin_depth {j : Json} (h : j.isWithin p levels = true) :
    j.isWithin p j.depth = true := by
  induction levels generalizing j with
  | zero =>
    rw [not_isWithin_zero] at h
    cases h
  | succ levels ih =>
    cases j with
    | arr items =>
      refine isWithin_arr.2 fun i hi => ?_
      exact isWithin_mono (depthOfItems_le_iff.1 (Nat.le_refl _) i hi) (ih (isWithin_arr.1 h i hi))
    | obj fields =>
      refine isWithin_obj.2 fun e he => ?_
      exact isWithin_mono (depthOfFields_le_iff.1 (Nat.le_refl _) e he) (ih (isWithin_obj.1 h e he))
    | _ => exact h

/-- Levels and numbers can be looked at apart. -/
theorem isWithin_iff {j : Json} :
    j.isWithin p levels = true ↔ j.depth ≤ levels ∧ j.isWithin p j.depth = true :=
  ⟨fun h => ⟨depth_le_of_isWithin h, isWithin_depth h⟩, fun h => isWithin_mono h.1 h.2⟩

theorem isWithin_true_iff {j : Json} :
    j.isWithin (fun _ => true) levels = true ↔ j.depth ≤ levels := by
  refine ⟨depth_le_of_isWithin, fun h => ?_⟩
  induction levels generalizing j with
  | zero => exact absurd (depth_pos j) (Nat.not_lt.2 h)
  | succ levels ih =>
    cases j with
    | arr items => exact isWithin_arr.2 fun i hi => ih (depth_arr_le_iff.1 h i hi)
    | obj fields => exact isWithin_obj.2 fun e he => ih (depth_obj_le_iff.1 h e he)
    | _ => rfl

theorem isWithin_finiteOnly {j : Json} (h : j.isWithin p levels = true) :
    j.finiteOnly.isWithin p levels = true := by
  induction levels generalizing j with
  | zero =>
    rw [not_isWithin_zero] at h
    cases h
  | succ levels ih =>
    cases j with
    | num n =>
      rw [finiteOnly]
      split
      · exact h
      · rfl
    | arr items =>
      rw [finiteOnly, finiteItems_eq_map, isWithin_arr, List.forall_mem_map]
      exact fun i hi => ih (isWithin_arr.1 h i hi)
    | obj fields =>
      rw [finiteOnly, finiteFields_eq_map, isWithin_obj, List.forall_mem_map]
      exact fun e he => ih (isWithin_obj.1 h e he)
    | _ => exact h

theorem isWithin_fits_iff [Machine] {j : Json} :
    j.isWithin Number.fits levels = true ↔ j.depth ≤ levels ∧ j.fits = true :=
  isWithin_iff

theorem fits_arr [Machine] {items : List Json} :
    (arr items).fits = true ↔ ∀ j ∈ items, j.fits = true := by
  rw [fits, depth, isWithin_arr]
  refine forall₂_congr fun j hj => ?_
  rw [isWithin_fits_iff, and_iff_right (depthOfItems_le_iff.1 (Nat.le_refl _) j hj)]

theorem fits_obj [Machine] {fields : List (Text × Json)} :
    (obj fields).fits = true ↔ ∀ e ∈ fields, e.2.fits = true := by
  rw [fits, depth, isWithin_obj]
  refine forall₂_congr fun e he => ?_
  rw [isWithin_fits_iff, and_iff_right (depthOfFields_le_iff.1 (Nat.le_refl _) e he)]

/-! ## Faults -/

/-- A value can be written exactly where it is within the bounds of the machine. -/
theorem overrun?_eq_none_iff [Machine] {deep : Machine.Fault} {j : Json} :
    overrun? deep levels j = none ↔ j.depth ≤ levels ∧ j.fits = true := by
  rw [← isWithin_fits_iff]
  induction levels generalizing j with
  | zero => simp [overrun?, isWithin]
  | succ levels ih =>
    cases j with
    | num n => simp [overrun?, isWithin]
    | arr items =>
      rw [overrun?, isWithin_arr]
      induction items with
      | nil => simp [overrunOfItems?]
      | cons i rest irest =>
        rw [overrunOfItems?, Option.or_eq_none_iff, ih, irest, List.forall_mem_cons]
    | obj fields =>
      rw [overrun?, isWithin_obj]
      induction fields with
      | nil => simp [overrunOfFields?]
      | cons e rest irest =>
        rw [overrunOfFields?, Option.or_eq_none_iff, ih, irest, List.forall_mem_cons]
    | _ => simp [overrun?, isWithin]

/-- A value without a shape is encoded exactly where all keys have bytes and it is not nested too
deep. -/
theorem encodeFault?_eq_none_iff {j : Json} :
    j.encodeFault? levels = none ↔ j.hasWholeKeys = true ∧ j.depth ≤ levels := by
  induction levels generalizing j with
  | zero => simp [encodeFault?, Nat.ne_of_gt (depth_pos j)]
  | succ levels ih =>
    cases j with
    | arr items =>
      rw [encodeFault?, hasWholeKeys_arr, depth_arr_le_iff]
      induction items with
      | nil => simp [encodeFaultOfItems?]
      | cons i rest irest =>
        rw [encodeFaultOfItems?, Option.or_eq_none_iff, ih, irest, List.forall_mem_cons,
          List.forall_mem_cons]
        exact and_and_and_comm
    | obj fields =>
      rw [encodeFault?, hasWholeKeys_obj, depth_obj_le_iff]
      induction fields with
      | nil => simp [encodeFaultOfFields?]
      | cons e rest irest =>
        rw [encodeFaultOfFields?, Option.or_eq_none_iff, Option.or_eq_none_iff,
          Option.map_eq_none_iff, bytesFault?_eq_none_iff, ih, irest, List.forall_mem_cons,
          List.forall_mem_cons]
        constructor
        · rintro ⟨hkey, ⟨hwhole, hdepth⟩, hkeys, hlevels⟩
          exact ⟨⟨⟨hkey, hwhole⟩, hkeys⟩, hdepth, hlevels⟩
        · rintro ⟨⟨⟨hkey, hwhole⟩, hkeys⟩, hdepth, hlevels⟩
          exact ⟨hkey, ⟨hwhole, hdepth⟩, hkeys, hlevels⟩
    | _ => simp [encodeFault?, hasWholeKeys, depth]

end Json

end ManifestEdit
