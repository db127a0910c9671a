import ManifestEdit.Json.Encoding
import ManifestEdit.Proofs.Text.Utf8

/-!
# Properties of all parts of a value

Whether every key of an object stands once, whether every number is finite, and whether every key
has bytes: each holds of a list or an object exactly when it holds of all the values in it.
-/

namespace ManifestEdit

namespace Json

mutual

/-- Whether no object, at any depth, holds a key twice. -/
def isDistinct : Json → Bool
  | arr items => distinctItems items
  | obj fields => decide (Entries.keys fields).Nodup && distinctFields fields
  | _ => true

def distinctItems : List Json → Bool
  | [] => true
  | j :: rest => j.isDistinct && distinctItems rest

def distinctFields : List (Text × Json) → Bool
  | [] => true
  | (_, v) :: rest => v.isDistinct && distinctFields rest

end

mutual

/-- Whether no number, at any depth, is infinite or `nan`. -/
def isFinite : Json → Bool
  | num n => n.isFinite
  | arr items => areFinite items
  | obj fields => fieldsFinite fields
  | _ => true

def areFinite : List Json → Bool
  | [] => true
  | j :: rest => j.isFinite && areFinite rest

def fieldsFinite : List (Text × Json) → Bool
  | [] => true
  | (_, v) :: rest => v.isFinite && fieldsFinite rest

end

mutual

/-- Whether every key, at any depth, has bytes. -/
def hasWholeKeys : Json → Bool
  | arr items => itemsHaveWholeKeys items
  | obj fields => fieldsHaveWholeKeys fields
  | _ => true

def itemsHaveWholeKeys : List Json → Bool
  | [] => true
  | j :: rest => j.hasWholeKeys && itemsHaveWholeKeys rest

def fieldsHaveWholeKeys : List (Text × Json) → Bool
  | [] => true
  | (k, v) :: rest => k.isWhole && v.hasWholeKeys && fieldsHaveWholeKeys rest

end

/-! ## Distinct keys -/

theorem distinctItems_iff {items : List Json} :
    distinctItems items = true ↔ ∀ j ∈ items, j.isDistinct = true := by
  induction items with
  | nil => simp [distinctItems]
  | cons j rest ih => simp [distinctItems, ih]

theorem distinctFields_iff {fields : List (Text × Json)} :
    distinctFields fields = true ↔ ∀ e ∈ fields, e.2.isDistinct = true := by
  induction fields with
  | nil => simp [distinctFields]
  | cons e rest ih =>
    rw [distinctFields, Bool.and_eq_true, ih, List.forall_mem_cons]

theorem isDistinct_arr {items : List Json} :
    (arr items).isDistinct = true ↔ ∀ j ∈ items, j.isDistinct = true := by
  rw [isDistinct, distinctItems_iff]

theorem isDistinct_obj {fields : List (Text × Json)} :
    (obj fields).isDistinct = true ↔
      (Entries.keys fields).Nodup ∧ ∀ e ∈ fields, e.2.isDistinct = true := by
  rw [isDistinct, Bool.and_eq_true, decide_eq_true_iff, distinctFields_iff]

/-! ## Finite numbers -/

theorem areFinite_iff {items : List Json} :
    areFinite items = true ↔ ∀ j ∈ items, j.isFinite = true := by
  induction items with
  | nil => simp [areFinite]
  | cons j rest ih => simp [areFinite, ih]

theorem fieldsFinite_iff {fields : List (Text × Json)} :
    fieldsFinite fields = true ↔ ∀ e ∈ fields, e.2.isFinite = true := by
  induction fields with
  | nil => simp [fieldsFinite]
  | cons e rest ih =>
    rw [fieldsFinite, Bool.and_eq_true, ih, List.forall_mem_cons]

theorem isFinite_arr {items : List Json} :
    (arr items).isFinite = true ↔ ∀ j ∈ items, j.isFinite = true := by
  rw [isFinite, areFinite_iff]

theorem isFinite_obj {fields : List (Text × Json)} :
    (obj fields).isFinite = true ↔ ∀ e ∈ fields, e.2.isFinite = true := by
  rw [isFinite, fieldsFinite_iff]

theorem finiteItems_eq_map (items : List Json) : finiteItems items = items.map finiteOnly := by
  induction items with
  | nil => rfl
  | cons j rest ih => rw [finiteItems, ih, List.map_cons]

theorem finiteFields_eq_map (fields : List (Text × Json)) :
    finiteFields fields = fields.map fun e => (e.1, e.2.finiteOnly) := by
  induction fields with
  | nil => rfl
  | cons e rest ih => rw [finiteFields, ih, List.map_cons]

theorem keys_finiteFields (fields : List (Text × Json)) :
    Entries.keys (finiteFields fields) = Entries.keys fields := by
  rw [finiteFields_eq_map, Entries.keys, Entries.keys, List.map_map]
  rfl

mutual

theorem isFinite_finiteOnly : ∀ j : Json, j.finiteOnly.isFinite = true
  | null => rfl
  | bool _ => rfl
  | str _ => rfl
  | num n => by
    rw [finiteOnly]
    split
    · assumption
    · rfl
  | arr items => areFinite_finiteItems items
  | obj fields => fieldsFinite_finiteFields fields

theorem areFinite_finiteItems : ∀ items : List Json, areFinite (finiteItems items) = true
  | [] => rfl
  | j :: rest => by
    rw [finiteItems, areFinite, isFinite_finiteOnly j, areFinite_finiteItems rest]
    rfl

theorem fieldsFinite_finiteFields :
    ∀ fields : List (Text × Json), fieldsFinite (finiteFields fields) = true
  | [] => rfl
  | (_, v) :: rest => by
    rw [finiteFields, fieldsFinite, isFinite_finiteOnly v, fieldsFinite_finiteFields rest]
    rfl

end

mutual

/-- A value of finite numbers is left as it is. -/
theorem finiteOnly_of_isFinite : ∀ {j : Json}, j.isFinite = true → j.finiteOnly = j
  | null, _ => rfl
  | bool _, _ => rfl
  | str _, _ => rfl
  | num n, h => by
    rw [isFinite] at h
    rw [finiteOnly, if_pos h]
  | arr items, h => by rw [finiteOnly, finiteItems_of_areFinite h]
  | obj fields, h => by rw [finiteOnly, finiteFields_of_fieldsFinite h]

theorem finiteItems_of_areFinite :
    ∀ {items : List Json}, areFinite items = true → finiteItems items = items
  | [], _ => rfl
  | j :: rest, h => by
    rw [areFinite, Bool.and_eq_true] at h
    rw [finiteItems, finiteOnly_of_isFinite h.1, finiteItems_of_areFinite h.2]

theorem finiteFields_of_fieldsFinite :
    ∀ {fields : List (Text × Json)}, fieldsFinite fields = true → finiteFields fields = fields
  | [], _ => rfl
  | (k, v) :: rest, h => by
    rw [fieldsFinite, Bool.and_eq_true] at h
    rw [finiteFields, finiteOnly_of_isFinite h.1, finiteFields_of_fieldsFinite h.2]

end

theorem eq_null_of_isNull {j : Json} (h : j.isNull = true) : j = null := by
  cases j with
  | null => rfl
  | _ => cases h

theorem isNull_finiteOnly {j : Json} (h : j.isNull = true) : j.finiteOnly.isNull = true := by
  cases j with
  | null => rfl
  | _ => cases h

theorem not_isNull_of_finiteOnly {j : Json} (h : j.finiteOnly.isNull = false) :
    j.isNull = false := by
  cases hnull : j.isNull with
  | false => rfl
  | true =>
    rw [isNull_finiteOnly hnull] at h
    cases h

theorem finiteOnly_finiteOnly (j : Json) : j.finiteOnly.finiteOnly = j.finiteOnly :=
  finiteOnly_of_isFinite (isFinite_finiteOnly j)

mutual

theorem isDistinct_finiteOnly : ∀ {j : Json}, j.isDistinct = true → j.finiteOnly.isDistinct = true
  | null, _ => rfl
  | bool _, _ => rfl
  | str _, _ => rfl
  | num n, _ => by
    rw [finiteOnly]
    split
    · rfl
    · rfl
  | arr items, h => distinctItems_finiteItems h
  | obj fields, h => by
    rw [isDistinct, Bool.and_eq_true] at h
    rw [finiteOnly, isDistinct, keys_finiteFields, h.1, distinctFields_finiteFields h.2]
    rfl

theorem distinctItems_finiteItems :
    ∀ {items : List Json}, distinctItems items = true → distinctItems (finiteItems items) = true
  | [], _ => rfl
  | j :: rest, h => by
    rw [distinctItems, Bool.and_eq_true] at h
    rw [finiteItems, distinctItems, isDistinct_finiteOnly h.1, distinctItems_finiteItems h.2]
    rfl

theorem distinctFields_finiteFields : ∀ {fields : List (Text × Json)},
    distinctFields fields = true → distinctFields (finiteFields fields) = true
  | [], _ => rfl
  | (k, v) :: rest, h => by
    rw [distinctFields, Bool.and_eq_true] at h
    rw [finiteFields, distinctFields, isDistinct_finiteOnly h.1, distinctFields_finiteFields h.2]
    rfl

end

/-! ## Keys with bytes -/

theorem bytesFault?_eq_none_iff {key : Text} : bytesFault? key = none ↔ key.isWhole = true := by
  rw [bytesFault?, Utf8.fault?_eq_none_iff, Utf8.exists_encodeText_iff]

theorem itemsHaveWholeKeys_iff {items : List Json} :
    itemsHaveWholeKeys items = true ↔ ∀ j ∈ items, j.hasWholeKeys = true := by
  induction items with
  | nil => simp [itemsHaveWholeKeys]
  | cons j rest ih => simp [itemsHaveWholeKeys, ih]

theorem fieldsHaveWholeKeys_iff {fields : List (Text × Json)} :
    fieldsHaveWholeKeys fields = true ↔
      ∀ e ∈ fields, e.1.isWhole = true ∧ e.2.hasWholeKeys = true := by
  induction fields with
  | nil => simp [fieldsHaveWholeKeys]
  | cons e rest ih =>
    rw [fieldsHaveWholeKeys, Bool.and_eq_true, Bool.and_eq_true, ih, List.forall_mem_cons]

theorem hasWholeKeys_arr {items : List Json} :
    (arr items).hasWholeKeys = true ↔ ∀ j ∈ items, j.hasWholeKeys = true := by
  rw [hasWholeKeys, itemsHaveWholeKeys_iff]

theorem hasWholeKeys_obj {fields : List (Text × Json)} :
    (obj fields).hasWholeKeys = true ↔
      ∀ e ∈ fields, e.1.isWhole = true ∧ e.2.hasWholeKeys = true := by
  rw [hasWholeKeys, fieldsHaveWholeKeys_iff]

mutual

theorem hasWholeKeys_finiteOnly : ∀ j : Json, j.finiteOnly.hasWholeKeys = j.hasWholeKeys
  | null => rfl
  | bool _ => rfl
  | str _ => rfl
  | num n => by
    rw [finiteOnly]
    split
    · rfl
    · rfl
  | arr items => itemsHaveWholeKeys_finiteItems items
  | obj fields => fieldsHaveWholeKeys_finiteFields fields

theorem itemsHaveWholeKeys_finiteItems :
    ∀ items : List Json, itemsHaveWholeKeys (finiteItems items) = itemsHaveWholeKeys items
  | [] => rfl
  | j :: rest => by
    rw [finiteItems, itemsHaveWholeKeys, hasWholeKeys_finiteOnly j,
      itemsHaveWholeKeys_finiteItems rest, itemsHaveWholeKeys]

theorem fieldsHaveWholeKeys_finiteFields : ∀ fields : List (Text × Json),
    fieldsHaveWholeKeys (finiteFields fields) = fieldsHaveWholeKeys fields
  | [] => rfl
  | (k, v) :: rest => by
    rw [finiteFields, fieldsHaveWholeKeys, hasWholeKeys_finiteOnly v,
      fieldsHaveWholeKeys_finiteFields rest, fieldsHaveWholeKeys]

end

/-! ## Plain values -/

/-- A value in which no object holds a key twice and every key has bytes. -/
structure Plain (j : Json) : Prop where
  distinct : j.isDistinct = true
  whole : j.hasWholeKeys = true

theorem plain_arr {items : List Json} : (arr items).Plain ↔ ∀ j ∈ items, j.Plain := by
  constructor
  · intro h j hj
    exact ⟨isDistinct_arr.1 h.distinct j hj, hasWholeKeys_arr.1 h.whole j hj⟩
  · intro h
    exact ⟨isDistinct_arr.2 fun j hj => (h j hj).distinct,
      hasWholeKeys_arr.2 fun j hj => (h j hj).whole⟩

theorem plain_obj {fields : List (Text × Json)} :
    (obj fields).Plain ↔
      (Entries.keys fields).Nodup ∧ ∀ e ∈ fields, e.1.isWhole = true ∧ e.2.Plain := by
  constructor
  · intro h
    have hdistinct := isDistinct_obj.1 h.distinct
    have hwhole := hasWholeKeys_obj.1 h.whole
    exact ⟨hdistinct.1, fun e he => ⟨(hwhole e he).1, hdistinct.2 e he, (hwhole e he).2⟩⟩
  · rintro ⟨hnodup, h⟩
    exact ⟨isDistinct_obj.2 ⟨hnodup, fun e he => (h e he).2.distinct⟩,
      hasWholeKeys_obj.2 fun e he => ⟨(h e he).1, (h e he).2.whole⟩⟩

theorem Plain.finiteOnly {j : Json} (h : j.Plain) : j.finiteOnly.Plain :=
  ⟨isDistinct_finiteOnly h.distinct, (hasWholeKeys_finiteOnly j).trans h.whole⟩

end Json

end ManifestEdit
