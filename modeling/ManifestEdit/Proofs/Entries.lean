import ManifestEdit.OrderedMap

/-!
# Entries with distinct keys

Where no key stands twice, looking a key up and standing among the entries are the same.
-/

namespace ManifestEdit

namespace Entries

variable {α : Type}

theorem mem_keys {entries : List (Text × α)} {key : Text} :
    key ∈ keys entries ↔ ∃ value, (key, value) ∈ entries := by
  rw [keys, List.mem_map]
  constructor
  · rintro ⟨e, he, rfl⟩
    exact ⟨e.2, he⟩
  · rintro ⟨value, he⟩
    exact ⟨(key, value), he, rfl⟩

theorem mem_of_lookup {entries : List (Text × α)} {key : Text} {value : α}
    (h : entries.lookup key = some value) : (key, value) ∈ entries := by
  induction entries with
  | nil => cases h
  | cons e rest ih =>
    obtain ⟨k, v⟩ := e
    rw [lookup_cons_eq] at h
    split at h
    · rename_i hk
      cases h
      rw [hk]
      exact List.mem_cons_self
    · exact List.mem_cons_of_mem _ (ih h)

theorem lookup_eq_none_iff {entries : List (Text × α)} {key : Text} :
    entries.lookup key = none ↔ key ∉ keys entries := by
  induction entries with
  | nil => simp [keys]
  | cons e rest ih =>
    obtain ⟨k, v⟩ := e
    rw [lookup_cons_eq, keys, List.map_cons, List.mem_cons]
    by_cases hk : key = k
    · simp [hk]
    · rw [if_neg hk, ih]
      simp [hk, keys]

theorem isSome_lookup {entries : List (Text × α)} {key : Text} :
    (entries.lookup key).isSome = true ↔ key ∈ keys entries := by
  rw [Option.isSome_iff_ne_none, ne_eq, lookup_eq_none_iff, Decidable.not_not]

theorem lookup_of_mem {entries : List (Text × α)} (hnodup : (keys entries).Nodup) {key : Text}
    {value : α} (h : (key, value) ∈ entries) : entries.lookup key = some value := by
  induction entries with
  | nil => cases h
  | cons e rest ih =>
    obtain ⟨k, v⟩ := e
    rw [keys, List.map_cons, List.nodup_cons] at hnodup
    rw [lookup_cons_eq]
    rcases List.mem_cons.1 h with heq | h
    · cases heq
      rw [if_pos rfl]
    · have hne : key ≠ k := fun hk => hnodup.1 (hk ▸ mem_keys.2 ⟨value, h⟩)
      rw [if_neg hne, ih hnodup.2 h]

theorem lookup_eq_some_iff {entries : List (Text × α)} (hnodup : (keys entries).Nodup)
    {key : Text} {value : α} : entries.lookup key = some value ↔ (key, value) ∈ entries :=
  ⟨mem_of_lookup, lookup_of_mem hnodup⟩

theorem eq_of_mem {entries : List (Text × α)} (hnodup : (keys entries).Nodup) {key : Text}
    {v w : α} (hv : (key, v) ∈ entries) (hw : (key, w) ∈ entries) : v = w := by
  have h := lookup_of_mem hnodup hv
  rw [lookup_of_mem hnodup hw] at h
  exact (Option.some.inj h).symm

theorem lookup_perm {entries other : List (Text × α)} (hnodup : (keys entries).Nodup)
    (h : entries.Perm other) (key : Text) : entries.lookup key = other.lookup key := by
  have hother : (keys other).Nodup := (h.map Prod.fst).nodup_iff.1 hnodup
  refine Option.ext fun v => ?_
  rw [lookup_eq_some_iff hnodup, lookup_eq_some_iff hother, h.mem_iff]

theorem lookup_filter (entries : List (Text × α)) (keep : Text → Bool) (key : Text) :
    (entries.filter fun e => keep e.1).lookup key =
      if keep key then entries.lookup key else none := by
  induction entries with
  | nil => cases keep key <;> rfl
  | cons e rest ih =>
    obtain ⟨k, v⟩ := e
    rw [List.filter_cons, lookup_cons_eq key k v]
    by_cases hk : key = k
    · subst hk
      by_cases hkeep : keep key = true
      · rw [if_pos hkeep, if_pos hkeep, if_pos rfl, lookup_cons_eq, if_pos rfl]
      · rw [if_neg hkeep, ih, if_neg hkeep, if_neg hkeep]
    · by_cases hkeep : keep k = true
      · rw [if_pos hkeep, lookup_cons_eq, if_neg hk, ih, if_neg hk]
      · rw [if_neg hkeep, ih, if_neg hk]

theorem lookup_map_at (entries : List (Text × α)) (key : Text) (value : α) (other : Text) :
    (entries.map fun e => if e.1 = key then (e.1, value) else e).lookup other =
      if other = key then (entries.lookup other).map fun _ => value else entries.lookup other := by
  induction entries with
  | nil => split <;> rfl
  | cons e rest ih =>
    obtain ⟨k, v⟩ := e
    rw [List.map_cons, lookup_cons_eq other k v]
    by_cases hk : k = key
    · rw [if_pos hk, lookup_cons_eq, ih, hk]
      by_cases hother : other = key
      · rw [if_pos hother, if_pos hother, if_pos hother, Option.map_some]
      · rw [if_neg hother, if_neg hother, if_neg hother, if_neg hother]
    · rw [if_neg hk, lookup_cons_eq, ih]
      by_cases hother : other = k
      · rw [if_pos hother, if_pos hother, if_neg (fun h => hk (hother ▸ h))]
      · rw [if_neg hother, if_neg hother]

/-- What is looked up among keys that were looked up. -/
theorem lookup_filterMap (keys : List Text) (value? : Text → Option α) (key : Text) :
    (keys.filterMap fun k => (value? k).map (k, ·)).lookup key =
      if key ∈ keys then value? key else none := by
  induction keys with
  | nil => rfl
  | cons k rest ih =>
    rw [List.filterMap_cons]
    by_cases hk : key = k
    · subst hk
      cases hvalue : value? key with
      | none => simp [ih, hvalue]
      | some v => simp
    · cases hvalue : value? k with
      | none => simp [ih, hk]
      | some v => simp [lookup_cons_eq, ih, hk]

/-! ## Written entries -/

theorem mem_put {key : Text} {value : α} {entries : List (Text × α)} {e : Text × α}
    (h : e ∈ put key value entries) : e = (key, value) ∨ e ∈ entries := by
  induction entries with
  | nil => exact .inl (List.mem_singleton.1 h)
  | cons d rest ih =>
    obtain ⟨k, v⟩ := d
    rw [put] at h
    split at h
    · rename_i hk
      rcases List.mem_cons.1 h with rfl | h
      · exact .inl (by rw [hk])
      · exact .inr (List.mem_cons_of_mem _ h)
    · rcases List.mem_cons.1 h with rfl | h
      · exact .inr List.mem_cons_self
      · exact (ih h).imp_right (List.mem_cons_of_mem _)

theorem mem_putAll {entries pairs : List (Text × α)} {e : Text × α}
    (h : e ∈ putAll entries pairs) : e ∈ pairs ∨ e ∈ entries := by
  induction pairs generalizing entries with
  | nil => exact .inr h
  | cons p rest ih =>
    rcases ih h with he | he
    · exact .inl (List.mem_cons_of_mem _ he)
    · rcases mem_put he with rfl | he
      · exact .inl List.mem_cons_self
      · exact .inr he

theorem mem_ofPairs {pairs : List (Text × α)} {e : Text × α} (h : e ∈ ofPairs pairs) :
    e ∈ pairs := by
  rcases mem_putAll h with h | h
  · exact h
  · cases h

end Entries

/-! ## Results -/

/-- A check of a result holds of a value that it is. -/
theorem exists_ok_of_any {ε α : Type} {x : Except ε α} {p : α → Bool}
    (h : x.toOption.any p = true) : ∃ a, x = .ok a ∧ p a = true := by
  cases x with
  | ok a => exact ⟨a, rfl, h⟩
  | error e => cases h

end ManifestEdit
