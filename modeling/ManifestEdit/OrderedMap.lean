import ManifestEdit.Text

/-!
# Maps that keep their order

Entries stand in the order in which their keys came first. Writing to a key that is present changes
its value in place.
-/

namespace ManifestEdit

namespace Entries

variable {α : Type}

def keys (entries : List (Text × α)) : List Text :=
  entries.map Prod.fst

def put (key : Text) (value : α) : List (Text × α) → List (Text × α)
  | [] => [(key, value)]
  | (k, v) :: rest => if k = key then (k, value) :: rest else (k, v) :: put key value rest

def putAll (entries : List (Text × α)) : List (Text × α) → List (Text × α)
  | [] => entries
  | (k, v) :: rest => putAll (put k v entries) rest

/-- A repeated key keeps its first place and takes its last value. -/
def ofPairs (pairs : List (Text × α)) : List (Text × α) :=
  putAll [] pairs

theorem keys_put (key : Text) (value : α) (entries : List (Text × α)) :
    keys (put key value entries) =
      if key ∈ keys entries then keys entries else keys entries ++ [key] := by
  induction entries with
  | nil => simp [put, keys]
  | cons e rest ih =>
    obtain ⟨k, v⟩ := e
    by_cases h : k = key
    · simp [put, keys, h]
    · have h' : ¬ key = k := fun e => h e.symm
      simp only [keys] at ih
      by_cases hk : key ∈ rest.map Prod.fst
      · simp_all [put, keys]
      · simp_all [put, keys]

theorem nodup_put {key : Text} {value : α} {entries : List (Text × α)}
    (h : (keys entries).Nodup) : (keys (put key value entries)).Nodup := by
  rw [keys_put]
  split
  · exact h
  · rename_i hk
    refine List.nodup_append.2 ⟨h, by simp, ?_⟩
    intro a ha b hb
    rw [List.mem_singleton.1 hb]
    exact fun e => hk (e ▸ ha)

theorem nodup_putAll {entries pairs : List (Text × α)} (h : (keys entries).Nodup) :
    (keys (putAll entries pairs)).Nodup := by
  induction pairs generalizing entries with
  | nil => exact h
  | cons p rest ih => exact ih (nodup_put h)

theorem nodup_ofPairs (pairs : List (Text × α)) : (keys (ofPairs pairs)).Nodup :=
  nodup_putAll (by simp [keys])

theorem put_of_not_mem {key : Text} {value : α} {entries : List (Text × α)}
    (h : key ∉ keys entries) : put key value entries = entries ++ [(key, value)] := by
  induction entries with
  | nil => rfl
  | cons e rest ih =>
    simp only [keys, List.map_cons, List.mem_cons, not_or] at h
    have hk : ¬ e.1 = key := fun he => h.1 he.symm
    simp [put, hk, ih h.2]

theorem lookup_cons_eq (other k : Text) (v : α) (rest : List (Text × α)) :
    List.lookup other ((k, v) :: rest) = if other = k then some v else rest.lookup other := by
  rw [List.lookup_cons]
  by_cases h : other = k
  · rw [if_pos h, beq_iff_eq.2 h]
  · rw [if_neg h, beq_eq_false_iff_ne.2 h]

theorem lookup_put (key : Text) (value : α) (entries : List (Text × α)) (other : Text) :
    (put key value entries).lookup other =
      if other = key then some value else entries.lookup other := by
  induction entries with
  | nil => rw [put, lookup_cons_eq]
  | cons e rest ih =>
    obtain ⟨k, v⟩ := e
    by_cases hk : k = key
    · rw [put, if_pos hk, lookup_cons_eq, lookup_cons_eq, hk]
      by_cases h : other = key <;> simp [h]
    · rw [put, if_neg hk, lookup_cons_eq, lookup_cons_eq, ih]
      by_cases h : other = k
      · have hne : ¬ other = key := fun e => hk (h ▸ e)
        rw [if_pos h, if_neg hne, if_pos h]
      · rw [if_neg h, if_neg h]

theorem putAll_of_nodup {entries pairs : List (Text × α)}
    (h : (keys (entries ++ pairs)).Nodup) : putAll entries pairs = entries ++ pairs := by
  induction pairs generalizing entries with
  | nil => simp [putAll]
  | cons p rest ih =>
    obtain ⟨k, v⟩ := p
    have hk : k ∉ keys entries := by
      simp only [keys, List.map_append, List.map_cons] at h
      intro hmem
      exact (List.nodup_append.1 h).2.2 k hmem k (by simp) rfl
    rw [putAll, put_of_not_mem hk, ih (by simpa using h)]
    simp

/-- Pairs with distinct keys are kept as they are. -/
theorem ofPairs_of_nodup {pairs : List (Text × α)} (h : (keys pairs).Nodup) :
    ofPairs pairs = pairs := by
  have hall : putAll [] pairs = [] ++ pairs := putAll_of_nodup (by simpa using h)
  simpa [ofPairs] using hall

end Entries

structure OrderedMap (α : Type) where
  entries : List (Text × α)
  distinct : (Entries.keys entries).Nodup

namespace OrderedMap

variable {α : Type}

def empty : OrderedMap α := ⟨[], by simp [Entries.keys]⟩

def ofPairs (pairs : List (Text × α)) : OrderedMap α :=
  ⟨Entries.ofPairs pairs, Entries.nodup_ofPairs pairs⟩

def keys (m : OrderedMap α) : List Text :=
  Entries.keys m.entries

def get? (m : OrderedMap α) (key : Text) : Option α :=
  m.entries.lookup key

def put (m : OrderedMap α) (key : Text) (value : α) : OrderedMap α :=
  ⟨Entries.put key value m.entries, Entries.nodup_put m.distinct⟩

/-- Keeps the entries whose key passes. -/
def filterKeys (m : OrderedMap α) (keep : Text → Bool) : OrderedMap α :=
  ⟨m.entries.filter fun e => keep e.1,
    m.distinct.sublist (List.Sublist.map _ List.filter_sublist)⟩

def erase (m : OrderedMap α) (key : Text) : OrderedMap α :=
  m.filterKeys fun k => k ≠ key

/-- Changes values in place. -/
def mapEntries (m : OrderedMap α) (f : Text → α → α) : OrderedMap α :=
  ⟨m.entries.map fun e => (e.1, f e.1 e.2), by
    have h := m.distinct
    simp only [Entries.keys] at h
    simp only [Entries.keys, List.map_map]
    exact h⟩

def isEmpty (m : OrderedMap α) : Bool :=
  m.entries.isEmpty

theorem ext_entries {m n : OrderedMap α} (h : m.entries = n.entries) : m = n := by
  cases m
  cases n
  cases h
  rfl

instance [DecidableEq α] : DecidableEq (OrderedMap α) := fun m n =>
  decidable_of_iff (m.entries = n.entries) ⟨ext_entries, fun h => h ▸ rfl⟩

theorem keys_filterKeys (m : OrderedMap α) (keep : Text → Bool) :
    (m.filterKeys keep).keys = m.keys.filter keep := by
  simp only [keys, filterKeys, Entries.keys, List.filter_map]
  rfl

theorem keys_mapEntries (m : OrderedMap α) (f : Text → α → α) :
    (m.mapEntries f).keys = m.keys := by
  simp only [keys, mapEntries, Entries.keys, List.map_map]
  rfl

theorem get?_mapEntries (m : OrderedMap α) (f : Text → α → α) (key : Text) :
    (m.mapEntries f).get? key = (m.get? key).map (f key) := by
  simp only [get?, mapEntries]
  induction m.entries with
  | nil => rfl
  | cons e rest ih =>
    rw [List.map_cons, Entries.lookup_cons_eq, ih, Entries.lookup_cons_eq key e.1 e.2]
    by_cases h : key = e.1
    · rw [if_pos h, if_pos h, h, Option.map_some]
    · rw [if_neg h, if_neg h]

theorem get?_filterKeys (m : OrderedMap α) (keep : Text → Bool) (key : Text) :
    (m.filterKeys keep).get? key = if keep key then m.get? key else none := by
  simp only [get?, filterKeys]
  induction m.entries with
  | nil => cases keep key <;> rfl
  | cons e rest ih =>
    rw [List.filter_cons, Entries.lookup_cons_eq key e.1 e.2]
    by_cases h : key = e.1
    · subst h
      by_cases hk : keep e.1 = true
      · rw [if_pos hk, if_pos hk, if_pos rfl, Entries.lookup_cons_eq, if_pos rfl]
      · rw [if_neg hk, ih, if_neg hk, if_neg hk]
    · by_cases hk : keep e.1 = true
      · rw [if_pos hk, Entries.lookup_cons_eq, if_neg h, ih, if_neg h]
      · rw [if_neg hk, ih, if_neg h]

end OrderedMap

end ManifestEdit
