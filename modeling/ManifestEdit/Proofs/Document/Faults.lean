import ManifestEdit.Document
import ManifestEdit.Proofs.Json.Bounds

/-!
# Documents that can be written

A document can be written exactly where all keys that no shape describes have bytes and nothing in
it is nested too deep (`fault?_eq_none_iff`). The two are independent: `hasWholeKeys` looks at the
keys and `isShallow` at the levels.
-/

namespace ManifestEdit

namespace Document

def unknownHasWholeKeys (unknown : List Unknown) : Bool :=
  unknown.all fun u => u.value.hasWholeKeys

mutual

/-- Whether every key within a value that no shape describes has bytes. -/
def hasWholeKeys : Document → Bool
  | leaf value => value.hasWholeKeys
  | list items => itemsHaveWholeKeys items
  | map entries => entriesHaveWholeKeys entries
  | choice value => value.hasWholeKeys
  | record fields unknown _ => entriesHaveWholeKeys fields && unknownHasWholeKeys unknown

def itemsHaveWholeKeys : List Document → Bool
  | [] => true
  | d :: rest => d.hasWholeKeys && itemsHaveWholeKeys rest

def entriesHaveWholeKeys : List (Text × Document) → Bool
  | [] => true
  | (_, d) :: rest => d.hasWholeKeys && entriesHaveWholeKeys rest

end

def unknownIsShallow (unknown : List Unknown) : Bool :=
  unknown.all fun u => u.value.depth ≤ Machine.encodable

mutual

/-- Whether nothing that no shape describes and nothing that a record writes is nested too
deep. -/
def isShallow : Document → Bool
  | leaf value => value.depth ≤ Machine.encodable
  | list items => itemsAreShallow items
  | map entries => entriesAreShallow entries
  | choice value => value.isShallow
  | record fields unknown order =>
    entriesAreShallow fields && unknownIsShallow unknown &&
      (record fields unknown order).toJson.depth ≤ Machine.encodable + 1

def itemsAreShallow : List Document → Bool
  | [] => true
  | d :: rest => d.isShallow && itemsAreShallow rest

def entriesAreShallow : List (Text × Document) → Bool
  | [] => true
  | (_, d) :: rest => d.isShallow && entriesAreShallow rest

end

/-! ## Parts -/

theorem itemsHaveWholeKeys_iff {items : List Document} :
    itemsHaveWholeKeys items = true ↔ ∀ d ∈ items, d.hasWholeKeys = true := by
  induction items with
  | nil => simp [itemsHaveWholeKeys]
  | cons d rest ih => rw [itemsHaveWholeKeys, Bool.and_eq_true, ih, List.forall_mem_cons]

theorem entriesHaveWholeKeys_iff {entries : List (Text × Document)} :
    entriesHaveWholeKeys entries = true ↔ ∀ e ∈ entries, e.2.hasWholeKeys = true := by
  induction entries with
  | nil => simp [entriesHaveWholeKeys]
  | cons e rest ih => rw [entriesHaveWholeKeys, Bool.and_eq_true, ih, List.forall_mem_cons]

theorem unknownHasWholeKeys_iff {unknown : List Unknown} :
    unknownHasWholeKeys unknown = true ↔ ∀ u ∈ unknown, u.value.hasWholeKeys = true := by
  rw [unknownHasWholeKeys, List.all_eq_true]

theorem itemsAreShallow_iff {items : List Document} :
    itemsAreShallow items = true ↔ ∀ d ∈ items, d.isShallow = true := by
  induction items with
  | nil => simp [itemsAreShallow]
  | cons d rest ih => rw [itemsAreShallow, Bool.and_eq_true, ih, List.forall_mem_cons]

theorem entriesAreShallow_iff {entries : List (Text × Document)} :
    entriesAreShallow entries = true ↔ ∀ e ∈ entries, e.2.isShallow = true := by
  induction entries with
  | nil => simp [entriesAreShallow]
  | cons e rest ih => rw [entriesAreShallow, Bool.and_eq_true, ih, List.forall_mem_cons]

theorem unknownIsShallow_iff {unknown : List Unknown} :
    unknownIsShallow unknown = true ↔ ∀ u ∈ unknown, u.value.depth ≤ Machine.encodable := by
  simp [unknownIsShallow]

theorem hasWholeKeys_record {fields : List (Text × Document)} {unknown : List Unknown}
    {order : List Text} :
    (record fields unknown order).hasWholeKeys = true ↔
      (∀ e ∈ fields, e.2.hasWholeKeys = true) ∧
        ∀ u ∈ unknown, u.value.hasWholeKeys = true := by
  rw [hasWholeKeys, Bool.and_eq_true, entriesHaveWholeKeys_iff, unknownHasWholeKeys_iff]

theorem isShallow_record {fields : List (Text × Document)} {unknown : List Unknown}
    {order : List Text} :
    (record fields unknown order).isShallow = true ↔
      (∀ e ∈ fields, e.2.isShallow = true) ∧
        (∀ u ∈ unknown, u.value.depth ≤ Machine.encodable) ∧
          (record fields unknown order).toJson.depth ≤ Machine.encodable + 1 := by
  rw [isShallow, Bool.and_eq_true, Bool.and_eq_true, entriesAreShallow_iff, unknownIsShallow_iff,
    decide_eq_true_iff, and_assoc]

/-! ## Faults -/

theorem faultOfEntries?_eq_findSome? (entries : List (Text × Document)) :
    faultOfEntries? entries = entries.findSome? fun e => e.2.fault? := by
  induction entries with
  | nil => rfl
  | cons e rest ih =>
    rw [faultOfEntries?, ih, List.findSome?_cons]
    cases e.2.fault? <;> rfl

theorem faultOfItems?_eq_findSome? (items : List Document) :
    faultOfItems? items = items.findSome? fault? := by
  induction items with
  | nil => rfl
  | cons d rest ih =>
    rw [faultOfItems?, ih, List.findSome?_cons]
    cases d.fault? <;> rfl

mutual

/-- What has no fault as a value without a shape has none by its shape. -/
theorem fault?_of_anyFault? : ∀ {d : Document}, d.anyFault? = none → d.fault? = none
  | leaf _, h => h
  | list items, h => by
    rw [anyFault?] at h
    exact faultOfItems?_of_any h
  | map entries, h => by
    rw [anyFault?] at h
    exact faultOfEntries?_of_any h
  | choice value, h => by
    rw [anyFault?] at h
    rw [fault?, fault?_of_anyFault? h, Option.bind_none]
  | record _ _ _, h => h

theorem faultOfItems?_of_any : ∀ {items : List Document},
    anyFaultOfItems? items = none → faultOfItems? items = none
  | [], _ => rfl
  | d :: rest, h => by
    rw [anyFaultOfItems?, Option.or_eq_none_iff] at h
    rw [faultOfItems?, fault?_of_anyFault? h.1, faultOfItems?_of_any h.2, Option.or_none]

theorem faultOfEntries?_of_any : ∀ {entries : List (Text × Document)},
    anyFaultOfEntries? entries = none → faultOfEntries? entries = none
  | [], _ => rfl
  | (_, d) :: rest, h => by
    rw [anyFaultOfEntries?, Option.or_eq_none_iff, Option.or_eq_none_iff] at h
    rw [faultOfEntries?, fault?_of_anyFault? h.2.1, faultOfEntries?_of_any h.2.2, Option.or_none]

end

/-- A choice is written where the shape that was chosen can write it. -/
theorem fault?_choice {value : Document} : (choice value).fault? = none ↔ value.fault? = none := by
  rw [fault?]
  constructor
  · intro h
    cases hfault : value.fault? with
    | none => rfl
    | some fault =>
      rw [hfault, Option.bind_some] at h
      rw [fault?_of_anyFault? h] at hfault
      cases hfault
  · intro h
    rw [h, Option.bind_none]

theorem outputFault?_eq_none_iff {written : Json} :
    outputFault? written = none ↔ written.depth ≤ Machine.encodable + 1 := by
  rw [outputFault?]
  split
  · rename_i h
    exact ⟨fun hnone => absurd hnone (by simp), fun hle => absurd hle (Nat.not_le.2 h)⟩
  · rename_i h
    exact ⟨fun _ => Nat.not_lt.1 h, fun _ => rfl⟩

theorem fault?_record {fields : List (Text × Document)} {unknown : List Unknown}
    {order : List Text} :
    (record fields unknown order).fault? = none ↔
      (∀ e ∈ fields, e.2.fault? = none) ∧
        (∀ u ∈ unknown, u.value.encodeFault? Machine.encodable = none) ∧
          (record fields unknown order).toJson.depth ≤ Machine.encodable + 1 := by
  rw [fault?, Option.or_eq_none_iff, Option.or_eq_none_iff, Option.map_eq_none_iff,
    faultOfEntries?_eq_findSome?, List.findSome?_eq_none_iff, faultOfUnknown?,
    List.findSome?_eq_none_iff, outputFault?_eq_none_iff, and_assoc]

mutual

/-- A document can be written exactly where its keys have bytes and it is not nested too deep. -/
theorem fault?_eq_none_iff : ∀ {d : Document},
    d.fault? = none ↔ d.hasWholeKeys = true ∧ d.isShallow = true
  | leaf value => by
    rw [fault?, Json.encodeFault?_eq_none_iff, hasWholeKeys, isShallow, decide_eq_true_iff]
  | list items => by
    rw [fault?, hasWholeKeys, isShallow]
    exact faultOfItems?_eq_none_iff
  | map entries => by
    rw [fault?, hasWholeKeys, isShallow]
    exact faultOfEntries?_eq_none_iff
  | choice value => by
    rw [fault?_choice, hasWholeKeys, isShallow]
    exact fault?_eq_none_iff
  | record fields unknown order => by
    have hfields : faultOfEntries? fields = none ↔ _ := faultOfEntries?_eq_none_iff
    rw [faultOfEntries?_eq_findSome?, List.findSome?_eq_none_iff, entriesHaveWholeKeys_iff,
      entriesAreShallow_iff] at hfields
    rw [fault?_record, hasWholeKeys_record, isShallow_record, hfields]
    simp only [Json.encodeFault?_eq_none_iff, forall_and]
    constructor
    · rintro ⟨⟨hkeys, hshallow⟩, ⟨hwhole, hdepth⟩, houtput⟩
      exact ⟨⟨hkeys, hwhole⟩, hshallow, hdepth, houtput⟩
    · rintro ⟨⟨hkeys, hwhole⟩, hshallow, hdepth, houtput⟩
      exact ⟨⟨hkeys, hshallow⟩, ⟨hwhole, hdepth⟩, houtput⟩

theorem faultOfItems?_eq_none_iff : ∀ {items : List Document},
    faultOfItems? items = none ↔ itemsHaveWholeKeys items = true ∧ itemsAreShallow items = true
  | [] => by simp [faultOfItems?, itemsHaveWholeKeys, itemsAreShallow]
  | d :: rest => by
    rw [faultOfItems?, Option.or_eq_none_iff, fault?_eq_none_iff, faultOfItems?_eq_none_iff,
      itemsHaveWholeKeys, itemsAreShallow, Bool.and_eq_true, Bool.and_eq_true]
    exact and_and_and_comm

theorem faultOfEntries?_eq_none_iff : ∀ {entries : List (Text × Document)},
    faultOfEntries? entries = none ↔
      entriesHaveWholeKeys entries = true ∧ entriesAreShallow entries = true
  | [] => by simp [faultOfEntries?, entriesHaveWholeKeys, entriesAreShallow]
  | (_, d) :: rest => by
    rw [faultOfEntries?, Option.or_eq_none_iff, fault?_eq_none_iff, faultOfEntries?_eq_none_iff,
      entriesHaveWholeKeys, entriesAreShallow, Bool.and_eq_true, Bool.and_eq_true]
    exact and_and_and_comm

end

end Document

end ManifestEdit
