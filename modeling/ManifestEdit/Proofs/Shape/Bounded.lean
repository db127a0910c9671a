import ManifestEdit.Proofs.Document.Faults
import ManifestEdit.Proofs.Shape.Writable

/-!
# Levels of what is read and written

What a document writes is nested no deeper than the value from which it was read, and its numbers
are among those of that value. So a record that was read from a value within the bound can be
written, and what it writes fits where the value did.
-/

namespace ManifestEdit

namespace Shape

/-! ## What is written -/

section Written

variable {p : Number → Bool}

theorem isWithin_toJson_of_record {fields : List (DeclaredField × Shape)}
    {entries : List (Text × Json)} {levels : Nat}
    (ih : ∀ f ∈ fields, ∀ j d, f.2.read j = .ok d → j.isWithin p levels = true →
      d.toJson.isWithin p levels = true)
    (h : (Json.obj entries).isWithin p (levels + 1) = true) :
    (Document.record (fieldsRead fields entries) (unknownOf (fields.map Prod.fst) entries)
      (orderOf (fields.map Prod.fst) entries)).toJson.isWithin p (levels + 1) = true := by
  rw [Json.isWithin_obj] at h
  rw [toJson_record_eq, Json.isWithin_obj]
  intro e he
  rcases WritableEntries.of_mem_parts (mem_parts_of_written he) with
    ⟨f, hf, c, hread, rfl, -⟩ | ⟨o, ho, rfl, -⟩
  · obtain ⟨key, value, hfind, -, -, hvalue⟩ := of_fieldRead? hread
    exact ih f hf value c hvalue (h _ (mem_of_find? hfind))
  · exact Json.isWithin_finiteOnly (h o (List.mem_filter.1 ho).1)

/-- What a document writes is within the bounds of the value from which it was read. -/
theorem isWithin_toJson {s : Shape} {j : Json} {d : Document} {levels : Nat}
    (h : s.read j = .ok d) (hwithin : j.isWithin p levels = true) :
    d.toJson.isWithin p levels = true := by
  induction h using read_induct generalizing levels with
  | scalar s j d h hs =>
    rw [(kept_scalar hs h).writes]
    exact hwithin
  | anything j => exact Json.isWithin_finiteOnly hwithin
  | off j h =>
    cases levels with
    | zero => cases (Json.not_isWithin_zero p j).symm.trans hwithin
    | succ levels => rfl
  | list item items ds h ih =>
    cases levels with
    | zero => cases (Json.not_isWithin_zero p _).symm.trans hwithin
    | succ levels =>
      rw [Json.isWithin_arr] at hwithin
      rw [Document.toJson, Document.itemsToJson_eq_map, Json.isWithin_arr, List.forall_mem_map]
      intro c hc
      obtain ⟨i, hi, -, hpart⟩ := ih c hc
      exact hpart (hwithin i hi)
  | map value entries ds h ih =>
    cases levels with
    | zero => cases (Json.not_isWithin_zero p _).symm.trans hwithin
    | succ levels =>
      rw [Json.isWithin_obj] at hwithin
      rw [Document.toJson, Document.wholeKeys, Document.entriesToJson_eq_map, Json.isWithin_obj]
      intro e he
      obtain ⟨o, ho, rfl⟩ := List.mem_map.1 (Entries.mem_ofPairs he)
      obtain ⟨c, hc, rfl⟩ := List.mem_map.1 ho
      obtain ⟨i, hi, -, hpart⟩ := ih c.2 (List.of_mem_zip hc).2
      exact hpart (hwithin i hi)
  | oneOf members m j d h hm hread hpart => exact hpart hwithin
  | record name closed fields entries d h ih =>
    obtain ⟨-, -, -, rfl⟩ := read_record_eq_ok_iff.1 h
    cases levels with
    | zero => cases (Json.not_isWithin_zero p _).symm.trans hwithin
    | succ levels =>
      exact isWithin_toJson_of_record (fun f hf j c hread => ih f hf j c hread) hwithin

theorem depth_toJson_le {s : Shape} {j : Json} {d : Document} (h : s.read j = .ok d) :
    d.toJson.depth ≤ j.depth :=
  Json.isWithin_true_iff.1 (isWithin_toJson h (Json.isWithin_true_iff.2 (Nat.le_refl _)))

theorem fits_toJson [Machine] {s : Shape} {j : Json} {d : Document} (h : s.read j = .ok d)
    (hfits : j.fits = true) : d.toJson.fits = true :=
  (Json.isWithin_fits_iff.1
    (isWithin_toJson h (Json.isWithin_fits_iff.2 ⟨Nat.le_refl _, hfits⟩))).2

end Written

/-! ## What can be written -/

/-- A record may have one level more than the values within. -/
theorem isShallow_of_record {name : String} {closed : Bool}
    {fields : List (DeclaredField × Shape)}
    (ih : ∀ f ∈ fields, ∀ j d, f.2.read j = .ok d → j.depth ≤ Machine.encodable →
      d.isShallow = true)
    {j : Json} {d : Document} (h : (record name closed fields).read j = .ok d)
    (hdepth : j.depth ≤ Machine.encodable + 1) : d.isShallow = true := by
  have hwritten := Nat.le_trans (depth_toJson_le h) hdepth
  obtain ⟨entries, rfl⟩ := read_record h
  obtain ⟨-, -, -, rfl⟩ := read_record_eq_ok_iff.1 h
  rw [Json.depth_obj_le_iff] at hdepth
  refine Document.isShallow_record.2 ⟨fun e he => ?_, List.forall_mem_map.2 fun o ho => ?_,
    hwritten⟩
  · obtain ⟨f, hf, hread⟩ := List.mem_filterMap.1 he
    obtain ⟨key, value, hfind, -, -, hvalue⟩ := of_fieldRead? hread
    exact ih f hf value e.2 hvalue (hdepth _ (mem_of_find? hfind))
  · exact hdepth o (List.mem_filter.1 ho).1

theorem isShallow_of_read {s : Shape} {j : Json} {d : Document} (h : s.read j = .ok d)
    (hdepth : j.depth ≤ Machine.encodable) : d.isShallow = true := by
  induction h using read_induct with
  | scalar s j d h hs =>
    obtain ⟨rfl, -, -⟩ := read_scalar hs h
    exact decide_eq_true hdepth
  | anything j => exact decide_eq_true hdepth
  | off j h => rfl
  | list item items ds h ih =>
    rw [Document.isShallow, Document.itemsAreShallow_iff]
    intro c hc
    obtain ⟨i, hi, -, hpart⟩ := ih c hc
    exact hpart (Json.depth_arr_le_iff.1 (Nat.le_succ_of_le hdepth) i hi)
  | map value entries ds h ih =>
    rw [Document.isShallow, Document.entriesAreShallow_iff]
    intro c hc
    obtain ⟨e, he, -, hpart⟩ := ih c.2 (List.of_mem_zip hc).2
    exact hpart (Json.depth_obj_le_iff.1 (Nat.le_succ_of_le hdepth) e he)
  | oneOf members m j d h hm hread hpart => exact hpart hdepth
  | record name closed fields entries d h ih =>
    exact isShallow_of_record ih h (Nat.le_succ_of_le hdepth)

end Shape

namespace Schema

theorem isShallow_of_read {s : Schema} {data : Json} {d : Document}
    (h : s.shape.read data = .ok d) (hdepth : data.depth ≤ Machine.encodable + 1) :
    d.isShallow = true :=
  Shape.isShallow_of_record (fun _ _ _ _ => Shape.isShallow_of_read) h hdepth

/-- A record that was read from a value within the bound, in which every key has bytes, can be
written. -/
theorem fault?_of_read {s : Schema} {data : Json} {d : Document} (h : s.shape.read data = .ok d)
    (hwhole : data.hasWholeKeys = true) (hdepth : data.depth ≤ Machine.encodable + 1) :
    d.fault? = none :=
  Document.fault?_eq_none_iff.2
    ⟨Shape.hasWholeKeys_of_read h hwhole, isShallow_of_read h hdepth⟩

end Schema

end ManifestEdit
