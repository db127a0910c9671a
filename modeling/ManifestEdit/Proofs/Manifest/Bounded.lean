import ManifestEdit.Proofs.Manifest.Durable
import ManifestEdit.Proofs.Shape.Bounded

/-!
# Manifests within the bounds of the machine

A manifest is bounded when none of its fields and other keys is nested too deep to be written. One
that was read from a value within the bound is bounded, and one that is durable and bounded is
rendered. The bound on levels is one thing and that on integers another, so what is asked of the
numbers is a parameter.
-/

namespace ManifestEdit

open Shape

variable {p : Number → Bool}

/-! ## Documents -/

/-- A document that may stand within a record. -/
structure Document.Bounded (p : Number → Bool) (d : Document) : Prop where
  shallow : d.isShallow = true
  within : d.toJson.isWithin p Machine.encodable = true

theorem Shape.bounded_of_read {s : Shape} {j : Json} {d : Document} (h : s.read j = .ok d)
    (hwithin : j.isWithin p Machine.encodable = true) : d.Bounded p :=
  ⟨isShallow_of_read h (Json.depth_le_of_isWithin hwithin),
    isWithin_toJson h hwithin⟩

/-- A dependency map has two levels. -/
theorem Links.bounded_toDocument (l : Links) : l.toDocument.Bounded p where
  shallow := by
    rw [toDocument, Document.isShallow, Document.entriesAreShallow_iff, List.forall_mem_map]
    exact fun e _ => rfl
  within := by
    rw [toDocument, Document.toJson, Document.wholeKeys, Document.entriesToJson_eq_map]
    refine Json.isWithin_mono (by decide : 1 + 1 ≤ Machine.encodable) (Json.isWithin_obj.2 ?_)
    intro e he
    obtain ⟨o, ho, rfl⟩ := List.mem_map.1 (Entries.mem_ofPairs he)
    obtain ⟨c, hc, rfl⟩ := List.mem_map.1 ho
    obtain ⟨i, -, rfl⟩ := List.mem_map.1 hc
    rfl

namespace Manifest

variable {m n : Manifest}

/-! ## Bounded manifests -/

structure Bounded (p : Number → Bool) (m : Manifest) : Prop where
  field : ∀ f ∈ Schema.manifest.fields, ∀ d, m.field? f.1.key = some d → d.Bounded p
  unknown : ∀ u ∈ m.unknown, u.value.finiteOnly.isWithin p Machine.encodable = true

theorem mem_fields_toRecord_iff {e : Text × Document} :
    e ∈ m.toRecord.fields ↔
      ∃ f ∈ Schema.manifest.fields, f.1.key = e.1 ∧ m.field? f.1.key = some e.2 := by
  rw [toRecord, Schema.declared, List.filterMap_map, List.mem_filterMap]
  refine exists_congr fun f => and_congr_right fun _ => ?_
  rw [Function.comp_apply, Option.map_eq_some_iff]
  constructor
  · rintro ⟨d, hd, rfl⟩
    exact ⟨rfl, hd⟩
  · rintro ⟨hkey, hd⟩
    exact ⟨e.2, hd, by rw [hkey]⟩

namespace Bounded

theorem isWithin_written (h : m.Bounded p) {e : Text × Json} (he : e ∈ m.written) :
    e.2.isWithin p Machine.encodable = true := by
  rcases mem_written_iff.1 he with ⟨f, hf, -, hj⟩ | hunknown
  · obtain ⟨d, hd, hwrites, -⟩ := json?_eq_some_iff.1 hj
    rw [← hwrites]
    exact (h.field f hf d hd).within
  · obtain ⟨u, hu, hentry⟩ := List.mem_filterMap.1 hunknown
    rw [Unknown.eq_of_entry? hentry]
    exact h.unknown u hu

/-- A bounded manifest writes a value within the bound. -/
theorem isWithin_toJson (h : m.Bounded p) :
    m.toRecord.toDocument.toJson.isWithin p (Machine.encodable + 1) = true := by
  rw [toJson_toRecord]
  exact Json.isWithin_obj.2 fun e he => h.isWithin_written (mem_of_mem_arrange he)

theorem isShallow (h : m.Bounded p) : m.toRecord.toDocument.isShallow = true := by
  refine Document.isShallow_record.2 ⟨fun e he => ?_, fun u hu => ?_,
    Json.depth_le_of_isWithin h.isWithin_toJson⟩
  · obtain ⟨f, hf, -, hd⟩ := mem_fields_toRecord_iff.1 he
    exact (h.field f hf e.2 hd).shallow
  · rw [← Json.depth_finiteOnly]
    exact Json.depth_le_of_isWithin (h.unknown u hu)

theorem fault? (h : m.Bounded p) (hkeys : m.toRecord.toDocument.hasWholeKeys = true) :
    m.toRecord.toDocument.fault? = none :=
  Document.fault?_eq_none_iff.2 ⟨hkeys, h.isShallow⟩

end Bounded

/-- A manifest that can be written is bounded. -/
theorem Separate.bounded (h : m.Separate) (hshallow : m.toRecord.toDocument.isShallow = true)
    (hwithin : m.toRecord.toDocument.toJson.isWithin p (Machine.encodable + 1) = true) :
    m.Bounded p := by
  obtain ⟨hfields, -, -⟩ := Document.isShallow_record.1 hshallow
  rw [toJson_toRecord, Json.isWithin_obj] at hwithin
  have hwritten : ∀ e ∈ m.written, e.2.isWithin p Machine.encodable = true := fun e he =>
    hwithin e ((mem_arrange_iff h.nodup_keys_written).2 he)
  constructor
  · intro f hf d hd
    refine ⟨hfields (f.1.key, d) (mem_fields_toRecord_iff.2 ⟨f, hf, rfl, hd⟩), ?_⟩
    cases hnull : d.toJson.isNull with
    | true =>
      rw [Json.eq_null_of_isNull hnull]
      rfl
    | false =>
      have hj : m.json? f.1.key = some d.toJson := json?_eq_some_iff.2 ⟨d, hd, rfl, hnull⟩
      exact hwritten (f.1.key, d.toJson) (mem_written_iff.2 (.inl ⟨f, hf, rfl, hj⟩))
  · intro u hu
    cases hentry : u.entry? with
    | none =>
      rw [Unknown.finiteOnly_of_not_entry? hentry]
      rfl
    | some e =>
      have hmem : e ∈ m.written := mem_written_iff.2 (.inr (List.mem_filterMap.2 ⟨u, hu, hentry⟩))
      have hvalue := hwritten e hmem
      rw [Unknown.eq_of_entry? hentry] at hvalue
      exact hvalue

/-! ## Manifests that were read -/

theorem bounded_ofRecord {data : Json} {r : Record} (hplain : data.Plain)
    (h : Schema.manifest.shape.read data = .ok r.toDocument)
    (hwithin : data.isWithin p (Machine.encodable + 1) = true) : (ofRecord r).Bounded p := by
  obtain ⟨entries, rfl, -, hunknown, -⟩ := Schema.parts_of_read h
  rw [Json.isWithin_obj] at hwithin
  constructor
  · intro f hf d hd
    rw [field?_ofRecord hplain h] at hd
    obtain ⟨e, he, hread⟩ := Schema.exists_entry_of_field? Schema.isRegular_manifest h hf hd
    exact bounded_of_read hread (hwithin e he)
  · intro u hu
    rw [ofRecord, hunknown] at hu
    obtain ⟨e, he, rfl⟩ := List.mem_map.1 hu
    exact Json.isWithin_finiteOnly (hwithin e (List.mem_filter.1 he).1)

/-! ## Manifests that are rendered -/

/-- A durable manifest within the bounds of the machine. -/
structure Storable [Machine] (m : Manifest) : Prop where
  durable : m.Durable
  bounded : m.Bounded Number.fits

variable [Machine]

theorem Storable.fault? (h : m.Storable) : m.toRecord.toDocument.fault? = none :=
  h.bounded.fault? h.durable.writable

theorem storable_of_read {data : Json} {r : Record} (hclean : Clean Schema.manifest.shape data)
    (hdepth : data.depth ≤ Machine.encodable + 1) (hfits : data.fits = true)
    (h : Schema.manifest.shape.read data = .ok r.toDocument) : (ofRecord r).Storable :=
  ⟨durable_ofRecord hclean h,
    bounded_ofRecord hclean.toPlain h (Json.isWithin_fits_iff.2 ⟨hdepth, hfits⟩)⟩

/-- A durable manifest that has a text is storable. -/
theorem Durable.storable_of_render (h : m.Durable) {indent : Int} {text : Text}
    (hrender : m.render indent = .ok text) : m.Storable := by
  obtain ⟨width, -, hfault, hfits, -⟩ := Record.of_render hrender
  have hshallow := (Document.fault?_eq_none_iff.1 hfault).2
  exact ⟨h, h.separate.bounded hshallow
    (Json.isWithin_fits_iff.2 ⟨(Document.isShallow_record.1 hshallow).2.2, hfits⟩)⟩

end Manifest

end ManifestEdit
