import ManifestEdit.Proofs.Shape.Rewritten

/-!
# Keys of what is read and written

A document that was read from a value in which every key has bytes can be written, and every key of
what it then writes has bytes. The second holds whatever the document was read from: the keys of a
map are repaired, those of a record are whole where it was read, and all others are asked for by the
document. Where no object read holds a key twice, none that is written does.
-/

namespace ManifestEdit

namespace Shape

section Record

variable {fields : List (DeclaredField × Shape)} {entries : List (Text × Json)}

theorem hasWholeKeys_record_eq_none_iff {order : List Text} :
    (Document.record (fieldsRead fields entries) (unknownOf (fields.map Prod.fst) entries)
      order).hasWholeKeys = true ↔
        (∀ f ∈ fields, ∀ e, fieldRead? entries f = some e → e.2.hasWholeKeys = true) ∧
          ∀ o ∈ undeclared (fields.map Prod.fst) entries, o.2.hasWholeKeys = true := by
  rw [Document.hasWholeKeys_record]
  refine and_congr ⟨?_, ?_⟩ List.forall_mem_map
  · exact fun h f hf e he => h e (List.mem_filterMap.2 ⟨f, hf, he⟩)
  · intro h e he
    obtain ⟨f, hf, hread⟩ := List.mem_filterMap.1 he
    exact h f hf e hread

/-- An entry written by a record comes from a field or from a key that is not declared. -/
theorem mem_parts_of_written {e : Text × Json}
    (he : e ∈ remembered fields entries ++ forgotten fields entries) :
    e ∈ parts fields entries := by
  rcases List.mem_append.1 he with he | he
  · exact (WritableEntries.of_mem_remembered he).1
  · exact (List.mem_filter.1 he).1

/-- A record writes no key twice. -/
theorem nodup_keys_parts (hapart : Apart fields) (hnodup : (Entries.keys entries).Nodup) :
    (Entries.keys (parts fields entries)).Nodup := by
  have hkeys : (unknownOf (fields.map Prod.fst) entries).map Unknown.key =
      Entries.keys (undeclared (fields.map Prod.fst) entries) := by
    rw [unknownOf, List.map_map]
    rfl
  have hunknown : ((unknownOf (fields.map Prod.fst) entries).map Unknown.key).Nodup := by
    rw [hkeys]
    exact (List.filter_sublist.map Prod.fst).nodup hnodup
  refine nodup_keys_append hapart (keys_filter_fieldsRead_sublist fields entries _)
    ((keys_filterMap_entry?_sublist _).nodup hunknown) ?_
  intro e he f hf hkey
  obtain ⟨u, hu, hentry⟩ := List.mem_filterMap.1 he
  obtain ⟨o, ho, rfl⟩ := List.mem_map.1 hu
  have hsame : f.1.key = o.1 := hkey.trans (Unknown.key_of_entry? hentry)
  exact (key_of_undeclared ho hf (isNamed_iff.2 (.inl hsame))).1 hsame

end Record

/-! ## What is read can be written -/

theorem hasWholeKeys_of_read {s : Shape} {j : Json} {d : Document} (h : s.read j = .ok d)
    (hwhole : j.hasWholeKeys = true) : d.hasWholeKeys = true := by
  induction h using read_induct with
  | scalar s j d h hs => exact (kept_scalar hs h).writable
  | anything j => exact hwhole
  | off j h => rfl
  | list item items ds h ih =>
    rw [Json.hasWholeKeys_arr] at hwhole
    rw [Document.hasWholeKeys, Document.itemsHaveWholeKeys_iff]
    intro c hc
    obtain ⟨i, hi, -, hpart⟩ := ih c hc
    exact hpart (hwhole i hi)
  | map value entries ds h ih =>
    rw [Json.hasWholeKeys_obj] at hwhole
    rw [Document.hasWholeKeys, Document.entriesHaveWholeKeys_iff]
    intro c hc
    obtain ⟨e, he, -, hpart⟩ := ih c.2 (List.of_mem_zip hc).2
    exact hpart (hwhole e he).2
  | oneOf members m j d h hm hread hpart => exact hpart hwhole
  | record name closed fields entries d h ih =>
    obtain ⟨-, -, -, rfl⟩ := read_record_eq_ok_iff.1 h
    rw [Json.hasWholeKeys_obj] at hwhole
    refine hasWholeKeys_record_eq_none_iff.2 ⟨fun f hf e he => ?_, fun o ho => ?_⟩
    · obtain ⟨name, value, hfind, -, -, hread⟩ := of_fieldRead? he
      exact ih f hf value e.2 hread (hwhole _ (mem_of_find? hfind)).2
    · exact (hwhole o (List.mem_filter.1 ho).1).2

/-! ## What is written has whole keys -/

theorem hasWholeKeys_toJson_of_record {name : String} {closed : Bool}
    {fields : List (DeclaredField × Shape)} {entries : List (Text × Json)}
    (hregular : (record name closed fields).isRegular = true)
    (ih : ∀ f ∈ fields, ∀ j d, f.2.read j = .ok d → d.hasWholeKeys = true →
      d.toJson.hasWholeKeys = true)
    {d : Document} (h : (record name closed fields).read (.obj entries) = .ok d)
    (hwritable : d.hasWholeKeys = true) : d.toJson.hasWholeKeys = true := by
  obtain ⟨hwhole, -, -, rfl⟩ := read_record_eq_ok_iff.1 h
  obtain ⟨hfields, hunknown⟩ := hasWholeKeys_record_eq_none_iff.1 hwritable
  rw [← fieldsRead, toJson_record_eq, Json.hasWholeKeys_obj]
  intro e he
  rcases WritableEntries.of_mem_parts (mem_parts_of_written he) with
    ⟨f, hf, c, hread, rfl, -⟩ | ⟨o, ho, rfl, -⟩
  · have hsound := (sound_of_regular hregular).sound f hf
    obtain ⟨-, value, -, -, -, hvalue⟩ := of_fieldRead? hread
    exact ⟨isWhole_of_isSound hsound, ih f hf value c hvalue (hfields f hf _ hread)⟩
  · refine ⟨hwhole o (List.mem_filter.1 ho).1, ?_⟩
    rw [Json.hasWholeKeys_finiteOnly]
    exact hunknown o ho

theorem hasWholeKeys_toJson {s : Shape} {j : Json} {d : Document} (hregular : s.isRegular = true)
    (h : s.read j = .ok d) (hwritable : d.hasWholeKeys = true) :
    d.toJson.hasWholeKeys = true := by
  induction h using read_induct with
  | scalar s j d h hs =>
    rw [(kept_scalar hs h).writes]
    exact (read_scalar hs h).2.1.whole
  | anything j => exact (Json.hasWholeKeys_finiteOnly j).trans hwritable
  | off j h => rfl
  | list item items ds h ih =>
    rw [Document.hasWholeKeys, Document.itemsHaveWholeKeys_iff] at hwritable
    rw [Document.toJson, Document.itemsToJson_eq_map, Json.hasWholeKeys_arr, List.forall_mem_map]
    intro c hc
    obtain ⟨i, -, -, hpart⟩ := ih c hc
    exact hpart hregular (hwritable c hc)
  | map value entries ds h ih =>
    rw [Document.hasWholeKeys, Document.entriesHaveWholeKeys_iff] at hwritable
    rw [Document.toJson, Document.wholeKeys, Document.entriesToJson_eq_map, Json.hasWholeKeys_obj]
    intro e he
    obtain ⟨o, ho, rfl⟩ := List.mem_map.1 (Entries.mem_ofPairs he)
    obtain ⟨c, hc, rfl⟩ := List.mem_map.1 ho
    obtain ⟨i, -, -, hpart⟩ := ih c.2 (List.of_mem_zip hc).2
    exact ⟨Text.isWhole_ofString _, hpart hregular (hwritable c hc)⟩
  | oneOf members m j d h hm hread hpart =>
    exact hpart ((areRegular_iff.1 hregular).1 m hm) hwritable
  | record name closed fields entries d h ih =>
    have hfields := hregular
    rw [isRegular, Bool.and_eq_true, fieldsRegular_iff] at hfields
    exact hasWholeKeys_toJson_of_record hregular
      (fun f hf j c hread => ih f hf j c hread (hfields.2 f hf).1) h hwritable

/-! ## What is written holds no key twice -/

theorem isDistinct_toJson_of_record {name : String} {closed : Bool}
    {fields : List (DeclaredField × Shape)} {entries : List (Text × Json)}
    (hregular : (record name closed fields).isRegular = true)
    (ih : ∀ f ∈ fields, ∀ j d, f.2.read j = .ok d → j.isDistinct = true →
      d.toJson.isDistinct = true)
    {d : Document} (h : (record name closed fields).read (.obj entries) = .ok d)
    (hdistinct : (Json.obj entries).isDistinct = true) : d.toJson.isDistinct = true := by
  obtain ⟨-, -, -, rfl⟩ := read_record_eq_ok_iff.1 h
  obtain ⟨hnodup, hvalues⟩ := Json.isDistinct_obj.1 hdistinct
  rw [← fieldsRead, toJson_record_eq, Json.isDistinct_obj]
  refine ⟨nodup_keys_arrange _ (nodup_keys_parts (sound_of_regular hregular).apart hnodup), ?_⟩
  intro e he
  rcases WritableEntries.of_mem_parts (mem_parts_of_written he) with
    ⟨f, hf, c, hread, rfl, -⟩ | ⟨o, ho, rfl, -⟩
  · obtain ⟨key, value, hfind, -, -, hvalue⟩ := of_fieldRead? hread
    exact ih f hf value c hvalue (hvalues _ (mem_of_find? hfind))
  · exact Json.isDistinct_finiteOnly (hvalues o (List.mem_filter.1 ho).1)

theorem isDistinct_toJson {s : Shape} {j : Json} {d : Document} (hregular : s.isRegular = true)
    (h : s.read j = .ok d) (hdistinct : j.isDistinct = true) : d.toJson.isDistinct = true := by
  induction h using read_induct with
  | scalar s j d h hs =>
    rw [(kept_scalar hs h).writes]
    exact hdistinct
  | anything j => exact Json.isDistinct_finiteOnly hdistinct
  | off j h => rfl
  | list item items ds h ih =>
    rw [Json.isDistinct_arr] at hdistinct
    rw [Document.toJson, Document.itemsToJson_eq_map, Json.isDistinct_arr, List.forall_mem_map]
    intro c hc
    obtain ⟨i, hi, -, hpart⟩ := ih c hc
    exact hpart hregular (hdistinct i hi)
  | map value entries ds h ih =>
    rw [Json.isDistinct_obj] at hdistinct
    rw [Document.toJson, Document.wholeKeys, Document.entriesToJson_eq_map, Json.isDistinct_obj]
    refine ⟨Entries.nodup_ofPairs _, fun e he => ?_⟩
    obtain ⟨o, ho, rfl⟩ := List.mem_map.1 (Entries.mem_ofPairs he)
    obtain ⟨c, hc, rfl⟩ := List.mem_map.1 ho
    obtain ⟨i, hi, -, hpart⟩ := ih c.2 (List.of_mem_zip hc).2
    exact hpart hregular (hdistinct.2 i hi)
  | oneOf members m j d h hm hread hpart =>
    exact hpart ((areRegular_iff.1 hregular).1 m hm) hdistinct
  | record name closed fields entries d h ih =>
    have hfields := hregular
    rw [isRegular, Bool.and_eq_true, fieldsRegular_iff] at hfields
    exact isDistinct_toJson_of_record hregular
      (fun f hf j c hread => ih f hf j c hread (hfields.2 f hf).1) h hdistinct

end Shape

end ManifestEdit
