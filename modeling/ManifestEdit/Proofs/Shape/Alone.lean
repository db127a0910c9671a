import ManifestEdit.Proofs.Shape.Writable

/-!
# One entry of a record by itself

A key of a record stands free when it is no second spelling of a field whose key stands beside it.
An entry under such a key is read by itself as it is among the others, and what it then writes is
written by the whole record too.
-/

namespace ManifestEdit

namespace Shape

variable {fields : List (DeclaredField × Shape)} {entries : List (Text × Json)} {key : Text}
  {value : Json}

/-- The value is found under the key, and no field is read from beside it. -/
structure StandsFree (fields : List (DeclaredField × Shape)) (entries : List (Text × Json))
    (key : Text) (value : Json) : Prop where
  lookup : entries.lookup key = some value
  free : ∀ f ∈ fields, f.1.spelling = key → f.1.key ≠ key → f.1.key ∉ Entries.keys entries

theorem standsFree_alone (fields : List (DeclaredField × Shape)) (key : Text) (value : Json) :
    StandsFree fields [(key, value)] key value where
  lookup := by rw [Entries.lookup_cons_eq, if_pos rfl]
  free := fun _ _ _ hne hmem => hne (List.mem_singleton.1 hmem)

/-- By itself an entry is read as no field but the one that its key names. -/
theorem isNamed_of_find?_alone {f : DeclaredField} {name : Text} {v : Json}
    (h : f.find? [(key, value)] = some (name, v)) : isNamed f key = true := by
  have hname : name = key := congrArg Prod.fst (List.mem_singleton.1 (mem_of_find? h))
  exact hname ▸ isNamed_of_find? h

namespace StandsFree

theorem find?_eq (h : StandsFree fields entries key value) {f : DeclaredField × Shape}
    (hf : f ∈ fields) (hnamed : isNamed f.1 key = true) :
    f.1.find? entries = some (key, value) := by
  unfold DeclaredField.find?
  by_cases hkey : f.1.key = key
  · rw [hkey, h.lookup]
  · have hspelling := (isNamed_iff.1 hnamed).resolve_left hkey
    rw [Entries.lookup_eq_none_iff.2 (h.free f hf hspelling hkey), hspelling, h.lookup]
    rfl

theorem find?_eq_alone (h : StandsFree fields entries key value) {f : DeclaredField × Shape}
    (hf : f ∈ fields) (hnamed : isNamed f.1 key = true) :
    f.1.find? [(key, value)] = f.1.find? entries := by
  rw [h.find?_eq hf hnamed, (standsFree_alone fields key value).find?_eq hf hnamed]

theorem readable (h : StandsFree fields entries key value) {f : DeclaredField × Shape}
    (hf : f ∈ fields) (hreadable : Readable entries f) (hoptional : f.1.required = false) :
    Readable [(key, value)] f := by
  cases hfind : f.1.find? [(key, value)] with
  | none =>
    unfold Readable
    rw [hfind]
    exact hoptional
  | some e =>
    unfold Readable at hreadable ⊢
    rw [h.find?_eq_alone hf (isNamed_of_find?_alone hfind)]
    exact hreadable

theorem fieldRead?_eq (h : StandsFree fields entries key value) {f : DeclaredField × Shape}
    (hf : f ∈ fields) {e : Text × Document} (hread : fieldRead? [(key, value)] f = some e) :
    fieldRead? entries f = some e := by
  obtain ⟨name, v, hfind, -, -, -⟩ := of_fieldRead? hread
  unfold fieldRead? at hread ⊢
  rw [← h.find?_eq_alone hf (isNamed_of_find?_alone hfind)]
  exact hread

/-- Where no field is required, an entry that is read among others is read by itself. -/
theorem reads (h : StandsFree fields entries key value)
    (hoptional : ∀ f ∈ fields, f.1.required = false) {name : String} {d : Document}
    (hread : (record name false fields).read (.obj entries) = .ok d) :
    (record name false fields).read (.obj [(key, value)]) =
      .ok (.record (fieldsRead fields [(key, value)])
        (unknownOf (fields.map Prod.fst) [(key, value)])
        (orderOf (fields.map Prod.fst) [(key, value)])) := by
  obtain ⟨hwhole, hreadable, -, -⟩ := read_record_eq_ok_iff.1 hread
  refine read_record_eq_ok_iff.2 ⟨fun e he => ?_, fun f hf => ?_,
    fun hclosed => absurd hclosed Bool.false_ne_true, rfl⟩
  · rw [List.mem_singleton.1 he]
    exact hwhole _ (Entries.mem_of_lookup h.lookup)
  · exact h.readable hf (hreadable f hf) (hoptional f hf)

end StandsFree

/-! ## What is written -/

/-- A field is written under its key. -/
theorem lookup_parts_field (hapart : Apart fields) {f : DeclaredField × Shape} (hf : f ∈ fields)
    {d : Document} (hread : fieldRead? entries f = some (f.1.key, d))
    (hnull : d.toJson.isNull = false) :
    (parts fields entries).lookup f.1.key = some d.toJson := by
  have hnodup := (keys_filter_fieldsRead_sublist fields entries fun e => !e.2.isNull).nodup
    (nodup_keys_fields hapart)
  have hmem : (f.1.key, d.toJson) ∈
      (Document.entriesToJson (fieldsRead fields entries)).filter (fun e => !e.2.isNull) := by
    rw [Document.entriesToJson_eq_map]
    refine List.mem_filter.2 ⟨List.mem_map.2 ⟨_, List.mem_filterMap.2 ⟨f, hf, hread⟩, rfl⟩, ?_⟩
    rw [hnull]
    rfl
  rw [parts, List.lookup_append, Entries.lookup_of_mem hnodup hmem, Option.some_or]

/-- Keys that are no second spelling are written with what stands under them. -/
theorem lookup_filterMap_entry? (respells : Text → Bool) (hfirst : respells key = false)
    (entries : List (Text × Json)) :
    ((entries.map fun e => (⟨e.1, e.2, respells e.1⟩ : Unknown)).filterMap
      Unknown.entry?).lookup key = (entries.lookup key).map Json.finiteOnly := by
  induction entries with
  | nil => rfl
  | cons e rest ih =>
    obtain ⟨k, v⟩ := e
    rw [List.map_cons, List.filterMap_cons, Entries.lookup_cons_eq]
    by_cases hk : key = k
    · subst hk
      simp [Unknown.entry?, hfirst]
    · rw [if_neg hk, ← ih]
      cases hentry : Unknown.entry? ⟨k, v, respells k⟩ with
      | none => rfl
      | some x =>
        have hx : x.1 = k := Unknown.key_of_entry? hentry
        obtain ⟨k', w⟩ := x
        dsimp only at hx ⊢
        rw [Entries.lookup_cons_eq, hx, if_neg hk]

/-- A key that names no field is written with what stands under it. -/
theorem lookup_parts_other (hother : ∀ f ∈ fields, isNamed f.1 key = false) :
    (parts fields entries).lookup key = (entries.lookup key).map Json.finiteOnly := by
  have hfields : ((Document.entriesToJson (fieldsRead fields entries)).filter
      fun e => !e.2.isNull).lookup key = none := by
    rw [Entries.lookup_eq_none_iff]
    intro hmem
    obtain ⟨f, hf, hkey⟩ :=
      List.mem_map.1 ((keys_filter_fieldsRead_sublist fields entries _).subset hmem)
    have hnamed := hother f hf
    rw [isNamed_iff.2 (.inl hkey)] at hnamed
    cases hnamed
  have hunread : (namesRead (fields.map Prod.fst) entries).contains key = false := by
    rw [← Bool.not_eq_true, List.contains_iff_mem]
    intro hmem
    obtain ⟨g, hg, hname⟩ := List.mem_filterMap.1 hmem
    obtain ⟨f, hf, rfl⟩ := List.mem_map.1 hg
    obtain ⟨⟨name, v⟩, hfind, rfl⟩ := Option.map_eq_some_iff.1 hname
    have hnamed := hother f hf
    rw [isNamed_of_find? hfind] at hnamed
    cases hnamed
  have hfirst : ((fields.map Prod.fst).any fun f => f.spelling = key) = false := by
    rw [List.any_eq_false]
    intro g hg hspelling
    obtain ⟨f, hf, rfl⟩ := List.mem_map.1 hg
    have hnamed := hother f hf
    rw [isNamed_iff.2 (.inr (of_decide_eq_true hspelling))] at hnamed
    cases hnamed
  have hkept := Entries.lookup_filter entries
    (fun k => !(namesRead (fields.map Prod.fst) entries).contains k) key
  rw [parts, List.lookup_append, hfields, Option.none_or, unknownOf,
    lookup_filterMap_entry? (fun k => (fields.map Prod.fst).any fun f => f.spelling = k) hfirst]
  unfold undeclared
  rw [hkept, hunread]
  rfl

/-- What an entry writes by itself is written among the others. -/
theorem StandsFree.lookup_parts (h : StandsFree fields entries key value) (hapart : Apart fields)
    {e : Text × Json} (he : e ∈ parts fields [(key, value)]) :
    (parts fields entries).lookup e.1 = some e.2 := by
  rcases WritableEntries.of_mem_parts he with ⟨f, hf, d, hread, rfl, hnull⟩ | ⟨o, ho, rfl, -⟩
  · exact lookup_parts_field hapart hf (h.fieldRead?_eq hf hread) hnull
  · obtain ⟨hmem, hunread⟩ := mem_undeclared_iff.1 ho
    cases List.mem_singleton.1 hmem
    have hother : ∀ f ∈ fields, isNamed f.1 key = false := by
      intro f hf
      rw [← Bool.not_eq_true]
      intro hnamed
      exact hunread f hf value ((standsFree_alone fields key value).find?_eq hf hnamed)
    rw [lookup_parts_other hother, h.lookup, Option.map_some]

end Shape

end ManifestEdit
