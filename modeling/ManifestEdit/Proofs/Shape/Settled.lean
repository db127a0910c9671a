import ManifestEdit.Proofs.Shape.Kept

/-!
# Values that are written as they are read

A value is settled for a shape when the document read from it writes the value itself. What a
document writes that was read is settled, so it is written again as it stands; and where all
numbers are finite it is read as the same document.
-/

namespace ManifestEdit

namespace Shape

/-- A value that is read as `d` and written by it. -/
structure Settled (s : Shape) (j : Json) (d : Document) : Prop where
  reads : s.read j = .ok d
  writes : d.toJson = j
  writable : d.hasWholeKeys = true
  finite : j.isFinite = true
  distinct : j.isDistinct = true
  whole : j.hasWholeKeys = true
  once : s.namesOnce j = true

theorem Settled.toKept {s : Shape} {j : Json} {d : Document} (h : Settled s j d) : Kept s j d :=
  ⟨h.reads, h.writes, h.writable⟩

theorem Settled.eq_of_read {s : Shape} {j : Json} {d e : Document} (h : Settled s j d)
    (hread : s.read j = .ok e) : e = d :=
  h.toKept.eq_of_read hread

theorem settled_scalar {s : Shape} (hs : s.isScalar = true) {j : Json} {d : Document}
    (h : s.read j = .ok d) : Settled s j d := by
  obtain ⟨hreads, hwrites, hwritable⟩ := kept_scalar hs h
  obtain ⟨-, hj, -⟩ := read_scalar hs h
  exact ⟨hreads, hwrites, hwritable, hj.finite, hj.distinct, hj.whole, namesOnce_scalar hs j⟩

/-! ## Records -/

/-- Entries that a record writes as they are. -/
structure SettledEntries (closed : Bool) (fields : List (DeclaredField × Shape))
    (entries : List (Text × Json)) : Prop where
  nodup : (Entries.keys entries).Nodup
  whole : ∀ e ∈ entries, e.1.isWhole = true
  field : ∀ e ∈ entries, ∀ f, fieldNamed? fields e.1 = some f →
    e.1 = f.1.key ∧ e.2.isNull = false ∧ ∃ d, Settled f.2 e.2 d
  other : ∀ e ∈ entries, fieldNamed? fields e.1 = none →
    closed = false ∧ e.2.isFinite = true ∧ e.2.isDistinct = true ∧ e.2.hasWholeKeys = true
  required : ∀ f ∈ fields, f.1.required = true → f.1.key ∈ Entries.keys entries

namespace SettledEntries

variable {closed : Bool} {fields : List (DeclaredField × Shape)} {entries : List (Text × Json)}

theorem toKept (h : SettledEntries closed fields entries) :
    KeptEntries closed fields entries [] where
  nodup := h.nodup
  whole := by
    rw [List.append_nil]
    exact h.whole
  field := by
    intro e he f hf
    obtain ⟨hkey, hnull, d, hd⟩ := h.field e he f hf
    exact ⟨hkey, hnull, d, hd.toKept⟩
  other := by
    intro e he hf
    obtain ⟨hopen, hfinite, -, hwhole⟩ := h.other e he hf
    exact ⟨hopen, Json.finiteOnly_of_isFinite hfinite, hwhole⟩
  respelling _ he := absurd he List.not_mem_nil
  required := h.required

theorem standOnce (h : SettledEntries closed fields entries) (hfields : Sound fields) :
    standOnce fields entries = true :=
  h.toKept.standOnce hfields

theorem value (h : SettledEntries closed fields entries) {e : Text × Json} (he : e ∈ entries) :
    e.2.isFinite = true ∧ e.2.isDistinct = true ∧ e.2.hasWholeKeys = true := by
  cases hf : fieldNamed? fields e.1 with
  | none => exact (h.other e he hf).2
  | some f =>
    obtain ⟨-, -, d, hd⟩ := h.field e he f hf
    exact ⟨hd.finite, hd.distinct, hd.whole⟩

theorem namesOnce (h : SettledEntries closed fields entries) (hfields : Sound fields)
    (name : String) : (record name closed fields).namesOnce (.obj entries) = true := by
  rw [Shape.namesOnce, h.standOnce hfields, Bool.true_and, List.all_eq_true]
  intro e he
  rw [entryNamesOnce_eq]
  cases hf : fieldNamed? fields e.1 with
  | none => rfl
  | some f =>
    obtain ⟨-, -, d, hd⟩ := h.field e he f hf
    exact hd.once

/-- Settled entries are settled in every order. -/
theorem perm (h : SettledEntries closed fields entries) {given : List (Text × Json)}
    (hperm : given.Perm entries) : SettledEntries closed fields given where
  nodup := (hperm.map Prod.fst).nodup_iff.2 h.nodup
  whole := fun e he => h.whole e (hperm.subset he)
  field := fun e he => h.field e (hperm.subset he)
  other := fun e he => h.other e (hperm.subset he)
  required := fun f hf hrequired =>
    (hperm.map Prod.fst).mem_iff.2 (h.required f hf hrequired)

/-- A field of settled entries is found under its key. -/
theorem fieldRead?_eq_some_iff (h : SettledEntries closed fields entries)
    (hfields : Sound fields) {f : DeclaredField × Shape} (hf : f ∈ fields) {d : Document} :
    fieldRead? entries f = some (f.1.key, d) ↔
      ∃ j, entries.lookup f.1.key = some j ∧ Settled f.2 j d := by
  rw [Shape.fieldRead?_eq_some_iff hfields h.nodup (h.standOnce hfields) hf]
  constructor
  · rintro ⟨-, e, he, hnamed, -, hread⟩
    obtain ⟨hkey, -, c, hc⟩ := h.field e he f hnamed
    refine ⟨e.2, Entries.lookup_of_mem h.nodup (hkey ▸ he), ?_⟩
    rw [hc.eq_of_read hread]
    exact hc
  · rintro ⟨j, hj, hd⟩
    have hmem := Entries.mem_of_lookup hj
    have hnamed := fieldNamed?_key hfields.apart hf
    exact ⟨rfl, _, hmem, hnamed, (h.field _ hmem f hnamed).2.1, hd.reads⟩

/-- The keys that are no field write themselves. -/
theorem unknown_entries (h : SettledEntries closed fields entries) (hfields : Sound fields) :
    (unknownOf (fields.map Prod.fst) entries).filterMap Unknown.entry? =
      others fields entries := by
  rw [unknownOf_eq hfields.apart h.nodup (h.standOnce hfields), List.filterMap_map]
  have hsame : ∀ e ∈ others fields entries,
      (Unknown.entry? ∘ fun e : Text × Json => ⟨e.1, e.2, false⟩) e = some e := by
    intro e he
    obtain ⟨hmem, hnone⟩ := List.mem_filter.1 he
    have hfinite := (h.other e hmem (Option.isNone_iff_eq_none.1 hnone)).2.1
    simp [Unknown.entry?, Json.finiteOnly_of_isFinite hfinite]
  rw [List.filterMap_congr hsame, List.filterMap_some]

/-- Entries of settled fields make a settled record. -/
theorem settled (h : SettledEntries closed fields entries) (hfields : Sound fields)
    (name : String) :
    Settled (record name closed fields) (.obj entries)
      (.record (fieldsRead fields entries) (unknownOf (fields.map Prod.fst) entries)
        (orderOf (fields.map Prod.fst) entries)) where
  reads := by simpa using (h.toKept.kept hfields name).reads
  writes := by simpa using h.toKept.toJson hfields
  writable := by simpa using h.toKept.writable hfields
  finite := Json.isFinite_obj.2 fun e he => (h.value he).1
  distinct := Json.isDistinct_obj.2 ⟨h.nodup, fun e he => (h.value he).2.1⟩
  whole := Json.hasWholeKeys_obj.2 fun e he => ⟨h.whole e he, (h.value he).2.2⟩
  once := h.namesOnce hfields name

end SettledEntries

/-- A settled record holds each field under the field's key. -/
theorem Settled.key_of_named {name : String} {closed : Bool}
    {fields : List (DeclaredField × Shape)} {entries : List (Text × Json)} {d : Document}
    (h : Settled (record name closed fields) (.obj entries) d) (hfields : Sound fields)
    {e : Text × Json} (he : e ∈ entries) {f : DeclaredField × Shape}
    (hf : fieldNamed? fields e.1 = some f) : f.1.key = e.1 := by
  obtain ⟨-, -, -, hd⟩ := read_record_eq_ok_iff.1 h.reads
  have honce := h.once
  rw [Shape.namesOnce, Bool.and_eq_true] at honce
  have hwritten := toJson_record hfields (Json.isDistinct_obj.1 h.distinct).1 honce.1
  rw [fieldsRead, ← hd, h.writes, Json.obj.injEq] at hwritten
  rw [hwritten] at he
  obtain ⟨o, -, ho⟩ := List.mem_filterMap.1 he
  cases hnamed : fieldNamed? fields o.1 with
  | none =>
    rw [written?_other hnamed] at ho
    cases ho
    rw [hnamed] at hf
    cases hf
  | some g =>
    rw [written?, hnamed] at ho
    dsimp only at ho
    split at ho
    · split at ho
      · cases ho
      · cases ho
        rw [fieldNamed?_key hfields.apart (mem_of_fieldNamed? hnamed).1] at hf
        cases hf
        rfl
    · cases ho

/-! ## Lists, maps and choices -/

theorem map_ok_injective {ds es : List Document}
    (h : ds.map (Except.ok : Document → Reading Document) = es.map .ok) : ds = es := by
  induction ds generalizing es with
  | nil => exact (List.map_eq_nil_iff.1 h.symm).symm
  | cons d rest ih =>
    cases es with
    | nil => cases h
    | cons e more =>
      rw [List.map_cons, List.map_cons, List.cons.injEq] at h
      rw [Except.ok.inj h.1, ih h.2]

theorem settled_list {item : Shape} {items : List Json} {ds : List Document}
    (hread : items.map item.read = ds.map .ok) (h : ∀ i ∈ items, ∃ d, Settled item i d) :
    Settled (list item) (.arr items) (.list ds) := by
  obtain ⟨hreads, hwrites, hwritable⟩ :=
    kept_list hread fun i hi => (h i hi).imp fun _ hd => hd.toKept
  refine ⟨hreads, hwrites, hwritable, ?_, ?_, ?_, ?_⟩
  · exact Json.isFinite_arr.2 fun i hi => (h i hi).elim fun _ hd => hd.finite
  · exact Json.isDistinct_arr.2 fun i hi => (h i hi).elim fun _ hd => hd.distinct
  · exact Json.hasWholeKeys_arr.2 fun i hi => (h i hi).elim fun _ hd => hd.whole
  · rw [namesOnce, List.all_eq_true]
    exact fun i hi => (h i hi).elim fun _ hd => hd.once

theorem settled_map {value : Shape} {entries : List (Text × Json)} {ds : List Document}
    (hnodup : (Entries.keys entries).Nodup) (hwhole : ∀ e ∈ entries, e.1.isWhole = true)
    (hread : entries.map (fun e => value.read e.2) = ds.map .ok)
    (h : ∀ e ∈ entries, ∃ d, Settled value e.2 d) :
    Settled (map value) (.obj entries) (.map ((Entries.keys entries).zip ds)) := by
  obtain ⟨hreads, hwrites, hwritable⟩ :=
    kept_map hnodup hwhole hread fun e he => (h e he).imp fun _ hd => hd.toKept
  refine ⟨hreads, hwrites, hwritable, ?_, ?_, ?_, ?_⟩
  · exact Json.isFinite_obj.2 fun e he => (h e he).elim fun _ hd => hd.finite
  · exact Json.isDistinct_obj.2 ⟨hnodup, fun e he => (h e he).elim fun _ hd => hd.distinct⟩
  · exact Json.hasWholeKeys_obj.2 fun e he =>
      ⟨hwhole e he, (h e he).elim fun _ hd => hd.whole⟩
  · rw [namesOnce, List.all_eq_true]
    exact fun e he => (h e he).elim fun _ hd => hd.once

theorem settled_oneOf {before after : List (String × Shape)} {label : String} {s : Shape}
    {j : Json} {d : Document} (hbefore : ∀ m ∈ before, ¬ m.2.Reads j) (h : Settled s j d) :
    Settled (oneOf (before ++ (label, s) :: after)) j (.choice d) := by
  have hkept : Kept (oneOf (before ++ (label, s) :: after)) j (.choice d) :=
    kept_oneOf hbefore h.toKept
  refine ⟨hkept.reads, hkept.writes, hkept.writable, h.finite, h.distinct, h.whole, ?_⟩
  rw [namesOnce, memberNamesOnce_append hbefore ⟨d, h.reads⟩, h.once]

end Shape

end ManifestEdit
