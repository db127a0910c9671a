import ManifestEdit.Proofs.Shape.Records

/-!
# Values that are kept

A shape keeps a value when the document read from it writes that same value. A record keeps its
entries when it keeps the value of each field and what stands under the other keys. A respelling is
remembered under the key of its field, so the record keeps it behind all entries whose own keys it
remembers.
-/

namespace ManifestEdit

namespace Shape

/-- A value that is read as `d`, which writes the value as it stands. -/
structure Kept (s : Shape) (j : Json) (d : Document) : Prop where
  reads : s.read j = .ok d
  writes : d.toJson = j
  writable : d.hasWholeKeys = true

theorem Kept.eq_of_read {s : Shape} {j : Json} {d e : Document} (h : Kept s j d)
    (hread : s.read j = .ok e) : e = d :=
  Except.ok.inj (hread.symm.trans h.reads)

theorem kept_scalar {s : Shape} (hs : s.isScalar = true) {j : Json} {d : Document}
    (h : s.read j = .ok d) : Kept s j d := by
  obtain ⟨rfl, hj, -⟩ := read_scalar hs h
  exact ⟨h, Json.finiteOnly_of_isFinite hj.finite, hj.whole⟩

/-! ## Records -/

/-- A value under a key that is no field, written as it stands. -/
structure KeptOther (closed : Bool) (j : Json) : Prop where
  isOpen : closed = false
  finite : j.finiteOnly = j
  whole : j.hasWholeKeys = true

/-- Entries that a record writes as they are, with the respellings behind them. -/
structure KeptEntries (closed : Bool) (fields : List (DeclaredField × Shape))
    (entries respelled : List (Text × Json)) : Prop where
  nodup : (Entries.keys entries).Nodup
  whole : ∀ e ∈ entries ++ respelled, e.1.isWhole = true
  field : ∀ e ∈ entries, ∀ f, fieldNamed? fields e.1 = some f →
    e.1 = f.1.key ∧ e.2.isNull = false ∧ ∃ d, Kept f.2 e.2 d
  other : ∀ e ∈ entries, fieldNamed? fields e.1 = none → KeptOther closed e.2
  respelling : ∀ e ∈ respelled, KeptOther closed e.2 ∧ e.2.isNull = false ∧
    ∃ f ∈ fields, f.1.spelling = e.1 ∧ f.1.key ≠ e.1 ∧ f.1.key ∈ Entries.keys entries
  required : ∀ f ∈ fields, f.1.required = true → f.1.key ∈ Entries.keys entries

namespace KeptEntries

variable {closed : Bool} {fields : List (DeclaredField × Shape)}
  {entries respelled : List (Text × Json)}

theorem standOnce (h : KeptEntries closed fields entries respelled) (hfields : Sound fields) :
    standOnce fields entries = true := by
  refine standOnce_of_keys fun f hf hspelling => ?_
  obtain ⟨value, hmem⟩ := Entries.mem_keys.1 hspelling
  have hnamed := fieldNamed?_of_mem hfields.apart hf (isNamed_iff.2 (.inr rfl))
  exact (h.field _ hmem f hnamed).1.symm

/-- An entry is written as it stands. -/
theorem written?_eq (h : KeptEntries closed fields entries respelled) {e : Text × Json}
    (he : e ∈ entries) : written? fields e = some e := by
  cases hf : fieldNamed? fields e.1 with
  | none => rw [written?_other hf, (h.other e he hf).finite]
  | some f =>
    obtain ⟨hkey, hnull, d, hd⟩ := h.field e he f hf
    rw [written?_field hf hd.reads, hd.writes, hnull, ← hkey]
    rfl

theorem written (h : KeptEntries closed fields entries respelled) :
    entries.filterMap (written? fields) = entries := by
  rw [List.filterMap_congr fun e he => h.written?_eq he, List.filterMap_some]

theorem orderOf_entries (h : KeptEntries closed fields entries respelled)
    (hfields : Sound fields) : orderOf (fields.map Prod.fst) entries = Entries.keys entries := by
  have hkey : ∀ e ∈ entries, keyRead? fields e = some e.1 := by
    intro e he
    unfold keyRead?
    cases hf : fieldNamed? fields e.1 with
    | none => rfl
    | some f =>
      obtain ⟨hkey, hnull, -⟩ := h.field e he f hf
      dsimp only
      rw [hnull, if_neg Bool.false_ne_true, hkey]
  rw [orderOf_eq hfields.apart, List.filterMap_congr hkey, List.filterMap_eq_map']
  rfl

/-- A field stands under its key and nowhere else. -/
theorem find?_eq (h : KeptEntries closed fields entries respelled) (hfields : Sound fields)
    {f : DeclaredField × Shape} (hf : f ∈ fields) {name : Text} {value : Json} :
    f.1.find? entries = some (name, value) ↔ name = f.1.key ∧ (f.1.key, value) ∈ entries := by
  rw [find?_eq_some_iff h.nodup (h.standOnce hfields) hf]
  constructor
  · rintro ⟨hmem, hnamed⟩
    have hkey := (h.field _ hmem f (fieldNamed?_of_mem hfields.apart hf hnamed)).1
    exact ⟨hkey, hkey ▸ hmem⟩
  · rintro ⟨rfl, hmem⟩
    exact ⟨hmem, isNamed_key f.1⟩

theorem readable (h : KeptEntries closed fields entries respelled) (hfields : Sound fields)
    {f : DeclaredField × Shape} (hf : f ∈ fields) : Readable entries f := by
  unfold Readable
  split
  · rename_i hnone
    cases hrequired : f.1.required with
    | false => rfl
    | true =>
      obtain ⟨value, hmem⟩ := Entries.mem_keys.1 (h.required f hf hrequired)
      rw [(h.find?_eq hfields hf).2 ⟨rfl, hmem⟩] at hnone
      cases hnone
  · rename_i name value hfind
    obtain ⟨-, hmem⟩ := (h.find?_eq hfields hf).1 hfind
    obtain ⟨-, -, d, hd⟩ := h.field _ hmem f (fieldNamed?_key hfields.apart hf)
    exact .inr ⟨d, hd.reads⟩

/-! ### Respellings -/

/-- The field of which an entry is a respelling. -/
theorem eq_of_respelling (h : KeptEntries closed fields entries respelled)
    (hfields : Sound fields) {e : Text × Json} (he : e ∈ respelled) {f : DeclaredField × Shape}
    (hf : f ∈ fields) (hnamed : isNamed f.1 e.1 = true) :
    f.1.key ≠ e.1 ∧ f.1.key ∈ Entries.keys entries := by
  obtain ⟨-, -, g, hg, hspelling, hkey, hmem⟩ := h.respelling e he
  rw [eq_of_isNamed hfields.apart hf hg hnamed (isNamed_iff.2 (.inr hspelling))]
  exact ⟨hkey, hmem⟩

theorem not_mem_of_respelled (h : KeptEntries closed fields entries respelled)
    (hfields : Sound fields) {e : Text × Json} (he : e ∈ respelled) :
    e.1 ∉ Entries.keys entries := by
  intro hmem
  obtain ⟨value, hvalue⟩ := Entries.mem_keys.1 hmem
  obtain ⟨-, -, f, hf, hspelling, hkey, -⟩ := h.respelling e he
  have hnamed := fieldNamed?_of_mem hfields.apart hf (isNamed_iff.2 (.inr hspelling))
  exact hkey (h.field _ hvalue f hnamed).1.symm

theorem find?_append (h : KeptEntries closed fields entries respelled) (hfields : Sound fields)
    {f : DeclaredField × Shape} (hf : f ∈ fields) :
    f.1.find? (entries ++ respelled) = f.1.find? entries := by
  have hkey : respelled.lookup f.1.key = none := by
    rw [Entries.lookup_eq_none_iff]
    intro hmem
    obtain ⟨value, hvalue⟩ := Entries.mem_keys.1 hmem
    exact (h.eq_of_respelling hfields hvalue hf (isNamed_key f.1)).1 rfl
  unfold DeclaredField.find?
  rw [List.lookup_append, hkey, Option.or_none]
  split
  · rfl
  · rename_i hnone
    have hspelling : respelled.lookup f.1.spelling = none := by
      rw [Entries.lookup_eq_none_iff]
      intro hmem
      obtain ⟨value, hvalue⟩ := Entries.mem_keys.1 hmem
      have hpresent := h.eq_of_respelling hfields hvalue hf (isNamed_iff.2 (.inr rfl))
      exact Entries.lookup_eq_none_iff.1 hnone hpresent.2
    rw [List.lookup_append, hspelling, Option.or_none]

theorem fieldsRead_append (h : KeptEntries closed fields entries respelled)
    (hfields : Sound fields) :
    fieldsRead fields (entries ++ respelled) = fieldsRead fields entries :=
  List.filterMap_congr fun f hf => by
    unfold fieldRead?
    rw [h.find?_append hfields hf]

theorem undeclared_append (h : KeptEntries closed fields entries respelled)
    (hfields : Sound fields) :
    undeclared (fields.map Prod.fst) (entries ++ respelled) =
      undeclared (fields.map Prod.fst) entries ++ respelled := by
  have hnames : namesRead (fields.map Prod.fst) (entries ++ respelled) =
      namesRead (fields.map Prod.fst) entries := by
    rw [namesRead, namesRead, List.filterMap_map, List.filterMap_map]
    refine List.filterMap_congr fun f hf => ?_
    rw [Function.comp_apply, Function.comp_apply, h.find?_append hfields hf]
  have hkept : respelled.filter
      (fun e => !(namesRead (fields.map Prod.fst) entries).contains e.1) = respelled := by
    refine List.filter_eq_self.2 fun e he => ?_
    rw [Bool.not_eq_true', ← Bool.not_eq_true, List.contains_iff_mem]
    intro hmem
    obtain ⟨g, -, hname⟩ := List.mem_filterMap.1 hmem
    obtain ⟨⟨name, value⟩, hfind, rfl⟩ := Option.map_eq_some_iff.1 hname
    exact h.not_mem_of_respelled hfields he (Entries.mem_keys.2 ⟨value, mem_of_find? hfind⟩)
  rw [undeclared, undeclared, hnames, List.filter_append, hkept]

theorem unknownOf_append (h : KeptEntries closed fields entries respelled)
    (hfields : Sound fields) :
    unknownOf (fields.map Prod.fst) (entries ++ respelled) =
      unknownOf (fields.map Prod.fst) entries ++ respelled.map fun e => ⟨e.1, e.2, true⟩ := by
  rw [unknownOf, unknownOf, h.undeclared_append hfields, List.map_append]
  refine congrArg _ (List.map_congr_left fun e he => ?_)
  obtain ⟨-, -, f, hf, hspelling, -⟩ := h.respelling e he
  have hany : ((fields.map Prod.fst).any fun f => f.spelling = e.1) = true :=
    List.any_eq_true.2 ⟨f.1, List.mem_map_of_mem hf, decide_eq_true hspelling⟩
  rw [hany]

/-- A respelling adds no key to those remembered. -/
theorem orderOf_append (h : KeptEntries closed fields entries respelled)
    (hfields : Sound fields) :
    ∃ more, orderOf (fields.map Prod.fst) (entries ++ respelled) =
      orderOf (fields.map Prod.fst) entries ++ more ∧
        ∀ k ∈ more, k ∈ orderOf (fields.map Prod.fst) entries := by
  refine ⟨orderOf (fields.map Prod.fst) respelled, ?_, fun k hk => ?_⟩
  · rw [orderOf, List.filterMap_append]
    rfl
  · rw [orderOf_eq hfields.apart] at hk
    obtain ⟨e, he, hkey⟩ := List.mem_filterMap.1 hk
    obtain ⟨-, -, f, hf, hspelling, -, hmem⟩ := h.respelling e he
    have hnamed := fieldNamed?_of_mem hfields.apart hf (isNamed_iff.2 (.inr hspelling))
    rw [keyRead?, hnamed] at hkey
    dsimp only at hkey
    split at hkey
    · cases hkey
    · cases hkey
      rw [h.orderOf_entries hfields]
      exact hmem

/-! ### The record -/

theorem other_of_undeclared (h : KeptEntries closed fields entries respelled)
    (hfields : Sound fields) {e : Text × Json}
    (he : e ∈ undeclared (fields.map Prod.fst) (entries ++ respelled)) :
    KeptOther closed e.2 := by
  rw [h.undeclared_append hfields, List.mem_append,
    undeclared_eq hfields.apart h.nodup (h.standOnce hfields)] at he
  rcases he with he | he
  · obtain ⟨hmem, hnone⟩ := List.mem_filter.1 he
    exact h.other e hmem (Option.isNone_iff_eq_none.1 hnone)
  · exact (h.respelling e he).1

theorem toJson (h : KeptEntries closed fields entries respelled) (hfields : Sound fields) :
    (Document.record (fieldsRead fields (entries ++ respelled))
      (unknownOf (fields.map Prod.fst) (entries ++ respelled))
      (orderOf (fields.map Prod.fst) (entries ++ respelled))).toJson =
        .obj (entries ++ respelled) := by
  have hfront := toJson_record hfields h.nodup (h.standOnce hfields)
  rw [h.written, Document.toJson, Json.obj.injEq] at hfront
  have hrespelled : (respelled.map fun e => (⟨e.1, e.2, true⟩ : Unknown)).filterMap
      Unknown.entry? = respelled := by
    have hsome : ∀ e ∈ respelled,
        (Unknown.entry? ∘ fun e : Text × Json => ⟨e.1, e.2, true⟩) e = some e := by
      intro e he
      obtain ⟨hother, hnull, -⟩ := h.respelling e he
      simp [Unknown.entry?, hother.finite, hnull]
    rw [List.filterMap_map, List.filterMap_congr hsome, List.filterMap_some]
  obtain ⟨more, horder, hmore⟩ := h.orderOf_append hfields
  have hlast : ∀ e ∈ respelled, e.1 ∉ orderOf (fields.map Prod.fst) entries := by
    intro e he
    rw [h.orderOf_entries hfields]
    exact h.not_mem_of_respelled hfields he
  rw [Document.toJson, h.fieldsRead_append hfields, h.unknownOf_append hfields, horder,
    List.filterMap_append, hrespelled, ← List.append_assoc, arrange_append hmore hlast, hfront]

theorem writable (h : KeptEntries closed fields entries respelled) (hfields : Sound fields) :
    (Document.record (fieldsRead fields (entries ++ respelled))
      (unknownOf (fields.map Prod.fst) (entries ++ respelled))
      (orderOf (fields.map Prod.fst) (entries ++ respelled))).hasWholeKeys = true := by
  rw [Document.hasWholeKeys_record, h.fieldsRead_append hfields]
  constructor
  · rintro ⟨key, d⟩ hd
    obtain ⟨f, hf, hread⟩ := List.mem_filterMap.1 hd
    obtain ⟨name, value, hfind, -, -, hd⟩ := of_fieldRead? hread
    obtain ⟨-, hmem⟩ := (h.find?_eq hfields hf).1 hfind
    obtain ⟨-, -, c, hc⟩ := h.field _ hmem f (fieldNamed?_key hfields.apart hf)
    rw [hc.eq_of_read hd]
    exact hc.writable
  · intro u hu
    obtain ⟨e, he, rfl⟩ := List.mem_map.1 hu
    exact (h.other_of_undeclared hfields he).whole

/-- Entries of kept fields make a kept record. -/
theorem kept (h : KeptEntries closed fields entries respelled) (hfields : Sound fields)
    (name : String) :
    Kept (record name closed fields) (.obj (entries ++ respelled))
      (.record (fieldsRead fields (entries ++ respelled))
        (unknownOf (fields.map Prod.fst) (entries ++ respelled))
        (orderOf (fields.map Prod.fst) (entries ++ respelled))) where
  reads := by
    refine read_record_eq_ok_iff.2 ⟨h.whole, fun f hf => ?_, fun hclosed => ?_, rfl⟩
    · unfold Readable
      rw [h.find?_append hfields hf]
      exact h.readable hfields hf
    · refine List.eq_nil_iff_forall_not_mem.2 fun e he => ?_
      rw [(h.other_of_undeclared hfields he).isOpen] at hclosed
      cases hclosed
  writes := h.toJson hfields
  writable := h.writable hfields

end KeptEntries

/-! ## Lists, maps and choices -/

theorem map_toJson_eq {α : Type} {f : α → Reading Document} {g : α → Json} {as : List α}
    {ds : List Document} (hread : as.map f = ds.map .ok)
    (h : ∀ a ∈ as, ∀ d, f a = .ok d → d.toJson = g a) : ds.map Document.toJson = as.map g := by
  induction as generalizing ds with
  | nil =>
    rw [List.map_eq_nil_iff.1 hread.symm]
    rfl
  | cons a rest ih =>
    cases ds with
    | nil => cases hread
    | cons d more =>
      rw [List.map_cons, List.map_cons, List.cons.injEq] at hread
      rw [List.forall_mem_cons] at h
      rw [List.map_cons, List.map_cons, h.1 d hread.1, ih hread.2 h.2]

theorem kept_list {item : Shape} {items : List Json} {ds : List Document}
    (hread : items.map item.read = ds.map .ok) (h : ∀ i ∈ items, ∃ d, Kept item i d) :
    Kept (list item) (.arr items) (.list ds) := by
  have hwrites : ds.map Document.toJson = items.map id := by
    refine map_toJson_eq hread fun i hi d hd => ?_
    obtain ⟨e, he⟩ := h i hi
    rw [he.eq_of_read hd, he.writes, id]
  refine ⟨read_list_eq_ok_iff.2 ⟨ds, rfl, hread⟩, ?_, ?_⟩
  · rw [Document.toJson, Document.itemsToJson_eq_map, hwrites, List.map_id]
  · rw [Document.hasWholeKeys, Document.itemsHaveWholeKeys_iff]
    intro d hd
    obtain ⟨i, hi, hid⟩ := mem_of_map_eq_map_ok hread hd
    obtain ⟨e, he⟩ := h i hi
    rw [he.eq_of_read hid]
    exact he.writable

theorem toJson_zip {f : Text × Json → Reading Document} {g : Text × Json → Json}
    {entries : List (Text × Json)} {ds : List Document} (hread : entries.map f = ds.map .ok)
    (h : ∀ e ∈ entries, ∀ d, f e = .ok d → d.toJson = g e) :
    Document.entriesToJson ((Entries.keys entries).zip ds) =
      entries.map fun e => (e.1, g e) := by
  induction entries generalizing ds with
  | nil => rfl
  | cons e rest ih =>
    cases ds with
    | nil => cases hread
    | cons d more =>
      rw [List.map_cons, List.map_cons, List.cons.injEq] at hread
      rw [List.forall_mem_cons] at h
      rw [Entries.keys, List.map_cons, List.zip_cons_cons, Document.entriesToJson, List.map_cons,
        h.1 d hread.1]
      exact congrArg _ (ih hread.2 h.2)

theorem length_keys_of_read {value : Shape} {entries : List (Text × Json)} {ds : List Document}
    (hread : entries.map (fun e => value.read e.2) = ds.map .ok) :
    (Entries.keys entries).length = ds.length := by
  have hlength := congrArg List.length hread
  rw [List.length_map, List.length_map] at hlength
  rw [Entries.keys, List.length_map, hlength]

theorem keys_zip_of_read {value : Shape} {entries : List (Text × Json)} {ds : List Document}
    (hread : entries.map (fun e => value.read e.2) = ds.map .ok) :
    Entries.keys ((Entries.keys entries).zip ds) = Entries.keys entries := by
  rw [Entries.keys, List.map_fst_zip (Nat.le_of_eq (length_keys_of_read hread))]

theorem kept_map {value : Shape} {entries : List (Text × Json)} {ds : List Document}
    (hnodup : (Entries.keys entries).Nodup) (hwhole : ∀ e ∈ entries, e.1.isWhole = true)
    (hread : entries.map (fun e => value.read e.2) = ds.map .ok)
    (h : ∀ e ∈ entries, ∃ d, Kept value e.2 d) :
    Kept (map value) (.obj entries) (.map ((Entries.keys entries).zip ds)) := by
  have hvalues : ∀ e ∈ entries, ∀ d, value.read e.2 = .ok d → d.toJson = e.2 := by
    intro e he d hd
    obtain ⟨c, hc⟩ := h e he
    rw [hc.eq_of_read hd, hc.writes]
  have hwrites : Document.entriesToJson ((Entries.keys entries).zip ds) = entries := by
    rw [toJson_zip hread hvalues]
    exact List.map_id' entries
  refine ⟨read_map_eq_ok_iff.2 ⟨ds, rfl, hread⟩, ?_, ?_⟩
  · rw [Document.toJson, hwrites, Document.wholeKeys_of_isWhole hwhole hnodup]
  · rw [Document.hasWholeKeys, Document.entriesHaveWholeKeys_iff]
    intro e he
    obtain ⟨o, ho, hd⟩ := mem_of_map_eq_map_ok hread (List.of_mem_zip he).2
    obtain ⟨c, hc⟩ := h o ho
    rw [hc.eq_of_read hd]
    exact hc.writable

theorem kept_oneOf {before after : List (String × Shape)} {label : String} {s : Shape}
    {j : Json} {d : Document} (hbefore : ∀ m ∈ before, ¬ m.2.Reads j) (h : Kept s j d) :
    Kept (oneOf (before ++ (label, s) :: after)) j (.choice d) where
  reads := read_oneOf_eq_ok_iff.2 ⟨d, rfl, readMembers_append hbefore h.reads⟩
  writes := by rw [Document.toJson, h.writes]
  writable := by rw [Document.hasWholeKeys, h.writable]

end Shape

end ManifestEdit
