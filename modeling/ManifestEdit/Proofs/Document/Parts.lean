import ManifestEdit.Document.Error
import ManifestEdit.Manifest.Variants
import ManifestEdit.Proofs.Shape.ReadsBack

/-!
# Parts of records

A field of a record that was read is found under its key, and a map that was read is an ordered map
of its values.
-/

namespace ManifestEdit

/-- What a shape reads from a value with distinct keys has a view, which is written as it. -/
def Shape.ViewedBy {α : Type} (s : Shape) (view? : Document → Option α)
    (document : α → Document) : Prop :=
  ∀ {j d}, j.isDistinct = true → s.read j = .ok d → ∃ a, view? d = some a ∧ document a = d

/-! ## Records read by a schema -/

namespace Schema

theorem read_eq_ok_iff {s : Schema} {j : Json} {r : Record} :
    s.read j = .ok r ↔ s.shape.read j = .ok r.toDocument := by
  unfold Schema.read
  constructor
  · intro h
    split at h
    · rename_i hread
      cases h
      exact hread
    · cases h
    · cases h
  · intro h
    rw [h]
    rfl

theorem decode_eq_ok_iff {s : Schema} {j : Json} {root : String} {r : Record} :
    s.decode j root = .ok r ↔ s.shape.read j = .ok r.toDocument := by
  rw [← read_eq_ok_iff, decode]
  cases s.read j with
  | ok r' => simp
  | error failures => simp

/-- What is made of a record that was read. -/
theorem map_decode_eq_ok_iff {s : Schema} {j : Json} {root : String} {α : Type}
    {ofRecord : Record → α} {a : α} :
    (s.decode j root).map ofRecord = .ok a ↔
      ∃ r, s.shape.read j = .ok r.toDocument ∧ ofRecord r = a := by
  cases h : s.decode j root with
  | ok r =>
    have hread := decode_eq_ok_iff.1 h
    constructor
    · intro ha
      cases ha
      exact ⟨r, hread, rfl⟩
    · rintro ⟨r', hr', rfl⟩
      rw [hread] at hr'
      cases r
      cases r'
      cases hr'
      rfl
  | error e =>
    constructor
    · intro ha
      cases ha
    · rintro ⟨r, hr, -⟩
      rw [decode_eq_ok_iff.2 hr] at h
      cases h

/-- A schema reads records only. -/
theorem exists_record {s : Schema} {j : Json} {d : Document} (h : s.shape.read j = .ok d) :
    ∃ r : Record, d = r.toDocument := by
  obtain ⟨entries, rfl⟩ := Shape.read_record h
  obtain ⟨-, -, -, rfl⟩ := Shape.read_record_eq_ok_iff.1 h
  exact ⟨⟨_, _, _⟩, rfl⟩

/-- What a record that was read consists of. -/
theorem parts_of_read {s : Schema} {j : Json} {r : Record}
    (h : s.shape.read j = .ok r.toDocument) :
    ∃ entries, j = .obj entries ∧ r.fields = Shape.fieldsRead s.fields entries ∧
      r.unknown = Shape.unknownOf s.declared entries ∧
      r.order = Shape.orderOf s.declared entries := by
  obtain ⟨entries, rfl⟩ := Shape.read_record h
  obtain ⟨-, -, -, hr⟩ := Shape.read_record_eq_ok_iff.1 h
  obtain ⟨fields, unknown, order⟩ := r
  cases hr
  exact ⟨entries, rfl, rfl, rfl, rfl⟩

end Schema

namespace Shape

variable {fields : List (DeclaredField × Shape)} {entries : List (Text × Json)}

/-- The field read is the entry under the field's key. -/
theorem lookup_fieldsRead (hapart : Apart fields) {f : DeclaredField × Shape} (hf : f ∈ fields) :
    ((fieldsRead fields entries).lookup f.1.key).map (f.1.key, ·) = fieldRead? entries f := by
  have hnodup := (keys_fieldsRead_sublist fields entries).nodup (nodup_keys_fields hapart)
  cases hread : fieldRead? entries f with
  | some e =>
    obtain ⟨key, d⟩ := e
    have hkey : key = f.1.key := key_of_fieldRead? hread
    subst hkey
    rw [Entries.lookup_of_mem hnodup (List.mem_filterMap.2 ⟨f, hf, hread⟩), Option.map_some]
  | none =>
    have hnone : (fieldsRead fields entries).lookup f.1.key = none := by
      rw [Entries.lookup_eq_none_iff]
      intro hmem
      obtain ⟨d, hd⟩ := Entries.mem_keys.1 hmem
      obtain ⟨g, hg, hgread⟩ := List.mem_filterMap.1 hd
      have hkey := key_of_fieldRead? hgread
      have hsame := eq_of_isNamed hapart hf hg (isNamed_key f.1)
        (isNamed_iff.2 (.inl hkey.symm))
      rw [hsame, hgread] at hread
      cases hread
    rw [hnone, Option.map_none]

/-- A field that was read is the document of an entry that is not null. -/
theorem of_lookup_fieldsRead (hfields : Sound fields) (hnodup : (Entries.keys entries).Nodup)
    (honce : standOnce fields entries = true) {f : DeclaredField × Shape} (hf : f ∈ fields)
    {d : Document} (h : (fieldsRead fields entries).lookup f.1.key = some d) :
    ∃ e ∈ entries, fieldNamed? fields e.1 = some f ∧ e.2.isNull = false ∧
      f.2.read e.2 = .ok d := by
  have hread : _ = fieldRead? entries f := lookup_fieldsRead hfields.apart hf
  rw [h, Option.map_some] at hread
  exact ((fieldRead?_eq_some_iff hfields hnodup honce hf).1 hread.symm).2

/-- The field of a settled record is the document of the entry under its key. -/
theorem SettledEntries.lookup_fieldsRead_eq_some_iff {closed : Bool}
    (h : SettledEntries closed fields entries) (hfields : Sound fields)
    {f : DeclaredField × Shape} (hf : f ∈ fields) {d : Document} :
    (fieldsRead fields entries).lookup f.1.key = some d ↔
      ∃ j, entries.lookup f.1.key = some j ∧ Settled f.2 j d := by
  rw [← h.fieldRead?_eq_some_iff hfields hf, ← Shape.lookup_fieldsRead hfields.apart hf]
  simp

/-- The fields of a settled record write the entries under their keys. -/
theorem SettledEntries.toJson_lookup_fieldsRead {closed : Bool}
    (h : SettledEntries closed fields entries) (hfields : Sound fields)
    {f : DeclaredField × Shape} (hf : f ∈ fields) :
    ((fieldsRead fields entries).lookup f.1.key).map Document.toJson =
      entries.lookup f.1.key := by
  cases hentry : entries.lookup f.1.key with
  | none =>
    cases hd : (fieldsRead fields entries).lookup f.1.key with
    | none => rfl
    | some d =>
      obtain ⟨j, hj, -⟩ := (h.lookup_fieldsRead_eq_some_iff hfields hf).1 hd
      rw [hentry] at hj
      cases hj
  | some j =>
    obtain ⟨-, -, d, hd⟩ :=
      h.field _ (Entries.mem_of_lookup hentry) f (fieldNamed?_key hfields.apart hf)
    rw [(h.lookup_fieldsRead_eq_some_iff hfields hf).2 ⟨j, hentry, hd⟩, Option.map_some, hd.writes]

end Shape

namespace Schema

theorem sound_fields {s : Schema} (h : s.shape.isRegular = true) : Shape.Sound s.fields :=
  Shape.sound_of_regular h

/-- What a field of a record that was read was read from. -/
theorem of_field? {s : Schema} (hregular : s.shape.isRegular = true) {j : Json}
    (hclean : Shape.Clean s.shape j) {r : Record} (h : s.shape.read j = .ok r.toDocument)
    {f : DeclaredField × Shape} (hf : f ∈ s.fields) {d : Document}
    (hd : r.field? f.1.key = some d) :
    ∃ v, Shape.Clean f.2 v ∧ v.isNull = false ∧ f.2.read v = .ok d := by
  obtain ⟨entries, rfl, hfields, -, -⟩ := parts_of_read h
  rw [Record.field?, hfields] at hd
  obtain ⟨e, he, hnamed, hnull, hread⟩ := Shape.of_lookup_fieldsRead (sound_fields hregular)
    (Json.isDistinct_obj.1 hclean.distinct).1 hclean.standOnce hf hd
  exact ⟨e.2, hclean.field he hnamed, hnull, hread⟩

theorem eq_of_key {s : Schema} (hregular : s.shape.isRegular = true)
    {f g : DeclaredField × Shape} (hf : f ∈ s.fields) (hg : g ∈ s.fields)
    (hkey : f.1.key = g.1.key) : f = g :=
  Shape.eq_of_isNamed (sound_fields hregular).apart hf hg (Shape.isNamed_key f.1)
    (Shape.isNamed_iff.2 (.inl hkey.symm))

/-- A field of a record that was read was read from one of its entries. -/
theorem exists_entry_of_field? {s : Schema} (hregular : s.shape.isRegular = true)
    {entries : List (Text × Json)} {r : Record}
    (h : s.shape.read (.obj entries) = .ok r.toDocument) {f : DeclaredField × Shape}
    (hf : f ∈ s.fields) {d : Document} (hd : r.field? f.1.key = some d) :
    ∃ e ∈ entries, f.2.read e.2 = .ok d := by
  obtain ⟨_, heq, hfields, -, -⟩ := parts_of_read h
  cases heq
  rw [Record.field?, hfields] at hd
  have hlookup : _ = Shape.fieldRead? entries f :=
    Shape.lookup_fieldsRead (sound_fields hregular).apart hf
  rw [hd, Option.map_some] at hlookup
  obtain ⟨name, value, hfind, -, -, hread⟩ := Shape.of_fieldRead? hlookup.symm
  exact ⟨(name, value), Shape.mem_of_find? hfind, hread⟩

/-- A field of a record that was read was read from a plain value, whatever else stands there. -/
theorem exists_plain_of_field? {s : Schema} (hregular : s.shape.isRegular = true) {j : Json}
    (hplain : j.Plain) {r : Record} (h : s.shape.read j = .ok r.toDocument)
    {f : DeclaredField × Shape} (hf : f ∈ s.fields) {d : Document}
    (hd : r.field? f.1.key = some d) : ∃ v, v.Plain ∧ f.2.read v = .ok d := by
  obtain ⟨entries, rfl⟩ := Shape.read_record h
  obtain ⟨e, he, hread⟩ := exists_entry_of_field? hregular h hf hd
  exact ⟨e.2, ((Json.plain_obj.1 hplain).2 e he).2, hread⟩

/-- A record that was read has the fields that it must have. -/
theorem exists_field?_of_required {s : Schema} (hregular : s.shape.isRegular = true) {j : Json}
    {r : Record} (h : s.shape.read j = .ok r.toDocument) {f : DeclaredField × Shape}
    (hf : f ∈ s.fields) (hrequired : f.1.required = true) (hnullable : f.1.nullable = false) :
    ∃ d, r.field? f.1.key = some d := by
  obtain ⟨entries, rfl, hfields, -, -⟩ := parts_of_read h
  obtain ⟨-, hreadable, -⟩ := Shape.read_record_eq_ok_iff.1 h
  have hread := hreadable f hf
  cases hfind : f.1.find? entries with
  | none =>
    rw [Shape.Readable, hfind, hrequired] at hread
    cases hread
  | some e =>
    obtain ⟨d, hd, -⟩ := Shape.exists_fieldRead? hread hfind (by rw [hnullable, Bool.false_and])
    rw [← Shape.lookup_fieldsRead (sound_fields hregular).apart hf, ← hfields,
      Option.map_eq_some_iff] at hd
    obtain ⟨c, hc, -⟩ := hd
    exact ⟨c, hc⟩

/-- What is viewed of a field of a record that was read is written as that field. -/
theorem map_bind_field? {s : Schema} (hregular : s.shape.isRegular = true) {j : Json}
    (hdistinct : j.isDistinct = true) {r : Record} (h : s.shape.read j = .ok r.toDocument)
    {f : DeclaredField × Shape} (hf : f ∈ s.fields) {key : Text} (hkey : f.1.key = key) {α : Type}
    {view? : Document → Option α} {document : α → Document} (hview : f.2.ViewedBy view? document) :
    ((r.field? key).bind view?).map document = r.field? key := by
  subst hkey
  obtain ⟨entries, rfl⟩ := Shape.read_record h
  cases hd : r.field? f.1.key with
  | none => rfl
  | some d =>
    obtain ⟨e, he, hread⟩ := exists_entry_of_field? hregular h hf hd
    obtain ⟨a, ha, hdocument⟩ := hview ((Json.isDistinct_obj.1 hdistinct).2 e he) hread
    rw [Option.bind_some, ha, Option.map_some, hdocument]

/-- A record whose fields are found as those of a record that was read has the same fields. -/
theorem filterMap_declared {s : Schema} (hregular : s.shape.isRegular = true) {j : Json}
    {r : Record} (h : s.shape.read j = .ok r.toDocument) {field? : Text → Option Document}
    (hsame : ∀ f ∈ s.fields, field? f.1.key = r.field? f.1.key) :
    s.declared.filterMap (fun f => (field? f.key).map (f.key, ·)) = r.fields := by
  obtain ⟨entries, rfl, hfields, -, -⟩ := parts_of_read h
  rw [hfields, declared, List.filterMap_map]
  refine List.filterMap_congr fun f hf => ?_
  rw [Function.comp_apply, hsame f hf, Record.field?, hfields,
    Shape.lookup_fieldsRead (sound_fields hregular).apart hf]

end Schema

/-! ## Maps -/

namespace Document

theorem entries?_eq_some {α : Type} {value? : Document → Option α} {document : α → Document}
    {entries : List (Text × Document)}
    (h : ∀ e ∈ entries, ∃ a, value? e.2 = some a ∧ document a = e.2) :
    ∃ pairs, entries? value? entries = some pairs ∧
      pairs.map (fun e => (e.1, document e.2)) = entries := by
  induction entries with
  | nil => exact ⟨[], rfl, rfl⟩
  | cons e rest ih =>
    obtain ⟨key, d⟩ := e
    rw [List.forall_mem_cons] at h
    obtain ⟨a, ha, hd⟩ := h.1
    obtain ⟨pairs, hpairs, hrest⟩ := ih h.2
    refine ⟨(key, a) :: pairs, ?_, ?_⟩
    · dsimp only at ha
      rw [entries?, ha, hpairs]
    · rw [List.map_cons, hd, hrest]

/-- The map of a document whose values are all of one kind is written as that document. -/
theorem mapOf?_map {α : Type} {value? : Document → Option α} {document : α → Document}
    {entries : List (Text × Document)} (hnodup : (Entries.keys entries).Nodup)
    (h : ∀ e ∈ entries, ∃ a, value? e.2 = some a ∧ document a = e.2) :
    ∃ m : OrderedMap α, (Document.map entries).mapOf? value? = some m ∧
      m.entries.map (fun e => (e.1, document e.2)) = entries := by
  obtain ⟨pairs, hpairs, hentries⟩ := entries?_eq_some h
  have hkeys : Entries.keys pairs = Entries.keys entries := by
    rw [← hentries, Entries.keys, Entries.keys, List.map_map]
    rfl
  refine ⟨OrderedMap.ofPairs pairs, ?_, ?_⟩
  · rw [mapOf?, hpairs, Option.map_some]
  · have hkept : (OrderedMap.ofPairs pairs).entries = pairs :=
      Entries.ofPairs_of_nodup (hkeys ▸ hnodup)
    rw [hkept, hentries]

/-- A map that was read is viewed as an ordered map of the views of its values. -/
theorem viewedBy_mapOf? {α : Type} {value : Shape} {value? : Document → Option α}
    {document : α → Document} (hvalue : value.ViewedBy value? document) :
    (Shape.map value).ViewedBy (mapOf? value?) fun m =>
      .map (m.entries.map fun e => (e.1, document e.2)) := by
  intro j d hdistinct h
  obtain ⟨entries, ds, rfl, rfl, hds⟩ := Shape.read_map h
  obtain ⟨hnodup, hinner⟩ := Json.isDistinct_obj.1 hdistinct
  rw [← Shape.keys_zip_of_read hds] at hnodup
  have hvalues : ∀ e ∈ (Entries.keys entries).zip ds,
      ∃ a, value? e.2 = some a ∧ document a = e.2 := by
    intro e he
    obtain ⟨o, ho, hread⟩ := Shape.mem_of_map_eq_map_ok hds (List.of_mem_zip he).2
    exact hvalue (hinner o ho) hread
  obtain ⟨m, hm, hentries⟩ := mapOf?_map hnodup hvalues
  exact ⟨m, hm, congrArg Document.map hentries⟩

/-- What is paired with the keys of entries was read from what stands under them. -/
theorem exists_of_mem_zip {α : Type} {f : Json → Reading α} {entries : List (Text × Json)}
    {values : List α} (hread : entries.map (fun e => f e.2) = values.map .ok) {key : Text} {a : α}
    (h : (key, a) ∈ (Entries.keys entries).zip values) : ∃ v, (key, v) ∈ entries ∧ f v = .ok a := by
  induction entries generalizing values with
  | nil => cases h
  | cons e rest ih =>
    cases values with
    | nil => cases hread
    | cons b others =>
      obtain ⟨hfirst, hrest⟩ := List.cons.inj hread
      obtain heq | hmem := List.mem_cons.1 h
      · cases heq
        exact ⟨e.2, List.mem_cons_self, hfirst⟩
      · obtain ⟨v, hv, hf⟩ := ih hrest hmem
        exact ⟨v, List.mem_cons_of_mem _ hv, hf⟩

/-- An entry of an ordered map that was read was read from what stands under its key. -/
theorem of_mem_mapOf? {α : Type} {value : Shape} {value? : Document → Option α}
    {document : α → Document} {entries : List (Text × Json)} {d : Document}
    (h : (Shape.map value).read (.obj entries) = .ok d)
    (hdistinct : (Json.obj entries).isDistinct = true) (hvalue : value.ViewedBy value? document)
    {m : OrderedMap α} (hm : d.mapOf? value? = some m) {e : Text × α} (he : e ∈ m.entries) :
    ∃ v, (e.1, v) ∈ entries ∧ value.read v = .ok (document e.2) := by
  obtain ⟨m', hm', hdocument⟩ := viewedBy_mapOf? hvalue hdistinct h
  rw [hm] at hm'
  cases hm'
  obtain ⟨_, ds, heq, rfl, hds⟩ := Shape.read_map h
  cases heq
  rw [Document.map.injEq] at hdocument
  refine exists_of_mem_zip hds ?_
  rw [← hdocument]
  exact List.mem_map.2 ⟨e, he, rfl⟩

end Document

end ManifestEdit
