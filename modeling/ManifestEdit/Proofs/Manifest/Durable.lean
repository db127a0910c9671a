import ManifestEdit.Proofs.Document.Rendering
import ManifestEdit.Proofs.Manifest.Parts

/-!
# Manifests that can be written and loaded again

A manifest is durable when each of its fields writes a settled value and its other keys stand for
no field. Every manifest that was read is durable, and so is what edits make of it. What a durable
manifest writes is settled whatever the order in which its keys are remembered, so its text loads
and is rendered again as it stands.
-/

namespace ManifestEdit

open Shape

namespace Schema

theorem isRegular_of_mem {s : Schema} (h : s.shape.isRegular = true) {f : DeclaredField × Shape}
    (hf : f ∈ s.fields) : f.2.isRegular = true := by
  rw [shape, isRegular, Bool.and_eq_true, fieldsRegular_iff] at h
  exact (h.2 f hf).1

theorem sound_manifest : Shape.Sound manifest.fields :=
  sound_fields isRegular_manifest

/-- Edits change no field that must be present. -/
theorem not_editable_of_required : ∀ f ∈ manifest.fields, f.1.required = true →
    f.1.key ∉ Manifest.editableKeys := by
  have hall : (manifest.fields.all fun f =>
      !f.1.required || !Manifest.editableKeys.contains f.1.key) = true := by decide
  intro f hf hrequired
  have h := List.all_eq_true.1 hall f hf
  simpa [hrequired] using h

end Schema

namespace Manifest

/-! ## What a manifest writes -/

/-- The value that a field writes, unless it is null. -/
def json? (m : Manifest) (key : Text) : Option Json :=
  ((m.field? key).map Document.toJson).filter fun j => !j.isNull

/-- The entries that a manifest writes, fields first. -/
def written (m : Manifest) : List (Text × Json) :=
  Schema.manifest.fields.filterMap (fun f => (m.json? f.1.key).map (f.1.key, ·)) ++
    m.unknown.filterMap Unknown.entry?

variable {m n : Manifest}

theorem json?_eq_some_iff {key : Text} {j : Json} :
    m.json? key = some j ↔
      ∃ d, m.field? key = some d ∧ d.toJson = j ∧ j.isNull = false := by
  rw [json?, Option.filter_eq_some_iff, Option.map_eq_some_iff, Bool.not_eq_true']
  constructor
  · rintro ⟨⟨d, hd, hj⟩, hnull⟩
    exact ⟨d, hd, hj, hnull⟩
  · rintro ⟨d, hd, hj, hnull⟩
    exact ⟨⟨d, hd, hj⟩, hnull⟩

theorem toJson_toRecord (m : Manifest) :
    m.toRecord.toDocument.toJson = .obj (arrange m.order m.written) := by
  have hfields : (Document.entriesToJson m.toRecord.fields).filter (fun e => !e.2.isNull) =
      Schema.manifest.fields.filterMap fun f => (m.json? f.1.key).map (f.1.key, ·) := by
    rw [Document.entriesToJson_eq_map, toRecord, Schema.declared, List.filterMap_map,
      List.map_filterMap, List.filter_filterMap]
    refine List.filterMap_congr fun f _ => ?_
    dsimp only [Function.comp_apply]
    rw [json?]
    cases m.field? f.1.key with
    | none => rfl
    | some d =>
      cases hnull : d.toJson.isNull with
      | true => simp [Option.filter, hnull]
      | false => simp [Option.filter, hnull]
  rw [Record.toDocument, Document.toJson, hfields]
  rfl

theorem mem_written_iff {e : Text × Json} :
    e ∈ m.written ↔
      (∃ f ∈ Schema.manifest.fields, f.1.key = e.1 ∧ m.json? f.1.key = some e.2) ∨
        e ∈ m.unknown.filterMap Unknown.entry? := by
  rw [written, List.mem_append, List.mem_filterMap]
  refine or_congr_left ⟨?_, ?_⟩
  · rintro ⟨f, hf, he⟩
    obtain ⟨j, hj, rfl⟩ := Option.map_eq_some_iff.1 he
    exact ⟨f, hf, rfl, hj⟩
  · rintro ⟨f, hf, hkey, hj⟩
    exact ⟨f, hf, by rw [hj, Option.map_some, hkey]⟩

/-! ## Other keys -/

/-- The keys that are no field are distinct, and none of them is the key of a field. -/
structure Separate (m : Manifest) : Prop where
  nodup : m.unknownKeys.Nodup
  apart : ∀ u ∈ m.unknown, ∀ f ∈ Schema.manifest.fields, f.1.key ≠ u.key

/-- Nothing is written twice. -/
theorem Separate.nodup_keys_written (h : m.Separate) : (Entries.keys m.written).Nodup := by
  have hunknown := keys_filterMap_entry?_sublist m.unknown
  refine nodup_keys_append Schema.sound_manifest.apart ?_ (hunknown.nodup h.nodup) ?_
  · rw [Entries.keys, List.map_filterMap, ← List.filterMap_eq_map']
    refine filterMap_sublist_filterMap fun f _ k hk => ?_
    obtain ⟨e, he, rfl⟩ := Option.map_eq_some_iff.1 hk
    obtain ⟨j, -, rfl⟩ := Option.map_eq_some_iff.1 he
    rfl
  · intro e he f hf hkey
    obtain ⟨u, hu, hentry⟩ := List.mem_filterMap.1 he
    exact h.apart u hu f hf (hkey.trans (Unknown.key_of_entry? hentry))

/-! ## Durable manifests -/

/-- A key that stands for no field and is written whatever it holds. -/
structure DurableKey (u : Unknown) : Prop where
  whole : u.key.isWhole = true
  undeclared : fieldNamed? Schema.manifest.fields u.key = none
  first : u.respelling = false
  plain : u.value.Plain

structure Durable (m : Manifest) : Prop where
  links : ∀ target l, m.links target = some l → ∀ k ∈ l.keys, k.isWhole = true
  field : ∀ f ∈ Schema.manifest.fields, ∀ d, m.field? f.1.key = some d → f.2.Writes d
  required : ∀ f ∈ Schema.manifest.fields, f.1.required = true →
    ∃ j, m.json? f.1.key = some j
  nodup : m.unknownKeys.Nodup
  unknown : ∀ u ∈ m.unknown, DurableKey u

theorem DurableKey.entry_eq {u : Unknown} (h : DurableKey u) :
    u.entry? = some (u.key, u.value.finiteOnly) := by
  rw [Unknown.entry?, h.first]
  rfl

namespace Durable

theorem unknown_entries (h : m.Durable) :
    m.unknown.filterMap Unknown.entry? = m.unknown.map fun u => (u.key, u.value.finiteOnly) := by
  rw [← List.filterMap_eq_map']
  exact List.filterMap_congr fun u hu => (h.unknown u hu).entry_eq

/-- The entry of a field is the one under the field's key. -/
theorem of_mem_field (h : m.Durable) {e : Text × Json} (he : e ∈ m.written)
    {f : DeclaredField × Shape} (hf : fieldNamed? Schema.manifest.fields e.1 = some f) :
    f.1.key = e.1 ∧ m.json? f.1.key = some e.2 := by
  rcases mem_written_iff.1 he with ⟨g, hg, hkey, hj⟩ | hunknown
  · rw [← hkey, fieldNamed?_key Schema.sound_manifest.apart hg] at hf
    cases hf
    exact ⟨hkey, hj⟩
  · rw [h.unknown_entries] at hunknown
    obtain ⟨u, hu, rfl⟩ := List.mem_map.1 hunknown
    rw [(h.unknown u hu).undeclared] at hf
    cases hf

theorem of_mem_other (h : m.Durable) {e : Text × Json} (he : e ∈ m.written)
    (hnone : fieldNamed? Schema.manifest.fields e.1 = none) :
    ∃ u ∈ m.unknown, e = (u.key, u.value.finiteOnly) := by
  rcases mem_written_iff.1 he with ⟨g, hg, hkey, -⟩ | hunknown
  · rw [← hkey, fieldNamed?_key Schema.sound_manifest.apart hg] at hnone
    cases hnone
  · rw [h.unknown_entries] at hunknown
    obtain ⟨u, hu, rfl⟩ := List.mem_map.1 hunknown
    exact ⟨u, hu, rfl⟩

theorem separate (h : m.Durable) : m.Separate where
  nodup := h.nodup
  apart := by
    intro u hu f hf hkey
    have hnone := (h.unknown u hu).undeclared
    rw [← hkey, fieldNamed?_key Schema.sound_manifest.apart hf] at hnone
    cases hnone

theorem nodup_keys_written (h : m.Durable) : (Entries.keys m.written).Nodup :=
  h.separate.nodup_keys_written

theorem settledEntries (h : m.Durable) :
    SettledEntries Schema.manifest.closed Schema.manifest.fields m.written where
  nodup := h.nodup_keys_written
  whole := by
    intro e he
    cases hf : fieldNamed? Schema.manifest.fields e.1 with
    | some f =>
      have hsound := Schema.sound_manifest.sound f (mem_of_fieldNamed? hf).1
      rw [← (h.of_mem_field he hf).1]
      exact isWhole_of_isSound hsound
    | none =>
      obtain ⟨u, hu, rfl⟩ := h.of_mem_other he hf
      exact (h.unknown u hu).whole
  field := by
    intro e he f hf
    obtain ⟨hkey, hj⟩ := h.of_mem_field he hf
    obtain ⟨d, hd, hwrites, hnull⟩ := json?_eq_some_iff.1 hj
    have hsettled := (h.field f (mem_of_fieldNamed? hf).1 d hd).settled
    rw [hwrites] at hsettled
    exact ⟨hkey.symm, hnull, hsettled hnull⟩
  other := by
    intro e he hnone
    obtain ⟨u, hu, rfl⟩ := h.of_mem_other he hnone
    have hplain := (h.unknown u hu).plain.finiteOnly
    exact ⟨rfl, Json.isFinite_finiteOnly u.value, hplain.distinct, hplain.whole⟩
  required := by
    intro f hf hrequired
    obtain ⟨j, hj⟩ := h.required f hf hrequired
    exact Entries.mem_keys.2 ⟨j, mem_written_iff.2 (.inl ⟨f, hf, rfl, hj⟩)⟩

theorem writable (h : m.Durable) : m.toRecord.toDocument.hasWholeKeys = true := by
  rw [Record.toDocument, Document.hasWholeKeys_record]
  constructor
  · rintro ⟨key, d⟩ hd
    obtain ⟨g, hg, hmap⟩ := List.mem_filterMap.1 hd
    obtain ⟨f, hf, rfl⟩ := List.mem_map.1 hg
    obtain ⟨c, hc, heq⟩ := Option.map_eq_some_iff.1 hmap
    cases heq
    exact (h.field f hf d hc).writable
  · exact fun u hu => (h.unknown u hu).plain.whole

end Durable

end Manifest

/-! ## Manifests that were read -/

/-- A dependency map that was read stands under whole keys. -/
theorem Links.whole_of_read {j : Json} {d : Document} {l : Links}
    (hread : Schema.textMap.read j = .ok d) (hplain : j.Plain)
    (hl : Links.ofDocument? d = some l) : ∀ k ∈ l.keys, k.isWhole = true := by
  intro k hk
  obtain ⟨version, hmem⟩ := Entries.mem_keys.1 hk
  obtain ⟨entries, _, rfl, -, -⟩ := read_map hread
  obtain ⟨v, hv, -⟩ := Document.of_mem_mapOf? hread hplain.distinct
    Links.viewedBy_text hl hmem
  exact ((Json.plain_obj.1 hplain).2 _ hv).1

/-- A dependency map among the fields of a record that was read stands under whole keys. -/
theorem Links.whole_of_field? {s : Schema} (hregular : s.shape.isRegular = true) {data : Json}
    (hplain : data.Plain) {r : Record} (h : s.shape.read data = .ok r.toDocument)
    (spelling : String)
    (hf : (DeclaredField.optional spelling, Schema.textMap) ∈ s.fields) {key : Text}
    (hkey : key = (DeclaredField.optional spelling).key) {l : Links}
    (hl : (r.field? key).bind Links.ofDocument? = some l) : ∀ k ∈ l.keys, k.isWhole = true := by
  subst hkey
  obtain ⟨d, hd, hdl⟩ := Option.bind_eq_some_iff.1 hl
  obtain ⟨v, hv, hread⟩ := Schema.exists_plain_of_field? hregular hplain h hf hd
  exact Links.whole_of_read hread hv hdl

namespace Manifest

variable {data : Json} {r : Record}

/-- A field that must be present writes a value. -/
theorem exists_json?_of_required (hclean : Clean Schema.manifest.shape data)
    (h : Schema.manifest.shape.read data = .ok r.toDocument) {f : DeclaredField × Shape}
    (hf : f ∈ Schema.manifest.fields) (hrequired : f.1.required = true) :
    ∃ j, (ofRecord r).json? f.1.key = some j := by
  obtain ⟨entries, rfl, hfields, -, -⟩ := Schema.parts_of_read h
  have hentries := readEntries_of_regular Schema.isRegular_manifest hclean h
  obtain ⟨e, he, hnamed, ⟨d, hd⟩, hnull⟩ := hentries.exists_of_required hf hrequired
  have hread := (fieldRead?_eq_some_iff hentries.sound hentries.nodup hentries.once hf).2
    ⟨rfl, e, he, hnamed, Json.not_isNull_of_finiteOnly hnull, hd⟩
  rw [← lookup_fieldsRead hentries.sound.apart hf, ← hfields] at hread
  obtain ⟨c, hc, heq⟩ := Option.map_eq_some_iff.1 hread
  cases heq
  refine ⟨d.toJson, json?_eq_some_iff.2 ⟨d, ?_, rfl, ?_⟩⟩
  · rw [field?_ofRecord hclean.toPlain h]
    exact hc
  · rw [(hentries.back e he f hnamed d hd).writes, ReadEntries.isNull_canonical ⟨d, hd⟩, hnull]

/-- A manifest that was read is durable. -/
theorem durable_ofRecord (hclean : Clean Schema.manifest.shape data)
    (h : Schema.manifest.shape.read data = .ok r.toDocument) : (ofRecord r).Durable := by
  obtain ⟨entries, rfl, -, hunknown, -⟩ := Schema.parts_of_read h
  have hentries := readEntries_of_regular Schema.isRegular_manifest hclean h
  have hothers : r.unknown =
      (Shape.others Schema.manifest.fields entries).map fun e => ⟨e.1, e.2, false⟩ := by
    rw [hunknown, Schema.declared, unknownOf_eq hentries.sound.apart hentries.nodup hentries.once]
  constructor
  case links =>
    intro target l hl
    cases target with
    | require =>
      exact Links.whole_of_field? Schema.isRegular_manifest hclean.toPlain h "require"
        Schema.mem_require (by decide) hl
    | requireDev =>
      exact Links.whole_of_field? Schema.isRegular_manifest hclean.toPlain h "require_dev"
        Schema.mem_requireDev (by decide) hl
  case field =>
    intro f hf d hd
    rw [field?_ofRecord hclean.toPlain h] at hd
    obtain ⟨v, hv, -, hread⟩ := Schema.of_field? Schema.isRegular_manifest hclean h hf hd
    have hregular := Schema.isRegular_of_mem Schema.isRegular_manifest hf
    exact (readsBack f.2 hregular v d hv hread).toWrites
  case required => exact fun f hf hrequired => exists_json?_of_required hclean h hf hrequired
  case nodup =>
    have hkeys : (ofRecord r).unknownKeys =
        (Shape.others Schema.manifest.fields entries).map Prod.fst := by
      rw [unknownKeys, ofRecord, hothers, List.map_map]
      rfl
    rw [hkeys]
    exact (List.filter_sublist.map Prod.fst).nodup hentries.nodup
  case unknown =>
    intro u hu
    rw [ofRecord, hothers] at hu
    obtain ⟨e, he, rfl⟩ := List.mem_map.1 hu
    obtain ⟨hmem, hnone⟩ := List.mem_filter.1 he
    exact ⟨hentries.whole e hmem, Option.isNone_iff_eq_none.1 hnone, rfl,
      hentries.plain e hmem⟩

/-- A manifest is durable that was loaded from a text in which every key has bytes and no field
stands under both of its names. -/
theorem durable_of_load [Machine] {text : Text} {source : Option Text} {m : Manifest}
    (hload : load text source = .ok m) (hparse : Json.parse text = .ok data)
    (hwhole : data.hasWholeKeys = true) (honce : Schema.manifest.shape.namesOnce data = true) :
    m.Durable := by
  obtain ⟨r, hr, rfl⟩ : ∃ r, _ ∧ ofRecord r = m := Schema.read_of_loadText hload hparse
  exact durable_ofRecord ⟨⟨Json.isDistinct_of_parse hparse, hwhole⟩, honce⟩ hr

end Manifest

end ManifestEdit
