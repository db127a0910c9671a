import ManifestEdit.Proofs.Document.Parts
import ManifestEdit.Proofs.Shape.Rewritten

/-!
# What closed records accept

A closed record whose fields may all be absent or null reads an object exactly when every key of it
names a field, no field stands under both of its names, and every value is null or read by the shape
of its field. What is made of a field is made of the value that stands under one of its names.
-/

namespace ManifestEdit

namespace Shape

/-- A field that may be absent or null and whose names are whole. -/
def isOptional (f : DeclaredField) : Bool :=
  !f.required && f.nullable && f.key.isWhole && f.spelling.isWhole

variable {fields : List (DeclaredField × Shape)} {entries : List (Text × Json)}

theorem isOptional_iff {f : DeclaredField} :
    isOptional f = true ↔ f.required = false ∧ f.nullable = true ∧
      ∀ key, isNamed f key = true → key.isWhole = true := by
  simp only [isOptional, isNamed_iff, Bool.and_eq_true, Bool.not_eq_true', and_assoc, or_imp,
    forall_and, forall_eq']

/-- What an entry of a closed record with optional fields may be. -/
def Allowed (fields : List (DeclaredField × Shape)) (e : Text × Json) : Prop :=
  ∃ f ∈ fields, isNamed f.1 e.1 = true ∧ (e.2.isNull = true ∨ f.2.Reads e.2)

theorem standOnce_of_undeclared (hapart : Apart fields)
    (h : undeclared (fields.map Prod.fst) entries = []) : standOnce fields entries = true := by
  rw [standOnce_eq_all hapart, unknownOf, h]
  rfl

theorem undeclared_eq_nil_iff (hapart : Apart fields) (hnodup : (Entries.keys entries).Nodup)
    (honce : standOnce fields entries = true) :
    undeclared (fields.map Prod.fst) entries = [] ↔
      ∀ e ∈ entries, ∃ f ∈ fields, isNamed f.1 e.1 = true := by
  rw [undeclared_eq hapart hnodup honce, others, List.filter_eq_nil_iff]
  refine forall₂_congr fun e _ => ?_
  rw [Option.isNone_iff_eq_none]
  constructor
  · intro h
    obtain ⟨f, hf⟩ := Option.ne_none_iff_exists'.1 h
    exact ⟨f, mem_of_fieldNamed? hf⟩
  · rintro ⟨f, hf, hnamed⟩ hnone
    rw [fieldNamed?_of_mem hapart hf hnamed] at hnone
    cases hnone

/-- A field whose entry is allowed can be read. -/
theorem readable_of_allowed (hapart : Apart fields) (h : ∀ e ∈ entries, Allowed fields e)
    {f : DeclaredField × Shape} (hf : f ∈ fields) (hoptional : isOptional f.1 = true) :
    Readable entries f := by
  obtain ⟨hrequired, hnullable, -⟩ := isOptional_iff.1 hoptional
  unfold Readable
  split
  · exact hrequired
  · rename_i name value hfind
    obtain ⟨g, hg, hnamed, hvalue⟩ := h _ (mem_of_find? hfind)
    have hsame : g = f := eq_of_isNamed hapart hg hf hnamed (isNamed_of_find? hfind)
    subst hsame
    rwa [hnullable, Bool.true_and]

/-- What a closed record with optional fields reads. -/
theorem reads_closed_iff {name : String} (hapart : Apart fields)
    (hoptional : ∀ f ∈ fields, isOptional f.1 = true) (hnodup : (Entries.keys entries).Nodup) :
    (record name true fields).Reads (.obj entries) ↔
      standOnce fields entries = true ∧ ∀ e ∈ entries, Allowed fields e := by
  constructor
  · rintro ⟨d, hd⟩
    obtain ⟨-, hreadable, hclosed, -⟩ := read_record_eq_ok_iff.1 hd
    have hnone := hclosed rfl
    have honce := standOnce_of_undeclared hapart hnone
    refine ⟨honce, fun e he => ?_⟩
    obtain ⟨f, hf, hnamed⟩ := (undeclared_eq_nil_iff hapart hnodup honce).1 hnone e he
    refine ⟨f, hf, hnamed, ?_⟩
    cases hnull : e.2.isNull with
    | true => exact .inl rfl
    | false =>
      exact .inr (reads_of_readable hnodup honce he (fieldNamed?_of_mem hapart hf hnamed)
        (hreadable f hf) hnull)
  · rintro ⟨honce, h⟩
    refine ⟨_, read_record_eq_ok_iff.2 ⟨fun e he => ?_, fun f hf => ?_, fun _ => ?_, rfl⟩⟩
    · obtain ⟨f, hf, hnamed, -⟩ := h e he
      exact (isOptional_iff.1 (hoptional f hf)).2.2 e.1 hnamed
    · exact readable_of_allowed hapart h hf (hoptional f hf)
    · refine (undeclared_eq_nil_iff hapart hnodup honce).2 fun e he => ?_
      obtain ⟨f, hf, hnamed, -⟩ := h e he
      exact ⟨f, hf, hnamed⟩

/-- The value that stands under the first name of a field, or else under the second. -/
theorem map_snd_find? (f : DeclaredField) (entries : List (Text × Json)) :
    (f.find? entries).map Prod.snd =
      (entries.lookup f.key).or (entries.lookup f.spelling) := by
  unfold DeclaredField.find?
  cases entries.lookup f.key with
  | some value => rfl
  | none => cases entries.lookup f.spelling <;> rfl

end Shape

namespace Schema

variable {s : Schema} {entries : List (Text × Json)} {r : Record} {f : DeclaredField × Shape}

/-- The values that a closed schema with optional fields reads. -/
theorem reads_closed_iff (hclosed : s.closed = true) (hapart : Shape.Apart s.fields)
    (hoptional : ∀ f ∈ s.fields, Shape.isOptional f.1 = true) {j : Json}
    (hdistinct : j.isDistinct = true) :
    s.shape.Reads j ↔ ∃ entries, j = .obj entries ∧
      Shape.standOnce s.fields entries = true ∧ ∀ e ∈ entries, Shape.Allowed s.fields e := by
  rw [shape, hclosed]
  constructor
  · rintro ⟨d, hd⟩
    obtain ⟨entries, rfl⟩ := Shape.read_record hd
    have hnodup := (Json.isDistinct_obj.1 hdistinct).1
    exact ⟨entries, rfl, (Shape.reads_closed_iff hapart hoptional hnodup).1 ⟨d, hd⟩⟩
  · rintro ⟨entries, rfl, h⟩
    have hnodup := (Json.isDistinct_obj.1 hdistinct).1
    exact (Shape.reads_closed_iff hapart hoptional hnodup).2 h

theorem field?_eq (hapart : Shape.Apart s.fields)
    (h : s.shape.read (.obj entries) = .ok r.toDocument) (hf : f ∈ s.fields) :
    r.field? f.1.key = (Shape.fieldRead? entries f).map Prod.snd := by
  obtain ⟨_, heq, hfields, -, -⟩ := parts_of_read h
  cases heq
  rw [Record.field?, hfields, ← Shape.lookup_fieldsRead hapart hf, Option.map_map]
  exact Option.map_id_apply.symm

/-- What is made of a field of a record that was read is what is made of its value, where nothing is
made of null. -/
theorem bind_field?_eq (hapart : Shape.Apart s.fields)
    (h : s.shape.read (.obj entries) = .ok r.toDocument)
    (hdistinct : (Json.obj entries).isDistinct = true) (hf : f ∈ s.fields)
    (hnullable : f.1.nullable = true) {α : Type} {part? : Document → Option α}
    {value? : Json → Option α} (hnull : value? .null = none)
    (hpart : ∀ v d, v.isDistinct = true → f.2.read v = .ok d → part? d = value? v) :
    (r.field? f.1.key).bind part? =
      ((entries.lookup f.1.key).or (entries.lookup f.1.spelling)).bind value? := by
  obtain ⟨-, hreadable, -⟩ := Shape.read_record_eq_ok_iff.1 h
  rw [field?_eq hapart h hf, ← Shape.map_snd_find?]
  cases hfind : f.1.find? entries with
  | none => rw [Shape.fieldRead?, hfind]; rfl
  | some e =>
    obtain ⟨name, value⟩ := e
    have hmem := Shape.mem_of_find? hfind
    rw [Option.map_some, Option.bind_some]
    cases hvalue : value.isNull with
    | true =>
      cases value <;> cases hvalue
      rw [hnull, Shape.fieldRead?, hfind, hnullable]
      rfl
    | false =>
      have hkept : (f.1.nullable && value.isNull) = false := by rw [hvalue, Bool.and_false]
      obtain ⟨d, hd, hread⟩ := Shape.exists_fieldRead? (hreadable f hf) hfind hkept
      rw [hd, Option.map_some, Option.bind_some]
      exact hpart value d ((Json.isDistinct_obj.1 hdistinct).2 _ hmem) hread

end Schema

/-! ## Maps of leaves -/

namespace Document

theorem zip_leaf {value : Shape} {entries : List (Text × Json)} {ds : List Document}
    (hleaf : ∀ v d, value.read v = .ok d → d = .leaf v)
    (h : entries.map (fun e => value.read e.2) = ds.map .ok) :
    (Entries.keys entries).zip ds = entries.map fun e => (e.1, leaf e.2) := by
  induction entries generalizing ds with
  | nil => rfl
  | cons e rest ih =>
    cases ds with
    | nil => cases h
    | cons d more =>
      rw [List.map_cons, List.map_cons, List.cons.injEq] at h
      rw [Entries.keys, List.map_cons, List.zip_cons_cons, List.map_cons, hleaf _ _ h.1]
      exact congrArg _ (ih h.2)

/-- A map whose values are kept as they are holds the entries that were read. -/
theorem mapOf?_leaves {α : Type} {value : Shape} {value? : Document → Option α} (json : α → Json)
    {entries : List (Text × Json)} {d : Document}
    (h : (Shape.map value).read (.obj entries) = .ok d)
    (hdistinct : (Json.obj entries).isDistinct = true)
    (hleaf : ∀ v d, value.read v = .ok d → d = .leaf v)
    (hvalue : value.ViewedBy value? fun a => leaf (json a)) :
    (d.mapOf? value?).map (fun m => m.entries.map fun e => (e.1, json e.2)) = some entries := by
  obtain ⟨m, hm, hdocument⟩ := viewedBy_mapOf? hvalue hdistinct h
  obtain ⟨ds, rfl, hds⟩ := Shape.read_map_eq_ok_iff.1 h
  rw [map.injEq, zip_leaf hleaf hds] at hdocument
  have hinjective : Function.Injective fun e : Text × Json => (e.1, leaf e.2) := by
    rintro ⟨key, v⟩ ⟨key', v'⟩ heq
    cases heq
    rfl
  rw [hm, Option.map_some, Option.some.injEq]
  refine List.map_injective_iff.2 hinjective ?_
  rw [← hdocument, List.map_map]
  rfl

end Document

end ManifestEdit
