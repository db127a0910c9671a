import ManifestEdit.Document.Reading
import ManifestEdit.Proofs.Entries

/-!
# What reading accepts

Each shape with parts is read part by part: a list or a map when each of its values is, a choice by
the first member that reads the value, a record when each of its fields is.
-/

namespace ManifestEdit

namespace Reading

variable {α : Type}

theorem all_eq_ok_iff {rs : List (Reading α)} {as : List α} :
    all rs = .ok as ↔ rs = as.map .ok := by
  induction rs generalizing as with
  | nil =>
    rw [all]
    constructor
    · intro h
      cases h
      rfl
    · intro h
      rw [List.map_eq_nil_iff.1 h.symm]
  | cons r rest ih =>
    unfold all
    constructor
    · intro h
      split at h
      · rename_i a more hmore
        cases h
        rw [ih.1 hmore, List.map_cons]
      · cases h
      · cases h
      · cases h
    · intro h
      cases as with
      | nil => cases h
      | cons a more =>
        rw [List.map_cons, List.cons.injEq] at h
        rw [h.1, ih.2 h.2]

theorem under_eq_ok_iff {part : PlacePart} {r : Reading α} {a : α} :
    under part r = .ok a ↔ r = .ok a := by
  cases r with
  | ok b => rfl
  | error failures =>
    constructor
    · intro h
      cases h
    · intro h
      cases h

end Reading

namespace Shape

/-! ## Induction -/

/-- A property of all shapes holds of the members of a choice and the fields of a record first. -/
theorem induct {P : Shape → Prop} (anything : P anything) (text : P text) (flag : P flag)
    (count : P count) (word : ∀ words, P (word words)) (off : P off)
    (list : ∀ item, P item → P (list item)) (map : ∀ value, P value → P (map value))
    (oneOf : ∀ members : List (String × Shape), (∀ m ∈ members, P m.2) → P (oneOf members))
    (record : ∀ name closed (fields : List (DeclaredField × Shape)),
      (∀ f ∈ fields, P f.2) → P (record name closed fields)) (s : Shape) : P s := by
  refine @Shape.rec P (fun members => ∀ m ∈ members, P m.2) (fun fields => ∀ f ∈ fields, P f.2)
    (fun m => P m.2) (fun f => P f.2) anything text flag count word off list map oneOf record
    ?_ ?_ ?_ ?_ ?_ ?_ s
  · exact fun m hm => absurd hm List.not_mem_nil
  · exact fun m rest hm hrest => List.forall_mem_cons.2 ⟨hm, hrest⟩
  · exact fun f hf => absurd hf List.not_mem_nil
  · exact fun f rest hf hrest => List.forall_mem_cons.2 ⟨hf, hrest⟩
  · exact fun _ _ h => h
  · exact fun _ _ h => h

/-! ## Lists and maps -/

theorem map_under_zipIdx {item : Shape} {items : List Json} {ds : List Document} (start : Nat) :
    (items.zipIdx start).map (fun p => Reading.under (.index p.2) (item.read p.1)) =
        ds.map .ok ↔ items.map item.read = ds.map .ok := by
  induction items generalizing start ds with
  | nil => rfl
  | cons j rest ih =>
    rw [List.zipIdx_cons, List.map_cons, List.map_cons]
    cases ds with
    | nil => simp
    | cons d more =>
      rw [List.map_cons, List.cons.injEq, List.cons.injEq, ih (start + 1),
        Reading.under_eq_ok_iff]

theorem map_under_keys {value : Shape} {entries : List (Text × Json)} {ds : List Document} :
    entries.map (fun e => Reading.under (.key e.1.repaired) (value.read e.2)) = ds.map .ok ↔
      entries.map (fun e => value.read e.2) = ds.map .ok := by
  induction entries generalizing ds with
  | nil => rfl
  | cons e rest ih =>
    rw [List.map_cons, List.map_cons]
    cases ds with
    | nil => simp
    | cons d more =>
      rw [List.map_cons, List.cons.injEq, List.cons.injEq, ih, Reading.under_eq_ok_iff]

theorem read_list_eq_ok_iff {item : Shape} {items : List Json} {d : Document} :
    (list item).read (.arr items) = .ok d ↔
      ∃ ds, d = .list ds ∧ items.map item.read = ds.map .ok := by
  rw [read]
  constructor
  · intro h
    split at h
    · rename_i ds hds
      cases h
      exact ⟨ds, rfl, (map_under_zipIdx 0).1 (Reading.all_eq_ok_iff.1 hds)⟩
    · cases h
  · rintro ⟨ds, rfl, hds⟩
    have hall := Reading.all_eq_ok_iff.2 ((map_under_zipIdx 0).2 hds)
    rw [hall]

theorem read_map_eq_ok_iff {value : Shape} {entries : List (Text × Json)} {d : Document} :
    (map value).read (.obj entries) = .ok d ↔
      ∃ ds, d = .map ((Entries.keys entries).zip ds) ∧
        entries.map (fun e => value.read e.2) = ds.map .ok := by
  rw [read]
  constructor
  · intro h
    split at h
    · rename_i ds hds
      cases h
      exact ⟨ds, rfl, map_under_keys.1 (Reading.all_eq_ok_iff.1 hds)⟩
    · cases h
  · rintro ⟨ds, rfl, hds⟩
    have hall := Reading.all_eq_ok_iff.2 (map_under_keys.2 hds)
    rw [hall]

/-! ## Choices -/

/-- Whether a shape reads a value at all. -/
def Reads (s : Shape) (j : Json) : Prop :=
  ∃ d, s.read j = .ok d

theorem read_oneOf_eq_ok_iff {members : List (String × Shape)} {j : Json} {d : Document} :
    (oneOf members).read j = .ok d ↔ ∃ c, d = .choice c ∧ readMembers members j = .ok c := by
  rw [read]
  constructor
  · intro h
    split at h
    · rename_i c hc
      cases h
      exact ⟨c, rfl, hc⟩
    · cases h
  · rintro ⟨c, rfl, hc⟩
    rw [hc]

theorem readMembers_cons_eq_ok_iff {label : String} {s : Shape} {rest : List (String × Shape)}
    {j : Json} {d : Document} :
    readMembers ((label, s) :: rest) j = .ok d ↔
      s.read j = .ok d ∨ ¬ s.Reads j ∧ readMembers rest j = .ok d := by
  rw [readMembers]
  cases hs : s.read j with
  | ok c =>
    have hreads : s.Reads j := ⟨c, hs⟩
    simp [Reading.under, hreads]
  | error failures =>
    have hfails : ¬ s.Reads j := by
      rintro ⟨c, hc⟩
      rw [hs] at hc
      cases hc
    simp only [Reading.under, hfails, not_false_eq_true, true_and, reduceCtorEq, false_or]
    constructor
    · intro h
      split at h
      · rename_i c hc
        rw [hc, ← h]
      · cases h
    · intro h
      rw [h]

/-! ## Records -/

theorem mem_of_find? {f : DeclaredField} {entries : List (Text × Json)} {name : Text}
    {value : Json} (h : f.find? entries = some (name, value)) : (name, value) ∈ entries := by
  unfold DeclaredField.find? at h
  split at h
  · rename_i v hv
    cases h
    exact Entries.mem_of_lookup hv
  · obtain ⟨v, hv, heq⟩ := Option.map_eq_some_iff.1 h
    cases heq
    exact Entries.mem_of_lookup hv

/-- A key is not declared when no field is read under it. -/
theorem mem_undeclared_iff {fields : List (DeclaredField × Shape)} {entries : List (Text × Json)}
    {e : Text × Json} :
    e ∈ undeclared (fields.map Prod.fst) entries ↔
      e ∈ entries ∧ ∀ f ∈ fields, ∀ value, f.1.find? entries ≠ some (e.1, value) := by
  rw [undeclared, List.mem_filter, Bool.not_eq_true', ← Bool.not_eq_true, List.contains_iff_mem,
    namesRead, List.filterMap_map, List.mem_filterMap]
  refine and_congr_right fun _ => ⟨fun h f hf value hfind => h ⟨f, hf, ?_⟩, ?_⟩
  · rw [Function.comp_apply, hfind, Option.map_some]
  · rintro h ⟨f, hf, hname⟩
    obtain ⟨⟨name, value⟩, hfind, rfl⟩ := Option.map_eq_some_iff.1 hname
    exact h f hf value hfind

/-- Whether a field of a record can be read from its entries. -/
def Readable (entries : List (Text × Json)) (f : DeclaredField × Shape) : Prop :=
  match f.1.find? entries with
  | none => f.1.required = false
  | some (_, value) => (f.1.nullable && value.isNull) = true ∨ f.2.Reads value

/-- The field as it is read, where it is present. -/
def fieldRead? (entries : List (Text × Json)) (f : DeclaredField × Shape) :
    Option (Text × Document) :=
  match f.1.find? entries with
  | none => none
  | some (_, value) =>
    if f.1.nullable && value.isNull then none
    else (f.2.read value).toOption.map (f.1.key, ·)

theorem of_fieldRead? {entries : List (Text × Json)} {f : DeclaredField × Shape}
    {e : Text × Document} (h : fieldRead? entries f = some e) :
    ∃ name value, f.1.find? entries = some (name, value) ∧
      (f.1.nullable && value.isNull) = false ∧ e.1 = f.1.key ∧ f.2.read value = .ok e.2 := by
  unfold fieldRead? at h
  split at h
  · cases h
  · rename_i name value hfind
    split at h
    · cases h
    · rename_i hnull
      obtain ⟨d, hd, rfl⟩ := Option.map_eq_some_iff.1 h
      refine ⟨name, value, hfind, Bool.eq_false_iff.2 hnull, rfl, ?_⟩
      cases hv : f.2.read value with
      | ok c =>
        rw [hv] at hd
        cases hd
        rfl
      | error failures =>
        rw [hv] at hd
        cases hd

theorem fieldRead?_of_find? {entries : List (Text × Json)} {f : DeclaredField × Shape} {name : Text}
    {value : Json} {d : Document} (hfind : f.1.find? entries = some (name, value))
    (hnull : (f.1.nullable && value.isNull) = false) (hread : f.2.read value = .ok d) :
    fieldRead? entries f = some (f.1.key, d) := by
  rw [fieldRead?, hfind]
  dsimp only
  rw [hnull, if_neg Bool.false_ne_true, hread]
  rfl

/-- A field that is found and need not be left out is read. -/
theorem exists_fieldRead? {entries : List (Text × Json)} {f : DeclaredField × Shape} {name : Text}
    {value : Json} (hreadable : Readable entries f) (hfind : f.1.find? entries = some (name, value))
    (hnull : (f.1.nullable && value.isNull) = false) :
    ∃ d, fieldRead? entries f = some (f.1.key, d) ∧ f.2.read value = .ok d := by
  unfold Readable at hreadable
  rw [hfind] at hreadable
  dsimp only at hreadable
  rw [hnull] at hreadable
  obtain ⟨d, hd⟩ : f.2.Reads value := hreadable.resolve_left Bool.false_ne_true
  exact ⟨d, fieldRead?_of_find? hfind hnull hd, hd⟩

/-- The reading of one field. -/
def readField (entries : List (Text × Json)) (f : DeclaredField × Shape) :
    Reading (Option (Text × Document)) :=
  match f.1.find? entries with
  | none => if f.1.required then Reading.fail (.missing f.1.key) else .ok none
  | some (name, value) =>
    if f.1.nullable && value.isNull then .ok none
    else
      match Reading.under (.key name) (f.2.read value) with
      | .ok d => .ok (some (f.1.key, d))
      | .error failures => .error failures

theorem readFields_eq_map (fields : List (DeclaredField × Shape)) (entries : List (Text × Json)) :
    readFields fields entries = fields.map (readField entries) := by
  induction fields with
  | nil => rfl
  | cons f rest ih =>
    obtain ⟨field, s⟩ := f
    rw [readFields, ih, List.map_cons]
    rfl

theorem readField_eq_ok_iff {entries : List (Text × Json)} {f : DeclaredField × Shape}
    {value : Option (Text × Document)} :
    readField entries f = .ok value ↔ Readable entries f ∧ value = fieldRead? entries f := by
  unfold readField Readable fieldRead?
  split
  · cases f.1.required with
    | true => simp [Reading.fail]
    | false => simp [eq_comm]
  · rename_i name v _
    by_cases hnull : (f.1.nullable && v.isNull) = true
    · simp [hnull, eq_comm]
    · rw [if_neg hnull, if_neg hnull]
      cases hv : f.2.read v with
      | ok d =>
        have hreads : f.2.Reads v := ⟨d, hv⟩
        simp only [Reading.under, hreads, or_true, true_and, Except.toOption, Option.map_some,
          Except.ok.injEq]
        exact eq_comm
      | error failures =>
        have hfails : ¬ f.2.Reads v := by
          rintro ⟨d, hd⟩
          rw [hv] at hd
          cases hd
        simp [Reading.under, hfails, hnull]

theorem map_readField_eq_iff {entries : List (Text × Json)}
    {fields : List (DeclaredField × Shape)} {values : List (Option (Text × Document))} :
    fields.map (readField entries) = values.map .ok ↔
      (∀ f ∈ fields, Readable entries f) ∧ values = fields.map (fieldRead? entries) := by
  induction fields generalizing values with
  | nil => simp [eq_comm]
  | cons f rest ih =>
    rw [List.map_cons, List.map_cons, List.forall_mem_cons]
    cases values with
    | nil => simp
    | cons value more =>
      rw [List.map_cons, List.cons.injEq, List.cons.injEq, ih, readField_eq_ok_iff]
      constructor
      · rintro ⟨⟨hf, hv⟩, hrest, hmore⟩
        exact ⟨⟨hf, hrest⟩, hv, hmore⟩
      · rintro ⟨⟨hf, hrest⟩, hv, hmore⟩
        exact ⟨⟨hf, hv⟩, hrest, hmore⟩

theorem assemble_eq_ok_iff {closed : Bool} {fields : List DeclaredField}
    {entries : List (Text × Json)} {values : Reading (List (Option (Text × Document)))}
    {d : Document} :
    assemble closed fields entries values = .ok d ↔
      (closed = true → undeclared fields entries = []) ∧
        ∃ vs, values = .ok vs ∧
          d = .record (vs.filterMap id) (unknownOf fields entries) (orderOf fields entries) := by
  unfold assemble
  dsimp only
  constructor
  · intro h
    split at h
    · rename_i vs hextra
      cases h
      refine ⟨?_, vs, rfl, rfl⟩
      intro hclosed
      rw [if_pos hclosed] at hextra
      exact List.map_eq_nil_iff.1 hextra
    · cases h
    · cases h
  · rintro ⟨hclosed, vs, rfl, rfl⟩
    have hextra : (if closed = true then
        (undeclared fields entries).map fun e => (⟨[], .unknown e.1⟩ : Failure) else []) = [] := by
      split
      · rename_i hc
        rw [hclosed hc, List.map_nil]
      · rfl
    rw [hextra]

/-- A record is read when its keys are whole, its fields can be read and, if it is closed, it holds
no other key. -/
theorem read_record_eq_ok_iff {name : String} {closed : Bool}
    {fields : List (DeclaredField × Shape)} {entries : List (Text × Json)} {d : Document} :
    (record name closed fields).read (.obj entries) = .ok d ↔
      (∀ e ∈ entries, e.1.isWhole = true) ∧ (∀ f ∈ fields, Readable entries f) ∧
        (closed = true → undeclared (fields.map Prod.fst) entries = []) ∧
          d = .record (fields.filterMap (fieldRead? entries))
            (unknownOf (fields.map Prod.fst) entries) (orderOf (fields.map Prod.fst) entries) := by
  have hvalues : (fields.map (fieldRead? entries)).filterMap id =
      fields.filterMap (fieldRead? entries) := by
    rw [List.filterMap_map]
    rfl
  rw [read]
  constructor
  · intro h
    split at h
    · rename_i hwhole
      obtain ⟨hclosed, vs, hvs, rfl⟩ := assemble_eq_ok_iff.1 h
      rw [readFields_eq_map] at hvs
      obtain ⟨hreadable, rfl⟩ := map_readField_eq_iff.1 (Reading.all_eq_ok_iff.1 hvs)
      rw [hvalues]
      exact ⟨List.all_eq_true.1 hwhole, hreadable, hclosed, rfl⟩
    · cases h
  · rintro ⟨hwhole, hreadable, hclosed, rfl⟩
    rw [if_pos (List.all_eq_true.2 hwhole)]
    refine assemble_eq_ok_iff.2 ⟨hclosed, fields.map (fieldRead? entries), ?_, by rw [hvalues]⟩
    rw [readFields_eq_map]
    exact Reading.all_eq_ok_iff.2 (map_readField_eq_iff.2 ⟨hreadable, rfl⟩)

end Shape

end ManifestEdit
