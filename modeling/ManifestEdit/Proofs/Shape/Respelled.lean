import ManifestEdit.Proofs.Shape.Restored
import ManifestEdit.Proofs.Shape.Writable

/-!
# Fields under both of their names

A field that stands under both of its names is read under its key, and its spelling is kept as a key
that is not declared. A document is restored exactly when no record in it holds a field under both
names and null under one of them: a null field is not written, so the spelling is read in its place,
and a null respelling is not written either. The proof is by induction on the shape. In a record
each field is found again under its key, and the keys that are not declared stay so, unless a
respelling has lost the field beside it.
-/

namespace ManifestEdit

namespace Shape

/-! ## Fields that stand twice -/

/-- Whether no field stands under both of its names and is null under one. -/
def twinsFull (fields : List (DeclaredField × Shape)) (entries : List (Text × Json)) : Bool :=
  fields.all fun f =>
    f.1.key = f.1.spelling ||
      match entries.lookup f.1.key, entries.lookup f.1.spelling with
      | some v, some w => !v.isNull && !w.isNull
      | _, _ => true

mutual

/-- Whether in no record read by the shape, at any depth, a field stands under both of its names and
is null under one. -/
def twinsHold : Shape → Json → Bool
  | list item, .arr items => items.all (twinsHold item)
  | map value, .obj entries => entries.all fun e => twinsHold value e.2
  | oneOf members, j => memberTwinsHold members j
  | record _ _ fields, .obj entries => twinsFull fields entries && fieldTwinsHold fields entries
  | _, _ => true

def memberTwinsHold : List (String × Shape) → Json → Bool
  | [], _ => true
  | (_, s) :: rest, j =>
    match s.read j with
    | .ok _ => twinsHold s j
    | .error _ => memberTwinsHold rest j

def fieldTwinsHold : List (DeclaredField × Shape) → List (Text × Json) → Bool
  | [], _ => true
  | (f, s) :: rest, entries =>
    (match f.find? entries with
      | some e => e.2.isNull || twinsHold s e.2
      | none => true) && fieldTwinsHold rest entries

end

theorem twinsHold_scalar {s : Shape} (hs : s.isScalar = true) (j : Json) :
    s.twinsHold j = true := by
  cases s <;> cases hs <;> rw [twinsHold] <;> simp

theorem memberTwinsHold_append {before after : List (String × Shape)} {label : String}
    {s : Shape} {j : Json} {d : Document} (hbefore : ∀ m ∈ before, ¬ m.2.Reads j)
    (h : s.read j = .ok d) :
    memberTwinsHold (before ++ (label, s) :: after) j = s.twinsHold j := by
  induction before with
  | nil => rw [List.nil_append, memberTwinsHold, h]
  | cons m rest ih =>
    rw [List.forall_mem_cons] at hbefore
    rw [List.cons_append, memberTwinsHold]
    cases hm : m.2.read j with
    | ok c => exact absurd ⟨c, hm⟩ hbefore.1
    | error failures => exact ih hbefore.2

theorem fieldTwinsHold_iff {fields : List (DeclaredField × Shape)}
    {entries : List (Text × Json)} :
    fieldTwinsHold fields entries = true ↔
      ∀ f ∈ fields, ∀ e, f.1.find? entries = some e → e.2.isNull = false →
        f.2.twinsHold e.2 = true := by
  induction fields with
  | nil => simp [fieldTwinsHold]
  | cons f rest ih =>
    rw [fieldTwinsHold, Bool.and_eq_true, ih, List.forall_mem_cons]
    refine and_congr_left fun _ => ?_
    cases f.1.find? entries with
    | none => simp
    | some e => cases hnull : e.2.isNull <;> simp [hnull]

theorem twinsFull_iff {fields : List (DeclaredField × Shape)} {entries : List (Text × Json)}
    (hnodup : (Entries.keys entries).Nodup) :
    twinsFull fields entries = true ↔
      ∀ f ∈ fields, f.1.key ≠ f.1.spelling → ∀ v w, (f.1.key, v) ∈ entries →
        (f.1.spelling, w) ∈ entries → v.isNull = false ∧ w.isNull = false := by
  rw [twinsFull, List.all_eq_true]
  refine forall_congr' fun f => imp_congr_right fun _ => ?_
  by_cases hne : f.1.key = f.1.spelling
  · simp [hne]
  · simp only [← Entries.lookup_eq_some_iff hnodup, hne, decide_false, Bool.false_or, ne_eq,
      not_false_eq_true, forall_const]
    cases entries.lookup f.1.key with
    | none => simp
    | some v =>
      cases entries.lookup f.1.spelling with
      | none => simp
      | some w => simp

/-- A document without records holds no field at all. -/
theorem twinsHold_of_bare (s : Shape) :
    ∀ j d, s.read j = .ok d → d.Bare → s.twinsHold j = true := by
  induction s using induct with
  | anything => exact fun j _ _ _ => by rw [twinsHold] <;> simp
  | text => exact fun j _ _ _ => twinsHold_scalar rfl j
  | flag => exact fun j _ _ _ => twinsHold_scalar rfl j
  | count => exact fun j _ _ _ => twinsHold_scalar rfl j
  | word words => exact fun j _ _ _ => twinsHold_scalar rfl j
  | off => exact fun j _ _ _ => by rw [twinsHold] <;> simp
  | list item ih =>
    intro j d h hbare
    obtain ⟨items, ds, rfl, rfl, hds⟩ := read_list h
    obtain ⟨⟩ | ⟨hitems⟩ | ⟨⟩ := hbare
    rw [twinsHold, List.all_eq_true]
    intro i hi
    obtain ⟨d, hd, hread⟩ := exists_mem_of_map_eq_map_ok hds hi
    exact ih i d hread (hitems d hd)
  | map value ih =>
    intro j d h hbare
    obtain ⟨entries, ds, rfl, rfl, hds⟩ := read_map h
    obtain ⟨⟩ | ⟨⟩ | ⟨hentries⟩ := hbare
    have hvalues := List.map_snd_zip (Nat.le_of_eq (length_keys_of_read hds).symm)
    rw [twinsHold, List.all_eq_true]
    intro e he
    obtain ⟨d, hd, hread⟩ := exists_mem_of_map_eq_map_ok hds he
    obtain ⟨o, ho, rfl⟩ := List.mem_map.1 (hvalues ▸ hd)
    exact ih e.2 o.2 hread (hentries o ho)
  | oneOf members ih =>
    intro j d h hbare
    obtain ⟨c, rfl, -⟩ := read_oneOf_eq_ok_iff.1 h
    cases hbare
  | record name closed fields ih =>
    intro j d h hbare
    obtain ⟨entries, rfl⟩ := read_record h
    obtain ⟨-, -, -, rfl⟩ := read_record_eq_ok_iff.1 h
    cases hbare

/-! ## Records -/

section Record

variable {closed : Bool} {fields : List (DeclaredField × Shape)} {entries : List (Text × Json)}

theorem find?_eq_none_iff {f : DeclaredField} :
    f.find? entries = none ↔
      f.key ∉ Entries.keys entries ∧ f.spelling ∉ Entries.keys entries := by
  rw [← Entries.lookup_eq_none_iff, ← Entries.lookup_eq_none_iff, DeclaredField.find?]
  cases entries.lookup f.key with
  | none => simp
  | some value => simp

/-- The entries that a record writes. -/
def rewritten (fields : List (DeclaredField × Shape)) (entries : List (Text × Json)) :
    List (Text × Json) :=
  arrange (orderOf (fields.map Prod.fst) entries) (parts fields entries)

/-- The record that is read from entries. -/
def recordRead (fields : List (DeclaredField × Shape)) (entries : List (Text × Json)) : Document :=
  .record (fieldsRead fields entries) (unknownOf (fields.map Prod.fst) entries)
    (orderOf (fields.map Prod.fst) entries)

theorem toJson_recordRead (fields : List (DeclaredField × Shape)) (entries : List (Text × Json)) :
    (recordRead fields entries).toJson = .obj (rewritten fields entries) :=
  toJson_record_eq fields entries

/-- What is known of the entries of a record that was read from finite numbers. -/
structure FiniteEntries (closed : Bool) (fields : List (DeclaredField × Shape))
    (entries : List (Text × Json)) : Prop where
  sound : Sound fields
  nodup : (Entries.keys entries).Nodup
  whole : ∀ e ∈ entries, e.1.isWhole = true
  finite : ∀ e ∈ entries, e.2.isFinite = true
  readable : ∀ f ∈ fields, Readable entries f
  closes : closed = true → undeclared (fields.map Prod.fst) entries = []

namespace FiniteEntries

theorem isNull_of_fieldRead? (h : FiniteEntries closed fields entries)
    {f : DeclaredField × Shape} (hf : f ∈ fields) {d : Document}
    (hread : fieldRead? entries f = some (f.1.key, d)) : d.toJson.isNull = false := by
  obtain ⟨name, value, hfind, hnullable, -, hvalue⟩ := of_fieldRead? hread
  rw [isNull_toJson hvalue (h.finite _ (mem_of_find? hfind))]
  exact isNull_of_nullable (h.sound.sound f hf) ⟨d, hvalue⟩ hnullable

/-- Every field that is read is written, and every other key but a null respelling. -/
theorem mem_rewritten_iff (h : FiniteEntries closed fields entries) {e : Text × Json} :
    e ∈ rewritten fields entries ↔
      (∃ f ∈ fields, ∃ d, fieldRead? entries f = some (f.1.key, d) ∧ e = (f.1.key, d.toJson)) ∨
        e ∈ undeclared (fields.map Prod.fst) entries ∧
          ∀ f ∈ fields, f.1.spelling = e.1 → e.2.isNull = false := by
  rw [rewritten, mem_arrange_iff (nodup_keys_parts h.sound.apart h.nodup)]
  constructor
  · intro he
    rcases WritableEntries.of_mem_parts he with ⟨f, hf, d, hread, heq, -⟩ | ⟨o, ho, rfl, hnull⟩
    · exact .inl ⟨f, hf, d, hread, heq⟩
    · rw [Json.finiteOnly_of_isFinite (h.finite o (List.mem_filter.1 ho).1)] at hnull ⊢
      refine .inr ⟨ho, fun f hf hspelling => hnull ?_⟩
      exact List.any_eq_true.2 ⟨f.1, List.mem_map_of_mem hf, decide_eq_true hspelling⟩
  · rintro (⟨f, hf, d, hread, rfl⟩ | ⟨ho, hnull⟩)
    · exact mem_parts_of_fieldRead? hf hread (h.isNull_of_fieldRead? hf hread)
    · refine List.mem_append_right _ (List.mem_filterMap.2 ⟨_, List.mem_map_of_mem ho, ?_⟩)
      have hfinite := Json.finiteOnly_of_isFinite (h.finite e (List.mem_filter.1 ho).1)
      have hwritten : ((fields.map Prod.fst).any (fun f => f.spelling = e.1) && e.2.isNull) =
          false := by
        refine Bool.and_eq_false_imp.2 fun hany => ?_
        obtain ⟨g, hg, hspelling⟩ := List.any_eq_true.1 hany
        obtain ⟨f, hf, rfl⟩ := List.mem_map.1 hg
        exact hnull f hf (of_decide_eq_true hspelling)
      rw [Unknown.entry?]
      dsimp only
      rw [hfinite, hwritten, if_neg Bool.false_ne_true]

theorem nodup_keys_rewritten (h : FiniteEntries closed fields entries) :
    (Entries.keys (rewritten fields entries)).Nodup :=
  nodup_keys_arrange _ (nodup_keys_parts h.sound.apart h.nodup)

/-- Under the key of a field stands what the field writes. -/
theorem mem_rewritten_key_iff (h : FiniteEntries closed fields entries)
    {f : DeclaredField × Shape} (hf : f ∈ fields) {value : Json} :
    (f.1.key, value) ∈ rewritten fields entries ↔
      ∃ d, fieldRead? entries f = some (f.1.key, d) ∧ value = d.toJson := by
  rw [h.mem_rewritten_iff]
  constructor
  · rintro (⟨g, hg, d, hread, heq⟩ | ⟨ho, -⟩)
    · rw [Prod.mk.injEq] at heq
      have hsame : g = f := eq_of_isNamed h.sound.apart hg hf (isNamed_iff.2 (.inl heq.1.symm))
        (isNamed_key f.1)
      rw [hsame] at hread heq
      exact ⟨d, hread, heq.2⟩
    · exact absurd rfl (key_of_undeclared ho hf (isNamed_key f.1)).1
  · rintro ⟨d, hread, rfl⟩
    exact .inl ⟨f, hf, d, hread, rfl⟩

/-- Under the spelling of a field stands a respelling that is not null. -/
theorem of_mem_rewritten_spelling (h : FiniteEntries closed fields entries)
    {f : DeclaredField × Shape} (hf : f ∈ fields) (hne : f.1.key ≠ f.1.spelling) {value : Json}
    (hmem : (f.1.spelling, value) ∈ rewritten fields entries) :
    (f.1.spelling, value) ∈ undeclared (fields.map Prod.fst) entries ∧ value.isNull = false := by
  rcases h.mem_rewritten_iff.1 hmem with ⟨g, hg, d, -, heq⟩ | ⟨ho, hnull⟩
  · rw [Prod.mk.injEq] at heq
    have hsame : g = f := eq_of_isNamed h.sound.apart hg hf (isNamed_iff.2 (.inl heq.1.symm))
      (isNamed_iff.2 (.inr rfl))
    rw [hsame] at heq
    exact absurd heq.1.symm hne
  · exact ⟨ho, hnull f hf rfl⟩

theorem find?_rewritten (h : FiniteEntries closed fields entries) {f : DeclaredField × Shape}
    (hf : f ∈ fields) {d : Document} (hread : fieldRead? entries f = some (f.1.key, d)) :
    f.1.find? (rewritten fields entries) = some (f.1.key, d.toJson) := by
  have hmem := (h.mem_rewritten_key_iff hf).2 ⟨d, hread, rfl⟩
  rw [DeclaredField.find?, Entries.lookup_of_mem h.nodup_keys_rewritten hmem]

/-! Where no field stands twice with a null, all is read again. -/

/-- A respelling that is not null stands beside a field that is read. -/
theorem twins_of_undeclared (h : FiniteEntries closed fields entries)
    (hfull : twinsFull fields entries = true) {o : Text × Json}
    (ho : o ∈ undeclared (fields.map Prod.fst) entries) {f : DeclaredField × Shape}
    (hf : f ∈ fields) (hspelling : f.1.spelling = o.1) :
    o.2.isNull = false ∧ ∃ d, fieldRead? entries f = some (f.1.key, d) := by
  obtain ⟨hne, hkey⟩ := key_of_undeclared ho hf (isNamed_iff.2 (.inr hspelling))
  obtain ⟨value, hfind⟩ := exists_find?_of_key hkey
  have hnulls := (twinsFull_iff h.nodup).1 hfull f hf (hspelling ▸ hne) value o.2
    (mem_of_find? hfind) (hspelling ▸ (List.mem_filter.1 ho).1)
  obtain ⟨d, hread, -⟩ := exists_fieldRead? (h.readable f hf) hfind
    (Bool.and_eq_false_imp.2 fun _ => hnulls.1)
  exact ⟨hnulls.2, d, hread⟩

theorem find?_rewritten_eq_none (h : FiniteEntries closed fields entries)
    (hfull : twinsFull fields entries = true) {f : DeclaredField × Shape} (hf : f ∈ fields)
    (hread : fieldRead? entries f = none) : f.1.find? (rewritten fields entries) = none := by
  have hkey : f.1.key ∉ Entries.keys (rewritten fields entries) := by
    intro hmem
    obtain ⟨value, hvalue⟩ := Entries.mem_keys.1 hmem
    obtain ⟨d, hd, -⟩ := (h.mem_rewritten_key_iff hf).1 hvalue
    rw [hread] at hd
    cases hd
  refine find?_eq_none_iff.2 ⟨hkey, fun hmem => ?_⟩
  obtain ⟨value, hvalue⟩ := Entries.mem_keys.1 hmem
  have hne : f.1.key ≠ f.1.spelling := fun heq => hkey (heq ▸ hmem)
  obtain ⟨-, d, hd⟩ :=
    h.twins_of_undeclared hfull (h.of_mem_rewritten_spelling hf hne hvalue).1 hf rfl
  rw [hread] at hd
  cases hd

/-- A field is found again under its key and nowhere else. -/
theorem find?_rewritten_iff (h : FiniteEntries closed fields entries)
    (hfull : twinsFull fields entries = true) {f : DeclaredField × Shape} (hf : f ∈ fields)
    {name : Text} {value : Json} :
    f.1.find? (rewritten fields entries) = some (name, value) ↔
      ∃ d, fieldRead? entries f = some (f.1.key, d) ∧ name = f.1.key ∧ value = d.toJson := by
  cases hread : fieldRead? entries f with
  | none => simp [h.find?_rewritten_eq_none hfull hf hread]
  | some e =>
    obtain ⟨key, d⟩ := e
    have hkey : key = f.1.key := key_of_fieldRead? hread
    subst hkey
    simp [h.find?_rewritten hf hread, eq_comm]

theorem readable_rewritten (h : FiniteEntries closed fields entries)
    (hfull : twinsFull fields entries = true) {f : DeclaredField × Shape} (hf : f ∈ fields)
    (hrestored : ∀ d, fieldRead? entries f = some (f.1.key, d) → f.2.Restored d) :
    Readable (rewritten fields entries) f := by
  unfold Readable
  split
  · rename_i hnone
    have hreadable := h.readable f hf
    cases hfind : f.1.find? entries with
    | none =>
      unfold Readable at hreadable
      rw [hfind] at hreadable
      exact hreadable
    | some e =>
      cases hrequired : f.1.required with
      | false => rfl
      | true =>
        have hnullable := nullable_of_required (h.sound.sound f hf) hrequired
        obtain ⟨d, hread, -⟩ := exists_fieldRead? hreadable hfind
          (by rw [hnullable, Bool.false_and])
        rw [h.find?_rewritten hf hread] at hnone
        cases hnone
  · rename_i name value hfind
    obtain ⟨d, hread, -, rfl⟩ := (h.find?_rewritten_iff hfull hf).1 hfind
    obtain ⟨e, he, -⟩ := hrestored d hread
    exact .inr ⟨e, he⟩

theorem rel_fieldRead? (h : FiniteEntries closed fields entries)
    (hfull : twinsFull fields entries = true) {f : DeclaredField × Shape} (hf : f ∈ fields)
    (hrestored : ∀ d, fieldRead? entries f = some (f.1.key, d) → f.2.Restored d) :
    Option.Rel (Document.SameEntry Document.SameContent) (fieldRead? entries f)
      (fieldRead? (rewritten fields entries) f) := by
  cases hread : fieldRead? entries f with
  | none =>
    rw [fieldRead?, h.find?_rewritten_eq_none hfull hf hread]
    exact .none
  | some e =>
    obtain ⟨key, d⟩ := e
    have hkey : key = f.1.key := key_of_fieldRead? hread
    subst hkey
    obtain ⟨e, he, hsame⟩ := hrestored d hread
    have hnull := h.isNull_of_fieldRead? hf hread
    rw [fieldRead?_of_find? (h.find?_rewritten hf hread)
      (Bool.and_eq_false_imp.2 fun _ => hnull) he]
    exact .some ⟨hsame⟩

theorem sameEntries_fieldsRead (h : FiniteEntries closed fields entries)
    (hfull : twinsFull fields entries = true)
    (hrestored : ∀ f ∈ fields, ∀ d, fieldRead? entries f = some (f.1.key, d) → f.2.Restored d) :
    List.Forall₂ (Document.SameEntry Document.SameContent) (fieldsRead fields entries)
      (fieldsRead fields (rewritten fields entries)) := by
  let same (f g : DeclaredField × Shape) : Prop := f = g ∧ f ∈ fields
  refine List.rel_filterMap (R := same) ?_ (List.forall₂_same.2 fun f hf => ⟨rfl, hf⟩)
  rintro f _ ⟨rfl, hf⟩
  exact h.rel_fieldRead? hfull hf (hrestored f hf)

theorem perm_undeclared (h : FiniteEntries closed fields entries)
    (hfull : twinsFull fields entries = true) :
    (undeclared (fields.map Prod.fst) entries).Perm
      (undeclared (fields.map Prod.fst) (rewritten fields entries)) := by
  have hnodup := (List.Nodup.of_map _ h.nodup).filter
    (fun e => !(namesRead (fields.map Prod.fst) entries).contains e.1)
  have hnodup' := (List.Nodup.of_map _ h.nodup_keys_rewritten).filter
    (fun e => !(namesRead (fields.map Prod.fst) (rewritten fields entries)).contains e.1)
  refine (List.perm_ext_iff_of_nodup hnodup hnodup').2 fun o => ?_
  constructor
  · intro ho
    have hwritten : o ∈ rewritten fields entries := h.mem_rewritten_iff.2
      (.inr ⟨ho, fun f hf hspelling => (h.twins_of_undeclared hfull ho hf hspelling).1⟩)
    refine mem_undeclared_iff.2 ⟨hwritten, fun f hf value hfind => ?_⟩
    obtain ⟨-, -, hkey, -⟩ := (h.find?_rewritten_iff hfull hf).1 hfind
    exact (key_of_undeclared ho hf (isNamed_iff.2 (.inl hkey.symm))).1 hkey.symm
  · intro ho
    obtain ⟨hmem, hunread⟩ := mem_undeclared_iff.1 ho
    rcases h.mem_rewritten_iff.1 hmem with ⟨f, hf, d, hread, rfl⟩ | ⟨ho, -⟩
    · exact absurd (h.find?_rewritten hf hread) (hunread f hf _)
    · exact ho

theorem restored (h : FiniteEntries closed fields entries) (name : String)
    (hfull : twinsFull fields entries = true)
    (hrestored : ∀ f ∈ fields, ∀ d, fieldRead? entries f = some (f.1.key, d) → f.2.Restored d) :
    (record name closed fields).Restored (recordRead fields entries) := by
  have hperm := h.perm_undeclared hfull
  refine ⟨recordRead fields (rewritten fields entries), ?_,
    .record (h.sameEntries_fieldsRead hfull hrestored) (hperm.map _)⟩
  rw [toJson_recordRead]
  refine read_record_eq_ok_iff.2 ⟨?_, fun f hf => h.readable_rewritten hfull hf (hrestored f hf),
    fun hclosed => ?_, rfl⟩
  · intro e he
    rcases h.mem_rewritten_iff.1 he with ⟨f, hf, d, -, rfl⟩ | ⟨ho, -⟩
    · exact isWhole_of_isSound (h.sound.sound f hf)
    · exact h.whole e (List.mem_filter.1 ho).1
  · rw [h.closes hclosed] at hperm
    exact hperm.nil_eq.symm

/-! A record that is restored holds no field twice with a null, and its fields are restored. -/

theorem parts_of_restored {name : String}
    (hrestored : (record name closed fields).Restored (recordRead fields entries)) :
    List.Forall₂ (Document.SameEntry Document.SameContent) (fieldsRead fields entries)
        (fieldsRead fields (rewritten fields entries)) ∧
      ∀ o ∈ undeclared (fields.map Prod.fst) entries,
        o ∈ undeclared (fields.map Prod.fst) (rewritten fields entries) := by
  obtain ⟨_, hread, hsame⟩ := hrestored
  rw [toJson_recordRead] at hread
  obtain ⟨-, -, -, rfl⟩ := read_record_eq_ok_iff.1 hread
  cases hsame with
  | record hfields hunknown =>
    refine ⟨hfields, fun o ho => ?_⟩
    obtain ⟨e, he, heq⟩ := List.mem_map.1 (hunknown.subset (List.mem_map_of_mem ho))
    rw [Unknown.mk.injEq] at heq
    rw [Prod.ext heq.1.symm heq.2.1.symm]
    exact he

theorem twinsFull_of_undeclared (h : FiniteEntries closed fields entries)
    (hunknown : ∀ o ∈ undeclared (fields.map Prod.fst) entries,
      o ∈ undeclared (fields.map Prod.fst) (rewritten fields entries)) :
    twinsFull fields entries = true := by
  refine (twinsFull_iff h.nodup).2 fun f hf hne v w hv hw => ?_
  have hkey : f.1.key ∈ Entries.keys entries := Entries.mem_keys.2 ⟨v, hv⟩
  have ho := hunknown _ (undeclared_of_spelling h.sound.apart hf hkey hne hw)
  obtain ⟨hmem, hunread⟩ := mem_undeclared_iff.1 ho
  refine ⟨?_, (h.of_mem_rewritten_spelling hf hne hmem).2⟩
  -- The spelling is no field of what is written, so the field stands under its key there.
  have hwritten : f.1.key ∈ Entries.keys (rewritten fields entries) := by
    by_contra hnone
    refine hunread f hf w ?_
    rw [DeclaredField.find?, Entries.lookup_eq_none_iff.2 hnone,
      Entries.lookup_of_mem h.nodup_keys_rewritten hmem]
    rfl
  obtain ⟨x, hx⟩ := Entries.mem_keys.1 hwritten
  obtain ⟨d, hread, -⟩ := (h.mem_rewritten_key_iff hf).1 hx
  obtain ⟨name, value, hfind, hnullable, -, hvalue⟩ := of_fieldRead? hread
  rw [DeclaredField.find?, Entries.lookup_of_mem h.nodup hv] at hfind
  cases hfind
  exact isNull_of_nullable (h.sound.sound f hf) ⟨d, hvalue⟩ hnullable

theorem restored_field (h : FiniteEntries closed fields entries)
    (hsame : List.Forall₂ (Document.SameEntry Document.SameContent) (fieldsRead fields entries)
      (fieldsRead fields (rewritten fields entries)))
    {f : DeclaredField × Shape} (hf : f ∈ fields) {d : Document}
    (hread : fieldRead? entries f = some (f.1.key, d)) : f.2.Restored d := by
  obtain ⟨⟨key, e⟩, he, hentry⟩ :=
    Document.exists_mem_of_forall₂ hsame _ (List.mem_filterMap.2 ⟨f, hf, hread⟩)
  obtain ⟨hkey, hcontent⟩ := Document.SameEntry.iff.1 hentry
  dsimp only at hkey
  subst hkey
  obtain ⟨g, hg, hagain⟩ := List.mem_filterMap.1 he
  have heq : g = f := eq_of_isNamed h.sound.apart hg hf (isNamed_key g.1)
    (isNamed_iff.2 (.inl (key_of_fieldRead? hagain)))
  rw [heq] at hagain
  obtain ⟨name, value, hfind, -, -, hvalue⟩ := of_fieldRead? hagain
  rw [h.find?_rewritten hf hread] at hfind
  cases hfind
  exact ⟨e, hvalue, hcontent⟩

theorem restored_iff (h : FiniteEntries closed fields entries) (name : String) :
    (record name closed fields).Restored (recordRead fields entries) ↔
      twinsFull fields entries = true ∧
        ∀ f ∈ fields, ∀ d, fieldRead? entries f = some (f.1.key, d) → f.2.Restored d := by
  constructor
  · intro hrestored
    obtain ⟨hsame, hunknown⟩ := parts_of_restored hrestored
    exact ⟨h.twinsFull_of_undeclared hunknown, fun f hf d hread => h.restored_field hsame hf hread⟩
  · rintro ⟨hfull, hfields⟩
    exact h.restored name hfull hfields

end FiniteEntries

theorem finiteEntries {name : String} (hregular : (record name closed fields).isRegular = true)
    (hplain : (Json.obj entries).Plain) (hfinite : (Json.obj entries).isFinite = true)
    {d : Document} (h : (record name closed fields).read (.obj entries) = .ok d) :
    FiniteEntries closed fields entries ∧ d = recordRead fields entries := by
  obtain ⟨hwhole, hreadable, hcloses, rfl⟩ := read_record_eq_ok_iff.1 h
  exact ⟨⟨sound_of_regular hregular, (Json.plain_obj.1 hplain).1, hwhole,
    Json.isFinite_obj.1 hfinite, hreadable, hcloses⟩, rfl⟩

end Record

/-! ## All shapes -/

theorem restored_record_iff {name : String} {closed : Bool}
    {fields : List (DeclaredField × Shape)} {entries : List (Text × Json)}
    (hregular : (record name closed fields).isRegular = true)
    (ih : ∀ f ∈ fields, ∀ j d, f.2.read j = .ok d → j.Plain → j.isFinite = true →
      (f.2.Restored d ↔ f.2.twinsHold j = true))
    {d : Document} (h : (record name closed fields).read (.obj entries) = .ok d)
    (hplain : (Json.obj entries).Plain) (hfinite : (Json.obj entries).isFinite = true) :
    (record name closed fields).Restored d ↔
      (record name closed fields).twinsHold (.obj entries) = true := by
  obtain ⟨hentries, rfl⟩ := finiteEntries hregular hplain hfinite h
  rw [hentries.restored_iff, twinsHold, Bool.and_eq_true, fieldTwinsHold_iff]
  have hfield : ∀ f ∈ fields, ∀ {name value d}, f.1.find? entries = some (name, value) →
      f.2.read value = .ok d → (f.2.Restored d ↔ f.2.twinsHold value = true) := by
    intro f hf name value d hfind hread
    have hmem := mem_of_find? hfind
    exact ih f hf value d hread ((Json.plain_obj.1 hplain).2 _ hmem).2 (hentries.finite _ hmem)
  refine and_congr_right fun _ => forall_congr' fun f => forall_congr' fun hf => ?_
  constructor
  · rintro hrestored ⟨name, value⟩ hfind hnull
    obtain ⟨d, hread, hvalue⟩ := exists_fieldRead? (hentries.readable f hf) hfind
      (Bool.and_eq_false_imp.2 fun _ => hnull)
    exact (hfield f hf hfind hvalue).1 (hrestored d hread)
  · intro hholds d hread
    obtain ⟨name, value, hfind, hnullable, -, hvalue⟩ := of_fieldRead? hread
    have hnull := isNull_of_nullable (hentries.sound.sound f hf) ⟨d, hvalue⟩ hnullable
    exact (hfield f hf hfind hvalue).2 (hholds _ hfind hnull)

/-- A document that was read from finite numbers is restored exactly when no record read holds a
field under both of its names and null under one of them. -/
theorem restored_iff_twinsHold (s : Shape) : s.isRegular = true →
    ∀ j d, s.read j = .ok d → j.Plain → j.isFinite = true →
      (s.Restored d ↔ s.twinsHold j = true) := by
  have hscalar : ∀ {s : Shape}, s.isScalar = true →
      ∀ j d, s.read j = .ok d → j.Plain → j.isFinite = true →
        (s.Restored d ↔ s.twinsHold j = true) := by
    intro s hs j d h _ hfinite
    obtain ⟨rfl, -, -⟩ := read_scalar hs h
    exact iff_of_true (restored_leaf h hfinite) (twinsHold_scalar hs j)
  induction s using induct with
  | anything =>
    intro _ j d h _ hfinite
    cases h
    exact iff_of_true (restored_leaf rfl hfinite) (by rw [twinsHold] <;> simp)
  | text => exact fun _ => hscalar rfl
  | flag => exact fun _ => hscalar rfl
  | count => exact fun _ => hscalar rfl
  | word words => exact fun _ => hscalar rfl
  | off =>
    intro _ j d h _ _
    obtain ⟨rfl, -, -⟩ := readOff_eq_ok h
    exact iff_of_true (restored_leaf rfl rfl) (by rw [twinsHold] <;> simp)
  | list item ih =>
    intro hregular j d h hplain hfinite
    obtain ⟨items, ds, rfl, rfl, hds⟩ := read_list h
    rw [Json.plain_arr] at hplain
    rw [Json.isFinite_arr] at hfinite
    rw [restored_list_iff, twinsHold, List.all_eq_true]
    constructor
    · intro hrestored i hi
      obtain ⟨d, hd, hread⟩ := exists_mem_of_map_eq_map_ok hds hi
      exact (ih hregular i d hread (hplain i hi) (hfinite i hi)).1 (hrestored d hd)
    · intro hholds d hd
      obtain ⟨i, hi, hread⟩ := mem_of_map_eq_map_ok hds hd
      exact (ih hregular i d hread (hplain i hi) (hfinite i hi)).2 (hholds i hi)
  | map value ih =>
    intro hregular j d h hplain hfinite
    obtain ⟨entries, ds, rfl, rfl, hds⟩ := read_map h
    obtain ⟨hnodup, hvalues⟩ := Json.plain_obj.1 hplain
    rw [Json.isFinite_obj] at hfinite
    have hwhole : ∀ k ∈ Entries.keys entries, k.isWhole = true :=
      List.forall_mem_map.2 fun e he => (hvalues e he).1
    rw [restored_map_iff (length_keys_of_read hds) hwhole hnodup, twinsHold, List.all_eq_true]
    constructor
    · intro hrestored e he
      obtain ⟨d, hd, hread⟩ := exists_mem_of_map_eq_map_ok hds he
      exact (ih hregular e.2 d hread (hvalues e he).2 (hfinite e he)).1 (hrestored d hd)
    · intro hholds d hd
      obtain ⟨e, he, hread⟩ := mem_of_map_eq_map_ok hds hd
      exact (ih hregular e.2 d hread (hvalues e he).2 (hfinite e he)).2 (hholds e he)
  | oneOf members ih =>
    intro hregular j d h hplain hfinite
    obtain ⟨c, rfl, hc⟩ := read_oneOf_eq_ok_iff.1 h
    obtain ⟨before, label, s, after, rfl, hbefore, hs⟩ := exists_member_of_readMembers hc
    have hmember := (areRegular_iff.1 hregular).1 (label, s) (by simp)
    have hfirst := not_reads_toJson hregular hbefore hplain hs
    have hiff := ih (label, s) (by simp) hmember j c hs hplain hfinite
    rw [twinsHold, memberTwinsHold_append hbefore hs, ← hiff]
    constructor
    · intro hrestored
      exact (restored_or_bare hregular hfirst hs hrestored).elim id
        fun hbare => hiff.2 (twinsHold_of_bare s j c hs hbare)
    · exact restored_oneOf hfirst
  | record name closed fields ih =>
    intro hregular j d h hplain hfinite
    obtain ⟨entries, rfl⟩ := read_record h
    have hfields := hregular
    rw [isRegular, Bool.and_eq_true, fieldsRegular_iff] at hfields
    exact restored_record_iff hregular (fun f hf => ih f hf (hfields.2 f hf).1) h hplain hfinite

end Shape

end ManifestEdit
