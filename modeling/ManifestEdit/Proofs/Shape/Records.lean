import ManifestEdit.Proofs.Document.Writing
import ManifestEdit.Proofs.Shape.Kinds

/-!
# What a record writes that was read

A record that was read writes one entry for each entry read, in the same place: a field under its
key, unless it is null or writes null, and any other key as it was. Which entries stand there and
in which order are told apart: the entries are found by their keys and the order is the one in
which the keys were read.
-/

namespace ManifestEdit

namespace Shape

/-- The entry that a record writes for an entry that was read. -/
def written? (fields : List (DeclaredField × Shape)) (e : Text × Json) : Option (Text × Json) :=
  match fieldNamed? fields e.1 with
  | some f =>
    match f.2.read e.2 with
    | .ok d => if e.2.isNull || d.toJson.isNull then none else some (f.1.key, d.toJson)
    | .error _ => none
  | none => some (e.1, e.2.finiteOnly)

variable {fields : List (DeclaredField × Shape)} {entries : List (Text × Json)}

theorem written?_field {e : Text × Json} {f : DeclaredField × Shape} {d : Document}
    (hf : fieldNamed? fields e.1 = some f) (hd : f.2.read e.2 = .ok d) :
    written? fields e =
      if e.2.isNull || d.toJson.isNull then none else some (f.1.key, d.toJson) := by
  rw [written?, hf]
  dsimp only
  rw [hd]

theorem written?_other {e : Text × Json} (hf : fieldNamed? fields e.1 = none) :
    written? fields e = some (e.1, e.2.finiteOnly) := by
  rw [written?, hf]

/-- Fields with names apart that hold a value where they must not be null. -/
structure Sound (fields : List (DeclaredField × Shape)) : Prop where
  apart : Apart fields
  sound : ∀ f ∈ fields, isSound f = true

theorem sound_of_regular {name : String} {closed : Bool}
    (hregular : (record name closed fields).isRegular = true) : Sound fields := by
  rw [isRegular, Bool.and_eq_true, decide_eq_true_iff, fieldsRegular_iff] at hregular
  exact ⟨hregular.1, fun f hf => (hregular.2 f hf).2⟩

/-! ### Sound fields -/

theorem isWhole_of_isSound {f : DeclaredField × Shape} (hsound : isSound f = true) :
    f.1.key.isWhole = true := by
  rw [isSound, Bool.and_eq_true] at hsound
  exact hsound.1

theorem nullable_of_required {f : DeclaredField × Shape} (hsound : isSound f = true)
    (hrequired : f.1.required = true) : f.1.nullable = false := by
  cases hnullable : f.1.nullable with
  | false => rfl
  | true => simp [isSound, hnullable, hrequired] at hsound

/-- A field that must not be null has no value of the kind of null. -/
theorem isNull_of_kind {f : DeclaredField × Shape} (hsound : isSound f = true)
    (hnullable : f.1.nullable = false) {j : Json} (hkind : j.kind ∈ f.2.kinds) :
    j.isNull = false := by
  cases hj : j.isNull with
  | false => rfl
  | true =>
    rw [Json.kind_eq_null_iff.2 hj] at hkind
    simp [isSound, hnullable, hkind] at hsound

theorem isNull_of_nullable {f : DeclaredField × Shape} (hsound : isSound f = true) {j : Json}
    (hreads : f.2.Reads j) (hnull : (f.1.nullable && j.isNull) = false) : j.isNull = false := by
  cases hnullable : f.1.nullable with
  | false => exact isNull_of_kind hsound hnullable (keepsKind f.2 j hreads).reads
  | true =>
    rw [hnullable, Bool.true_and] at hnull
    exact hnull

theorem fieldRead?_eq_some_iff (hfields : Sound fields)
    (hnodup : (Entries.keys entries).Nodup) (honce : standOnce fields entries = true)
    {f : DeclaredField × Shape} (hf : f ∈ fields) {key : Text} {d : Document} :
    fieldRead? entries f = some (key, d) ↔
      key = f.1.key ∧ ∃ e ∈ entries, fieldNamed? fields e.1 = some f ∧ e.2.isNull = false ∧
        f.2.read e.2 = .ok d := by
  constructor
  · intro h
    obtain ⟨name, value, hfind, hnull, hkey, hread⟩ := of_fieldRead? h
    obtain ⟨hmem, hnamed⟩ := (find?_eq_some_iff hnodup honce hf).1 hfind
    exact ⟨hkey, (name, value), hmem, fieldNamed?_of_mem hfields.apart hf hnamed,
      isNull_of_nullable (hfields.sound f hf) ⟨d, hread⟩ hnull, hread⟩
  · rintro ⟨rfl, ⟨name, value⟩, hmem, hnamed, hnull, hread⟩
    have hfind := (find?_eq_some_iff hnodup honce hf).2 ⟨hmem, (mem_of_fieldNamed? hnamed).2⟩
    exact fieldRead?_of_find? hfind (Bool.and_eq_false_imp.2 fun _ => hnull) hread

/-- The fields of a record as they are read. -/
def fieldsRead (fields : List (DeclaredField × Shape)) (entries : List (Text × Json)) :
    List (Text × Document) :=
  fields.filterMap (fieldRead? entries)

theorem nodup_keys_fields (hapart : Apart fields) :
    (fields.map fun f => f.1.key).Nodup := by
  refine List.pairwise_map.2 (hapart.imp fun {f g} h heq => ?_)
  have hnamed := areApart_iff.1 h g.1.key (isNamed_key g.1)
  rw [isNamed_iff.2 (.inl heq)] at hnamed
  cases hnamed

theorem key_of_fieldRead? {f : DeclaredField × Shape} {e : Text × Document}
    (h : fieldRead? entries f = some e) : e.1 = f.1.key := by
  obtain ⟨-, -, -, -, hkey, -⟩ := of_fieldRead? h
  exact hkey

theorem keys_fieldsRead_sublist (fields : List (DeclaredField × Shape))
    (entries : List (Text × Json)) :
    (Entries.keys (fieldsRead fields entries)).Sublist (fields.map fun f => f.1.key) := by
  rw [Entries.keys, fieldsRead, List.map_filterMap, ← List.filterMap_eq_map']
  refine filterMap_sublist_filterMap fun f hf k hk => ?_
  obtain ⟨e, he, rfl⟩ := Option.map_eq_some_iff.1 hk
  rw [key_of_fieldRead? he]

/-! ## The entries written -/

/-- The entries that a record writes, fields first. -/
def entriesWritten (fields : List (DeclaredField × Shape)) (entries : List (Text × Json)) :
    List (Text × Json) :=
  (Document.entriesToJson (fieldsRead fields entries)).filter (fun e => !e.2.isNull) ++
    (others fields entries).map fun e => (e.1, e.2.finiteOnly)

theorem entriesWritten_eq (hapart : Apart fields) (hnodup : (Entries.keys entries).Nodup)
    (honce : standOnce fields entries = true) :
    (Document.entriesToJson (fieldsRead fields entries)).filter (fun e => !e.2.isNull) ++
        (unknownOf (fields.map Prod.fst) entries).filterMap Unknown.entry? =
      entriesWritten fields entries := by
  rw [entriesWritten, unknownOf_eq hapart hnodup honce, List.filterMap_map,
    ← List.filterMap_eq_map']
  rfl

theorem mem_entriesWritten_iff (hfields : Sound fields) (hnodup : (Entries.keys entries).Nodup)
    (honce : standOnce fields entries = true) {e : Text × Json} :
    e ∈ entriesWritten fields entries ↔ e ∈ entries.filterMap (written? fields) := by
  rw [entriesWritten, List.mem_append, Document.entriesToJson_eq_map, List.mem_filterMap]
  constructor
  · rintro (h | h)
    · obtain ⟨hmem, hnull⟩ := List.mem_filter.1 h
      obtain ⟨⟨key, d⟩, hd, rfl⟩ := List.mem_map.1 hmem
      obtain ⟨f, hf, hread⟩ := List.mem_filterMap.1 hd
      obtain ⟨rfl, o, ho, hnamed, honull, hod⟩ :=
        (fieldRead?_eq_some_iff hfields hnodup honce hf).1 hread
      refine ⟨o, ho, ?_⟩
      rw [Bool.not_eq_true'] at hnull
      rw [written?_field hnamed hod, honull, hnull]
      rfl
    · obtain ⟨o, ho, rfl⟩ := List.mem_map.1 h
      obtain ⟨hmem, hnone⟩ := List.mem_filter.1 ho
      exact ⟨o, hmem, written?_other (Option.isNone_iff_eq_none.1 hnone)⟩
  · rintro ⟨o, ho, hwritten⟩
    cases hnamed : fieldNamed? fields o.1 with
    | none =>
      rw [written?_other hnamed] at hwritten
      cases hwritten
      exact .inr (List.mem_map_of_mem (List.mem_filter.2 ⟨ho, by rw [hnamed]; rfl⟩))
    | some f =>
      refine .inl ?_
      cases hread : f.2.read o.2 with
      | error failures =>
        rw [written?, hnamed] at hwritten
        dsimp only at hwritten
        rw [hread] at hwritten
        cases hwritten
      | ok d =>
        rw [written?_field hnamed hread] at hwritten
        split at hwritten
        · cases hwritten
        · rename_i hnull
          cases hwritten
          rw [Bool.or_eq_true, not_or, Bool.not_eq_true, Bool.not_eq_true] at hnull
          have hmem := (mem_of_fieldNamed? hnamed).1
          have hd := (fieldRead?_eq_some_iff hfields hnodup honce hmem).2
            ⟨rfl, o, ho, hnamed, hnull.1, hread⟩
          refine List.mem_filter.2 ⟨List.mem_map.2 ⟨(f.1.key, d), ?_, rfl⟩, by rw [hnull.2]; rfl⟩
          exact List.mem_filterMap.2 ⟨f, hmem, hd⟩

/-- Fields that are written under their keys, and keys that are none of these, are distinct. -/
theorem nodup_keys_append (hapart : Apart fields) {written others : List (Text × Json)}
    (hwritten : (Entries.keys written).Sublist (fields.map fun f => f.1.key))
    (hothers : (Entries.keys others).Nodup)
    (hother : ∀ e ∈ others, ∀ f ∈ fields, f.1.key ≠ e.1) :
    (Entries.keys (written ++ others)).Nodup := by
  rw [Entries.keys, List.map_append, List.nodup_append]
  refine ⟨hwritten.nodup (nodup_keys_fields hapart), hothers, ?_⟩
  intro k hk l hl heq
  obtain ⟨f, hf, hkey⟩ := List.mem_map.1 (hwritten.subset hk)
  obtain ⟨e, he, rfl⟩ := List.mem_map.1 hl
  exact hother e he f hf (hkey.trans heq)

/-- The fields that are written stand under their keys. -/
theorem keys_filter_fieldsRead_sublist (fields : List (DeclaredField × Shape))
    (entries : List (Text × Json)) (keep : Text × Json → Bool) :
    (Entries.keys ((Document.entriesToJson (fieldsRead fields entries)).filter keep)).Sublist
      (fields.map fun f => f.1.key) := by
  have hkeys : Entries.keys (Document.entriesToJson (fieldsRead fields entries)) =
      Entries.keys (fieldsRead fields entries) := by
    rw [Document.entriesToJson_eq_map, Entries.keys, List.map_map]
    rfl
  refine List.Sublist.trans ?_ (keys_fieldsRead_sublist fields entries)
  rw [← hkeys]
  exact List.filter_sublist.map Prod.fst

theorem nodup_keys_entriesWritten (hapart : Apart fields)
    (hnodup : (Entries.keys entries).Nodup) :
    (Entries.keys (entriesWritten fields entries)).Nodup := by
  have hothers : Entries.keys ((others fields entries).map fun e => (e.1, e.2.finiteOnly)) =
      Entries.keys (others fields entries) := by
    rw [Entries.keys, List.map_map]
    rfl
  refine nodup_keys_append hapart (keys_filter_fieldsRead_sublist fields entries _) ?_ ?_
  · rw [hothers]
    exact (List.filter_sublist.map Prod.fst).nodup hnodup
  · intro e he f hf hkey
    obtain ⟨o, ho, rfl⟩ := List.mem_map.1 he
    have hnone := Option.isNone_iff_eq_none.1 (List.mem_filter.1 ho).2
    have hnamed := not_isNamed_of_fieldNamed? hnone hf
    rw [isNamed_iff.2 (.inl hkey)] at hnamed
    cases hnamed

/-! ## The order of the entries -/

/-- The key remembered for an entry stands for a field exactly when the entry's own key does. -/
theorem fieldNamed?_keyRead? (hapart : Apart fields) {e : Text × Json} {key : Text}
    (h : keyRead? fields e = some key) :
    fieldNamed? fields key = fieldNamed? fields e.1 ∧
      (fieldNamed? fields e.1 = none → key = e.1) := by
  unfold keyRead? at h
  cases hf : fieldNamed? fields e.1 with
  | none =>
    rw [hf] at h
    cases h
    exact ⟨hf, fun _ => rfl⟩
  | some f =>
    rw [hf] at h
    dsimp only at h
    split at h
    · cases h
    · cases h
      exact ⟨fieldNamed?_key hapart (mem_of_fieldNamed? hf).1, fun hnone => by cases hnone⟩

theorem keyRead?_injective (hapart : Apart fields) (honce : standOnce fields entries = true)
    {e d : Text × Json} (he : e ∈ entries) (hd : d ∈ entries) {key : Text}
    (hekey : keyRead? fields e = some key) (hdkey : keyRead? fields d = some key) :
    e.1 = d.1 := by
  obtain ⟨hefield, heother⟩ := fieldNamed?_keyRead? hapart hekey
  obtain ⟨hdfield, hdother⟩ := fieldNamed?_keyRead? hapart hdkey
  rw [hefield] at hdfield
  cases hf : fieldNamed? fields e.1 with
  | none => rw [← heother hf, ← hdother (by rw [← hdfield, hf])]
  | some f =>
    obtain ⟨hmem, henamed⟩ := mem_of_fieldNamed? hf
    obtain ⟨-, hdnamed⟩ := mem_of_fieldNamed? (hdfield.symm.trans hf)
    have hekeys : e.1 ∈ Entries.keys entries := Entries.mem_keys.2 ⟨e.2, he⟩
    have hdkeys : d.1 ∈ Entries.keys entries := Entries.mem_keys.2 ⟨d.2, hd⟩
    -- Where the two names differ, they are the key and the spelling of `f`.
    rcases isNamed_iff.1 henamed with hekey' | hespelling
    · rcases isNamed_iff.1 hdnamed with hdkey' | hdspelling
      · rw [← hekey', ← hdkey']
      · have hsame := eq_of_standOnce honce hmem (hekey' ▸ hekeys) (hdspelling ▸ hdkeys)
        rw [← hekey', ← hdspelling, hsame]
    · rcases isNamed_iff.1 hdnamed with hdkey' | hdspelling
      · have hsame := eq_of_standOnce honce hmem (hdkey' ▸ hdkeys) (hespelling ▸ hekeys)
        rw [← hdkey', ← hespelling, hsame]
      · rw [← hespelling, ← hdspelling]

theorem nodup_orderOf (hapart : Apart fields) (hnodup : (Entries.keys entries).Nodup)
    (honce : standOnce fields entries = true) :
    (orderOf (fields.map Prod.fst) entries).Nodup := by
  rw [orderOf_eq hapart]
  refine List.pairwise_filterMap.2 ?_
  refine (List.pairwise_map.1 hnodup).imp_of_mem fun {e d} he hd hne k hk l hl heq => ?_
  subst heq
  exact hne (keyRead?_injective hapart honce he hd hk hl)

theorem keys_written_sublist (hapart : Apart fields) :
    (Entries.keys (entries.filterMap (written? fields))).Sublist
      (orderOf (fields.map Prod.fst) entries) := by
  rw [orderOf_eq hapart, Entries.keys, List.map_filterMap]
  refine filterMap_sublist_filterMap fun e he k hk => ?_
  obtain ⟨o, ho, rfl⟩ := Option.map_eq_some_iff.1 hk
  unfold keyRead?
  cases hf : fieldNamed? fields e.1 with
  | none =>
    rw [written?_other hf] at ho
    cases ho
    rfl
  | some f =>
    rw [written?, hf] at ho
    dsimp only at ho ⊢
    split at ho
    · split at ho
      · cases ho
      · rename_i hnull
        rw [Bool.or_eq_true, not_or] at hnull
        cases ho
        rw [if_neg hnull.1]
    · cases ho

/-- A record that was read writes, for each entry read, what is left of it, in the same place. -/
theorem toJson_record (hfields : Sound fields) (hnodup : (Entries.keys entries).Nodup)
    (honce : standOnce fields entries = true) :
    (Document.record (fieldsRead fields entries) (unknownOf (fields.map Prod.fst) entries)
      (orderOf (fields.map Prod.fst) entries)).toJson =
        .obj (entries.filterMap (written? fields)) := by
  rw [Document.toJson, entriesWritten_eq hfields.apart hnodup honce]
  refine congrArg Json.obj (arrange_eq (nodup_orderOf hfields.apart hnodup honce)
    (keys_written_sublist hfields.apart) (nodup_keys_entriesWritten hfields.apart hnodup) ?_)
  exact fun e => mem_entriesWritten_iff hfields hnodup honce

end Shape

end ManifestEdit
