import ManifestEdit.Proofs.Apply.Effective

/-!
# Overrides with null

An override with null is written over the entries like any other, so it drops its key only as far as
a record does not write what it reads as null. A field is dropped under either of its names. Two
keys are not: one that is not declared is written with its null, and the key of a field is written
where it did not stand among the entries and the second spelling of the field does.
-/

namespace ManifestEdit

open Shape

namespace Shape

variable {fields : List (DeclaredField × Shape)} {entries : List (Text × Json)}
  {f : DeclaredField × Shape}

/-- A field that may be null, and has no value that is written as null. -/
structure OmitsNull (f : DeclaredField × Shape) : Prop where
  nullable : f.1.nullable = true
  kinds : Json.Kind.null ∉ f.2.kinds

/-- What stands under the key of a field, or else under its second spelling. -/
def valueOf (f : DeclaredField) (entries : List (Text × Json)) : Json :=
  ((entries.lookup f.key).or (entries.lookup f.spelling)).getD .null

theorem valueOf_eq (f : DeclaredField) (entries : List (Text × Json)) :
    valueOf f entries = ((f.find? entries).map Prod.snd).getD .null := by
  rw [valueOf, DeclaredField.find?]
  cases entries.lookup f.key with
  | some value => rfl
  | none => cases entries.lookup f.spelling <;> rfl

/-- The key of a field is written where the field is not null. -/
theorem key_mem_keys_parts_iff (hapart : Apart fields) (hf : f ∈ fields)
    (homits : OmitsNull f) (hreadable : Readable entries f) :
    f.1.key ∈ Entries.keys (parts fields entries) ↔ (valueOf f.1 entries).isNull = false := by
  rw [valueOf_eq]
  constructor
  · intro hkey
    obtain ⟨v, hv⟩ := Entries.mem_keys.1 hkey
    rcases WritableEntries.of_mem_parts hv with ⟨g, hg, d, hread, heq, -⟩ | ⟨o, ho, heq, -⟩
    · have hsame : f = g := eq_of_isNamed hapart hf hg (isNamed_key f.1)
        (isNamed_iff.2 (.inl (congrArg Prod.fst heq).symm))
      subst hsame
      obtain ⟨name, value, hfind, hnull, -, -⟩ := of_fieldRead? hread
      rw [homits.nullable, Bool.true_and] at hnull
      rw [hfind]
      exact hnull
    · have hsame : f.1.key = o.1 := congrArg Prod.fst heq
      exact absurd hsame (key_of_undeclared ho hf (isNamed_iff.2 (.inl hsame))).1
  · intro hnull
    cases hfind : f.1.find? entries with
    | none =>
      rw [hfind] at hnull
      cases hnull
    | some e =>
      rw [hfind, Option.map_some, Option.getD_some] at hnull
      obtain ⟨d, hread, hd⟩ := exists_fieldRead? hreadable hfind (by rw [hnull, Bool.and_false])
      have hwritten : d.toJson.isNull = false := by
        rw [← Bool.not_eq_true, ← Json.kind_eq_null_iff]
        intro hkind
        exact homits.kinds (hkind ▸ kind_toJson_of_read hd)
      exact Entries.mem_keys.2 ⟨_, mem_parts_of_fieldRead? hf hread hwritten⟩

/-- No null is written under a second spelling. -/
theorem spelling_not_mem_keys_parts (hapart : Apart fields) (hf : f ∈ fields)
    (hne : f.1.key ≠ f.1.spelling)
    (hnull : ∀ value, (f.1.spelling, value) ∈ entries → value = .null) :
    f.1.spelling ∉ Entries.keys (parts fields entries) := by
  intro hspelling
  obtain ⟨v, hv⟩ := Entries.mem_keys.1 hspelling
  rcases WritableEntries.of_mem_parts hv with ⟨g, hg, d, -, heq, -⟩ | ⟨o, ho, heq, hwritten⟩
  · have hkey : f.1.spelling = g.1.key := congrArg Prod.fst heq
    have hsame : f = g := eq_of_isNamed hapart hf hg (isNamed_iff.2 (.inr rfl))
      (isNamed_iff.2 (.inl hkey.symm))
    exact hne (hsame ▸ hkey.symm)
  · obtain ⟨name, value⟩ := o
    cases heq
    cases hnull value (mem_undeclared_iff.1 ho).1
    have hspelled : ((fields.map Prod.fst).any fun g => g.spelling = f.1.spelling) = true :=
      List.any_eq_true.2 ⟨f.1, List.mem_map_of_mem hf, decide_eq_true rfl⟩
    cases hwritten hspelled

end Shape

namespace Config

variable {base : List (Text × Json)} {overrides : Overrides} {changes : List Change} {key : Text}

theorem omitsNull_fields : ∀ f ∈ Schema.config.fields, OmitsNull f := by
  have hall : (Schema.config.fields.all fun f =>
      f.1.nullable && !f.2.kinds.contains Json.Kind.null) = true := by decide +kernel
  intro f hf
  have hfield := List.all_eq_true.1 hall f hf
  rw [Bool.and_eq_true, Bool.not_eq_true', ← Bool.not_eq_true, List.contains_iff_mem] at hfield
  exact ⟨hfield.1, hfield.2⟩

/-! ## Null among the merged entries -/

/-- The override of a key, or what is written under it where there is none. -/
def demanded (base : List (Text × Json)) (overrides : Overrides) (key : Text) : Json :=
  ((overrides.get? key).or (base.lookup key)).getD .null

/-- Merging tells null from other values as the overrides do. -/
theorem isNull_lookup_merge (base : List (Text × Json)) (overrides : Overrides) (key : Text) :
    (((merge base (overrideChanges base overrides)).lookup key).getD .null).isNull =
      (demanded base overrides key).isNull := by
  rw [demanded]
  cases hget : overrides.get? key with
  | none =>
    have hkept : key ∉ (overrideChanges base overrides).map Change.key := by
      intro hmem
      obtain ⟨c, hc, rfl⟩ := List.mem_map.1 hmem
      exact Entries.lookup_eq_none_iff.1 hget
        (Entries.mem_keys.2 ⟨_, (mem_overrides_of_mem_changes hc).1⟩)
    rw [lookup_merge_of_not_mem hkept, Option.none_or]
  | some value =>
    rw [lookup_merge_of_override base (Entries.mem_of_lookup hget), Option.some_or]
    split
    · rename_i hsame
      exact Json.isNull_of_sameValue hsame
    · rfl

/-- Null takes the place of what is written under its key, and is not put where nothing is. -/
theorem lookup_merge_null (base : List (Text × Json)) (he : (key, .null) ∈ overrides.entries) :
    (merge base (overrideChanges base overrides)).lookup key =
      (base.lookup key).map fun _ => .null := by
  rw [lookup_merge_of_override base he]
  cases base.lookup key with
  | none => rfl
  | some old =>
    split
    · rename_i hsame
      have hnull := Json.isNull_of_sameValue (v := old) hsame
      cases old with
      | null => rfl
      | _ => cases hnull
    · rfl

/-! ## What is written for it -/

/-- A key that names no field. -/
def IsUndeclared (key : Text) : Prop :=
  ∀ f ∈ Schema.config.fields, isNamed f.1 key = false

/-- The key of a field that was not written, where something stands under its second spelling. -/
def IsReplaced (base : List (Text × Json)) (overrides : Overrides) (key : Text) : Prop :=
  ∃ f ∈ Schema.config.fields, f.1.key = key ∧ key ∉ Entries.keys base ∧
    (demanded base overrides f.1.spelling).isNull = false

theorem not_isUndeclared {f : DeclaredField × Shape} (hf : f ∈ Schema.config.fields)
    (hnamed : isNamed f.1 key = true) : ¬ IsUndeclared key :=
  fun hother => Bool.false_ne_true ((hother f hf).symm.trans hnamed)

theorem IsReplaced.not_isUndeclared (h : IsReplaced base overrides key) : ¬ IsUndeclared key := by
  obtain ⟨f, hf, rfl, -, -⟩ := h
  exact Config.not_isUndeclared hf (isNamed_key f.1)

theorem isReplaced_iff {f : DeclaredField × Shape} (hf : f ∈ Schema.config.fields)
    (hnamed : isNamed f.1 key = true) :
    IsReplaced base overrides key ↔
      f.1.key = key ∧ key ∉ Entries.keys base ∧
        (demanded base overrides f.1.spelling).isNull = false := by
  constructor
  · rintro ⟨g, hg, hkey, hrest⟩
    cases eq_of_isNamed sound_config.apart hf hg hnamed (isNamed_iff.2 (.inl hkey))
    exact ⟨hkey, hrest⟩
  · exact fun h => ⟨f, hf, h⟩

section Merged

variable {merged : List (Text × Json)}
  (hmerged : merged = merge base (overrideChanges base overrides))
  (he : (key, .null) ∈ overrides.entries)

include hmerged he

/-- A key that names no field is written with null where it was written. -/
theorem lookup_parts_undeclared (hother : IsUndeclared key) :
    (parts Schema.config.fields merged).lookup key = (base.lookup key).map fun _ => .null := by
  rw [lookup_parts_other hother, hmerged, lookup_merge_null base he, Option.map_map]
  rfl

/-- A name of a field is written where the field is read from beside it. -/
theorem mem_keys_parts_iff_isReplaced {f : DeclaredField × Shape}
    (hf : f ∈ Schema.config.fields) (hnamed : isNamed f.1 key = true)
    (hreadable : Readable merged f) (hnodup : (Entries.keys merged).Nodup) :
    key ∈ Entries.keys (parts Schema.config.fields merged) ↔ IsReplaced base overrides key := by
  have hnull : merged.lookup key = (base.lookup key).map fun _ => .null :=
    hmerged ▸ lookup_merge_null base he
  rw [isReplaced_iff hf hnamed]
  -- Under its key the field is looked for first; a null under its spelling is not written.
  by_cases hkey : f.1.key = key
  · subst hkey
    rw [key_mem_keys_parts_iff sound_config.apart hf (omitsNull_fields f hf) hreadable, valueOf,
      hnull, ← Entries.lookup_eq_none_iff]
    cases base.lookup f.1.key with
    | some value =>
      refine iff_of_false (fun h => Bool.noConfusion h) ?_
      rintro ⟨-, hnone, -⟩
      cases hnone
    | none =>
      rw [Option.map_none, Option.none_or, hmerged, isNull_lookup_merge]
      exact ⟨fun h => ⟨rfl, rfl, h⟩, fun h => h.2.2⟩
  · obtain rfl := (isNamed_iff.1 hnamed).resolve_left hkey
    refine iff_of_false ?_ fun h => hkey h.1
    refine spelling_not_mem_keys_parts sound_config.apart hf hkey fun value hvalue => ?_
    rw [Entries.lookup_of_mem hnodup hvalue] at hnull
    obtain ⟨-, -, rfl⟩ := Option.map_eq_some_iff.1 hnull.symm
    rfl

end Merged

/-- Overridden with null, a configuration that writes no key twice writes the key where it names no
field and was written, and then with null, or where its field is read from beside it. -/
theorem mem_keys_applyOverrides_null_iff {config : Option Config} {c : Config}
    {entries : List (Text × Json)} (hbase : written config = .ok base)
    (hnodup : (Entries.keys base).Nodup) (he : (key, .null) ∈ overrides.entries)
    (h : applyOverrides config overrides = .ok (some c, changes))
    (hentries : c.entries = .ok entries) :
    (key ∈ Entries.keys entries ↔
        IsUndeclared key ∧ key ∈ Entries.keys base ∨ IsReplaced base overrides key) ∧
      (IsUndeclared key → entries.lookup key = (base.lookup key).map fun _ => .null) := by
  rw [applyOverrides_eq, hbase] at h
  obtain ⟨rfl, ⟨-, -, hnone⟩ | ⟨-, d, hsome, hdecode⟩⟩ := override_eq_ok h
  · cases hnone
  cases hsome
  obtain ⟨r, hread, -⟩ := Schema.map_decode_eq_ok_iff.1 hdecode
  obtain ⟨-, hreadable, -, -⟩ := read_record_eq_ok_iff.1 hread
  have hlookup : entries.lookup key = (parts Schema.config.fields
      (merge base (overrideChanges base overrides))).lookup key := by
    rw [entries_of_decode hdecode hentries, lookup_arrange]
  rw [← Entries.isSome_lookup, hlookup]
  cases hfield : fieldNamed? Schema.config.fields key with
  | none =>
    have hother : IsUndeclared key := fun f hf => not_isNamed_of_fieldNamed? hfield hf
    rw [lookup_parts_undeclared rfl he hother, Option.isSome_map, Entries.isSome_lookup]
    refine ⟨?_, fun _ => rfl⟩
    rw [or_iff_left fun hreplaced => IsReplaced.not_isUndeclared hreplaced hother,
      and_iff_right hother]
  | some f =>
    obtain ⟨hf, hnamed⟩ := mem_of_fieldNamed? hfield
    have hdeclared := not_isUndeclared hf hnamed
    refine ⟨?_, fun hother => absurd hother hdeclared⟩
    rw [or_iff_right fun hkept => hdeclared hkept.1, Entries.isSome_lookup]
    exact mem_keys_parts_iff_isReplaced rfl he hf hnamed (hreadable f hf)
      (nodup_merge (overrideChanges base overrides) hnodup)

/-- Null does not drop `foo`, which is not declared, and `sort-packages`, which is read again. -/
theorem exists_null_override_written :
    ∃ c overrides result changes entries,
      decode (.obj [("foo", .ofNat 1), ("sort-packages", .null), ("sort_packages", .bool true)])
        "config" = .ok c ∧
      applyOverrides (some c) overrides = .ok (some result, changes) ∧
      (("foo" : Text), Json.null) ∈ overrides.entries ∧
      (("sort-packages" : Text), Json.null) ∈ overrides.entries ∧
      result.entries = .ok entries ∧ ("foo" : Text) ∈ Entries.keys entries ∧
      ("sort-packages" : Text) ∈ Entries.keys entries := by
  have hruns : (decode (.obj [("foo", .ofNat 1), ("sort-packages", .null),
      ("sort_packages", .bool true)]) "config").toOption.any (fun c =>
        (applyOverrides (some c)
          (.ofPairs [("foo", .null), ("sort-packages", .null)])).toOption.any fun outcome =>
            outcome.1.any fun result => result.entries.toOption.any fun entries =>
              Entries.keys entries = [("foo" : Text), "sort-packages"]) = true := by
    decide +kernel
  obtain ⟨c, hc, happlies⟩ := exists_ok_of_any hruns
  obtain ⟨⟨config, changes⟩, houtcome, hresult⟩ := exists_ok_of_any happlies
  obtain ⟨result, rfl, hwritten⟩ := (Option.any_eq_true ..).1 hresult
  obtain ⟨entries, hentries, hkeys⟩ := exists_ok_of_any hwritten
  have hkeys := of_decide_eq_true hkeys
  refine ⟨c, _, result, changes, entries, hc, houtcome, List.mem_cons_self,
    List.mem_cons_of_mem _ List.mem_cons_self, hentries, ?_, ?_⟩
  · rw [hkeys]
    exact List.mem_cons_self
  · rw [hkeys]
    exact List.mem_cons_of_mem _ List.mem_cons_self

theorem mem_keys_applyOverrides_null_iff_undeclared :
    ∃ c result changes entries, decode (.obj [("foo", .ofNat 1)]) "config" = .ok c ∧
      applyOverrides (some c) (.ofPairs [("foo", .null)]) = .ok (some result, changes) ∧
      result.entries = .ok entries ∧ entries.lookup ("foo" : Text) = some .null := by
  have hruns : (decode (.obj [("foo", .ofNat 1)]) "config").toOption.any (fun c =>
      (c.entries.toOption.any fun base => Entries.keys base = [("foo" : Text)]) &&
        (applyOverrides (some c) (.ofPairs [("foo", .null)])).toOption.any fun outcome =>
          outcome.1.any fun result => result.entries.toOption.any fun _ => true) = true := by
    decide +kernel
  have hother : (Schema.config.fields.all fun f => !isNamed f.1 "foo") = true := by
    decide +kernel
  obtain ⟨c, hc, hruns⟩ := exists_ok_of_any hruns
  obtain ⟨hbase, happlies⟩ := Bool.and_eq_true_iff.1 hruns
  obtain ⟨base, hbase, hkeys⟩ := exists_ok_of_any hbase
  obtain ⟨⟨config, changes⟩, houtcome, hresult⟩ := exists_ok_of_any happlies
  obtain ⟨result, rfl, hentries⟩ := (Option.any_eq_true ..).1 hresult
  obtain ⟨entries, hentries, -⟩ := exists_ok_of_any hentries
  have hkeys := of_decide_eq_true hkeys
  have hwritten : written (some c) = .ok base := hbase
  have hundeclared : IsUndeclared "foo" := by
    intro f hf
    rw [← Bool.not_eq_true']
    exact List.all_eq_true.1 hother f hf
  have hnodup : (Entries.keys base).Nodup := by
    rw [hkeys]
    exact List.nodup_singleton _
  have hnull := (mem_keys_applyOverrides_null_iff hwritten hnodup List.mem_cons_self houtcome
    hentries).2 hundeclared
  obtain ⟨v, hv⟩ : ∃ v, (("foo" : Text), v) ∈ base := by
    rw [← Entries.mem_keys, hkeys]
    exact List.mem_cons_self
  rw [Entries.lookup_of_mem hnodup hv] at hnull
  exact ⟨c, result, changes, entries, hc, houtcome, hentries, hnull⟩

end Config

end ManifestEdit
