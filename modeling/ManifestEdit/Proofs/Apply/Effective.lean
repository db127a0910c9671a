import ManifestEdit.Proofs.Apply.Local
import ManifestEdit.Proofs.Shape.Alone

/-!
# Overrides that take effect

Overrides are written over the entries that a configuration writes, and one that equals what stands
under its key is left out. The result is read again, so an override in it is one that could be read
by itself, and the configuration writes what it then writes. Two overrides do not come so far: one
that is equal in value to what is written, but of another kind, and a second spelling beside the key
of its field.
-/

namespace ManifestEdit

open Shape

/-- Only null is equal to null. -/
theorem Json.isNull_of_sameValue {v w : Json} (h : v.sameValue w = true) : v.isNull = w.isNull := by
  cases v with
  | null =>
    cases w with
    | null => rfl
    | _ => simp [sameValue, sameNumber, number?] at h
  | _ =>
    cases w with
    | null => simp [sameValue, sameNumber, number?] at h
    | _ => rfl

namespace Config

variable {base : List (Text × Json)} {overrides : Overrides} {changes : List Change}
  {key : Text} {value : Json}

/-! ## What stands in the merged entries -/

theorem lookup_merge_of_not_mem (h : key ∉ changes.map Change.key) :
    (merge base changes).lookup key = base.lookup key := by
  induction changes generalizing base with
  | nil => rfl
  | cons c rest ih =>
    rw [List.map_cons, List.mem_cons, not_or] at h
    have hrest : (merge (Entries.put c.key c.new base) rest).lookup key = _ := ih h.2
    rw [Entries.lookup_put, if_neg h.1] at hrest
    exact hrest

/-- Where no key changes twice, each has the value of its change. -/
theorem lookup_merge_of_mem (hnodup : (changes.map Change.key).Nodup) {c : Change}
    (hc : c ∈ changes) : (merge base changes).lookup c.key = some c.new := by
  induction changes generalizing base with
  | nil => cases hc
  | cons d rest ih =>
    rw [List.map_cons, List.nodup_cons] at hnodup
    rcases List.mem_cons.1 hc with rfl | hc
    · have hrest : (merge (Entries.put c.key c.new base) rest).lookup c.key = _ :=
        lookup_merge_of_not_mem hnodup.1
      rw [Entries.lookup_put, if_pos rfl] at hrest
      exact hrest
    · exact ih hnodup.2 hc

/-- The changes come in the order of the overrides. -/
theorem keys_overrideChanges_sublist (base : List (Text × Json)) (overrides : Overrides) :
    ((overrideChanges base overrides).map Change.key).Sublist overrides.keys := by
  rw [overrideChanges, List.map_filterMap, OrderedMap.keys, Entries.keys, ← List.filterMap_eq_map']
  refine filterMap_sublist_filterMap fun e _ k hk => ?_
  obtain ⟨c, hc, rfl⟩ := Option.map_eq_some_iff.1 hk
  exact congrArg (fun e => some e.1) (mem_overrides_of_overrideChange? hc).symm

theorem nodup_keys_overrideChanges (base : List (Text × Json)) (overrides : Overrides) :
    ((overrideChanges base overrides).map Change.key).Nodup :=
  (keys_overrideChanges_sublist base overrides).nodup overrides.distinct

theorem overrideChange?_eq_none (h : overrideChange? base key value = none) :
    ((base.lookup key).getD .null).sameValue value = true := by
  unfold overrideChange? at h
  dsimp only at h
  split at h
  · assumption
  · cases h

theorem mem_overrides_of_mem_changes {c : Change} (hc : c ∈ overrideChanges base overrides) :
    (c.key, c.new) ∈ overrides.entries ∧ overrideChange? base c.key c.new = some c := by
  obtain ⟨e, he, hchange⟩ := List.mem_filterMap.1 hc
  cases mem_overrides_of_overrideChange? hchange
  exact ⟨he, hchange⟩

/-- What stands under the key of an override: its value, unless an equal one is kept. -/
theorem lookup_merge_of_override (base : List (Text × Json))
    (he : (key, value) ∈ overrides.entries) :
    (merge base (overrideChanges base overrides)).lookup key =
      if ((base.lookup key).getD .null).sameValue value = true then base.lookup key
      else some value := by
  cases hchange : overrideChange? base key value with
  | some c =>
    have hc : c ∈ overrideChanges base overrides := List.mem_filterMap.2 ⟨_, he, hchange⟩
    have hkey := mem_overrides_of_overrideChange? (e := (key, value)) hchange
    cases hkey
    rw [if_neg (Bool.eq_false_iff.1 (of_mem_overrideChanges hc).2.2)]
    exact lookup_merge_of_mem (nodup_keys_overrideChanges base overrides) hc
  | none =>
    rw [if_pos (overrideChange?_eq_none hchange)]
    refine lookup_merge_of_not_mem fun hmem => ?_
    obtain ⟨c, hc, rfl⟩ := List.mem_map.1 hmem
    obtain ⟨ho, hsome⟩ := mem_overrides_of_mem_changes hc
    rw [Entries.eq_of_mem overrides.distinct ho he, hchange] at hsome
    cases hsome

/-- An override stands in the merged entries, unless an equal value is kept there. -/
theorem lookup_merge_override (base : List (Text × Json))
    (he : (key, value) ∈ overrides.entries) (hnull : value.isNull = false) :
    ∃ w, (merge base (overrideChanges base overrides)).lookup key = some w ∧
      (w = value ∨ base.lookup key = some w ∧ w.sameValue value = true) := by
  rw [lookup_merge_of_override base he]
  split
  · rename_i hsame
    cases hold : base.lookup key with
    | none =>
      rw [hold] at hsame
      rw [← Json.isNull_of_sameValue hsame] at hnull
      cases hnull
    | some w =>
      rw [hold] at hsame
      exact ⟨w, rfl, .inr ⟨rfl, hsame⟩⟩
  · exact ⟨value, rfl, .inl rfl⟩

/-- A key of the merged entries stood there or is that of an override that is not null. -/
theorem of_mem_keys_merge
    (h : key ∈ Entries.keys (merge base (overrideChanges base overrides))) :
    key ∈ Entries.keys base ∨ ∃ v, (key, v) ∈ overrides.entries ∧ v.isNull = false := by
  obtain ⟨v, hv⟩ := Entries.mem_keys.1 h
  obtain hbase | ⟨c, hc, heq⟩ := mem_merge hv
  · exact .inl (Entries.mem_keys.2 ⟨v, hbase⟩)
  · cases heq
    by_cases hnull : c.new.isNull = true
    · left
      by_contra hkey
      have hdiffers := (of_mem_overrideChanges hc).2.2
      rw [Entries.lookup_eq_none_iff.2 hkey] at hdiffers
      cases hnew : c.new with
      | null =>
        rw [hnew] at hdiffers
        cases hdiffers
      | _ =>
        rw [hnew] at hnull
        cases hnull
    · exact .inr ⟨_, (mem_overrides_of_mem_changes hc).1, Bool.eq_false_iff.2 hnull⟩

/-! ## Taking effect -/

/-- What a configuration writes; one that is absent writes nothing. -/
def written (config : Option Config) : Except EncodeFault (List (Text × Json)) :=
  match config with
  | none => .ok []
  | some c => c.entries

theorem applyOverrides_eq (config : Option Config) (overrides : Overrides) :
    applyOverrides config overrides =
      match written config with
      | .ok base => override config.isNone base overrides
      | .error fault => .error (.encode fault) := by
  cases config <;> rfl

/-- An entry is read by itself, and all that it then writes is written by the configuration. -/
def TakesEffect (e : Text × Json) (c : Config) : Prop :=
  ∀ root, ∃ one, decode (.obj [e]) root = .ok one ∧
    ∀ alone entries, one.entries = .ok alone → c.entries = .ok entries →
      ∀ x ∈ alone, entries.lookup x.1 = some x.2

/-- The second spelling of a field whose key is written, or overridden as well. -/
def IsShadowed (base : List (Text × Json)) (overrides : Overrides) (key : Text) : Prop :=
  ∃ f ∈ Schema.config.fields, f.1.spelling = key ∧ f.1.key ≠ key ∧
    (f.1.key ∈ Entries.keys base ∨ ∃ v, (f.1.key, v) ∈ overrides.entries ∧ v.isNull = false)

theorem optional_fields : ∀ f ∈ Schema.config.fields, f.1.required = false := by
  have hall : (Schema.config.fields.all fun f => !f.1.required) = true := by decide +kernel
  simpa using hall

/-- The entries that a configuration writes are those of the record that was read, arranged. -/
theorem entries_of_decode {entries written : List (Text × Json)} {root : String} {c : Config}
    (hdecode : decode (.obj entries) root = .ok c) (hentries : c.entries = .ok written) :
    written = arrange (orderOf Schema.config.declared entries)
      (parts Schema.config.fields entries) := by
  obtain ⟨r, hread, rfl⟩ := Schema.map_decode_eq_ok_iff.1 hdecode
  obtain ⟨-, -, -, hr⟩ := read_record_eq_ok_iff.1 hread
  have hjson := (entries_eq_ok_iff.1 hentries).2
  rw [show (Config.mk r).toDocument = r.toDocument from rfl, hr, Document.toJson,
    Json.obj.injEq] at hjson
  exact hjson.symm

theorem takesEffect_of_standsFree {entries : List (Text × Json)}
    (h : StandsFree Schema.config.fields entries key value) {root : String} {c : Config}
    (hdecode : decode (.obj entries) root = .ok c) : TakesEffect (key, value) c := by
  intro root'
  obtain ⟨r, hread, rfl⟩ := Schema.map_decode_eq_ok_iff.1 hdecode
  have hone : decode (.obj [(key, value)]) root' = .ok ⟨⟨_, _, _⟩⟩ :=
    Schema.map_decode_eq_ok_iff.2 ⟨⟨_, _, _⟩, h.reads optional_fields hread, rfl⟩
  refine ⟨_, hone, fun alone entries' halone hentries x hx => ?_⟩
  rw [entries_of_decode hone halone] at hx
  rw [entries_of_decode hdecode hentries, lookup_arrange]
  have hnodup : (Entries.keys (parts Schema.config.fields [(key, value)])).Nodup :=
    nodup_keys_parts sound_config.apart (List.nodup_singleton key)
  exact h.lookup_parts sound_config.apart ((mem_arrange_iff hnodup).1 hx)

/-- Overrides that fail do so as a document that cannot be read. -/
theorem override_eq_error {isAbsent : Bool} {e : ApplyError}
    (h : override isAbsent base overrides = .error e) :
    ∃ reason, e = .document ⟨reason, some "modify.config"⟩ := by
  unfold override at h
  dsimp only at h
  split at h
  · cases h
  · split at h
    · cases h
    · cases h
      exact ⟨_, rfl⟩

/-- In the entries that were merged a key stands free unless it is shadowed. -/
theorem standsFree_merge {w : Json} (hfree : ¬ IsShadowed base overrides key)
    (hlookup : (merge base (overrideChanges base overrides)).lookup key = some w) :
    StandsFree Schema.config.fields (merge base (overrideChanges base overrides)) key w where
  lookup := hlookup
  free := fun f hf hspelling hne hmem =>
    hfree ⟨f, hf, hspelling, hne, of_mem_keys_merge hmem⟩

/-- Overrides of which one is not null leave a configuration, in which it takes effect. -/
theorem override_takesEffect {isAbsent : Bool} {result : Option Config}
    (he : (key, value) ∈ overrides.entries) (hnull : value.isNull = false)
    (hfree : ¬ IsShadowed base overrides key) (habsent : isAbsent = true → base = [])
    (h : override isAbsent base overrides = .ok (result, changes)) :
    ∃ c w, result = some c ∧
      (w = value ∨ base.lookup key = some w ∧ w.sameValue value = true) ∧
      TakesEffect (key, w) c := by
  obtain ⟨w, hlookup, hw⟩ := lookup_merge_override base he hnull
  obtain ⟨rfl, ⟨hnone, hnil, -⟩ | ⟨-, c, rfl, hdecode⟩⟩ := override_eq_ok h
  · rw [hnil, habsent hnone] at hlookup
    cases hlookup
  · exact ⟨c, w, rfl, hw, takesEffect_of_standsFree (standsFree_merge hfree hlookup) hdecode⟩

/-- Every override that is not null takes effect, or all fail: as a document that cannot be read,
unless the configuration cannot be written itself. Left out are second spellings beside the key of
their field; and where an equal value is written already, that one stays. The result can be written
where every key in an override has bytes and none is nested too deep. -/
theorem applyOverrides_takesEffect (config : Option Config) {overrides : Overrides}
    (he : (key, value) ∈ overrides.entries) (hnull : value.isNull = false)
    (hfree : ∀ base, written config = .ok base → ¬ IsShadowed base overrides key) :
    (∃ c changes w, applyOverrides config overrides = .ok (some c, changes) ∧
        (w = value ∨ ∃ base, written config = .ok base ∧ base.lookup key = some w ∧
          w.sameValue value = true) ∧
        TakesEffect (key, w) c ∧
        ((∀ b, config = some b → b.WasRead) →
          (∀ e ∈ overrides.entries, e.2.hasWholeKeys = true ∧ e.2.depth ≤ Machine.encodable) →
            ∃ entries, c.entries = .ok entries)) ∨
      ∃ e, applyOverrides config overrides = .error e ∧
        ((∃ reason, e = .document ⟨reason, some "modify.config"⟩) ∨
          ∃ fault, written config = .error fault ∧ e = .encode fault) := by
  have hrun := applyOverrides_eq config overrides
  cases hwritten : written config with
  | error fault =>
    rw [hwritten] at hrun
    exact .inr ⟨_, hrun, .inr ⟨fault, rfl, rfl⟩⟩
  | ok base =>
    rw [hwritten] at hrun
    dsimp only at hrun
    cases hoverride : override config.isNone base overrides with
    | error e =>
      rw [hoverride] at hrun
      exact .inr ⟨e, hrun, .inl (override_eq_error hoverride)⟩
    | ok outcome =>
      obtain ⟨result, changes⟩ := outcome
      rw [hoverride] at hrun
      have habsent : config.isNone = true → base = [] := by
        intro hnone
        rw [Option.isNone_iff_eq_none.1 hnone] at hwritten
        exact (Except.ok.inj hwritten).symm
      obtain ⟨c, w, rfl, hw, heffect⟩ :=
        override_takesEffect he hnull (hfree base hwritten) habsent hoverride
      refine .inl ⟨c, changes, w, hrun, hw.imp_right fun hkept => ⟨base, rfl, hkept⟩, heffect,
        fun hread hoverrides => ?_⟩
      exact ⟨_, entries_eq_ok (fault?_applyOverrides hread (fun e he => (hoverrides e he).1)
        (fun e he => (hoverrides e he).2) hrun) rfl⟩

/-- A wrong override is kept silently where it equals what is written: `1` over `true`. -/
theorem exists_wrong_override_accepted :
    ∃ c overrides outcome, decode (.obj [("sort-packages", .bool true)]) "config" = .ok c ∧
      applyOverrides (some c) overrides = .ok outcome ∧
      (("sort-packages" : Text), Json.ofNat 1) ∈ overrides.entries ∧
      (decode (.obj [("sort-packages", .ofNat 1)]) "config").toOption = none := by
  have hruns : (decode (.obj [("sort-packages", .bool true)]) "config").toOption.any (fun c =>
      (applyOverrides (some c) (.ofPairs [("sort-packages", .ofNat 1)])).toOption.any fun _ =>
        (decode (.obj [("sort-packages", .ofNat 1)]) "config").toOption.isNone) = true := by
    decide +kernel
  obtain ⟨c, hc, happlies⟩ := exists_ok_of_any hruns
  obtain ⟨outcome, houtcome, hfails⟩ := exists_ok_of_any happlies
  exact ⟨c, _, outcome, hc, houtcome, List.mem_singleton.2 rfl, Option.isNone_iff_eq_none.1 hfails⟩

/-- An override in a second spelling, where the field stands under no other name. -/
def spelledOverride : Overrides :=
  .ofPairs [("sort_packages", .bool true)]

theorem not_isShadowed_spelledOverride (h : Entries.keys base = [("vendor-dir" : Text)]) :
    ¬ IsShadowed base spelledOverride "sort_packages" := by
  have hfields : (Schema.config.fields.all fun f => f.1.spelling ≠ "sort_packages" ∨
      f.1.key = "sort-packages") = true := by decide +kernel
  have hoverrides : ("sort-packages" : Text) ∉ Entries.keys spelledOverride.entries := by decide
  rintro ⟨f, hf, hspelling, -, hbeside⟩
  have hkey := (of_decide_eq_true (List.all_eq_true.1 hfields f hf)).resolve_left
    (not_not_intro hspelling)
  rw [hkey, h] at hbeside
  obtain hbase | ⟨v, hv, -⟩ := hbeside
  · exact absurd hbase (by decide)
  · exact hoverrides (Entries.mem_keys.2 ⟨v, hv⟩)

theorem applyOverrides_takesEffect_spelled :
    ∃ c result changes, decode (.obj [("vendor-dir", .str "lib")]) "config" = .ok c ∧
      applyOverrides (some c) spelledOverride = .ok (some result, changes) ∧
      TakesEffect ("sort_packages", .bool true) result ∧
      result.entries.toOption.map Entries.keys =
        some [("vendor-dir" : Text), "sort-packages"] := by
  have hruns : (decode (.obj [("vendor-dir", .str "lib")]) "config").toOption.any (fun c =>
      (c.entries.toOption.any fun base => Entries.keys base = [("vendor-dir" : Text)]) &&
        (applyOverrides (some c) spelledOverride).toOption.any fun outcome =>
          outcome.1.any fun result => result.entries.toOption.map Entries.keys =
            some [("vendor-dir" : Text), "sort-packages"]) = true := by
    decide +kernel
  obtain ⟨c, hc, hruns⟩ := exists_ok_of_any hruns
  obtain ⟨hentries, happlies⟩ := Bool.and_eq_true_iff.1 hruns
  obtain ⟨base, hbase, hkeys⟩ := exists_ok_of_any hentries
  obtain ⟨⟨config, changes⟩, hrun, hresult⟩ := exists_ok_of_any happlies
  have hkeys := of_decide_eq_true hkeys
  have hwritten : ∀ b, written (some c) = .ok b → b = base :=
    fun b hb => Except.ok.inj (hb.symm.trans hbase)
  obtain ⟨result, changes', w, hresult', hw, heffect, -⟩ | ⟨e, hfails, -⟩ :=
    applyOverrides_takesEffect (some c) (List.mem_singleton.2 rfl :
      (("sort_packages" : Text), Json.bool true) ∈ spelledOverride.entries) rfl
      fun b hb => not_isShadowed_spelledOverride (hwritten b hb ▸ hkeys)
  · rw [hresult', Except.ok.injEq, Prod.mk.injEq] at hrun
    obtain ⟨rfl, rfl⟩ := hrun
    have hvalue : w = .bool true := by
      refine hw.resolve_right ?_
      rintro ⟨b, hb, hlookup, -⟩
      rw [hwritten b hb] at hlookup
      have hmem := Entries.mem_keys.2 ⟨w, Entries.mem_of_lookup hlookup⟩
      rw [hkeys] at hmem
      exact absurd hmem (by decide)
    exact ⟨c, result, changes', hc, hresult', hvalue ▸ heffect, of_decide_eq_true hresult⟩
  · rw [hfails] at hrun
    cases hrun

end Config

end ManifestEdit
