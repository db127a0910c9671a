import ManifestEdit.Proofs.Apply.Effective

/-!
# Overrides and the keys of others

A configuration that is overridden is written, merged and read again. What it wrote is kept entry by
entry, so under a key that is not overridden it writes what it wrote before. The keys that remain
keep their order and new ones follow in that of the overrides. Asked for is that no field stands
under both of its names, and that no override is a second spelling: beside its key it could be read
in the field's place.
-/

namespace ManifestEdit

open Shape

/-- A part of a list without repetitions is what is selected by standing in it. -/
theorem filter_mem_eq_of_sublist {some all : List Text} (hnodup : all.Nodup)
    (h : some.Sublist all) : all.filter (fun k => k ∈ some) = some := by
  have hself : some.filter (fun k => k ∈ some) = some :=
    List.filter_eq_self.2 fun k hk => decide_eq_true hk
  have hsub : some.Sublist (all.filter fun k => k ∈ some) := by
    have hfilter := h.filter fun k => decide (k ∈ some)
    rw [hself] at hfilter
    exact hfilter
  have hperm : some.Perm (all.filter fun k => k ∈ some) := by
    refine (List.perm_ext_iff_of_nodup (h.nodup hnodup) (hnodup.filter _)).2 fun k => ?_
    rw [List.mem_filter, decide_eq_true_iff]
    exact ⟨fun hk => ⟨h.subset hk, hk⟩, And.right⟩
  exact (hsub.eq_of_length hperm.length_eq).symm

/-- What entries are after overrides: as before under all other keys, with the keys that remain in
their order and the new ones behind them in that of the overrides. -/
structure KeepsOthers (overrides : Overrides) (before after : List (Text × Json)) : Prop where
  distinct : (Entries.keys after).Nodup
  same : ∀ key, key ∉ overrides.keys → after.lookup key = before.lookup key
  order : Entries.keys after =
    (Entries.keys before).filter (fun k => k ∈ Entries.keys after) ++
      overrides.keys.filter fun k => k ∉ Entries.keys before ∧ k ∈ Entries.keys after

namespace Config

variable {base : List (Text × Json)} {overrides : Overrides} {changes : List Change}

/-- The second spelling of a field, which is not its key. -/
def IsSpelling (key : Text) : Prop :=
  ∃ f ∈ Schema.config.fields, f.1.spelling = key ∧ f.1.key ≠ key

instance (key : Text) : Decidable (IsSpelling key) :=
  inferInstanceAs (Decidable (∃ f ∈ Schema.config.fields, f.1.spelling = key ∧ f.1.key ≠ key))

/-! ## The merged entries -/

/-- Changes under new keys are written behind the entries. -/
theorem keys_merge (base : List (Text × Json)) (hnodup : (changes.map Change.key).Nodup) :
    Entries.keys (merge base changes) =
      Entries.keys base ++ (changes.map Change.key).filter fun k => k ∉ Entries.keys base := by
  induction changes generalizing base with
  | nil => simp [merge]
  | cons c rest ih =>
    rw [List.map_cons, List.nodup_cons] at hnodup
    have hrest : Entries.keys (merge base (c :: rest)) = _ :=
      ih (Entries.put c.key c.new base) hnodup.2
    rw [hrest, Entries.keys_put, List.map_cons]
    by_cases hkey : c.key ∈ Entries.keys base
    · rw [if_pos hkey, List.filter_cons_of_neg (by simpa using hkey)]
    · rw [if_neg hkey, List.filter_cons_of_pos (by simpa using hkey), List.append_assoc]
      refine congrArg _ (congrArg _ (List.filter_congr fun k hk => ?_))
      have hne : k ≠ c.key := fun heq => hnodup.1 (heq ▸ hk)
      simp [hne]

/-- Some of the merged keys: those that stood among the entries, then those of overrides. -/
theorem eq_append_of_sublist_merge {keys : List Text} (hbase : (Entries.keys base).Nodup)
    (h : keys.Sublist (Entries.keys (merge base (overrideChanges base overrides)))) :
    keys = (Entries.keys base).filter (fun k => k ∈ keys) ++
      overrides.keys.filter fun k => k ∉ Entries.keys base ∧ k ∈ keys := by
  have hmerged := keys_merge base (nodup_keys_overrideChanges base overrides)
  have hnodup := nodup_merge (overrideChanges base overrides) hbase
  generalize hnew : ((overrideChanges base overrides).map Change.key).filter
    (fun k => k ∉ Entries.keys base) = new at hmerged
  have hsub : (new.filter fun k => k ∈ keys).Sublist overrides.keys := by
    rw [← hnew]
    exact (List.filter_sublist.trans List.filter_sublist).trans
      (keys_overrideChanges_sublist base overrides)
  -- A key that is written and stood not there before is that of a change.
  have hmem : ∀ k ∈ overrides.keys, decide (k ∈ new.filter fun k => k ∈ keys) =
      decide (k ∉ Entries.keys base ∧ k ∈ keys) := by
    intro k _
    rw [decide_eq_decide, List.mem_filter, decide_eq_true_iff]
    refine and_congr_left fun hk => ?_
    have hall := h.subset hk
    rw [hmerged, List.mem_append] at hall
    refine ⟨fun hk => ?_, hall.resolve_left⟩
    rw [← hnew, List.mem_filter, decide_eq_true_iff] at hk
    exact hk.2
  calc keys = (Entries.keys base ++ new).filter fun k => k ∈ keys := by
        rw [← hmerged, filter_mem_eq_of_sublist hnodup h]
    _ = (Entries.keys base).filter (fun k => k ∈ keys) ++ new.filter fun k => k ∈ keys :=
        List.filter_append ..
    _ = _ := by
        rw [← List.filter_congr hmem]
        exact congrArg _ (filter_mem_eq_of_sublist overrides.distinct hsub).symm

/-! ## What is written of them -/

section Merged

variable {merged : List (Text × Json)}

/-- No entry stands under the second spelling of a field. -/
def NoSpelling (entries : List (Text × Json)) : Prop :=
  ∀ e ∈ entries, ¬ IsSpelling e.1

theorem key_of_written? {e x : Text × Json} (hfirst : ¬ IsSpelling e.1)
    (h : written? Schema.config.fields e = some x) : x.1 = e.1 := by
  cases hnamed : fieldNamed? Schema.config.fields e.1 with
  | none =>
    rw [written?_other hnamed] at h
    cases h
    rfl
  | some f =>
    obtain ⟨hf, hname⟩ := mem_of_fieldNamed? hnamed
    have hkey : f.1.key = e.1 := by
      by_contra hne
      exact hfirst ⟨f, hf, (isNamed_iff.1 hname).resolve_left hne, hne⟩
    rw [written?, hnamed] at h
    dsimp only at h
    split at h
    · split at h
      · cases h
      · cases h
        exact hkey
    · cases h

/-- Each entry of a configuration is written by itself, under its own key. -/
theorem entries_eq_filterMap (hnodup : (Entries.keys merged).Nodup) (hfirst : NoSpelling merged)
    {root : String} {c : Config} (hdecode : decode (.obj merged) root = .ok c)
    {after : List (Text × Json)} (hafter : c.entries = .ok after) :
    after = merged.filterMap (written? Schema.config.fields) := by
  obtain ⟨r, hread, rfl⟩ := Schema.map_decode_eq_ok_iff.1 hdecode
  obtain ⟨-, -, -, hr⟩ := read_record_eq_ok_iff.1 hread
  have honce : standOnce Schema.config.fields merged = true := by
    refine standOnce_of_keys fun f hf hspelling => ?_
    by_contra hne
    obtain ⟨value, hvalue⟩ := Entries.mem_keys.1 hspelling
    exact hfirst _ hvalue ⟨f, hf, rfl, hne⟩
  have hjson := (entries_eq_ok_iff.1 hafter).2
  rw [show (Config.mk r).toDocument = r.toDocument from rfl, hr] at hjson
  exact Json.obj.inj (hjson.symm.trans (toJson_record sound_config hnodup honce))

theorem keys_filterMap_written?_sublist (hfirst : NoSpelling merged) :
    (Entries.keys (merged.filterMap (written? Schema.config.fields))).Sublist
      (Entries.keys merged) := by
  rw [Entries.keys, List.map_filterMap, Entries.keys, ← List.filterMap_eq_map']
  refine filterMap_sublist_filterMap fun e he k hk => ?_
  obtain ⟨x, hx, rfl⟩ := Option.map_eq_some_iff.1 hk
  rw [key_of_written? (hfirst e he) hx]

end Merged

/-! ## Overrides -/

/-- What a configuration writes in which no field stands under both of its names. -/
theorem Restorable.keptEntries {c : Config} (h : c.Restorable) (hbase : c.entries = .ok base) :
    KeptEntries Schema.config.closed Schema.config.fields base [] := by
  obtain ⟨j, hread⟩ := h.read
  obtain ⟨entries, rfl⟩ := read_record hread
  obtain ⟨base', hjson, hkept⟩ := Schema.exists_keptEntries Schema.isRegular_config
    (fun _ hf => kept_field hf) hread h.once (hasWholeKeys_of_entries hbase)
  have hsame := (entries_eq_ok_iff.1 hbase).2
  rw [show c.toDocument = c.record.toDocument from rfl, hjson, Json.obj.injEq] at hsame
  exact hsame ▸ hkept

theorem noSpelling_of_keptEntries
    (h : KeptEntries Schema.config.closed Schema.config.fields base []) : NoSpelling base := by
  rintro e he ⟨f, hf, hspelling, hne⟩
  have hnamed := fieldNamed?_of_mem sound_config.apart hf (isNamed_iff.2 (.inr hspelling))
  exact hne (h.field e he f hnamed).1.symm

/-- What is written after overrides over entries that are kept. -/
theorem keepsOthers_of_decode
    (hkept : KeptEntries Schema.config.closed Schema.config.fields base [])
    (hfirst : ∀ key ∈ overrides.keys, ¬ IsSpelling key) {root : String} {c : Config}
    (hdecode : decode (.obj (merge base (overrideChanges base overrides))) root = .ok c)
    {after : List (Text × Json)} (hafter : c.entries = .ok after) :
    KeepsOthers overrides base after := by
  have hnodup := nodup_merge (overrideChanges base overrides) hkept.nodup
  have hmerged : NoSpelling (merge base (overrideChanges base overrides)) := fun e he =>
    (mem_merge_overrides he).elim (noSpelling_of_keptEntries hkept e)
      fun ho => hfirst e.1 (Entries.mem_keys.2 ⟨e.2, ho⟩)
  have hwritten := entries_eq_filterMap hnodup hmerged hdecode hafter
  have hsub := keys_filterMap_written?_sublist hmerged
  rw [← hwritten] at hsub
  refine ⟨hsub.nodup hnodup, fun key hkey => ?_, eq_append_of_sublist_merge hkept.nodup hsub⟩
  have hunchanged : key ∉ (overrideChanges base overrides).map Change.key := fun hmem =>
    hkey ((keys_overrideChanges_sublist base overrides).subset hmem)
  have hlookup : (merge base (overrideChanges base overrides)).lookup key = base.lookup key :=
    lookup_merge_of_not_mem hunchanged
  cases hbase : base.lookup key with
  | some value =>
    rw [hbase] at hlookup
    have hmem : (key, value) ∈ after := by
      rw [hwritten]
      exact List.mem_filterMap.2 ⟨_, Entries.mem_of_lookup hlookup,
        hkept.written?_eq (Entries.mem_of_lookup hbase)⟩
    exact Entries.lookup_of_mem (hsub.nodup hnodup) hmem
  | none =>
    rw [hbase, Entries.lookup_eq_none_iff] at hlookup
    exact Entries.lookup_eq_none_iff.2 fun hmem => hlookup (hsub.subset hmem)

/-- Overrides over a configuration, in which no field stands under both of its names, that are no
second spellings: the result can be written where every key in an override has bytes and none is
nested too deep, and wherever it is written all that is not overridden is written as before and in
its place. -/
theorem keepsOthers_applyOverrides {c : Config} (hread : c.WasRead)
    (honce : c.record.isSpelledOnce = true) (hfirst : ∀ key ∈ overrides.keys, ¬ IsSpelling key)
    {result : Option Config} (h : applyOverrides (some c) overrides = .ok (result, changes)) :
    ∃ base c', c.entries = .ok base ∧ result = some c' ∧
      ((∀ e ∈ overrides.entries, e.2.hasWholeKeys = true ∧ e.2.depth ≤ Machine.encodable) →
        ∃ after, c'.entries = .ok after) ∧
      ∀ after, c'.entries = .ok after → KeepsOthers overrides base after := by
  obtain ⟨base, hoverride, ⟨hnone, -⟩ | ⟨_, hsome, hbase⟩⟩ := applyOverrides_eq_ok h
  · cases hnone
  cases hsome
  obtain ⟨rfl, ⟨habsent, -⟩ | ⟨-, c', rfl, hdecode⟩⟩ := override_eq_ok hoverride
  · cases habsent
  have hkept := Restorable.keptEntries ⟨hread, honce⟩ hbase
  refine ⟨base, c', hbase, rfl, fun hoverrides => ?_, fun after hafter => ?_⟩
  · have hwritable := fault?_applyOverrides (fun b hb => Option.some.inj hb ▸ hread)
      (fun e he => (hoverrides e he).1) (fun e he => (hoverrides e he).2) h
    exact ⟨_, entries_eq_ok hwritable rfl⟩
  · exact keepsOthers_of_decode hkept hfirst hdecode hafter

/-- A configuration with a second spelling, a zero that stands for `false`, a null field and a null
that is no field. -/
def mixedData : Json :=
  .obj [("vendor_dir", .str "v"), ("platform", .obj [("php", .num (.int 0))]), ("lock", .bool true),
    ("odd", .null), ("cafile", .null)]

/-- Overrides of a field, of a field that is dropped and of two that are new. -/
def mixedOverrides : Overrides :=
  .ofPairs [("note", .ofNat 1), ("vendor-dir", .str "w"), ("lock", .null), ("bin-dir", .str "b")]

theorem keepsOthers_applyOverrides_mixed :
    ∃ c result changes base after, decode mixedData "config" = .ok c ∧
      applyOverrides (some c) mixedOverrides = .ok (some result, changes) ∧
      c.entries = .ok base ∧ result.entries = .ok after ∧ KeepsOthers mixedOverrides base after ∧
      Entries.keys base = ["vendor-dir", "platform", "lock", "odd"] ∧
      Entries.keys after = ["vendor-dir", "platform", "odd", "note", "bin-dir"] := by
  have hruns : (decode mixedData "config").toOption.any (fun c =>
      c.record.isSpelledOnce &&
        (applyOverrides (some c) mixedOverrides).toOption.any fun outcome =>
          outcome.1.any fun result =>
            c.entries.toOption.any fun base => result.entries.toOption.any fun after =>
              decide (Entries.keys base = ["vendor-dir", "platform", "lock", "odd"]) &&
                decide (Entries.keys after =
                  ["vendor-dir", "platform", "odd", "note", "bin-dir"])) = true := by
    decide +kernel
  have hfirst : ∀ key ∈ mixedOverrides.keys, ¬ IsSpelling key := by decide +kernel
  obtain ⟨c, hc, hruns⟩ := exists_ok_of_any hruns
  obtain ⟨honce, happlies⟩ := Bool.and_eq_true_iff.1 hruns
  obtain ⟨⟨_, changes⟩, hrun, hresult⟩ := exists_ok_of_any happlies
  obtain ⟨result, rfl, hwrites⟩ := (Option.any_eq_true ..).1 hresult
  obtain ⟨base, hbase, hwrites⟩ := exists_ok_of_any hwrites
  obtain ⟨after, hafter, hkeys⟩ := exists_ok_of_any hwrites
  rw [Bool.and_eq_true, decide_eq_true_iff, decide_eq_true_iff] at hkeys
  obtain ⟨base', c', hbase', hsome, -, hkeeps⟩ :=
    keepsOthers_applyOverrides (wasRead_of_decode hc) honce hfirst hrun
  cases hsome
  rw [hbase] at hbase'
  cases hbase'
  exact ⟨c, result, changes, base, after, hc, hrun, hbase, hafter, hkeeps after hafter, hkeys⟩

/-- Overrides that hold half of a pair in a key below their own, or that are nested too deep. -/
def unwritableOverrides : List Json :=
  [.obj [(Record.halfKey, .ofNat 1)], Record.deepValue Machine.encodable]

/-- Such an override leaves a configuration of which nothing can be written, though `lock` is not
overridden. -/
theorem exists_override_unwritable :
    ∃ c base, decode (.obj [("lock", .bool true)]) "config" = .ok c ∧
      c.record.isSpelledOnce = true ∧ c.entries = .ok base ∧
      Entries.keys base = [("lock" : Text)] ∧ ¬ IsSpelling "note" ∧
      ∀ value ∈ unwritableOverrides, ∃ result changes fault,
        applyOverrides (some c) (.ofPairs [("note", value)]) = .ok (some result, changes) ∧
          result.entries = .error fault := by
  have hruns : (decode (.obj [("lock", .bool true)]) "config").toOption.any (fun c =>
      c.record.isSpelledOnce && c.entries.toOption.any fun base =>
        decide (Entries.keys base = [("lock" : Text)]) && unwritableOverrides.all fun value =>
          (applyOverrides (some c) (.ofPairs [("note", value)])).toOption.any fun outcome =>
            outcome.1.any fun result => result.toDocument.fault?.isSome) = true := by
    decide +kernel
  obtain ⟨c, hc, hruns⟩ := exists_ok_of_any hruns
  obtain ⟨honce, hwrites⟩ := Bool.and_eq_true_iff.1 hruns
  obtain ⟨base, hbase, hwrites⟩ := exists_ok_of_any hwrites
  obtain ⟨hkeys, hfails⟩ := Bool.and_eq_true_iff.1 hwrites
  refine ⟨c, base, hc, honce, hbase, of_decide_eq_true hkeys, by decide +kernel,
    fun value hvalue => ?_⟩
  obtain ⟨⟨_, changes⟩, hrun, hresult⟩ :=
    exists_ok_of_any (List.all_eq_true.1 hfails value hvalue)
  obtain ⟨result, rfl, hfault⟩ := (Option.any_eq_true ..).1 hresult
  obtain ⟨fault, hfault⟩ := Option.isSome_iff_exists.1 hfault
  refine ⟨result, changes, fault, hrun, ?_⟩
  rw [entries, encode, Record.encode, Document.encode,
    show result.record.toDocument.fault? = _ from hfault]

end Config

end ManifestEdit
