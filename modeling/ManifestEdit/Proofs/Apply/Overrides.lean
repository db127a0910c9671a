import ManifestEdit.Proofs.Manifest.Edits

/-!
# Configurations under overrides

Overrides are written over what the configuration writes, so configurations that write the same
are overridden alike. A plain entry stands under no second spelling; what a settled configuration
writes is plain, and plain overrides keep it so. What stands in a configuration must have a level
less than the configuration, and overrides that do keep it within the bounds of the machine.
-/

namespace ManifestEdit

open Shape

namespace Config

/-- Whether an override is no second spelling and holds no field under both of its names. -/
def isPlainOverride (e : Text × Json) : Bool :=
  Schema.config.fields.all (fun f => f.1.spelling ≠ e.1 || f.1.key = e.1) &&
    entryNamesOnce Schema.config.fields e

/-- What is asked of an entry of a configuration. -/
structure PlainEntry (e : Text × Json) : Prop where
  whole : e.1.isWhole = true
  value : e.2.Plain
  plain : isPlainOverride e = true

theorem PlainEntry.key_eq {e : Text × Json} (h : PlainEntry e) {f : DeclaredField × Shape}
    (hf : f ∈ Schema.config.fields) (hspelling : f.1.spelling = e.1) : f.1.key = e.1 := by
  have hplain := h.plain
  rw [isPlainOverride, Bool.and_eq_true, List.all_eq_true] at hplain
  have hkey := hplain.1 f hf
  simpa [hspelling] using hkey

theorem PlainEntry.once {e : Text × Json} (h : PlainEntry e) :
    entryNamesOnce Schema.config.fields e = true := by
  have hplain := h.plain
  rw [isPlainOverride, Bool.and_eq_true] at hplain
  exact hplain.2

variable {entries : List (Text × Json)}

theorem clean_of_plain (hnodup : (Entries.keys entries).Nodup)
    (hplain : ∀ e ∈ entries, PlainEntry e) : Clean Schema.config.shape (.obj entries) := by
  refine ⟨Json.plain_obj.2 ⟨hnodup, fun e he => ⟨(hplain e he).whole, (hplain e he).value⟩⟩, ?_⟩
  rw [Schema.shape, namesOnce, Bool.and_eq_true, List.all_eq_true]
  refine ⟨standOnce_of_keys fun f hf hspelling => ?_, fun e he => (hplain e he).once⟩
  obtain ⟨value, hmem⟩ := Entries.mem_keys.1 hspelling
  exact (hplain _ hmem).key_eq hf rfl

theorem sound_config : Shape.Sound Schema.config.fields :=
  Schema.sound_fields Schema.isRegular_config

/-- What a settled configuration writes is plain. -/
theorem plain_of_settled {d : Document} (h : Settled Schema.config.shape (.obj entries) d) :
    ∀ e ∈ entries, PlainEntry e := by
  intro e he
  have honce := h.once
  rw [Schema.shape, namesOnce, Bool.and_eq_true, List.all_eq_true] at honce
  obtain ⟨hwhole, hvalue⟩ := (Json.plain_obj.1 h.clean.toPlain).2 e he
  refine ⟨hwhole, hvalue, ?_⟩
  rw [isPlainOverride, Bool.and_eq_true, List.all_eq_true]
  refine ⟨fun f hf => ?_, honce.2 e he⟩
  rw [Bool.or_eq_true, decide_eq_true_iff, decide_eq_true_iff]
  by_cases hspelling : f.1.spelling = e.1
  · have hnamed := fieldNamed?_of_mem sound_config.apart hf (isNamed_iff.2 (.inr hspelling))
    exact .inr (h.key_of_named sound_config he hnamed)
  · exact .inl hspelling

/-- What a configuration writes is plain. -/
theorem plain_entries {c : Config} (h : Schema.config.shape.Writes c.toDocument)
    {base : List (Text × Json)} (hbase : c.entries = .ok base) :
    (Entries.keys base).Nodup ∧ ∀ e ∈ base, PlainEntry e := by
  have hjson := (entries_eq_ok_iff.1 hbase).2
  obtain ⟨d, hd⟩ := h.settled (by rw [hjson]; rfl)
  rw [hjson] at hd
  exact ⟨(Json.isDistinct_obj.1 hd.distinct).1, plain_of_settled hd⟩

/-- Entries that may stand in a configuration that may stand in a manifest. -/
theorem isWithin_obj {p : Number → Bool} :
    (Json.obj entries).isWithin p Machine.encodable = true ↔
      ∀ e ∈ entries, e.2.isWithin p (Machine.encodable - 1) = true :=
  Json.isWithin_obj

theorem Storable.exists_entries [Machine] {c : Config} (h : c.Storable) :
    ∃ base, c.entries = .ok base :=
  ⟨_, entries_eq_ok (Document.fault?_eq_none_iff.2 ⟨h.writes.writable, h.bounded.shallow⟩) rfl⟩

/-! ## Merging -/

theorem mem_overrides_of_overrideChange? {base : List (Text × Json)} {e : Text × Json}
    {change : Change} (h : overrideChange? base e.1 e.2 = some change) :
    (change.key, change.new) = e := by
  unfold overrideChange? at h
  dsimp only at h
  split at h
  · cases h
  · cases h
    rfl

theorem mem_merge {base : List (Text × Json)} {changes : List Change} {e : Text × Json}
    (h : e ∈ merge base changes) : e ∈ base ∨ ∃ c ∈ changes, (c.key, c.new) = e := by
  induction changes generalizing base with
  | nil => exact .inl h
  | cons c rest ih =>
    rcases ih h with he | ⟨d, hd, rfl⟩
    · rcases Entries.mem_put he with rfl | he
      · exact .inr ⟨c, List.mem_cons_self, rfl⟩
      · exact .inl he
    · exact .inr ⟨d, List.mem_cons_of_mem _ hd, rfl⟩

theorem nodup_merge {base : List (Text × Json)} (changes : List Change)
    (hnodup : (Entries.keys base).Nodup) : (Entries.keys (merge base changes)).Nodup := by
  induction changes generalizing base with
  | nil => exact hnodup
  | cons c rest ih => exact ih (Entries.nodup_put hnodup)

/-- What stands in a configuration with overrides in it stood there or is an override. -/
theorem mem_merge_overrides {base : List (Text × Json)} {overrides : Overrides} {e : Text × Json}
    (h : e ∈ merge base (overrideChanges base overrides)) : e ∈ base ∨ e ∈ overrides.entries := by
  refine (mem_merge h).imp_right ?_
  rintro ⟨c, hc, rfl⟩
  obtain ⟨o, ho, heq⟩ := List.mem_filterMap.1 hc
  rw [mem_overrides_of_overrideChange? heq]
  exact ho

/-- Plain overrides make a configuration that writes plain entries. -/
theorem writes_applyOverrides {config : Option Config} {overrides : Overrides} {c : Config}
    {changes : List Change} (hplain : ∀ e ∈ overrides.entries, PlainEntry e)
    (hconfig : ∀ b, config = some b → Schema.config.shape.Writes b.toDocument)
    (h : applyOverrides config overrides = .ok (some c, changes)) :
    Schema.config.shape.Writes c.toDocument := by
  obtain ⟨base, hoverride, hbase⟩ := applyOverrides_eq_ok h
  have hentries : (Entries.keys base).Nodup ∧ ∀ e ∈ base, PlainEntry e := by
    obtain ⟨-, rfl⟩ | ⟨b, hb, hbase⟩ := hbase
    · exact ⟨List.nodup_nil, fun e he => absurd he List.not_mem_nil⟩
    · exact plain_entries (hconfig b hb) hbase
  obtain ⟨rfl, ⟨-, -, hnone⟩ | ⟨-, d, hsome, hdecode⟩⟩ := override_eq_ok hoverride
  · cases hnone
  · cases hsome
    obtain ⟨r, hread, rfl⟩ := Schema.map_decode_eq_ok_iff.1 hdecode
    have hmerged : ∀ e ∈ merge base (overrideChanges base overrides), PlainEntry e :=
      fun e he => (mem_merge_overrides he).elim (hentries.2 e) (hplain e)
    have hkeys := nodup_merge (overrideChanges base overrides) hentries.1
    exact (readsBack _ Schema.isRegular_config _ _ (clean_of_plain hkeys hmerged) hread).toWrites

/-- Overrides with a level less than a configuration make one that is bounded. -/
theorem bounded_applyOverrides {p : Number → Bool} {config : Option Config}
    {overrides : Overrides} {c : Config} {changes : List Change}
    (hwithin : ∀ e ∈ overrides.entries, e.2.isWithin p (Machine.encodable - 1) = true)
    (hconfig : ∀ b, config = some b → b.toDocument.Bounded p)
    (h : applyOverrides config overrides = .ok (some c, changes)) : c.toDocument.Bounded p := by
  obtain ⟨base, hoverride, hbase⟩ := applyOverrides_eq_ok h
  have hentries : ∀ e ∈ base, e.2.isWithin p (Machine.encodable - 1) = true := by
    obtain ⟨-, rfl⟩ | ⟨b, hb, hbase⟩ := hbase
    · exact fun e he => absurd he List.not_mem_nil
    · rw [← isWithin_obj, ← (entries_eq_ok_iff.1 hbase).2]
      exact (hconfig b hb).within
  obtain ⟨rfl, ⟨-, -, hnone⟩ | ⟨-, d, hsome, hdecode⟩⟩ := override_eq_ok hoverride
  · cases hnone
  · cases hsome
    obtain ⟨r, hread, rfl⟩ := Schema.map_decode_eq_ok_iff.1 hdecode
    exact bounded_of_read hread (isWithin_obj.2 fun e he =>
      (mem_merge_overrides he).elim (hentries e) (hwithin e))

/-- Configurations that write the same are overridden alike. -/
theorem applyOverrides_congr [Machine] {config config' : Option Config} (overrides : Overrides)
    (h : ∀ c, config = some c → c.Storable) (h' : ∀ c, config' = some c → c.Storable)
    (hsame : config.map (fun c => c.toDocument.toJson) =
      config'.map fun c => c.toDocument.toJson) :
    applyOverrides config overrides = applyOverrides config' overrides := by
  cases config with
  | none =>
    cases config' with
    | some c' => cases hsame
    | none => rfl
  | some c =>
    cases config' with
    | none => cases hsame
    | some c' =>
      obtain ⟨base, hbase⟩ := (h c rfl).exists_entries
      obtain ⟨base', hbase'⟩ := (h' c' rfl).exists_entries
      rw [Option.map_some, Option.map_some, (entries_eq_ok_iff.1 hbase).2,
        (entries_eq_ok_iff.1 hbase').2] at hsame
      cases hsame
      unfold applyOverrides
      dsimp only
      rw [hbase, hbase']

end Config

end ManifestEdit
