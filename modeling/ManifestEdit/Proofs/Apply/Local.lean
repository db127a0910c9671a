import ManifestEdit.Proofs.Apply.Unchanged
import ManifestEdit.Proofs.Directive.Plain
import ManifestEdit.Proofs.Shape.Writable

/-!
# Edits are local

A directive changes what a manifest writes under the keys that its sections name, and nothing else:
the keys that were written are written in the same order, and new ones are those of the dependency
maps and the configuration. The result can be written where no override holds a key without bytes
and none is nested too deep; an override may be so below its own key, and the configuration then
keeps it.
-/

namespace ManifestEdit

open Shape

/-! ## What a directive names -/

/-- The keys that a pass may change: of a dependency map for which it has rules, and of the
configuration where it has overrides. -/
inductive Pass.Names (p : Pass) : Text → Prop where
  | links (target : Target) (h : (p.rules.rulesFor target).isSome = true) : Names p target.key
  | config (o : Overrides) (h : p.overrides = some o) (hsome : o.isEmpty = false) :
      Names p Manifest.configKey

/-- The keys that some section of a directive may change. -/
def Directive.Names (d : Directive) (key : Text) : Prop :=
  ∃ p ∈ d.passes, p.Names key

theorem Section.rulesFor_of_mem_targets {s : Section} {r : Target × Rules Text}
    (h : r ∈ s.targets) : s.rulesFor r.1 = some r.2 := by
  rw [targets, List.mem_append, Option.mem_toList, Option.mem_toList, Option.map_eq_some_iff,
    Option.map_eq_some_iff] at h
  rcases h with ⟨rules, hrules, rfl⟩ | ⟨rules, hrules, rfl⟩
  · exact hrules
  · exact hrules

theorem Manifest.key_mem_editableKeys (target : Target) :
    (target.key : Text) ∈ editableKeys := by
  cases target <;> decide

theorem Directive.Names.editable {d : Directive} {key : Text} (h : d.Names key) :
    key ∈ Manifest.editableKeys := by
  obtain ⟨p, -, hp⟩ := h
  cases hp with
  | links target _ => exact Manifest.key_mem_editableKeys target
  | config _ _ _ => decide

/-! ## Configurations that can be written -/

namespace Config

/-- Every key that a configuration writes has bytes. -/
theorem WasRead.whole_entries {c : Config} (hc : c.WasRead) {base : List (Text × Json)}
    (h : c.entries = .ok base) : ∀ e ∈ base, e.2.hasWholeKeys = true := by
  obtain ⟨j, hread⟩ := hc
  have hwhole := hasWholeKeys_toJson Schema.isRegular_config hread (hasWholeKeys_of_entries h)
  rw [(entries_eq_ok_iff.1 h).2, Json.hasWholeKeys_obj] at hwhole
  exact fun e he => (hwhole e he).2

/-- Overrides in which every key has bytes make a configuration in which every key has. -/
theorem hasWholeKeys_applyOverrides {config : Option Config} {overrides : Overrides} {c : Config}
    {changes : List Change} (hread : ∀ b, config = some b → b.WasRead)
    (hwhole : ∀ e ∈ overrides.entries, e.2.hasWholeKeys = true)
    (h : applyOverrides config overrides = .ok (some c, changes)) :
    c.toDocument.hasWholeKeys = true := by
  obtain ⟨base, hoverride, hbase⟩ := applyOverrides_eq_ok h
  have hentries : ∀ e ∈ base, e.2.hasWholeKeys = true := by
    obtain ⟨-, rfl⟩ | ⟨b, hb, hbase⟩ := hbase
    · exact fun e he => absurd he List.not_mem_nil
    · exact (hread b hb).whole_entries hbase
  obtain ⟨rfl, ⟨-, -, hnone⟩ | ⟨-, d, hsome, hdecode⟩⟩ := override_eq_ok hoverride
  · cases hnone
  · cases hsome
    obtain ⟨r, hr, rfl⟩ := Schema.map_decode_eq_ok_iff.1 hdecode
    obtain ⟨hkeys, -, -, -⟩ := read_record_eq_ok_iff.1 hr
    have hmerged : (Json.obj (merge base (overrideChanges base overrides))).hasWholeKeys = true :=
      Json.hasWholeKeys_obj.2 fun e he =>
        ⟨hkeys e he, (mem_merge_overrides he).elim (hentries e) (hwhole e)⟩
    exact hasWholeKeys_of_read hr hmerged

/-- Overrides in which every key has bytes, and that are not nested too deep, make a configuration
that can be written. -/
theorem fault?_applyOverrides {config : Option Config} {overrides : Overrides} {c : Config}
    {changes : List Change} (hread : ∀ b, config = some b → b.WasRead)
    (hwhole : ∀ e ∈ overrides.entries, e.2.hasWholeKeys = true)
    (hdepth : ∀ e ∈ overrides.entries, e.2.depth ≤ Machine.encodable)
    (h : applyOverrides config overrides = .ok (some c, changes)) :
    c.toDocument.fault? = none := by
  refine Document.fault?_eq_none_iff.2 ⟨hasWholeKeys_applyOverrides hread hwhole h, ?_⟩
  obtain ⟨base, hoverride, hbase⟩ := applyOverrides_eq_ok h
  have hentries : ∀ e ∈ base, e.2.depth ≤ Machine.encodable := by
    obtain ⟨-, rfl⟩ | ⟨b, -, hbase⟩ := hbase
    · exact fun e he => absurd he List.not_mem_nil
    · obtain ⟨hfault, hjson⟩ := entries_eq_ok_iff.1 hbase
      have hshallow := (Document.fault?_eq_none_iff.1 hfault).2
      rw [← Json.depth_obj_le_iff, ← hjson]
      exact (Document.isShallow_record.1 hshallow).2.2
  obtain ⟨rfl, ⟨-, -, hnone⟩ | ⟨-, d, hsome, hdecode⟩⟩ := override_eq_ok hoverride
  · cases hnone
  · cases hsome
    obtain ⟨r, hr, rfl⟩ := Schema.map_decode_eq_ok_iff.1 hdecode
    exact Schema.isShallow_of_read hr (Json.depth_obj_le_iff.2 fun e he =>
      (mem_merge_overrides he).elim (hentries e) (hdepth e))

end Config

/-! ## What edits keep -/

namespace Manifest

variable {m n : Manifest} {named : Text → Prop}

/-- A manifest that differs from another under some keys: fields that are written stay present, and
what is not declared stays as it is. -/
structure EditedAt (named : Text → Prop) (m n : Manifest) : Prop where
  field : ∀ key, ¬ named key → n.field? key = m.field? key
  present : ∀ key, (m.json? key).isSome = true → (n.json? key).isSome = true
  unknown : n.unknown = m.unknown
  order : n.order = m.order

namespace EditedAt

theorem refl (named : Text → Prop) (m : Manifest) : EditedAt named m m :=
  ⟨fun _ _ => rfl, fun _ h => h, rfl, rfl⟩

theorem trans {o : Manifest} (h : EditedAt named m n) (h' : EditedAt named n o) :
    EditedAt named m o where
  field := fun key hkey => (h'.field key hkey).trans (h.field key hkey)
  present := fun key hkey => h'.present key (h.present key hkey)
  unknown := h'.unknown.trans h.unknown
  order := h'.order.trans h.order

theorem mono {more : Text → Prop} (h : EditedAt named m n)
    (hmore : ∀ key, named key → more key) : EditedAt more m n :=
  ⟨fun key hkey => h.field key fun hn => hkey (hmore key hn), h.present, h.unknown, h.order⟩

/-- One field is edited, which stays present. -/
theorem of_edited {key : Text} (h : Edited key m n) (hnamed : named key)
    (hpresent : (m.json? key).isSome = true → (n.json? key).isSome = true)
    (horder : n.order = m.order) : EditedAt named m n where
  field := fun k hk => h.field k fun heq => hk (heq ▸ hnamed)
  present := by
    intro k hk
    by_cases hkey : k = key
    · rw [hkey] at hk ⊢
      exact hpresent hk
    · rw [h.json? hkey]
      exact hk
  unknown := h.unknown
  order := horder

/-! ### What is written -/

theorem json?_eq (h : EditedAt named m n) {key : Text} (hkey : ¬ named key) :
    n.json? key = m.json? key := by
  rw [Manifest.json?, Manifest.json?, h.field key hkey]

/-- The entries of the fields are found under the keys of the fields. -/
theorem lookup_written (m : Manifest) (key : Text) :
    m.written.lookup key =
      (if key ∈ Schema.manifest.fields.map (fun f => f.1.key) then m.json? key else none).or
        ((m.unknown.filterMap Unknown.entry?).lookup key) := by
  have hfields : Schema.manifest.fields.filterMap (fun f => (m.json? f.1.key).map (f.1.key, ·)) =
      (Schema.manifest.fields.map fun f => f.1.key).filterMap fun k =>
        (m.json? k).map (k, ·) := by
    rw [List.filterMap_map]
    rfl
  rw [written, List.lookup_append, hfields, Entries.lookup_filterMap]

theorem lookup_arranged (h : EditedAt named m n) {key : Text} (hkey : ¬ named key) :
    n.arranged.lookup key = m.arranged.lookup key := by
  rw [arranged, arranged, lookup_arrange, lookup_arrange, lookup_written, lookup_written,
    h.json?_eq hkey, h.unknown]

theorem keys_written_sublist (h : EditedAt named m n) :
    (Entries.keys m.written).Sublist (Entries.keys n.written) := by
  simp only [Entries.keys, written, List.map_append, h.unknown, List.map_filterMap]
  refine List.Sublist.append (filterMap_sublist_filterMap fun f _ k hk => ?_) (List.Sublist.refl _)
  rw [Option.map_map, Option.map_eq_some_iff] at hk ⊢
  obtain ⟨j, hj, rfl⟩ := hk
  obtain ⟨j', hj'⟩ := Option.isSome_iff_exists.1 (h.present f.1.key (by rw [hj]; rfl))
  exact ⟨j', hj', rfl⟩

theorem keys_arranged_sublist (h : EditedAt named m n) :
    (Entries.keys m.arranged).Sublist (Entries.keys n.arranged) := by
  rw [arranged, arranged, h.order]
  exact keys_arrange_sublist m.order h.keys_written_sublist

theorem separate (h : EditedAt named m n) (hm : m.Separate) : n.Separate := by
  obtain ⟨hnodup, hapart⟩ := hm
  refine ⟨?_, ?_⟩
  · rw [unknownKeys, h.unknown]
    exact hnodup
  · rw [h.unknown]
    exact hapart

end EditedAt

/-- A manifest whose configuration was read and can be written. -/
def ConfigWritable (m : Manifest) : Prop :=
  ∀ c, m.config = some c → c.WasRead ∧ c.toDocument.hasWholeKeys = true

end Manifest

namespace Applied

open Manifest (EditedAt)

variable {a b : Applied}

/-! ## What each step edits -/

theorem editedAt_links (a : Applied) (pass : String) (policy : MergePolicy)
    (rules : Target × Rules Text) {named : Text → Prop} (hnamed : named rules.1.key) :
    EditedAt named a.manifest (a.links pass policy rules).manifest := by
  obtain ⟨target, rules⟩ := rules
  refine .of_edited (Manifest.edited_withLinks a.manifest target _) hnamed (fun hpresent => ?_) ?_
  · rw [Manifest.json?_target, Option.isSome_map, Option.isSome_iff_ne_none] at hpresent ⊢
    rw [links_links]
    exact fun hnone => hpresent ((Links.applyRules_eq_none_iff _).1 hnone).1
  · cases target <;> rfl

theorem editedAt_foldl (a : Applied) (pass : String) (policy : MergePolicy)
    {targets : List (Target × Rules Text)} {named : Text → Prop}
    (hnamed : ∀ r ∈ targets, named r.1.key) :
    EditedAt named a.manifest (targets.foldl (links pass policy) a).manifest := by
  induction targets generalizing a with
  | nil => exact .refl named a.manifest
  | cons r rest ih =>
    rw [List.forall_mem_cons] at hnamed
    exact (editedAt_links a pass policy r hnamed.1).trans (ih _ hnamed.2)

theorem editedAt_config {overrides : Option Overrides} (h : a.config overrides = .ok b)
    {named : Text → Prop}
    (hnamed : ∀ o, overrides = some o → o.isEmpty = false → named Manifest.configKey) :
    EditedAt named a.manifest b.manifest := by
  obtain rfl | ⟨o, config, changes, hsome, hne, hok, rfl⟩ := config_eq_ok h
  · exact .refl named b.manifest
  · refine .of_edited (Manifest.edited_config a.manifest config) (hnamed o hsome hne)
      (fun hpresent => ?_) rfl
    rw [Manifest.json?_config, Option.isSome_map, Option.isSome_iff_ne_none] at hpresent ⊢
    obtain ⟨base, hoverride, -⟩ := Config.applyOverrides_eq_ok hok
    obtain ⟨-, ⟨habsent, -, -⟩ | ⟨-, c, hc, -⟩⟩ := Config.override_eq_ok hoverride
    · exact absurd (Option.isNone_iff_eq_none.1 habsent) hpresent
    · have hresult : config = some c := hc
      simp [hresult]

theorem editedAt_pass {p : Pass} (h : a.pass p = .ok b) :
    EditedAt p.Names a.manifest b.manifest := by
  refine (editedAt_foldl a p.name p.policy fun r hr => ?_).trans (editedAt_config h .config)
  exact .links r.1 (by rw [Section.rulesFor_of_mem_targets hr]; rfl)

/-- Passes edit a manifest under the keys that one of them names. -/
theorem editedAt_passes {ps : List Pass} (h : a.passes ps = .ok b) :
    EditedAt (fun key => ∃ p ∈ ps, p.Names key) a.manifest b.manifest := by
  refine passes_induct (P := fun c => EditedAt _ a.manifest c.manifest)
    (fun p hp c d hc hd => hc.trans ?_) (.refl _ a.manifest) h
  exact (editedAt_pass hd).mono fun _ hkey => ⟨p, hp, hkey⟩

/-! ## What can be written -/

theorem configWritable_config {overrides : Option Overrides}
    (hwhole : ∀ o, overrides = some o → ∀ e ∈ o.entries, e.2.hasWholeKeys = true)
    (ha : a.manifest.ConfigWritable) (h : a.config overrides = .ok b) :
    b.manifest.ConfigWritable := by
  obtain rfl | ⟨o, result, changes, hsome, -, hok, rfl⟩ := config_eq_ok h
  · exact ha
  · intro c hc
    obtain rfl : result = some c := hc
    exact ⟨Config.wasRead_applyOverrides hok,
      Config.hasWholeKeys_applyOverrides (fun b hb => (ha b hb).1) (hwhole o hsome) hok⟩

theorem configWritable_pass {p : Pass}
    (hwhole : ∀ o, p.overrides = some o → ∀ e ∈ o.entries, e.2.hasWholeKeys = true)
    (ha : a.manifest.ConfigWritable) (h : a.pass p = .ok b) : b.manifest.ConfigWritable := by
  refine configWritable_config hwhole ?_ h
  unfold Manifest.ConfigWritable
  rw [config_foldl_links]
  exact ha

end Applied

theorem Links.hasWholeKeys_toDocument (l : Links) : l.toDocument.hasWholeKeys = true := by
  rw [toDocument, Document.hasWholeKeys, Document.entriesHaveWholeKeys_iff, List.forall_mem_map]
  exact fun _ _ => rfl

namespace Manifest

variable {m : Manifest} {d : Directive} {a : Applied}

theorem hasWholeKeys_toRecord_iff (m : Manifest) :
    m.toRecord.toDocument.hasWholeKeys = true ↔
      (∀ f ∈ Schema.manifest.fields, ∀ d, m.field? f.1.key = some d → d.hasWholeKeys = true) ∧
        ∀ u ∈ m.unknown, u.value.hasWholeKeys = true := by
  rw [Record.toDocument, Document.hasWholeKeys_record]
  refine and_congr_left fun _ => ⟨fun h f hf d hd => ?_, fun h e he => ?_⟩
  · exact h (f.1.key, d) (mem_fields_toRecord_iff.2 ⟨f, hf, rfl, hd⟩)
  · obtain ⟨f, hf, -, hd⟩ := mem_fields_toRecord_iff.1 he
    exact h f hf e.2 hd

/-- A manifest that can be written writes its entries as they are arranged. -/
theorem encode_eq_ok_iff {entries : List (Text × Json)} :
    m.toRecord.encode = .ok (.obj entries) ↔
      m.toRecord.toDocument.fault? = none ∧ entries = m.arranged := by
  rw [Record.encode_eq_ok_iff, toJson_toRecord, Json.obj.injEq]
  exact and_congr_right fun _ => eq_comm

theorem configWritable_of_hasWholeKeys (hm : m.ConfigRead)
    (h : m.toRecord.toDocument.hasWholeKeys = true) : m.ConfigWritable := by
  have hkey : (configKey : Text) = (DeclaredField.optional "config").key := by decide
  intro c hc
  refine ⟨hm c hc, ((hasWholeKeys_toRecord_iff m).1 h).1 _ Schema.mem_config _ ?_⟩
  rw [← hkey, field?_config, hc, Option.map_some]

theorem hasWholeKeys_of_target {target : Target} {d : Document}
    (h : m.field? target.key = some d) : d.hasWholeKeys = true := by
  rw [field?_target, Option.map_eq_some_iff] at h
  obtain ⟨l, -, rfl⟩ := h
  exact l.hasWholeKeys_toDocument

/-- An edit of a manifest in which every key has bytes leaves one in which every key has, where its
configuration is such. -/
theorem EditedAt.hasWholeKeys {named : Text → Prop} {n : Manifest} (h : EditedAt named m n)
    (hnamed : ∀ key, named key → key ∈ editableKeys)
    (hm : m.toRecord.toDocument.hasWholeKeys = true)
    (hconfig : ∀ c, n.config = some c → c.toDocument.hasWholeKeys = true) :
    n.toRecord.toDocument.hasWholeKeys = true := by
  rw [hasWholeKeys_toRecord_iff] at hm ⊢
  rw [h.unknown]
  refine ⟨fun f hf d hd => ?_, hm.2⟩
  by_cases hkey : named f.1.key
  · have hmem := hnamed _ hkey
    simp only [editableKeys, List.mem_cons, List.not_mem_nil, or_false] at hmem
    rcases hmem with heq | heq | heq
    · exact hasWholeKeys_of_target (heq ▸ hd)
    · exact hasWholeKeys_of_target (heq ▸ hd)
    · rw [heq, field?_config, Option.map_eq_some_iff] at hd
      obtain ⟨c, hc, rfl⟩ := hd
      exact hconfig c hc
  · rw [h.field _ hkey] at hd
    exact hm.1 f hf d hd

/-! ## Directives -/

/-- A directive edits a manifest under the keys that it names. -/
theorem editedAt_apply (h : m.apply d = .ok a) : EditedAt d.Names m a.manifest :=
  Applied.editedAt_passes h

theorem configWritable_apply (hm : m.ConfigWritable)
    (hwhole : ∀ e ∈ d.overrides, e.2.hasWholeKeys = true) (h : m.apply d = .ok a) :
    a.manifest.ConfigWritable := by
  refine Applied.passes_induct (P := fun b => b.manifest.ConfigWritable)
    (fun p hp b c hb hc => Applied.configWritable_pass (fun o ho e he => ?_) hb hc) hm h
  exact hwhole e (Directive.overrides_of_pass hp ho ▸ he)

theorem separate_of_decode {entries : List (Text × Json)} (hnodup : (Entries.keys entries).Nodup)
    {root : String} {m : Manifest} (h : decode (.obj entries) root = .ok m) : m.Separate := by
  obtain ⟨r, hr, rfl⟩ := Schema.map_decode_eq_ok_iff.1 h
  obtain ⟨_, heq, -, hunknown, -⟩ := Schema.parts_of_read hr
  cases heq
  have hkeys : (ofRecord r).unknownKeys =
      Entries.keys (undeclared Schema.manifest.declared entries) := by
    rw [unknownKeys, ofRecord, hunknown, unknownOf, List.map_map]
    rfl
  refine ⟨?_, fun u hu f hf hkey => ?_⟩
  · rw [hkeys]
    exact (List.filter_sublist.map Prod.fst).nodup hnodup
  · rw [ofRecord, hunknown] at hu
    obtain ⟨e, he, rfl⟩ := List.mem_map.1 hu
    exact (key_of_undeclared he hf (isNamed_iff.2 (.inl hkey))).1 hkey

theorem separate_of_load [Machine] {text : Text} {source : Option Text} {m : Manifest}
    (h : load text source = .ok m) : m.Separate := by
  obtain ⟨fields, hparse, hdecode⟩ := loadText_eq_ok_iff.1 h
  exact separate_of_decode (Json.isDistinct_obj.1 (Json.isDistinct_of_parse hparse)).1 hdecode

theorem Reached.separate [Machine] (hm : m.Reached) : m.Separate := by
  induction hm with
  | load h => exact separate_of_load h
  | apply _ h ih => exact (editedAt_apply h).separate ih

/-- What entries are after an edit under some keys. -/
structure LocalTo (named : Text → Prop) (before after : List (Text × Json)) : Prop where
  distinct : (Entries.keys after).Nodup
  order : (Entries.keys before).Sublist (Entries.keys after)
  same : ∀ key, ¬ named key → after.lookup key = before.lookup key
  added : ∀ key ∈ Entries.keys after, key ∉ Entries.keys before → key ∈ editableKeys

theorem localTo_arranged (hm : m.Separate) (h : m.apply d = .ok a) :
    LocalTo d.Names m.arranged a.manifest.arranged := by
  have hedit := editedAt_apply h
  refine ⟨nodup_keys_arrange _ (hedit.separate hm).nodup_keys_written,
    hedit.keys_arranged_sublist, fun key hkey => hedit.lookup_arranged hkey, ?_⟩
  intro key hafter hbefore
  by_contra hkey
  have hsame := hedit.lookup_arranged (fun hnamed : d.Names key => hkey hnamed.editable)
  rw [Entries.lookup_eq_none_iff.2 hbefore, Entries.lookup_eq_none_iff] at hsame
  exact hsame hafter

/-- What a directive leaves of a manifest that can be written can be written too, where every key
in an override has bytes and no override is nested too deep. -/
theorem fault?_apply (hseparate : m.Separate) (hread : m.ConfigRead)
    (hm : m.toRecord.toDocument.fault? = none) (h : m.apply d = .ok a)
    (hwhole : ∀ e ∈ d.overrides, e.2.hasWholeKeys = true)
    (hdepth : ∀ e ∈ d.overrides, e.2.depth < Machine.encodable) :
    a.manifest.toRecord.toDocument.fault? = none := by
  obtain ⟨hkeys, hshallow⟩ := Document.fault?_eq_none_iff.1 hm
  have hconfig := configWritable_apply (configWritable_of_hasWholeKeys hread hkeys) hwhole h
  have hbounded : m.Bounded fun _ => true := hseparate.bounded hshallow
    (Json.isWithin_true_iff.2 (Document.isShallow_record.1 hshallow).2.2)
  have hpasses : ∀ p ∈ d.passes, p.Bounded fun _ => true := Directive.bounded_passes fun e he =>
    Json.isWithin_true_iff.2 (Nat.le_pred_of_lt (hdepth e he))
  exact (hbounded.apply hpasses h).fault?
    ((editedAt_apply h).hasWholeKeys (fun _ hkey => hkey.editable) hkeys
      fun c hc => (hconfig c hc).2)

/-- What a directive leaves of a manifest is written where every key in an override has bytes and
no override is nested too deep, and wherever it is written the edit is local to the keys that the
directive names. -/
theorem localTo_apply [Machine] (hm : m.Reached) (h : m.apply d = .ok a)
    {before : List (Text × Json)} (hbefore : m.toRecord.encode = .ok (.obj before)) :
    ((∀ e ∈ d.overrides, e.2.hasWholeKeys = true ∧ e.2.depth < Machine.encodable) →
      ∃ after, a.manifest.toRecord.encode = .ok (.obj after)) ∧
    ∀ after, a.manifest.toRecord.encode = .ok (.obj after) → LocalTo d.Names before after := by
  obtain ⟨hfault, rfl⟩ := encode_eq_ok_iff.1 hbefore
  refine ⟨fun hoverrides => ?_, fun after hafter => ?_⟩
  · have hresult := fault?_apply hm.separate hm.configRead hfault h
      (fun e he => (hoverrides e he).1) fun e he => (hoverrides e he).2
    exact ⟨_, encode_eq_ok_iff.2 ⟨hresult, rfl⟩⟩
  · obtain ⟨-, rfl⟩ := encode_eq_ok_iff.1 hafter
    exact localTo_arranged hm.separate h

/-- A manifest with a dependency map in its second spelling, one that edits do not change, and a
key of its own. -/
def mixedText : Text :=
  "\x7b\"require_dev\":\x7b\"x/y\":\"1\"\x7d,\"name\":\"a/b\",\"readme\":null," ++
    "\"replace\":\x7b\"x/y\":\"1\"\x7d,\"note\":null,\"require\":\x7b\"x/y\":\"1\"\x7d\x7d"

/-- A directive that replaces a dependency and overrides the configuration. -/
def replacementText : Text :=
  "\x7b\"replace\":\x7b\"require\":\x7b\"x/*\":\"2\"\x7d\x7d," ++
    "\"modify\":\x7b\"config\":\x7b\"lock\":true\x7d\x7d\x7d"

theorem localTo_apply_sample :
    ∃ m d a before after, load mixedText none = .ok m ∧
      Directive.load replacementText none = .ok d ∧ m.apply d = .ok a ∧
      m.toRecord.encode = .ok (.obj before) ∧ a.manifest.toRecord.encode = .ok (.obj after) ∧
      LocalTo d.Names before after ∧
      Entries.keys before = ["require-dev", "name", "replace", "note", "require"] ∧
      Entries.keys after = ["require-dev", "name", "replace", "note", "require", "config"] := by
  have hloads : (load mixedText none).toOption.any (fun m =>
      (Directive.load replacementText none).toOption.any fun d =>
        (m.apply d).toOption.any fun a =>
          (decide (m.toRecord.toDocument.fault? = none) &&
            d.overrides.all fun e => e.2.hasWholeKeys && e.2.depth < Machine.encodable) &&
          (decide (Entries.keys m.arranged =
              ["require-dev", "name", "replace", "note", "require"]) &&
            decide (Entries.keys a.manifest.arranged =
              ["require-dev", "name", "replace", "note", "require", "config"]))) = true := by
    decide +kernel
  obtain ⟨m, hm, hloads⟩ := exists_ok_of_any hloads
  obtain ⟨d, hd, hloads⟩ := exists_ok_of_any hloads
  obtain ⟨a, ha, hchecks⟩ := exists_ok_of_any hloads
  simp only [Bool.and_eq_true, List.all_eq_true, decide_eq_true_iff] at hchecks
  obtain ⟨⟨hwritable, hoverrides⟩, hbefore, hafter⟩ := hchecks
  have hencode := encode_eq_ok_iff.2 ⟨hwritable, rfl⟩
  obtain ⟨hwritten, hlocal⟩ := localTo_apply (.load hm) ha hencode
  obtain ⟨after, hresult⟩ := hwritten hoverrides
  have harranged := (encode_eq_ok_iff.1 hresult).2
  exact ⟨m, d, a, m.arranged, after, hm, hd, ha, hencode, hresult, hlocal after hresult, hbefore,
    harranged ▸ hafter⟩

/-- A directive whose override holds half of a pair in a key below its own. -/
def halfOverrideText : Text :=
  "\x7b\"modify\":\x7b\"config\":\x7b\"note\":\x7b\"\\ud800\":1\x7d\x7d\x7d\x7d"

/-- A directive whose override has so many levels of arrays. -/
def deepOverrideText (levels : Nat) : Text :=
  "\x7b\"modify\":\x7b\"config\":\x7b\"note\":" ++ .ofChars (List.replicate levels '[') ++
    .ofChars (List.replicate levels ']') ++ "\x7d\x7d\x7d"

/-- Such directives apply, and nothing of the results can be written. -/
theorem exists_apply_unwritable :
    ∃ m before, load mixedText none = .ok m ∧ m.toRecord.encode = .ok (.obj before) ∧
      ∀ edit ∈ [halfOverrideText, deepOverrideText 255], ∃ d a fault,
        Directive.load edit none = .ok d ∧ m.apply d = .ok a ∧
          a.manifest.toRecord.encode = .error fault := by
  have hloads : (load mixedText none).toOption.any (fun m =>
      decide (m.toRecord.toDocument.fault? = none) &&
        [halfOverrideText, deepOverrideText 255].all fun edit =>
          (Directive.load edit none).toOption.any fun d =>
            (m.apply d).toOption.any fun a => a.manifest.toRecord.toDocument.fault?.isSome) =
      true := by
    decide +kernel
  obtain ⟨m, hm, hchecks⟩ := exists_ok_of_any hloads
  rw [Bool.and_eq_true, decide_eq_true_iff] at hchecks
  obtain ⟨hwritable, hedits⟩ := hchecks
  refine ⟨m, m.arranged, hm, encode_eq_ok_iff.2 ⟨hwritable, rfl⟩, fun edit hedit => ?_⟩
  obtain ⟨d, hd, happlies⟩ := exists_ok_of_any (List.all_eq_true.1 hedits edit hedit)
  obtain ⟨a, ha, hfails⟩ := exists_ok_of_any happlies
  obtain ⟨fault, hfault⟩ := Option.isSome_iff_exists.1 hfails
  refine ⟨d, a, fault, hd, ha, ?_⟩
  rw [Record.encode, Document.encode, hfault]

end Manifest

end ManifestEdit
