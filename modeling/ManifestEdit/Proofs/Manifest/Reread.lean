import ManifestEdit.Proofs.Manifest.Bounded

/-!
# Manifests that write the same

A storable manifest and the manifest that its text is loaded as hold the same dependency maps and
write the same values under the same keys. They may remember the keys in different orders.
-/

namespace ManifestEdit

open Shape

theorem Schema.exists_target (target : Target) :
    ∃ f ∈ manifest.fields, f.1.key = target.key ∧ f.2 = textMap := by
  cases target with
  | require => exact ⟨_, mem_require, by decide, rfl⟩
  | requireDev => exact ⟨_, mem_requireDev, by decide, rfl⟩

/-! ## Dependency maps -/

namespace Links

/-- A dependency map with whole keys is read back from what it writes. -/
theorem settled {l : Links} (hwhole : ∀ k ∈ l.keys, k.isWhole = true) :
    Settled Schema.textMap l.toDocument.toJson l.toDocument := by
  let entries : List (Text × Json) := l.entries.map fun e => (e.1, .str e.2)
  let ds : List Document := l.entries.map fun e => .leaf (.str e.2)
  have hkeys : Entries.keys entries = l.keys := by
    rw [Entries.keys, List.map_map]
    rfl
  have hnodup : (Entries.keys entries).Nodup := by
    rw [hkeys]
    exact l.distinct
  have hentries : ∀ e ∈ entries, e.1.isWhole = true := fun e he =>
    hwhole e.1 (hkeys ▸ Entries.mem_keys.2 ⟨e.2, he⟩)
  have hread : entries.map (fun e => Shape.text.read e.2) = ds.map .ok := by
    rw [List.map_map, List.map_map]
    rfl
  have hvalues : ∀ e ∈ entries, ∃ d, Settled .text e.2 d := by
    intro e he
    obtain ⟨o, -, rfl⟩ := List.mem_map.1 he
    exact ⟨.leaf (.str o.2), settled_scalar rfl rfl⟩
  have hdocument : l.toDocument = .map ((Entries.keys entries).zip ds) := by
    rw [hkeys, OrderedMap.keys, Entries.keys, List.zip_map']
    rfl
  have h := settled_map hnodup hentries hread hvalues
  rw [hdocument, h.writes]
  exact h

theorem ofDocument?_toDocument (l : Links) : ofDocument? l.toDocument = some l := by
  have hnodup : (Entries.keys (l.entries.map fun e => (e.1, Document.leaf (.str e.2)))).Nodup := by
    rw [Entries.keys, List.map_map]
    exact l.distinct
  have hvalues : ∀ e ∈ l.entries.map (fun e => (e.1, Document.leaf (.str e.2))),
      ∃ t, e.2.text? = some t ∧ Document.leaf (.str t) = e.2 := by
    intro e he
    obtain ⟨o, -, rfl⟩ := List.mem_map.1 he
    exact ⟨o.2, rfl, rfl⟩
  obtain ⟨m, hm, hentries⟩ := Document.mapOf?_map hnodup hvalues
  have hsame : m.entries = l.entries := by
    refine List.map_injective_iff.2 ?_ hentries
    rintro ⟨k, v⟩ ⟨j, w⟩ heq
    simp only [Prod.mk.injEq, Document.leaf.injEq, Json.str.injEq] at heq
    rw [heq.1, heq.2]
  rw [ofDocument?, toDocument, hm, OrderedMap.ext_entries hsame]

end Links

namespace Manifest

variable {m n : Manifest}

theorem field?_target (m : Manifest) (target : Target) :
    m.field? target.key = (m.links target).map Links.toDocument := by
  cases target with
  | require => rfl
  | requireDev => rfl

theorem field?_config (m : Manifest) : m.field? configKey = m.config.map Config.toDocument :=
  rfl

theorem json?_target (m : Manifest) (target : Target) :
    m.json? target.key = (m.links target).map fun l => l.toDocument.toJson := by
  rw [json?, field?_target, Option.map_map]
  cases m.links target <;> rfl

theorem json?_config (m : Manifest) :
    m.json? configKey = m.config.map fun c => c.toDocument.toJson := by
  rw [json?, field?_config, Option.map_map]
  cases m.config <;> rfl

/-! ## Reading what was written -/

/-- The entries in the order in which they are written. -/
def arranged (m : Manifest) : List (Text × Json) :=
  arrange m.order m.written

/-- The record read from what a manifest writes. -/
def rereadRecord (m : Manifest) : Record where
  fields := fieldsRead Schema.manifest.fields m.arranged
  unknown := unknownOf Schema.manifest.declared m.arranged
  order := orderOf Schema.manifest.declared m.arranged

/-- The manifest read from what a manifest writes. -/
def reread (m : Manifest) : Manifest :=
  ofRecord m.rereadRecord

namespace Durable

theorem perm_arranged (h : m.Durable) : m.arranged.Perm m.written :=
  arrange_perm m.order h.nodup_keys_written

theorem settledArranged (h : m.Durable) :
    SettledEntries Schema.manifest.closed Schema.manifest.fields m.arranged :=
  h.settledEntries.perm h.perm_arranged

theorem settled (h : m.Durable) :
    Settled Schema.manifest.shape (.obj m.arranged) m.rereadRecord.toDocument :=
  h.settledArranged.settled Schema.sound_manifest Schema.manifest.name

theorem clean (h : m.Durable) : Clean Schema.manifest.shape (.obj m.arranged) :=
  h.settled.clean

theorem toRecord_reread (h : m.Durable) : m.reread.toRecord = m.rereadRecord :=
  toRecord_ofRecord h.clean.toPlain h.settled.reads

theorem reread (h : m.Durable) : m.reread.Durable :=
  durable_ofRecord h.clean h.settled.reads

end Durable

section Storable

variable [Machine]

namespace Storable

theorem isWithin_arranged (h : m.Storable) :
    (Json.obj m.arranged).isWithin Number.fits (Machine.encodable + 1) = true := by
  rw [arranged, ← toJson_toRecord]
  exact h.bounded.isWithin_toJson

theorem readable_arranged (h : m.Storable) :
    Json.Readable Machine.readable (.obj m.arranged) := by
  obtain ⟨hdepth, hfits⟩ := Json.isWithin_fits_iff.1 h.isWithin_arranged
  exact ⟨h.durable.settled.distinct, hfits, Nat.le_trans (Json.nesting_le_depth _)
    (Nat.le_trans hdepth Machine.encodable_lt_readable)⟩

theorem reread (h : m.Storable) : m.reread.Storable :=
  storable_of_read h.durable.clean (Json.depth_le_of_isWithin h.isWithin_arranged)
    h.readable_arranged.fits h.durable.settled.reads

theorem encode (h : m.Storable) : m.toRecord.encode = .ok (.obj m.arranged) := by
  rw [Record.encode_eq_ok h.fault?, toJson_toRecord]
  rfl

theorem encode_reread (h : m.Storable) : m.reread.toRecord.encode = .ok (.obj m.arranged) := by
  have hrecord := h.durable.toRecord_reread
  have hfault := h.reread.fault?
  rw [hrecord] at hfault ⊢
  rw [Record.encode_eq_ok hfault, h.durable.settled.writes]

theorem render {indent : Int} {width : Nat} (h : m.Storable)
    (hwidth : Indent.width indent = .ok width) :
    m.render indent = .ok ((Json.obj m.arranged).lines width) := by
  have hfits : m.toRecord.toDocument.toJson.fits = true := by
    rw [toJson_toRecord]
    exact h.readable_arranged.fits
  rw [Manifest.render, Record.render_eq_ok h.fault? hfits hwidth, toJson_toRecord]
  rfl

/-- A storable manifest and the manifest reread are rendered alike. -/
theorem render_reread {indent : Int} (h : m.Storable) :
    m.reread.render indent = m.render indent := by
  rw [Manifest.render, Manifest.render, Record.render, Record.render, h.encode, h.encode_reread]

/-- The text of a storable manifest is loaded as the manifest reread. -/
theorem loads_reread {indent : Int} {width : Nat} (h : m.Storable)
    (hwidth : Indent.width indent = .ok width) (source : Option Text) :
    ∃ text, m.render indent = .ok text ∧ load text source = .ok m.reread := by
  refine ⟨_, h.render hwidth, loadText_eq_ok_iff.2 ⟨m.arranged, ?_, ?_⟩⟩
  · exact Json.parse_lines width h.readable_arranged
  · exact Schema.map_decode_eq_ok_iff.2 ⟨m.rereadRecord, h.durable.settled.reads, rfl⟩

end Storable

/-! ## Manifests that write the same -/

/-- Storable manifests with the same dependency maps that write the same entries. -/
structure Alike (m n : Manifest) : Prop where
  left : m.Storable
  right : n.Storable
  links : ∀ target, m.links target = n.links target
  json : ∀ f ∈ Schema.manifest.fields, m.json? f.1.key = n.json? f.1.key
  unknown : ∀ e, e ∈ m.unknown.filterMap Unknown.entry? ↔ e ∈ n.unknown.filterMap Unknown.entry?

namespace Alike

theorem refl (h : m.Storable) : Alike m m :=
  ⟨h, h, fun _ => rfl, fun _ _ => rfl, fun _ => Iff.rfl⟩

theorem symm (h : Alike m n) : Alike n m :=
  ⟨h.right, h.left, fun target => (h.links target).symm, fun f hf => (h.json f hf).symm,
    fun e => (h.unknown e).symm⟩

theorem trans {k : Manifest} (h : Alike m n) (h' : Alike n k) : Alike m k :=
  ⟨h.left, h'.right, fun target => (h.links target).trans (h'.links target),
    fun f hf => (h.json f hf).trans (h'.json f hf), fun e => (h.unknown e).trans (h'.unknown e)⟩

theorem mem_written_iff (h : Alike m n) {e : Text × Json} : e ∈ m.written ↔ e ∈ n.written := by
  rw [Manifest.mem_written_iff, Manifest.mem_written_iff, h.unknown e]
  refine or_congr_left ⟨?_, ?_⟩
  · rintro ⟨f, hf, hkey, hj⟩
    exact ⟨f, hf, hkey, h.json f hf ▸ hj⟩
  · rintro ⟨f, hf, hkey, hj⟩
    exact ⟨f, hf, hkey, (h.json f hf).symm ▸ hj⟩

/-- What alike manifests write differs in the order of the keys only. -/
theorem perm (h : Alike m n) : m.arranged.Perm n.arranged := by
  have hwritten : m.written.Perm n.written :=
    (List.perm_ext_iff_of_nodup h.left.durable.nodup_keys_written.of_map
      h.right.durable.nodup_keys_written.of_map).2 fun _ => h.mem_written_iff
  exact (h.left.durable.perm_arranged.trans hwritten).trans h.right.durable.perm_arranged.symm

end Alike

end Storable

/-! ## The manifest reread -/

namespace Durable

theorem lookup_arranged (h : m.Durable) {f : DeclaredField × Shape}
    (hf : f ∈ Schema.manifest.fields) : m.arranged.lookup f.1.key = m.json? f.1.key := by
  refine Option.ext fun j => ?_
  rw [Entries.lookup_eq_some_iff h.settledArranged.nodup, h.perm_arranged.mem_iff]
  constructor
  · intro hmem
    exact (h.of_mem_field hmem (fieldNamed?_key Schema.sound_manifest.apart hf)).2
  · intro hj
    exact mem_written_iff.2 (.inl ⟨f, hf, rfl, hj⟩)

theorem field?_reread (h : m.Durable) (key : Text) :
    m.reread.field? key = (fieldsRead Schema.manifest.fields m.arranged).lookup key :=
  field?_ofRecord h.clean.toPlain h.settled.reads key

theorem json?_reread (h : m.Durable) {f : DeclaredField × Shape}
    (hf : f ∈ Schema.manifest.fields) : m.reread.json? f.1.key = m.json? f.1.key := by
  rw [json?, h.field?_reread,
    h.settledArranged.toJson_lookup_fieldsRead Schema.sound_manifest hf, h.lookup_arranged hf,
    json?]
  cases m.field? f.1.key with
  | none => rfl
  | some d => cases hnull : d.toJson.isNull <;> simp [Option.filter, hnull]

theorem unknown_reread (h : m.Durable) (e : Text × Json) :
    e ∈ m.reread.unknown.filterMap Unknown.entry? ↔ e ∈ m.unknown.filterMap Unknown.entry? := by
  have hentries := h.settledArranged.unknown_entries Schema.sound_manifest
  have hreread : m.reread.unknown =
      unknownOf (Schema.manifest.fields.map Prod.fst) m.arranged := rfl
  rw [hreread, hentries, Shape.others, List.mem_filter, h.perm_arranged.mem_iff,
    Option.isNone_iff_eq_none]
  constructor
  · rintro ⟨he, hnone⟩
    obtain ⟨u, hu, rfl⟩ := h.of_mem_other he hnone
    exact List.mem_filterMap.2 ⟨u, hu, (h.unknown u hu).entry_eq⟩
  · intro he
    refine ⟨mem_written_iff.2 (.inr he), ?_⟩
    rw [h.unknown_entries] at he
    obtain ⟨u, hu, rfl⟩ := List.mem_map.1 he
    exact (h.unknown u hu).undeclared

theorem links_reread (h : m.Durable) (target : Target) :
    m.reread.links target = m.links target := by
  obtain ⟨f, hf, hkey, hshape⟩ := Schema.exists_target target
  have hlookup := h.lookup_arranged hf
  rw [hkey, json?_target, ← hkey] at hlookup
  have hread : m.reread.links target =
      ((fieldsRead Schema.manifest.fields m.arranged).lookup f.1.key).bind Links.ofDocument? := by
    rw [hkey]
    cases target <;> rfl
  have hfield := fun d => h.settledArranged.lookup_fieldsRead_eq_some_iff Schema.sound_manifest
    hf (d := d)
  rw [hshape, hlookup] at hfield
  rw [hread]
  cases hl : m.links target with
  | none =>
    rw [hl] at hfield
    cases hd : (fieldsRead Schema.manifest.fields m.arranged).lookup f.1.key with
    | none => rfl
    | some d =>
      obtain ⟨j, hj, -⟩ := (hfield d).1 hd
      cases hj
  | some l =>
    rw [hl] at hfield
    have hsettled := Links.settled (h.links target l hl)
    rw [(hfield l.toDocument).2 ⟨_, rfl, hsettled⟩, Option.bind_some, Links.ofDocument?_toDocument]

end Durable

variable [Machine]

/-- A storable manifest and the manifest reread are alike. -/
theorem Storable.alike_reread (h : m.Storable) : Alike m m.reread where
  left := h
  right := h.reread
  links := fun target => (h.durable.links_reread target).symm
  json := fun _ hf => (h.durable.json?_reread hf).symm
  unknown := fun e => (h.durable.unknown_reread e).symm

/-- Durable manifests that are rendered as one text are alike. -/
theorem Durable.alike_of_render (hm : m.Durable) (hn : n.Durable) {indent : Int} {text : Text}
    (h : m.render indent = .ok text) (h' : n.render indent = .ok text) : Alike m n := by
  have hleft := hm.storable_of_render h
  have hright := hn.storable_of_render h'
  obtain ⟨width, hwidth, -⟩ := Record.of_render h
  rw [hleft.render hwidth] at h
  rw [hright.render hwidth] at h'
  have hm' := Json.parse_lines width hleft.readable_arranged
  have hn' := Json.parse_lines width hright.readable_arranged
  rw [Except.ok.inj h] at hm'
  rw [Except.ok.inj h', hm'] at hn'
  have harranged : m.arranged = n.arranged := Json.obj.inj (Except.ok.inj hn')
  have hreread : n.reread = m.reread := by
    simp only [Manifest.reread, rereadRecord, harranged]
  exact hleft.alike_reread.trans (hreread ▸ hright.alike_reread).symm

end Manifest

end ManifestEdit
