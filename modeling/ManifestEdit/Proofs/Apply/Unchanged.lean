import ManifestEdit.Proofs.Apply.Reached
import ManifestEdit.Proofs.Links.Report
import ManifestEdit.Proofs.Shape.Bounded
import ManifestEdit.Proofs.Shape.Rewritten

/-!
# Directives without effect

Where a directive reports no effect, every dependency map is the one before, but the configuration
may have been read again from what it writes. It then writes the same again, unless a respelling
took the place of its field; so the manifest is rendered as before.
-/

namespace ManifestEdit

open Shape

/-! ## Records that are read again -/

/-- Whether no declared field stands under both its key and its second spelling. -/
def Record.isSpelledOnce (r : Record) : Bool :=
  r.unknown.all fun u => !u.respelling

namespace Schema

variable {s : Schema} {r : Record} {entries : List (Text × Json)}

theorem isSpelledOnce_of_read (hregular : s.shape.isRegular = true)
    (h : s.shape.read (.obj entries) = .ok r.toDocument) :
    r.isSpelledOnce = standOnce s.fields entries := by
  obtain ⟨_, heq, -, hunknown, -⟩ := parts_of_read h
  cases heq
  rw [Record.isSpelledOnce, hunknown]
  exact (standOnce_eq_all (sound_fields hregular).apart).symm

/-- No key that is not declared is then the second spelling of a field. -/
theorem spelling_ne_of_once (hregular : s.shape.isRegular = true)
    (honce : standOnce s.fields entries = true) {e : Text × Json}
    (he : e ∈ undeclared s.declared entries) {f : DeclaredField × Shape} (hf : f ∈ s.fields) :
    f.1.spelling ≠ e.1 := by
  rw [standOnce_eq_all (sound_fields hregular).apart, List.all_eq_true] at honce
  intro hspelling
  have hfirst := honce _ (List.mem_map_of_mem he)
  rw [Bool.not_eq_true', List.any_eq_false] at hfirst
  exact hfirst f.1 (List.mem_map_of_mem hf) (decide_eq_true hspelling)

/-- What a record writes that can be written is kept by its shape. -/
theorem exists_keptEntries (hregular : s.shape.isRegular = true)
    (hfields : ∀ f ∈ s.fields, ∀ j d, f.2.read j = .ok d → d.hasWholeKeys = true →
      ∃ e, Kept f.2 d.toJson e)
    (h : s.shape.read (.obj entries) = .ok r.toDocument) (honce : r.isSpelledOnce = true)
    (hwritable : r.toDocument.hasWholeKeys = true) :
    ∃ base, r.toDocument.toJson = .obj base ∧ KeptEntries s.closed s.fields base [] := by
  rw [isSpelledOnce_of_read hregular h] at honce
  have hentries : WritableEntries s.closed s.fields entries :=
    writableEntries hregular hfields
      (fun e he f hf hspelling => absurd hspelling (spelling_ne_of_once hregular honce he hf))
      h hwritable
  have hforgotten : forgotten s.fields entries = [] := by
    refine List.eq_nil_iff_forall_not_mem.2 fun e he => ?_
    obtain ⟨o, ho, -, -, f, hf, hspelling, -⟩ := hentries.of_mem_forgotten he
    exact spelling_ne_of_once hregular honce ho hf hspelling
  have hkept := hentries.keptEntries
  rw [hforgotten] at hkept
  refine ⟨remembered s.fields entries, ?_, hkept⟩
  obtain ⟨-, -, -, hdocument⟩ := read_record_eq_ok_iff.1 h
  rw [hdocument, ← fieldsRead, toJson_record_eq, hforgotten, List.append_nil]

/-- A record that can be written is read again as one that writes the same. -/
theorem exists_reread (hregular : s.shape.isRegular = true)
    (hfields : ∀ f ∈ s.fields, ∀ j d, f.2.read j = .ok d → d.hasWholeKeys = true →
      ∃ e, Kept f.2 d.toJson e)
    (h : s.shape.read (.obj entries) = .ok r.toDocument) (honce : r.isSpelledOnce = true)
    (hwritable : r.toDocument.hasWholeKeys = true) :
    ∃ base r', r.toDocument.toJson = .obj base ∧
      Kept s.shape (.obj base) (Record.toDocument r') ∧ r'.isSpelledOnce = true := by
  obtain ⟨base, hjson, hentries⟩ := exists_keptEntries hregular hfields h honce hwritable
  have hkept := hentries.kept (sound_fields hregular) s.name
  rw [List.append_nil] at hkept
  refine ⟨base, ⟨_, _, _⟩, hjson, hkept, ?_⟩
  exact (isSpelledOnce_of_read (r := ⟨_, _, _⟩) hregular hkept.reads).trans
    (hentries.standOnce (sound_fields hregular))

end Schema

/-! ## Configurations -/

namespace Config

/-- A configuration that was read and in which no field stands under both of its names. -/
structure Restorable (c : Config) : Prop where
  read : c.WasRead
  once : c.record.isSpelledOnce = true

theorem areSteady_fields : ∀ f ∈ Schema.config.fields, f.2.isSteady = true := by
  have hall : (Schema.config.fields.all fun f => f.2.isSteady) = true := by decide +kernel
  exact List.all_eq_true.1 hall

/-- What a field of a configuration writes is read again and written as it is. -/
theorem kept_field {f : DeclaredField × Shape} (hf : f ∈ Schema.config.fields) :
    ∀ j d, f.2.read j = .ok d → d.hasWholeKeys = true → ∃ e, Kept f.2 d.toJson e :=
  kept_toJson f.2 (Schema.isRegular_of_mem Schema.isRegular_config hf) (areSteady_fields f hf)

/-- A configuration that can be written is read again as one that writes the same. -/
theorem Restorable.exists_decode {c : Config} (h : c.Restorable)
    (hfault : c.toDocument.fault? = none) (root : String) :
    ∃ base c', c.entries = .ok base ∧ decode (.obj base) root = .ok c' ∧ c'.Restorable ∧
      c'.toDocument.toJson = c.toDocument.toJson ∧ c'.toDocument.fault? = none := by
  obtain ⟨hwritable, hshallow⟩ := Document.fault?_eq_none_iff.1 hfault
  obtain ⟨j, hread⟩ := h.read
  obtain ⟨entries, rfl⟩ := read_record hread
  obtain ⟨base, r, hjson, hkept, honce⟩ := Schema.exists_reread Schema.isRegular_config
    (fun _ hf => kept_field hf) hread h.once hwritable
  have hdepth : (Json.obj base).depth ≤ Machine.encodable + 1 :=
    hjson ▸ (Document.isShallow_record.1 hshallow).2.2
  exact ⟨base, ⟨r⟩, entries_eq_ok hfault hjson,
    Schema.map_decode_eq_ok_iff.2 ⟨r, hkept.reads, rfl⟩, ⟨⟨_, hkept.reads⟩, honce⟩,
    hkept.writes.trans hjson.symm, Document.fault?_eq_none_iff.2
      ⟨hkept.writable, Schema.isShallow_of_read hkept.reads hdepth⟩⟩

theorem hasWholeKeys_of_entries {c : Config} {base : List (Text × Json)}
    (h : c.entries = .ok base) : c.toDocument.hasWholeKeys = true :=
  (Document.fault?_eq_none_iff.1 (entries_eq_ok_iff.1 h).1).1

/-- Overrides whose changes have no effect make none, and what a configuration writes is read. -/
theorem of_applyOverrides_idle {config result : Option Config} {overrides : Overrides}
    {changes : List Change} (h : applyOverrides config overrides = .ok (result, changes))
    (hidle : ∀ c ∈ changes, c.kind.isEffective = false) :
    config = none ∧ result = none ∨
      ∃ c c' base, config = some c ∧ c.entries = .ok base ∧ result = some c' ∧
        decode (.obj base) "config" = .ok c' := by
  obtain ⟨base, hoverride, hbase⟩ := applyOverrides_eq_ok h
  obtain ⟨hchanges, hresult⟩ := override_eq_ok hoverride
  have hnil : changes = [] := by
    refine List.eq_nil_iff_forall_not_mem.2 fun c hc => ?_
    have hkind := (of_mem_overrideChanges (hchanges ▸ hc)).2.1
    have heffective := hidle c hc
    rw [hkind] at heffective
    cases heffective
  obtain ⟨rfl, -⟩ | ⟨c, rfl, hentries⟩ := hbase
  · obtain ⟨-, -, hnone⟩ | ⟨hsome, -⟩ := hresult
    · exact .inl ⟨rfl, hnone⟩
    · exact absurd hnil (hsome rfl)
  · obtain ⟨hfalse, -, -⟩ | ⟨-, c', hsome, hdecode⟩ := hresult
    · cases hfalse
    · rw [hnil] at hdecode
      exact .inr ⟨c, c', base, rfl, hentries, hsome, hdecode⟩

end Config

/-! ## Manifests that are rendered alike -/

/-- Documents that write the same are rendered alike. -/
theorem Record.render_congr [Machine] {r r' : Record}
    (hjson : r'.toDocument.toJson = r.toDocument.toJson)
    (hfault : r'.toDocument.fault? = r.toDocument.fault?) (indent : Int) :
    r'.render indent = r.render indent := by
  have hencode : r'.encode = r.encode := by
    rw [encode, encode, Document.encode, Document.encode, hjson, hfault]
  rw [render, render, hencode]

namespace Manifest

variable {m n o : Manifest}

theorem fault?_toRecord (m : Manifest) : m.toRecord.toDocument.fault? =
    (((Schema.manifest.declared.findSome? fun f =>
        (m.field? f.key).bind Document.fault?).map EncodeFault.within).or
      (Document.faultOfUnknown? m.unknown)).or
        (Document.outputFault? m.toRecord.toDocument.toJson) := by
  have hfields : Document.faultOfEntries? m.toRecord.fields =
      Schema.manifest.declared.findSome? fun f => (m.field? f.key).bind Document.fault? := by
    rw [Document.faultOfEntries?_eq_findSome?, toRecord, ← List.head?_filterMap,
      List.filterMap_filterMap, List.head?_filterMap]
    refine congrArg (fun g => List.findSome? g _) (funext fun f => ?_)
    cases m.field? f.key <;> rfl
  rw [Record.toDocument, Document.fault?, hfields]
  rfl

/-- A manifest that differs from another in its configuration, which writes the same. -/
structure RenderedAs (m n : Manifest) : Prop where
  rest : n = { m with config := n.config }
  json : n.config.map (fun c => c.toDocument.toJson) = m.config.map fun c => c.toDocument.toJson
  fault : n.config.bind (fun c => c.toDocument.fault?) =
    m.config.bind fun c => c.toDocument.fault?

namespace RenderedAs

theorem refl (m : Manifest) : RenderedAs m m :=
  ⟨rfl, rfl, rfl⟩

theorem trans (h : RenderedAs m n) (h' : RenderedAs n o) : RenderedAs m o := by
  refine ⟨?_, h'.json.trans h.json, h'.fault.trans h.fault⟩
  rw [h'.rest, h.rest]

theorem edited (h : RenderedAs m n) : Edited configKey m n := by
  rw [h.rest]
  exact edited_config m n.config

theorem toJson_eq (h : RenderedAs m n) :
    n.toRecord.toDocument.toJson = m.toRecord.toDocument.toJson := by
  have hvalue : ∀ key, n.json? key = m.json? key := by
    intro key
    by_cases hkey : key = configKey
    · rw [hkey, json?_config, json?_config, h.json]
    · exact h.edited.json? hkey
  have hwritten : n.written = m.written := by
    simp only [written, hvalue, h.edited.unknown]
  rw [toJson_toRecord, toJson_toRecord, hwritten, h.rest]

theorem fault?_eq (h : RenderedAs m n) :
    n.toRecord.toDocument.fault? = m.toRecord.toDocument.fault? := by
  have hfault : ∀ key, (n.field? key).bind Document.fault? =
      (m.field? key).bind Document.fault? := by
    intro key
    by_cases hkey : key = configKey
    · rw [hkey, field?_config, field?_config, Option.bind_map, Option.bind_map]
      exact h.fault
    · rw [h.edited.field key hkey]
  simp only [fault?_toRecord, hfault, h.edited.unknown, h.toJson_eq]

theorem render_eq [Machine] (h : RenderedAs m n) (indent : Int) :
    n.render indent = m.render indent :=
  Record.render_congr h.toJson_eq h.fault?_eq indent

end RenderedAs

/-- A manifest whose configuration writes the same when it is read again. -/
def Restorable (m : Manifest) : Prop :=
  ∀ c, m.config = some c → c.Restorable

/-- A configuration that is read again from what it writes makes no difference. -/
theorem renderedAs_of_decode (hm : m.Restorable) {c c' : Config} {base : List (Text × Json)}
    {root : String} (hc : m.config = some c) (hbase : c.entries = .ok base)
    (hdecode : Config.decode (.obj base) root = .ok c') :
    RenderedAs m { m with config := some c' } ∧ Restorable { m with config := some c' } := by
  have hwritable := (Config.entries_eq_ok_iff.1 hbase).1
  obtain ⟨base', d, hbase', hd, hrestorable, hjson, hfault⟩ :=
    (hm c hc).exists_decode hwritable root
  rw [hbase] at hbase'
  cases hbase'
  rw [hdecode] at hd
  cases hd
  refine ⟨⟨rfl, ?_, ?_⟩, fun d hd => ?_⟩
  · rw [hc, Option.map_some, Option.map_some, hjson]
  · rw [hc, Option.bind_some, Option.bind_some, hfault, hwritable]
  · cases hd
    exact hrestorable

end Manifest

/-! ## Steps without effect -/

namespace Applied

variable {a b : Applied}

theorem isChanged_eq_false_iff :
    a.isChanged = false ↔ ∀ c ∈ a.changes, c.kind.isEffective = false := by
  rw [isChanged, List.any_eq_false]
  exact forall₂_congr fun _ _ => by rw [Bool.not_eq_true]

/-- Rules without effect leave the manifest as it is. -/
theorem links_of_idle {pass : String} {policy : MergePolicy} {rules : Target × Rules Text}
    (h : (a.links pass policy rules).isChanged = false) :
    a.isChanged = false ∧ (a.links pass policy rules).manifest = a.manifest := by
  rw [isChanged_eq_false_iff] at h
  obtain ⟨hbefore, hstep⟩ := List.forall_mem_append.1 h
  refine ⟨isChanged_eq_false_iff.2 hbefore, ?_⟩
  unfold links
  dsimp only
  rw [Links.applyRules_eq_of_idle hstep, Manifest.links_withLinks_self]

theorem foldl_links_of_idle {pass : String} {policy : MergePolicy}
    {targets : List (Target × Rules Text)}
    (h : (targets.foldl (links pass policy) a).isChanged = false) :
    a.isChanged = false ∧ (targets.foldl (links pass policy) a).manifest = a.manifest := by
  induction targets generalizing a with
  | nil => exact ⟨h, rfl⟩
  | cons r rest ih =>
    obtain ⟨hlinks, hrest⟩ := ih h
    obtain ⟨hbefore, hstep⟩ := links_of_idle hlinks
    exact ⟨hbefore, hrest.trans hstep⟩

theorem config_of_idle {overrides : Option Overrides} (h : a.config overrides = .ok b)
    (hidle : b.isChanged = false) :
    a.isChanged = false ∧ (a.manifest.Restorable →
      a.manifest.RenderedAs b.manifest ∧ b.manifest.Restorable) := by
  obtain rfl | ⟨o, result, changes, -, -, hok, rfl⟩ := config_eq_ok h
  · exact ⟨hidle, fun ha => ⟨.refl _, ha⟩⟩
  · rw [isChanged_eq_false_iff] at hidle
    obtain ⟨hbefore, hstep⟩ := List.forall_mem_append.1 hidle
    refine ⟨isChanged_eq_false_iff.2 hbefore, fun ha => ?_⟩
    obtain ⟨hnone, rfl⟩ | ⟨c, c', base, hc, hbase, rfl, hdecode⟩ :=
      Config.of_applyOverrides_idle hok hstep
    · have hsame : { a.manifest with config := none } = a.manifest := by
        rw [← hnone]
      rw [hsame]
      exact ⟨.refl _, ha⟩
    · exact Manifest.renderedAs_of_decode ha hc hbase hdecode

/-- A pass without effect comes after none that has one, and leaves a manifest rendered alike. -/
theorem pass_of_idle {p : Pass} (h : a.pass p = .ok b) (hidle : b.isChanged = false) :
    a.isChanged = false ∧ (a.manifest.Restorable →
      a.manifest.RenderedAs b.manifest ∧ b.manifest.Restorable) := by
  unfold pass at h
  obtain ⟨hlinks, hconfig⟩ := config_of_idle h hidle
  obtain ⟨hbefore, hsame⟩ := foldl_links_of_idle hlinks
  rw [hsame] at hconfig
  exact ⟨hbefore, hconfig⟩

theorem passes_of_idle {ps : List Pass} (h : a.passes ps = .ok b) (hidle : b.isChanged = false) :
    a.isChanged = false ∧ (a.manifest.Restorable →
      a.manifest.RenderedAs b.manifest ∧ b.manifest.Restorable) := by
  induction ps generalizing a with
  | nil =>
    cases h
    exact ⟨hidle, fun ha => ⟨.refl _, ha⟩⟩
  | cons p rest ih =>
    obtain ⟨c, hc, hrest⟩ := passes_cons_eq_ok.1 h
    obtain ⟨hmiddle, hthen⟩ := ih hrest
    obtain ⟨hbefore, hfirst⟩ := pass_of_idle hc hmiddle
    refine ⟨hbefore, fun ha => ?_⟩
    obtain ⟨hrendered, hrestorable⟩ := hfirst ha
    obtain ⟨hrendered', hrestorable'⟩ := hthen hrestorable
    exact ⟨hrendered.trans hrendered', hrestorable'⟩

end Applied

namespace Manifest

/-- A directive that reports no change with an effect leaves the text as it is, with every
indentation, where the configuration of the manifest holds no field under both of its names. -/
theorem render_apply_of_not_changed [Machine] {m : Manifest} (hm : m.Reached)
    (honce : ∀ c, m.config = some c → c.record.isSpelledOnce = true) {d : Directive}
    {a : Applied} (h : m.apply d = .ok a) (hidle : a.isChanged = false) (indent : Int) :
    a.manifest.render indent = m.render indent := by
  have hrestorable : m.Restorable := fun c hc => ⟨hm.configRead c hc, honce c hc⟩
  exact ((Applied.passes_of_idle h hidle).2 hrestorable).1.render_eq indent

/-- A manifest whose configuration is written otherwise than it is read. -/
def spelledText : Text :=
  "\x7b\"name\":\"a/b\",\"require\":\x7b\"x/y\":\"1\"\x7d,\"config\":\x7b\"vendor_dir\":\"v\"," ++
    "\"platform\":\x7b\"php\":0\x7d,\"odd\":null,\"audit\":\x7b\"abandoned\":null\x7d\x7d\x7d"

/-- A directive that adds a package. -/
def additionText : Text :=
  "\x7b\"add\":\x7b\"require\":\x7b\"c/d\":\"2\"\x7d\x7d\x7d"

/-- A directive whose patterns match nothing or a package that stays, and whose overrides repeat
what is there. -/
def repetitionText : Text :=
  "\x7b\"remove\":\x7b\"require\":\x7b\"z*\":\"\"\x7d\x7d," ++
    "\"add\":\x7b\"require\":\x7b\"c/d\":\"3\"\x7d\x7d," ++
    "\"modify\":\x7b\"config\":\x7b\"platform\":\x7b\"php\":0\x7d,\"audit\":\x7b\x7d," ++
    "\"odd\":null\x7d\x7d\x7d"

theorem render_apply_of_not_changed_repetition :
    ∃ m d a d' b, load spelledText none = .ok m ∧ Directive.load additionText none = .ok d ∧
      m.apply d = .ok a ∧ Directive.load repetitionText none = .ok d' ∧
      a.manifest.apply d' = .ok b ∧ b.changes.length = 2 ∧
      (∀ c, a.manifest.config = some c → c.record.isSpelledOnce = true) ∧
      b.isChanged = false ∧ b.manifest.render 4 = a.manifest.render 4 := by
  have hloads : (load spelledText none).toOption.any (fun m =>
      (Directive.load additionText none).toOption.any fun d =>
        (m.apply d).toOption.any fun a =>
          (Directive.load repetitionText none).toOption.any fun d' =>
            (a.manifest.apply d').toOption.any fun b =>
              (b.changes.length == 2 && !b.isChanged) &&
                a.manifest.config.all fun c => c.record.isSpelledOnce) = true := by
    decide +kernel
  obtain ⟨m, hm, hloads⟩ := exists_ok_of_any hloads
  obtain ⟨d, hd, hloads⟩ := exists_ok_of_any hloads
  obtain ⟨a, ha, hloads⟩ := exists_ok_of_any hloads
  obtain ⟨d', hd', hloads⟩ := exists_ok_of_any hloads
  obtain ⟨b, hb, hchecks⟩ := exists_ok_of_any hloads
  rw [Bool.and_eq_true, Bool.and_eq_true, beq_iff_eq, Bool.not_eq_true'] at hchecks
  obtain ⟨⟨hlength, hidle⟩, honce⟩ := hchecks
  have hspelled : ∀ c, a.manifest.config = some c → c.record.isSpelledOnce = true :=
    fun c hc => by simpa [hc] using honce
  exact ⟨m, d, a, d', b, hm, hd, ha, hd', hb, hlength, hspelled, hidle,
    render_apply_of_not_changed (.apply (.load hm) ha) hspelled hb hidle 4⟩

end Manifest

end ManifestEdit
