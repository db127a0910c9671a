import ManifestEdit.Proofs.Apply.Local
import ManifestEdit.Proofs.Shape.Places

/-!
# What a manifest says

Fields that take one of several shapes, scripts and dependency maps are viewed as values of their
own. No view of a manifest that was read is lost: there is one where the field is, and it is written
as the field. A directive changes the views of the two dependency maps that it edits and no other.
-/

namespace ManifestEdit

open Shape

/-! ## Scalars and lists of them -/

theorem Text.letters_of_chars? {letters : List Letter} {cs : List Char}
    (h : chars? letters = some cs) : letters = cs.map .char := by
  induction letters generalizing cs with
  | nil =>
    cases h
    rfl
  | cons l rest ih =>
    cases l with
    | char c =>
      obtain ⟨more, hmore, rfl⟩ := Option.map_eq_some_iff.1 h
      rw [List.map_cons, ih hmore]
    | half _ => cases h

theorem Text.eq_ofString {t : Text} {w : String} (h : t.string? = some w) : t = w := by
  obtain ⟨cs, hcs, rfl⟩ := Option.map_eq_some_iff.1 h
  refine eq_of_letters ?_
  rw [letters_of_chars? hcs, ofString, ofChars, String.toList_ofList]

/-- A text that is read as one of some words is that word. -/
theorem Shape.exists_word_of_read {words : List String} {j : Json} {d : Document}
    (h : (word words).read j = .ok d) : ∃ w ∈ words, d = .leaf (.str w) := by
  rw [read] at h
  unfold readWord at h
  split at h
  · split at h
    · rename_i w hw
      split at h
      · rename_i hmem
        cases h
        exact ⟨w, List.contains_iff_mem.1 hmem, by rw [Text.eq_ofString hw]⟩
      · cases h
    · cases h
  · cases h

/-- A choice of two members is what one of them reads. -/
theorem Shape.read_oneOf_pair {first second : String × Shape} {j : Json} {d : Document}
    (h : (oneOf [first, second]).read j = .ok d) :
    ∃ c, d = .choice c ∧ (first.2.read j = .ok c ∨ second.2.read j = .ok c) := by
  obtain ⟨c, rfl, hc⟩ := read_oneOf_eq_ok_iff.1 h
  refine ⟨c, rfl, ?_⟩
  obtain hs | ⟨-, hrest⟩ := readMembers_cons_eq_ok_iff.1 hc
  · exact .inl hs
  · obtain ht | ⟨-, hnone⟩ := readMembers_cons_eq_ok_iff.1 hrest
    · exact .inr ht
    · cases hnone

namespace Document

theorem viewedBy_flag : Shape.flag.ViewedBy flag? fun b => .leaf (.bool b) := by
  intro j d _ h
  cases j <;> cases h
  exact ⟨_, rfl, rfl⟩

theorem texts?_of_read {items : List Json} {ds : List Document}
    (h : items.map Shape.text.read = ds.map .ok) :
    ∃ ts, texts? ds = some ts ∧ ts.map (fun t => leaf (.str t)) = ds := by
  induction items generalizing ds with
  | nil =>
    cases ds with
    | nil => exact ⟨[], rfl, rfl⟩
    | cons d rest => cases h
  | cons j rest ih =>
    cases ds with
    | nil => cases h
    | cons d more =>
      obtain ⟨hfirst, hrest⟩ := List.cons.inj h
      obtain ⟨t, ht, rfl⟩ := Links.text?_of_read hfirst
      obtain ⟨ts, hts, rfl⟩ := ih hrest
      exact ⟨t :: ts, by rw [texts?, ht, hts], rfl⟩

end Document

/-! ## Values of several shapes -/

namespace OneOrMany

def toDocument : OneOrMany → Document
  | one value => .choice (.leaf (.str value))
  | many values => .choice (.list (values.map fun t => .leaf (.str t)))

theorem viewedBy_oneOrMany : Schema.oneOrMany.ViewedBy ofDocument? toDocument := by
  intro j d _ h
  obtain ⟨c, rfl, hone | hmany⟩ := read_oneOf_pair h
  · obtain ⟨t, -, rfl⟩ := Links.text?_of_read hone
    exact ⟨one t, rfl, rfl⟩
  · obtain ⟨items, ds, -, rfl, hds⟩ := read_list hmany
    obtain ⟨ts, hts, rfl⟩ := Document.texts?_of_read hds
    exact ⟨many ts, by rw [ofDocument?, hts, Option.map_some], rfl⟩

/-- One value is told apart from a list of that value, and nothing else counts. -/
theorem eq_iff {o p : OneOrMany} : o = p ↔ o.isMany = p.isMany ∧ o.values = p.values := by
  cases o <;> cases p <;> simp [isMany, values]

end OneOrMany

namespace Abandoned

def toDocument : Abandoned → Document
  | mark b => .choice (.leaf (.bool b))
  | replacedBy package => .choice (.leaf (.str package))

theorem viewedBy_abandoned : Schema.abandoned.ViewedBy ofDocument? toDocument := by
  intro j d hdistinct h
  obtain ⟨c, rfl, hmark | hpackage⟩ := read_oneOf_pair h
  · obtain ⟨b, -, rfl⟩ := Document.viewedBy_flag hdistinct hmark
    exact ⟨mark b, rfl, rfl⟩
  · obtain ⟨t, -, rfl⟩ := Links.text?_of_read hpackage
    exact ⟨replacedBy t, rfl, rfl⟩

theorem eq_iff {a b : Abandoned} :
    a = b ↔ a.flag = b.flag ∧ a.replacement? = b.replacement? := by
  cases a <;> cases b <;> simp [flag, replacement?]

/-- What is to be replaced is abandoned. -/
theorem flag_of_replacement? {a : Abandoned} {package : Text}
    (h : a.replacement? = some package) : a.flag = true := by
  cases a with
  | mark b => cases h
  | replacedBy p => rfl

end Abandoned

namespace AllowPlugins

def toDocument : AllowPlugins → Document
  | every b => .choice (.leaf (.bool b))
  | byPattern rules => .choice (.map (rules.entries.map fun e => (e.1, .leaf (.bool e.2))))

theorem viewedBy_allowPlugins : Schema.allowPlugins.ViewedBy ofDocument? toDocument := by
  intro j d hdistinct h
  obtain ⟨c, rfl, hevery | hrules⟩ := read_oneOf_pair h
  · obtain ⟨b, -, rfl⟩ := Document.viewedBy_flag hdistinct hevery
    exact ⟨every b, rfl, rfl⟩
  · obtain ⟨rules, hm, rfl⟩ := Document.viewedBy_mapOf? Document.viewedBy_flag hdistinct hrules
    exact ⟨byPattern rules, by rw [ofDocument?, hm, Option.map_some]; simp, rfl⟩

end AllowPlugins

namespace PackageSource

theorem viewedBy_packageSources :
    Schema.packageSources.ViewedBy ofDocument? fun mode => .leaf (.str mode.name) := by
  intro j d _ h
  obtain ⟨w, hw, rfl⟩ := exists_word_of_read h
  simp only [List.mem_cons, List.not_mem_nil, or_false] at hw
  rcases hw with rfl | rfl | rfl
  · exact ⟨dist, by decide, rfl⟩
  · exact ⟨source, by decide, rfl⟩
  · exact ⟨auto, by decide, rfl⟩

end PackageSource

namespace PreferredInstall

def toDocument : PreferredInstall → Document
  | every mode => .choice (.leaf (.str mode.name))
  | byPattern rules =>
    .choice (.map (rules.entries.map fun e => (e.1, .leaf (.str e.2.name))))

theorem viewedBy_preferredInstall : Schema.preferredInstall.ViewedBy ofDocument? toDocument := by
  intro j d hdistinct h
  obtain ⟨c, rfl, hevery | hrules⟩ := read_oneOf_pair h
  · obtain ⟨mode, hmode, rfl⟩ := PackageSource.viewedBy_packageSources hdistinct hevery
    exact ⟨every mode, by rw [ofDocument?, hmode], rfl⟩
  · obtain ⟨rules, hm, rfl⟩ :=
      Document.viewedBy_mapOf? PackageSource.viewedBy_packageSources hdistinct hrules
    exact ⟨byPattern rules, by rw [ofDocument?, hm]; rfl, rfl⟩

end PreferredInstall

namespace Scripts

def toDocument (s : Scripts) : Document :=
  .map (s.entries.entries.map fun e => (e.1, e.2.toDocument))

theorem viewedBy_scripts : (Shape.map Schema.oneOrMany).ViewedBy ofDocument? toDocument := by
  intro j d hdistinct h
  obtain ⟨entries, hm, rfl⟩ :=
    Document.viewedBy_mapOf? OneOrMany.viewedBy_oneOrMany hdistinct h
  exact ⟨⟨entries⟩, by rw [ofDocument?, hm, Option.map_some], rfl⟩

/-- The hooks are the scripts that are named after events, in their order. -/
theorem map_hooks (s : Scripts) :
    s.hooks.map (fun hook => (hook.1, hook.2.2)) =
      s.entries.entries.filter fun e => (EventKind.ofEvent? e.1).isSome := by
  rw [hooks]
  induction s.entries.entries with
  | nil => rfl
  | cons e rest ih => cases hkind : EventKind.ofEvent? e.1 <;> simp [hkind, ih]

/-- Every script is a hook or a command, and none is both. -/
theorem perm_hooks_commands (s : Scripts) :
    (s.hooks.map (fun hook => (hook.1, hook.2.2)) ++ s.commands).Perm s.entries.entries := by
  have hcommands : s.commands =
      s.entries.entries.filter fun e => !(EventKind.ofEvent? e.1).isSome :=
    List.filter_congr fun e _ => by rw [Option.not_isSome]
  rw [map_hooks, hcommands]
  exact List.filter_append_perm _ _

end Scripts

/-! ## Configurations that were read -/

namespace Config

variable {data : Json} {root : String} {c : Config}

theorem allowPlugins?_of_decode (hdistinct : data.isDistinct = true)
    (h : decode data root = .ok c) :
    c.allowPlugins?.map AllowPlugins.toDocument = c.record.field? "allow-plugins" := by
  obtain ⟨r, hr, rfl⟩ := Schema.map_decode_eq_ok_iff.1 h
  have hmem : (DeclaredField.optional "allow_plugins", Schema.allowPlugins) ∈
      Schema.config.fields := by simp [Schema.config]
  exact Schema.map_bind_field? Schema.isRegular_config hdistinct hr hmem (by decide)
    AllowPlugins.viewedBy_allowPlugins

theorem preferredInstall?_of_decode (hdistinct : data.isDistinct = true)
    (h : decode data root = .ok c) :
    c.preferredInstall?.map PreferredInstall.toDocument = c.record.field? "preferred-install" := by
  obtain ⟨r, hr, rfl⟩ := Schema.map_decode_eq_ok_iff.1 h
  have hmem : (DeclaredField.optional "preferred_install", Schema.preferredInstall) ∈
      Schema.config.fields := by simp [Schema.config]
  exact Schema.map_bind_field? Schema.isRegular_config hdistinct hr hmem (by decide)
    PreferredInstall.viewedBy_preferredInstall

end Config

/-! ## Manifests that were read -/

namespace Manifest

variable {m : Manifest} {data : Json} {root : String}

/-- The view of a field of a manifest that was read is written as that field. -/
theorem view_of_decode (hplain : data.Plain) (h : decode data root = .ok m)
    {f : DeclaredField × Shape} (hf : f ∈ Schema.manifest.fields) {key : Text}
    (hkey : f.1.key = key) {α : Type} {view? : Document → Option α} {document : α → Document}
    (hview : f.2.ViewedBy view? document) :
    ((m.field? key).bind view?).map document = m.field? key := by
  obtain ⟨r, hr, rfl⟩ := Schema.map_decode_eq_ok_iff.1 h
  rw [field?_ofRecord hplain hr]
  exact Schema.map_bind_field? Schema.isRegular_manifest hplain.distinct hr hf hkey hview

theorem license?_of_decode (hplain : data.Plain) (h : decode data root = .ok m) :
    m.license?.map OneOrMany.toDocument = m.field? "license" :=
  view_of_decode (f := (DeclaredField.optional "license", Schema.oneOrMany)) hplain h
    (by simp [Schema.manifest]) (by decide) OneOrMany.viewedBy_oneOrMany

theorem abandoned?_of_decode (hplain : data.Plain) (h : decode data root = .ok m) :
    m.abandoned?.map Abandoned.toDocument = m.field? "abandoned" :=
  view_of_decode (f := (DeclaredField.optional "abandoned", Schema.abandoned)) hplain h
    (by simp [Schema.manifest]) (by decide) Abandoned.viewedBy_abandoned

theorem scripts?_of_decode (hplain : data.Plain) (h : decode data root = .ok m) :
    m.scripts?.map Scripts.toDocument = m.field? "scripts" :=
  view_of_decode (f := (DeclaredField.optional "scripts", Shape.map Schema.oneOrMany)) hplain h
    (by simp [Schema.manifest]) (by decide) Scripts.viewedBy_scripts

/-- A manifest that was read has a name, which stands in it. -/
theorem name_of_decode (hplain : data.Plain) (h : decode data root = .ok m) :
    m.field? "name" = some (.leaf (.str m.name)) := by
  have hmem : (DeclaredField.mandatory "name", Shape.text) ∈ Schema.manifest.fields :=
    List.mem_cons_self
  have hkey : (DeclaredField.mandatory "name").key = ("name" : Text) := by decide
  have hview := view_of_decode hplain h hmem hkey Links.viewedBy_text
  obtain ⟨r, hr, rfl⟩ := Schema.map_decode_eq_ok_iff.1 h
  obtain ⟨d, hd⟩ : ∃ d, r.field? (DeclaredField.mandatory "name").key = some d :=
    Schema.exists_field?_of_required Schema.isRegular_manifest hr hmem rfl rfl
  rw [hkey, ← field?_ofRecord hplain hr] at hd
  rw [name]
  rw [hd] at hview ⊢
  obtain ⟨t, ht, rfl⟩ := Option.map_eq_some_iff.1 hview
  rw [ht, Option.getD_some]

/-- A type is custom where it stands in the manifest and is none of the built-in ones. -/
theorem isCustomType_iff (hplain : data.Plain) (h : decode data root = .ok m) :
    m.isCustomType = true ↔
      ∃ type ∉ builtinTypes, m.field? "type" = some (.leaf (.str type)) := by
  have hmem : ((DeclaredField.optional "package_type").keyed "type", Shape.text) ∈
      Schema.manifest.fields := by simp [Schema.manifest]
  have hview : ((m.field? "type").bind Document.text?).map _ = m.field? "type" :=
    view_of_decode hplain h hmem rfl Links.viewedBy_text
  rw [isCustomType]
  cases htype : (m.field? "type").bind Document.text? with
  | none =>
    rw [htype, Option.map_none] at hview
    simp [← hview]
  | some type =>
    rw [htype, Option.map_some] at hview
    simp [← hview]

theorem exists_linkField {key : Text} (hkey : key ∈ linkKeys) :
    ∃ f ∈ Schema.manifest.fields, f.1.key = key ∧ f.2 = Schema.textMap := by
  have hfields : ∀ spelling ∈ ["require", "require_dev", "conflict", "replace", "provide",
      "suggest"], (DeclaredField.optional (Text.ofString spelling), Schema.textMap) ∈
        Schema.manifest.fields := by simp [Schema.manifest]
  have hkeys : linkKeys = ["require", "require_dev", "conflict", "replace", "provide",
      "suggest"].map fun spelling => (DeclaredField.optional (Text.ofString spelling)).key := by
    decide
  rw [hkeys, List.mem_map] at hkey
  obtain ⟨spelling, hspelling, rfl⟩ := hkey
  exact ⟨_, hfields spelling hspelling, rfl, rfl⟩

/-- The dependency maps of a manifest that was read are its fields of that kind. -/
theorem allLinks_of_decode (hplain : data.Plain) (h : decode data root = .ok m) :
    m.allLinks.map (fun e => (e.1, e.2.toDocument)) =
      linkKeys.filterMap fun key => (m.field? key).map (key, ·) := by
  rw [allLinks, List.map_filterMap]
  refine List.filterMap_congr fun key hkey => ?_
  obtain ⟨f, hf, hfield, hshape⟩ := exists_linkField hkey
  have hview := view_of_decode hplain h hf hfield (hshape ▸ Links.viewedBy_textMap)
  have hkeyed := congrArg (Option.map (key, ·)) hview
  rw [Option.map_map] at hkeyed ⊢
  exact hkeyed

/-! ## Directives -/

theorem lookup_allLinks (m : Manifest) {key : Text} (hkey : key ∈ linkKeys) :
    m.allLinks.lookup key = (m.field? key).bind Links.ofDocument? := by
  rw [allLinks, Entries.lookup_filterMap, if_pos hkey]

theorem lookup_allLinks_target (m : Manifest) (target : Target) :
    m.allLinks.lookup (target.key : Text) = m.links target := by
  have hkey : (target.key : Text) ∈ linkKeys := by cases target <;> decide
  rw [lookup_allLinks m hkey, field?_target]
  cases m.links target with
  | none => rfl
  | some l => exact Links.ofDocument?_toDocument l

variable {d : Directive} {a : Applied}

theorem field?_apply (h : m.apply d = .ok a) {key : Text} (hkey : key ∉ editableKeys) :
    a.manifest.field? key = m.field? key :=
  (editedAt_apply h).field key fun hnamed => hkey hnamed.editable

/-- Beside its dependencies and its configuration a manifest says after a directive what it said
before. -/
theorem says_apply (h : m.apply d = .ok a) :
    a.manifest.name = m.name ∧ a.manifest.isCustomType = m.isCustomType ∧
      a.manifest.license? = m.license? ∧ a.manifest.abandoned? = m.abandoned? ∧
        a.manifest.scripts? = m.scripts? ∧
          ∀ key, key ∉ editableKeys → a.manifest.allLinks.lookup key = m.allLinks.lookup key := by
  have hsame := fun key (hkey : key ∉ editableKeys) => field?_apply h hkey
  refine ⟨?_, ?_, ?_, ?_, ?_, fun key hkey => ?_⟩
  · rw [name, name, hsame _ (by decide)]
  · rw [isCustomType, isCustomType, hsame _ (by decide)]
  · rw [license?, license?, hsame _ (by decide)]
  · rw [abandoned?, abandoned?, hsame _ (by decide)]
  · rw [scripts?, scripts?, hsame _ (by decide)]
  · rw [allLinks, allLinks, Entries.lookup_filterMap, Entries.lookup_filterMap, hsame key hkey]

end Manifest

end ManifestEdit
