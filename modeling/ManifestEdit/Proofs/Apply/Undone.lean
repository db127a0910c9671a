import ManifestEdit.Proofs.Apply.Report
import ManifestEdit.Proofs.Directive.Plain

/-!
# Changes that leave the text as it was

A directive reports the changes that it makes on its way, so it may report some and yet lead to the
same text: a package is removed and comes back, or an override is written as the value that was
there. Changes last where no package is changed twice and the configuration holds the overrides as
they were given; the text is then another one.
-/

namespace ManifestEdit

namespace Config

/-- The value that a configuration writes under a key; null where it writes none. -/
def valueAt (config : Option Config) (key : Text) : Json :=
  ((config.bind fun c => c.entries.toOption).bind fun base => base.lookup key).getD .null

theorem valueAt_eq {c : Config} {base : List (Text × Json)} (h : c.entries = .ok base)
    (key : Text) : valueAt (some c) key = (base.lookup key).getD .null := by
  rw [valueAt, Option.bind_some, h]
  rfl

/-- Where a configuration writes the same before and after overrides, it does not hold those that
are reported. -/
theorem of_mem_changes {config result : Option Config} {overrides : Overrides}
    {changes : List Change} (h : applyOverrides config overrides = .ok (result, changes))
    (hsame : result.map entries = config.map entries) {c : Change} (hc : c ∈ changes) :
    c.kind = .configured ∧ (valueAt result c.key).sameValue c.new = false := by
  obtain ⟨base, hoverride, hbase⟩ := applyOverrides_eq_ok h
  obtain ⟨rfl, ⟨-, hnil, -⟩ | ⟨-, d, rfl, -⟩⟩ := override_eq_ok hoverride
  · rw [hnil] at hc
    cases hc
  · obtain ⟨rfl, -⟩ | ⟨b, rfl, hentries⟩ := hbase
    · cases hsame
    · rw [Option.map_some, Option.map_some, hentries] at hsame
      rw [valueAt_eq (Option.some.inj hsame)]
      exact (of_mem_overrideChanges hc).2

end Config

namespace Directive

/-- The last pass alone may override the configuration. -/
theorem exists_passes_eq (d : Directive) :
    ∃ (ps : List Pass) (last : Option Pass), d.passes = ps ++ last.toList ∧
      ∀ p ∈ ps, p.overrides = none := by
  refine ⟨_, _, rfl, fun p hp => ?_⟩
  simp only [List.mem_append, Option.mem_toList, Option.map_eq_some_iff] at hp
  rcases hp with (⟨s, -, rfl⟩ | ⟨s, -, rfl⟩) | ⟨s, -, rfl⟩
  · rfl
  · rfl
  · rfl

end Directive

namespace Applied

variable {a b c : Applied}

/-- The configuration stays, and every change is one to a dependency map. -/
structure LinksOnly (a b : Applied) : Prop where
  config : b.manifest.config = a.manifest.config
  changes : ∀ c ∈ b.changes, c ∈ a.changes ∨ ∃ target : Target, c.target = target.key

namespace LinksOnly

theorem refl (a : Applied) : LinksOnly a a :=
  ⟨rfl, fun _ => .inl⟩

theorem trans (h : LinksOnly a b) (h' : LinksOnly b c) : LinksOnly a c where
  config := h'.config.trans h.config
  changes := fun c hc => (h'.changes c hc).elim (h.changes c) .inr

end LinksOnly

theorem linksOnly_links (a : Applied) (pass : String) (policy : MergePolicy)
    (rules : Target × Rules Text) : LinksOnly a (a.links pass policy rules) where
  config := config_links pass policy rules
  changes := fun _ hc =>
    (List.mem_append.1 hc).imp_right fun hc => ⟨rules.1, (Links.comesFrom_applyRules hc).target⟩

theorem linksOnly_foldl (a : Applied) (pass : String) (policy : MergePolicy)
    (targets : List (Target × Rules Text)) :
    LinksOnly a (targets.foldl (links pass policy) a) := by
  induction targets generalizing a with
  | nil => exact .refl a
  | cons r rest ih => exact (linksOnly_links a pass policy r).trans (ih _)

theorem linksOnly_passes {ps : List Pass} (hps : ∀ p ∈ ps, p.overrides = none)
    (h : a.passes ps = .ok b) : LinksOnly a b := by
  refine passes_induct (P := LinksOnly a) (fun p hp c d hc hd => hc.trans ?_) (.refl a) h
  rw [pass, hps p hp] at hd
  cases hd
  exact linksOnly_foldl c p.name p.policy p.rules.targets

/-- A directive overrides the configuration once, and its other changes are to dependency maps. -/
theorem linksOnly_or_overrides {m : Manifest} {d : Directive} (h : m.apply d = .ok a) :
    LinksOnly ⟨m, []⟩ a ∨
      ∃ o changes, Config.applyOverrides m.config o = .ok (a.manifest.config, changes) ∧
        ∀ c ∈ a.changes, c ∈ changes ∨ ∃ target : Target, c.target = target.key := by
  obtain ⟨ps, last, hpasses, hnone⟩ := d.exists_passes_eq
  rw [Manifest.apply, hpasses] at h
  obtain ⟨b, hb, hlast⟩ := passes_append_eq_ok.1 h
  have hfirst : LinksOnly ⟨m, []⟩ b := linksOnly_passes hnone hb
  cases last with
  | none =>
    cases hlast
    exact .inl hfirst
  | some p =>
    obtain ⟨c, hc, hdone⟩ := passes_cons_eq_ok.1 hlast
    cases hdone
    have hbefore := hfirst.trans (linksOnly_foldl b p.name p.policy p.rules.targets)
    obtain rfl | ⟨o, config, changes, -, -, hok, rfl⟩ := config_eq_ok hc
    · exact .inl hbefore
    · rw [hbefore.config] at hok
      refine .inr ⟨o, changes, hok, fun c hc => ?_⟩
      rcases List.mem_append.1 hc with hc | hc
      · obtain hc | htarget := hbefore.changes c hc
        · cases hc
        · exact .inr htarget
      · exact .inl hc

/-- No package of a dependency map is changed twice, and the configuration holds the values of the
overrides that are reported. -/
structure Lasting (a : Applied) : Prop where
  once : ∀ target, (Links.effectiveKeys (a.changesOf target)).Nodup
  given : ∀ c ∈ a.changes, c.kind = .configured →
    (Config.valueAt a.manifest.config c.key).sameValue c.new = true

theorem lasting_iff : a.Lasting ↔
    (∀ target ∈ [Target.require, .requireDev],
      (Links.effectiveKeys (a.changesOf target)).Nodup) ∧
    ∀ c ∈ a.changes, c.kind = .configured →
      (Config.valueAt a.manifest.config c.key).sameValue c.new = true := by
  constructor
  · exact fun h => ⟨fun target _ => h.once target, h.given⟩
  · rintro ⟨honce, hgiven⟩
    refine ⟨fun target => honce target ?_, hgiven⟩
    cases target <;> simp

instance (a : Applied) : Decidable a.Lasting :=
  decidable_of_iff _ lasting_iff.symm

variable {m : Manifest} {d : Directive}

/-- A dependency map with a package that is changed once is not the map before. -/
theorem links_ne_of_once (h : m.apply d = .ok a) {target : Target}
    (honce : (Links.effectiveKeys (a.changesOf target)).Nodup) {c : Change}
    (hc : c ∈ a.changesOf target) (heffective : c.kind.isEffective = true) :
    a.manifest.links target ≠ m.links target := by
  obtain ⟨changes, haccounts⟩ := exists_accounts_passes target h
  have hreport : a.changesOf target = changes := haccounts.changesOf_eq
  rw [hreport] at honce hc
  intro hsame
  have hentries : a.manifest.entriesOf target = m.entriesOf target := by
    rw [Manifest.entriesOf, Manifest.entriesOf, hsame]
  refine Links.lookup_replay?_ne haccounts.replay honce hc heffective ?_
  exact congrArg (fun entries => entries.lookup c.key) hentries

/-- A lasting change with an effect is one to a dependency map that differs afterwards, or the
configuration writes other entries. -/
theorem Lasting.alters (hlasting : a.Lasting) (h : m.apply d = .ok a) {c : Change}
    (hc : c ∈ a.changes) (heffective : c.kind.isEffective = true) :
    (∃ target, a.manifest.links target ≠ m.links target) ∨
      a.manifest.config.map Config.entries ≠ m.config.map Config.entries := by
  have hlinks : (∃ target : Target, c.target = target.key) →
      ∃ target, a.manifest.links target ≠ m.links target := by
    rintro ⟨target, hkey⟩
    have hmem : c ∈ a.changesOf target := List.mem_filter.2 ⟨hc, decide_eq_true hkey⟩
    exact ⟨target, links_ne_of_once h (hlasting.once target) hmem heffective⟩
  obtain honly | ⟨o, changes, hok, hchanges⟩ := linksOnly_or_overrides h
  · exact .inl (hlinks ((honly.changes c hc).resolve_left List.not_mem_nil))
  · obtain hmem | htarget := hchanges c hc
    · refine .inr fun hsame => ?_
      obtain ⟨hkind, hdiffers⟩ := Config.of_mem_changes hok hsame hmem
      rw [hlasting.given c hc hkind] at hdiffers
      cases hdiffers
    · exact .inl (hlinks htarget)

end Applied

namespace Manifest

variable {m n : Manifest}

/-- The configurations of alike manifests write the same entries. -/
theorem Alike.config_entries [Machine] (h : Alike m n) :
    m.config.map Config.entries = n.config.map Config.entries := by
  have hjson := Applied.json_config h
  cases hm : m.config with
  | none =>
    rw [hm, Option.map_none, eq_comm, Option.map_eq_none_iff] at hjson
    rw [hjson]
  | some c =>
    cases hn : n.config with
    | none =>
      rw [hm, hn] at hjson
      cases hjson
    | some c' =>
      rw [hm, hn, Option.map_some, Option.map_some] at hjson
      obtain ⟨base, hbase⟩ := (h.left.config hm).exists_entries
      obtain ⟨base', hbase'⟩ := (h.right.config hn).exists_entries
      rw [(Config.entries_eq_ok_iff.1 hbase).2, (Config.entries_eq_ok_iff.1 hbase').2] at hjson
      cases hjson
      rw [Option.map_some, Option.map_some, hbase, hbase']

/-- A directive that reports lasting changes, and some with an effect, changes the text. -/
theorem render_apply_ne_of_lasting [Machine] (hm : m.Durable) {d : Directive}
    (hd : ∀ p ∈ d.passes, p.Plain) {a : Applied} (h : m.apply d = .ok a)
    (hchanged : a.isChanged = true) (hlasting : a.Lasting) {indent : Int} {text : Text}
    (hrender : m.render indent = .ok text) : a.manifest.render indent ≠ m.render indent := by
  intro hsame
  have halike : Alike m a.manifest :=
    hm.alike_of_render (hm.apply hd h) hrender (hsame.trans hrender)
  obtain ⟨c, hc, heffective⟩ := List.any_eq_true.1 hchanged
  obtain ⟨target, hlinks⟩ | hconfig := hlasting.alters h hc heffective
  · exact hlinks (halike.links target).symm
  · exact hconfig halike.config_entries.symm

/-- A manifest with one dependency and a configuration that holds an empty section. -/
def auditedText : Text :=
  "\x7b\"name\":\"a/b\",\"require\":\x7b\"x/y\":\"1\"\x7d," ++
    "\"config\":\x7b\"audit\":\x7b\x7d\x7d\x7d"

/-- A directive that replaces the dependency, adds another and overrides the configuration. -/
def lastingText : Text :=
  "\x7b\"add\":\x7b\"require-dev\":\x7b\"c/d\":\"3\"\x7d\x7d," ++
    "\"replace\":\x7b\"require\":\x7b\"x/*\":\"2\"\x7d\x7d," ++
    "\"modify\":\x7b\"config\":\x7b\"lock\":true\x7d\x7d\x7d"

theorem render_apply_ne_of_lasting_sample :
    ∃ m d a text, load auditedText none = .ok m ∧ Directive.load lastingText none = .ok d ∧
      m.apply d = .ok a ∧ a.isChanged = true ∧ a.Lasting ∧ m.render 4 = .ok text ∧
      a.manifest.render 4 ≠ m.render 4 := by
  have hmembers : (Json.parse auditedText).toOption.any (fun data =>
      data.hasWholeKeys && Schema.manifest.shape.namesOnce data) = true := by decide +kernel
  have hedits : (Json.parse lastingText).toOption.any (fun data => data.hasWholeKeys) =
      true := by decide +kernel
  have hloads : (load auditedText none).toOption.any (fun m =>
      (Directive.load lastingText none).toOption.any fun d =>
        ((m.render 4).toOption.any fun _ => true) && d.overrides.all Config.isPlainOverride &&
          (m.apply d).toOption.any fun a => a.isChanged && decide a.Lasting) = true := by
    decide +kernel
  obtain ⟨data, hdata, hplain⟩ := exists_ok_of_any hmembers
  obtain ⟨edits, hparse, hwhole⟩ := exists_ok_of_any hedits
  obtain ⟨m, hm, hloads⟩ := exists_ok_of_any hloads
  obtain ⟨d, hd, happlies⟩ := exists_ok_of_any hloads
  simp only [Bool.and_eq_true] at hplain happlies
  obtain ⟨⟨hrenders, hoverrides⟩, happlies⟩ := happlies
  obtain ⟨a, ha, hchecks⟩ := exists_ok_of_any happlies
  obtain ⟨hchanged, hlasting⟩ := Bool.and_eq_true_iff.1 hchecks
  obtain ⟨text, hrender, -⟩ := exists_ok_of_any hrenders
  have hdurable := durable_of_load hm hdata hplain.1 hplain.2
  have hpasses := Directive.plain_passes_of_load hd hparse hwhole (List.all_eq_true.1 hoverrides)
  exact ⟨m, d, a, text, hm, hd, ha, hchanged, of_decide_eq_true hlasting, hrender,
    render_apply_ne_of_lasting hdurable hpasses ha hchanged (of_decide_eq_true hlasting) hrender⟩

/-- A directive that removes the dependency and adds it again. -/
def returnText : Text :=
  "\x7b\"remove\":\x7b\"require\":\x7b\"x/*\":\"\"\x7d\x7d," ++
    "\"add\":\x7b\"require\":\x7b\"x/y\":\"1\"\x7d\x7d\x7d"

/-- A directive whose override holds a null, which is not written. -/
def hollowText : Text :=
  "\x7b\"modify\":\x7b\"config\":\x7b\"audit\":\x7b\"abandoned\":null\x7d\x7d\x7d\x7d"

/-- Changes are reported where the text stays: of a package that returns, and of an override that is
written as what was there. -/
theorem render_apply_eq_of_changed :
    ∃ m rendered, load auditedText none = .ok m ∧ m.render 4 = .ok rendered ∧
      ∀ edit ∈ [returnText, hollowText], ∃ d a, Directive.load edit none = .ok d ∧
        m.apply d = .ok a ∧ a.manifest.render 4 = .ok rendered ∧ a.isChanged = true := by
  have hloads : (load auditedText none).toOption.any (fun m =>
      (m.render 4).toOption.any fun rendered =>
        [returnText, hollowText].all fun edit =>
          (Directive.load edit none).toOption.any fun d =>
            (m.apply d).toOption.any fun a =>
              a.isChanged && (a.manifest.render 4).toOption.any fun text => text = rendered) =
      true := by decide +kernel
  obtain ⟨m, hm, hrenders⟩ := exists_ok_of_any hloads
  obtain ⟨rendered, hrendered, hedits⟩ := exists_ok_of_any hrenders
  refine ⟨m, rendered, hm, hrendered, fun edit hedit => ?_⟩
  obtain ⟨d, hd, happlies⟩ := exists_ok_of_any (List.all_eq_true.1 hedits edit hedit)
  obtain ⟨a, ha, hchecks⟩ := exists_ok_of_any happlies
  rw [Bool.and_eq_true] at hchecks
  obtain ⟨text, htext, hsame⟩ := exists_ok_of_any hchecks.2
  rw [of_decide_eq_true hsame] at htext
  exact ⟨d, a, hd, ha, htext, hchecks.1⟩

end Manifest

end ManifestEdit
