import ManifestEdit.Proofs.Apply.Passes
import ManifestEdit.Proofs.Links.Accounted
import ManifestEdit.Proofs.Links.Report

/-!
# What a directive reports

The changes of a directive to one dependency map, replayed on that map in the order in which they
are reported, lead to the map after the directive. The changes to the other map and to the
configuration stand between them and have a target of their own.
-/

namespace ManifestEdit

theorem Section.mem_targets {s : Section} {target : Target} {rules : Rules Text} :
    (target, rules) ∈ s.targets ↔ s.rulesFor target = some rules := by
  unfold targets rulesFor
  cases target <;> cases s.require <;> cases s.requireDev <;> simp [eq_comm]

theorem Target.key_injective {target other : Target} (h : target.key = other.key) :
    target = other := by
  revert h
  cases target <;> cases other <;> decide

namespace Manifest

/-- The entries of a dependency map; there are none where it is absent. -/
def entriesOf (m : Manifest) (target : Target) : List (Text × Text) :=
  ((m.links target).getD .empty).entries

end Manifest

namespace Applied

variable {a b c : Applied} {target : Target} {ps qs : List Pass}

/-- The changes to one dependency map. -/
def changesOf (a : Applied) (target : Target) : List Change :=
  a.changes.filter fun c => c.target = target.key

/-- Changes by which passes account for what they make of one dependency map. -/
structure Accounts (target : Target) (ps : List Pass) (a b : Applied) (changes : List Change) :
    Prop where
  changesOf_eq : b.changesOf target = a.changesOf target ++ changes
  replay : Links.replay? changes (a.manifest.entriesOf target) =
    some (b.manifest.entriesOf target)
  comesFrom : ∀ c ∈ changes, ∃ p ∈ ps,
    Links.ComesFrom ⟨p.name, target.key⟩ (p.rulesFor target) c

/-- No change accounts for a map that stays. -/
theorem accounts_nil (hchanges : b.changesOf target = a.changesOf target)
    (hlinks : b.manifest.links target = a.manifest.links target) :
    Accounts target ps a b [] where
  changesOf_eq := by rw [hchanges, List.append_nil]
  replay := by
    unfold Manifest.entriesOf
    rw [hlinks]
    rfl
  comesFrom _ h := absurd h List.not_mem_nil

theorem Accounts.append {cs ds : List Change} (hfirst : Accounts target ps a b cs)
    (hthen : Accounts target qs b c ds) : Accounts target (ps ++ qs) a c (cs ++ ds) where
  changesOf_eq := by
    rw [hthen.changesOf_eq, hfirst.changesOf_eq, List.append_assoc]
  replay := by
    rw [Links.replay?_append, hfirst.replay, Option.bind_some, hthen.replay]
  comesFrom d hd := by
    rcases List.mem_append.1 hd with hd | hd
    · obtain ⟨p, hp, hfrom⟩ := hfirst.comesFrom d hd
      exact ⟨p, List.mem_append_left _ hp, hfrom⟩
    · obtain ⟨p, hp, hfrom⟩ := hthen.comesFrom d hd
      exact ⟨p, List.mem_append_right _ hp, hfrom⟩

theorem Accounts.mono {cs : List Change} (h : Accounts target ps a b cs)
    (hsub : ∀ p ∈ ps, p ∈ qs) : Accounts target qs a b cs where
  changesOf_eq := h.changesOf_eq
  replay := h.replay
  comesFrom d hd := by
    obtain ⟨p, hp, hfrom⟩ := h.comesFrom d hd
    exact ⟨p, hsub p hp, hfrom⟩

/-! ## One step -/

theorem changesOf_links (pass : String) (policy : MergePolicy) (other : Target)
    (rules : Rules Text) :
    (a.links pass policy (other, rules)).changesOf target = a.changesOf target ++
      if target = other then
        (Links.applyRules ⟨pass, other.key⟩ policy rules (a.manifest.links other)).2
      else [] := by
  unfold changesOf links
  dsimp only
  rw [List.filter_append]
  congr 1
  split
  · rename_i heq
    refine List.filter_eq_self.2 fun c hc => decide_eq_true ?_
    rw [heq, (Links.comesFrom_applyRules hc).target]
  · rename_i hne
    refine List.filter_eq_nil_iff.2 fun c hc => ?_
    rw [(Links.comesFrom_applyRules hc).target, decide_eq_true_eq]
    exact fun hkey => hne (Target.key_injective hkey.symm)

theorem exists_accounts_links (target : Target) (p : Pass) {e : Target × Rules Text}
    (he : e ∈ p.rules.targets) :
    ∃ changes, Accounts target [p] a (a.links p.name p.policy e) changes := by
  obtain ⟨other, rules⟩ := e
  have hrules : p.rulesFor other = rules := by
    rw [Pass.rulesFor, Section.mem_targets.1 he, Option.getD_some]
  have hchanges : (a.links p.name p.policy (other, rules)).changesOf target = _ :=
    changesOf_links p.name p.policy other rules
  by_cases htarget : target = other
  · subst htarget
    rw [if_pos rfl] at hchanges
    refine ⟨_, hchanges, ?_, fun c hc => ⟨p, List.mem_singleton_self p, ?_⟩⟩
    · unfold Manifest.entriesOf
      rw [links_links]
      exact Links.replay?_applyRules _
    · rw [hrules]
      exact Links.comesFrom_applyRules hc
  · rw [if_neg htarget, List.append_nil] at hchanges
    exact ⟨[], accounts_nil hchanges (links_links_ne _ _ htarget _)⟩

theorem exists_accounts_foldl (target : Target) (p : Pass) {targets : List (Target × Rules Text)}
    (h : ∀ e ∈ targets, e ∈ p.rules.targets) :
    ∃ changes, Accounts target [p] a (targets.foldl (links p.name p.policy) a) changes := by
  induction targets generalizing a with
  | nil => exact ⟨[], accounts_nil rfl rfl⟩
  | cons e rest ih =>
    obtain ⟨cs, hcs⟩ := exists_accounts_links (a := a) target p
      (h e List.mem_cons_self)
    obtain ⟨ds, hds⟩ := ih (a := a.links p.name p.policy e)
      fun d hd => h d (List.mem_cons_of_mem e hd)
    exact ⟨cs ++ ds, (hcs.append hds).mono (by simp)⟩

theorem changesOf_config {overrides : Option Overrides} (h : a.config overrides = .ok b) :
    b.changesOf target = a.changesOf target := by
  obtain rfl | ⟨o, c, changes, -, -, hok, rfl⟩ := config_eq_ok h
  · rfl
  · obtain ⟨base, hoverride, -⟩ := Config.applyOverrides_eq_ok hok
    have hother : changes.filter (fun c => c.target = target.key) = [] := by
      refine List.filter_eq_nil_iff.2 fun c hc => ?_
      rw [(Config.override_eq_ok hoverride).1] at hc
      rw [(Config.of_mem_overrideChanges hc).1]
      cases target <;> decide
    unfold changesOf
    dsimp only
    rw [List.filter_append, hother, List.append_nil]

/-! ## A whole run -/

theorem exists_accounts_pass (target : Target) {p : Pass} (h : a.pass p = .ok b) :
    ∃ changes, Accounts target [p] a b changes := by
  unfold pass at h
  obtain ⟨changes, hlinks⟩ :=
    exists_accounts_foldl (a := a) target p fun _ he => he
  refine ⟨changes, ?_, ?_, hlinks.comesFrom⟩
  · rw [changesOf_config h, hlinks.changesOf_eq]
  · rw [hlinks.replay, Manifest.entriesOf, Manifest.entriesOf, links_config h]

theorem exists_accounts_passes (target : Target) {ps : List Pass} (h : a.passes ps = .ok b) :
    ∃ changes, Accounts target ps a b changes := by
  induction ps generalizing a with
  | nil =>
    cases h
    exact ⟨[], accounts_nil rfl rfl⟩
  | cons p rest ih =>
    obtain ⟨c, hc, hrest⟩ := passes_cons_eq_ok.1 h
    obtain ⟨cs, hcs⟩ := exists_accounts_pass target hc
    obtain ⟨ds, hds⟩ := ih hrest
    exact ⟨cs ++ ds, hcs.append hds⟩

end Applied

namespace Manifest

/-- The changes that a directive reports for a dependency map are true one after the other and lead
to the map after it, and each names a pattern of its section that matches its package. -/
theorem replay?_changesOf_apply {m : Manifest} {d : Directive} {a : Applied}
    (h : m.apply d = .ok a) (target : Target) :
    Links.replay? (a.changesOf target) (m.entriesOf target) =
        some (a.manifest.entriesOf target) ∧
      ∀ c ∈ a.changesOf target, ∃ p ∈ d.passes,
        Links.ComesFrom ⟨p.name, target.key⟩ (p.rulesFor target) c := by
  obtain ⟨changes, haccounts⟩ := Applied.exists_accounts_passes target h
  have hchanges : a.changesOf target = changes := haccounts.changesOf_eq
  rw [hchanges]
  exact ⟨haccounts.replay, haccounts.comesFrom⟩

/-- A package is removed and comes back, others are kept, replaced and added, and a pattern matches
nothing; the other map and the configuration change in between. -/
theorem replay?_changesOf_apply_mixed :
    let m : Manifest :=
      ⟨some (.ofPairs [("a/x", "1"), ("b", "3")]), some (.ofPairs [("c", "1")]), none,
        [("name", .leaf (.str "n"))], [], ["name", "require", "require-dev"]⟩
    let d : Directive :=
      { modify := some ⟨⟨some (.ofPairs [("b*", "9")]), none, []⟩,
          some (.ofPairs [("unknown", .bool true)])⟩
        add := some ⟨some (.ofPairs [("a/x", "5"), ("b", "6"), ("d/*", "7")]), none, []⟩
        remove := some ⟨some (.ofPairs [("a/*", "")]), some (.ofPairs [("c", "")]), []⟩
        replace := none
        order := ["remove", "add", "modify"] }
    ∃ a, m.apply d = .ok a ∧
      Links.replay? (a.changesOf .require) (m.entriesOf .require) =
        some (a.manifest.entriesOf .require) ∧
      (∀ c ∈ a.changesOf .require, ∃ p ∈ d.passes,
        Links.ComesFrom ⟨p.name, Target.require.key⟩ (p.rulesFor .require) c) ∧
      (a.changesOf .require).map (fun c => (c.kind, c.key)) =
        ([(.removed, "a/x"), (.skipped, "b"), (.added, "a/x"), (.unmatched, "d/*"),
          (.replaced, "b")] : List (ChangeKind × Text)) ∧
      a.manifest.entriesOf .require = ([("b", "9"), ("a/x", "5")] : List (Text × Text)) := by
  intro m d
  have happlies : (m.apply d).toOption.any (fun a =>
      decide ((a.changesOf .require).map (fun c => (c.kind, c.key)) =
        ([(.removed, "a/x"), (.skipped, "b"), (.added, "a/x"), (.unmatched, "d/*"),
          (.replaced, "b")] : List (ChangeKind × Text))) &&
      decide (a.manifest.entriesOf .require = ([("b", "9"), ("a/x", "5")] : List (Text × Text)))) =
        true := by decide +kernel
  obtain ⟨a, ha, hchecks⟩ := exists_ok_of_any happlies
  rw [Bool.and_eq_true, decide_eq_true_iff, decide_eq_true_iff] at hchecks
  have hreport := replay?_changesOf_apply ha .require
  exact ⟨a, ha, hreport.1, hreport.2, hchecks.1, hchecks.2⟩

end Manifest

end ManifestEdit
