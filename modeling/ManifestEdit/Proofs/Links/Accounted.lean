import ManifestEdit.Proofs.Pattern.Overlaps

/-!
# What a report holds

The report of rules on a map says one thing of each entry that some pattern matches, in the order of
the entries, and then one thing of each pattern that matches no entry, in the order of the patterns.
`Report` states this change by change, each with its values and the pattern that it names. The
entries are those of the map before: a pattern is idle also where it matches a package that another
pattern adds. So each change names a pattern of the rules that matches its package.
-/

namespace ManifestEdit

namespace Pattern

/-- The first pattern of a list that matches a name. -/
structure FirstMatch (ps : List Pattern) (name : Text) (p : Pattern) : Prop where
  accepts : p.accepts name = true
  first : ∃ earlier later, ps = earlier ++ p :: later ∧ ∀ q ∈ earlier, q.accepts name = false

theorem FirstMatch.mem {ps : List Pattern} {name : Text} {p : Pattern}
    (h : FirstMatch ps name p) : p ∈ ps := by
  obtain ⟨-, earlier, later, rfl, -⟩ := h
  exact List.mem_append_right _ List.mem_cons_self

theorem head?_matching_eq_some_iff {ps : List Pattern} {name : Text} {p : Pattern} :
    (matching ps name).head? = some p ↔ FirstMatch ps name p := by
  rw [matching, List.head?_filter, List.find?_eq_some_iff_append]
  constructor
  · rintro ⟨haccepts, earlier, later, hsplit, hfirst⟩
    exact ⟨haccepts, earlier, later, hsplit, fun q hq => by simpa using hfirst q hq⟩
  · rintro ⟨haccepts, earlier, later, hsplit, hfirst⟩
    exact ⟨haccepts, earlier, later, hsplit, fun q hq => by simpa using hfirst q hq⟩

theorem head?_matching_eq_none_iff {ps : List Pattern} {name : Text} :
    (matching ps name).head? = none ↔ ∀ p ∈ ps, p.accepts name = false := by
  rw [List.head?_eq_none_iff, matching, List.filter_eq_nil_iff]
  simp

end Pattern

namespace Links

/-! ## Reports, one after the other -/

/-- Each item in turn has one change or none. -/
inductive Reported {α : Type} (Reports : α → Change → Prop) (Silent : α → Prop) :
    List α → List Change → Prop where
  | nil : Reported Reports Silent [] []
  | silent {a : α} {rest : List α} {changes : List Change} (head : Silent a)
      (tail : Reported Reports Silent rest changes) : Reported Reports Silent (a :: rest) changes
  | reported {a : α} {c : Change} {rest : List α} {changes : List Change} (head : Reports a c)
      (tail : Reported Reports Silent rest changes) :
      Reported Reports Silent (a :: rest) (c :: changes)

/-- A function that finds the change of each item finds all changes. -/
theorem reported_iff {α : Type} {Reports : α → Change → Prop} {Silent : α → Prop}
    {change? : α → Option Change} (hreports : ∀ a c, Reports a c → change? a = some c)
    (hsilent : ∀ a, Silent a → change? a = none)
    (htotal : ∀ a, (∃ c, Reports a c) ∨ Silent a) (items : List α) (changes : List Change) :
    Reported Reports Silent items changes ↔ changes = items.filterMap change? := by
  constructor
  · intro h
    induction h with
    | nil => rfl
    | silent head _ ih => rw [List.filterMap_cons_none (hsilent _ head), ih]
    | reported head _ ih => rw [List.filterMap_cons_some (hreports _ _ head), ih]
  · rintro rfl
    induction items with
    | nil => exact .nil
    | cons a rest ih =>
      rcases htotal a with ⟨c, hc⟩ | ha
      · rw [List.filterMap_cons_some (hreports a c hc)]
        exact .reported hc ih
      · rw [List.filterMap_cons_none (hsilent a ha)]
        exact .silent ha ih

theorem Reported.exists_of_mem {α : Type} {Reports : α → Change → Prop} {Silent : α → Prop}
    {items : List α} {changes : List Change} (h : Reported Reports Silent items changes)
    {c : Change} (hc : c ∈ changes) : ∃ a ∈ items, Reports a c := by
  induction h with
  | nil => exact absurd hc List.not_mem_nil
  | silent _ _ ih =>
    obtain ⟨a, ha, hreports⟩ := ih hc
    exact ⟨a, List.mem_cons_of_mem _ ha, hreports⟩
  | reported head _ ih =>
    rcases List.mem_cons.1 hc with rfl | hc
    · exact ⟨_, List.mem_cons_self, head⟩
    · obtain ⟨a, ha, hreports⟩ := ih hc
      exact ⟨a, List.mem_cons_of_mem _ ha, hreports⟩

variable (scope : Scope) (policy : MergePolicy) (rules : Rules Text)

/-! ## Entries -/

/-- The change that is reported of an entry which some pattern matches. -/
inductive EntryReport (e : Text × Text) : Change → Prop where
  | removed {p : Pattern} (policy_eq : policy = .delete)
      (first : Pattern.FirstMatch rules.patterns e.1 p) :
      EntryReport e ⟨scope.pass, scope.target, e.1, .removed, some p.raw, .str e.2, .null⟩
  | skipped {p : Pattern} (policy_eq : policy = .insertIfAbsent)
      (first : Pattern.FirstMatch rules.patterns e.1 p) :
      EntryReport e ⟨scope.pass, scope.target, e.1, .skipped, some p.raw, .str e.2, .null⟩
  | replaced {p : Pattern} {new : Text} (overwrites : policy.overwrites = true)
      (decides : Pattern.Decides rules.patterns e.1 p) (value : rules.get? p.raw = some new)
      (differs : new ≠ e.2) :
      EntryReport e ⟨scope.pass, scope.target, e.1, .replaced, some p.raw, .str e.2, .str new⟩

/-- Nothing is reported of an entry that no pattern matches, nor of one that holds already what it
would be overwritten with. -/
inductive EntrySilent (e : Text × Text) : Prop where
  | unmatched (idle : ∀ p ∈ rules.patterns, p.accepts e.1 = false)
  | same {p : Pattern} (overwrites : policy.overwrites = true)
      (decides : Pattern.Decides rules.patterns e.1 p) (value : rules.get? p.raw = some e.2)

/-! ## Patterns -/

/-- The change that is reported of a pattern which matches none of the keys. -/
inductive PatternReport (keys : List Text) (r : Text × Text) : Change → Prop where
  | added (idle : ∀ k ∈ keys, (Pattern.mk r.1).accepts k = false)
      (inserts : policy.inserts = true) (literal : (Pattern.mk r.1).isLiteral = true) :
      PatternReport keys r ⟨scope.pass, scope.target, r.1, .added, some r.1, .null, .str r.2⟩
  | unmatched (idle : ∀ k ∈ keys, (Pattern.mk r.1).accepts k = false)
      (stays : policy.inserts = false ∨ (Pattern.mk r.1).isLiteral = false) :
      PatternReport keys r ⟨scope.pass, scope.target, r.1, .unmatched, some r.1, .null, .null⟩

/-- Nothing more is reported of a pattern that matches one of the keys. -/
def PatternSilent (keys : List Text) (r : Text × Text) : Prop :=
  ∃ k ∈ keys, (Pattern.mk r.1).accepts k = true

/-- The change of a rule, where its pattern matches none of the keys. -/
def patternChange? (keys : List Text) (r : Text × Text) : Option Change :=
  if keys.any (Pattern.mk r.1).accepts then none else some (idleChange scope policy (⟨r.1⟩, r.2))

/-! ## The whole report -/

/-- The report of rules on a map, which may be absent: the entries first, then the patterns. -/
inductive Report (links : Option Links) : List Change → Prop where
  | append {edits idles : List Change}
      (entries : Reported (EntryReport scope policy rules) (EntrySilent policy rules)
        (links.getD .empty).entries edits)
      (patterns : Reported (PatternReport scope policy (links.getD .empty).keys)
        (PatternSilent (links.getD .empty).keys) rules.entries idles) :
      Report links (edits ++ idles)

variable {scope policy rules} {links : Option Links}

theorem entryChange?_of_idle {e : Text × Text}
    (h : ∀ p ∈ rules.patterns, p.accepts e.1 = false) :
    entryChange? scope policy rules e.1 e.2 = none := by
  unfold entryChange?
  cases policy with
  | delete | insertIfAbsent =>
    dsimp only
    rw [Pattern.head?_matching_eq_none_iff.2 h, Option.map_none]
  | overwrite | overwriteIfPresent =>
    have hwinner : rules.winner? e.1 = none := Pattern.mostSpecific_matching_eq_none_iff.2 h
    dsimp only
    rw [hwinner]

theorem entryChange?_of_decides {e : Text × Text} {p : Pattern} {new : Text}
    (hpolicy : policy.overwrites = true) (hdecides : Pattern.Decides rules.patterns e.1 p)
    (hvalue : rules.get? p.raw = some new) :
    entryChange? scope policy rules e.1 e.2 = if new = e.2 then none else
      some ⟨scope.pass, scope.target, e.1, .replaced, some p.raw, .str e.2, .str new⟩ := by
  unfold entryChange?
  cases policy with
  | delete | insertIfAbsent => cases hpolicy
  | overwrite | overwriteIfPresent =>
    dsimp only
    rw [Rules.winner?_of_decides hdecides, Rules.resolve?_of_decides hdecides, hvalue]

theorem EntryReport.entryChange?_eq {e : Text × Text} {c : Change}
    (h : EntryReport scope policy rules e c) :
    entryChange? scope policy rules e.1 e.2 = some c := by
  cases h with
  | removed hpolicy hfirst | skipped hpolicy hfirst =>
    subst hpolicy
    unfold entryChange?
    dsimp only
    rw [Pattern.head?_matching_eq_some_iff.2 hfirst, Option.map_some]
  | replaced hpolicy hdecides hvalue hdiffers =>
    rw [entryChange?_of_decides hpolicy hdecides hvalue, if_neg hdiffers]

theorem EntrySilent.entryChange?_eq {e : Text × Text} (h : EntrySilent policy rules e) :
    entryChange? scope policy rules e.1 e.2 = none := by
  cases h with
  | unmatched hidle => exact entryChange?_of_idle hidle
  | same hpolicy hdecides hvalue =>
    rw [entryChange?_of_decides hpolicy hdecides hvalue, if_pos rfl]

/-- Each entry has its report, or there is nothing to report of it. -/
theorem entryReport_or_silent (e : Text × Text) :
    (∃ c, EntryReport scope policy rules e c) ∨ EntrySilent policy rules e := by
  obtain ⟨v, hgives⟩ : ∃ v, Rules.Gives rules e.1 v := ⟨_, rules.gives_resolve? e.1⟩
  cases hgives with
  | nothing hidle => exact .inr (.unmatched hidle)
  | @value p new hdecides hvalue =>
    have hmatches : ¬ ∀ q ∈ rules.patterns, q.accepts e.1 = false := fun h => by
      cases (h p hdecides.mem).symm.trans hdecides.accepts
    rw [← Pattern.head?_matching_eq_none_iff, ← ne_eq, Option.ne_none_iff_exists'] at hmatches
    obtain ⟨q, hq⟩ := hmatches
    have hfirst := Pattern.head?_matching_eq_some_iff.1 hq
    cases policy with
    | delete => exact .inl ⟨_, .removed rfl hfirst⟩
    | insertIfAbsent => exact .inl ⟨_, .skipped rfl hfirst⟩
    | overwrite | overwriteIfPresent =>
      by_cases hsame : new = e.2
      · exact .inr (.same rfl hdecides (hsame ▸ hvalue))
      · exact .inl ⟨_, .replaced rfl hdecides hvalue hsame⟩

theorem PatternReport.patternChange?_eq {keys : List Text} {r : Text × Text} {c : Change}
    (h : PatternReport scope policy keys r c) : patternChange? scope policy keys r = some c := by
  have hnone : (∀ k ∈ keys, (Pattern.mk r.1).accepts k = false) →
      ¬ keys.any (Pattern.mk r.1).accepts = true := by simp
  unfold patternChange?
  cases h with
  | added hidle hinserts hliteral =>
    have hadds : adds policy ⟨r.1⟩ = true := by rw [adds, hinserts, hliteral, Bool.true_and]
    rw [if_neg (hnone hidle), idleChange, if_pos hadds]
  | unmatched hidle hstays =>
    have hadds : ¬ adds policy ⟨r.1⟩ = true := by
      rw [adds, Bool.and_eq_true, not_and_or, Bool.not_eq_true, Bool.not_eq_true]
      exact hstays
    rw [if_neg (hnone hidle), idleChange, if_neg hadds]

theorem PatternSilent.patternChange?_eq {keys : List Text} {r : Text × Text}
    (h : PatternSilent keys r) : patternChange? scope policy keys r = none :=
  if_pos (List.any_eq_true.2 h)

theorem patternReport_or_silent (keys : List Text) (r : Text × Text) :
    (∃ c, PatternReport scope policy keys r c) ∨ PatternSilent keys r := by
  by_cases hmatches : PatternSilent keys r
  · exact .inr hmatches
  · have hidle : ∀ k ∈ keys, (Pattern.mk r.1).accepts k = false := fun k hk =>
      Bool.eq_false_iff.2 fun h => hmatches ⟨k, hk, h⟩
    cases hinserts : policy.inserts with
    | false => exact .inl ⟨_, .unmatched hidle (.inl hinserts)⟩
    | true =>
      cases hliteral : (Pattern.mk r.1).isLiteral with
      | false => exact .inl ⟨_, .unmatched hidle (.inr hliteral)⟩
      | true => exact .inl ⟨_, .added hidle hinserts hliteral⟩

theorem idleChanges_eq_filterMap (entries : Links) :
    (idleRules rules entries).map (idleChange scope policy) =
      rules.entries.filterMap (patternChange? scope policy entries.keys) := by
  unfold idleRules
  induction rules.entries with
  | nil => rfl
  | cons r rest ih =>
    rw [List.map_cons, List.filter_cons]
    cases hany : entries.keys.any (Pattern.mk r.1).accepts with
    | true =>
      have hnone : patternChange? scope policy entries.keys r = none := if_pos hany
      rw [List.filterMap_cons_none hnone, ← ih]
      rfl
    | false =>
      have hsome : patternChange? scope policy entries.keys r =
          some (idleChange scope policy (⟨r.1⟩, r.2)) := if_neg (Bool.eq_false_iff.1 hany)
      rw [List.filterMap_cons_some hsome, ← ih]
      rfl

theorem reported_entries (entries : List (Text × Text)) (changes : List Change) :
    Reported (EntryReport scope policy rules) (EntrySilent policy rules) entries changes ↔
      changes = entries.filterMap fun e => entryChange? scope policy rules e.1 e.2 :=
  reported_iff (fun _ _ h => h.entryChange?_eq) (fun _ h => h.entryChange?_eq)
    entryReport_or_silent entries changes

theorem reported_patterns (keys : List Text) (patterns : List (Text × Text))
    (changes : List Change) :
    Reported (PatternReport scope policy keys) (PatternSilent keys) patterns changes ↔
      changes = patterns.filterMap (patternChange? scope policy keys) :=
  reported_iff (fun _ _ h => h.patternChange?_eq) (fun _ h => h.patternChange?_eq)
    (patternReport_or_silent keys) patterns changes

theorem changes_applyRules : (applyRules scope policy rules links).2 =
    (links.getD .empty).entries.filterMap (fun e => entryChange? scope policy rules e.1 e.2) ++
      rules.entries.filterMap (patternChange? scope policy (links.getD .empty).keys) := by
  rw [← idleChanges_eq_filterMap]
  rw [applyRules_eq]

theorem report_applyRules :
    Report scope policy rules links (applyRules scope policy rules links).2 := by
  rw [changes_applyRules]
  exact .append ((reported_entries _ _).2 rfl) ((reported_patterns _ _ _).2 rfl)

/-- A change of a report is about an entry or about a pattern. -/
theorem Report.entry_or_pattern {changes : List Change} {c : Change}
    (h : Report scope policy rules links changes) (hc : c ∈ changes) :
    (∃ e ∈ (links.getD .empty).entries, EntryReport scope policy rules e c) ∨
      ∃ r ∈ rules.entries, PatternReport scope policy (links.getD .empty).keys r c := by
  obtain ⟨hentries, hpatterns⟩ := h
  exact (List.mem_append.1 hc).imp hentries.exists_of_mem hpatterns.exists_of_mem

/-! ## Where a change comes from -/

/-- What a change says of where it comes from: its scope, and one of the patterns that matches its
package. -/
structure ComesFrom (scope : Scope) (rules : Rules Text) (c : Change) : Prop where
  pass : c.pass = scope.pass
  target : c.target = scope.target
  names : ∃ p ∈ rules.patterns, c.pattern = some p.raw ∧ p.accepts c.key = true

theorem EntryReport.comesFrom {e : Text × Text} {c : Change}
    (h : EntryReport scope policy rules e c) : ComesFrom scope rules c := by
  cases h with
  | removed _ hfirst | skipped _ hfirst =>
    exact ⟨rfl, rfl, _, hfirst.mem, rfl, hfirst.accepts⟩
  | replaced _ hdecides => exact ⟨rfl, rfl, _, hdecides.mem, rfl, hdecides.accepts⟩

theorem PatternReport.comesFrom {keys : List Text} {r : Text × Text} {c : Change}
    (hr : r ∈ rules.entries) (h : PatternReport scope policy keys r c) :
    ComesFrom scope rules c := by
  have hmem : Pattern.mk r.1 ∈ rules.patterns := Rules.mem_patterns.2 (List.mem_map_of_mem hr)
  have hself : (Pattern.mk r.1).accepts r.1 = true := Pattern.accepts_self ⟨r.1⟩
  cases h with
  | added | unmatched => exact ⟨rfl, rfl, _, hmem, rfl, hself⟩

theorem comesFrom_applyRules {c : Change} (h : c ∈ (applyRules scope policy rules links).2) :
    ComesFrom scope rules c := by
  rcases report_applyRules.entry_or_pattern h with ⟨e, -, hreport⟩ | ⟨r, hr, hreport⟩
  · exact hreport.comesFrom
  · exact hreport.comesFrom hr

/-- The changes of rules are a report of them, and nothing else is; they are about packages that
some pattern matches. -/
theorem report_iff (scope : Scope) (policy : MergePolicy) (rules : Rules Text)
    (links : Option Links) :
    (∀ changes, Report scope policy rules links changes ↔
      changes = (applyRules scope policy rules links).2) ∧
    ∀ c ∈ (applyRules scope policy rules links).2,
      ∃ p ∈ rules.patterns, p.accepts c.key = true := by
  refine ⟨fun changes => ⟨fun h => ?_, ?_⟩, fun c hc => ?_⟩
  · obtain ⟨hentries, hpatterns⟩ := h
    rw [changes_applyRules, (reported_entries _ _).1 hentries,
      (reported_patterns _ _ _).1 hpatterns]
  · rintro rfl
    exact report_applyRules
  · obtain ⟨p, hp, -, haccepts⟩ := (comesFrom_applyRules hc).names
    exact ⟨p, hp, haccepts⟩

/-- One entry is matched by nothing, one holds the value of its rule already, and two patterns of
one rank match the third. Of the idle patterns one is literal. -/
theorem report_iff_overlap :
    let rules : Rules Text :=
      .ofPairs [("a/*", "9"), ("*/y", "8"), ("a/x", "2"), ("b", "3"), ("c/*", "4")]
    let links : Links := .ofPairs [("z", "0"), ("a/x", "2"), ("a/y", "1")]
    Report ⟨"replace", "require"⟩ .overwrite rules (some links)
      [⟨"replace", "require", "a/y", .replaced, some "a/*", .str "1", .str "9"⟩,
        ⟨"replace", "require", "b", .added, some "b", .null, .str "3"⟩,
        ⟨"replace", "require", "c/*", .unmatched, some "c/*", .null, .null⟩] ∧
      ∀ c ∈ (applyRules ⟨"replace", "require"⟩ .overwrite rules (some links)).2,
        ∃ p ∈ rules.patterns, p.accepts c.key = true := by
  intro rules links
  obtain ⟨hreport, hnames⟩ := report_iff ⟨"replace", "require"⟩ .overwrite rules (some links)
  exact ⟨(hreport _).2 rfl, hnames⟩

end Links

end ManifestEdit
