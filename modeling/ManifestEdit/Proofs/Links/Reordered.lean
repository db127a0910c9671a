import ManifestEdit.Proofs.Pattern.Overlaps

/-!
# Rules in another order

Whether a pattern matches a name and how it ranks does not depend on where it stands. So the order
of rules shows only in a tie: where patterns of the same highest rank match a name, the first of
them decides. Where such patterns carry one value, rules in any order give it.
-/

namespace ManifestEdit

namespace OrderedMap

variable {α : Type} {m n : OrderedMap α}

theorem get?_perm (h : m.entries.Perm n.entries) (k : Text) : m.get? k = n.get? k :=
  Entries.lookup_perm m.distinct h k

theorem mem_keys_perm (h : m.entries.Perm n.entries) (k : Text) : k ∈ m.keys ↔ k ∈ n.keys :=
  (h.map Prod.fst).mem_iff

/-- In some order a given entry comes first. -/
theorem exists_perm_cons {e : Text × α} (he : e ∈ m.entries) :
    ∃ (n : OrderedMap α) (rest : List (Text × α)), m.entries.Perm n.entries ∧
      n.entries = e :: rest := by
  obtain ⟨front, back, hsplit⟩ := List.append_of_mem he
  have hperm : m.entries.Perm (e :: (front ++ back)) := hsplit ▸ List.perm_middle
  have hdistinct : (Entries.keys (e :: (front ++ back))).Nodup :=
    (hperm.map Prod.fst).nodup_iff.1 m.distinct
  exact ⟨⟨_, hdistinct⟩, front ++ back, hperm, rfl⟩

end OrderedMap

namespace Rules

variable {α : Type} {rules other : Rules α} {name : Text} {p : Pattern}

/-! ## Ties -/

/-- A pattern that matches a name and that no matching pattern outranks. Others may rank as high. -/
structure Leads (rules : Rules α) (name : Text) (p : Pattern) : Prop where
  mem : p ∈ rules.patterns
  accepts : p.accepts name = true
  highest : ∀ q ∈ rules.patterns, q.accepts name = true → q.rank ≤ p.rank

/-- All patterns of highest rank that match a name carry the same value. -/
def TiesAgree (rules : Rules α) (name : Text) : Prop :=
  ∀ p q, Leads rules name p → Leads rules name q → rules.get? p.raw = rules.get? q.raw

instance (rules : Rules α) (name : Text) (p : Pattern) : Decidable (Leads rules name p) :=
  decidable_of_iff (p ∈ rules.patterns ∧ p.accepts name = true ∧
      ∀ q ∈ rules.patterns, q.accepts name = true → q.outranks p = false)
    ⟨fun ⟨hmem, haccepts, hhighest⟩ =>
        ⟨hmem, haccepts, fun q hq h => Pattern.not_outranks_iff.1 (hhighest q hq h)⟩,
      fun h => ⟨h.mem, h.accepts, fun q hq hname =>
        Pattern.not_outranks_iff.2 (h.highest q hq hname)⟩⟩

instance [DecidableEq α] (rules : Rules α) (name : Text) : Decidable (TiesAgree rules name) :=
  decidable_of_iff (∀ p ∈ rules.patterns, ∀ q ∈ rules.patterns, Leads rules name p →
      Leads rules name q → rules.get? p.raw = rules.get? q.raw)
    ⟨fun h p q hp hq => h p hp.mem q hq.mem hp hq, fun h p _ q _ hp hq => h p q hp hq⟩

theorem leads_of_decides (h : Pattern.Decides rules.patterns name p) : Leads rules name p :=
  ⟨h.mem, h.accepts, h.highest⟩

theorem mem_patterns_perm (h : rules.entries.Perm other.entries) (p : Pattern) :
    p ∈ rules.patterns ↔ p ∈ other.patterns := by
  rw [mem_patterns, mem_patterns, OrderedMap.mem_keys_perm h]

theorem Leads.perm (hp : Leads rules name p) (h : rules.entries.Perm other.entries) :
    Leads other name p where
  mem := (mem_patterns_perm h p).1 hp.mem
  accepts := hp.accepts
  highest q hq := hp.highest q ((mem_patterns_perm h q).2 hq)

theorem hits_perm (h : rules.entries.Perm other.entries) (name : Text) :
    rules.hits name = other.hits name := by
  unfold hits
  rw [Bool.eq_iff_iff, List.any_eq_true, List.any_eq_true]
  simp only [mem_patterns_perm h]

/-- The patterns that decide before and after both lead, so they carry the same value. -/
theorem Gives.eq_of_perm {v w : Option α} (h : rules.entries.Perm other.entries)
    (hties : TiesAgree rules name) (hv : Gives rules name v) (hw : Gives other name w) :
    v = w := by
  cases hv with
  | value hdecides hlookup =>
    cases hw with
    | value hdecides' hlookup' =>
      rw [← hlookup, ← hlookup', ← OrderedMap.get?_perm h]
      exact hties _ _ (leads_of_decides hdecides) ((leads_of_decides hdecides').perm h.symm)
    | nothing hidle =>
      have hmem := (mem_patterns_perm h _).1 hdecides.mem
      cases hdecides.accepts.symm.trans (hidle _ hmem)
  | nothing hidle =>
    cases hw with
    | value hdecides' hlookup' =>
      have hmem := (mem_patterns_perm h _).2 hdecides'.mem
      cases hdecides'.accepts.symm.trans (hidle _ hmem)
    | nothing _ => rfl

theorem resolve?_perm (h : rules.entries.Perm other.entries) (hties : TiesAgree rules name) :
    rules.resolve? name = other.resolve? name :=
  (gives_resolve? rules name).eq_of_perm h hties (gives_resolve? other name)

/-- A pattern that leads decides where it stands first. -/
theorem Leads.exists_perm (hp : Leads rules name p) :
    ∃ other : Rules α, rules.entries.Perm other.entries ∧
      other.resolve? name = rules.get? p.raw := by
  obtain ⟨v, hv⟩ := OrderedMap.exists_get? (mem_patterns.1 hp.mem)
  obtain ⟨other, rest, hperm, hfirst⟩ := OrderedMap.exists_perm_cons (Entries.mem_of_lookup hv)
  have hleads := hp.perm hperm
  have hpatterns : patterns other = [] ++ p :: rest.map fun e => Pattern.mk e.1 := by
    simp [patterns, OrderedMap.keys, Entries.keys, hfirst]
  have hdecides : Pattern.Decides (patterns other) name p :=
    ⟨hleads.accepts, hleads.highest, [], _, hpatterns, fun _ hq => absurd hq List.not_mem_nil⟩
  refine ⟨other, hperm, ?_⟩
  rw [resolve?_of_decides hdecides, OrderedMap.get?_perm hperm]

/-- Rules give a name one value in every order exactly where the ties agree. -/
theorem tiesAgree_iff : TiesAgree rules name ↔
    ∀ other : Rules α, rules.entries.Perm other.entries →
      rules.resolve? name = other.resolve? name := by
  constructor
  · exact fun hties other h => resolve?_perm h hties
  · intro hsame p q hp hq
    obtain ⟨first, hfirst, hvalue⟩ := hp.exists_perm
    obtain ⟨second, hsecond, hvalue'⟩ := hq.exists_perm
    rw [← hvalue, ← hvalue', ← hsame first hfirst, ← hsame second hsecond]

example : ¬ TiesAgree (.ofPairs [("a/*", true), ("*/b", false)] : Rules Bool) "a/b" := by
  decide +kernel

end Rules

/-! ## One dependency map -/

namespace Links

variable {policy : MergePolicy} {rules other : Rules Text} {links : Option Links}

theorem get?_added_perm (h : rules.entries.Perm other.entries) (entries : Links) (k : Text) :
    (added policy rules entries).get? k = (added policy other entries).get? k := by
  unfold added
  rw [OrderedMap.get?_filterKeys, OrderedMap.get?_filterKeys, OrderedMap.get?_perm h]

theorem get?_editEntries_perm (h : rules.entries.Perm other.entries) (entries : Links)
    (hties : policy.overwrites = true → ∀ k ∈ entries.keys, rules.TiesAgree k) (k : Text) :
    (editEntries policy rules entries).get? k = (editEntries policy other entries).get? k := by
  cases policy with
  | delete =>
    rw [editEntries_delete, editEntries_delete, OrderedMap.get?_filterKeys,
      OrderedMap.get?_filterKeys, Rules.hits_perm h]
  | insertIfAbsent => rfl
  | overwrite | overwriteIfPresent =>
    rw [editEntries_of_overwrites rfl, editEntries_of_overwrites rfl, OrderedMap.get?_mapEntries,
      OrderedMap.get?_mapEntries]
    by_cases hk : k ∈ entries.keys
    · rw [Rules.resolve?_perm h (hties rfl k hk)]
    · rw [OrderedMap.get?_eq_none_iff.2 hk, Option.map_none, Option.map_none]

/-- Rules that delete or only insert make the same of a map in every order, and rules that overwrite
do where the ties for each of its packages agree. -/
theorem sameContent_perm (scope : Scope) (h : rules.entries.Perm other.entries)
    (hties : policy.overwrites = true → ∀ k ∈ (links.getD .empty).keys, rules.TiesAgree k) :
    SameContent (applyRules scope policy rules links).1
      (applyRules scope policy other links).1 where
  absent := by
    rw [applyRules_eq_none_iff, applyRules_eq_none_iff]
    refine and_congr_right fun _ => ?_
    rw [List.eq_nil_iff_forall_not_mem, List.eq_nil_iff_forall_not_mem]
    refine forall_congr' fun k => not_congr ?_
    rw [mem_keys_added, mem_keys_added, OrderedMap.mem_keys_perm h]
  get? k := by
    rw [get?_applyRules, get?_applyRules, get?_editEntries_perm h _ hties, get?_added_perm h]

end Links

/-! ## Everything that goes by patterns -/

namespace Rules

/-- The order of rules matters for ties only: for the content of dependency maps, for the plugins
that are allowed and for the source of an install. -/
theorem sameContent_allows_modeFor_perm :
    (∀ scope policy (rules other : Rules Text) links, rules.entries.Perm other.entries →
      (policy.overwrites = true → ∀ k ∈ (links.getD OrderedMap.empty).keys, rules.TiesAgree k) →
        Links.SameContent (Links.applyRules scope policy rules links).1
          (Links.applyRules scope policy other links).1) ∧
    (∀ (rules other : Rules Bool) package, rules.entries.Perm other.entries →
      rules.TiesAgree package → (AllowPlugins.byPattern rules).allows package =
        (AllowPlugins.byPattern other).allows package) ∧
    (∀ (rules other : Rules PackageSource) package fallback, rules.entries.Perm other.entries →
      rules.TiesAgree package → (PreferredInstall.byPattern rules).modeFor package fallback =
        (PreferredInstall.byPattern other).modeFor package fallback) := by
  refine ⟨fun scope policy rules other links h hties => Links.sameContent_perm scope h hties,
    fun rules other package h hties => ?_, fun rules other package fallback h hties => ?_⟩
  · rw [AllowPlugins.allows, AllowPlugins.allows, resolve?_perm h hties]
  · rw [PreferredInstall.modeFor, PreferredInstall.modeFor, resolve?_perm h hties]

/-- Two patterns of one rank match a package and carry one value; a literal rule adds a package. -/
theorem sameContent_allows_modeFor_perm_agreeing :
    let rules : Rules Text := .ofPairs
      [("symfony/*", "^6.0"), ("*/console", "^6.0"), ("psr/log", "^3.0"), ("*", "dev-main")]
    let other : Rules Text := .ofPairs
      [("*", "dev-main"), ("psr/log", "^3.0"), ("*/console", "^6.0"), ("symfony/*", "^6.0")]
    let links : Links := .ofPairs [("php", "^8.1"), ("symfony/console", "^5.0")]
    rules.entries.Perm other.entries ∧ (∀ k ∈ links.keys, rules.TiesAgree k) ∧
      Links.SameContent (Links.applyRules ⟨"replace", "require"⟩ .overwrite rules (some links)).1
        (Links.applyRules ⟨"replace", "require"⟩ .overwrite other (some links)).1 ∧
      (AllowPlugins.byPattern (.ofPairs [("a/*", true), ("*/b", true), ("*", false)])).allows
          "a/b" =
        (AllowPlugins.byPattern (.ofPairs [("*", false), ("*/b", true), ("a/*", true)])).allows
          "a/b" ∧
      (PreferredInstall.byPattern (.ofPairs [("a/*", .source), ("*", .auto)])).modeFor "a/b"
          .dist =
        (PreferredInstall.byPattern (.ofPairs [("*", .auto), ("a/*", .source)])).modeFor "a/b"
          .dist := by
  intro rules other links
  obtain ⟨hlinks, hplugins, hsources⟩ := sameContent_allows_modeFor_perm
  have hperm : rules.entries.Perm other.entries := by decide +kernel
  have hties : ∀ k ∈ links.keys, rules.TiesAgree k := by decide +kernel
  refine ⟨hperm, hties, hlinks _ _ _ _ _ hperm fun _ => hties, ?_, ?_⟩
  · exact hplugins _ _ _ (by decide +kernel) (by decide +kernel)
  · exact hsources _ _ _ _ (by decide +kernel) (by decide +kernel)

end Rules

end ManifestEdit
