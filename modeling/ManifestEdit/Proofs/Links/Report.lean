import ManifestEdit.Proofs.Links.Rules

/-!
# What rules report

The changes that rules report for a dependency map are replayed one by one, each on the entries that
the ones before left; a change that is not true of them stops the replay. Replayed from the map
before, they lead to the map after.
-/

namespace ManifestEdit

namespace Entries

variable {α : Type} {front back : List (Text × α)} {e : Text × α}

/-- The key of an entry stands on neither side of it. -/
theorem not_mem_sides (h : (keys (front ++ e :: back)).Nodup) :
    e.1 ∉ keys front ∧ e.1 ∉ keys back := by
  rw [keys, List.map_append, List.map_cons, List.nodup_append, List.nodup_cons] at h
  obtain ⟨-, ⟨hback, -⟩, hfront⟩ := h
  exact ⟨fun hmem => hfront e.1 hmem e.1 List.mem_cons_self rfl, hback⟩

theorem ne_of_not_mem {entries : List (Text × α)} {key : Text} (h : key ∉ keys entries) :
    ∀ d ∈ entries, d.1 ≠ key :=
  fun _ hd hkey => h (hkey ▸ List.mem_map_of_mem hd)

theorem filter_ne (h : (keys (front ++ e :: back)).Nodup) :
    (front ++ e :: back).filter (fun d => d.1 ≠ e.1) = front ++ back := by
  obtain ⟨hfront, hback⟩ := not_mem_sides h
  have hkeep : ∀ entries : List (Text × α), e.1 ∉ keys entries →
      entries.filter (fun d => d.1 ≠ e.1) = entries := fun entries hkey =>
    List.filter_eq_self.2 fun d hd => decide_eq_true (ne_of_not_mem hkey d hd)
  rw [List.filter_append, List.filter_cons, hkeep front hfront, hkeep back hback]
  simp

theorem map_at (h : (keys (front ++ e :: back)).Nodup) (value : α) :
    (front ++ e :: back).map (fun d => if d.1 = e.1 then (d.1, value) else d) =
      front ++ (e.1, value) :: back := by
  obtain ⟨hfront, hback⟩ := not_mem_sides h
  have hkeep : ∀ entries : List (Text × α), e.1 ∉ keys entries →
      entries.map (fun d => if d.1 = e.1 then (d.1, value) else d) = entries := by
    intro entries hkey
    have hsame : ∀ d ∈ entries, (if d.1 = e.1 then (d.1, value) else d) = d :=
      fun d hd => if_neg (ne_of_not_mem hkey d hd)
    rw [List.map_congr_left hsame, List.map_id']
  rw [List.map_append, List.map_cons, hkeep front hfront, hkeep back hback, if_pos rfl]

end Entries

namespace Links

/-! ## Replaying -/

/-- The entries after a change that is true of those before. A package that is removed or kept is
there in its old version, one that is added is not there, and one that is replaced is there in
another version. -/
def afterChange? (entries : List (Text × Text)) (c : Change) : Option (List (Text × Text)) :=
  match c.kind, c.old, c.new with
  | .removed, .str old, .null =>
    if entries.lookup c.key = some old then some (entries.filter fun e => e.1 ≠ c.key) else none
  | .added, .null, .str new =>
    if entries.lookup c.key = none then some (entries ++ [(c.key, new)]) else none
  | .replaced, .str old, .str new =>
    if entries.lookup c.key = some old ∧ old ≠ new then
      some (entries.map fun e => if e.1 = c.key then (e.1, new) else e)
    else none
  | .skipped, .str old, .null => if entries.lookup c.key = some old then some entries else none
  | .unmatched, .null, .null => some entries
  | _, _, _ => none

/-- The entries after all changes in turn. -/
def replay? : List Change → List (Text × Text) → Option (List (Text × Text))
  | [], entries => some entries
  | c :: rest, entries => (afterChange? entries c).bind (replay? rest)

theorem replay?_append (cs ds : List Change) (entries : List (Text × Text)) :
    replay? (cs ++ ds) entries = (replay? cs entries).bind (replay? ds) := by
  induction cs generalizing entries with
  | nil => rfl
  | cons c rest ih =>
    rw [List.cons_append, replay?, replay?, Option.bind_assoc]
    exact congrArg _ (funext ih)

theorem replay?_singleton (c : Change) (entries : List (Text × Text)) :
    replay? [c] entries = afterChange? entries c := by
  rw [replay?]
  cases afterChange? entries c <;> rfl

variable {scope : Scope} {policy : MergePolicy} {rules : Rules Text}

/-! ## Entries that rules match -/

theorem key_of_remainsOf? {e d : Text × Text} (h : remainsOf? policy rules e = some d) :
    d.1 = e.1 := by
  unfold remainsOf? at h
  split at h
  · split at h
    · cases h
    · cases h
      rfl
  · cases h
    rfl
  · cases h
    rfl
  · cases h
    rfl

/-- The change to an entry is true of the entries around it, and leaves what is left of it in its
place. -/
theorem replay?_entryChange {front back : List (Text × Text)} {e : Text × Text}
    (h : (Entries.keys (front ++ e :: back)).Nodup) :
    replay? (entryChange? scope policy rules e.1 e.2).toList (front ++ e :: back) =
      some (front ++ (remainsOf? policy rules e).toList ++ back) := by
  have hlookup : (front ++ e :: back).lookup e.1 = some e.2 :=
    Entries.lookup_of_mem h (List.mem_append_right _ List.mem_cons_self)
  have hkept : front ++ (some e).toList ++ back = front ++ e :: back := by simp
  cases policy with
  | delete =>
    unfold entryChange? remainsOf? isSelected
    dsimp only
    cases Pattern.matching rules.patterns e.1 with
    | nil => exact congrArg some hkept.symm
    | cons p more =>
      rw [List.head?_cons, Option.map_some, Option.toList_some, replay?_singleton, afterChange?]
      dsimp only
      rw [if_pos hlookup, Entries.filter_ne h]
      simp
  | insertIfAbsent =>
    unfold entryChange? remainsOf?
    dsimp only
    cases Pattern.matching rules.patterns e.1 with
    | nil => exact congrArg some hkept.symm
    | cons p more =>
      rw [List.head?_cons, Option.map_some, Option.toList_some, replay?_singleton, afterChange?]
      dsimp only
      rw [if_pos hlookup, hkept]
  | overwrite | overwriteIfPresent =>
    unfold entryChange? remainsOf? Rules.resolve?
    dsimp only
    cases rules.winner? e.1 with
    | none => exact congrArg some hkept.symm
    | some p =>
      rw [Option.bind_some]
      cases rules.get? p.raw with
      | none => exact congrArg some hkept.symm
      | some new =>
        dsimp only
        split
        · rename_i hsame
          rw [Option.getD_some, hsame]
          exact congrArg some hkept.symm
        · rename_i hdiffers
          rw [Option.toList_some, replay?_singleton, afterChange?]
          dsimp only
          rw [if_pos ⟨hlookup, fun heq => hdiffers heq.symm⟩, Entries.map_at h]
          simp

/-- The changes to entries that are still to come leave what is left of these behind the others. -/
theorem replay?_entryChanges {front entries : List (Text × Text)}
    (h : (Entries.keys (front ++ entries)).Nodup) :
    replay? (entries.filterMap fun e => entryChange? scope policy rules e.1 e.2)
        (front ++ entries) =
      some (front ++ entries.filterMap (remainsOf? policy rules)) := by
  induction entries generalizing front with
  | nil => rfl
  | cons e rest ih =>
    have hchanges : (e :: rest).filterMap (fun e => entryChange? scope policy rules e.1 e.2) =
        (entryChange? scope policy rules e.1 e.2).toList ++
          rest.filterMap fun e => entryChange? scope policy rules e.1 e.2 := by
      rw [List.filterMap_cons]
      cases entryChange? scope policy rules e.1 e.2 <;> rfl
    have hentries : (e :: rest).filterMap (remainsOf? policy rules) =
        (remainsOf? policy rules e).toList ++ rest.filterMap (remainsOf? policy rules) := by
      rw [List.filterMap_cons]
      cases remainsOf? policy rules e <;> rfl
    have hrest : (Entries.keys (front ++ (remainsOf? policy rules e).toList ++ rest)).Nodup := by
      cases hedited : remainsOf? policy rules e with
      | none =>
        have hsub : (front ++ rest).Sublist (front ++ e :: rest) :=
          (List.sublist_cons_self e rest).append_left front
        rw [Option.toList_none, List.append_nil]
        exact (hsub.map Prod.fst).nodup h
      | some d =>
        have hkeys : Entries.keys (front ++ [d] ++ rest) = Entries.keys (front ++ e :: rest) := by
          simp [Entries.keys, key_of_remainsOf? hedited]
        rw [Option.toList_some, hkeys]
        exact h
    rw [hchanges, replay?_append, replay?_entryChange h, Option.bind_some, ih hrest, hentries,
      List.append_assoc]

/-! ## Rules that match no entry -/

/-- The changes of idle rules put the packages that they add behind the entries. -/
theorem replay?_idleChanges {idle : List (Pattern × Text)} {entries : List (Text × Text)}
    (h : (Entries.keys (entries ++
      (idle.filter fun r => adds policy r.1).map fun r => (r.1.raw, r.2))).Nodup) :
    replay? (idle.map (idleChange scope policy)) entries =
      some (entries ++ (idle.filter fun r => adds policy r.1).map fun r => (r.1.raw, r.2)) := by
  induction idle generalizing entries with
  | nil => simp [replay?]
  | cons r rest ih =>
    rw [List.filter_cons] at h ⊢
    rw [List.map_cons, replay?]
    cases hadds : adds policy r.1 with
    | false =>
      rw [hadds] at h
      rw [idleChange, hadds]
      exact ih h
    | true =>
      rw [hadds, if_pos rfl, List.map_cons] at h
      have hnew : entries.lookup r.1.raw = none :=
        Entries.lookup_eq_none_iff.2 (Entries.not_mem_sides h).1
      rw [idleChange, hadds, if_pos rfl, if_pos rfl, afterChange?]
      dsimp only
      rw [if_pos hnew, Option.bind_some, ih (by simpa using h)]
      simp

/-- The changes that rules report lead from the map before to the map after. -/
theorem replay?_applyRules (links : Option Links) :
    replay? (applyRules scope policy rules links).2 (links.getD .empty).entries =
      some ((applyRules scope policy rules links).1.getD .empty).entries := by
  have hentries : replay? ((links.getD .empty).entries.filterMap fun e =>
      entryChange? scope policy rules e.1 e.2) (links.getD .empty).entries =
        some (editEntries policy rules (links.getD .empty)).entries := by
    have hdistinct : (Entries.keys ([] ++ (links.getD .empty).entries)).Nodup :=
      (links.getD OrderedMap.empty).distinct
    rw [entries_editEntries]
    exact replay?_entryChanges hdistinct
  rw [entries_applyRules, ← idle_adds_eq_added]
  rw [applyRules_eq]
  dsimp only
  rw [replay?_append, hentries, Option.bind_some]
  refine replay?_idleChanges ?_
  rw [idle_adds_eq_added]
  exact nodup_edited_added

/-! ## Changes without effect -/

theorem eq_of_afterChange? {c : Change} (h : c.kind.isEffective = false)
    {entries after : List (Text × Text)} (hafter : afterChange? entries c = some after) :
    after = entries := by
  unfold afterChange? at hafter
  split at hafter
  · rename_i hkind _ _
    rw [hkind] at h
    cases h
  · rename_i hkind _ _
    rw [hkind] at h
    cases h
  · rename_i hkind _ _
    rw [hkind] at h
    cases h
  · split at hafter
    · cases hafter
      rfl
    · cases hafter
  · cases hafter
    rfl
  · cases hafter

/-- Changes without effect lead nowhere. -/
theorem eq_of_replay? {cs : List Change} (h : ∀ c ∈ cs, c.kind.isEffective = false)
    {entries after : List (Text × Text)} (hreplay : replay? cs entries = some after) :
    after = entries := by
  induction cs generalizing entries with
  | nil => exact (Option.some.inj hreplay).symm
  | cons c rest ih =>
    rw [List.forall_mem_cons] at h
    obtain ⟨next, hnext, hrest⟩ := Option.bind_eq_some_iff.1 hreplay
    rw [ih h.2 hrest, eq_of_afterChange? h.1 hnext]

/-- Rules that report no effect change nothing. -/
theorem applyRules_eq_of_idle {links : Option Links}
    (h : ∀ c ∈ (applyRules scope policy rules links).2, c.kind.isEffective = false) :
    (applyRules scope policy rules links).1 = links :=
  applyRules_eq_of_entries scope (eq_of_replay? h (replay?_applyRules links))

/-! ## Changes with an effect -/

/-- The keys of the changes that have an effect. -/
def effectiveKeys (cs : List Change) : List Text :=
  (cs.filter fun c => c.kind.isEffective).map Change.key

theorem effectiveKeys_cons (c : Change) (rest : List Change) :
    effectiveKeys (c :: rest) =
      if c.kind.isEffective then c.key :: effectiveKeys rest else effectiveKeys rest := by
  rw [effectiveKeys, List.filter_cons]
  split <;> rfl

theorem mem_effectiveKeys {cs : List Change} {c : Change} (hc : c ∈ cs)
    (h : c.kind.isEffective = true) : c.key ∈ effectiveKeys cs :=
  List.mem_map_of_mem (List.mem_filter.2 ⟨hc, h⟩)

/-- A change with an effect alters the entry under its key and no other. -/
theorem lookup_afterChange? {c : Change} (h : c.kind.isEffective = true)
    {entries after : List (Text × Text)} (hafter : afterChange? entries c = some after) :
    after.lookup c.key ≠ entries.lookup c.key ∧
      ∀ key, key ≠ c.key → after.lookup key = entries.lookup key := by
  unfold afterChange? at hafter
  split at hafter
  case h_1 =>
    split at hafter
    · rename_i old _ _ _ hold
      cases hafter
      have hlookup := Entries.lookup_filter entries fun key => key ≠ c.key
      refine ⟨?_, fun key hkey => ?_⟩
      · rw [hlookup, hold]
        simp
      · rw [hlookup, if_pos (decide_eq_true hkey)]
    · cases hafter
  case h_2 =>
    split at hafter
    · rename_i new _ _ _ hnone
      cases hafter
      refine ⟨?_, fun key hkey => ?_⟩
      · rw [List.lookup_append, hnone, Entries.lookup_cons_eq]
        simp
      · rw [List.lookup_append, Entries.lookup_cons_eq, if_neg hkey]
        exact Option.or_none
    · cases hafter
  case h_3 =>
    split at hafter
    · rename_i old new _ _ _ hdiffers
      cases hafter
      have hlookup := Entries.lookup_map_at entries c.key new
      refine ⟨?_, fun key hkey => ?_⟩
      · rw [hlookup, if_pos rfl, hdiffers.1, Option.map_some]
        exact fun heq => hdiffers.2 (Option.some.inj heq).symm
      · rw [hlookup, if_neg hkey]
    · cases hafter
  case h_4 hkind _ _ =>
    rw [hkind] at h
    cases h
  case h_5 hkind _ _ =>
    rw [hkind] at h
    cases h
  case h_6 => cases hafter

variable {cs : List Change} {entries after : List (Text × Text)}

theorem lookup_replay?_of_not_mem (h : replay? cs entries = some after) {key : Text}
    (hkey : key ∉ effectiveKeys cs) : after.lookup key = entries.lookup key := by
  induction cs generalizing entries with
  | nil =>
    cases h
    rfl
  | cons c rest ih =>
    obtain ⟨next, hnext, hrest⟩ := Option.bind_eq_some_iff.1 h
    rw [effectiveKeys_cons] at hkey
    cases heffective : c.kind.isEffective with
    | true =>
      rw [heffective, if_pos rfl, List.mem_cons, not_or] at hkey
      rw [ih hrest hkey.2, (lookup_afterChange? heffective hnext).2 key hkey.1]
    | false =>
      rw [heffective, if_neg Bool.false_ne_true] at hkey
      rw [ih hrest hkey, eq_of_afterChange? heffective hnext]

/-- A package that is changed once is not left as it was. -/
theorem lookup_replay?_ne (h : replay? cs entries = some after) (honce : (effectiveKeys cs).Nodup)
    {c : Change} (hc : c ∈ cs) (heffective : c.kind.isEffective = true) :
    after.lookup c.key ≠ entries.lookup c.key := by
  induction cs generalizing entries with
  | nil => cases hc
  | cons d rest ih =>
    obtain ⟨next, hnext, hrest⟩ := Option.bind_eq_some_iff.1 h
    rw [effectiveKeys_cons] at honce
    cases hd : d.kind.isEffective with
    | true =>
      rw [hd, if_pos rfl, List.nodup_cons] at honce
      obtain ⟨hself, hothers⟩ := lookup_afterChange? hd hnext
      rcases List.mem_cons.1 hc with rfl | hc
      · rw [lookup_replay?_of_not_mem hrest honce.1]
        exact hself
      · have hkey : c.key ≠ d.key := fun heq => honce.1 (heq ▸ mem_effectiveKeys hc heffective)
        rw [← hothers c.key hkey]
        exact ih hrest honce.2 hc
    | false =>
      rw [hd, if_neg Bool.false_ne_true] at honce
      rcases List.mem_cons.1 hc with rfl | hc
      · rw [heffective] at hd
        cases hd
      · rw [← eq_of_afterChange? hd hnext]
        exact ih hrest honce hc

end Links

end ManifestEdit
