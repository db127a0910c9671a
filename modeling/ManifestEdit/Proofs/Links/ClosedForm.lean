import ManifestEdit.Apply.Links
import ManifestEdit.Proofs.Entries
import ManifestEdit.Proofs.Pattern.Selection

/-!
# Rules without a loop

The edits of the selected entries do not meet: an entry is kept, dropped or overwritten by what its
own name matches (`foldl_editEntry`), and the rules that are idle are those whose pattern matches no
entry of the map before. So the loops come to one edit of the map, with the added packages behind it
(`applyRules_eq`).
-/

namespace ManifestEdit

namespace Entries

variable {α : Type} {front back : List (Text × α)} {key : Text} {old : α}

/-- The key of an entry does not stand before it. -/
theorem not_mem_keys_front (h : (keys (front ++ (key, old) :: back)).Nodup) : key ∉ keys front := by
  unfold keys at h ⊢
  rw [List.map_append, List.map_cons] at h
  intro hkey
  exact (List.nodup_append.1 h).2.2 key hkey key List.mem_cons_self rfl

theorem not_mem_keys_back (h : (keys (front ++ (key, old) :: back)).Nodup) : key ∉ keys back := by
  unfold keys at h ⊢
  rw [List.map_append, List.map_cons] at h
  exact (List.nodup_cons.1 (List.nodup_append.1 h).2.1).1

theorem lookup_middle (h : (keys (front ++ (key, old) :: back)).Nodup) :
    (front ++ (key, old) :: back).lookup key = some old := by
  rw [List.lookup_append, lookup_eq_none_iff.2 (not_mem_keys_front h), Option.none_or,
    lookup_cons_eq, if_pos rfl]

theorem put_middle (h : (keys (front ++ (key, old) :: back)).Nodup) (new : α) :
    put key new (front ++ (key, old) :: back) = front ++ (key, new) :: back := by
  have hfront := not_mem_keys_front h
  clear h
  induction front with
  | nil => rw [List.nil_append, put, if_pos rfl, List.nil_append]
  | cons e rest ih =>
    rw [keys, List.map_cons, List.mem_cons, not_or] at hfront
    rw [List.cons_append, put, if_neg (Ne.symm hfront.1), ih hfront.2, List.cons_append]

theorem filter_ne_of_not_mem {entries : List (Text × α)} (h : key ∉ keys entries) :
    entries.filter (fun e => decide (e.1 ≠ key)) = entries := by
  rw [List.filter_eq_self]
  intro e he
  rw [decide_eq_true_iff]
  rintro rfl
  exact h (List.mem_map_of_mem he)

theorem filter_ne_middle (h : (keys (front ++ (key, old) :: back)).Nodup) :
    (front ++ (key, old) :: back).filter (fun e => decide (e.1 ≠ key)) = front ++ back := by
  rw [List.filter_append, filter_ne_of_not_mem (not_mem_keys_front h), List.filter_cons,
    filter_ne_of_not_mem (not_mem_keys_back h)]
  simp

end Entries

namespace OrderedMap

variable {α : Type} {m : OrderedMap α} {front back : List (Text × α)} {key : Text} {old : α}

theorem get?_middle (hm : m.entries = front ++ (key, old) :: back) : m.get? key = some old := by
  rw [get?, hm, Entries.lookup_middle (hm ▸ m.distinct)]

theorem entries_put_middle (hm : m.entries = front ++ (key, old) :: back) (new : α) :
    (m.put key new).entries = front ++ (key, new) :: back := by
  rw [← Entries.put_middle (hm ▸ m.distinct) new, ← hm]
  rfl

theorem entries_erase_middle (hm : m.entries = front ++ (key, old) :: back) :
    (m.erase key).entries = front ++ back := by
  rw [← Entries.filter_ne_middle (hm ▸ m.distinct), ← hm]
  rfl

end OrderedMap

namespace Links

variable (scope : Scope) (policy : MergePolicy) (rules : Rules Text)

/-- Whether some pattern matches a package. -/
def isSelected (rules : Rules Text) (package : Text) : Bool :=
  !(Pattern.matching rules.patterns package).isEmpty

/-- The change to an entry that some pattern matches. -/
def entryChange? (package old : Text) : Option Change :=
  match policy with
  | .delete =>
    (Pattern.matching rules.patterns package).head?.map fun p =>
      ⟨scope.pass, scope.target, package, .removed, some p.raw, .str old, .null⟩
  | .insertIfAbsent =>
    (Pattern.matching rules.patterns package).head?.map fun p =>
      ⟨scope.pass, scope.target, package, .skipped, some p.raw, .str old, .null⟩
  | .overwrite | .overwriteIfPresent =>
    match rules.winner? package, rules.resolve? package with
    | some p, some new =>
      if new = old then none
      else
        some ⟨scope.pass, scope.target, package, .replaced, some p.raw, .str old, .str new⟩
    | _, _ => none

/-- The entries after the rules that match them. -/
def editEntries (entries : Links) : Links :=
  match policy with
  | .delete => entries.filterKeys fun package => !isSelected rules package
  | .insertIfAbsent => entries
  | .overwrite | .overwriteIfPresent =>
    entries.mapEntries fun package old => (rules.resolve? package).getD old

/-- The rules whose pattern matches no entry. -/
def idleRules (rules : Rules Text) (entries : Links) : List (Pattern × Text) :=
  (rules.entries.map fun e => (Pattern.mk e.1, e.2)).filter fun r =>
    !entries.keys.any r.1.accepts

def insertIdle (idle : List (Pattern × Text)) (entries : Links) : Links :=
  (idle.filter fun r => adds policy r.1).foldl (fun m r => m.put r.1.raw r.2) entries

variable {scope policy rules}

/-! ## Selected entries -/

/-- What is left of an entry. -/
def remainsOf? (policy : MergePolicy) (rules : Rules Text) (e : Text × Text) :
    Option (Text × Text) :=
  match policy with
  | .delete => if isSelected rules e.1 then none else some e
  | .insertIfAbsent => some e
  | .overwrite | .overwriteIfPresent => some (e.1, (rules.resolve? e.1).getD e.2)

theorem entries_editEntries (entries : Links) :
    (editEntries policy rules entries).entries =
      entries.entries.filterMap (remainsOf? policy rules) := by
  cases policy with
  | delete =>
    unfold editEntries OrderedMap.filterKeys
    dsimp only
    rw [← List.filterMap_eq_filter]
    refine congrArg (fun f => List.filterMap f entries.entries) (funext fun e => ?_)
    cases h : isSelected rules e.1 <;> simp [remainsOf?, Option.guard, h]
  | insertIfAbsent => exact List.filterMap_some.symm
  | overwrite | overwriteIfPresent =>
    unfold editEntries OrderedMap.mapEntries
    dsimp only
    rw [← List.filterMap_eq_map']
    rfl

section Middle

variable {m : Links} {front back : List (Text × Text)} {key old : Text}

/-- An entry that some pattern matches is overwritten where it stands. -/
theorem overwriteEntry_middle (hm : m.entries = front ++ (key, old) :: back)
    (hpolicy : policy.overwrites = true) {first : Pattern} {others : List Pattern}
    (hits : Pattern.matching rules.patterns key = first :: others) (changes : List Change) :
    ∃ m', editEntry scope policy rules (m, changes) key (first :: others) =
        (m', changes ++ (entryChange? scope policy rules key old).toList) ∧
      m'.entries = front ++ ((remainsOf? policy rules (key, old)).toList ++ back) := by
  have hget := OrderedMap.get?_middle hm
  have hwinner : rules.winner? key = Pattern.mostSpecific (first :: others) := by
    rw [Rules.winner?, hits]
  cases policy with
  | delete => cases hpolicy
  | insertIfAbsent => cases hpolicy
  | overwrite | overwriteIfPresent =>
    cases hbest : Pattern.mostSpecific (first :: others) with
    | none =>
      have hresolve : rules.resolve? key = none := by
        rw [Rules.resolve?, hwinner, hbest, Option.bind_none]
      refine ⟨m, ?_, ?_⟩
      · simp [editEntry, hget, entryChange?, hwinner, hbest]
      · simp [remainsOf?, hresolve, hm]
    | some winner =>
      have hresolve : rules.resolve? key = rules.get? winner.raw := by
        rw [Rules.resolve?, hwinner, hbest, Option.bind_some]
      cases hvalue : rules.get? winner.raw with
      | none =>
        refine ⟨m, ?_, ?_⟩
        · simp [editEntry, hget, entryChange?, hwinner, hbest, hresolve, hvalue]
        · simp [remainsOf?, hresolve, hvalue, hm]
      | some new =>
        by_cases hnew : new = old
        · refine ⟨m, ?_, ?_⟩
          · simp [editEntry, hget, entryChange?, hwinner, hbest, hresolve, hvalue, hnew]
          · simp [remainsOf?, hresolve, hvalue, hnew, hm]
        · have hput := OrderedMap.entries_put_middle hm new
          refine ⟨m.put key new, ?_, ?_⟩
          · simp [editEntry, hget, entryChange?, hwinner, hbest, hresolve, hvalue, hnew]
          · simp [remainsOf?, hresolve, hvalue, hput]

/-- An entry is edited where it stands, whatever became of the entries before it. -/
theorem editEntry_middle (hm : m.entries = front ++ (key, old) :: back)
    (changes : List Change) :
    ∃ m', editEntry scope policy rules (m, changes) key (Pattern.matching rules.patterns key) =
        (m', changes ++ (entryChange? scope policy rules key old).toList) ∧
      m'.entries = front ++ ((remainsOf? policy rules (key, old)).toList ++ back) := by
  have hget := OrderedMap.get?_middle hm
  cases hits : Pattern.matching rules.patterns key with
  | nil =>
    have hwinner : rules.winner? key = none := by
      rw [Rules.winner?, hits]
      rfl
    have hresolve : rules.resolve? key = none := by
      rw [Rules.resolve?, hwinner]
      rfl
    refine ⟨m, ?_, ?_⟩
    · cases policy <;> simp [editEntry, hget, entryChange?, hits, hwinner]
    · cases policy <;> simp [remainsOf?, isSelected, hits, hresolve, hm]
  | cons first others =>
    cases policy with
    | delete =>
      have herase := OrderedMap.entries_erase_middle hm
      exact ⟨m.erase key, by simp [editEntry, hget, entryChange?, hits],
        by simp [remainsOf?, isSelected, hits, herase]⟩
    | insertIfAbsent =>
      exact ⟨m, by simp [editEntry, hget, entryChange?, hits], by simp [remainsOf?, hm]⟩
    | overwrite => exact overwriteEntry_middle hm rfl hits changes
    | overwriteIfPresent => exact overwriteEntry_middle hm rfl hits changes

end Middle

/-- The loop over the entries that are left edits each of them and reports its change. -/
theorem foldl_editEntry {m : Links} {front back : List (Text × Text)}
    (hm : m.entries = front ++ back) (changes : List Change) :
    ∃ m', (Entries.keys back).foldl (fun done k =>
          editEntry scope policy rules done k (Pattern.matching rules.patterns k)) (m, changes) =
        (m', changes ++ back.filterMap fun e => entryChange? scope policy rules e.1 e.2) ∧
      m'.entries = front ++ back.filterMap (remainsOf? policy rules) := by
  induction back generalizing m front changes with
  | nil => exact ⟨m, by simp [Entries.keys], by simpa using hm⟩
  | cons e back ih =>
    obtain ⟨next, hnext, hentries⟩ := editEntry_middle hm changes
    rw [← List.append_assoc] at hentries
    obtain ⟨m', hfold, hm'⟩ := ih hentries
      (changes ++ (entryChange? scope policy rules e.1 e.2).toList)
    refine ⟨m', ?_, ?_⟩
    · have hkeys : Entries.keys (e :: back) = e.1 :: Entries.keys back := rfl
      rw [hkeys, List.foldl_cons, hnext, hfold, List.filterMap_cons, List.append_assoc]
      cases entryChange? scope policy rules e.1 e.2 <;> rfl
    · rw [hm', List.filterMap_cons, List.append_assoc]
      cases remainsOf? policy rules e <;> rfl

/-- An entry that no pattern matches is passed over. -/
theorem editEntry_nil (done : Links × List Change) (package : Text) :
    editEntry scope policy rules done package [] = done := by
  unfold editEntry
  split
  · rename_i h
    cases h
  · rfl

theorem foldl_select (names : List Text) (start : Links × List Change) :
    (Pattern.select names rules.patterns).foldl
        (fun done e => editEntry scope policy rules done e.1 e.2) start =
      names.foldl (fun done k =>
        editEntry scope policy rules done k (Pattern.matching rules.patterns k)) start := by
  rw [Pattern.select, List.foldl_filterMap]
  congr 1
  funext done k
  cases Pattern.matching rules.patterns k with
  | nil => exact (editEntry_nil done k).symm
  | cons p rest => rfl

/-! ## Idle rules -/

/-- A pattern is among those that match some entry exactly when it matches one. -/
theorem mem_flatMap_select {names : List Text} {p : Pattern} (hp : p ∈ rules.patterns) :
    p ∈ (Pattern.select names rules.patterns).flatMap Prod.snd ↔ names.any p.accepts = true := by
  rw [List.mem_flatMap, List.any_eq_true]
  constructor
  · rintro ⟨⟨name, hits⟩, hselected, hp⟩
    obtain ⟨hname, rfl, -⟩ := Pattern.mem_select_iff.1 hselected
    exact ⟨name, hname, (List.mem_filter.1 hp).2⟩
  · rintro ⟨name, hname, haccepts⟩
    have hmatching : p ∈ Pattern.matching rules.patterns name := List.mem_filter.2 ⟨hp, haccepts⟩
    exact ⟨(name, _), Pattern.mem_select_iff.2 ⟨hname, rfl, List.ne_nil_of_mem hmatching⟩,
      hmatching⟩

theorem idleRules_eq (entries : Links) :
    ((rules.entries.map fun e => (Pattern.mk e.1, e.2)).filter fun r =>
        !((Pattern.select entries.keys rules.patterns).flatMap Prod.snd).contains r.1) =
      idleRules rules entries := by
  refine List.filter_congr fun r hr => ?_
  obtain ⟨e, he, rfl⟩ := List.mem_map.1 hr
  have hp : Pattern.mk e.1 ∈ rules.patterns := List.mem_map_of_mem (List.mem_map_of_mem he)
  rw [Bool.eq_iff_iff, Bool.not_eq_true', Bool.not_eq_true', Bool.eq_false_iff, Bool.eq_false_iff,
    ne_eq, ne_eq, List.contains_iff_mem, mem_flatMap_select hp]

theorem foldl_settleIdle (idle : List (Pattern × Text)) (done : Links × List Change) :
    idle.foldl (settleIdle scope policy) done =
      (insertIdle policy idle done.1, done.2 ++ idle.map (idleChange scope policy)) := by
  induction idle generalizing done with
  | nil => simp [insertIdle]
  | cons rule idle ih =>
    rw [List.foldl_cons, ih]
    cases hadds : adds policy rule.1 <;> simp [settleIdle, insertIdle, hadds]

/-! ## The whole -/

variable (scope policy rules)

/-- The rules edit the entries that they match and add the packages of idle rules; the changes are
those of the entries and then those of the idle rules. -/
theorem applyRules_eq (links : Option Links) :
    applyRules scope policy rules links =
      (let entries := links.getD OrderedMap.empty
       let idle := idleRules rules entries
       let result := insertIdle policy idle (editEntries policy rules entries)
       (if links.isNone && result.isEmpty then none else some result,
        entries.entries.filterMap (fun e => entryChange? scope policy rules e.1 e.2) ++
          idle.map (idleChange scope policy))) := by
  obtain ⟨m', hfold, hm'⟩ := @foldl_editEntry scope policy rules (links.getD OrderedMap.empty) []
    (links.getD OrderedMap.empty).entries rfl []
  have hedited : m' = editEntries policy rules (links.getD OrderedMap.empty) := by
    refine OrderedMap.ext_entries ?_
    rw [hm', entries_editEntries, List.nil_append]
  rw [hedited] at hfold
  unfold applyRules
  dsimp only
  rw [foldl_select, OrderedMap.keys, hfold, ← OrderedMap.keys, idleRules_eq, foldl_settleIdle]
  rfl

end Links

end ManifestEdit
