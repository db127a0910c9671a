import ManifestEdit.Proofs.Document.Faults
import ManifestEdit.Proofs.Entries
import Mathlib.Data.List.Nodup

/-!
# What documents write

The entries of a record stand in the order in which its keys were read, whatever the order in which
its fields are declared.
-/

namespace ManifestEdit

theorem Text.repaired_of_isWhole {t : Text} (h : t.isWhole = true) : t.repaired = t := by
  have hletters : ∀ ls : List Letter, (ls.all fun l => !l.isHalf) = true →
      (ls.flatMap Letter.readable).map Letter.char = ls := by
    intro ls
    induction ls with
    | nil => exact fun _ => rfl
    | cons l rest ih =>
      intro hall
      rw [List.all_cons, Bool.and_eq_true] at hall
      cases l with
      | char c => simp [Letter.readable, ih hall.2]
      | half offset => cases hall.1
  obtain ⟨letters⟩ := t
  simp only [repaired, readable, ofString, ofChars, String.toList_ofList]
  rw [hletters letters h]

/-! ## Arranged entries -/

/-- Looking up every key of the order yields the entries in that order. -/
theorem filterMap_lookup_of_sublist {order : List Text} {entries : List (Text × Json)}
    (horder : order.Nodup) (hsub : (Entries.keys entries).Sublist order) :
    order.filterMap (fun k => (entries.lookup k).map (k, ·)) = entries := by
  generalize hkeys : Entries.keys entries = keys at hsub
  induction hsub generalizing entries with
  | slnil =>
    rw [List.map_eq_nil_iff.1 hkeys]
    rfl
  | @cons keys order k hsub ih =>
    rw [List.nodup_cons] at horder
    have hnone : entries.lookup k = none := by
      rw [Entries.lookup_eq_none_iff, hkeys]
      exact fun hk => horder.1 (hsub.subset hk)
    rw [List.filterMap_cons, hnone, Option.map_none]
    exact ih horder.2 hkeys
  | @cons_cons keys order k hsub ih =>
    rw [List.nodup_cons] at horder
    cases entries with
    | nil => cases hkeys
    | cons e rest =>
      obtain ⟨key, value⟩ := e
      rw [Entries.keys, List.map_cons, List.cons.injEq] at hkeys
      obtain ⟨rfl, hrest⟩ := hkeys
      have htail : order.filterMap (fun k => (List.lookup k ((key, value) :: rest)).map (k, ·)) =
          order.filterMap (fun k => (rest.lookup k).map (k, ·)) := by
        refine List.filterMap_congr fun j hj => ?_
        have hne : j ≠ key := fun h => horder.1 (h ▸ hj)
        rw [Entries.lookup_cons_eq, if_neg hne]
      rw [List.filterMap_cons, Entries.lookup_cons_eq, if_pos rfl, Option.map_some]
      dsimp only
      rw [htail, ih horder.2 hrest]

theorem eraseDups_of_nodup {order : List Text} (h : order.Nodup) : order.eraseDups = order := by
  induction order with
  | nil => rfl
  | cons k rest ih =>
    rw [List.nodup_cons] at h
    have hrest : (rest.filter fun b => !b == k) = rest := by
      rw [List.filter_eq_self]
      intro b hb
      have hne : b ≠ k := fun heq => h.1 (heq ▸ hb)
      simp [hne]
    rw [List.eraseDups_cons, hrest, ih h.2]

/-- Entries whose keys are all in the order come out in it. -/
theorem arrange_eq {order : List Text} {given entries : List (Text × Json)}
    (horder : order.Nodup) (hsub : (Entries.keys entries).Sublist order)
    (hgiven : (Entries.keys given).Nodup) (hsame : ∀ e, e ∈ given ↔ e ∈ entries) :
    arrange order given = entries := by
  have hentries : (Entries.keys entries).Nodup := hsub.nodup horder
  have hlookup : ∀ k, given.lookup k = entries.lookup k := by
    intro k
    refine Option.ext fun v => ?_
    rw [Entries.lookup_eq_some_iff hgiven, Entries.lookup_eq_some_iff hentries, hsame]
  have hrest : (given.filter fun e => !order.contains e.1) = [] := by
    rw [List.filter_eq_nil_iff]
    intro e he
    have hmem : e.1 ∈ order :=
      hsub.subset (Entries.mem_keys.2 ⟨e.2, (hsame e).1 he⟩)
    simp [hmem]
  simp only [arrange, hrest, List.append_nil, hlookup, eraseDups_of_nodup horder]
  exact filterMap_lookup_of_sublist horder hsub

theorem nodup_eraseDups {α : Type} [BEq α] [LawfulBEq α] (order : List α) :
    order.eraseDups.Nodup := by
  generalize hlength : order.length = n
  induction n using Nat.strongRecOn generalizing order with
  | _ n ih =>
    cases order with
    | nil => exact List.nodup_nil
    | cons k rest =>
      rw [List.eraseDups_cons, List.nodup_cons]
      have hle := List.length_filter_le (fun b => !b == k) rest
      refine ⟨?_, ih _ ?_ _ rfl⟩
      · rw [List.mem_eraseDups, List.mem_filter]
        rintro ⟨-, hk⟩
        simp at hk
      · rw [← hlength, List.length_cons]
        omega

theorem mem_of_mem_arrange {order : List Text} {entries : List (Text × Json)} {e : Text × Json}
    (h : e ∈ arrange order entries) : e ∈ entries := by
  rw [arrange, List.mem_append, List.mem_filterMap, List.mem_filter] at h
  obtain ⟨k, -, hk⟩ | ⟨he, -⟩ := h
  · obtain ⟨v, hv, rfl⟩ := Option.map_eq_some_iff.1 hk
    exact Entries.mem_of_lookup hv
  · exact he

theorem mem_arrange_iff {order : List Text} {entries : List (Text × Json)}
    (hnodup : (Entries.keys entries).Nodup) {e : Text × Json} :
    e ∈ arrange order entries ↔ e ∈ entries := by
  refine ⟨mem_of_mem_arrange, fun he => ?_⟩
  rw [arrange, List.mem_append, List.mem_filterMap, List.mem_filter]
  by_cases hk : e.1 ∈ order
  · refine .inl ⟨e.1, List.mem_eraseDups.2 hk, ?_⟩
    rw [Entries.lookup_of_mem hnodup he, Option.map_some]
  · exact .inr ⟨he, by simp [hk]⟩

/-- Looking up keys yields those that stand among the entries. -/
theorem keys_filterMap_lookup (keys : List Text) (entries : List (Text × Json)) :
    Entries.keys (keys.filterMap fun k => (entries.lookup k).map (k, ·)) =
      keys.filter fun k => (entries.lookup k).isSome := by
  rw [Entries.keys, List.map_filterMap, ← List.filterMap_eq_filter]
  refine List.filterMap_congr fun k _ => ?_
  cases hk : entries.lookup k with
  | none => simp [Option.guard, hk]
  | some v => simp [Option.guard, hk]

theorem nodup_keys_arrange (order : List Text) {entries : List (Text × Json)}
    (hnodup : (Entries.keys entries).Nodup) : (Entries.keys (arrange order entries)).Nodup := by
  have hfirst := keys_filterMap_lookup order.eraseDups entries
  unfold Entries.keys at hfirst
  rw [Entries.keys, arrange, List.map_append, hfirst, List.nodup_append]
  refine ⟨(nodup_eraseDups order).filter _, (List.filter_sublist.map Prod.fst).nodup hnodup, ?_⟩
  intro k hk l hl heq
  obtain ⟨e, he, rfl⟩ := List.mem_map.1 hl
  have hmem := List.mem_eraseDups.1 (List.mem_filter.1 hk).1
  rw [heq] at hmem
  have hnot := (List.mem_filter.1 he).2
  simp [hmem] at hnot

/-- The entries of a record are arranged and not changed. -/
theorem arrange_perm (order : List Text) {entries : List (Text × Json)}
    (hnodup : (Entries.keys entries).Nodup) : (arrange order entries).Perm entries := by
  refine (List.perm_ext_iff_of_nodup ?_ ?_).2 fun e => mem_arrange_iff hnodup
  · exact List.Nodup.of_map _ (nodup_keys_arrange order hnodup)
  · exact List.Nodup.of_map _ hnodup

/-- Each key is found with its value, whatever the order. -/
theorem lookup_arrange (order : List Text) (entries : List (Text × Json)) (key : Text) :
    (arrange order entries).lookup key = entries.lookup key := by
  have hlast := Entries.lookup_filter entries (fun k => !order.contains k) key
  rw [arrange, List.lookup_append, Entries.lookup_filterMap, hlast]
  by_cases hkey : key ∈ order
  · simp [hkey]
  · simp [hkey]

theorem keys_arrange (order : List Text) (entries : List (Text × Json)) :
    Entries.keys (arrange order entries) =
      order.eraseDups.filter (fun k => decide (k ∈ Entries.keys entries)) ++
        (Entries.keys entries).filter fun k => !order.contains k := by
  have hpresent : ∀ k, (entries.lookup k).isSome = decide (k ∈ Entries.keys entries) := by
    intro k
    rw [Bool.eq_iff_iff, Entries.isSome_lookup, decide_eq_true_iff]
  have hfirst := keys_filterMap_lookup order.eraseDups entries
  simp only [hpresent] at hfirst
  rw [← hfirst, Entries.keys, arrange, List.map_append, Entries.keys, Entries.keys,
    List.filter_map]
  rfl

/-- Where entries are added, those that were there stand in the same order as before. -/
theorem keys_arrange_sublist (order : List Text) {before after : List (Text × Json)}
    (h : (Entries.keys before).Sublist (Entries.keys after)) :
    (Entries.keys (arrange order before)).Sublist (Entries.keys (arrange order after)) := by
  rw [keys_arrange, keys_arrange]
  refine List.Sublist.append (List.monotone_filter_right _ fun k hk => ?_) (h.filter _)
  rw [decide_eq_true_iff] at hk ⊢
  exact h.subset hk

/-- Entries that are not in the order come out last, and a key in it counts once. -/
theorem arrange_append {order more : List Text} {entries last : List (Text × Json)}
    (hmore : ∀ k ∈ more, k ∈ order) (hlast : ∀ e ∈ last, e.1 ∉ order) :
    arrange (order ++ more) (entries ++ last) = arrange order entries ++ last := by
  have hdups : (order ++ more).eraseDups = order.eraseDups := by
    have hnone : more.removeAll order = [] := by
      rw [List.removeAll, List.filter_eq_nil_iff]
      exact fun k hk => by simp [hmore k hk]
    rw [List.eraseDups_append, hnone, List.eraseDups_nil, List.append_nil]
  have hlookup : ∀ k ∈ order.eraseDups, (entries ++ last).lookup k = entries.lookup k := by
    intro k hk
    have hnone : last.lookup k = none := by
      rw [Entries.lookup_eq_none_iff]
      intro hmem
      obtain ⟨v, hv⟩ := Entries.mem_keys.1 hmem
      exact hlast _ hv (List.mem_eraseDups.1 hk)
    rw [List.lookup_append, hnone, Option.or_none]
  have hcontains : ∀ k, (order ++ more).contains k = order.contains k := by
    intro k
    rw [Bool.eq_iff_iff, List.contains_iff_mem, List.contains_iff_mem, List.mem_append]
    exact ⟨fun h => h.elim id (hmore k), .inl⟩
  have hkept : last.filter (fun e => !order.contains e.1) = last :=
    List.filter_eq_self.2 fun e he => by simp [hlast e he]
  have hfirst : order.eraseDups.filterMap (fun k => ((entries ++ last).lookup k).map (k, ·)) =
      order.eraseDups.filterMap fun k => (entries.lookup k).map (k, ·) :=
    List.filterMap_congr fun k hk => by rw [hlookup k hk]
  simp only [arrange, hdups, hfirst, hcontains, List.filter_append, hkept, List.append_assoc]

/-! ## Other keys -/

/-- A key that is written is written as it was read. -/
theorem Unknown.eq_of_entry? {u : Unknown} {e : Text × Json} (h : u.entry? = some e) :
    e = (u.key, u.value.finiteOnly) := by
  unfold Unknown.entry? at h
  dsimp only at h
  split at h
  · cases h
  · exact (Option.some.inj h).symm

theorem Unknown.key_of_entry? {u : Unknown} {e : Text × Json} (h : u.entry? = some e) :
    e.1 = u.key :=
  congrArg Prod.fst (Unknown.eq_of_entry? h)

/-- A key that is not written holds null. -/
theorem Unknown.finiteOnly_of_not_entry? {u : Unknown} (h : u.entry? = none) :
    u.value.finiteOnly = .null := by
  unfold Unknown.entry? at h
  dsimp only at h
  split at h
  · rename_i hnull
    exact Json.eq_null_of_isNull (Bool.and_eq_true_iff.1 hnull).2
  · cases h

theorem filterMap_sublist_filterMap {α β : Type} {g h : α → Option β} {as : List α}
    (hsome : ∀ a ∈ as, ∀ b, g a = some b → h a = some b) :
    (as.filterMap g).Sublist (as.filterMap h) := by
  induction as with
  | nil => exact .slnil
  | cons a rest ih =>
    rw [List.forall_mem_cons] at hsome
    rw [List.filterMap_cons, List.filterMap_cons]
    cases hg : g a with
    | none =>
      cases h a with
      | none => exact ih hsome.2
      | some b => exact (ih hsome.2).cons b
    | some b =>
      rw [hsome.1 b hg]
      exact (ih hsome.2).cons_cons b

theorem keys_filterMap_entry?_sublist (unknown : List Unknown) :
    (Entries.keys (unknown.filterMap Unknown.entry?)).Sublist (unknown.map Unknown.key) := by
  rw [Entries.keys, List.map_filterMap, ← List.filterMap_eq_map']
  refine filterMap_sublist_filterMap fun u _ k hk => ?_
  obtain ⟨e, he, rfl⟩ := Option.map_eq_some_iff.1 hk
  rw [Unknown.key_of_entry? he]

/-! ## The value of a document -/

namespace Document

theorem itemsToJson_eq_map (items : List Document) : itemsToJson items = items.map toJson := by
  induction items with
  | nil => rfl
  | cons d rest ih => rw [itemsToJson, ih, List.map_cons]

theorem entriesToJson_eq_map (entries : List (Text × Document)) :
    entriesToJson entries = entries.map fun e => (e.1, e.2.toJson) := by
  induction entries with
  | nil => rfl
  | cons e rest ih => rw [entriesToJson, ih, List.map_cons]

/-- Whole keys are written as they are. -/
theorem wholeKeys_of_isWhole {entries : List (Text × Json)}
    (hwhole : ∀ e ∈ entries, e.1.isWhole = true) (hnodup : (Entries.keys entries).Nodup) :
    wholeKeys entries = entries := by
  have hsame : entries.map (fun e => (e.1.repaired, e.2)) = entries.map id :=
    List.map_congr_left fun e he => by rw [Text.repaired_of_isWhole (hwhole e he), id]
  rw [wholeKeys, hsame, List.map_id, Entries.ofPairs_of_nodup hnodup]

end Document

end ManifestEdit
