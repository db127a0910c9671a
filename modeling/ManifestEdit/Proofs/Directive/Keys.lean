import ManifestEdit.Directive.RuleKey
import ManifestEdit.Proofs.Entries

/-!
# Sections from keys that are texts or patterns

A section is built from its entries exactly when each of their keys is a text or a pattern. Texts
make the rules that they make in a document, and so do the texts of patterns. Otherwise each key
that is neither fails at its own place, once.
-/

namespace ManifestEdit

namespace RuleKey

variable {entries : List (RuleKey × Text)} {key : RuleKey}

def isRule (key : RuleKey) : Bool :=
  key.raw.toOption.isSome

/-- Keys that name one entry are both texts or patterns, or neither is. -/
theorem isRule_eq_of_same {k l : RuleKey} (h : same k l = true) : k.isRule = l.isRule := by
  cases k <;> cases l <;> simp [same, number?] at h <;>
    first
    | rfl
    | rename_i n
      cases n <;> rfl
    | rename_i m n
      cases m <;> cases n <;> rfl

theorem failure?_eq_none_iff : key.failure? = none ↔ key.isRule = true := by
  unfold failure? isRule
  cases key.raw <;> simp [Except.toOption]

/-! ## Repeated keys -/

/-- A key that is put stands for what stood there, or behind all. -/
theorem keys_put (key : RuleKey) (value : Text) (entries : List (RuleKey × Text)) :
    (put key value entries).map Prod.fst =
      if (entries.map Prod.fst).any (same · key) then entries.map Prod.fst
      else entries.map Prod.fst ++ [key] := by
  induction entries with
  | nil => rfl
  | cons e rest ih =>
    obtain ⟨k, v⟩ := e
    rw [put]
    cases hsame : same k key with
    | true => simp [hsame]
    | false =>
      simp only [Bool.false_eq_true, if_false, List.map_cons, ih, List.any_cons, hsame,
        Bool.false_or]
      split <;> rfl

/-- Repeated keys are dropped: no two of those that remain name one entry. -/
theorem pairwise_put (key : RuleKey) (value : Text)
    (h : (entries.map Prod.fst).Pairwise fun k l => same k l = false) :
    ((put key value entries).map Prod.fst).Pairwise fun k l => same k l = false := by
  rw [keys_put]
  split
  · exact h
  · rename_i hnew
    rw [Bool.not_eq_true, List.any_eq_false] at hnew
    refine List.pairwise_append.2 ⟨h, List.pairwise_singleton .., fun k hk l hl => ?_⟩
    rw [List.mem_singleton.1 hl]
    exact Bool.eq_false_iff.2 (hnew k hk)

/-- What the keys are after others are put, one by one. -/
structure KeysOf (before given after : List RuleKey) : Prop where
  apart : after.Pairwise fun k l => same k l = false
  kept : ∀ k ∈ before, k ∈ after
  found : ∀ k ∈ given, ∃ l ∈ after, l = k ∨ same l k = true
  only : ∀ k ∈ after, k ∈ before ∨ k ∈ given

theorem keysOf_foldl {before : List (RuleKey × Text)}
    (h : (before.map Prod.fst).Pairwise fun k l => same k l = false) :
    KeysOf (before.map Prod.fst) (entries.map Prod.fst)
      ((entries.foldl (fun m e => put e.1 e.2 m) before).map Prod.fst) := by
  induction entries generalizing before with
  | nil => exact ⟨h, fun _ hk => hk, fun _ hk => absurd hk List.not_mem_nil, fun _ => .inl⟩
  | cons e rest ih =>
    have hrest := ih (pairwise_put e.1 e.2 h)
    have hput := keys_put e.1 e.2 before
    have hkept : ∀ k ∈ before.map Prod.fst, k ∈ (put e.1 e.2 before).map Prod.fst := by
      intro k hk
      rw [hput]
      split
      · exact hk
      · exact List.mem_append_left _ hk
    refine ⟨hrest.apart, fun k hk => hrest.kept k (hkept k hk), fun k hk => ?_, fun k hk => ?_⟩
    · rcases List.mem_cons.1 hk with rfl | hk
      · by_cases hany : (before.map Prod.fst).any (same · e.1) = true
        · obtain ⟨l, hl, hsame⟩ := List.any_eq_true.1 hany
          exact ⟨l, hrest.kept l (hkept l hl), .inr hsame⟩
        · refine ⟨e.1, hrest.kept e.1 ?_, .inl rfl⟩
          rw [hput, if_neg hany]
          exact List.mem_append_right _ List.mem_cons_self
      · exact hrest.found k hk
    · refine (hrest.only k hk).elim (fun hmem => ?_) fun hmem => .inr (List.mem_cons_of_mem _ hmem)
      rw [hput] at hmem
      split at hmem
      · exact .inl hmem
      · refine (List.mem_append.1 hmem).imp_right fun hmem => ?_
        rw [List.mem_singleton.1 hmem]
        exact List.mem_cons_self

theorem keysOf_distinct (entries : List (RuleKey × Text)) :
    KeysOf [] (entries.map Prod.fst) ((distinct entries).map Prod.fst) :=
  @keysOf_foldl entries [] .nil

theorem forall_isRule_distinct :
    (∀ e ∈ distinct entries, e.1.isRule = true) ↔ ∀ e ∈ entries, e.1.isRule = true := by
  have hkeys := keysOf_distinct entries
  have hmap : ∀ es : List (RuleKey × Text), (∀ e ∈ es, e.1.isRule = true) ↔
      ∀ k ∈ es.map Prod.fst, k.isRule = true := fun es =>
    (@List.forall_mem_map _ _ Prod.fst es fun k => k.isRule = true).symm
  rw [hmap, hmap]
  constructor
  · intro h k hk
    obtain ⟨l, hl, rfl | hsame⟩ := hkeys.found k hk
    · exact h l hl
    · rw [← isRule_eq_of_same hsame]
      exact h l hl
  · exact fun h k hk => h k ((hkeys.only k hk).resolve_left List.not_mem_nil)

/-! ## Keys of one kind -/

section Named

variable {name : Text → RuleKey} (hsame : ∀ a b, same (name a) (name b) = decide (a = b))
include hsame

theorem put_named (key value : Text) (pairs : List (Text × Text)) :
    put (name key) value (pairs.map fun e => (name e.1, e.2)) =
      (Entries.put key value pairs).map fun e => (name e.1, e.2) := by
  induction pairs with
  | nil => rfl
  | cons e rest ih =>
    obtain ⟨k, v⟩ := e
    rw [List.map_cons, put, Entries.put, hsame, ih]
    split <;> simp_all

theorem distinct_named (pairs : List (Text × Text)) :
    distinct (pairs.map fun e => (name e.1, e.2)) =
      (Entries.ofPairs pairs).map fun e => (name e.1, e.2) := by
  have hfold : ∀ before : List (Text × Text),
      (pairs.map fun e => (name e.1, e.2)).foldl (fun m e => put e.1 e.2 m)
          (before.map fun e => (name e.1, e.2)) =
        (Entries.putAll before pairs).map fun e => (name e.1, e.2) := by
    induction pairs with
    | nil => exact fun _ => rfl
    | cons e rest ih =>
      intro before
      rw [List.map_cons, List.foldl_cons, put_named hsame, Entries.putAll]
      exact ih _
  exact hfold []

end Named

end RuleKey

namespace Section

open RuleKey

variable {entries : List (RuleKey × Text)}

/-- A section is built exactly when each key is a text or a pattern. -/
theorem ofKeys_eq_ok_iff {s : Section} :
    ofKeys entries = .ok s ↔ (∀ e ∈ entries, e.1.isRule = true) ∧
      s = ⟨some (.ofPairs ((distinct entries).filterMap entry?)), none, [Target.require.key]⟩ := by
  have hnone : (distinct entries).filterMap (fun e => e.1.failure?) = [] ↔
      ∀ e ∈ entries, e.1.isRule = true := by
    rw [List.filterMap_eq_nil_iff, ← forall_isRule_distinct]
    exact forall₂_congr fun _ _ => failure?_eq_none_iff
  rw [← hnone, ofKeys]
  cases (distinct entries).filterMap fun e => e.1.failure? with
  | nil => simp [eq_comm]
  | cons f rest => simp

/-- A section that cannot be built lists a failure for each key that is neither a text nor a
pattern, and no other. -/
theorem ofKeys_eq_error {e : DocumentError} (h : ofKeys entries = .error e) :
    ∃ failures, e = ⟨.invalid (visible (distinct entries)) "" failures, none⟩ ∧ failures ≠ [] ∧
      (∀ f ∈ failures, ∃ k ∈ entries.map Prod.fst, k.failure? = some f) ∧
        ∀ k ∈ entries.map Prod.fst, k.isRule = false →
          ∃ l, (l = k ∨ same l k = true) ∧ ∃ f ∈ failures, l.failure? = some f := by
  have hkeys := keysOf_distinct entries
  have hmem : ∀ f, f ∈ (distinct entries).filterMap (fun e => e.1.failure?) ↔
      ∃ k ∈ (distinct entries).map Prod.fst, k.failure? = some f := by
    intro f
    rw [List.mem_filterMap]
    constructor
    · rintro ⟨o, ho, hf⟩
      exact ⟨o.1, List.mem_map_of_mem ho, hf⟩
    · rintro ⟨k, hk, hf⟩
      obtain ⟨o, ho, rfl⟩ := List.mem_map.1 hk
      exact ⟨o, ho, hf⟩
  refine ⟨(distinct entries).filterMap fun e => e.1.failure?, ?_, ?_, fun f hf => ?_,
    fun k hk hrule => ?_⟩
  · rw [ofKeys] at h
    cases hfailures : (distinct entries).filterMap fun e => e.1.failure? <;> rw [hfailures] at h
    · cases h
    · exact (Except.error.inj h).symm
  · intro hnil
    rw [ofKeys, hnil] at h
    cases h
  · obtain ⟨k, hk, hfailure⟩ := (hmem f).1 hf
    exact ⟨k, (hkeys.only k hk).resolve_left List.not_mem_nil, hfailure⟩
  · obtain ⟨l, hl, hsame⟩ := hkeys.found k hk
    have hneither : l.isRule = false := by
      rcases hsame with rfl | hsame
      · exact hrule
      · rw [isRule_eq_of_same hsame, hrule]
    obtain ⟨f, hf⟩ := Option.ne_none_iff_exists'.1 fun hnone =>
      Bool.eq_false_iff.1 hneither (failure?_eq_none_iff.1 hnone)
    exact ⟨l, hsame, f, (hmem f).2 ⟨l, hl, hf⟩, hf⟩

theorem ofKeys_named {name : Text → RuleKey}
    (hsame : ∀ a b, same (name a) (name b) = decide (a = b)) (hraw : ∀ a, (name a).raw = .ok a)
    (pairs : List (Text × Text)) :
    ofKeys (pairs.map fun e => (name e.1, e.2)) =
      .ok ⟨some (.ofPairs pairs), none, [Target.require.key]⟩ := by
  have hentries : (distinct (pairs.map fun e => (name e.1, e.2))).filterMap entry? =
      Entries.ofPairs pairs := by
    have hall : ( entry? ∘ fun e : Text × Text => (name e.1, e.2)) = some := by
      funext e
      rw [Function.comp_apply, entry?, hraw]
    rw [distinct_named hsame, List.filterMap_map, hall, List.filterMap_some]
  refine ofKeys_eq_ok_iff.2 ⟨fun e he => ?_, ?_⟩
  · obtain ⟨o, -, rfl⟩ := List.mem_map.1 he
    rw [isRule, hraw]
    rfl
  · rw [hentries]
    refine congrArg (fun rules => Section.mk (some rules) none _) (OrderedMap.ext_entries ?_)
    exact (Entries.ofPairs_of_nodup (Entries.nodup_ofPairs pairs)).symm

/-- Texts are rules in the order in which they come first, each with the last value. -/
theorem ofKeys_text (pairs : List (Text × Text)) :
    ofKeys (pairs.map fun e => (.text e.1, e.2)) =
      .ok ⟨some (.ofPairs pairs), none, [Target.require.key]⟩ :=
  ofKeys_named (fun _ _ => rfl) (fun _ => rfl) pairs

/-- Patterns make the rules of their texts. -/
theorem ofKeys_pattern (pairs : List (Text × Text)) :
    ofKeys (pairs.map fun e => (.pattern ⟨e.1⟩, e.2)) =
      ofKeys (pairs.map fun e => (.text e.1, e.2)) := by
  rw [ofKeys_text]
  exact @ofKeys_named (fun t => .pattern ⟨t⟩) (fun a b => by simp [same]) (fun _ => rfl) pairs

end Section

end ManifestEdit
