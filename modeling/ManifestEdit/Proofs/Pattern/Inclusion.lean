import Mathlib.Data.List.Chain
import ManifestEdit.Proofs.Pattern.Selection

/-!
# Patterns that accept no more than others

Only a wildcard of a pattern takes a wildcard of its candidate, so a pattern accepts all that
another one accepts exactly when it accepts the other's text. It then has no more letters of its own
than the other, and does not outrank it. Two patterns that accept each other's text are one pattern
up to runs of wildcards: where no wildcards stand side by side, each text is a sublist of the other.
-/

namespace ManifestEdit

namespace Pattern

/-- The letters that stand for themselves. -/
def bare (pattern : List Letter) : List Letter :=
  pattern.filter (· ≠ wildcard)

theorem bare_wildcard (rest : List Letter) : bare (wildcard :: rest) = bare rest := by
  simp [bare]

theorem bare_literal {l : Letter} (hl : l ≠ wildcard) (rest : List Letter) :
    bare (l :: rest) = l :: bare rest := by
  simp [bare, hl]

theorem bare_append (front back : List Letter) : bare (front ++ back) = bare front ++ bare back :=
  List.filter_append front back

theorem bare_bare (pattern : List Letter) : bare (bare pattern) = bare pattern := by
  simp [bare]

/-! ## Inclusion -/

theorem fills_self (pattern : List Letter) : Fills pattern pattern :=
  (accepts_iff_fills ⟨⟨pattern⟩⟩ ⟨pattern⟩).1 (accepts_self _)

/-- The shortest text that a pattern accepts: nothing in place of each wildcard. -/
theorem fills_bare (pattern : List Letter) : Fills pattern (bare pattern) := by
  induction pattern with
  | nil => exact fills_nil.2 rfl
  | cons l rest ih =>
    by_cases hl : l = wildcard
    · subst hl
      rw [bare_wildcard]
      exact fills_wildcard.2 ⟨bare rest, List.suffix_refl _, ih⟩
    · rw [bare_literal hl]
      exact (fills_literal hl).2 ⟨bare rest, rfl, ih⟩

/-- What fills two patterns in a row ends in what fills the second. -/
theorem exists_suffix_of_fills_append {front back word : List Letter}
    (h : Fills (front ++ back) word) : ∃ tail, tail <:+ word ∧ Fills back tail := by
  induction front generalizing word with
  | nil => exact ⟨word, List.suffix_refl word, h⟩
  | cons l rest ih =>
    rw [List.cons_append] at h
    by_cases hl : l = wildcard
    · subst hl
      obtain ⟨tail, htail, hrest⟩ := fills_wildcard.1 h
      obtain ⟨last, hlast, hback⟩ := ih hrest
      exact ⟨last, hlast.trans htail, hback⟩
    · obtain ⟨tail, rfl, hrest⟩ := (fills_literal hl).1 h
      obtain ⟨last, hlast, hback⟩ := ih hrest
      exact ⟨last, hlast.trans (List.suffix_cons l tail), hback⟩

/-- Only a wildcard takes a wildcard, so what takes a pattern takes all that fills it. -/
theorem Fills.trans {wide narrow word : List Letter} (hwide : Fills wide narrow)
    (hnarrow : Fills narrow word) : Fills wide word := by
  induction wide generalizing narrow word with
  | nil =>
    rw [fills_nil.1 hwide] at hnarrow
    exact hnarrow
  | cons l rest ih =>
    by_cases hl : l = wildcard
    · subst hl
      obtain ⟨back, ⟨front, rfl⟩, hrest⟩ := fills_wildcard.1 hwide
      obtain ⟨tail, htail, hback⟩ := exists_suffix_of_fills_append hnarrow
      exact fills_wildcard.2 ⟨tail, htail, ih hrest hback⟩
    · obtain ⟨back, rfl, hrest⟩ := (fills_literal hl).1 hwide
      obtain ⟨tail, rfl, hback⟩ := (fills_literal hl).1 hnarrow
      exact (fills_literal hl).2 ⟨tail, rfl, ih hrest hback⟩

/-- A pattern includes another one exactly when it accepts its text. -/
theorem forall_accepts_iff {p q : Pattern} :
    (∀ name, p.accepts name = true → q.accepts name = true) ↔ q.accepts p.raw = true := by
  constructor
  · exact fun h => h p.raw (accepts_self p)
  · intro h name hname
    rw [accepts_iff_fills] at h hname ⊢
    exact h.trans hname

/-! ## Rank -/

theorem length_bare_le {pattern word : List Letter} (h : Fills pattern word) :
    (bare pattern).length ≤ (bare word).length := by
  induction pattern generalizing word with
  | nil => exact Nat.zero_le _
  | cons l rest ih =>
    by_cases hl : l = wildcard
    · subst hl
      obtain ⟨tail, ⟨front, rfl⟩, hrest⟩ := fills_wildcard.1 h
      have hle := ih hrest
      rw [bare_wildcard, bare_append, List.length_append]
      omega
    · obtain ⟨tail, rfl, hrest⟩ := (fills_literal hl).1 h
      have hle := ih hrest
      rw [bare_literal hl, bare_literal hl, List.length_cons, List.length_cons]
      omega

/-- A pattern that accepts nothing that another one does not accept is not outranked by it. -/
theorem rank_le_of_forall_accepts {p q : Pattern}
    (h : ∀ name, p.accepts name = true → q.accepts name = true) :
    q.rank ≤ p.rank ∧ q.outranks p = false := by
  have hle : q.rank ≤ p.rank := by
    rw [rank, rank, Prod.Lex.toLex_le_toLex]
    cases hq : q.isLiteral with
    | true =>
      -- A literal pattern includes itself only.
      have hraw : q.raw = p.raw := (accepts_literal hq p.raw).1 (h p.raw (accepts_self p))
      obtain ⟨raw⟩ := p
      obtain ⟨raw'⟩ := q
      cases hraw
      exact .inr ⟨hq.symm, Nat.le_refl _⟩
    | false =>
      cases hp : p.isLiteral with
      | true => exact .inl rfl
      | false =>
        have hbare := h ⟨bare p.raw.letters⟩ ((accepts_iff_fills p _).2 (fills_bare _))
        have hlength := length_bare_le ((accepts_iff_fills q _).1 hbare)
        rw [bare_bare] at hlength
        exact .inr ⟨rfl, hlength⟩
  exact ⟨hle, Bool.eq_false_iff.2 fun hout => not_lt_of_ge hle (outranks_iff.1 hout)⟩

theorem rank_le_of_forall_accepts_console :
    (∀ name, (Pattern.mk "symfony/cons*").accepts name = true →
        (Pattern.mk "*/cons*").accepts name = true) ∧
      (Pattern.mk "*/cons*").rank ≤ (Pattern.mk "symfony/cons*").rank ∧
      (Pattern.mk "*/cons*").outranks ⟨"symfony/cons*"⟩ = false :=
  have hincludes := forall_accepts_iff.2 (by decide +kernel)
  ⟨hincludes, rank_le_of_forall_accepts hincludes⟩

/-! ## Runs of wildcards -/

/-- The letters of a pattern with each run of wildcards as one wildcard. -/
def collapse : List Letter → List Letter
  | [] => []
  | [l] => [l]
  | l :: m :: rest =>
    if l = wildcard ∧ m = wildcard then collapse (m :: rest) else l :: collapse (m :: rest)

/-- Whether no two wildcards stand side by side. -/
def HasNoRun (pattern : List Letter) : Prop :=
  pattern.IsChain fun l m => ¬ (l = wildcard ∧ m = wildcard)

theorem fills_wildcard_wildcard {rest word : List Letter} :
    Fills (wildcard :: wildcard :: rest) word ↔ Fills (wildcard :: rest) word := by
  constructor
  · intro h
    obtain ⟨tail, htail, hrest⟩ := fills_wildcard.1 h
    obtain ⟨last, hlast, hfills⟩ := fills_wildcard.1 hrest
    exact fills_wildcard.2 ⟨last, hlast.trans htail, hfills⟩
  · exact fun h => fills_wildcard.2 ⟨word, List.suffix_refl word, h⟩

theorem fills_cons_congr {l : Letter} {rest rest' : List Letter}
    (h : ∀ tail, Fills rest tail ↔ Fills rest' tail) {word : List Letter} :
    Fills (l :: rest) word ↔ Fills (l :: rest') word := by
  by_cases hl : l = wildcard
  · subst hl
    rw [fills_wildcard, fills_wildcard]
    exact exists_congr fun tail => and_congr_right fun _ => h tail
  · rw [fills_literal hl, fills_literal hl]
    exact exists_congr fun tail => and_congr_right fun _ => h tail

/-- A run of wildcards takes what one wildcard takes. -/
theorem fills_collapse {pattern word : List Letter} :
    Fills (collapse pattern) word ↔ Fills pattern word := by
  induction pattern using collapse.induct generalizing word with
  | case1 => rfl
  | case2 l => rfl
  | case3 l m rest hrun ih =>
    rw [collapse, if_pos hrun, ih, hrun.1, hrun.2, fills_wildcard_wildcard]
  | case4 l m rest hrun ih =>
    rw [collapse, if_neg hrun]
    exact fills_cons_congr fun tail => ih

theorem head?_collapse (pattern : List Letter) : (collapse pattern).head? = pattern.head? := by
  induction pattern using collapse.induct with
  | case1 => rfl
  | case2 l => rfl
  | case3 l m rest hrun ih =>
    rw [collapse, if_pos hrun, ih, hrun.1, hrun.2]
    rfl
  | case4 l m rest hrun ih =>
    rw [collapse, if_neg hrun]
    rfl

theorem hasNoRun_collapse (pattern : List Letter) : HasNoRun (collapse pattern) := by
  induction pattern using collapse.induct with
  | case1 => exact List.IsChain.nil
  | case2 l => exact List.IsChain.singleton l
  | case3 l m rest hrun ih =>
    rw [collapse, if_pos hrun]
    exact ih
  | case4 l m rest hrun ih =>
    rw [collapse, if_neg hrun, HasNoRun, List.isChain_cons]
    refine ⟨fun n hn => ?_, ih⟩
    rw [head?_collapse] at hn
    cases hn
    exact hrun

/-- Wildcards only, none beside another: there is at most one. -/
theorem HasNoRun.eq_of_bare_eq_nil {front : List Letter} (h : HasNoRun front)
    (hbare : bare front = []) : front = [] ∨ front = [wildcard] := by
  have hall : ∀ l ∈ front, l = wildcard := by
    simpa [bare, List.filter_eq_nil_iff] using hbare
  match front, h, hall with
  | [], _, _ => exact .inl rfl
  | [l], _, hall => exact .inr (by rw [hall l List.mem_cons_self])
  | l :: m :: rest, h, hall =>
    rw [HasNoRun, List.isChain_cons_cons] at h
    exact absurd ⟨hall l (by simp), hall m (by simp)⟩ h.1

/-- Where a pattern takes a text with no letter besides its own, its wildcards take wildcards, and
without runs each takes one or none. -/
theorem sublist_of_fills {pattern word : List Letter} (hrun : HasNoRun word)
    (hlength : (bare word).length ≤ (bare pattern).length) (h : Fills pattern word) :
    word.Sublist pattern := by
  induction pattern generalizing word with
  | nil => rw [fills_nil.1 h]
  | cons l rest ih =>
    by_cases hl : l = wildcard
    · subst hl
      obtain ⟨tail, ⟨front, rfl⟩, hrest⟩ := fills_wildcard.1 h
      have hle := length_bare_le hrest
      rw [bare_wildcard, bare_append, List.length_append] at hlength
      have hfront : bare front = [] := List.length_eq_zero_iff.1 (by omega)
      have htail : tail.Sublist rest := ih hrun.right_of_append (by omega) hrest
      rcases HasNoRun.eq_of_bare_eq_nil hrun.left_of_append hfront with rfl | rfl
      · exact htail.cons wildcard
      · exact htail.cons_cons wildcard
    · obtain ⟨tail, rfl, hrest⟩ := (fills_literal hl).1 h
      have htail : HasNoRun tail := hrun.tail
      rw [bare_literal hl, bare_literal hl, List.length_cons, List.length_cons] at hlength
      exact (ih htail (by omega) hrest).cons_cons l

/-- Patterns without runs that take each other are the same. -/
theorem eq_of_fills {pattern word : List Letter} (hpattern : HasNoRun pattern)
    (hword : HasNoRun word) (h : Fills pattern word) (h' : Fills word pattern) :
    pattern = word := by
  have hle := length_bare_le h
  have hle' := length_bare_le h'
  exact (sublist_of_fills hpattern hle h').antisymm (sublist_of_fills hword hle' h)

/-- Two patterns accept the same texts exactly when they are the same up to runs of wildcards. -/
theorem accepts_eq_iff_collapse_eq (p q : Pattern) :
    (∀ name, p.accepts name = q.accepts name) ↔
      collapse p.raw.letters = collapse q.raw.letters := by
  constructor
  · intro h
    have hfills : ∀ word,
        Fills (collapse p.raw.letters) word ↔ Fills (collapse q.raw.letters) word := by
      intro word
      rw [fills_collapse, fills_collapse, ← accepts_iff_fills p ⟨word⟩,
        ← accepts_iff_fills q ⟨word⟩, h]
    exact eq_of_fills (hasNoRun_collapse _) (hasNoRun_collapse _)
      ((hfills _).2 (fills_self _)) ((hfills _).1 (fills_self _))
  · intro h name
    rw [Bool.eq_iff_iff, accepts_iff_fills, accepts_iff_fills, ← fills_collapse, h, fills_collapse]

end Pattern

end ManifestEdit
