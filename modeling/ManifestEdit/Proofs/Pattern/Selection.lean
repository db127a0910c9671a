import Mathlib.Data.Bool.Basic
import Mathlib.Data.Prod.Lex
import ManifestEdit.Pattern.Selection
import ManifestEdit.Proofs.Pattern.Filling

/-!
# Literal patterns and the pattern that decides

A literal pattern accepts its own text only. The scan for the best pattern keeps the first one of
highest rank among those that it has seen. So of the patterns that match a name one decides: none
ranks higher, and all that match before it rank lower. A literal pattern decides for the package
that it names.
-/

namespace ManifestEdit

namespace Pattern

/-! ## Selected names -/

/-- The names that some pattern matches are selected, with the patterns that match them. -/
theorem mem_select_iff {ps : List Pattern} {name : Text} {names : List Text} {hits : List Pattern} :
    (name, hits) ∈ select names ps ↔
      name ∈ names ∧ hits = matching ps name ∧ hits ≠ [] := by
  rw [select, List.mem_filterMap]
  constructor
  · rintro ⟨other, hother, hselected⟩
    cases hmatching : matching ps other with
    | nil =>
      rw [hmatching] at hselected
      cases hselected
    | cons p rest =>
      rw [hmatching] at hselected
      cases hselected
      exact ⟨hother, hmatching.symm, List.cons_ne_nil p rest⟩
  · rintro ⟨hname, rfl, hhits⟩
    refine ⟨name, hname, ?_⟩
    cases hmatching : matching ps name with
    | nil => exact absurd hmatching hhits
    | cons p rest => rfl

/-! ## Literal patterns -/

/-- A pattern without a wildcard is filled by no text, so only to itself. -/
theorem fills_of_not_mem {pattern : List Letter} (h : wildcard ∉ pattern) (word : List Letter) :
    Fills pattern word ↔ pattern = word := by
  induction pattern generalizing word with
  | nil => rw [fills_nil, eq_comm]
  | cons l rest ih =>
    rw [List.mem_cons, not_or] at h
    have hl : l ≠ wildcard := fun e => h.1 e.symm
    rw [fills_literal hl]
    constructor
    · rintro ⟨tail, rfl, htail⟩
      rw [(ih h.2 tail).1 htail]
    · rintro rfl
      exact ⟨rest, rfl, (ih h.2 rest).2 rfl⟩

theorem wildcard_not_mem {p : Pattern} (h : p.isLiteral = true) : wildcard ∉ p.raw.letters := by
  simpa [isLiteral] using h

/-- A literal pattern accepts what it names, and nothing else. -/
theorem accepts_literal {p : Pattern} (h : p.isLiteral = true) (name : Text) :
    p.accepts name = true ↔ p.raw = name := by
  rw [accepts_iff_fills, fills_of_not_mem (wildcard_not_mem h)]
  constructor
  · intro he
    cases hraw : p.raw
    cases name
    rw [hraw] at he
    cases he
    rfl
  · rintro rfl
    rfl

/-! ## Rank -/

/-- Literal patterns first, then by the number of letters that stand for themselves. -/
def rank (p : Pattern) : Bool ×ₗ Nat :=
  toLex (p.isLiteral, p.size)

theorem outranks_iff {p q : Pattern} : p.outranks q = true ↔ q.rank < p.rank := by
  rw [rank, rank, Prod.Lex.toLex_lt_toLex, outranks, Bool.or_eq_true, Bool.and_eq_true,
    Bool.and_eq_true, decide_eq_true_iff, decide_eq_true_iff, Bool.not_eq_true', Bool.lt_iff]
  exact or_congr and_comm (and_congr_left fun _ => eq_comm)

theorem not_outranks_iff {p q : Pattern} : p.outranks q = false ↔ p.rank ≤ q.rank := by
  rw [← Bool.not_eq_true, outranks_iff, not_lt]

theorem outranks_of_literal {p q : Pattern} (hp : p.isLiteral = true) (hq : q.isLiteral = false) :
    p.outranks q = true := by
  simp [outranks, hp, hq]

/-! ## The best pattern -/

/-- Whether no pattern of a list outranks this one. -/
def isTop (ps : List Pattern) (p : Pattern) : Bool :=
  ps.all fun q => !q.outranks p

/-- The first of those of highest rank. -/
structure FirstBest (ps : List Pattern) (p : Pattern) : Prop where
  highest : ∀ q ∈ ps, q.rank ≤ p.rank
  first : ∃ earlier later, ps = earlier ++ p :: later ∧ ∀ q ∈ earlier, q.rank < p.rank

variable {ps : List Pattern} {p : Pattern}

theorem isTop_iff : isTop ps p = true ↔ ∀ q ∈ ps, q.rank ≤ p.rank := by
  rw [isTop, List.all_eq_true]
  refine forall₂_congr fun q _ => ?_
  rw [Bool.not_eq_true', not_outranks_iff]

theorem not_isTop_iff : (!isTop ps p) = true ↔ ∃ q ∈ ps, p.rank < q.rank := by
  rw [Bool.not_eq_true', ← Bool.not_eq_true, isTop_iff]
  simp only [not_forall, not_le, exists_prop]

theorem firstBest_iff_find? : FirstBest ps p ↔ ps.find? (isTop ps) = some p := by
  rw [List.find?_eq_some_iff_append]
  constructor
  · rintro ⟨hhighest, earlier, later, hsplit, hfirst⟩
    have hmem : p ∈ ps := hsplit ▸ List.mem_append_right earlier List.mem_cons_self
    exact ⟨isTop_iff.2 hhighest, earlier, later, hsplit,
      fun q hq => not_isTop_iff.2 ⟨p, hmem, hfirst q hq⟩⟩
  · rintro ⟨htop, earlier, later, hsplit, hfirst⟩
    have hhighest := isTop_iff.1 htop
    refine ⟨hhighest, earlier, later, hsplit, fun q hq => ?_⟩
    obtain ⟨r, hr, hlt⟩ := not_isTop_iff.1 (hfirst q hq)
    exact hlt.trans_le (hhighest r hr)

theorem firstBest_singleton (p : Pattern) : FirstBest [p] p where
  highest := fun _ hq => (List.mem_singleton.1 hq) ▸ le_refl p.rank
  first := ⟨[], [], rfl, fun _ hq => absurd hq List.not_mem_nil⟩

/-- One more pattern replaces the best one so far only where it outranks it. -/
theorem FirstBest.better (h : FirstBest ps p) (q : Pattern) :
    ∃ b, better (some p) q = some b ∧ FirstBest (ps ++ [q]) b := by
  have hstep : Pattern.better (some p) q = if q.outranks p then some q else some p := rfl
  rw [hstep]
  cases hqp : q.outranks p with
  | true =>
    have hlt := outranks_iff.1 hqp
    refine ⟨q, rfl, fun r hr => ?_, ps, [], rfl, fun r hr => (h.highest r hr).trans_lt hlt⟩
    rcases List.mem_append.1 hr with hr | hr
    · exact (h.highest r hr).trans hlt.le
    · exact (List.mem_singleton.1 hr) ▸ le_refl q.rank
  | false =>
    obtain ⟨earlier, later, rfl, hfirst⟩ := h.first
    refine ⟨p, rfl, fun r hr => ?_, earlier, later ++ [q], by simp, hfirst⟩
    rcases List.mem_append.1 hr with hr | hr
    · exact h.highest r hr
    · exact (List.mem_singleton.1 hr) ▸ not_outranks_iff.1 hqp

/-- The scan keeps the first of the best patterns that it has seen. -/
theorem FirstBest.foldl_better (h : FirstBest ps p) (rest : List Pattern) :
    ∃ b, rest.foldl Pattern.better (some p) = some b ∧ FirstBest (ps ++ rest) b := by
  induction rest generalizing ps p with
  | nil => exact ⟨p, rfl, by rwa [List.append_nil]⟩
  | cons q rest ih =>
    obtain ⟨b, hb, hbest⟩ := h.better q
    rw [List.foldl_cons, hb, List.append_cons]
    exact ih hbest

theorem exists_mostSpecific (p : Pattern) (rest : List Pattern) :
    ∃ b, mostSpecific (p :: rest) = some b ∧ FirstBest (p :: rest) b :=
  (firstBest_singleton p).foldl_better rest

theorem mostSpecific_eq_none_iff : mostSpecific ps = none ↔ ps = [] := by
  cases ps with
  | nil => exact iff_of_true rfl rfl
  | cons q rest =>
    obtain ⟨b, hb, -⟩ := exists_mostSpecific q rest
    simp [hb]

/-- The best pattern is the first one that no pattern outranks. -/
theorem mostSpecific_eq_find? (ps : List Pattern) : mostSpecific ps = ps.find? (isTop ps) := by
  cases ps with
  | nil => rfl
  | cons q rest =>
    obtain ⟨b, hb, hbest⟩ := exists_mostSpecific q rest
    rw [hb, firstBest_iff_find?.1 hbest]

theorem mostSpecific_eq_some_iff : mostSpecific ps = some p ↔ FirstBest ps p := by
  rw [mostSpecific_eq_find?, firstBest_iff_find?]

/-! ## The pattern that decides -/

/-- The pattern of a list that decides for a name. -/
structure Decides (ps : List Pattern) (name : Text) (p : Pattern) : Prop where
  accepts : p.accepts name = true
  highest : ∀ q ∈ ps, q.accepts name = true → q.rank ≤ p.rank
  first : ∃ earlier later, ps = earlier ++ p :: later ∧
    ∀ q ∈ earlier, q.accepts name = true → q.rank < p.rank

variable {name : Text}

theorem mem_matching : p ∈ matching ps name ↔ p ∈ ps ∧ p.accepts name = true :=
  List.mem_filter

theorem Decides.mem (h : Decides ps name p) : p ∈ ps := by
  obtain ⟨earlier, later, rfl, -⟩ := h.first
  exact List.mem_append_right earlier List.mem_cons_self

/-- What decides among all patterns is the best of those that match. -/
theorem decides_iff_firstBest : Decides ps name p ↔ FirstBest (matching ps name) p := by
  constructor
  · rintro ⟨haccepts, hhighest, earlier, later, rfl, hfirst⟩
    refine ⟨fun q hq => ?_, matching earlier name, matching later name,
      by simp [matching, haccepts], fun q hq => ?_⟩
    · obtain ⟨hmem, hname⟩ := mem_matching.1 hq
      exact hhighest q hmem hname
    · obtain ⟨hmem, hname⟩ := mem_matching.1 hq
      exact hfirst q hmem hname
  · rintro ⟨hhighest, before, after, hsplit, hfirst⟩
    obtain ⟨front, back, rfl, rfl, hback⟩ := List.filter_eq_append_iff.1 hsplit
    obtain ⟨skipped, later, rfl, hskipped, haccepts, -⟩ := List.filter_eq_cons_iff.1 hback
    refine ⟨haccepts, fun q hq hname => hhighest q (mem_matching.2 ⟨hq, hname⟩),
      front ++ skipped, later, (List.append_assoc _ _ _).symm, fun q hq hname => ?_⟩
    rcases List.mem_append.1 hq with hq | hq
    · exact hfirst q (List.mem_filter.2 ⟨hq, hname⟩)
    · exact absurd hname (hskipped q hq)

theorem mostSpecific_matching_eq_some_iff :
    mostSpecific (matching ps name) = some p ↔ Decides ps name p := by
  rw [mostSpecific_eq_some_iff, decides_iff_firstBest]

theorem mostSpecific_matching_eq_none_iff :
    mostSpecific (matching ps name) = none ↔ ∀ p ∈ ps, p.accepts name = false := by
  rw [mostSpecific_eq_none_iff, matching, List.filter_eq_nil_iff]
  simp

/-- Whatever else matches the name of a literal pattern ranks lower. -/
theorem eq_or_rank_lt_of_accepts {q : Pattern} (hlit : (Pattern.mk name).isLiteral = true)
    (h : q.accepts name = true) : q = ⟨name⟩ ∨ q.rank < rank ⟨name⟩ := by
  cases hq : q.isLiteral with
  | true =>
    obtain ⟨raw⟩ := q
    have hraw : raw = name := (accepts_literal hq name).1 h
    exact .inl (by rw [hraw])
  | false => exact .inr (outranks_iff.1 (outranks_of_literal hlit hq))

/-- The pattern that names a package decides for it. -/
theorem decides_literal (hlit : (Pattern.mk name).isLiteral = true) (hmem : ⟨name⟩ ∈ ps) :
    Decides ps name ⟨name⟩ := by
  obtain ⟨earlier, later, hsplit, hnot⟩ := List.eq_append_cons_of_mem hmem
  refine ⟨(accepts_literal hlit name).2 rfl, fun q _ h => ?_, earlier, later, hsplit,
    fun q hq h => ?_⟩
  · rcases eq_or_rank_lt_of_accepts hlit h with rfl | hlt
    · exact le_refl _
    · exact hlt.le
  · exact (eq_or_rank_lt_of_accepts hlit h).resolve_left fun he => hnot (he ▸ hq)

end Pattern

end ManifestEdit
