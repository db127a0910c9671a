import ManifestEdit.Pattern.Error
import ManifestEdit.Proofs.Pattern.Expression

/-!
# Filled patterns

A pattern is filled by one text for each of its wildcards. It fills to the words in which its pieces
stand one after the other, and those are what its expression matches, so a pattern accepts exactly
the texts that it can be filled to.
-/

namespace ManifestEdit

namespace Pattern

/-- The letters of a pattern with the texts, in turn, in place of its wildcards. -/
def fillLetters? : List Letter → List (List Letter) → Option (List Letter)
  | [], [] => some []
  | [], _ :: _ => none
  | l :: rest, texts =>
    if l = wildcard then
      match texts with
      | [] => none
      | t :: more => (fillLetters? rest more).map (t ++ ·)
    else (fillLetters? rest texts).map (l :: ·)

/-- The pattern with the texts, in turn, in place of its wildcards; there is one for each. -/
def fill? (p : Pattern) (texts : List Text) : Option Text :=
  (fillLetters? p.raw.letters (texts.map Text.letters)).map Text.mk

/-- Whether a pattern can be filled to a word. -/
def Fills (pattern word : List Letter) : Prop :=
  ∃ texts, fillLetters? pattern texts = some word

theorem fills_nil {word : List Letter} : Fills [] word ↔ word = [] := by
  constructor
  · rintro ⟨texts, h⟩
    cases texts with
    | nil =>
      cases h
      rfl
    | cons t more => cases h
  · rintro rfl
    exact ⟨[], rfl⟩

theorem fills_wildcard {rest word : List Letter} :
    Fills (wildcard :: rest) word ↔ ∃ tail, tail <:+ word ∧ Fills rest tail := by
  constructor
  · rintro ⟨texts, h⟩
    unfold fillLetters? at h
    rw [if_pos rfl] at h
    cases texts with
    | nil => cases h
    | cons t more =>
      obtain ⟨tail, htail, rfl⟩ := Option.map_eq_some_iff.1 h
      exact ⟨tail, List.suffix_append t tail, more, htail⟩
  · rintro ⟨tail, ⟨t, rfl⟩, texts, h⟩
    refine ⟨t :: texts, ?_⟩
    unfold fillLetters?
    rw [if_pos rfl]
    dsimp only
    rw [h, Option.map_some]

theorem fills_literal {l : Letter} (hl : l ≠ wildcard) {rest word : List Letter} :
    Fills (l :: rest) word ↔ ∃ tail, word = l :: tail ∧ Fills rest tail := by
  constructor
  · rintro ⟨texts, h⟩
    unfold fillLetters? at h
    rw [if_neg hl] at h
    obtain ⟨tail, htail, rfl⟩ := Option.map_eq_some_iff.1 h
    exact ⟨tail, rfl, texts, htail⟩
  · rintro ⟨tail, rfl, texts, h⟩
    refine ⟨texts, ?_⟩
    unfold fillLetters?
    rw [if_neg hl, h, Option.map_some]

/-! ## Pieces -/

/-- A pattern fills to a word exactly when its pieces stand in the word. -/
theorem fills_iff_spread {pattern first : List Letter} {more : List (List Letter)}
    (h : pieces pattern = first :: more) {word : List Letter} :
    Fills pattern word ↔ ∃ tail, word = first ++ tail ∧ Spread more tail := by
  induction pattern generalizing first more word with
  | nil =>
    obtain ⟨rfl, rfl⟩ := List.cons.inj h
    rw [fills_nil]
    constructor
    · rintro rfl
      exact ⟨[], rfl, rfl⟩
    · rintro ⟨tail, rfl, htail⟩
      exact htail
  | cons l rest ih =>
    obtain ⟨next, others, hrest⟩ := exists_pieces rest
    by_cases hl : l = wildcard
    · subst hl
      rw [pieces, if_pos rfl, hrest] at h
      obtain ⟨rfl, rfl⟩ := List.cons.inj h
      rw [fills_wildcard]
      simp only [ih hrest, Spread, List.nil_append, exists_eq_left']
      constructor
      · rintro ⟨_, ⟨front, rfl⟩, tail, rfl, htail⟩
        exact ⟨front, tail, rfl, htail⟩
      · rintro ⟨front, tail, rfl, htail⟩
        exact ⟨next ++ tail, List.suffix_append front _, tail, rfl, htail⟩
    · rw [pieces, if_neg hl, hrest] at h
      obtain ⟨rfl, rfl⟩ := List.cons.inj h
      rw [fills_literal hl]
      simp only [ih hrest, List.cons_append]
      constructor
      · rintro ⟨_, rfl, tail, rfl, htail⟩
        exact ⟨tail, rfl, htail⟩
      · rintro ⟨tail, rfl, htail⟩
        exact ⟨_, rfl, tail, rfl, htail⟩

theorem accepts_iff_fills (p : Pattern) (candidate : Text) :
    p.accepts candidate = true ↔ Fills p.raw.letters candidate.letters := by
  obtain ⟨first, more, h⟩ := exists_pieces p.raw.letters
  rw [accepts_iff_spread h, fills_iff_spread h]

/-- A pattern accepts its own text: each wildcard is filled by a wildcard. -/
theorem accepts_self (p : Pattern) : p.accepts p.raw = true := by
  rw [accepts_iff_fills]
  induction p.raw.letters with
  | nil => exact fills_nil.2 rfl
  | cons l rest ih =>
    by_cases hl : l = wildcard
    · subst hl
      exact fills_wildcard.2 ⟨rest, List.suffix_cons _ rest, ih⟩
    · exact (fills_literal hl).2 ⟨rest, rfl, ih⟩

theorem exists_fill?_iff {p : Pattern} {candidate : Text} :
    (∃ texts, p.fill? texts = some candidate) ↔ Fills p.raw.letters candidate.letters := by
  constructor
  · rintro ⟨texts, h⟩
    obtain ⟨word, hword, rfl⟩ := Option.map_eq_some_iff.1 h
    exact ⟨texts.map Text.letters, hword⟩
  · rintro ⟨texts, h⟩
    refine ⟨texts.map Text.mk, ?_⟩
    have hletters : (texts.map Text.mk).map Text.letters = texts := by
      rw [List.map_map]
      exact List.map_id' texts
    rw [fill?, hletters, h, Option.map_some]

/-- Every text is a pattern. Its expression can be read, and the pattern accepts exactly the texts
that are the pattern with some text in place of each wildcard. -/
theorem accepts_iff_exists_fill? (raw candidate : Text) :
    ∃ p items, ofJson (.str raw) = .ok p ∧ p.raw = raw ∧
      Regex.read? p.expression = some items ∧
      (p.accepts candidate = true ↔ ∃ texts, p.fill? texts = some candidate) := by
  obtain ⟨first, more, h⟩ := exists_pieces raw.letters
  refine ⟨⟨raw⟩, _, rfl, rfl, read?_expression h, ?_⟩
  rw [accepts_iff_fills, exists_fill?_iff]

end Pattern

end ManifestEdit
