import ManifestEdit.Pattern

/-!
# The expressions of patterns

Every expression of a pattern can be read. Its items are those of the pattern's pieces between the
anchors, with a star for each run of wildcards (`read?_expression`). They match the words in which
the pieces stand one after the other, the first at the start and the last at the end
(`accepts_iff_spread`). A star that is left out, as one stands before it, takes nothing more.
-/

namespace ManifestEdit

namespace Regex

/-- The items of a text that stands for itself. -/
def literal (piece : List Letter) : List Item :=
  piece.map fun l => .once (.letter l)

theorem matchFrom_literal {piece : List Letter} {items : List Item} {place : Nat}
    {word : List Letter} :
    matchFrom (literal piece ++ items) place word = true ↔
      ∃ tail, word = piece ++ tail ∧ matchFrom items (place + piece.length) tail = true := by
  induction piece generalizing place word with
  | nil => simp [literal]
  | cons l piece ih =>
    have hcons : literal (l :: piece) = .once (.letter l) :: literal piece := rfl
    rw [hcons, List.cons_append]
    cases word with
    | nil => simp [matchFrom]
    | cons m rest =>
      rw [matchFrom, Bool.and_eq_true, Single.takes, decide_eq_true_iff, ih, List.length_cons,
        Nat.add_right_comm, Nat.add_assoc]
      constructor
      · rintro ⟨rfl, tail, rfl, h⟩
        exact ⟨tail, rfl, h⟩
      · rintro ⟨tail, hword, h⟩
        obtain ⟨rfl, rfl⟩ := List.cons.inj hword
        exact ⟨rfl, tail, rfl, h⟩

/-- A star of any letters takes any front, and what follows matches behind it. -/
theorem matchStar_any {next : Nat → List Letter → Bool} {place : Nat} {word : List Letter} :
    matchStar .any next place word = true ↔
      ∃ front tail, word = front ++ tail ∧ next (place + front.length) tail = true := by
  induction word generalizing place with
  | nil =>
    rw [matchStar]
    constructor
    · exact fun h => ⟨[], [], rfl, h⟩
    · rintro ⟨front, tail, hword, h⟩
      obtain ⟨rfl, rfl⟩ := List.append_eq_nil_iff.1 hword.symm
      exact h
  | cons l rest ih =>
    rw [matchStar, Single.takes, Bool.true_and, Bool.or_eq_true, ih]
    constructor
    · rintro (⟨front, tail, rfl, h⟩ | h)
      · refine ⟨l :: front, tail, rfl, ?_⟩
        rwa [List.length_cons, Nat.add_comm front.length 1, ← Nat.add_assoc]
      · exact ⟨[], l :: rest, rfl, h⟩
    · rintro ⟨front, tail, hword, h⟩
      cases front with
      | nil =>
        rw [List.nil_append] at hword
        exact .inr (hword.symm ▸ h)
      | cons m front =>
        obtain ⟨-, rfl⟩ := List.cons.inj hword
        refine .inl ⟨front, tail, rfl, ?_⟩
        rwa [List.length_cons, Nat.add_comm front.length 1, ← Nat.add_assoc] at h

end Regex

namespace Pattern

open Regex

/-! ## Reading the expression -/

theorem escaped?_sign {c : Char} (hc : c ∈ signs) :
    escaped? (.char c) = some (.once (.letter (.char c))) := by
  have hsigns : (signs.all fun c => escaped? (.char c) = some (.once (.letter (.char c)))) =
      true := by decide
  exact of_decide_eq_true (List.all_eq_true.1 hsigns c hc)

/-- A letter that is no sign is read as itself. -/
theorem readFrom?_of_not_sign {c : Char} (hc : c ∉ signs) (items : List Item)
    (rest : List Letter) :
    readFrom? items (.char c :: rest) = readFrom? (.once (.letter (.char c)) :: items) rest := by
  have hne : ∀ s ∈ signs, c ≠ s := fun s hs h => hc (h ▸ hs)
  have hforeign : isForeign (.char c) = false := by
    simp [isForeign, hne '^' (by decide), hne '$' (by decide), hne '+' (by decide),
      hne '?' (by decide), hne '{' (by decide), hne '[' (by decide), hne '|' (by decide),
      hne '(' (by decide), hne ')' (by decide)]
  have hback := hne '\\' (by decide)
  have hstar := hne '*' (by decide)
  have hdot := hne '.' (by decide)
  rw [readFrom?]
  · rw [hforeign]
    rfl
  all_goals simp_all

theorem readFrom?_escapeLetter (l : Letter) (items : List Item) (rest : List Letter) :
    readFrom? items (escapeLetter l ++ rest) = readFrom? (.once (.letter l) :: items) rest := by
  cases l with
  | half offset => rfl
  | char c =>
    by_cases hc : c ∈ signs
    · have hcontains : signs.contains c = true := List.contains_iff_mem.2 hc
      rw [escapeLetter, if_pos hcontains, List.cons_append, List.cons_append, List.nil_append,
        readFrom?, escaped?_sign hc, Option.bind_some]
    · have hcontains : ¬signs.contains c = true := fun h => hc (List.contains_iff_mem.1 h)
      rw [escapeLetter, if_neg hcontains]
      exact readFrom?_of_not_sign hc items rest

theorem readFrom?_escape (piece : List Letter) (items : List Item) (rest : List Letter) :
    readFrom? items (escape piece ++ rest) = readFrom? ((literal piece).reverse ++ items) rest := by
  induction piece generalizing items with
  | nil => rfl
  | cons l piece ih =>
    have hcons : literal (l :: piece) = .once (.letter l) :: literal piece := rfl
    rw [escape, List.flatMap_cons, List.append_assoc, readFrom?_escapeLetter, ← escape, ih, hcons,
      List.reverse_cons, List.append_assoc]
    rfl

/-- The expression of a text never begins as that of a wildcard does. -/
theorem escape_ne_anything (piece : List Letter) : escape piece ≠ anything := by
  cases piece with
  | nil => exact (List.cons_ne_nil _ _).symm
  | cons l piece =>
    rw [escape, List.flatMap_cons]
    cases l with
    | half offset => exact fun h => nomatch (List.cons.inj h).1
    | char c =>
      by_cases hc : signs.contains c = true
      · rw [escapeLetter, if_pos hc]
        exact fun h => absurd (List.cons.inj h).1 (by decide)
      · rw [escapeLetter, if_neg hc]
        intro h
        have hdot : c = '.' := Letter.char.inj (List.cons.inj h).1
        exact hc (hdot ▸ by decide)

/-- The expression of the pieces behind the first one; `run` says whether the expression of a
wildcard stands right before. -/
def textBehind (run : Bool) : List (List Letter) → List Letter
  | [] => []
  | piece :: more =>
    (if run then [] else anything) ++ (escape piece ++ textBehind piece.isEmpty more)

/-- The items of the pieces behind the first one, up to the end. -/
def itemsBehind (run : Bool) : List (List Letter) → List Item
  | [] => [.finish]
  | piece :: more =>
    (if run then [] else [.star .any]) ++ (literal piece ++ itemsBehind piece.isEmpty more)

theorem flatten_addPiece (parts : List (List Letter)) (piece : List Letter) :
    (addPiece parts piece).flatten = parts.flatten ++ escape piece := by
  cases piece with
  | nil => simp [addPiece, escape]
  | cons l piece => simp [addPiece]

theorem getLast?_addPiece {parts : List (List Letter)} (piece : List Letter) :
    (addPiece parts piece).getLast? = some anything ↔
      piece.isEmpty = true ∧ parts.getLast? = some anything := by
  cases piece with
  | nil => simp [addPiece]
  | cons l piece =>
    have hne := escape_ne_anything (l :: piece)
    simp [addPiece, hne]

theorem getLast?_addWildcard (parts : List (List Letter)) :
    (addWildcard parts).getLast? = some anything := by
  unfold addWildcard
  split
  · assumption
  · exact List.getLast?_concat

theorem flatten_addWildcard (parts : List (List Letter)) :
    (addWildcard parts).flatten =
      parts.flatten ++ if parts.getLast? = some anything then [] else anything := by
  unfold addWildcard
  split <;> simp

theorem flatten_foldl (more parts : List (List Letter)) :
    (more.foldl (fun parts piece => addPiece (addWildcard parts) piece) parts).flatten =
      parts.flatten ++ textBehind (decide (parts.getLast? = some anything)) more := by
  induction more generalizing parts with
  | nil => simp [textBehind]
  | cons piece more ih =>
    have hrun : decide ((addPiece (addWildcard parts) piece).getLast? = some anything) =
        piece.isEmpty := by
      rw [Bool.eq_iff_iff, decide_eq_true_iff, getLast?_addPiece]
      exact and_iff_left (getLast?_addWildcard parts)
    rw [List.foldl_cons, ih, hrun, flatten_addPiece, flatten_addWildcard, textBehind]
    simp only [decide_eq_true_eq, List.append_assoc]

theorem exists_pieces (pattern : List Letter) : ∃ first more, pieces pattern = first :: more := by
  cases pattern with
  | nil => exact ⟨[], [], rfl⟩
  | cons l rest =>
    unfold pieces
    split
    · exact ⟨[], _, rfl⟩
    · split
      · exact ⟨[l], [], rfl⟩
      · exact ⟨_, _, rfl⟩

theorem flatten_parts {pattern first : List Letter} {more : List (List Letter)}
    (h : pieces pattern = first :: more) :
    (parts pattern).flatten = escape first ++ textBehind false more := by
  have hrun : decide ((addPiece [] first).getLast? = some anything) = false := by
    rw [decide_eq_false_iff_not, getLast?_addPiece]
    exact fun hlast => nomatch hlast.2
  rw [parts, h]
  dsimp only
  rw [flatten_foldl, hrun, flatten_addPiece]
  rfl

theorem readFrom?_behind (run : Bool) (more : List (List Letter)) (items : List Item) :
    readFrom? items (textBehind run more ++ closing) =
      some (items.reverse ++ itemsBehind run more) := by
  induction more generalizing run items with
  | nil =>
    have hend : readFrom? items closing = some (.finish :: items).reverse := rfl
    rw [textBehind, List.nil_append, hend, List.reverse_cons, itemsBehind]
  | cons piece more ih =>
    have hpiece : ∀ items, readFrom? items
        (escape piece ++ (textBehind piece.isEmpty more ++ closing)) =
          some (items.reverse ++ (literal piece ++ itemsBehind piece.isEmpty more)) := by
      intro items
      rw [readFrom?_escape, ih, List.reverse_append, List.reverse_reverse, List.append_assoc]
    cases run with
    | true => simpa [textBehind, itemsBehind] using hpiece items
    | false =>
      have hstar := hpiece (.star .any :: items)
      simpa [textBehind, itemsBehind, anything, readFrom?, repeatLast?] using hstar

/-- The expression of a pattern can be read. -/
theorem read?_expression {p : Pattern} {first : List Letter} {more : List (List Letter)}
    (h : pieces p.raw.letters = first :: more) :
    read? p.expression = some (.start :: (literal first ++ itemsBehind false more)) := by
  have hstart : ∀ rest : List Letter,
      readFrom? [] (opening ++ rest) = readFrom? [.start] rest := fun _ => rfl
  rw [read?, expression, flatten_parts h, List.append_assoc, List.append_assoc, hstart,
    readFrom?_escape, readFrom?_behind]
  simp

/-! ## Matching the expression -/

/-- The pieces stand in a word one after the other, each behind anything, and the last at the
end. -/
def Spread : List (List Letter) → List Letter → Prop
  | [], word => word = []
  | piece :: more, word => ∃ front tail, word = front ++ (piece ++ tail) ∧ Spread more tail

/-- Behind a star, or where a star that takes anything stands right before, the items match the
words in which the pieces stand. -/
theorem matchFrom_itemsBehind (more : List (List Letter)) :
    (∀ place word, matchFrom (itemsBehind false more) place word = true ↔ Spread more word) ∧
    (∀ place word,
      (∃ front tail, word = front ++ tail ∧
        matchFrom (itemsBehind true more) (place + front.length) tail = true) ↔
      ∃ front tail, word = front ++ tail ∧ Spread more tail) := by
  induction more with
  | nil =>
    have hfinish : ∀ place word, matchFrom [.finish] place word = true ↔ word = [] := by
      intro place word
      simp [matchFrom]
    exact ⟨hfinish, fun place word => by simp only [itemsBehind, hfinish, Spread]⟩
  | cons piece more ih =>
    -- what follows the wildcard of the piece, with that wildcard in front
    have hpiece : ∀ place word,
        (∃ front tail, word = front ++ tail ∧
          matchFrom (literal piece ++ itemsBehind piece.isEmpty more) (place + front.length) tail =
            true) ↔ Spread (piece :: more) word := by
      intro place word
      cases piece with
      | nil => exact ih.2 place word
      | cons l piece =>
        simp only [matchFrom_literal, List.isEmpty_cons, ih.1, Spread]
        constructor
        · rintro ⟨front, tail, rfl, rest, rfl, hrest⟩
          exact ⟨front, rest, rfl, hrest⟩
        · rintro ⟨front, rest, rfl, hrest⟩
          exact ⟨front, _, rfl, rest, rfl, hrest⟩
    constructor
    · intro place word
      have hitems : itemsBehind false (piece :: more) =
          .star .any :: (literal piece ++ itemsBehind piece.isEmpty more) := rfl
      rw [hitems, matchFrom, matchStar_any, hpiece]
    · intro place word
      have hitems : itemsBehind true (piece :: more) =
          literal piece ++ itemsBehind piece.isEmpty more := rfl
      rw [hitems, hpiece]
      constructor
      · exact fun h => ⟨[], word, rfl, h⟩
      · rintro ⟨front, tail, rfl, skipped, rest, rfl, hrest⟩
        exact ⟨front ++ skipped, rest, (List.append_assoc _ _ _).symm, hrest⟩

/-- A pattern accepts the words that begin with its first piece and in the rest of which the other
pieces stand. -/
theorem accepts_iff_spread {p : Pattern} {first : List Letter} {more : List (List Letter)}
    (h : pieces p.raw.letters = first :: more) (candidate : Text) :
    p.accepts candidate = true ↔
      ∃ tail, candidate.letters = first ++ tail ∧ Spread more tail := by
  have hmatch : p.accepts candidate =
      matchFrom (literal first ++ itemsBehind false more) 0 candidate.letters := by
    rw [accepts, read?_expression h]
    rfl
  simp only [hmatch, matchFrom_literal, (matchFrom_itemsBehind more).1]

end Pattern

end ManifestEdit
