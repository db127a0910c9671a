import ManifestEdit.Proofs.Json.Strings
import ManifestEdit.Proofs.Json.Bounds
import ManifestEdit.Proofs.Number.ReadBack

/-!
# Values read back

What is written of a value is read back as that value, in every layout and before any text that
does not run into it, where the value is readable: its keys are distinct, its integers fit and its
brackets do not nest too deep. The induction is on the value; the steps of the reader that a value
takes are counted beside it and bounded by the length of its text.
-/

namespace ManifestEdit

namespace Json

/-! ## Heads of texts -/

/-- A text that does not start with a part of a number. -/
def NoNumeralHead (ls : List Letter) : Prop :=
  ∀ c : Char, .char c ∈ ls.head? → isNumeral c = false

/-- A text that starts with no blank. -/
def NoBlankHead (ls : List Letter) : Prop :=
  ∀ l ∈ ls.head?, isBlank l = false

theorem noNumeralHead_cons {c : Char} (rest : List Letter) (h : isNumeral c = false) :
    NoNumeralHead (.char c :: rest) := by
  intro d hd
  cases hd
  exact h

theorem isNumeral_of_isBlank {c : Char} (h : isBlank c = true) : isNumeral c = false := by
  simp only [isBlank, Bool.or_eq_true, decide_eq_true_eq, Letter.char.injEq] at h
  rcases h with ((rfl | rfl) | rfl) | rfl <;> rfl

theorem noNumeralHead_append {blanks ls : List Letter} (hb : ∀ l ∈ blanks, isBlank l = true)
    (h : NoNumeralHead ls) : NoNumeralHead (blanks ++ ls) := by
  cases blanks with
  | nil => exact h
  | cons l rest =>
    intro c hc
    cases hc
    exact isNumeral_of_isBlank (hb _ List.mem_cons_self)

theorem skipBlanks_of_noBlankHead {ls : List Letter} (h : NoBlankHead ls) : skipBlanks ls = ls := by
  cases ls with
  | nil => rfl
  | cons l rest => simp [skipBlanks, h l rfl]

theorem skipBlanks_append {blanks ls : List Letter} (hb : ∀ l ∈ blanks, isBlank l = true)
    (h : NoBlankHead ls) : skipBlanks (blanks ++ ls) = ls := by
  rw [skipBlanks, List.dropWhile_append_of_pos hb]
  exact skipBlanks_of_noBlankHead h

theorem isBlank_lineBreak (layout : Layout) (depth : Nat) :
    ∀ l ∈ layout.lineBreak depth, isBlank l = true := by
  intro l hl
  cases layout with
  | inline => cases hl
  | lines indent =>
    rcases List.mem_cons.1 hl with rfl | hl
    · rfl
    · rw [List.eq_of_mem_replicate hl]
      rfl

/-- A separator is a comma with blanks after it. -/
theorem separator_eq (layout : Layout) (depth : Nat) :
    ∃ blanks, layout.separator depth = .char ',' :: blanks ∧ ∀ l ∈ blanks, isBlank l = true := by
  cases layout with
  | inline => exact ⟨[.char ' '], rfl, by simp [isBlank]⟩
  | lines indent => exact ⟨_, rfl, isBlank_lineBreak (.lines indent) depth⟩

/-! ## Numbers and words -/

theorem numerals_append {cs : List Char} (h : ∀ c ∈ cs, isNumeral c = true) {rest : List Letter}
    (hr : NoNumeralHead rest) : numerals (cs.map .char ++ rest) = cs := by
  induction cs with
  | nil =>
    rw [List.map_nil, List.nil_append]
    unfold numerals
    split
    · rename_i c more
      rw [if_neg]
      rw [hr c rfl]
      exact Bool.false_ne_true
    · rfl
  | cons c more ih =>
    rw [List.forall_mem_cons] at h
    rw [List.map_cons, List.cons_append, numerals, if_pos h.1, ih h.2]

theorem isNumeral_of_isText {cs : List Char} (h : Number.IsText cs) :
    ∀ c ∈ cs, isNumeral c = true := by
  cases h with
  | unsigned h => exact h.2
  | minus h => exact List.forall_mem_cons.2 ⟨rfl, h.2⟩

theorem scanNumber_text {n : Number} (h : n.isFinite = true) {rest : List Letter}
    (hr : NoNumeralHead rest) :
    scanNumber ((n.text numberWords).map .char ++ rest) = some (n, rest) := by
  have hall := isNumeral_of_isText (Number.isText_text h numberWords)
  rw [scanNumber, numerals_append hall hr, Number.scan_text h]
  simp

/-- Neither of the first two letters of a word is a digit. -/
theorem letters_of_mem_words {e : Text × Json} (h : e ∈ words) :
    ∃ (v w : Char) (rest : List Letter), e.1.letters = .char v :: .char w :: rest ∧
      v.isDigit = false ∧ w.isDigit = false := by
  simp only [words, List.mem_cons, List.not_mem_nil, or_false] at h
  rcases h with rfl | rfl | rfl | rfl | rfl | rfl
  iterate 6 exact ⟨_, _, _, rfl, rfl, rfl⟩

theorem scanWord_of_isText {cs : List Char} (h : Number.IsText cs) (rest : List Letter) :
    scanWord (cs.map .char ++ rest) = none := by
  rw [scanWord, List.findSome?_eq_none_iff]
  intro e he
  obtain ⟨v, w, more, hletters, hv, hw⟩ := letters_of_mem_words he
  have hno : e.1.letters.isPrefixOf (cs.map .char ++ rest) = false := by
    rw [hletters]
    cases h with
    | unsigned h =>
      obtain ⟨⟨c, tail, rfl, hc⟩, -⟩ := h
      have hne : v ≠ c := fun heq => by rw [heq, hc] at hv; cases hv
      simp [List.isPrefixOf, hne]
    | minus h =>
      obtain ⟨⟨c, tail, rfl, hc⟩, -⟩ := h
      have hne : w ≠ c := fun heq => by rw [heq, hc] at hw; cases hw
      simp [List.isPrefixOf, hne]
  simp [afterWord?, hno]

/-- The texts of numbers start with no bracket, brace, quote or blank. -/
theorem head_of_isText {cs : List Char} (h : Number.IsText cs) :
    ∃ c rest, cs = c :: rest ∧ isNumeral c = true := by
  have hall := isNumeral_of_isText h
  cases h with
  | unsigned h =>
    obtain ⟨⟨c, rest, rfl, -⟩, -⟩ := h
    exact ⟨c, rest, rfl, hall c List.mem_cons_self⟩
  | minus h => exact ⟨'-', _, rfl, rfl⟩

theorem scanValue_scalar [Machine] {c : Char} (fuel levels : Nat) (rest : List Letter)
    (hquote : c ≠ '"') (hbrace : c ≠ '{') (hbracket : c ≠ '[') :
    scanValue (fuel + 1) levels (.char c :: rest) = scanScalar (.char c :: rest) := by
  rw [scanValue.eq_def]
  dsimp only
  split <;> rename_i heq
  · cases heq
    exact absurd rfl hquote
  · cases heq
    exact absurd rfl hbrace
  · cases heq
    exact absurd rfl hbracket
  · rfl

theorem scanValue_number [Machine] {n : Number} (h : n.isFinite = true) (hfits : n.fits = true)
    (fuel levels : Nat) {rest : List Letter}
    (hr : NoNumeralHead rest) :
    scanValue (fuel + 1) levels ((n.text numberWords).map .char ++ rest) = .ok (num n, rest) := by
  have htext := Number.isText_text h numberWords
  have hscan := scanNumber_text h hr
  have hword := scanWord_of_isText htext rest
  obtain ⟨c, more, hc, hnumeral⟩ := head_of_isText htext
  rw [hc, List.map_cons, List.cons_append] at hscan hword ⊢
  rw [scanValue_scalar, scanScalar, hword]
  · dsimp only
    rw [hscan]
    exact if_pos hfits
  all_goals
    rintro rfl
    cases hnumeral

/-! ## Steps -/

mutual

/-- The steps that the reader takes for a value; a level is one step, and so is a member. -/
def steps : Json → Nat
  | null => 1
  | bool _ => 1
  | num _ => 1
  | str _ => 1
  | arr items => 1 + itemSteps items
  | obj fields => 1 + fieldSteps fields

def itemSteps : List Json → Nat
  | [] => 0
  | j :: rest => 1 + j.steps + itemSteps rest

def fieldSteps : List (Text × Json) → Nat
  | [] => 0
  | (_, v) :: rest => 1 + v.steps + fieldSteps rest

end

theorem one_le_length_text (n : Number) : 1 ≤ (n.text numberWords).length := by
  cases h : n.isFinite with
  | true =>
    obtain ⟨c, rest, hc, -⟩ := head_of_isText (Number.isText_text h numberWords)
    rw [hc, List.length_cons]
    omega
  | false =>
    cases n with
    | int i => cases h
    | double d =>
      cases d with
      | nan => decide
      | infinite negative => cases negative <;> decide
      | finite negative rank => cases h

mutual

theorem steps_le_length (layout : Layout) :
    ∀ (depth : Nat) (j : Json), j.steps + 1 ≤ 2 * (write layout depth j).length
  | depth, null => by
    have hlength : (write layout depth null).length = 4 := rfl
    rw [hlength, steps]
    omega
  | depth, bool true => by
    have hlength : (write layout depth (bool true)).length = 4 := rfl
    rw [hlength, steps]
    omega
  | depth, bool false => by
    have hlength : (write layout depth (bool false)).length = 5 := rfl
    rw [hlength, steps]
    omega
  | depth, num n => by
    have hlength := one_le_length_text n
    rw [steps, write, List.length_map]
    omega
  | depth, str s => by
    rw [steps, write, quote, List.length_cons]
    omega
  | depth, arr [] => by
    rw [steps, itemSteps, write, List.length_cons]
    omega
  | depth, arr (j :: rest) => by
    have hj := steps_le_length layout (depth + 1) j
    have hrest := itemSteps_le_length layout (depth + 1) rest
    rw [steps, itemSteps, write]
    simp only [List.length_cons, List.length_append]
    have hclose : (letters "]").length = 1 := rfl
    omega
  | depth, obj [] => by
    rw [steps, fieldSteps, write, List.length_cons]
    omega
  | depth, obj ((k, v) :: rest) => by
    have hv := steps_le_length layout (depth + 1) v
    have hrest := fieldSteps_le_length layout (depth + 1) rest
    rw [steps, fieldSteps, write]
    simp only [List.length_cons, List.length_append]
    have hclose : (letters "\x7d").length = 1 := rfl
    omega

theorem itemSteps_le_length (layout : Layout) :
    ∀ (depth : Nat) (items : List Json),
      itemSteps items ≤ 2 * (writeItems layout depth items).length
  | depth, [] => by
    rw [itemSteps]
    omega
  | depth, j :: rest => by
    have hj := steps_le_length layout depth j
    have hrest := itemSteps_le_length layout depth rest
    rw [itemSteps, writeItems]
    simp only [List.length_append]
    omega

theorem fieldSteps_le_length (layout : Layout) :
    ∀ (depth : Nat) (fields : List (Text × Json)),
      fieldSteps fields ≤ 2 * (writeFields layout depth fields).length
  | depth, [] => by
    rw [fieldSteps]
    omega
  | depth, (k, v) :: rest => by
    have hv := steps_le_length layout depth v
    have hrest := fieldSteps_le_length layout depth rest
    rw [fieldSteps, writeFields]
    simp only [List.length_append]
    omega

end

/-! ## Values -/

theorem head_of_write (layout : Layout) (depth : Nat) (j : Json) :
    ∃ c rest, write layout depth j = .char c :: rest ∧ isBlank c = false ∧ c ≠ ']' ∧
      c ≠ '\ufeff' := by
  cases j with
  | null => exact ⟨'n', _, rfl, rfl, by decide, by decide⟩
  | bool b =>
    cases b with
    | true => exact ⟨'t', _, rfl, rfl, by decide, by decide⟩
    | false => exact ⟨'f', _, rfl, rfl, by decide, by decide⟩
  | str s => exact ⟨'"', _, rfl, rfl, by decide, by decide⟩
  | arr items =>
    cases items with
    | nil => exact ⟨'[', _, rfl, rfl, by decide, by decide⟩
    | cons j rest => exact ⟨'[', _, rfl, rfl, by decide, by decide⟩
  | obj fields =>
    cases fields with
    | nil => exact ⟨'{', _, rfl, rfl, by decide, by decide⟩
    | cons e rest => exact ⟨'{', _, rfl, rfl, by decide, by decide⟩
  | num n =>
    cases h : n.isFinite with
    | true =>
      obtain ⟨c, rest, hc, hnumeral⟩ := head_of_isText (Number.isText_text h numberWords)
      refine ⟨c, rest.map .char, by rw [write, hc, List.map_cons], ?_, ?_, ?_⟩
      · cases hblank : isBlank c with
        | false => rfl
        | true => rw [isNumeral_of_isBlank hblank] at hnumeral; cases hnumeral
      · rintro rfl
        cases hnumeral
      · rintro rfl
        cases hnumeral
    | false =>
      cases n with
      | int i => cases h
      | double d =>
        cases d with
        | nan => exact ⟨'N', _, rfl, rfl, by decide, by decide⟩
        | infinite negative =>
          cases negative with
          | false => exact ⟨'I', _, rfl, rfl, by decide, by decide⟩
          | true => exact ⟨'-', _, rfl, rfl, by decide, by decide⟩
        | finite negative rank => cases h

theorem scanValue_num [Machine] (layout : Layout) (depth : Nat) {n : Number}
    (hfits : n.fits = true) (fuel levels : Nat) {rest : List Letter} (hr : NoNumeralHead rest) :
    scanValue (fuel + 1) levels (write layout depth (num n) ++ rest) = .ok (num n, rest) := by
  cases h : n.isFinite with
  | true => exact scanValue_number h hfits fuel levels hr
  | false =>
    cases n with
    | int i => cases h
    | double d =>
      cases d with
      | nan => rfl
      | infinite negative =>
        cases negative with
        | false => rfl
        | true => rfl
      | finite negative rank => cases h

/-- Items with the separators between them. -/
def writeAllItems (layout : Layout) (depth : Nat) : List Json → List Letter
  | [] => []
  | j :: rest => write layout depth j ++ writeItems layout depth rest

/-- Fields with the separators between them. -/
def writeAllFields (layout : Layout) (depth : Nat) : List (Text × Json) → List Letter
  | [] => []
  | (k, v) :: rest =>
    quote k ++ letters ": " ++ write layout depth v ++ writeFields layout depth rest

theorem writeItems_cons (layout : Layout) (depth : Nat) (j : Json) (rest : List Json) :
    writeItems layout depth (j :: rest) =
      layout.separator depth ++ writeAllItems layout depth (j :: rest) := by
  rw [writeItems, writeAllItems, List.append_assoc]

theorem writeFields_cons (layout : Layout) (depth : Nat) (e : Text × Json)
    (rest : List (Text × Json)) :
    writeFields layout depth (e :: rest) =
      layout.separator depth ++ writeAllFields layout depth (e :: rest) := by
  simp only [writeFields, writeAllFields, List.append_assoc]

theorem write_arr (layout : Layout) (depth : Nat) (j : Json) (rest : List Json) :
    write layout depth (arr (j :: rest)) =
      .char '[' :: (layout.lineBreak (depth + 1) ++
        (writeAllItems layout (depth + 1) (j :: rest) ++
          (layout.lineBreak depth ++ [.char ']']))) := by
  simp only [write, writeAllItems, List.append_assoc]
  rfl

theorem write_obj (layout : Layout) (depth : Nat) (e : Text × Json)
    (rest : List (Text × Json)) :
    write layout depth (obj (e :: rest)) =
      .char '{' :: (layout.lineBreak (depth + 1) ++
        (writeAllFields layout (depth + 1) (e :: rest) ++
          (layout.lineBreak depth ++ [.char '}']))) := by
  simp only [write, writeAllFields, List.append_assoc]
  rfl

/-! ## Readable values -/

/-- A value that can be read back where so many levels of brackets may be opened. -/
structure Readable [Machine] (levels : Nat) (j : Json) : Prop where
  distinct : j.isDistinct = true
  fits : j.fits = true
  nesting : j.nesting ≤ levels

section Readable

variable [Machine] {levels : Nat}

theorem Readable.exists_succ_arr {items : List Json} (h : Readable levels (arr items)) :
    ∃ n, levels = n + 1 ∧ ∀ j ∈ items, Readable n j := by
  have hnesting := h.nesting
  rw [Json.nesting] at hnesting
  obtain ⟨n, rfl⟩ : ∃ n, levels = n + 1 := ⟨levels - 1, by omega⟩
  exact ⟨n, rfl, fun j hj => ⟨isDistinct_arr.1 h.distinct j hj, fits_arr.1 h.fits j hj,
    nesting_arr_le_iff.1 h.nesting j hj⟩⟩

theorem Readable.exists_succ_obj {fields : List (Text × Json)} (h : Readable levels (obj fields)) :
    ∃ n, levels = n + 1 ∧ (Entries.keys fields).Nodup ∧ ∀ e ∈ fields, Readable n e.2 := by
  have hnesting := h.nesting
  rw [Json.nesting] at hnesting
  obtain ⟨n, rfl⟩ : ∃ n, levels = n + 1 := ⟨levels - 1, by omega⟩
  obtain ⟨hnodup, hdistinct⟩ := isDistinct_obj.1 h.distinct
  exact ⟨n, rfl, hnodup, fun e he => ⟨hdistinct e he, fits_obj.1 h.fits e he,
    nesting_obj_le_iff.1 h.nesting e he⟩⟩

end Readable

/-! ## Steps of the reader -/

theorem quote_append (k : Text) (rest : List Letter) :
    quote k ++ rest = .char '"' :: (k.letters.flatMap escapeLetter ++ .char '"' :: rest) := by
  rw [quote, List.cons_append, List.append_assoc]
  rfl

theorem skipBlanks_colon {text : List Letter} (hsolid : NoBlankHead text) :
    skipBlanks (letters ": " ++ text) = .char ':' :: .char ' ' :: text ∧
      skipBlanks (.char ' ' :: text) = text := by
  have hblank : ∀ l ∈ [Letter.char ' '], isBlank l = true := by simp [isBlank]
  exact ⟨rfl, skipBlanks_append hblank hsolid⟩

section Reader

variable [Machine] {levels : Nat}

theorem scanValue_str (t : Text) (fuel levels : Nat) (rest : List Letter) :
    scanValue (fuel + 1) levels (quote t ++ rest) = .ok (str t, rest) := by
  rw [quote_append, scanValue, stringBody_quoted]
  rfl

theorem scanValue_arr {fuel : Nat} {c : Char} {rest more after : List Letter} {items : List Json}
    (hskip : skipBlanks rest = .char c :: more) (hc : c ≠ ']')
    (h : scanItems fuel levels (.char c :: more) = .ok (items, after)) :
    scanValue (fuel + 1) (levels + 1) (.char '[' :: rest) = .ok (arr items, after) := by
  rw [scanValue, hskip]
  split
  · rename_i heq
    cases heq
    exact absurd rfl hc
  · rw [h]
    rfl

theorem scanValue_obj {fuel : Nat} {rest more after : List Letter} {members : List (Text × Json)}
    (hskip : skipBlanks rest = .char '"' :: more)
    (h : scanMembers fuel levels (.char '"' :: more) = .ok (members, after))
    (hkeys : (Entries.keys members).Nodup) :
    scanValue (fuel + 1) (levels + 1) (.char '{' :: rest) = .ok (obj members, after) := by
  rw [scanValue, hskip]
  split
  · rename_i heq
    cases heq
  · rw [h]
    dsimp only [bind, Except.bind, pure, Except.pure]
    rw [Entries.ofPairs_of_nodup hkeys]

theorem scanItems_last {fuel : Nat} {ls rest after : List Letter} {j : Json}
    (hvalue : scanValue fuel levels ls = .ok (j, rest))
    (hskip : skipBlanks rest = .char ']' :: after) :
    scanItems (fuel + 1) levels ls = .ok ([j], after) := by
  rw [scanItems, hvalue]
  simp only [hskip, bind, Except.bind, pure, Except.pure]

theorem scanItems_more {fuel : Nat} {ls rest more after : List Letter} {j : Json}
    {items : List Json} (hvalue : scanValue fuel levels ls = .ok (j, rest))
    (hskip : skipBlanks rest = .char ',' :: more)
    (h : scanItems fuel levels (skipBlanks more) = .ok (items, after)) :
    scanItems (fuel + 1) levels ls = .ok (j :: items, after) := by
  rw [scanItems, hvalue]
  simp only [hskip, h, bind, Except.bind, pure, Except.pure]

theorem scanMembers_last {fuel : Nat} {k : Text} {ls rest after : List Letter} {v : Json}
    (hsolid : NoBlankHead ls) (hvalue : scanValue fuel levels ls = .ok (v, rest))
    (hskip : skipBlanks rest = .char '}' :: after) :
    scanMembers (fuel + 1) levels (quote k ++ (letters ": " ++ ls)) = .ok ([(k, v)], after) := by
  obtain ⟨hcolon, hspace⟩ := skipBlanks_colon hsolid
  rw [quote_append, scanMembers, stringBody_quoted]
  simp only [hcolon, hspace, hvalue, hskip, bind, Except.bind, pure, Except.pure]

theorem scanMembers_more {fuel : Nat} {k : Text} {ls rest more after : List Letter} {v : Json}
    {members : List (Text × Json)} (hsolid : NoBlankHead ls)
    (hvalue : scanValue fuel levels ls = .ok (v, rest))
    (hskip : skipBlanks rest = .char ',' :: more)
    (h : scanMembers fuel levels (skipBlanks more) = .ok (members, after)) :
    scanMembers (fuel + 1) levels (quote k ++ (letters ": " ++ ls)) =
      .ok ((k, v) :: members, after) := by
  obtain ⟨hcolon, hspace⟩ := skipBlanks_colon hsolid
  rw [quote_append, scanMembers, stringBody_quoted]
  simp only [hcolon, hspace, hvalue, hskip, h, bind, Except.bind, pure, Except.pure]

end Reader

/-! ## Values read back -/

theorem noBlankHead_write (layout : Layout) (depth : Nat) (j : Json) (rest : List Letter) :
    NoBlankHead (write layout depth j ++ rest) := by
  obtain ⟨c, more, hc, hblank, -, -⟩ := head_of_write layout depth j
  intro l hl
  rw [hc] at hl
  cases hl
  exact hblank

theorem noBlankHead_cons {c : Char} (rest : List Letter) (h : isBlank c = false) :
    NoBlankHead (.char c :: rest) := by
  intro l hl
  cases hl
  exact h

theorem noBlankHead_allItems (layout : Layout) (depth : Nat) (j : Json) (items : List Json)
    (rest : List Letter) : NoBlankHead (writeAllItems layout depth (j :: items) ++ rest) := by
  rw [writeAllItems, List.append_assoc]
  exact noBlankHead_write layout depth j _

theorem noBlankHead_allFields (layout : Layout) (depth : Nat) (e : Text × Json)
    (fields : List (Text × Json)) (rest : List Letter) :
    NoBlankHead (writeAllFields layout depth (e :: fields) ++ rest) := by
  simp only [writeAllFields, List.append_assoc]
  rw [quote_append]
  exact noBlankHead_cons _ rfl

theorem exists_fuel {j : Json} {fuel : Nat} (h : j.steps ≤ fuel) : ∃ n, fuel = n + 1 := by
  have hpos : 1 ≤ j.steps := by
    cases j <;> rw [steps] <;> omega
  exact ⟨fuel - 1, by omega⟩

section ReadBack

variable [Machine]

mutual

/-- What is written of a value is read back, before any text that does not run into a number. -/
theorem scanValue_write (layout : Layout) : ∀ (j : Json) (depth fuel levels : Nat)
    {rest : List Letter}, Readable levels j → j.steps ≤ fuel → NoNumeralHead rest →
      scanValue fuel levels (write layout depth j ++ rest) = .ok (j, rest)
  | null, depth, fuel, levels, rest, _, hfuel, _ => by
    obtain ⟨fuel, rfl⟩ := exists_fuel hfuel
    rfl
  | bool b, depth, fuel, levels, rest, _, hfuel, _ => by
    obtain ⟨fuel, rfl⟩ := exists_fuel hfuel
    cases b with
    | true => rfl
    | false => rfl
  | num n, depth, fuel, levels, rest, hj, hfuel, hrest => by
    obtain ⟨fuel, rfl⟩ := exists_fuel hfuel
    exact scanValue_num layout depth hj.fits fuel levels hrest
  | str s, depth, fuel, levels, rest, _, hfuel, _ => by
    obtain ⟨fuel, rfl⟩ := exists_fuel hfuel
    exact scanValue_str s fuel levels rest
  | arr [], depth, fuel, levels, rest, hj, hfuel, _ => by
    obtain ⟨fuel, rfl⟩ := exists_fuel hfuel
    obtain ⟨levels, rfl, -⟩ := hj.exists_succ_arr
    rfl
  | arr (j :: items), depth, fuel, levels, rest, hj, hfuel, _ => by
    obtain ⟨fuel, rfl⟩ := exists_fuel hfuel
    obtain ⟨levels, rfl, hreadable⟩ := hj.exists_succ_arr
    rw [steps] at hfuel
    have hitems := scanItems_write layout (j :: items) (List.cons_ne_nil _ _) (depth + 1) fuel
      levels hreadable (by omega) (isBlank_lineBreak layout depth) rest
    have hskip := skipBlanks_append (isBlank_lineBreak layout (depth + 1))
      (noBlankHead_allItems layout (depth + 1) j items
        (layout.lineBreak depth ++ .char ']' :: rest))
    obtain ⟨c, more, hc, -, hne, -⟩ := head_of_write layout (depth + 1) j
    rw [writeAllItems, hc, List.cons_append, List.cons_append] at hitems hskip
    rw [write_arr, writeAllItems, hc]
    simp only [List.cons_append, List.append_assoc, List.nil_append] at hitems hskip ⊢
    exact scanValue_arr hskip hne hitems
  | obj [], depth, fuel, levels, rest, hj, hfuel, _ => by
    obtain ⟨fuel, rfl⟩ := exists_fuel hfuel
    obtain ⟨levels, rfl, -⟩ := hj.exists_succ_obj
    rfl
  | obj ((k, v) :: fields), depth, fuel, levels, rest, hj, hfuel, _ => by
    obtain ⟨fuel, rfl⟩ := exists_fuel hfuel
    obtain ⟨levels, rfl, hnodup, hreadable⟩ := hj.exists_succ_obj
    rw [steps] at hfuel
    have hmembers := scanMembers_write layout ((k, v) :: fields) (List.cons_ne_nil _ _)
      (depth + 1) fuel levels hreadable (by omega) (isBlank_lineBreak layout depth) rest
    have hskip := skipBlanks_append (isBlank_lineBreak layout (depth + 1))
      (noBlankHead_allFields layout (depth + 1) (k, v) fields
        (layout.lineBreak depth ++ .char '}' :: rest))
    rw [write_obj]
    simp only [writeAllFields, List.append_assoc, quote_append, List.cons_append,
      List.nil_append] at hmembers hskip ⊢
    exact scanValue_obj hskip hmembers hnodup

theorem scanItems_write (layout : Layout) : ∀ (items : List Json), items ≠ [] →
    ∀ (depth fuel levels : Nat) {closing : List Letter}, (∀ j ∈ items, Readable levels j) →
      itemSteps items ≤ fuel → (∀ l ∈ closing, isBlank l = true) → ∀ rest : List Letter,
        scanItems fuel levels
            (writeAllItems layout depth items ++ (closing ++ .char ']' :: rest)) =
          .ok (items, rest)
  | [], hne, _, _, _, _, _, _, _, _ => absurd rfl hne
  | [j], _, depth, fuel, levels, closing, hreadable, hfuel, hclosing, rest => by
    rw [itemSteps, itemSteps] at hfuel
    obtain ⟨fuel, rfl⟩ : ∃ n, fuel = n + 1 := ⟨fuel - 1, by omega⟩
    have hvalue := scanValue_write layout j depth fuel levels
      (hreadable j List.mem_cons_self) (by omega)
      (noNumeralHead_append hclosing (noNumeralHead_cons rest (rfl : isNumeral ']' = false)))
    rw [writeAllItems, writeItems, List.append_nil]
    exact scanItems_last hvalue (skipBlanks_append hclosing (noBlankHead_cons rest rfl))
  | j :: next :: items, _, depth, fuel, levels, closing, hreadable, hfuel, hclosing, rest => by
    rw [itemSteps] at hfuel
    obtain ⟨fuel, rfl⟩ : ∃ n, fuel = n + 1 := ⟨fuel - 1, by omega⟩
    obtain ⟨hj, hreadable⟩ := List.forall_mem_cons.1 hreadable
    obtain ⟨blanks, hseparator, hblanks⟩ := separator_eq layout depth
    have hitems := scanItems_write layout (next :: items) (List.cons_ne_nil _ _) depth fuel levels
      hreadable (by omega) hclosing rest
    have hskip := skipBlanks_append hblanks
      (noBlankHead_allItems layout depth next items (closing ++ .char ']' :: rest))
    rw [← hskip] at hitems
    have hvalue := scanValue_write layout j depth fuel levels hj (by omega)
      (noNumeralHead_cons (blanks ++ (writeAllItems layout depth (next :: items) ++
        (closing ++ .char ']' :: rest))) (rfl : isNumeral ',' = false))
    rw [writeAllItems, writeItems_cons, hseparator]
    simp only [List.cons_append, List.append_assoc]
    exact scanItems_more hvalue rfl hitems

theorem scanMembers_write (layout : Layout) : ∀ (fields : List (Text × Json)), fields ≠ [] →
    ∀ (depth fuel levels : Nat) {closing : List Letter}, (∀ e ∈ fields, Readable levels e.2) →
      fieldSteps fields ≤ fuel → (∀ l ∈ closing, isBlank l = true) → ∀ rest : List Letter,
        scanMembers fuel levels
            (writeAllFields layout depth fields ++ (closing ++ .char '}' :: rest)) =
          .ok (fields, rest)
  | [], hne, _, _, _, _, _, _, _, _ => absurd rfl hne
  | [(k, v)], _, depth, fuel, levels, closing, hreadable, hfuel, hclosing, rest => by
    rw [fieldSteps, fieldSteps] at hfuel
    obtain ⟨fuel, rfl⟩ : ∃ n, fuel = n + 1 := ⟨fuel - 1, by omega⟩
    have hvalue := scanValue_write layout v depth fuel levels
      (hreadable (k, v) List.mem_cons_self) (by omega)
      (noNumeralHead_append hclosing (noNumeralHead_cons rest (rfl : isNumeral '}' = false)))
    simp only [writeAllFields, writeFields, List.append_nil, List.append_assoc]
    exact scanMembers_last (noBlankHead_write layout depth v _) hvalue
      (skipBlanks_append hclosing (noBlankHead_cons rest rfl))
  | (k, v) :: next :: fields, _, depth, fuel, levels, closing, hreadable, hfuel, hclosing,
      rest => by
    rw [fieldSteps] at hfuel
    obtain ⟨fuel, rfl⟩ : ∃ n, fuel = n + 1 := ⟨fuel - 1, by omega⟩
    obtain ⟨hv, hreadable⟩ := List.forall_mem_cons.1 hreadable
    obtain ⟨blanks, hseparator, hblanks⟩ := separator_eq layout depth
    have hmembers := scanMembers_write layout (next :: fields) (List.cons_ne_nil _ _) depth fuel
      levels hreadable (by omega) hclosing rest
    have hskip := skipBlanks_append hblanks
      (noBlankHead_allFields layout depth next fields (closing ++ .char '}' :: rest))
    rw [← hskip] at hmembers
    have hvalue := scanValue_write layout v depth fuel levels hv (by omega)
      (noNumeralHead_cons (blanks ++ (writeAllFields layout depth (next :: fields) ++
        (closing ++ .char '}' :: rest))) (rfl : isNumeral ',' = false))
    rw [writeAllFields, writeFields_cons, hseparator]
    simp only [List.cons_append, List.append_assoc]
    exact scanMembers_more (noBlankHead_write layout depth v _) hvalue rfl hmembers

end

theorem scanText_write (layout : Layout) {j : Json} (h : Readable Machine.readable j) :
    scanText (write layout 0 j ++ letters "\n") = .ok j := by
  have hlength := steps_le_length layout 0 j
  have hfuel : j.steps ≤ 2 * (write layout 0 j ++ letters "\n").length + 2 := by
    rw [List.length_append]
    omega
  have hvalue : scanValue _ _ (write layout 0 j ++ letters "\n") = .ok (j, letters "\n") :=
    scanValue_write layout j 0 _ _ h hfuel
      (noNumeralHead_cons [] (rfl : isNumeral '\n' = false))
  have hskip := skipBlanks_of_noBlankHead (noBlankHead_write layout 0 j (letters "\n"))
  have hend : skipBlanks (letters "\n") = [] := rfl
  obtain ⟨c, more, hc, -, -, hmark⟩ := head_of_write layout 0 j
  unfold scanText
  split
  · rename_i heq
    rw [hc] at heq
    cases heq
    exact absurd rfl hmark
  · simp only [hskip, hvalue, hend]

/-- The text of a readable value is parsed as that value. -/
theorem parse_lines (indent : Nat) {j : Json} (h : Readable Machine.readable j) :
    parse (j.lines indent) = .ok j := by
  rw [parse, lines]
  dsimp only
  rw [scanText_write (.lines indent) h]

/-- Exactly the values within the bounds of the machine have a text. -/
theorem render_eq_ok_iff {j : Json} {indent : Nat} {text : Text} :
    j.render indent = .ok text ↔
      (j.depth ≤ Machine.writable ∧ j.fits = true) ∧ j.lines indent = text := by
  rw [← @overrun?_eq_none_iff _ _ .nestingWritten, render]
  cases overrun? .nestingWritten Machine.writable j <;> simp

theorem render_eq_ok {j : Json} (hdepth : j.depth ≤ Machine.writable) (hfits : j.fits = true)
    (indent : Nat) : j.render indent = .ok (j.lines indent) :=
  render_eq_ok_iff.2 ⟨⟨hdepth, hfits⟩, rfl⟩

end ReadBack

end Json

end ManifestEdit
