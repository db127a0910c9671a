import ManifestEdit.Json.Parser
import ManifestEdit.Number.Text
import ManifestEdit.Proofs.Number.Exact

/-!
# Numbers read back from their texts

The text of every finite number is one number literal and is read back as that number.
-/

namespace ManifestEdit

/-! ## Runs of digits -/

/-- A text that a run of digits in front of it does not run into. -/
def NoDigitHead (cs : List Char) : Prop :=
  ∀ c ∈ cs.head?, c.isDigit = false

theorem noDigitHead_nil : NoDigitHead [] := by
  intro c hc
  cases hc

theorem noDigitHead_cons {c : Char} {rest : List Char} (h : c.isDigit = false) :
    NoDigitHead (c :: rest) := by
  intro d hd
  cases hd
  exact h

/-- A run ends where what follows it has no part in it. -/
theorem takeWhile_append_of_stop {α : Type} {p : α → Bool} {run rest : List α}
    (hrun : ∀ a ∈ run, p a = true) (hrest : ∀ a ∈ rest.head?, p a = false) :
    (run ++ rest).takeWhile p = run := by
  have hstop : rest.takeWhile p = [] := by
    cases rest with
    | nil => rfl
    | cons a more => simp [hrest a rfl]
  rw [List.takeWhile_append_of_pos hrun, hstop, List.append_nil]

theorem takeWhile_isDigit_append {digits rest : List Char} (hd : ∀ c ∈ digits, c.isDigit = true)
    (hr : NoDigitHead rest) : (digits ++ rest).takeWhile Char.isDigit = digits :=
  takeWhile_append_of_stop hd hr

theorem dropWhile_isDigit_append {digits rest : List Char} (hd : ∀ c ∈ digits, c.isDigit = true)
    (hr : NoDigitHead rest) : (digits ++ rest).dropWhile Char.isDigit = rest := by
  have hrest : rest.dropWhile Char.isDigit = rest := by
    cases rest with
    | nil => rfl
    | cons c more => simp [hr c rfl]
  rw [List.dropWhile_append_of_pos hd, hrest]

theorem isDigit_of_mem_takeWhile {c : Char} {cs : List Char}
    (h : c ∈ cs.takeWhile Char.isDigit) : c.isDigit = true := by
  induction cs with
  | nil => cases h
  | cons d rest ih =>
    rw [List.takeWhile_cons] at h
    split at h
    · rename_i hd
      rcases List.mem_cons.1 h with rfl | h
      · exact hd
      · exact ih h
    · cases h

theorem isDigit_of_mem_toDigits {n : Nat} {c : Char} (h : c ∈ Nat.toDigits 10 n) :
    c.isDigit = true :=
  Nat.isDigit_of_mem_toDigits (by decide) (by decide) h

theorem digitChar_ne_zero : ∀ n, n < 10 → 0 < n → n.digitChar ≠ '0' := by
  decide

/-- Only the number zero starts with a zero. -/
theorem toDigits_eq_cons {n : Nat} (h : 0 < n) :
    ∃ c rest, Nat.toDigits 10 n = c :: rest ∧ c ≠ '0' ∧ c.isDigit = true := by
  induction n using Nat.strongRecOn with
  | _ n ih =>
    by_cases hlt : n < 10
    · have hone : Nat.toDigits 10 n = [n.digitChar] := Nat.toDigits_of_lt_base hlt
      refine ⟨n.digitChar, [], hone, digitChar_ne_zero n hlt h, ?_⟩
      exact isDigit_of_mem_toDigits (hone ▸ List.mem_singleton.2 rfl)
    · obtain ⟨c, rest, hc, hne, hdig⟩ := ih (n / 10) (by omega) (by omega)
      refine ⟨c, rest ++ [(n % 10).digitChar], ?_, hne, hdig⟩
      rw [Nat.toDigits_of_base_le (by decide) (by omega), hc, List.cons_append]

namespace Literal

theorem natOfDigits_toDigits (n : Nat) : natOfDigits (Nat.toDigits 10 n) = n :=
  Nat.ofDigitChars_ten_toDigits

theorem scanWhole_toDigits (n : Nat) {rest : List Char} (h : NoDigitHead rest) :
    scanWhole (Nat.toDigits 10 n ++ rest) = some (Nat.toDigits 10 n, rest) := by
  rcases Nat.eq_zero_or_pos n with rfl | hpos
  · rfl
  · obtain ⟨c, more, hc, hne, hdig⟩ := toDigits_eq_cons hpos
    have hmore : ∀ d ∈ more, d.isDigit = true := fun d hd =>
      isDigit_of_mem_toDigits (hc ▸ List.mem_cons_of_mem c hd)
    rw [hc, List.cons_append, scanWhole, if_neg hne, if_pos hdig,
      takeWhile_isDigit_append hmore h, dropWhile_isDigit_append hmore h]

/-! ## What a literal consists of -/

theorem scanWhole_some {cs digits rest : List Char} (h : scanWhole cs = some (digits, rest)) :
    cs = digits ++ rest ∧ digits ≠ [] ∧ ∀ c ∈ digits, c.isDigit = true := by
  unfold scanWhole at h
  split at h
  · cases h
  · rename_i c more
    split at h
    · rename_i hc
      cases h
      refine ⟨rfl, List.cons_ne_nil _ _, ?_⟩
      intro d hd
      rw [List.mem_singleton.1 hd, hc]
      rfl
    · split at h
      · rename_i hdig
        cases h
        refine ⟨by rw [List.cons_append, List.takeWhile_append_dropWhile],
          List.cons_ne_nil _ _, ?_⟩
        intro d hd
        rcases List.mem_cons.1 hd with rfl | hd
        · exact hdig
        · exact isDigit_of_mem_takeWhile hd
      · cases h

theorem isNumeral_of_isDigit {c : Char} (h : c.isDigit = true) : Json.isNumeral c = true := by
  simp [Json.isNumeral, h]

theorem scanFraction_split (cs : List Char) :
    ∃ used, cs = used ++ (scanFraction cs).2 ∧ ∀ c ∈ used, Json.isNumeral c = true := by
  unfold scanFraction
  split
  · rename_i rest
    split
    · exact ⟨[], rfl, fun c hc => absurd hc List.not_mem_nil⟩
    · refine ⟨'.' :: rest.takeWhile Char.isDigit, ?_, ?_⟩
      · rw [List.cons_append, List.takeWhile_append_dropWhile]
      · intro c hc
        rcases List.mem_cons.1 hc with rfl | hc
        · rfl
        · exact isNumeral_of_isDigit (isDigit_of_mem_takeWhile hc)
  · exact ⟨[], rfl, fun c hc => absurd hc List.not_mem_nil⟩

theorem scanSign_split (cs : List Char) :
    ∃ used, cs = used ++ (scanSign cs).2 ∧ ∀ c ∈ used, Json.isNumeral c = true := by
  unfold scanSign
  split
  · exact ⟨['-'], rfl, by simp [Json.isNumeral]⟩
  · exact ⟨['+'], rfl, by simp [Json.isNumeral]⟩
  · exact ⟨[], rfl, fun c hc => absurd hc List.not_mem_nil⟩

theorem scanExponent_split (cs : List Char) :
    ∃ used, cs = used ++ (scanExponent cs).2 ∧ ∀ c ∈ used, Json.isNumeral c = true := by
  unfold scanExponent
  split
  · exact ⟨[], rfl, fun c hc => absurd hc List.not_mem_nil⟩
  · rename_i c rest
    split
    · rename_i hc
      obtain ⟨sign, hsign, hsignChars⟩ := scanSign_split rest
      dsimp only
      split
      · exact ⟨[], rfl, fun c hc => absurd hc List.not_mem_nil⟩
      · refine ⟨c :: (sign ++ (scanSign rest).2.takeWhile Char.isDigit), ?_, ?_⟩
        · rw [List.cons_append, List.append_assoc, List.takeWhile_append_dropWhile, ← hsign]
        · intro d hd
          rcases List.mem_cons.1 hd with rfl | hd
          · rcases hc with rfl | rfl <;> rfl
          · rcases List.mem_append.1 hd with hd | hd
            · exact hsignChars d hd
            · exact isNumeral_of_isDigit (isDigit_of_mem_takeWhile hd)
    · exact ⟨[], rfl, fun c hc => absurd hc List.not_mem_nil⟩

/-- The text of an unsigned literal: a digit, and then only characters of numbers. -/
def IsUnsigned (cs : List Char) : Prop :=
  (∃ c rest, cs = c :: rest ∧ c.isDigit = true) ∧ ∀ c ∈ cs, Json.isNumeral c = true

theorem isUnsigned_of_scanUnsigned {negative : Bool} {cs : List Char} {l : Literal}
    (h : scanUnsigned negative cs = some (l, [])) : IsUnsigned cs := by
  unfold scanUnsigned at h
  split at h
  · cases h
  · rename_i whole rest hwhole
    obtain ⟨hcs, hne, hdigits⟩ := scanWhole_some hwhole
    obtain ⟨fraction, hfraction, hfractionChars⟩ := scanFraction_split rest
    obtain ⟨exponent, hexponent, hexponentChars⟩ := scanExponent_split (scanFraction rest).2
    dsimp only at h
    have hend : (scanExponent (scanFraction rest).2).2 = [] := by
      rw [Option.some.injEq, Prod.mk.injEq] at h
      exact h.2
    rw [hend, List.append_nil] at hexponent
    have hall : cs = whole ++ (fraction ++ exponent) := by
      rw [hcs, ← hexponent, ← hfraction]
    constructor
    · cases whole with
      | nil => exact absurd rfl hne
      | cons c more => exact ⟨c, more ++ (fraction ++ exponent), hall, hdigits c (by simp)⟩
    · intro c hc
      rw [hall, List.mem_append, List.mem_append] at hc
      rcases hc with hc | hc | hc
      · exact isNumeral_of_isDigit (hdigits c hc)
      · exact hfractionChars c hc
      · exact hexponentChars c hc

theorem scan_eq_scanUnsigned {cs : List Char} (h : IsUnsigned cs) :
    scan cs = scanUnsigned false cs := by
  obtain ⟨⟨c, rest, rfl, hdig⟩, -⟩ := h
  unfold scan
  split
  · rename_i heq
    cases heq
    cases hdig
  · rfl

/-- The sign is all that a sign in front of a literal changes. -/
theorem scanUnsigned_sign (other : Bool) {negative : Bool} {cs rest : List Char} {l : Literal}
    (h : scanUnsigned negative cs = some (l, rest)) :
    l.negative = negative ∧ scanUnsigned other cs = some ({ l with negative := other }, rest) := by
  unfold scanUnsigned at h ⊢
  split at h
  · cases h
  · rename_i whole more hwhole
    dsimp only at h
    rw [Option.some.injEq, Prod.mk.injEq] at h
    obtain ⟨rfl, rfl⟩ := h
    exact ⟨rfl, rfl⟩

theorem scan_minus {cs : List Char} (h : IsUnsigned cs) {l : Literal} {rest : List Char}
    (hl : scan cs = some (l, rest)) :
    scan ('-' :: cs) = some ({ l with negative := true }, rest) := by
  rw [scan_eq_scanUnsigned h] at hl
  exact (scanUnsigned_sign true hl).2

end Literal

/-! ## Integers -/

namespace Number

theorem scanUnsigned_toDigits (n : Nat) :
    Literal.scanUnsigned false (Nat.toDigits 10 n) =
      some (⟨false, Nat.toDigits 10 n, [], none⟩, []) := by
  have hwhole := Literal.scanWhole_toDigits n noDigitHead_nil
  rw [List.append_nil] at hwhole
  rw [Literal.scanUnsigned, hwhole]
  rfl

theorem isUnsigned_toDigits (n : Nat) : Literal.IsUnsigned (Nat.toDigits 10 n) :=
  Literal.isUnsigned_of_scanUnsigned (scanUnsigned_toDigits n)

theorem scan_toDigits (n : Nat) :
    Literal.scan (Nat.toDigits 10 n) = some (⟨false, Nat.toDigits 10 n, [], none⟩, []) := by
  rw [Literal.scan_eq_scanUnsigned (isUnsigned_toDigits n), scanUnsigned_toDigits]

theorem scan_intText (i : Int) : scan (intText i) = some (.int i, []) := by
  unfold intText
  split
  · rename_i hneg
    rw [scan, Literal.scan_minus (isUnsigned_toDigits _) (scan_toDigits _)]
    have hvalue : -(i.natAbs : Int) = i := by omega
    rw [← hvalue]
    simp [Literal.value, Literal.natOfDigits_toDigits]
  · rename_i hneg
    rw [scan, scan_toDigits]
    have hvalue : (i.natAbs : Int) = i := by omega
    simp [Literal.value, Literal.natOfDigits_toDigits, hvalue]

end Number

/-! ## Doubles -/

namespace Double

theorem scanExponent_exact :
    Literal.scanExponent "e-1074".toList = (some (-1074), []) := by
  decide

theorem scanUnsigned_exactText (rank : Nat) :
    Literal.scanUnsigned false (exactText rank) =
      some (⟨false, Nat.toDigits 10 (quanta rank * fiveTo 1074), [], some (-1074)⟩, []) := by
  have hhead : NoDigitHead "e-1074".toList := noDigitHead_cons (by decide)
  have hwhole := Literal.scanWhole_toDigits (quanta rank * fiveTo 1074) hhead
  have hfraction : Literal.scanFraction "e-1074".toList = ([], "e-1074".toList) := by
    decide
  rw [Literal.scanUnsigned, exactText, hwhole]
  dsimp only
  rw [hfraction]
  dsimp only
  rw [scanExponent_exact]

theorem value_exponent (n : Nat) (e : Int) :
    Literal.value ⟨false, Nat.toDigits 10 n, [], some e⟩ = .double (ofDecimal false n e) := by
  simp [Literal.value, Literal.natOfDigits_toDigits]

/-- All the digits of a magnitude read back as it. -/
theorem scan_exactText {rank : Nat} (h : rank < rankLimit) :
    Number.scan (exactText rank) = some (.double (ofRank false rank), []) := by
  have hscan := scanUnsigned_exactText rank
  rw [Number.scan, Literal.scan_eq_scanUnsigned (Literal.isUnsigned_of_scanUnsigned hscan), hscan,
    Option.map_some]
  dsimp only
  rw [value_exponent, ofDecimal_exact false h]

theorem readsBack_iff {rank : Nat} {text : List Char} :
    readsBack rank text = true ↔ Number.scan text = some (.double (ofRank false rank), []) := by
  unfold readsBack
  split
  · rename_i n heq
    rw [heq, decide_eq_true_iff]
    simp
  · rename_i hne
    constructor
    · intro h
      cases h
    · intro h
      exact absurd h (hne _)

theorem scan_magnitudeText {rank : Nat} (h : rank < rankLimit) :
    Number.scan (magnitudeText rank) = some (.double (ofRank false rank), []) := by
  unfold magnitudeText
  cases hfind : (forms rank).find? (readsBack rank) with
  | none =>
    rw [Option.getD_none]
    exact scan_exactText h
  | some text =>
    rw [Option.getD_some]
    exact readsBack_iff.1 (List.find?_some hfind)

end Double

namespace Literal

theorem value_ne_of_negative {l : Literal} (h : l.negative = true) (rank : Fin Double.rankLimit) :
    l.value ≠ .double (.finite false rank) := by
  unfold value
  split
  · exact fun hv => Number.noConfusion hv
  · rw [h, Double.ofDecimal_signed]
    intro hv
    rw [Number.double.injEq] at hv
    cases hd : Double.ofDecimal false (natOfDigits (l.whole ++ l.fraction))
        (l.exponent.getD 0 - l.fraction.length) with
    | nan => rw [hd] at hv; cases hv
    | infinite negative => rw [hd] at hv; cases hv
    | finite negative other => rw [hd] at hv; cases hv

/-- The text of a double without a minus sign has no sign. -/
theorem isUnsigned_of_scan {cs : List Char} {rank : Fin Double.rankLimit}
    (h : Number.scan cs = some (.double (.finite false rank), [])) : IsUnsigned cs := by
  obtain ⟨⟨l, rest⟩, hl, hvalue⟩ := Option.map_eq_some_iff.1 h
  rw [Prod.mk.injEq] at hvalue
  obtain ⟨hvalue, hrest⟩ := hvalue
  subst hrest
  unfold scan at hl
  split at hl
  · have hsign := (scanUnsigned_sign true hl).1
    exact absurd hvalue (value_ne_of_negative hsign rank)
  · exact isUnsigned_of_scanUnsigned hl

theorem value_minus {l : Literal} {rank : Fin Double.rankLimit}
    (h : l.value = .double (.finite false rank)) :
    ({ l with negative := true } : Literal).value = .double (.finite true rank) := by
  unfold value at h ⊢
  split at h
  · cases h
  · rename_i hform
    rw [Number.double.injEq, Double.ofDecimal_signed] at h
    dsimp only
    rw [Number.double.injEq, Double.ofDecimal_signed]
    cases hd : Double.ofDecimal false (natOfDigits (l.whole ++ l.fraction))
        (l.exponent.getD 0 - l.fraction.length) with
    | nan => rw [hd] at h; cases h
    | infinite negative => rw [hd] at h; cases h
    | finite negative other =>
      rw [hd, Double.signed, Double.finite.injEq] at h
      rw [h.2]
      rfl

end Literal

/-! ## Numbers -/

namespace Number

/-- What the text of a number with digits looks like. -/
inductive IsText : List Char → Prop where
  | unsigned {cs : List Char} (h : Literal.IsUnsigned cs) : IsText cs
  | minus {cs : List Char} (h : Literal.IsUnsigned cs) : IsText ('-' :: cs)

theorem scan_minus {cs : List Char} {rank : Fin Double.rankLimit}
    (h : scan cs = some (.double (.finite false rank), [])) :
    scan ('-' :: cs) = some (.double (.finite true rank), []) := by
  obtain ⟨⟨l, rest⟩, hl, hvalue⟩ := Option.map_eq_some_iff.1 h
  rw [Prod.mk.injEq] at hvalue
  obtain ⟨hvalue, hrest⟩ := hvalue
  subst hrest
  rw [scan, Literal.scan_minus (Literal.isUnsigned_of_scan h) hl, Option.map_some]
  dsimp only
  rw [Literal.value_minus hvalue]

theorem scan_rank (rank : Fin Double.rankLimit) :
    scan (Double.magnitudeText rank.val) = some (.double (.finite false rank), []) := by
  rw [Double.scan_magnitudeText rank.isLt, Double.ofRank_of_lt]

theorem isText_text {n : Number} (h : n.isFinite = true) (words : Words) :
    IsText (n.text words) := by
  cases n with
  | int i =>
    rw [text, intText]
    split
    · exact .minus (isUnsigned_toDigits _)
    · exact .unsigned (isUnsigned_toDigits _)
  | double d =>
    cases d with
    | nan => cases h
    | infinite negative => cases h
    | finite negative rank =>
      have hunsigned := Literal.isUnsigned_of_scan (scan_rank rank)
      cases negative with
      | false => exact .unsigned hunsigned
      | true => exact .minus hunsigned

/-- The text of a finite number is one literal, and reads back as the number. -/
theorem scan_text {n : Number} (h : n.isFinite = true) (words : Words) :
    scan (n.text words) = some (n, []) := by
  cases n with
  | int i => exact scan_intText i
  | double d =>
    cases d with
    | nan => cases h
    | infinite negative => cases h
    | finite negative rank =>
      cases negative with
      | false => exact scan_rank rank
      | true => exact scan_minus (scan_rank rank)

end Number

end ManifestEdit
