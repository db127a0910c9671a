import ManifestEdit.Json.Parser
import ManifestEdit.Json.Printer

/-!
# Strings read back

What is written between quotes is read back letter by letter: halves of surrogate pairs are written
as they are, and the codes of control characters are codes of no half.
-/

namespace ManifestEdit

namespace Json

/-- A piece that is one letter of the string, whatever follows it. -/
def Piece.IsLetter (p : Piece) (l : Letter) : Prop :=
  p = .plain l ∨ ∃ c : Char, l = .char c ∧ p = .coded l

theorem joinPieces_cons {p : Piece} {l : Letter} (h : p.IsLetter l) (pieces : List Piece) :
    joinPieces (p :: pieces) = l :: joinPieces pieces := by
  rcases h with rfl | ⟨c, rfl, rfl⟩
  · rw [joinPieces]
  · rw [joinPieces]
    intro _ _ _ _ hhalf
    cases hhalf

theorem scanString_plain (opening : Nat) {l : Letter} {tail rest : List Letter}
    {pieces : List Piece} (hquote : l ≠ '"') (hslash : l ≠ '\\') (hcode : ¬ l.code < 0x20)
    (h : scanString opening tail = .ok (pieces, rest)) :
    scanString opening (l :: tail) = .ok (.plain l :: pieces, rest) := by
  rw [scanString.eq_def]
  split <;> rename_i heq <;> cases heq
  · exact absurd rfl hquote
  iterate 4 exact absurd rfl hslash
  rw [if_neg hcode, h]

theorem scanString_escaped (opening : Nat) {c d : Char} {tail rest : List Letter}
    {pieces : List Piece} (hd : escaped? d = some c) (hu : d ≠ 'u')
    (h : scanString opening tail = .ok (pieces, rest)) :
    scanString opening ('\\' :: d :: tail) = .ok (.plain c :: pieces, rest) := by
  rw [scanString.eq_def]
  split <;> rename_i heq <;> cases heq
  · exact absurd rfl hu
  · exact absurd rfl hu
  · rw [hd, h]
  · rename_i hother
    exact absurd rfl (hother _ _ rfl)

theorem hexCode?_hexDigitText : ∀ n, n < 0x20 →
    hexCode? '0' '0' (hexDigitText (n / 16)) (hexDigitText (n % 16)) = some n := by
  decide

theorem ofCode_toNat {c : Char} (h : c.toNat < 0x20) : Letter.ofCode c.toNat = .char c := by
  have hlow : ¬ (Letter.firstHalf ≤ c.toNat ∧ c.toNat < Letter.firstHalf + 0x800) := by
    simp only [Letter.firstHalf]
    omega
  rw [Letter.ofCode, dif_neg hlow, Char.ofNat_toNat]

theorem scanString_control (opening : Nat) {c : Char} {l : Letter} {tail rest : List Letter}
    {pieces : List Piece} (hc : c.toNat < 0x20)
    (h : scanString opening (l :: tail) = .ok (pieces, rest)) :
    scanString opening ('\\' :: 'u' :: '0' :: '0' :: hexDigitText (c.toNat / 16) ::
      hexDigitText (c.toNat % 16) :: l :: tail) = .ok (.coded c :: pieces, rest) := by
  rw [scanString, hexCode?_hexDigitText c.toNat hc]
  dsimp only
  rw [h, ofCode_toNat hc]

theorem scanString_escapeChar (opening : Nat) (c : Char) {l : Letter} {tail rest : List Letter}
    {pieces : List Piece} (h : scanString opening (l :: tail) = .ok (pieces, rest)) :
    ∃ p, Piece.IsLetter p c ∧
      scanString opening ((escapeChar c).map .char ++ l :: tail) = .ok (p :: pieces, rest) := by
  unfold escapeChar
  split
  iterate 7 exact ⟨.plain _, .inl rfl, scanString_escaped opening rfl (by decide) h⟩
  rename_i hquote hslash _ _ _ _ _
  split
  · rename_i hc
    exact ⟨.coded c, .inr ⟨c, rfl, rfl⟩, scanString_control opening hc h⟩
  · rename_i hc
    refine ⟨.plain c, .inl rfl, scanString_plain opening ?_ ?_ hc h⟩
    · exact fun he => hquote (Letter.char.inj he)
    · exact fun he => hslash (Letter.char.inj he)

theorem scanString_escapeLetter (opening : Nat) (l : Letter) {next : Letter}
    {tail rest : List Letter} {pieces : List Piece}
    (h : scanString opening (next :: tail) = .ok (pieces, rest)) :
    ∃ p, Piece.IsLetter p l ∧
      scanString opening (escapeLetter l ++ next :: tail) = .ok (p :: pieces, rest) := by
  cases l with
  | char c => exact scanString_escapeChar opening c h
  | half offset =>
    refine ⟨.plain (.half offset), .inl rfl, scanString_plain opening ?_ ?_ ?_ h⟩
    · exact fun he => Letter.noConfusion he
    · exact fun he => Letter.noConfusion he
    · simp only [Letter.code, Letter.firstHalf]
      omega

theorem escapeChar_ne_nil (c : Char) : escapeChar c ≠ [] := by
  unfold escapeChar
  split
  iterate 7 exact List.cons_ne_nil _ _
  split
  · exact List.cons_ne_nil _ _
  · exact List.cons_ne_nil _ _

theorem escapeLetter_ne_nil (l : Letter) : escapeLetter l ≠ [] := by
  cases l with
  | char c => exact fun h => escapeChar_ne_nil c (List.map_eq_nil_iff.1 h)
  | half offset => exact List.cons_ne_nil _ _

theorem scanString_escaped_letters (opening : Nat) (ls rest : List Letter) :
    ∃ pieces, joinPieces pieces = ls ∧
      scanString opening (ls.flatMap escapeLetter ++ .char '"' :: rest) = .ok (pieces, rest) := by
  induction ls with
  | nil => exact ⟨[], rfl, rfl⟩
  | cons l more ih =>
    obtain ⟨pieces, hjoin, hscan⟩ := ih
    obtain ⟨next, tail, htail⟩ : ∃ next tail,
        more.flatMap escapeLetter ++ .char '"' :: rest = next :: tail := by
      cases more with
      | nil => exact ⟨'"', rest, rfl⟩
      | cons m others =>
        obtain ⟨next, tail, hm⟩ := List.exists_cons_of_ne_nil (escapeLetter_ne_nil m)
        exact ⟨next, tail ++ (others.flatMap escapeLetter ++ .char '"' :: rest), by simp [hm]⟩
    rw [htail] at hscan
    obtain ⟨p, hp, hl⟩ := scanString_escapeLetter opening l hscan
    refine ⟨p :: pieces, by rw [joinPieces_cons hp, hjoin], ?_⟩
    rw [List.flatMap_cons, List.append_assoc, htail, hl]

/-- A string is read back after its opening quote. -/
theorem stringBody_quoted (t : Text) (rest : List Letter) :
    stringBody (t.letters.flatMap escapeLetter ++ .char '"' :: rest) = .ok (t, rest) := by
  obtain ⟨pieces, hjoin, hscan⟩ := scanString_escaped_letters
    ((t.letters.flatMap escapeLetter ++ .char '"' :: rest).length + 1) t.letters rest
  rw [stringBody, hscan]
  dsimp only [bind, Except.bind, pure, Except.pure]
  rw [hjoin]

end Json

end ManifestEdit
