import ManifestEdit.Number.Double

/-!
# Doubles from their exact decimals

A double written with all of its digits is read back as it: the ratio is a whole number of quanta,
so nothing is rounded.
-/

namespace ManifestEdit

namespace Double

theorem twoTo_pos (n : Nat) : 0 < twoTo n :=
  Nat.pow_pos (by decide)

theorem twoTo_succ (n : Nat) : twoTo (n + 1) = twoTo n * 2 :=
  Nat.pow_succ 2 n

theorem twoTo_lt {m n : Nat} (h : m < n) : twoTo m < twoTo n :=
  Nat.pow_lt_pow_right (by decide) h

theorem twoTo_le {m n : Nat} (h : m ≤ n) : twoTo m ≤ twoTo n :=
  Nat.pow_le_pow_right (by decide) h

theorem tenTo_pos (n : Nat) : 0 < tenTo n :=
  Nat.pow_pos (by decide)

theorem twoTo_add (m n : Nat) : twoTo (m + n) = twoTo m * twoTo n :=
  Nat.pow_add 2 m n

/-! ## Quanta -/

/-- Above the smallest ranks the low bits of a rank are the digits and the others the exponent. -/
theorem quanta_of_le {rank : Nat} (h : twoTo 53 ≤ rank) :
    quanta rank = (rank % twoTo 52 + twoTo 52) * twoTo (rank / twoTo 52 - 1) :=
  if_neg (Nat.not_lt.2 h)

theorem two_le_exponent {rank : Nat} (h : twoTo 53 ≤ rank) : 2 ≤ rank / twoTo 52 := by
  have h53 : twoTo 53 = twoTo 52 * 2 := twoTo_succ 52
  rw [Nat.le_div_iff_mul_le (twoTo_pos 52)]
  omega

theorem significand_bounds (rank : Nat) :
    twoTo 52 ≤ rank % twoTo 52 + twoTo 52 ∧ rank % twoTo 52 + twoTo 52 < twoTo 53 := by
  have h53 : twoTo 53 = twoTo 52 * 2 := twoTo_succ 52
  have hmod : rank % twoTo 52 < twoTo 52 := Nat.mod_lt _ (twoTo_pos 52)
  omega

theorem log2_quanta {rank : Nat} (h : twoTo 53 ≤ rank) :
    (quanta rank).log2 = 52 + (rank / twoTo 52 - 1) := by
  obtain ⟨hlo, hhi⟩ := significand_bounds rank
  have hpos := twoTo_pos (rank / twoTo 52 - 1)
  rw [quanta_of_le h]
  have hlow : twoTo (52 + (rank / twoTo 52 - 1)) ≤
      (rank % twoTo 52 + twoTo 52) * twoTo (rank / twoTo 52 - 1) := by
    rw [twoTo_add]
    exact Nat.mul_le_mul_right _ hlo
  have hhigh : (rank % twoTo 52 + twoTo 52) * twoTo (rank / twoTo 52 - 1) <
      twoTo (52 + (rank / twoTo 52 - 1) + 1) := by
    have hexp : 52 + (rank / twoTo 52 - 1) + 1 = 53 + (rank / twoTo 52 - 1) := by omega
    rw [hexp, twoTo_add]
    exact Nat.mul_lt_mul_of_pos_right hhi hpos
  have hne : (rank % twoTo 52 + twoTo 52) * twoTo (rank / twoTo 52 - 1) ≠ 0 :=
    Nat.ne_of_gt (Nat.mul_pos (Nat.lt_of_lt_of_le (twoTo_pos 52) hlo) hpos)
  exact (Nat.log2_eq_iff hne).2 ⟨hlow, hhigh⟩

theorem twoTo_le_quanta {rank : Nat} (h : twoTo 53 ≤ rank) : twoTo 53 ≤ quanta rank := by
  have hexp := two_le_exponent h
  obtain ⟨hlo, -⟩ := significand_bounds rank
  have hone : twoTo 1 ≤ twoTo (rank / twoTo 52 - 1) := twoTo_le (by omega)
  have h53 : twoTo 53 = twoTo 52 * twoTo 1 := twoTo_add 52 1
  rw [quanta_of_le h, h53]
  exact Nat.mul_le_mul hlo hone

theorem quanta_lt {rank : Nat} (h : rank < rankLimit) : quanta rank < twoTo 2098 := by
  by_cases hs : rank < twoTo 53
  · rw [quanta_of_lt hs]
    exact Nat.lt_trans hs (twoTo_lt (by decide))
  · obtain ⟨-, hhi⟩ := significand_bounds rank
    have hexp : rank / twoTo 52 < 2047 := by
      rw [Nat.div_lt_iff_lt_mul (twoTo_pos 52)]
      exact h
    have hle : twoTo (rank / twoTo 52 - 1) ≤ twoTo 2045 := twoTo_le (by omega)
    have hsum : twoTo 2098 = twoTo 53 * twoTo 2045 := twoTo_add 53 2045
    rw [quanta_of_le (Nat.not_lt.1 hs), hsum]
    exact Nat.mul_lt_mul_of_lt_of_le hhi hle (twoTo_pos _)

theorem quanta_eq_zero_iff {rank : Nat} : quanta rank = 0 ↔ rank = 0 := by
  by_cases hs : rank < twoTo 53
  · rw [quanta_of_lt hs]
  · have hle := Nat.not_lt.1 hs
    have hq := twoTo_le_quanta hle
    have hpos := twoTo_pos 53
    omega

/-- A ratio that is a whole number of quanta is not rounded. -/
theorem rankOfRatio_of_quanta {num den rank : Nat} (hden : 0 < den)
    (h : num * twoTo 1074 = quanta rank * den) : rankOfRatio num den = rank := by
  unfold rankOfRatio
  dsimp only
  rw [h, Nat.mul_div_cancel _ hden]
  by_cases hs : rank < twoTo 53
  · have hone : twoTo 0 = 1 := rfl
    rw [quanta_of_lt hs, if_pos hs, hone, Nat.mul_one, divRound_mul_right _ hden]
    omega
  · have hle := Nat.not_lt.1 hs
    have hexp := two_le_exponent hle
    have hshift : 52 + (rank / twoTo 52 - 1) - 52 = rank / twoTo 52 - 1 := by omega
    rw [if_neg (Nat.not_lt.2 (twoTo_le_quanta hle)), log2_quanta hle, hshift, quanta_of_le hle]
    have hmul : (rank % twoTo 52 + twoTo 52) * twoTo (rank / twoTo 52 - 1) * den =
        (rank % twoTo 52 + twoTo 52) * (den * twoTo (rank / twoTo 52 - 1)) := by
      rw [Nat.mul_assoc, Nat.mul_comm (twoTo _) den]
    rw [hmul, divRound_mul_right _ (Nat.mul_pos hden (twoTo_pos _))]
    have hsplit : (rank / twoTo 52 - 1) * twoTo 52 + twoTo 52 = rank / twoTo 52 * twoTo 52 := by
      have hback : rank / twoTo 52 = rank / twoTo 52 - 1 + 1 := by omega
      conv => rhs; rw [hback, Nat.add_mul, Nat.one_mul]
    have hdiv : twoTo 52 * (rank / twoTo 52) + rank % twoTo 52 = rank := Nat.div_add_mod ..
    rw [Nat.mul_comm] at hdiv
    omega

/-! ## Reading all digits -/

theorem digitCount_le_iff {n k : Nat} (hk : 0 < k) : digitCount n ≤ k ↔ n < tenTo k :=
  Nat.length_toDigits_le_iff (by decide) hk

theorem tenTo_eq (n : Nat) : tenTo n = fiveTo n * twoTo n := by
  have h : (5 * 2) ^ n = 5 ^ n * 2 ^ n := Nat.mul_pow 5 2 n
  exact h

/-- The digits of a magnitude in units of `10 ^ -1074` are its quanta times `5 ^ 1074`. -/
theorem ofDecimal_exact (negative : Bool) {rank : Nat} (h : rank < rankLimit) :
    ofDecimal negative (quanta rank * fiveTo 1074) (-1074) = ofRank negative rank := by
  have hlow : tenTo 674 ≤ fiveTo 1074 := by decide +kernel
  have hhigh : twoTo 2098 * fiveTo 1074 ≤ tenTo 1474 := by decide +kernel
  have hfive : 0 < fiveTo 1074 := Nat.lt_of_lt_of_le (tenTo_pos 674) hlow
  by_cases hz : rank = 0
  · have hzero : quanta rank = 0 := quanta_eq_zero_iff.2 hz
    rw [hzero, Nat.zero_mul, hz]
    rfl
  · have hpos : 0 < quanta rank := Nat.pos_of_ne_zero fun h => hz (quanta_eq_zero_iff.1 h)
    have hne : quanta rank * fiveTo 1074 ≠ 0 := Nat.ne_of_gt (Nat.mul_pos hpos hfive)
    have hmany : ¬ digitCount (quanta rank * fiveTo 1074) ≤ 674 := by
      rw [digitCount_le_iff (by decide), Nat.not_lt]
      exact Nat.le_trans hlow (Nat.le_mul_of_pos_left _ hpos)
    have hfew : digitCount (quanta rank * fiveTo 1074) ≤ 1474 := by
      rw [digitCount_le_iff (by decide)]
      exact Nat.lt_of_lt_of_le (Nat.mul_lt_mul_of_pos_right (quanta_lt h) hfive) hhigh
    have hexp : (- -1074 : Int).toNat = 1074 := rfl
    have hratio : quanta rank * fiveTo 1074 * twoTo 1074 = quanta rank * tenTo 1074 := by
      rw [tenTo_eq, Nat.mul_assoc]
    unfold ofDecimal
    dsimp only
    rw [if_neg (by omega), if_neg (by omega), if_neg (by decide), hexp,
      rankOfRatio_of_quanta (tenTo_pos 1074) hratio]

/-! ## Signs -/

/-- A double with another sign. -/
def signed (negative : Bool) : Double → Double
  | nan => nan
  | infinite _ => infinite negative
  | finite _ rank => finite negative rank

theorem signed_ofRank (negative other : Bool) (rank : Nat) :
    signed negative (ofRank other rank) = ofRank negative rank := by
  unfold ofRank
  split <;> rfl

theorem ofDecimal_signed (negative : Bool) (digits : Nat) (exponent : Int) :
    ofDecimal negative digits exponent = signed negative (ofDecimal false digits exponent) := by
  unfold ofDecimal
  dsimp only
  split
  · exact (signed_ofRank negative false 0).symm
  · split
    · rfl
    · split
      · exact (signed_ofRank negative false _).symm
      · exact (signed_ofRank negative false _).symm

theorem ofRank_of_lt (negative : Bool) (rank : Fin rankLimit) :
    ofRank negative rank.val = finite negative rank :=
  dif_pos rank.isLt

end Double

end ManifestEdit
