/-!
# Double precision numbers

A finite double is a sign and a rank: the number of smaller magnitudes. Every magnitude is a whole
number of quanta of `2^-1074`, so rounding and comparison need natural numbers only.
-/

namespace ManifestEdit

def twoTo (n : Nat) : Nat := Nat.pow 2 n

def fiveTo (n : Nat) : Nat := Nat.pow 5 n

def tenTo (n : Nat) : Nat := Nat.pow 10 n

/-- Ranks below this bound are finite. -/
def Double.rankLimit : Nat := 2047 * twoTo 52

inductive Double where
  | nan
  | infinite (negative : Bool)
  | finite (negative : Bool) (rank : Fin Double.rankLimit)
  deriving DecidableEq

namespace Double

/-- The quotient rounded to the nearest integer; a half goes to the even neighbour. -/
def divRound (a b : Nat) : Nat :=
  let q := a / b
  let r := a % b
  if 2 * r < b then q else if b < 2 * r then q + 1 else q + q % 2

/-- The magnitude of a rank, in quanta. -/
def quanta (rank : Nat) : Nat :=
  if rank < twoTo 53 then rank else (rank % twoTo 52 + twoTo 52) * twoTo (rank / twoTo 52 - 1)

/-- The rank nearest to `num / den`, with no bound. -/
def rankOfRatio (num den : Nat) : Nat :=
  let whole := num * twoTo 1074 / den
  let shift := if whole < twoTo 53 then 0 else whole.log2 - 52
  shift * twoTo 52 + divRound (num * twoTo 1074) (den * twoTo shift)

def ofRank (negative : Bool) (rank : Nat) : Double :=
  if h : rank < rankLimit then .finite negative ⟨rank, h⟩ else .infinite negative

def zero (negative : Bool) : Double :=
  ofRank negative 0

/-- The number of decimal digits. -/
def digitCount (n : Nat) : Nat :=
  (Nat.toDigits 10 n).length

/-- The double nearest to `digits * 10 ^ exponent`. Values beyond `10 ^ ±400` are decided by their
size alone. -/
def ofDecimal (negative : Bool) (digits : Nat) (exponent : Int) : Double :=
  let top := (digitCount digits : Int) + exponent
  if digits = 0 ∨ top < -400 then zero negative
  else if 400 < top then .infinite negative
  else if 0 ≤ exponent then ofRank negative (rankOfRatio (digits * tenTo exponent.toNat) 1)
  else ofRank negative (rankOfRatio digits (tenTo (-exponent).toNat))

def isFinite : Double → Bool
  | finite _ _ => true
  | _ => false

def isZero : Double → Bool
  | finite _ rank => rank.val = 0
  | _ => false

/-- Equality of value: zeros of both signs are equal, `nan` differs from itself. -/
def sameValue : Double → Double → Bool
  | infinite s, infinite t => s = t
  | finite s m, finite t n => m = n && (s = t || m.val = 0)
  | _, _ => false

/-- Exact equality of value with an integer. -/
def sameInt : Double → Int → Bool
  | finite s rank, i =>
    quanta rank.val = i.natAbs * twoTo 1074 && (i = 0 || s = decide (i < 0))
  | _, _ => false

theorem quanta_of_lt {rank : Nat} (h : rank < twoTo 53) : quanta rank = rank :=
  if_pos h

theorem divRound_mul_right (q : Nat) {b : Nat} (hb : 0 < b) : divRound (q * b) b = q := by
  have hr : 2 * (q * b % b) < b := by
    rw [Nat.mul_mod_left]
    exact hb
  rw [divRound, if_pos hr, Nat.mul_div_cancel q hb]

end Double

end ManifestEdit
