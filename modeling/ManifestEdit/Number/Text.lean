import ManifestEdit.Number.Literal

/-!
# The text of a number

A double is written with the fewest digits that read back as it, and of those with the digits
nearest to it. Exponents from `-4` to `15` are written positionally, the others in scientific form.
Every text offered by `Double.forms` is tried with the number reader itself, so what is written
reads back whatever the digits.
-/

namespace ManifestEdit

/-- A decimal `digits * 10 ^ exponent`. -/
structure Decimal where
  digits : Nat
  exponent : Int
  deriving DecidableEq

namespace Decimal

/-- The digits without trailing zeros. -/
def significant (d : Decimal) : List Char :=
  ((Nat.toDigits 10 d.digits).reverse.dropWhile (· = '0')).reverse

/-- The place of the point, counted from the first digit. -/
def pointPlace (d : Decimal) : Int :=
  (Nat.toDigits 10 d.digits).length + d.exponent

def zeros (n : Nat) : List Char :=
  List.replicate n '0'

/-- The digits with the point at `place`; a whole number keeps one zero after it. -/
def positional (digits : List Char) (place : Int) : List Char :=
  if place ≤ 0 then '0' :: '.' :: (zeros (-place).toNat ++ digits)
  else
    let whole := place.toNat
    if digits.length ≤ whole then digits ++ zeros (whole - digits.length) ++ ['.', '0']
    else digits.take whole ++ '.' :: digits.drop whole

/-- An exponent has a sign and at least two digits. -/
def exponentText (e : Int) : List Char :=
  let digits := Nat.toDigits 10 e.natAbs
  'e' :: (if e < 0 then '-' else '+') :: (zeros (2 - digits.length) ++ digits)

def scientific (digits : List Char) (place : Int) : List Char :=
  match digits with
  | [] => []
  | [c] => c :: exponentText (place - 1)
  | c :: rest => c :: '.' :: (rest ++ exponentText (place - 1))

def text (d : Decimal) : List Char :=
  let place := d.pointPlace
  if -4 < place ∧ place ≤ 16 then positional d.significant place
  else scientific d.significant place

end Decimal

namespace Double

/-- The place of the point in the magnitude of a non-zero rank. -/
def pointPlace (rank : Nat) : Int :=
  (digitCount (quanta rank * tenTo 400 / twoTo 1074) : Int) - 400

/-- The two decimals of `count` digits around the magnitude of a rank, the nearer one first. -/
def neighbours (rank count : Nat) : List Decimal :=
  let exponent := pointPlace rank - count
  let num := quanta rank * tenTo (-exponent).toNat
  let den := twoTo 1074 * tenTo exponent.toNat
  let below := num / den
  let near := divRound num den
  [⟨near, exponent⟩, ⟨if near = below then below + 1 else below, exponent⟩]

/-- The magnitude with all of its digits, in quanta times `5 ^ 1074`. -/
def exactText (rank : Nat) : List Char :=
  Nat.toDigits 10 (quanta rank * fiveTo 1074) ++ "e-1074".toList

/-- The texts tried for a magnitude, shortest first. -/
def forms (rank : Nat) : List (List Char) :=
  if rank = 0 then ["0.0".toList]
  else (List.range 17).flatMap fun i => (neighbours rank (i + 1)).map Decimal.text

def readsBack (rank : Nat) (text : List Char) : Bool :=
  match Number.scan text with
  | some (n, []) => n = .double (ofRank false rank)
  | _ => false

def magnitudeText (rank : Nat) : List Char :=
  ((forms rank).find? (readsBack rank)).getD (exactText rank)

end Double

namespace Number

def intText (i : Int) : List Char :=
  if i < 0 then '-' :: Nat.toDigits 10 i.natAbs else Nat.toDigits 10 i.natAbs

/-- The words for the values that have no digits. -/
structure Words where
  nan : List Char
  infinite : List Char

def text (words : Words) : Number → List Char
  | int i => intText i
  | double .nan => words.nan
  | double (.infinite negative) => if negative then '-' :: words.infinite else words.infinite
  | double (.finite negative rank) =>
    let digits := Double.magnitudeText rank.val
    if negative then '-' :: digits else digits

end Number

end ManifestEdit
