import ManifestEdit.Number

/-!
# Number literals

`scan` takes the longest number at the head of a text: an optional minus sign, a whole part without
leading zeros, then a fraction and an exponent where they are complete.
-/

namespace ManifestEdit

structure Literal where
  negative : Bool
  whole : List Char
  fraction : List Char
  exponent : Option Int

namespace Literal

def natOfDigits (digits : List Char) : Nat :=
  Nat.ofDigitChars 10 digits 0

def scanWhole : List Char → Option (List Char × List Char)
  | [] => none
  | c :: rest =>
    if c = '0' then some ([c], rest)
    else if c.isDigit then some (c :: rest.takeWhile Char.isDigit, rest.dropWhile Char.isDigit)
    else none

/-- A point counts only when a digit follows it. -/
def scanFraction : List Char → List Char × List Char
  | '.' :: rest =>
    match rest.takeWhile Char.isDigit with
    | [] => ([], '.' :: rest)
    | digits => (digits, rest.dropWhile Char.isDigit)
  | cs => ([], cs)

def scanSign : List Char → Bool × List Char
  | '-' :: rest => (true, rest)
  | '+' :: rest => (false, rest)
  | cs => (false, cs)

/-- The exponent letter counts only when a digit follows it, after an optional sign. -/
def scanExponent (cs : List Char) : Option Int × List Char :=
  match cs with
  | [] => (none, cs)
  | c :: rest =>
    if c = 'e' ∨ c = 'E' then
      let (negative, rest) := scanSign rest
      match rest.takeWhile Char.isDigit with
      | [] => (none, cs)
      | digits =>
        let size : Int := natOfDigits digits
        (some (if negative then -size else size), rest.dropWhile Char.isDigit)
    else (none, cs)

def scanUnsigned (negative : Bool) (cs : List Char) : Option (Literal × List Char) :=
  match scanWhole cs with
  | none => none
  | some (whole, rest) =>
    let (fraction, rest) := scanFraction rest
    let (exponent, rest) := scanExponent rest
    some (⟨negative, whole, fraction, exponent⟩, rest)

def scan : List Char → Option (Literal × List Char)
  | '-' :: rest => scanUnsigned true rest
  | cs => scanUnsigned false cs

/-- Without fraction and exponent a literal is an integer, and `-0` is `0`. -/
def value (l : Literal) : Number :=
  match l.fraction, l.exponent with
  | [], none =>
    let size : Int := natOfDigits l.whole
    .int (if l.negative then -size else size)
  | fraction, exponent =>
    .double (Double.ofDecimal l.negative (natOfDigits (l.whole ++ fraction))
      (exponent.getD 0 - fraction.length))

end Literal

/-- The number at the head of a text, and what follows it. -/
def Number.scan (cs : List Char) : Option (Number × List Char) :=
  (Literal.scan cs).map fun (l, rest) => (l.value, rest)

end ManifestEdit
