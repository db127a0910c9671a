import ManifestEdit.Machine
import ManifestEdit.Number.Double

/-!
# Numbers

An integer literal is an integer of any size; every other number is a double. Texts hold integers of
no more digits than the machine allows.
-/

namespace ManifestEdit

inductive Number where
  | int (value : Int)
  | double (value : Double)
  deriving DecidableEq

namespace Number

/-- Whether an integer is a signed word of 64 bits. -/
def isWord (i : Int) : Bool :=
  -0x8000000000000000 ≤ i && i < 0x8000000000000000

/-- The digits of an integer; those of a double are not counted. -/
def digitCount : Number → Nat
  | int i => (Nat.toDigits 10 i.natAbs).length
  | double _ => 0

/-- Whether a number may stand in a text. -/
def fits [Machine] (n : Number) : Bool :=
  n.digitCount ≤ Machine.digits

/-- Equality of value across both kinds, without rounding. -/
def sameValue : Number → Number → Bool
  | int a, int b => a = b
  | int a, double d => d.sameInt a
  | double d, int b => d.sameInt b
  | double d, double e => d.sameValue e

def isZero : Number → Bool
  | int a => a = 0
  | double d => d.isZero

def isFinite : Number → Bool
  | int _ => true
  | double d => d.isFinite

end Number

end ManifestEdit
