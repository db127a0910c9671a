import ManifestEdit.Text

/-!
# Regular expressions

The part of the expressions that patterns need: letters, escapes, the dot, which takes any letter
and also a line feed, the star, and the anchors `\A` and `\Z`. Groups, sets, alternatives, classes
and the other repetitions are not read.

A match begins at the start of the candidate. A star takes as many letters as it can and gives them
back one by one for as long as what follows does not match.
-/

namespace ManifestEdit

namespace Regex

/-- What takes one letter. -/
inductive Single where
  | letter (l : Letter)
  | any
  deriving DecidableEq

inductive Item where
  | once (s : Single)
  | star (s : Single)
  | start
  | finish
  deriving DecidableEq

/-! ## Reading -/

/-- What an escaped letter stands for: an escaped sign stands for itself. -/
def escaped? : Letter → Option Item
  | .char 'A' => some .start
  | .char 'Z' => some .finish
  | .char c => if c.isAlphanum then none else some (.once (.letter (.char c)))
  | .half offset => some (.once (.letter (.half offset)))

/-- The signs of constructs that are not read. -/
def isForeign (l : Letter) : Bool :=
  l = '^' || l = '$' || l = '+' || l = '?' || l = '{' || l = '[' || l = '|' || l = '(' || l = ')'

/-- A star repeats the last item, which takes one letter. The items stand last first. -/
def repeatLast? : List Item → Option (List Item)
  | .once s :: items => some (.star s :: items)
  | _ => none

/-- Reads on after some items, which stand last first. -/
def readFrom? (items : List Item) : List Letter → Option (List Item)
  | [] => some items.reverse
  | [.char '\\'] => none
  | .char '\\' :: l :: rest => (escaped? l).bind fun item => readFrom? (item :: items) rest
  | .char '*' :: rest => (repeatLast? items).bind fun items => readFrom? items rest
  | .char '.' :: rest => readFrom? (.once .any :: items) rest
  | l :: rest => if isForeign l then none else readFrom? (.once (.letter l) :: items) rest

/-- The items of an expression. -/
def read? (expression : Text) : Option (List Item) :=
  readFrom? [] expression.letters

/-! ## Matching -/

def Single.takes : Single → Letter → Bool
  | letter m, l => l = m
  | any, _ => true

/-- Whether `next` matches behind some of the letters that a star takes, the most first; `place`
counts the letters before. -/
def matchStar (s : Single) (next : Nat → List Letter → Bool) (place : Nat) : List Letter → Bool
  | [] => next place []
  | l :: rest => (s.takes l && matchStar s next (place + 1) rest) || next place (l :: rest)

/-- Whether the items match from a place on, where these letters are left. -/
def matchFrom : List Item → Nat → List Letter → Bool
  | [], _, _ => true
  | .once _ :: _, _, [] => false
  | .once s :: items, place, l :: rest => s.takes l && matchFrom items (place + 1) rest
  | .star s :: items, place, left => matchStar s (matchFrom items) place left
  | .start :: items, place, left => place = 0 && matchFrom items place left
  | .finish :: items, place, left => left.isEmpty && matchFrom items place left

/-- Whether the items match at the start of a candidate. -/
def isMatch (items : List Item) (candidate : Text) : Bool :=
  matchFrom items 0 candidate.letters

end Regex

end ManifestEdit
