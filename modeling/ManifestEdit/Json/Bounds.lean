import ManifestEdit.Json

/-!
# How deep values are

Every value is a level above what it holds.
-/

namespace ManifestEdit

namespace Json

mutual

/-- The levels of a value, its own counted. -/
def depth : Json → Nat
  | arr items => depthOfItems items + 1
  | obj fields => depthOfFields fields + 1
  | _ => 1

def depthOfItems : List Json → Nat
  | [] => 0
  | j :: rest => max j.depth (depthOfItems rest)

def depthOfFields : List (Text × Json) → Nat
  | [] => 0
  | (_, v) :: rest => max v.depth (depthOfFields rest)

end

mutual

/-- The first bound that is passed in the text of a value which may have so many levels; `deep` is
the fault of a deeper one. -/
def overrun? [Machine] (deep : Machine.Fault) : Nat → Json → Option Machine.Fault
  | 0, _ => some deep
  | _ + 1, num n => if n.fits then none else some .digitsWritten
  | levels + 1, arr items => overrunOfItems? deep levels items
  | levels + 1, obj fields => overrunOfFields? deep levels fields
  | _ + 1, _ => none

def overrunOfItems? [Machine] (deep : Machine.Fault) (levels : Nat) :
    List Json → Option Machine.Fault
  | [] => none
  | j :: rest => (overrun? deep levels j).or (overrunOfItems? deep levels rest)

def overrunOfFields? [Machine] (deep : Machine.Fault) (levels : Nat) :
    List (Text × Json) → Option Machine.Fault
  | [] => none
  | (_, v) :: rest => (overrun? deep levels v).or (overrunOfFields? deep levels rest)

end

end Json

end ManifestEdit
