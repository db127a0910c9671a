import ManifestEdit.Number
import ManifestEdit.OrderedMap

/-!
# JSON values

Objects keep the order of their keys, and a key stands once.
-/

namespace ManifestEdit

inductive Json where
  | null
  | bool (value : Bool)
  | num (value : Number)
  | str (text : Text)
  | arr (items : List Json)
  | obj (fields : List (Text × Json))

namespace Json

def isNull : Json → Bool
  | null => true
  | _ => false

def ofNat (n : Nat) : Json :=
  num (.int n)

/-! ## Equality of values -/

/-- Truth values count as the numbers zero and one. -/
def number? : Json → Option Number
  | bool b => some (.int (if b then 1 else 0))
  | num n => some n
  | _ => none

def sameNumber (a b : Json) : Bool :=
  match a.number?, b.number? with
  | some m, some n => m.sameValue n
  | _, _ => false

mutual

/-- Equality of value: numbers by size whatever their kind, objects whatever their order. -/
def sameValue : Json → Json → Bool
  | null, null => true
  | str s, str t => s = t
  | arr a, arr b => sameItems a b
  | obj a, obj b => a.length = b.length && sameFields a b
  | a, b => sameNumber a b

def sameItems : List Json → List Json → Bool
  | [], [] => true
  | a :: as, b :: bs => a.sameValue b && sameItems as bs
  | _, _ => false

/-- Every field has an equal one of the same key among the others. -/
def sameFields : List (Text × Json) → List (Text × Json) → Bool
  | [], _ => true
  | (k, v) :: rest, others =>
    (match others.lookup k with
      | some w => v.sameValue w
      | none => false) && sameFields rest others

end

/-! ## Non-finite numbers -/

mutual

/-- Documents hold no infinite number and no `nan`: `null` stands for them. -/
def finiteOnly : Json → Json
  | num n => if n.isFinite then num n else null
  | arr items => arr (finiteItems items)
  | obj fields => obj (finiteFields fields)
  | j => j

def finiteItems : List Json → List Json
  | [] => []
  | j :: rest => j.finiteOnly :: finiteItems rest

def finiteFields : List (Text × Json) → List (Text × Json)
  | [] => []
  | (k, v) :: rest => (k, v.finiteOnly) :: finiteFields rest

end

end Json

end ManifestEdit
