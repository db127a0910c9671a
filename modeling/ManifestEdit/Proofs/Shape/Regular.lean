import ManifestEdit.Directive.Schema
import ManifestEdit.Manifest.Schema
import ManifestEdit.Proofs.Shape.Reading

/-!
# Regular shapes

A shape is regular when the names of each record's fields are apart, a field that must not be null
has a shape that does not write null, and no member of a choice reads what a later member writes.
The last is decided by the kinds of values: members of different kinds are apart, and a member that
writes what it reads, letter for letter, comes after members that have failed on it.
-/

namespace ManifestEdit

/-! ## Kinds of values -/

namespace Json

inductive Kind where
  | null
  | bool
  | num
  | str
  | arr
  | obj
  deriving DecidableEq

def kind : Json → Kind
  | null => .null
  | bool _ => .bool
  | num _ => .num
  | str _ => .str
  | arr _ => .arr
  | obj _ => .obj

theorem kind_eq_null_iff {j : Json} : j.kind = .null ↔ j.isNull = true := by
  cases j <;> simp [kind, isNull]

end Json

namespace Shape

mutual

/-- The kinds of values that a shape reads or writes. -/
def kinds : Shape → List Json.Kind
  | anything => [.null, .bool, .num, .str, .arr, .obj]
  | text => [.str]
  | flag => [.bool]
  | count => [.num]
  | word _ => [.str]
  | off => [.bool, .num]
  | list _ => [.arr]
  | map _ => [.obj]
  | oneOf members => memberKinds members
  | record _ _ _ => [.obj]

def memberKinds : List (String × Shape) → List Json.Kind
  | [] => []
  | (_, s) :: rest => s.kinds ++ memberKinds rest

end

/-- Whether no value is read by both shapes, by its kind alone. -/
def isApart (s t : Shape) : Bool :=
  s.kinds.all fun k => !t.kinds.contains k

/-- Whether the values of a shape are written as they are read; choices are left out. -/
def isVerbatim : Shape → Bool
  | text => true
  | flag => true
  | count => true
  | word _ => true
  | list item => item.isVerbatim
  | map value => value.isVerbatim
  | _ => false

/-! ## Names of fields -/

/-- Whether a key of a record stands for a field. -/
def isNamed (f : DeclaredField) (key : Text) : Bool :=
  f.key = key || f.spelling = key

/-- The field that a key of a record stands for, with its shape. -/
def fieldNamed? (fields : List (DeclaredField × Shape)) (key : Text) :
    Option (DeclaredField × Shape) :=
  fields.find? fun f => isNamed f.1 key

/-- Whether two fields have no name in common. -/
def areApart (f g : DeclaredField) : Bool :=
  !isNamed f g.key && !isNamed f g.spelling

/-- Whether a field that must hold a value writes one. -/
def isSound (f : DeclaredField × Shape) : Bool :=
  f.1.key.isWhole && (f.1.nullable && !f.1.required || !f.1.nullable && !f.2.kinds.contains .null)

mutual

def isRegular : Shape → Bool
  | list item => item.isRegular
  | map value => value.isRegular
  | oneOf members => areRegular members
  | record _ _ fields =>
    decide (fields.Pairwise fun f g => areApart f.1 g.1 = true) && fieldsRegular fields
  | _ => true

def areRegular : List (String × Shape) → Bool
  | [] => true
  | (_, s) :: rest =>
    s.isRegular && rest.all (fun m => s.isApart m.2 || m.2.isVerbatim) && areRegular rest

def fieldsRegular : List (DeclaredField × Shape) → Bool
  | [] => true
  | (f, s) :: rest => s.isRegular && isSound (f, s) && fieldsRegular rest

end

theorem areRegular_iff {members : List (String × Shape)} :
    areRegular members = true ↔ (∀ m ∈ members, m.2.isRegular = true) ∧
      members.Pairwise fun m n => (m.2.isApart n.2 || n.2.isVerbatim) = true := by
  induction members with
  | nil => simp [areRegular]
  | cons m rest ih =>
    rw [areRegular, Bool.and_eq_true, Bool.and_eq_true, ih, List.forall_mem_cons,
      List.pairwise_cons, List.all_eq_true]
    constructor
    · rintro ⟨⟨hm, happart⟩, hrest, hpairs⟩
      exact ⟨⟨hm, hrest⟩, happart, hpairs⟩
    · rintro ⟨⟨hm, hrest⟩, happart, hpairs⟩
      exact ⟨⟨hm, happart⟩, hrest, hpairs⟩

theorem fieldsRegular_iff {fields : List (DeclaredField × Shape)} :
    fieldsRegular fields = true ↔
      ∀ f ∈ fields, f.2.isRegular = true ∧ isSound f = true := by
  induction fields with
  | nil => simp [fieldsRegular]
  | cons f rest ih =>
    rw [fieldsRegular, Bool.and_eq_true, Bool.and_eq_true, ih, List.forall_mem_cons]

end Shape

namespace Schema

theorem isRegular_manifest : manifest.shape.isRegular = true := by
  decide +kernel

theorem isRegular_directive : directive.shape.isRegular = true := by
  decide +kernel

end Schema

end ManifestEdit
