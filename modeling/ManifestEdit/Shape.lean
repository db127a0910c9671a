import ManifestEdit.Text

/-!
# Shapes of documents

A shape says which JSON values a part of a document may hold. Records declare their fields; a field
has a key in the document and may have a second spelling. A record that is not closed keeps the
keys it does not declare.
-/

namespace ManifestEdit

structure DeclaredField where
  key : Text
  spelling : Text
  required : Bool
  nullable : Bool
  deriving DecidableEq

namespace DeclaredField

/-- The key of a spelling: hyphens for underscores. -/
def keyOf (spelling : Text) : Text :=
  ⟨spelling.letters.map fun (l : Letter) => if l = '_' then '-' else l⟩

/-- A field that may be absent or null. -/
def optional (spelling : Text) : DeclaredField :=
  ⟨keyOf spelling, spelling, false, true⟩

def mandatory (spelling : Text) : DeclaredField :=
  ⟨keyOf spelling, spelling, true, false⟩

/-- A field that may be absent, but not null, and has one spelling only. -/
def defaulted (key : Text) : DeclaredField :=
  ⟨key, key, false, false⟩

/-- The field under another key. -/
def keyed (f : DeclaredField) (key : Text) : DeclaredField :=
  { f with key := key }

end DeclaredField

inductive Shape where
  | anything
  | text
  | flag
  | count
  /-- One of some words. -/
  | word (words : List String)
  /-- The constant `false`, for which any zero may stand. -/
  | off
  | list (item : Shape)
  | map (value : Shape)
  /-- The first member that fits; the label of a member stands in the places of its failures. -/
  | oneOf (members : List (String × Shape))
  | record (name : String) (closed : Bool) (fields : List (DeclaredField × Shape))

namespace Shape

/-- The key that a key of a record stands for. -/
def keyFor (fields : List DeclaredField) (key : Text) : Text :=
  match fields.find? fun f => f.spelling = key with
  | some f => f.key
  | none => key

end Shape

end ManifestEdit
