import ManifestEdit.Text.Utf8

/-!
# File paths

A path keeps its parts as written, without empty parts and those that stay in place. A path has no
meaning to a file system when its text has no bytes or holds a null.
-/

namespace ManifestEdit

structure FilePath where
  /-- How many slashes lead the path: none where it is relative, else one or exactly two. -/
  slashes : Nat
  parts : List Text
  deriving DecidableEq

namespace FilePath

/-- The pieces between slashes. -/
def pieces : List Letter → List (List Letter)
  | [] => [[]]
  | l :: rest =>
    if l = '/' then [] :: pieces rest
    else
      match pieces rest with
      | [] => [[l]]
      | p :: ps => (l :: p) :: ps

/-- Two leading slashes are kept apart from one; more count as one. -/
def leadingSlashes (text : List Letter) : Nat :=
  let count := (text.takeWhile fun (l : Letter) => l = '/').length
  if count ≤ 2 then count else 1

def ofText (t : Text) : FilePath where
  slashes := leadingSlashes t.letters
  parts := ((pieces t.letters).map Text.mk).filter fun p => p ≠ "" && p ≠ "."

def isAbsolute (p : FilePath) : Bool :=
  p.slashes ≠ 0

/-- The parts with slashes between them. -/
def joined (parts : List Text) : Text :=
  ⟨List.intercalate ['/'] (parts.map Text.letters)⟩

def text (p : FilePath) : Text :=
  if p.isAbsolute then ⟨List.replicate p.slashes '/'⟩ ++ joined p.parts
  else if p.parts.isEmpty then "."
  else joined p.parts

/-- The folder that holds the path. -/
def parent (p : FilePath) : FilePath :=
  { p with parts := p.parts.dropLast }

end FilePath

/-! ## Names -/

/-- Why a text is no name of a file. -/
inductive NameFault where
  | unencodable (fault : Utf8.Unencodable)
  | null
  deriving DecidableEq

namespace NameFault

def message : NameFault → String
  | unencodable fault => fault.message
  | null => "embedded null byte"

end NameFault

namespace FilePath

/-- In names the halves from U+DC80 to U+DCFF stand for the bytes that no character has. -/
def nameByte? (half : Fin 0x800) : Option UInt8 :=
  if 0x480 ≤ half.val ∧ half.val < 0x500 then some (UInt8.ofNat (half.val - 0x400)) else none

/-- The bytes of a name. -/
def nameBytes (t : Text) : Except NameFault (List UInt8) :=
  match Utf8.encodeFrom nameByte? 0 t.letters with
  | .error u => .error (.unencodable u)
  | .ok bytes => if bytes.contains 0 then .error .null else .ok bytes

def nameFault? (t : Text) : Option NameFault :=
  match nameBytes t with
  | .ok _ => none
  | .error f => some f

/-- The number of bytes of a name. -/
def nameSize (t : Text) : Nat :=
  match nameBytes t with
  | .ok bytes => bytes.length
  | .error _ => 0

end FilePath

end ManifestEdit
