import ManifestEdit.Document
import ManifestEdit.Json.Printer

/-!
# Rendering documents

A document is rendered with an indentation for each level: a negative one is none, and for a very
wide one there is no room. A document that cannot be encoded is not indented either, and what cannot
be indented is not written.
-/

namespace ManifestEdit

namespace Indent

/-- Why nothing can be indented by so much. -/
inductive Fault where
  | notAWord
  | noRoom
  deriving DecidableEq

def Fault.message : Fault → String
  | notAWord => "cannot fit 'int' into an index-sized integer"
  | noRoom => ""

/-- The width of a level. A fault does not depend on whether anything is indented. -/
def width [Machine] (indent : Int) : Except Fault Nat :=
  if !Number.isWord indent then .error .notAWord
  else if (Machine.room : Int) < indent then .error .noRoom
  else .ok indent.toNat

end Indent

/-- Why a document has no text. -/
inductive RenderFault where
  | encode (fault : EncodeFault)
  | indent (fault : Indent.Fault)
  | limit (fault : Machine.Fault)
  deriving DecidableEq

/-- The text of a record, with an indentation for each level. -/
def Record.render [Machine] (r : Record) (indent : Int) : Except RenderFault Text :=
  match r.encode with
  | .error fault => .error (.encode fault)
  | .ok j =>
    match Indent.width indent with
    | .error fault => .error (.indent fault)
    | .ok width =>
      match j.render width with
      | .error fault => .error (.limit fault)
      | .ok text => .ok text

end ManifestEdit
