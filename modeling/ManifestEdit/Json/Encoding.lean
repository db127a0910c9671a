import ManifestEdit.Json.Bounds
import ManifestEdit.Text.Utf8

/-!
# Values without a shape

A value that no shape describes is encoded level by level. It cannot be where it is nested too deep
or where a key holds half of a surrogate pair and so has no bytes; an object's key comes before what
stands under it.
-/

namespace ManifestEdit

/-- Why a document has no JSON value. -/
inductive EncodeFault where
  | key (fault : Utf8.Unencodable)
  /-- Something within a record is nested too deep. -/
  | depth
  /-- What the record writes as a whole is nested too deep. -/
  | output
  deriving DecidableEq

namespace EncodeFault

/-- A fault of a record as one of the record around it. -/
def within : EncodeFault → EncodeFault
  | output => depth
  | fault => fault

def caller : String :=
  "Error calling function `render_in_key_order`: "

def depthText : String :=
  "Circular reference detected (depth exceeded)"

def message : EncodeFault → String
  | key fault => caller ++ "UnicodeEncodeError: " ++ fault.message
  | depth => caller ++ "ValueError: " ++ depthText
  | output => depthText

end EncodeFault

namespace Json

/-- Why a text has no bytes, where it has none. -/
def bytesFault? (key : Text) : Option Utf8.Unencodable :=
  Utf8.fault? (Utf8.encodeText key)

mutual

/-- The first fault of a value of which so many levels are encoded. -/
def encodeFault? : Nat → Json → Option EncodeFault
  | 0, _ => some .depth
  | levels + 1, arr items => encodeFaultOfItems? levels items
  | levels + 1, obj fields => encodeFaultOfFields? levels fields
  | _ + 1, _ => none

def encodeFaultOfItems? (levels : Nat) : List Json → Option EncodeFault
  | [] => none
  | j :: rest => (j.encodeFault? levels).or (encodeFaultOfItems? levels rest)

def encodeFaultOfFields? (levels : Nat) : List (Text × Json) → Option EncodeFault
  | [] => none
  | (k, v) :: rest =>
    ((bytesFault? k).map .key).or
      ((v.encodeFault? levels).or (encodeFaultOfFields? levels rest))

end

end Json

end ManifestEdit
