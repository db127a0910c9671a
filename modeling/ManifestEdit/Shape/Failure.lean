import ManifestEdit.Json
import ManifestEdit.Text.Quoted

/-!
# Failures and their places

A place leads from the root of a document to the value that failed, through keys, indices and the
labels of the members tried. `pathText` shows it against the document: a part that leads nowhere is
left out, as labels usually are.
-/

namespace ManifestEdit

inductive PlacePart where
  | key (name : Text)
  | index (place : Int)
  | label (name : String)
  deriving DecidableEq

abbrev Place := List PlacePart

namespace PlacePart

/-- Where a part leads in a value. -/
def step? : PlacePart → Json → Option Json
  | key name, .obj fields => fields.lookup name
  | label name, .obj fields => fields.lookup (name : Text)
  | index place, .arr items => if 0 ≤ place then items[place.toNat]? else none
  | _, _ => none

/-- A path with one more part. -/
def extend (path : Text) : PlacePart → Text
  | key name => if path.isEmpty then name else path ++ "." ++ name
  | label name => if path.isEmpty then name else path ++ "." ++ name
  | index place => path ++ "[" ++ toString place ++ "]"

end PlacePart

/-- The path of a place, starting from the path of the whole value. -/
def pathText : Place → Json → Text → Text
  | [], _, path => path
  | part :: rest, value, path =>
    match part.step? value with
    | some child => pathText rest child (part.extend path)
    | none => pathText rest value path

inductive Cause where
  | missing (key : Text)
  | unknown (key : Text)
  | notText
  | notFlag
  | notInteger
  | negative
  | notList
  | notMap
  | notRecord (name : String)
  | notWord (words : List String)
  | notOff
  | noText
  | notTextKey (kind : String)
  deriving DecidableEq

namespace Cause

/-- The words in quotes, the last after an "or". -/
def alternatives : List String → String
  | [] => ""
  | [w] => "'" ++ w ++ "'"
  | [v, w] => "'" ++ v ++ "' or '" ++ w ++ "'"
  | w :: rest => "'" ++ w ++ "', " ++ alternatives rest

def message [Glyphs] : Cause → String
  | missing key => "missing required field " ++ quotedText key
  | unknown key => "unknown field " ++ quotedText key
  | notText => "Input should be a valid string"
  | notFlag => "Input should be a valid boolean"
  | notInteger => "Input should be a valid integer"
  | negative => "Input should be greater than or equal to 0"
  | notList => "Input should be a valid list"
  | notMap => "Input should be a valid dictionary"
  | notRecord name => "Input should be a valid dictionary or instance of " ++ name
  | notWord words => "Input should be " ++ alternatives words
  | notOff => "Input should be False"
  | noText => "Input should be a valid string, unable to parse raw data as a unicode string"
  | notTextKey kind => "Value error, expected a string, got " ++ kind

end Cause

/-- What is wrong, and where. A missing or unknown field fails the record it belongs to. -/
structure Failure where
  place : Place
  cause : Cause
  deriving DecidableEq

namespace Failure

def under (part : PlacePart) (f : Failure) : Failure :=
  { f with place := part :: f.place }

def line [Glyphs] (data : Json) (root : String) (f : Failure) : String :=
  let path := pathText f.place data root
  (if path.isEmpty then "<root>" else path.readable) ++ ": " ++ f.cause.message

/-- One line for each distinct failure, in order. -/
def report [Glyphs] (data : Json) (root : String) (failures : List Failure) : List String :=
  (failures.map (line data root)).eraseDups

end Failure

end ManifestEdit
