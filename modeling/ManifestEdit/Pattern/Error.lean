import ManifestEdit.Json.Display
import ManifestEdit.Pattern

/-!
# Values that are no pattern
-/

namespace ManifestEdit

namespace Json

/-- What kind of value it is, in the words of reports. -/
def kindName : Json → String
  | null => "NoneType"
  | bool _ => "bool"
  | num (.int _) => "int"
  | num (.double _) => "float"
  | str _ => "str"
  | arr _ => "list"
  | obj _ => "dict"

end Json

structure PatternError where
  value : Json
  reason : String

def PatternError.message [Glyphs] (e : PatternError) : String :=
  "invalid package pattern " ++ e.value.inspected ++ ": " ++ e.reason

/-- The pattern of a text. -/
def Pattern.ofJson : Json → Except PatternError Pattern
  | .str s => .ok ⟨s⟩
  | j => .error ⟨j, "expected a string, got " ++ j.kindName⟩

end ManifestEdit
