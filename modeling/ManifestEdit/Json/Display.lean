import ManifestEdit.Json.Bounds
import ManifestEdit.Number.Text
import ManifestEdit.Text.Quoted

/-!
# Values in reports

Reports show a text bare at the top and quoted inside a value, and write `None`, `True` and `False`
for the constants. A value that is nested too deep is not shown.
-/

namespace ManifestEdit

namespace Json

def reportWords : Number.Words :=
  ⟨"nan".toList, "inf".toList⟩

mutual

def inspect [Glyphs] : Json → List Char
  | null => "None".toList
  | bool b => if b then "True".toList else "False".toList
  | num n => n.text reportWords
  | str s => quoted s.letters
  | arr [] => ['[', ']']
  | arr (j :: rest) => '[' :: (inspect j ++ inspectItems rest ++ [']'])
  | obj [] => ['\x7b', '\x7d']
  | obj ((k, v) :: rest) =>
    '\x7b' :: (quoted k.letters ++ [':', ' '] ++ inspect v ++ inspectFields rest ++ ['\x7d'])

def inspectItems [Glyphs] : List Json → List Char
  | [] => []
  | j :: rest => [',', ' '] ++ inspect j ++ inspectItems rest

def inspectFields [Glyphs] : List (Text × Json) → List Char
  | [] => []
  | (k, v) :: rest =>
    [',', ' '] ++ quoted k.letters ++ [':', ' '] ++ inspect v ++ inspectFields rest

end

/-- The value inside another text. -/
def inspected [Glyphs] (j : Json) : String :=
  String.ofList j.inspect

/-- The value on its own: a text stands bare. -/
def display [Glyphs] : Json → Text
  | str s => s
  | j => j.inspected

/-- What a report shows of a value. -/
def shown [Machine] [Glyphs] (j : Json) : Except Machine.Fault Text :=
  match overrun? .nestingShown Machine.shown j with
  | none => .ok j.display
  | some fault => .error fault

end Json

end ManifestEdit
