import ManifestEdit.Text

/-!
# Positions in a text

Lines and columns count from one; only the line feed ends a line.
-/

namespace ManifestEdit

structure Position where
  line : Nat
  column : Nat
  deriving DecidableEq

namespace Position

def next (p : Position) (l : Letter) : Position :=
  if l = '\n' then ⟨p.line + 1, 1⟩ else ⟨p.line, p.column + 1⟩

/-- The position after `offset` letters. -/
def ofOffset (text : List Letter) (offset : Nat) : Position :=
  (text.take offset).foldl next ⟨1, 1⟩

end Position

end ManifestEdit
