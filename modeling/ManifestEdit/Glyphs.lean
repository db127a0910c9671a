import ManifestEdit.Text

/-!
# Letters that are shown

Where a text is shown it matters which characters can be seen, how many cells a letter takes on a
console and which emoji have names. The tables for this belong to the place where the program runs.
-/

namespace ManifestEdit

class Glyphs where
  /-- Whether a character stands for itself between quotes. -/
  isPrintable : Char → Bool
  /-- The cells that a letter takes on a console. -/
  width : Letter → Nat
  /-- Whether a letter takes one cell more in its emoji form. -/
  isWidened : Letter → Bool
  /-- The emoji of a name. -/
  emoji? : List Letter → Option (List Letter)
  /-- Whether the console prints half of a surrogate pair. -/
  prints : Fin 0x800 → Bool

/-- Only ASCII can be seen, each letter takes one cell, no emoji has a name, and the console prints
whole texts only. -/
instance Glyphs.plain : Glyphs where
  isPrintable c := 0x20 ≤ c.toNat && c.toNat < 0x7F
  width _ := 1
  isWidened _ := false
  emoji? _ := none
  prints _ := false

end ManifestEdit
