import ManifestEdit.Glyphs
import ManifestEdit.Glyphs.EmojiNames
import ManifestEdit.Glyphs.Printable
import ManifestEdit.Glyphs.Widths

/-!
# The letters of Unicode

The glyphs of a console that knows all of Unicode, from the tables beside this module. Nothing that
is proved depends on them.
-/

namespace ManifestEdit

namespace Unicode

def within (ranges : List (Nat × Nat)) (l : Letter) : Bool :=
  ranges.any fun (low, high) => low ≤ l.code && l.code ≤ high

/-- In ASCII the printable characters are those from the space to the tilde. -/
def isPrintable (c : Char) : Bool :=
  if c.toNat < 0x7F then 0x20 ≤ c.toNat else !within unprintableRanges c

def width (l : Letter) : Nat :=
  if within emptyRanges l then 0 else if within wideRanges l then 2 else 1

/-- The small letter of a letter that occurs in names. -/
def lower (c : Char) : Char :=
  match c with
  | 'Ã' => 'ã'
  | 'Å' => 'å'
  | 'Ç' => 'ç'
  | 'É' => 'é'
  | 'Í' => 'í'
  | 'Ô' => 'ô'
  | '\u212a' => 'k'
  | '\u212b' => 'å'
  | c => c.toLower

/-- Names with the emoji that follow them. -/
def pairs : List String → List (String × String)
  | name :: emoji :: rest => (name, emoji) :: pairs rest
  | _ => []

/-- Every name with its emoji. -/
def emojiTable : List (String × String) :=
  emojiNames.flatMap fun line => pairs (line.splitOn " ")

/-- The emoji of a name, in large letters or small ones. -/
def emoji? (name : List Letter) : Option (List Letter) := do
  let cs ← Text.chars? name
  let emoji ← emojiTable.lookup (String.ofList (cs.map lower))
  pure (emoji.toList.map .char)

/-- The letters as a console shows them that prints these halves of surrogate pairs. -/
@[reducible]
def glyphs (prints : Fin 0x800 → Bool) : Glyphs where
  isPrintable := isPrintable
  width := width
  isWidened := within widenedRanges
  emoji? := emoji?
  prints := prints

end Unicode

end ManifestEdit
