import ManifestEdit.Console.Emoji
import ManifestEdit.Console.Tabs
import ManifestEdit.Text.Utf8

/-!
# Text on a console

A line that is printed shows emoji for their codes and spaces for tabs, and leaves out the control
characters that would move the cursor. The cell of a table only leaves out those characters. The
console writes UTF-8, in which half of a surrogate pair has no bytes.
-/

namespace ManifestEdit

namespace Console

/-- What a console leaves out of a text. -/
def isDropped (l : Letter) : Bool :=
  l = '\x07' || l = '\x08' || l = '\x0b' || l = '\x0c' || l = '\r'

def withoutControls (text : List Letter) : List Letter :=
  text.filter fun l => !isDropped l

/-- A text as a table shows it. -/
def cell (t : Text) : Text :=
  ⟨withoutControls t.letters⟩

/-- A text as it is printed. -/
def shown [Glyphs] (t : Text) : Text :=
  ⟨Tabs.expand (withoutControls (Emoji.replaceCodes t.letters))⟩

/-- The halves of surrogate pairs in a text that the console does not print, where there are some.
Their place is that in the text as it stands here, before the console lays it out. -/
def refused? [Glyphs] (t : Text) : Option Utf8.Unencodable :=
  Utf8.fault?
    (Utf8.encodeFrom (fun half => if Glyphs.prints half then some 0 else none) 0 t.letters)

end Console

end ManifestEdit
