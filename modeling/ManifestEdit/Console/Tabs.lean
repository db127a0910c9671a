import ManifestEdit.Glyphs

/-!
# Tabs

A tab is shown as a space and as many more as lead to the next multiple of eight cells. Each line
counts its cells from its start.
-/

namespace ManifestEdit

namespace Cells

def joiner : Char := '\u200d'

/-- Asks for the emoji form of the character before it. -/
def emojiSelector : Char := '\ufe0f'

/-- The cells of a text after the letter `last`, where one was shown. A joiner takes the letter
after it into the one before. -/
def countFrom [Glyphs] (last : Option Letter) : List Letter → Nat
  | [] => 0
  | l :: rest =>
    if l = joiner then
      match rest with
      | [] => 0
      | _ :: rest => countFrom last rest
    else if l = emojiSelector then
      (if last.any Glyphs.isWidened then 1 else 0) + countFrom none rest
    else if Glyphs.width l = 0 then countFrom last rest
    else Glyphs.width l + countFrom (some l) rest

def count [Glyphs] (text : List Letter) : Nat :=
  countFrom none text

end Cells

namespace Tabs

def stop : Nat := 8

/-- The cells from a place to the next stop. -/
def toStop (place : Nat) : Nat :=
  if place % stop = 0 then 0 else stop - place % stop

/-- Expands tabs after `place` cells; `part` is what stands since the last tab, last first. -/
def expandFrom [Glyphs] (place : Nat) (part : List Letter) : List Letter → List Letter
  | [] => part.reverse
  | l :: rest =>
    if l = '\n' then part.reverse ++ l :: expandFrom 0 [] rest
    else if l = '\t' then
      let text := ((' ' : Letter) :: part).reverse
      let place := place + Cells.count text
      let more := toStop place
      text ++ List.replicate more (' ' : Letter) ++ expandFrom (place + more) [] rest
    else expandFrom place (l :: part) rest

def expand [Glyphs] (text : List Letter) : List Letter :=
  expandFrom 0 [] text

end Tabs

end ManifestEdit
