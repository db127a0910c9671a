import ManifestEdit.Glyphs

/-!
# Emoji codes

A code is a name between two colons that holds no blank, and stands for the emoji of that name.
After the name it may say in which form the emoji is to be shown.
-/

namespace ManifestEdit

namespace Emoji

/-- Blanks of all scripts. -/
def isBlank (l : Letter) : Bool :=
  let n := l.code
  (9 ≤ n && n ≤ 13) || (0x1C ≤ n && n ≤ 0x20) || n = 0x85 || n = 0xA0 || n = 0x1680 ||
    (0x2000 ≤ n && n ≤ 0x200A) || n = 0x2028 || n = 0x2029 || n = 0x202F || n = 0x205F || n = 0x3000

/-- The endings of a name that choose a form, with the character that selects the form. -/
def forms : List (Text × Char) :=
  [("-emoji", '\ufe0f'), ("-text", '\ufe0e')]

/-- A name without its ending, and what selects the form. -/
def splitForm (text : List Letter) : List Letter × List Letter :=
  match forms.find? fun f => f.1.letters.isSuffixOf text with
  | some (ending, selector) => (text.take (text.length - ending.letters.length), [selector])
  | none => (text, [])

/-- What stands for the text between two colons: its emoji, or the text as it is. -/
def shown [Glyphs] (text : List Letter) : List Letter :=
  let (name, selector) := splitForm text
  match Glyphs.emoji? name with
  | some emoji => emoji ++ selector
  | none => ':' :: (text ++ [(':' : Letter)])

/-- Replaces codes; `opened` is what stands after a colon that may open a code, last first. -/
def replaceFrom [Glyphs] (opened : Option (List Letter)) : List Letter → List Letter
  | [] => (opened.map fun text => (':' : Letter) :: text.reverse).getD []
  | l :: rest =>
    match opened with
    | none => if l = ':' then replaceFrom (some []) rest else l :: replaceFrom none rest
    | some text =>
      if l = ':' then shown text.reverse ++ replaceFrom none rest
      else if isBlank l then ':' :: (text.reverse ++ l :: replaceFrom none rest)
      else replaceFrom (some (l :: text)) rest

/-- A text with emoji for its codes. -/
def replaceCodes [Glyphs] (text : List Letter) : List Letter :=
  replaceFrom none text

end Emoji

end ManifestEdit
