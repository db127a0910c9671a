import ManifestEdit.Glyphs

/-!
# Quoted text

A text between single quotes, or between double quotes where it holds a single quote and no double
one. Backslashes, the quote in use, line breaks, tabs and unprintable letters are escaped, the last
by the shortest code of two, four or eight digits.
-/

namespace ManifestEdit

namespace Quoted

def hexDigit (n : Nat) : Char :=
  if n < 10 then Char.ofNat (48 + n) else Char.ofNat (87 + n)

/-- The last `width` hexadecimal digits. -/
def hex : Nat → Nat → List Char
  | 0, _ => []
  | width + 1, n => hex width (n / 16) ++ [hexDigit (n % 16)]

def code (n : Nat) : List Char :=
  if n < 0x100 then '\\' :: 'x' :: hex 2 n
  else if n < 0x10000 then '\\' :: 'u' :: hex 4 n
  else '\\' :: 'U' :: hex 8 n

def escapeChar [Glyphs] (mark : Char) (c : Char) : List Char :=
  if c = mark ∨ c = '\\' then ['\\', c]
  else if c = '\n' then ['\\', 'n']
  else if c = '\r' then ['\\', 'r']
  else if c = '\t' then ['\\', 't']
  else if Glyphs.isPrintable c then [c]
  else code c.toNat

def escape [Glyphs] (mark : Char) : Letter → List Char
  | .char c => escapeChar mark c
  | .half offset => code (Letter.half offset).code

def mark (text : List Letter) : Char :=
  if .char '\'' ∈ text ∧ .char '"' ∉ text then '"' else '\''

end Quoted

def quoted [Glyphs] (text : List Letter) : List Char :=
  let mark := Quoted.mark text
  mark :: (text.flatMap (Quoted.escape mark) ++ [mark])

def quotedText [Glyphs] (t : Text) : String :=
  String.ofList (quoted t.letters)

end ManifestEdit
