import ManifestEdit.Json.Bounds
import ManifestEdit.Number.Text

/-!
# Writing JSON text

`text` writes a value on one line and `render` with one member a line. Only quotes, backslashes and
characters below the space are escaped. A document is rendered where no integer in it has too many
digits and nothing in it is nested too deep.
-/

namespace ManifestEdit

namespace Json

def hexDigitText (n : Nat) : Char :=
  if n < 10 then Char.ofNat (48 + n) else Char.ofNat (87 + n)

def escapeChar (c : Char) : List Char :=
  match c with
  | '"' => ['\\', '"']
  | '\\' => ['\\', '\\']
  | '\n' => ['\\', 'n']
  | '\r' => ['\\', 'r']
  | '\t' => ['\\', 't']
  | '\x08' => ['\\', 'b']
  | '\x0c' => ['\\', 'f']
  | c =>
    if c.toNat < 0x20 then
      ['\\', 'u', '0', '0', hexDigitText (c.toNat / 16), hexDigitText (c.toNat % 16)]
    else [c]

def letters (s : String) : List Letter :=
  s.toList.map .char

def escapeLetter : Letter → List Letter
  | .char c => (escapeChar c).map .char
  | .half offset => [.half offset]

def quote (t : Text) : List Letter :=
  '"' :: (t.letters.flatMap escapeLetter ++ letters "\"")

/-- Where members stand: on one line, or one a line with a width of indentation for each level. -/
inductive Layout where
  | inline
  | lines (indent : Nat)

namespace Layout

/-- What stands between a bracket and a member at this depth. -/
def lineBreak : Layout → Nat → List Letter
  | inline, _ => []
  | lines indent, depth => '\n' :: List.replicate (indent * depth) ' '

/-- What stands between two members at this depth. -/
def separator (layout : Layout) (depth : Nat) : List Letter :=
  match layout with
  | inline => [',', ' ']
  | lines _ => ',' :: layout.lineBreak depth

end Layout

def numberWords : Number.Words :=
  ⟨"NaN".toList, "Infinity".toList⟩

mutual

def write (layout : Layout) (depth : Nat) : Json → List Letter
  | null => letters "null"
  | bool b => if b then letters "true" else letters "false"
  | num n => (n.text numberWords).map .char
  | str s => quote s
  | arr [] => ['[', ']']
  | arr (j :: rest) =>
    '[' :: (layout.lineBreak (depth + 1) ++ write layout (depth + 1) j ++
      writeItems layout (depth + 1) rest ++ layout.lineBreak depth ++ letters "]")
  | obj [] => ['{', '}']
  | obj ((k, v) :: rest) =>
    '{' :: (layout.lineBreak (depth + 1) ++ quote k ++ letters ": " ++
      write layout (depth + 1) v ++ writeFields layout (depth + 1) rest ++
      layout.lineBreak depth ++ letters "\x7d")

/-- The items after the first. -/
def writeItems (layout : Layout) (depth : Nat) : List Json → List Letter
  | [] => []
  | j :: rest => layout.separator depth ++ write layout depth j ++ writeItems layout depth rest

/-- The fields after the first. -/
def writeFields (layout : Layout) (depth : Nat) : List (Text × Json) → List Letter
  | [] => []
  | (k, v) :: rest =>
    layout.separator depth ++ quote k ++ letters ": " ++ write layout depth v ++
      writeFields layout depth rest

end

def text (j : Json) : Text :=
  ⟨j.write .inline 0⟩

/-- The letters of a document: it ends with a line feed. -/
def lines (indent : Nat) (j : Json) : Text :=
  ⟨j.write (.lines indent) 0 ++ letters "\n"⟩

/-- The text of a document. -/
def render [Machine] (indent : Nat) (j : Json) : Except Machine.Fault Text :=
  match overrun? .nestingWritten Machine.writable j with
  | none => .ok (j.lines indent)
  | some fault => .error fault

end Json

end ManifestEdit
