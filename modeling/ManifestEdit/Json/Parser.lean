import ManifestEdit.Json
import ManifestEdit.Number.Literal
import ManifestEdit.Text.Position

/-!
# Reading JSON text

A step takes the letters that are left and returns a value with what is left after it, so the place
of a fault is known from the number of letters left there. `NaN`, `Infinity` and
`-Infinity` are read as numbers. An integer with too many digits and a bracket nested too deep end
the reading where they are met, whatever follows.
-/

namespace ManifestEdit

namespace Json

inductive Reason where
  | value
  | propertyName
  | colon
  | comma
  | unterminatedString
  | controlCharacter
  | escape
  | unicodeEscape
  | extraData
  | byteOrderMark
  deriving DecidableEq

namespace Reason

def text : Reason → String
  | value => "Expecting value"
  | propertyName => "Expecting property name enclosed in double quotes"
  | colon => "Expecting ':' delimiter"
  | comma => "Expecting ',' delimiter"
  | unterminatedString => "Unterminated string starting at"
  | controlCharacter => "Invalid control character at"
  | escape => "Invalid \\escape"
  | unicodeEscape => "Invalid \\uXXXX escape"
  | extraData => "Extra data"
  | byteOrderMark => "Unexpected UTF-8 BOM (decode using utf-8-sig)"

end Reason

inductive Halt where
  /-- A fault of the text, with the number of letters left from it to the end. -/
  | fault (reason : Reason) (left : Nat)
  | limit (fault : Machine.Fault)
  deriving DecidableEq

abbrev Step (α : Type) := List Letter → Except Halt (α × List Letter)

def halt {α : Type} (reason : Reason) (ls : List Letter) : Except Halt (α × List Letter) :=
  .error (.fault reason ls.length)

def isBlank (l : Letter) : Bool :=
  l = ' ' || l = '\t' || l = '\n' || l = '\r'

def skipBlanks (ls : List Letter) : List Letter :=
  ls.dropWhile isBlank

/-! ## Strings -/

/-- A letter that stands for itself, or the letter of a code. -/
inductive Piece where
  | plain (l : Letter)
  | coded (l : Letter)
  deriving DecidableEq

def isHighHalf (offset : Fin 0x800) : Bool :=
  offset.val < 0x400

def joinHalves (high low : Fin 0x800) : Char :=
  Char.ofNat (0x10000 + high.val * 0x400 + (low.val - 0x400))

/-- Codes of the two halves of a pair that stand together are one character. -/
def joinPieces : List Piece → List Letter
  | [] => []
  | .coded (.half high) :: .coded (.half low) :: rest =>
    if isHighHalf high && !isHighHalf low then .char (joinHalves high low) :: joinPieces rest
    else .half high :: joinPieces (.coded (.half low) :: rest)
  | .coded l :: rest => l :: joinPieces rest
  | .plain l :: rest => l :: joinPieces rest

def hexDigit? (c : Char) : Option Nat :=
  if c.isDigit then some (c.toNat - '0'.toNat)
  else if 'a' ≤ c ∧ c ≤ 'f' then some (c.toNat - 'a'.toNat + 10)
  else if 'A' ≤ c ∧ c ≤ 'F' then some (c.toNat - 'A'.toNat + 10)
  else none

def hexCode? : Letter → Letter → Letter → Letter → Option Nat
  | .char a, .char b, .char c, .char d =>
    match hexDigit? a, hexDigit? b, hexDigit? c, hexDigit? d with
    | some a, some b, some c, some d => some (((a * 16 + b) * 16 + c) * 16 + d)
    | _, _, _, _ => none
  | _, _, _, _ => none

/-- What a letter stands for after a backslash. -/
def escaped? : Letter → Option Char
  | .char '"' => some '"'
  | .char '\\' => some '\\'
  | .char '/' => some '/'
  | .char 'b' => some '\x08'
  | .char 'f' => some '\x0c'
  | .char 'n' => some '\n'
  | .char 'r' => some '\r'
  | .char 't' => some '\t'
  | _ => none

/-- The pieces up to the closing quote. `opening` is the number of letters left at the opening
quote. A code needs four digits and a letter after them. -/
def scanString (opening : Nat) : Step (List Piece)
  | [] => .error (.fault .unterminatedString opening)
  | .char '"' :: rest => .ok ([], rest)
  | [.char '\\'] => .error (.fault .unterminatedString opening)
  | .char '\\' :: .char 'u' :: a :: b :: c :: d :: e :: rest =>
    match hexCode? a b c d with
    | some code =>
      match scanString opening (e :: rest) with
      | .ok (pieces, rest') => .ok (.coded (.ofCode code) :: pieces, rest')
      | .error h => .error h
    | none => .error (.fault .unicodeEscape (rest.length + 6))
  | .char '\\' :: .char 'u' :: rest => .error (.fault .unicodeEscape (rest.length + 1))
  | .char '\\' :: l :: rest =>
    match escaped? l with
    | some c =>
      match scanString opening rest with
      | .ok (pieces, rest') => .ok (.plain c :: pieces, rest')
      | .error h => .error h
    | none => .error (.fault .escape (rest.length + 2))
  | l :: rest =>
    if l.code < 0x20 then .error (.fault .controlCharacter (rest.length + 1))
    else
      match scanString opening rest with
      | .ok (pieces, rest') => .ok (.plain l :: pieces, rest')
      | .error h => .error h

/-- The string after its opening quote. -/
def stringBody : Step Text := fun rest => do
  let (pieces, rest) ← scanString (rest.length + 1) rest
  pure (⟨joinPieces pieces⟩, rest)

/-! ## Values -/

/-- What follows a word that stands at the head. -/
def afterWord? (word : Text) (ls : List Letter) : Option (List Letter) :=
  if word.letters.isPrefixOf ls then some (ls.drop word.letters.length) else none

/-- The words that are values. -/
def words : List (Text × Json) :=
  [("null", null), ("true", bool true), ("false", bool false), ("NaN", num (.double .nan)),
    ("Infinity", num (.double (.infinite false))), ("-Infinity", num (.double (.infinite true)))]

def scanWord (ls : List Letter) : Option (Json × List Letter) :=
  words.findSome? fun (word, value) => (afterWord? word ls).map (value, ·)

/-- Whether a character can be part of a number. -/
def isNumeral (c : Char) : Bool :=
  c.isDigit || c = '-' || c = '+' || c = '.' || c = 'e' || c = 'E'

/-- The characters at the head that can be part of a number. -/
def numerals : List Letter → List Char
  | .char c :: rest => if isNumeral c then c :: numerals rest else []
  | _ => []

/-- The number at the head, and what follows it. -/
def scanNumber (ls : List Letter) : Option (Number × List Letter) :=
  let head := numerals ls
  (Number.scan head).map fun (n, left) => (n, ls.drop (head.length - left.length))

def scanScalar [Machine] (ls : List Letter) : Except Halt (Json × List Letter) :=
  match scanWord ls with
  | some found => .ok found
  | none =>
    match scanNumber ls with
    | none => halt .value ls
    | some (n, rest) =>
      if n.fits then .ok (num n, rest) else .error (.limit (.digitsRead n.digitCount))

mutual

/-- The value at the head of the text, which starts with no blank; `levels` is how many levels of
brackets may be opened for it. -/
def scanValue [Machine] : Nat → Nat → Step Json
  | 0, _, ls => halt .value ls
  | fuel + 1, levels, ls =>
    match ls with
    | .char '"' :: rest => do
      let (text, rest) ← stringBody rest
      pure (str text, rest)
    | .char '{' :: rest =>
      match levels with
      | 0 => .error (.limit (.nestingRead true))
      | levels + 1 =>
        match skipBlanks rest with
        | .char '}' :: rest => .ok (obj [], rest)
        | rest => do
          let (members, rest) ← scanMembers fuel levels rest
          pure (obj (Entries.ofPairs members), rest)
    | .char '[' :: rest =>
      match levels with
      | 0 => .error (.limit (.nestingRead false))
      | levels + 1 =>
        match skipBlanks rest with
        | .char ']' :: rest => .ok (arr [], rest)
        | rest => do
          let (items, rest) ← scanItems fuel levels rest
          pure (arr items, rest)
    | ls => scanScalar ls

/-- One or more members up to the closing brace. -/
def scanMembers [Machine] : Nat → Nat → Step (List (Text × Json))
  | 0, _, ls => halt .propertyName ls
  | fuel + 1, levels, ls =>
    match ls with
    | .char '"' :: rest => do
      let (key, rest) ← stringBody rest
      match skipBlanks rest with
      | .char ':' :: rest => do
        let (value, rest) ← scanValue fuel levels (skipBlanks rest)
        match skipBlanks rest with
        | .char '}' :: rest => pure ([(key, value)], rest)
        | .char ',' :: rest => do
          let (members, rest) ← scanMembers fuel levels (skipBlanks rest)
          pure ((key, value) :: members, rest)
        | rest => halt .comma rest
      | rest => halt .colon rest
    | ls => halt .propertyName ls

/-- One or more items up to the closing bracket. -/
def scanItems [Machine] : Nat → Nat → Step (List Json)
  | 0, _, ls => halt .value ls
  | fuel + 1, levels, ls => do
    let (value, rest) ← scanValue fuel levels ls
    match skipBlanks rest with
    | .char ']' :: rest => pure ([value], rest)
    | .char ',' :: rest => do
      let (items, rest) ← scanItems fuel levels (skipBlanks rest)
      pure (value :: items, rest)
    | rest => halt .comma rest

end

/-- A value with blanks around it. Nesting takes two steps a level and each level at least one
letter, which bounds the steps. -/
def scanText [Machine] (ls : List Letter) : Except Halt Json :=
  match ls with
  | .char '\ufeff' :: _ => .error (.fault .byteOrderMark ls.length)
  | _ =>
    match scanValue (2 * ls.length + 2) Machine.readable (skipBlanks ls) with
    | .error h => .error h
    | .ok (value, rest) =>
      match skipBlanks rest with
      | [] => .ok value
      | rest => .error (.fault .extraData rest.length)

/-- Why a text is no JSON, and where: the offset counts letters from zero. -/
structure Fault where
  reason : Reason
  offset : Nat
  position : Position
  deriving DecidableEq

def Fault.message (f : Fault) : String :=
  f.reason.text ++ ": line " ++ toString f.position.line ++ " column " ++
    toString f.position.column ++ " (char " ++ toString f.offset ++ ")"

/-- Why a text is not read. -/
inductive Unread where
  | fault (fault : Fault)
  | limit (fault : Machine.Fault)
  deriving DecidableEq

def parse [Machine] (text : Text) : Except Unread Json :=
  let ls := text.letters
  match scanText ls with
  | .ok value => .ok value
  | .error (.limit fault) => .error (.limit fault)
  | .error (.fault reason left) =>
    let offset := ls.length - left
    .error (.fault ⟨reason, offset, Position.ofOffset ls offset⟩)

end Json

end ManifestEdit
