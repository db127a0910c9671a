import ManifestEdit.Pattern.Regex

/-!
# Package patterns

In a pattern `*` stands for any letters, also none and also `/`; every other letter stands for
itself. A pattern is its text: two patterns of one text are one pattern.

A pattern is translated to a regular expression, which does the matching: the text is cut at its
wildcards, the pieces are escaped and a run of wildcards becomes one `.*`.
-/

namespace ManifestEdit

structure Pattern where
  raw : Text
  deriving DecidableEq

namespace Pattern

def wildcard : Letter := '*'

/-! ## Translation -/

/-- The text cut at each wildcard. -/
def pieces : List Letter → List (List Letter)
  | [] => [[]]
  | l :: rest =>
    if l = wildcard then [] :: pieces rest
    else
      match pieces rest with
      | [] => [[l]]
      | piece :: more => (l :: piece) :: more

/-- The signs that an expression would not take as themselves, and some more. -/
def signs : List Char :=
  ['(', ')', '[', ']', '\x7b', '\x7d', '?', '*', '+', '-', '|', '^', '$', '\\', '.', '&', '~',
    '#', ' ', '\t', '\n', '\r', '\x0b', '\x0c']

def escapeLetter : Letter → List Letter
  | .char c => if signs.contains c then ['\\', .char c] else [.char c]
  | .half offset => [.half offset]

/-- The expression of a text that stands for itself. -/
def escape (literal : List Letter) : List Letter :=
  literal.flatMap escapeLetter

/-- The expression of a wildcard. -/
def anything : List Letter :=
  ['.', '*']

def addWildcard (parts : List (List Letter)) : List (List Letter) :=
  if parts.getLast? = some anything then parts else parts ++ [anything]

def addPiece (parts : List (List Letter)) (piece : List Letter) : List (List Letter) :=
  if piece.isEmpty then parts else parts ++ [escape piece]

/-- The parts of the expression: every piece but the first stands behind a wildcard. -/
def parts (pattern : List Letter) : List (List Letter) :=
  match pieces pattern with
  | [] => []
  | first :: more =>
    more.foldl (fun parts piece => addPiece (addWildcard parts) piece) (addPiece [] first)

/-- The expression of a candidate's start. -/
def opening : List Letter :=
  ['\\', 'A']

/-- The expression of a candidate's end. -/
def closing : List Letter :=
  ['\\', 'Z']

/-- The expression of a pattern, which must match a candidate from its start to its end. -/
def expression (p : Pattern) : Text :=
  ⟨opening ++ (parts p.raw.letters).flatten ++ closing⟩

/-! ## Matching -/

/-- Whether the expression of the pattern matches the candidate. -/
def accepts (p : Pattern) (candidate : Text) : Bool :=
  match Regex.read? p.expression with
  | some items => Regex.isMatch items candidate
  | none => false

/-- A literal pattern names one package. -/
def isLiteral (p : Pattern) : Bool :=
  !p.raw.letters.contains wildcard

/-- The number of letters that stand for themselves. -/
def size (p : Pattern) : Nat :=
  (p.raw.letters.filter (· ≠ wildcard)).length

/-- Literal patterns rank above the others, then the one with more letters of its own. -/
def outranks (p q : Pattern) : Bool :=
  (p.isLiteral && !q.isLiteral) || (p.isLiteral = q.isLiteral && q.size < p.size)

end Pattern

end ManifestEdit
