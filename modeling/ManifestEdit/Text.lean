/-!
# Texts

A text is a list of letters. A letter is a character or half of a surrogate pair that stands without
its other half, as an escape in JSON can write it. A whole text has no such half, and is what a
string holds.
-/

namespace ManifestEdit

inductive Letter where
  | char (c : Char)
  /-- Half of a surrogate pair, counted from the first code of such a half. -/
  | half (offset : Fin 0x800)
  deriving DecidableEq

namespace Letter

instance : Coe Char Letter := ⟨char⟩

/-- The first code of half of a surrogate pair. -/
def firstHalf : Nat := 0xD800

def code : Letter → Nat
  | char c => c.toNat
  | half offset => firstHalf + offset.val

def isHalf : Letter → Bool
  | char _ => false
  | half _ => true

/-- The letter of a code up to U+FFFF. -/
def ofCode (code : Nat) : Letter :=
  if h : firstHalf ≤ code ∧ code < firstHalf + 0x800 then half ⟨code - firstHalf, by omega⟩
  else char (Char.ofNat code)

/-- What a reader sees: the three bytes of a half are three characters that could not be read. -/
def readable : Letter → List Char
  | char c => [c]
  | half _ => List.replicate 3 '\ufffd'

end Letter

structure Text where
  letters : List Letter
  deriving DecidableEq

namespace Text

def ofChars (cs : List Char) : Text :=
  ⟨cs.map .char⟩

def ofString (s : String) : Text :=
  ofChars s.toList

instance : Coe String Text := ⟨ofString⟩

def append (s t : Text) : Text :=
  ⟨s.letters ++ t.letters⟩

instance : Append Text := ⟨append⟩

def isEmpty (t : Text) : Bool :=
  t.letters.isEmpty

/-- Whether every letter is a character. -/
def isWhole (t : Text) : Bool :=
  t.letters.all fun l => !l.isHalf

def chars? : List Letter → Option (List Char)
  | [] => some []
  | .char c :: rest => (chars? rest).map (c :: ·)
  | .half _ :: _ => none

/-- The string of a whole text. -/
def string? (t : Text) : Option String :=
  (chars? t.letters).map String.ofList

/-- The text as a reader sees it. -/
def readable (t : Text) : String :=
  String.ofList (t.letters.flatMap Letter.readable)

/-- The whole text that looks the same. -/
def repaired (t : Text) : Text :=
  ofString t.readable

theorem eq_of_letters {s t : Text} (h : s.letters = t.letters) : s = t := by
  cases s
  cases t
  cases h
  rfl

theorem append_assoc (s t u : Text) : s ++ t ++ u = s ++ (t ++ u) :=
  congrArg Text.mk (List.append_assoc s.letters t.letters u.letters)

theorem letters_append (s t : Text) : (s ++ t).letters = s.letters ++ t.letters :=
  rfl

theorem isEmpty_append {s : Text} (h : s.isEmpty = false) (t : Text) :
    (s ++ t).isEmpty = false := by
  rcases s with ⟨_ | ⟨l, ls⟩⟩
  · cases h
  · rfl

theorem chars?_map_char (cs : List Char) : chars? (cs.map .char) = some cs := by
  induction cs with
  | nil => rfl
  | cons c rest ih => simp [chars?, ih]

theorem string?_ofString (s : String) : (ofString s).string? = some s := by
  simp [string?, ofString, ofChars, chars?_map_char]

theorem isWhole_ofString (s : String) : (ofString s).isWhole = true := by
  simp [isWhole, ofString, ofChars, Letter.isHalf]

end Text

end ManifestEdit
