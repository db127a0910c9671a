import ManifestEdit.Text

/-!
# Arguments

Options start with a hyphen: long ones with two, and letters that may stand together after one. A
value follows its option, or stands in the same argument: after `=` for a long option, directly
after a letter. After `--` nothing is an option.
-/

namespace ManifestEdit

namespace CommandLine

structure Switch where
  name : String
  letter : Option Char
  takesValue : Bool

/-- An option as given; one that takes no value has an empty one. -/
structure Given where
  name : String
  value : Text

/-- The options of one argument, and the option whose value is the next argument. -/
structure Taken where
  given : List Given
  pending : Option String

/-- Letters that stand together. -/
def takeLetters (switches : List Switch) : List Letter → Option Taken
  | [] => some ⟨[], none⟩
  | l :: rest =>
    match switches.find? fun s => s.letter.map Letter.char = some l with
    | none => none
    | some s =>
      if s.takesValue then
        if rest.isEmpty then some ⟨[], some s.name⟩
        else some ⟨[⟨s.name, ⟨rest⟩⟩], none⟩
      else
        (takeLetters switches rest).map fun t => { t with given := ⟨s.name, ""⟩ :: t.given }

/-- A long option, with what stands after its first `=`. -/
def takeLong (switches : List Switch) (text : List Letter) : Option Taken :=
  let inName (l : Letter) : Bool := l ≠ '='
  let name : Text := ⟨text.takeWhile inName⟩
  let value : Option Text :=
    match text.dropWhile inName with
    | [] => none
    | _ :: rest => some ⟨rest⟩
  match switches.find? fun s => s.name = name, value with
  | none, _ => none
  | some s, none => some (if s.takesValue then ⟨[], some s.name⟩ else ⟨[⟨s.name, ""⟩], none⟩)
  | some s, some v => if s.takesValue then some ⟨[⟨s.name, v⟩], none⟩ else none

/-- The options of an argument that is one; `none` where an option is unknown. -/
def takeOption (switches : List Switch) (argument : Text) : Option Taken :=
  match argument.letters with
  | .char '-' :: .char '-' :: text => takeLong switches text
  | .char '-' :: text => takeLetters switches text
  | _ => none

def isOption (argument : Text) : Bool :=
  match argument.letters with
  | .char '-' :: _ :: _ => true
  | _ => false

/-- Arguments sorted into options and others. -/
structure Sorted where
  given : List Given
  others : List Text

/-- Sorts arguments. Unless options may stand anywhere, they end at the first other argument. -/
def sortArguments (switches : List Switch) (anywhere : Bool) : List Text → Option Sorted
  | [] => some ⟨[], []⟩
  | argument :: rest =>
    if argument = "--" then some ⟨[], rest⟩
    else if isOption argument then
      match takeOption switches argument with
      | none => none
      | some ⟨given, none⟩ =>
        (sortArguments switches anywhere rest).map fun s => { s with given := given ++ s.given }
      | some ⟨given, some name⟩ =>
        match rest with
        | [] => none
        | value :: rest =>
          (sortArguments switches anywhere rest).map fun s =>
            { s with given := given ++ ⟨name, value⟩ :: s.given }
    else if anywhere then
      (sortArguments switches anywhere rest).map fun s =>
        { s with others := argument :: s.others }
    else some ⟨[], argument :: rest⟩

namespace Sorted

def has (s : Sorted) (name : String) : Bool :=
  s.given.any fun g => g.name = name

def count (s : Sorted) (name : String) : Nat :=
  s.given.countP fun g => g.name = name

/-- The value given last. -/
def value? (s : Sorted) (name : String) : Option Text :=
  (s.given.reverse.find? fun g => g.name = name).map Given.value

end Sorted

end CommandLine

end ManifestEdit
