import ManifestEdit.Directive
import ManifestEdit.Json.Display

/-!
# Sections from keys of any kind

A section that is built in code may be given keys that are no text. A text or a pattern is taken as
it is; every other key fails, at the place of the key.
-/

namespace ManifestEdit

inductive RuleKey where
  | text (raw : Text)
  | pattern (p : Pattern)
  | null
  | flag (b : Bool)
  | number (n : Number)

namespace RuleKey

/-- A flag as a number. -/
def ofFlag (b : Bool) : Int :=
  if b then 1 else 0

/-- What a key counts as among numbers. -/
def number? : RuleKey → Option Number
  | flag b => some (.int (ofFlag b))
  | number n => some n
  | _ => none

/-- Whether two keys name one entry of the map given. -/
def same : RuleKey → RuleKey → Bool
  | text a, text b => a = b
  | pattern p, pattern q => p = q
  | null, null => true
  | k, l =>
    match k.number?, l.number? with
    | some m, some n => m.sameValue n
    | _, _ => false

/-- A repeated key keeps its first place and form and takes its last value. -/
def put (key : RuleKey) (value : Text) : List (RuleKey × Text) → List (RuleKey × Text)
  | [] => [(key, value)]
  | (k, v) :: rest => if same k key then (k, value) :: rest else (k, v) :: put key value rest

def distinct (entries : List (RuleKey × Text)) : List (RuleKey × Text) :=
  entries.foldl (fun m e => put e.1 e.2 m) []

/-- The key as a part of a place. -/
def part : RuleKey → Text
  | text raw => raw
  | pattern p => p.raw
  | null => "None"
  | flag b => toString (ofFlag b)
  | number n => .ofChars (n.text Json.reportWords)

/-- The raw pattern of a key, or what kind of key it is. -/
def raw : RuleKey → Except String Text
  | text raw => .ok raw
  | pattern p => .ok p.raw
  | null => .error "NoneType"
  | flag _ => .error "bool"
  | number (.int _) => .error "int"
  | number (.double _) => .error "float"

/-- Whether a place leads to the entry of the key. An integer is found only as a word. -/
def isFound : RuleKey → Bool
  | text _ | flag _ => true
  | number (.int i) => Number.isWord i
  | _ => false

/-- The map as far as places lead into it. -/
def visible (entries : List (RuleKey × Text)) : Json :=
  .obj [("require", .obj ((entries.filter fun e => e.1.isFound).map fun e =>
    (e.1.part, .str e.2)))]

def failure? (key : RuleKey) : Option Failure :=
  match key.raw with
  | .ok _ => none
  | .error kind => some ⟨[.key "require", .key key.part, .key "[key]"], .notTextKey kind⟩

def entry? (e : RuleKey × Text) : Option (Text × Text) :=
  match e.1.raw with
  | .ok raw => some (raw, e.2)
  | .error _ => none

end RuleKey

/-- The section that requires these packages. -/
def Section.ofKeys (entries : List (RuleKey × Text)) : Except DocumentError Section :=
  let entries := RuleKey.distinct entries
  match entries.filterMap fun e => e.1.failure? with
  | [] =>
    .ok ⟨some (OrderedMap.ofPairs (entries.filterMap RuleKey.entry?)), none,
      [Target.require.key]⟩
  | failures => .error ⟨.invalid (RuleKey.visible entries) "" failures, none⟩

end ManifestEdit
