import ManifestEdit.OrderedMap
import ManifestEdit.Pattern

/-!
# Selecting by patterns

Among the patterns that match a name the one of highest rank decides, the earliest on a tie.
-/

namespace ManifestEdit

namespace Pattern

/-- The patterns that match, in their order. -/
def matching (patterns : List Pattern) (candidate : Text) : List Pattern :=
  patterns.filter fun p => p.accepts candidate

/-- The better of the best so far and a later pattern. -/
def better (best : Option Pattern) (p : Pattern) : Option Pattern :=
  match best with
  | none => some p
  | some b => if p.outranks b then some p else some b

def mostSpecific (patterns : List Pattern) : Option Pattern :=
  patterns.foldl better none

/-- The names that some pattern matches, each with the patterns that do. -/
def select (names : List Text) (patterns : List Pattern) : List (Text × List Pattern) :=
  names.filterMap fun name =>
    match matching patterns name with
    | [] => none
    | hits => some (name, hits)

end Pattern

/-- Values by pattern, in the order in which they were written. -/
abbrev Rules (α : Type) := OrderedMap α

namespace Rules

variable {α : Type}

def patterns (rules : Rules α) : List Pattern :=
  rules.keys.map Pattern.mk

/-- The pattern that decides for a name. -/
def winner? (rules : Rules α) (name : Text) : Option Pattern :=
  Pattern.mostSpecific (Pattern.matching (patterns rules) name)

/-- The value that the patterns give a name. -/
def resolve? (rules : Rules α) (name : Text) : Option α :=
  (winner? rules name).bind fun p => rules.get? p.raw

end Rules

end ManifestEdit
