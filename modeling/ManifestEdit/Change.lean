import ManifestEdit.Json.Display

/-!
# Changes

An edit reports what it did to each entry that a pattern selected, and each pattern that selected
nothing.
-/

namespace ManifestEdit

inductive ChangeKind where
  | removed
  | added
  | replaced
  | skipped
  | unmatched
  | configured
  deriving DecidableEq

namespace ChangeKind

def name : ChangeKind → String
  | removed => "removed"
  | added => "added"
  | replaced => "replaced"
  | skipped => "skipped"
  | unmatched => "unmatched"
  | configured => "configured"

/-- Whether something differs after the change. -/
def isEffective : ChangeKind → Bool
  | skipped => false
  | unmatched => false
  | _ => true

end ChangeKind

/-- A value that is absent before or after is null. -/
structure Change where
  pass : String
  target : String
  key : Text
  kind : ChangeKind
  pattern : Option Text
  old : Json
  new : Json

namespace Change

/-- The change in words, unless a value in it cannot be shown. -/
def describe [Machine] [Glyphs] (c : Change) : Except Machine.Fault Text :=
  match c.kind with
  | .removed => do
    pure ("remove " ++ c.target ++ " " ++ c.key ++ " (" ++ (← c.old.shown) ++ ")")
  | .added => do
    pure ("add " ++ c.target ++ " " ++ c.key ++ " (" ++ (← c.new.shown) ++ ")")
  | .replaced => do
    pure ("set " ++ c.target ++ " " ++ c.key ++ ": " ++ (← c.old.shown) ++ " -> " ++
      (← c.new.shown))
  | .skipped => do
    pure ("keep " ++ c.target ++ " " ++ c.key ++ " (" ++ (← c.old.shown) ++ "), already present")
  | .unmatched => pure ("pattern " ++ c.key ++ " matched nothing in " ++ c.target)
  | .configured => do
    pure ("set config " ++ c.key ++ ": " ++ (← c.old.shown) ++ " -> " ++ (← c.new.shown))

end Change

end ManifestEdit
