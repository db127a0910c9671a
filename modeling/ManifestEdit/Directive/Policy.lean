/-!
# Merge policies

How the rules of a section meet the entries of a dependency map.
-/

namespace ManifestEdit

inductive MergePolicy where
  | delete
  | insertIfAbsent
  | overwrite
  | overwriteIfPresent
  deriving DecidableEq

namespace MergePolicy

/-- Whether a literal pattern that matches nothing adds its package. -/
def inserts : MergePolicy → Bool
  | insertIfAbsent => true
  | overwrite => true
  | _ => false

/-- Whether matched entries take the value of their rule. -/
def overwrites : MergePolicy → Bool
  | overwrite => true
  | overwriteIfPresent => true
  | _ => false

end MergePolicy

end ManifestEdit
