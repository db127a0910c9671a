import ManifestEdit.Change
import ManifestEdit.Directive

/-!
# Overriding configuration keys

The overrides are written over the configuration as it is rendered, and the result is read again:
an override of a wrong type fails as it would in a manifest, and a field that is overridden with
null reads as absent.
-/

namespace ManifestEdit

/-- Why a directive cannot be applied. -/
inductive ApplyError where
  | document (error : DocumentError)
  /-- The configuration cannot be rendered. -/
  | encode (fault : EncodeFault)

namespace Config

/-- The change that an override makes, unless it equals what is there. -/
def overrideChange? (base : List (Text × Json)) (key : Text) (value : Json) : Option Change :=
  let old := (base.lookup key).getD .null
  if old.sameValue value then none
  else some ⟨"modify", "config", key, .configured, none, old, value⟩

/-- The configuration with the values that the changes write. -/
def merge (base : List (Text × Json)) (changes : List Change) : List (Text × Json) :=
  changes.foldl (fun entries c => Entries.put c.key c.new entries) base

/-- The overrides over the rendered configuration; one that is absent stays so unless an override
changes it. -/
def override (isAbsent : Bool) (base : List (Text × Json)) (overrides : Overrides) :
    Except ApplyError (Option Config × List Change) :=
  let changes := overrides.entries.filterMap fun e => overrideChange? base e.1 e.2
  if isAbsent && changes.isEmpty then .ok (none, [])
  else
    match decode (.obj (merge base changes)) "config" with
    | .ok c => .ok (some c, changes)
    | .error e => .error (.document (e.ofSource "modify.config"))

def applyOverrides (config : Option Config) (overrides : Overrides) :
    Except ApplyError (Option Config × List Change) :=
  match config with
  | none => override true [] overrides
  | some c =>
    match c.entries with
    | .ok base => override false base overrides
    | .error fault => .error (.encode fault)

end Config

end ManifestEdit
