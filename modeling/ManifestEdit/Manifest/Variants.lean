import ManifestEdit.Document
import ManifestEdit.Pattern.Selection

/-!
# Values of several shapes

Some fields take one of two shapes. Each keeps the shape in which it was written.
-/

namespace ManifestEdit

namespace Document

def text? : Document → Option Text
  | leaf (.str s) => some s
  | _ => none

def flag? : Document → Option Bool
  | leaf (.bool b) => some b
  | _ => none

def texts? : List Document → Option (List Text)
  | [] => some []
  | d :: rest =>
    match d.text?, texts? rest with
    | some s, some ss => some (s :: ss)
    | _, _ => none

/-- The entries of a map whose values can all be read. -/
def entries? {α : Type} (value? : Document → Option α) :
    List (Text × Document) → Option (List (Text × α))
  | [] => some []
  | (k, d) :: rest =>
    match value? d, entries? value? rest with
    | some a, some more => some ((k, a) :: more)
    | _, _ => none

/-- The map of a document whose values can all be read. -/
def mapOf? {α : Type} (value? : Document → Option α) : Document → Option (OrderedMap α)
  | map entries => (entries? value? entries).map OrderedMap.ofPairs
  | _ => none

end Document

/-! ## One or many -/

inductive OneOrMany where
  | one (value : Text)
  | many (values : List Text)
  deriving DecidableEq

namespace OneOrMany

def isMany : OneOrMany → Bool
  | one _ => false
  | many _ => true

def values : OneOrMany → List Text
  | one v => [v]
  | many vs => vs

def ofDocument? : Document → Option OneOrMany
  | .choice (.leaf (.str s)) => some (one s)
  | .choice (.list items) => (Document.texts? items).map many
  | _ => none

end OneOrMany

/-! ## Abandoned -/

/-- A mark, or the package to use instead. -/
inductive Abandoned where
  | mark (flag : Bool)
  | replacedBy (package : Text)
  deriving DecidableEq

namespace Abandoned

def flag : Abandoned → Bool
  | mark b => b
  | replacedBy _ => true

def replacement? : Abandoned → Option Text
  | mark _ => none
  | replacedBy package => some package

def ofDocument? : Document → Option Abandoned
  | .choice (.leaf (.bool b)) => some (mark b)
  | .choice (.leaf (.str s)) => some (replacedBy s)
  | _ => none

end Abandoned

/-! ## Settings by pattern -/

/-- One answer for every package, or answers by pattern. -/
inductive AllowPlugins where
  | every (allowed : Bool)
  | byPattern (rules : Rules Bool)

namespace AllowPlugins

/-- A package that no pattern matches is not allowed. -/
def allows : AllowPlugins → Text → Bool
  | every allowed, _ => allowed
  | byPattern rules, package => (rules.resolve? package).getD false

def ofDocument? : Document → Option AllowPlugins
  | .choice (.leaf (.bool b)) => some (every b)
  | .choice d => (d.mapOf? Document.flag?).map byPattern
  | _ => none

end AllowPlugins

/-- Where a package is installed from. -/
inductive PackageSource where
  | dist
  | source
  | auto
  deriving DecidableEq

namespace PackageSource

def name : PackageSource → String
  | dist => "dist"
  | source => "source"
  | auto => "auto"

def ofName? (s : Text) : Option PackageSource :=
  [dist, source, auto].find? fun m => m.name = s

def ofDocument? (d : Document) : Option PackageSource :=
  d.text?.bind ofName?

end PackageSource

inductive PreferredInstall where
  | every (mode : PackageSource)
  | byPattern (rules : Rules PackageSource)

namespace PreferredInstall

def modeFor (p : PreferredInstall) (package : Text) (fallback : PackageSource) : PackageSource :=
  match p with
  | every mode => mode
  | byPattern rules => (rules.resolve? package).getD fallback

def ofDocument? : Document → Option PreferredInstall
  | .choice d =>
    match PackageSource.ofDocument? d with
    | some mode => some (every mode)
    | none => (d.mapOf? PackageSource.ofDocument?).map byPattern
  | _ => none

end PreferredInstall

end ManifestEdit
