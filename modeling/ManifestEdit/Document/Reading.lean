import ManifestEdit.Document
import ManifestEdit.Shape
import ManifestEdit.Shape.Failure

/-!
# Reading a document by its shape

Reading either succeeds or lists every failure: of a record first those of its fields as they are
declared, then the keys it does not allow as they were read. A field is looked up by its key and,
where that is missing, by its second spelling. The keys of a record must be whole; those of a map
need not be, and the places of failures show them repaired.
-/

namespace ManifestEdit

abbrev Reading (α : Type) := Except (List Failure) α

namespace Reading

variable {α : Type}

def fail (cause : Cause) : Reading α :=
  .error [⟨[], cause⟩]

/-- A reading of the value that a part leads to. -/
def under (part : PlacePart) : Reading α → Reading α
  | .ok a => .ok a
  | .error failures => .error (failures.map (Failure.under part))

/-- All of the readings, or all of their failures. -/
def all : List (Reading α) → Reading (List α)
  | [] => .ok []
  | r :: rest =>
    match r, all rest with
    | .ok a, .ok as => .ok (a :: as)
    | .ok _, .error failures => .error failures
    | .error failures, .ok _ => .error failures
    | .error failures, .error more => .error (failures ++ more)

end Reading

namespace DeclaredField

/-- The name under which a field was read, with its value. -/
def find? (f : DeclaredField) (entries : List (Text × Json)) : Option (Text × Json) :=
  match entries.lookup f.key with
  | some value => some (f.key, value)
  | none => (entries.lookup f.spelling).map (f.spelling, ·)

end DeclaredField

namespace Shape

/-- The names under which the fields of a record were read. -/
def namesRead (fields : List DeclaredField) (entries : List (Text × Json)) : List Text :=
  fields.filterMap fun f => (f.find? entries).map Prod.fst

/-- The entries that are no field. -/
def undeclared (fields : List DeclaredField) (entries : List (Text × Json)) :
    List (Text × Json) :=
  let names := namesRead fields entries
  entries.filter fun e => !names.contains e.1

def unknownOf (fields : List DeclaredField) (entries : List (Text × Json)) : List Unknown :=
  (undeclared fields entries).map fun e =>
    ⟨e.1, e.2, fields.any fun f => f.spelling = e.1⟩

/-- The keys read, each in its first spelling; a declared key that is null counts as not read. -/
def orderOf (fields : List DeclaredField) (entries : List (Text × Json)) : List Text :=
  entries.filterMap fun (k, v) =>
    let key := keyFor fields k
    if v.isNull && fields.any fun f => f.key = key then none else some key

def readCount : Json → Reading Document
  | .num (.int i) =>
    if 0 ≤ i then .ok (.leaf (.num (.int i))) else Reading.fail .negative
  | _ => Reading.fail .notInteger

def readOff : Json → Reading Document
  | .bool false => .ok (.leaf (.bool false))
  | .num n => if n.isZero then .ok (.leaf (.bool false)) else Reading.fail .notOff
  | _ => Reading.fail .notOff

def readWord (words : List String) : Json → Reading Document
  | .str s =>
    match s.string? with
    | some w => if words.contains w then .ok (.leaf (.str s)) else Reading.fail (.notWord words)
    | none => Reading.fail .noText
  | _ => Reading.fail (.notWord words)

/-- The record of the fields read. -/
def assemble (closed : Bool) (fields : List DeclaredField) (entries : List (Text × Json))
    (values : Reading (List (Option (Text × Document)))) : Reading Document :=
  let extra : List Failure :=
    if closed then (undeclared fields entries).map fun e => ⟨[], .unknown e.1⟩ else []
  match values, extra with
  | .ok values, [] =>
    .ok (.record (values.filterMap id) (unknownOf fields entries) (orderOf fields entries))
  | .ok _, extra => .error extra
  | .error failures, extra => .error (failures ++ extra)

mutual

def read : Shape → Json → Reading Document
  | anything, j => .ok (.leaf j)
  | text, j =>
    match j with
    | .str s => .ok (.leaf (.str s))
    | _ => Reading.fail .notText
  | flag, j =>
    match j with
    | .bool b => .ok (.leaf (.bool b))
    | _ => Reading.fail .notFlag
  | count, j => readCount j
  | word words, j => readWord words j
  | off, j => readOff j
  | list item, j =>
    match j with
    | .arr items =>
      match Reading.all (items.zipIdx.map fun (v, i) => Reading.under (.index i) (read item v)) with
      | .ok ds => .ok (.list ds)
      | .error failures => .error failures
    | _ => Reading.fail .notList
  | map value, j =>
    match j with
    | .obj entries =>
      let readings :=
        entries.map fun (k, v) => Reading.under (.key k.repaired) (read value v)
      match Reading.all readings with
      | .ok ds => .ok (.map ((Entries.keys entries).zip ds))
      | .error failures => .error failures
    | _ => Reading.fail .notMap
  | oneOf members, j =>
    match readMembers members j with
    | .ok d => .ok (.choice d)
    | .error failures => .error failures
  | record name closed fields, j =>
    match j with
    | .obj entries =>
      if entries.all fun e => e.1.isWhole then
        assemble closed (fields.map Prod.fst) entries (Reading.all (readFields fields entries))
      else Reading.fail .noText
    | _ => Reading.fail (.notRecord name)

/-- The first member that reads the value, or the failures of all. -/
def readMembers : List (String × Shape) → Json → Reading Document
  | [], _ => .error []
  | (label, shape) :: rest, j =>
    match Reading.under (.label label) (read shape j) with
    | .ok d => .ok d
    | .error failures =>
      match readMembers rest j with
      | .ok d => .ok d
      | .error more => .error (failures ++ more)

/-- The declared fields, in order, each with its value where it has one. -/
def readFields : List (DeclaredField × Shape) → List (Text × Json) →
    List (Reading (Option (Text × Document)))
  | [], _ => []
  | (field, shape) :: rest, entries =>
    (match field.find? entries with
      | none => if field.required then Reading.fail (.missing field.key) else .ok none
      | some (name, value) =>
        if field.nullable && value.isNull then .ok none
        else
          match Reading.under (.key name) (read shape value) with
          | .ok d => .ok (some (field.key, d))
          | .error failures => .error failures) :: readFields rest entries

end

end Shape

/-- What is declared of a record. -/
structure Schema where
  name : String
  closed : Bool
  fields : List (DeclaredField × Shape)

namespace Schema

def shape (s : Schema) : Shape :=
  .record s.name s.closed s.fields

def declared (s : Schema) : List DeclaredField :=
  s.fields.map Prod.fst

def read (s : Schema) (j : Json) : Reading Record :=
  match s.shape.read j with
  | .ok (.record fields unknown order) => .ok ⟨fields, unknown, order⟩
  | .ok _ => .error []
  | .error failures => .error failures

end Schema

end ManifestEdit
