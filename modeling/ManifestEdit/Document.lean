import ManifestEdit.Json.Encoding

/-!
# Documents

A document is a JSON value that was read by a shape. A record keeps its fields in the order in
which they are declared, the keys it does not declare, and the order in which all keys were read.

A map shows its keys repaired where it is written. Within a value that no shape describes every key
must have bytes, and neither such a value nor what a record writes may be nested too deep. A choice
is a value to which several shapes were open. Where none of them can write it, it is taken as a
value that no shape describes, and the first fault in all of it is the fault.
-/

namespace ManifestEdit

/-- A key that is not declared. It is a respelling when it is the second spelling of a field whose
key stands beside it. -/
structure Unknown where
  key : Text
  value : Json
  respelling : Bool

inductive Document where
  | leaf (value : Json)
  | list (items : List Document)
  | map (entries : List (Text × Document))
  | choice (value : Document)
  | record (fields : List (Text × Document)) (unknown : List Unknown) (order : List Text)

/-- A document that is a record. -/
structure Record where
  fields : List (Text × Document)
  unknown : List Unknown
  order : List Text

def Record.toDocument (r : Record) : Document :=
  .record r.fields r.unknown r.order

/-- The entries whose keys stand in `order`, in that order, and then the others. -/
def arrange (order : List Text) (entries : List (Text × Json)) : List (Text × Json) :=
  order.eraseDups.filterMap (fun k => (entries.lookup k).map (k, ·)) ++
    entries.filter fun e => !order.contains e.1

/-- Whether an unknown key is written: a null respelling reads as absent. -/
def Unknown.entry? (u : Unknown) : Option (Text × Json) :=
  let value := u.value.finiteOnly
  if u.respelling && value.isNull then none else some (u.key, value)

namespace Document

/-- The entries under whole keys. -/
def wholeKeys (entries : List (Text × Json)) : List (Text × Json) :=
  Entries.ofPairs (entries.map fun e => (e.1.repaired, e.2))

mutual

/-- The JSON value of a document. -/
def toJson : Document → Json
  | leaf value => value.finiteOnly
  | list items => .arr (itemsToJson items)
  | map entries => .obj (wholeKeys (entriesToJson entries))
  | choice value => value.toJson
  | record fields unknown order =>
    .obj (arrange order
      ((entriesToJson fields).filter (fun e => !e.2.isNull) ++ unknown.filterMap Unknown.entry?))

def itemsToJson : List Document → List Json
  | [] => []
  | d :: rest => d.toJson :: itemsToJson rest

def entriesToJson : List (Text × Document) → List (Text × Json)
  | [] => []
  | (k, d) :: rest => (k, d.toJson) :: entriesToJson rest

end

/-! ## Writing -/

/-- The fault of a value that a record writes as a whole. -/
def outputFault? (written : Json) : Option EncodeFault :=
  if Machine.encodable + 1 < written.depth then some .output else none

def faultOfUnknown? (unknown : List Unknown) : Option EncodeFault :=
  unknown.findSome? fun u => u.value.encodeFault? Machine.encodable

mutual

/-- The first fault of a document that cannot be written. -/
def fault? : Document → Option EncodeFault
  | leaf value => value.encodeFault? Machine.encodable
  | list items => faultOfItems? items
  | map entries => faultOfEntries? entries
  | choice value => value.fault?.bind fun _ => value.anyFault?
  | record fields unknown order =>
    (((faultOfEntries? fields).map .within).or (faultOfUnknown? unknown)).or
      (outputFault? (record fields unknown order).toJson)

def faultOfItems? : List Document → Option EncodeFault
  | [] => none
  | d :: rest => d.fault?.or (faultOfItems? rest)

def faultOfEntries? : List (Text × Document) → Option EncodeFault
  | [] => none
  | (_, d) :: rest => d.fault?.or (faultOfEntries? rest)

/-- The first fault where the keys of maps count too; a record within is still a record. -/
def anyFault? : Document → Option EncodeFault
  | leaf value => value.encodeFault? Machine.encodable
  | list items => anyFaultOfItems? items
  | map entries => anyFaultOfEntries? entries
  | choice value => value.anyFault?
  | record fields unknown order =>
    (((faultOfEntries? fields).map .within).or (faultOfUnknown? unknown)).or
      (outputFault? (record fields unknown order).toJson)

def anyFaultOfItems? : List Document → Option EncodeFault
  | [] => none
  | d :: rest => d.anyFault?.or (anyFaultOfItems? rest)

def anyFaultOfEntries? : List (Text × Document) → Option EncodeFault
  | [] => none
  | (k, d) :: rest =>
    ((Json.bytesFault? k).map .key).or (d.anyFault?.or (anyFaultOfEntries? rest))

end

/-- The JSON value of a document that can be written. -/
def encode (d : Document) : Except EncodeFault Json :=
  match d.fault? with
  | none => .ok d.toJson
  | some fault => .error fault

/-! ## Equality -/

/-- Equal unknown keys, whatever their order. -/
def sameUnknown (us vs : List Unknown) : Bool :=
  us.length = vs.length &&
    us.all fun u => vs.any fun v => u.key = v.key && u.value.sameValue v.value

mutual

/-- Equality of all values and, in records, of the order in which the keys were read. -/
def sameDocument : Document → Document → Bool
  | leaf a, leaf b => a.sameValue b
  | list a, list b => sameList a b
  | map a, map b => a.length = b.length && sameEntries a b
  | choice a, choice b => a.sameDocument b
  | record f u o, record g v p =>
    f.length = g.length && sameEntries f g && sameUnknown u v && o = p
  | _, _ => false

def sameList : List Document → List Document → Bool
  | [], [] => true
  | a :: as, b :: bs => a.sameDocument b && sameList as bs
  | _, _ => false

def sameEntries : List (Text × Document) → List (Text × Document) → Bool
  | [], _ => true
  | (k, d) :: rest, others =>
    (match others.lookup k with
      | some e => d.sameDocument e
      | none => false) && sameEntries rest others

end

end Document

namespace Record

def field? (r : Record) (key : Text) : Option Document :=
  r.fields.lookup key

def encode (r : Record) : Except EncodeFault Json :=
  r.toDocument.encode

def sameRecord (r s : Record) : Bool :=
  r.toDocument.sameDocument s.toDocument

def unknownKeys (r : Record) : List Text :=
  r.unknown.map Unknown.key

end Record

end ManifestEdit
