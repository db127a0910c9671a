import ManifestEdit.Files.Path

/-!
# Stored files

A store holds files and folders by their location, with what the program may do to each. A path is
followed part by part from the working folder, or from the root when it is absolute; every part
before the last must be a folder that may be searched. The working folder, the folders above it and
the root are always there.
-/

namespace ManifestEdit

/-- What the program may do to a file or a folder. -/
structure Access where
  read : Bool
  write : Bool
  /-- Whether what is in the folder may be reached. -/
  search : Bool
  deriving DecidableEq

/-- The access to what the program makes itself. -/
def Access.full : Access := ⟨true, true, true⟩

inductive Node where
  | file (bytes : List UInt8) (access : Access)
  | folder (access : Access)
  deriving DecidableEq

/-- Why a path could not be opened or made. -/
inductive PathFault where
  | notFound
  | denied
  | occupied
  | notAFolder
  | isAFolder
  | nameTooLong
  deriving DecidableEq

namespace PathFault

def number : PathFault → Nat
  | notFound => 2
  | denied => 13
  | occupied => 17
  | notAFolder => 20
  | isAFolder => 21
  | nameTooLong => 36

def text : PathFault → String
  | notFound => "No such file or directory"
  | denied => "Permission denied"
  | occupied => "File exists"
  | notAFolder => "Not a directory"
  | isAFolder => "Is a directory"
  | nameTooLong => "File name too long"

end PathFault

structure FileError where
  fault : PathFault
  path : FilePath
  deriving DecidableEq

def FileError.message [Glyphs] (e : FileError) : String :=
  "[Errno " ++ toString e.fault.number ++ "] " ++ e.fault.text ++ ": " ++
    quotedText e.path.text

/-- Where a path leads: the parts from the working folder or the root, those that lead upwards
first. -/
structure Location where
  absolute : Bool
  parts : List Text
  deriving DecidableEq

namespace Location

/-- The part that leads to the folder above. -/
def upwards : Text := ".."

def isUpwards (l : Location) : Bool :=
  l.parts.all fun p => p = upwards

/-- The location above, of one that does not lead upwards. -/
def above (l : Location) : Location :=
  { l with parts := l.parts.dropLast }

def child (l : Location) (part : Text) : Location :=
  if part = upwards then
    if l.isUpwards then
      if l.absolute then l else { l with parts := l.parts ++ [upwards] }
    else l.above
  else { l with parts := l.parts ++ [part] }

end Location

structure Store where
  nodes : List (Location × Node)

namespace Store

def empty : Store := ⟨[]⟩

/-- The access to a folder that is always there. -/
def upwardsAccess (s : Store) (l : Location) : Access :=
  match s.nodes.lookup l with
  | some (.folder access) => access
  | _ => .full

def node? (s : Store) (l : Location) : Option Node :=
  if l.isUpwards then some (.folder (s.upwardsAccess l)) else s.nodes.lookup l

def putNode (l : Location) (n : Node) : List (Location × Node) → List (Location × Node)
  | [] => [(l, n)]
  | (k, m) :: rest => if k = l then (k, n) :: rest else (k, m) :: putNode l n rest

def put (s : Store) (l : Location) (n : Node) : Store :=
  ⟨putNode l n s.nodes⟩

/-- The most bytes that a part of a path may have. -/
def longestPart : Nat := 255

/-- The most bytes that a path may have. -/
def longestPath : Nat := 4095

/-- Follows parts from a location. -/
def walk (s : Store) (l : Location) : List Text → Except PathFault Location
  | [] => .ok l
  | part :: rest =>
    match s.node? l with
    | some (.folder access) =>
      if !access.search then .error .denied
      else if longestPart < FilePath.nameSize part then .error .nameTooLong
      else walk s (l.child part) rest
    | some (.file _ _) => .error .notAFolder
    | none => .error .notFound

def locate (s : Store) (p : FilePath) : Except PathFault Location :=
  if longestPath < FilePath.nameSize p.text then .error .nameTooLong
  else s.walk ⟨p.isAbsolute, []⟩ p.parts

/-- What stands at a path. -/
def find (s : Store) (p : FilePath) : Except PathFault Node :=
  match s.locate p with
  | .error f => .error f
  | .ok l =>
    match s.node? l with
    | some n => .ok n
    | none => .error .notFound

def isFolder (s : Store) (p : FilePath) : Bool :=
  match s.find p with
  | .ok (.folder _) => true
  | _ => false

/-- The bytes of the file at a path. -/
def read (s : Store) (p : FilePath) : Except FileError (List UInt8) :=
  match s.find p with
  | .ok (.file bytes access) => if access.read then .ok bytes else .error ⟨.denied, p⟩
  | .ok (.folder access) => .error ⟨if access.read then .isAFolder else .denied, p⟩
  | .error f => .error ⟨f, p⟩

/-- Whether something may be made at a location where nothing is, in a folder that is there. -/
def isOpen (s : Store) (l : Location) : Bool :=
  match s.node? l.above with
  | some (.folder access) => access.write
  | _ => false

/-- Writes the file at a path, whose folder must be there. -/
def write (s : Store) (p : FilePath) (bytes : List UInt8) : Except FileError Store :=
  match s.locate p with
  | .error f => .error ⟨f, p⟩
  | .ok l =>
    match s.node? l with
    | some (.folder _) => .error ⟨.isAFolder, p⟩
    | some (.file _ access) =>
      if access.write then .ok (s.put l (.file bytes access)) else .error ⟨.denied, p⟩
    | none => if s.isOpen l then .ok (s.put l (.file bytes .full)) else .error ⟨.denied, p⟩

/-- Makes one folder, in a folder that must be there. -/
def makeFolder (s : Store) (p : FilePath) : Except PathFault Store :=
  match s.locate p with
  | .error f => .error f
  | .ok l =>
    match s.node? l with
    | some _ => .error .occupied
    | none => if s.isOpen l then .ok (s.put l (.folder .full)) else .error .denied

/-- A folder that is there already needs no making. -/
def ensureFolder (s : Store) (p : FilePath) : Except FileError Store :=
  match s.makeFolder p with
  | .ok t => .ok t
  | .error f => if s.isFolder p then .ok s else .error ⟨f, p⟩

/-- Makes a folder and the folders above it, given by its parts from the last to the first. The
store is what was made of it, also where a folder cannot be made. -/
def makeFolders (slashes : Nat) (s : Store) : List Text → Store × Option FileError
  | [] => (s, none)
  | part :: above =>
    let p : FilePath := ⟨slashes, (part :: above).reverse⟩
    match s.makeFolder p with
    | .ok t => (t, none)
    | .error .notFound =>
      match makeFolders slashes s above with
      | (t, some e) => (t, some e)
      | (t, none) =>
        match t.ensureFolder p with
        | .ok u => (u, none)
        | .error e => (t, some e)
    | .error f => if s.isFolder p then (s, none) else (s, some ⟨f, p⟩)

end Store

end ManifestEdit
