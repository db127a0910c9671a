import ManifestEdit.World

/-!
# Reading and writing text files
-/

namespace ManifestEdit

namespace Action

/-- The text of a file's bytes, its line breaks as line feeds. -/
def decodeText (bytes : List UInt8) : Action Text :=
  match Utf8.decode bytes with
  | .ok cs => pure (.ofChars (lineFeeds cs))
  | .error f => fail (.encoding f)

/-- Only a text that can name a file is looked for or made. -/
def checkName (t : Text) : Action Unit :=
  match FilePath.nameFault? t with
  | some f => fail (.name f)
  | none => pure ()

/-- The text of a document's file, which must be there and be a file. -/
def readText (path : Text) : Action Text := do
  let p := FilePath.ofText path
  match FilePath.nameFault? p.text, (← get).store.find p with
  | some _, _ => fail (.notFound p)
  | none, .error .nameTooLong => fail (.file ⟨.nameTooLong, p⟩)
  | none, .error .denied => fail (.file ⟨.denied, p⟩)
  | none, .error _ => fail (.notFound p)
  | none, .ok (.folder _) => fail (.notAFile p)
  | none, .ok (.file bytes access) =>
    if access.read then decodeText bytes else fail (.file ⟨.denied, p⟩)

/-- Makes the folder that a file is to be written to. -/
def makeParent (p : FilePath) : Action Unit := do
  checkName p.parent.text
  let w ← get
  let (store, made) := Store.makeFolders p.slashes w.store p.parent.parts.reverse
  set { w with store := store }
  match made with
  | some e => fail (.file e)
  | none => pure ()

/-- The bytes of the file at a path, also of a new one. -/
def writeBytes (p : FilePath) (bytes : List UInt8) : Action Unit := do
  let w ← get
  match w.store.write p bytes with
  | .ok t => set { w with store := t }
  | .error e => fail (.file e)

/-- Writes a text file, after the folders above it. A text that has no bytes leaves the file
empty. -/
def writeText (p : FilePath) (text : Text) : Action Unit := do
  makeParent p
  checkName p.text
  match Utf8.encodeText text with
  | .ok bytes => writeBytes p bytes
  | .error u => do
    writeBytes p []
    fail (.unencodable u)

end Action

end ManifestEdit
