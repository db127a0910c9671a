import ManifestEdit.Document.Error
import ManifestEdit.Manifest.Schema
import ManifestEdit.Manifest.Variants

/-!
# The configuration of a manifest
-/

namespace ManifestEdit

structure Config where
  record : Record

namespace Config

def decode (data : Json) (root : String) : Except DocumentError Config :=
  (Schema.config.decode data root).map Config.mk

def toDocument (c : Config) : Document :=
  c.record.toDocument

def encode (c : Config) : Except EncodeFault Json :=
  c.record.encode

/-- The keys written with their values. -/
def entries (c : Config) : Except EncodeFault (List (Text × Json)) :=
  match c.encode with
  | .error fault => .error fault
  | .ok (.obj fields) => .ok fields
  | .ok _ => .ok []

def allowPlugins? (c : Config) : Option AllowPlugins :=
  (c.record.field? "allow-plugins").bind AllowPlugins.ofDocument?

def preferredInstall? (c : Config) : Option PreferredInstall :=
  (c.record.field? "preferred-install").bind PreferredInstall.ofDocument?

def ofDocument? : Document → Option Config
  | .record fields unknown order => some ⟨⟨fields, unknown, order⟩⟩
  | _ => none

end Config

end ManifestEdit
