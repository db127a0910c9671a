import ManifestEdit.Proofs.Directive.Parts
import ManifestEdit.Proofs.Document.Rendering

/-!
# Reading and writing documents

A manifest writes the value from which it was read, but for fields that are null and keys in their
second spelling, and a text that is rendered from a loaded document is loaded as that document.
-/

namespace ManifestEdit

open Shape

namespace Manifest

theorem decode_eq_ok_iff {data : Json} {root : String} {m : Manifest} :
    decode data root = .ok m ↔
      ∃ r, Schema.manifest.shape.read data = .ok r.toDocument ∧ ofRecord r = m :=
  Schema.map_decode_eq_ok_iff

/-- Nothing of a manifest that is not nested too deep is lost or moved: it writes the value from
which it was read, but for fields that are null, keys in their second spelling and zeros that stand
for `false`. -/
theorem encode_decode {data : Json} {root : String} {m : Manifest}
    (h : decode data root = .ok m) (hdistinct : data.isDistinct = true)
    (hfinite : data.isFinite = true) (hwhole : data.hasWholeKeys = true)
    (honce : Schema.manifest.shape.namesOnce data = true)
    (hdepth : data.depth ≤ Machine.encodable + 1) :
    m.toRecord.encode = .ok (Schema.manifest.shape.canonical data) := by
  obtain ⟨r, hr, rfl⟩ := decode_eq_ok_iff.1 h
  have hclean : Clean Schema.manifest.shape data := ⟨⟨hdistinct, hwhole⟩, honce⟩
  rw [toRecord_ofRecord hclean.toPlain hr,
    Schema.encode_of_read Schema.isRegular_manifest hclean hdepth hr,
    Json.finiteOnly_of_isFinite hfinite]

/-- A manifest with a null field, a second spelling, an unknown null key and a zero. -/
def spelledData : Json :=
  .obj [("name", .str "a/b"), ("readme", .null), ("note", .null),
    ("require_dev", .obj [("x/y", .str "1")]),
    ("config", .obj [("vendor_dir", .str "v"), ("platform", .obj [("php", .num (.int 0))])])]

/-- What is written of it. -/
def settledData : Json :=
  .obj [("name", .str "a/b"), ("note", .null), ("require-dev", .obj [("x/y", .str "1")]),
    ("config", .obj [("vendor-dir", .str "v"), ("platform", .obj [("php", .bool false)])])]

theorem encode_decode_spelled :
    ∃ m, decode spelledData "" = .ok m ∧ m.toRecord.encode = .ok settledData := by
  have hreads : (decode spelledData "").toOption.any (fun _ => true) = true := by decide +kernel
  have hsettled : Schema.manifest.shape.canonical spelledData = settledData := by rfl
  obtain ⟨m, hm, -⟩ := exists_ok_of_any hreads
  rw [← hsettled]
  exact ⟨m, hm, encode_decode hm (by decide +kernel) (by decide +kernel) (by decide +kernel)
    (by decide +kernel) (by decide +kernel)⟩

/-- A key that holds half of a pair. -/
def halfKeyData : Json :=
  .obj [("name", .str "a/b"), ("require", .obj [(Record.halfKey, .str "1")])]

/-- An unknown key with a value of so many levels. -/
def deepData (levels : Nat) : Json :=
  .obj [("name", .str "a/b"), ("x", Record.deepValue levels)]

/-- A key that holds half of a pair is written repaired, and what is nested too deep is not
written. -/
theorem encode_decode_limits :
    (∃ m, decode halfKeyData "" = .ok m ∧ halfKeyData.isDistinct = true ∧
      halfKeyData.isFinite = true ∧ Schema.manifest.shape.namesOnce halfKeyData = true ∧
        m.toRecord.encode ≠ .ok (Schema.manifest.shape.canonical halfKeyData)) ∧
    ∃ m, decode (deepData 255) "" = .ok m ∧ (deepData 255).hasWholeKeys = true ∧
      m.toRecord.encode = .error .depth := by
  constructor
  · have hcheck : (decode halfKeyData "").toOption.any (fun m =>
        decide ((m.toRecord.encode.map Json.text).toOption ≠
          some (Schema.manifest.shape.canonical halfKeyData).text)) = true := by decide +kernel
    obtain ⟨m, hm, htexts⟩ := exists_ok_of_any hcheck
    refine ⟨m, hm, by decide +kernel, by decide +kernel, by decide +kernel, ?_⟩
    intro heq
    rw [heq] at htexts
    exact of_decide_eq_true htexts rfl
  · have hcheck : (decode (deepData 255) "").toOption.any (fun m =>
        decide (m.toRecord.toDocument.fault? = some .depth)) = true := by decide +kernel
    obtain ⟨m, hm, hfault⟩ := exists_ok_of_any hcheck
    refine ⟨m, hm, by decide +kernel, ?_⟩
    rw [Record.encode, Document.encode, of_decide_eq_true hfault]

end Manifest

namespace Directive

theorem decode_eq_ok_iff {data : Json} {root : String} {d : Directive} :
    decode data root = .ok d ↔
      ∃ r, Schema.directive.shape.read data = .ok r.toDocument ∧ ofRecord r = d :=
  Schema.map_decode_eq_ok_iff

end Directive

/-! ## Texts -/

namespace DocumentKind

def schema : DocumentKind → Schema
  | manifest => Schema.manifest
  | directive => Schema.directive

end DocumentKind

/-- A document of either kind. -/
inductive LoadedDocument where
  | manifest (m : Manifest)
  | directive (d : Directive)

namespace LoadedDocument

def ofRecord : DocumentKind → Record → LoadedDocument
  | .manifest, r => manifest (Manifest.ofRecord r)
  | .directive, r => directive (Directive.ofRecord r)

def toRecord : LoadedDocument → Record
  | manifest m => m.toRecord
  | directive d => d.toRecord

section Load

variable [Machine]

def load (kind : DocumentKind) (text : Text) (source : Option Text) :
    Except LoadError LoadedDocument :=
  match kind with
  | .manifest => (Manifest.load text source).map manifest
  | .directive => (Directive.load text source).map directive

def render (d : LoadedDocument) (indent : Int) : Except RenderFault Text :=
  d.toRecord.render indent

omit [Machine] in
theorem map_eq_ok_iff {ε α β : Type} {f : α → β} {x : Except ε α} {b : β} :
    x.map f = .ok b ↔ ∃ a, x = .ok a ∧ f a = b := by
  cases x with
  | ok a => simp [Except.map]
  | error e => simp [Except.map]

theorem load_eq_ok_iff {kind : DocumentKind} {text : Text} {source : Option Text}
    {d : LoadedDocument} :
    load kind text source = .ok d ↔
      ∃ fields r, Json.parse text = .ok (.obj fields) ∧
        kind.schema.shape.read (.obj fields) = .ok r.toDocument ∧ ofRecord kind r = d := by
  cases kind with
  | manifest =>
    rw [load, map_eq_ok_iff]
    constructor
    · rintro ⟨m, hm, rfl⟩
      obtain ⟨fields, hparse, hdecode⟩ := loadText_eq_ok_iff.1 hm
      obtain ⟨r, hr, rfl⟩ := Manifest.decode_eq_ok_iff.1 hdecode
      exact ⟨fields, r, hparse, hr, rfl⟩
    · rintro ⟨fields, r, hparse, hr, rfl⟩
      exact ⟨_, loadText_eq_ok_iff.2 ⟨fields, hparse, Manifest.decode_eq_ok_iff.2 ⟨r, hr, rfl⟩⟩,
        rfl⟩
  | directive =>
    rw [load, map_eq_ok_iff]
    constructor
    · rintro ⟨m, hm, rfl⟩
      obtain ⟨fields, hparse, hdecode⟩ := loadText_eq_ok_iff.1 hm
      obtain ⟨r, hr, rfl⟩ := Directive.decode_eq_ok_iff.1 hdecode
      exact ⟨fields, r, hparse, hr, rfl⟩
    · rintro ⟨fields, r, hparse, hr, rfl⟩
      exact ⟨_, loadText_eq_ok_iff.2 ⟨fields, hparse, Directive.decode_eq_ok_iff.2 ⟨r, hr, rfl⟩⟩,
        rfl⟩

end Load

theorem isRegular_schema (kind : DocumentKind) : kind.schema.shape.isRegular = true := by
  cases kind with
  | manifest => exact Schema.isRegular_manifest
  | directive => exact Schema.isRegular_directive

theorem toRecord_ofRecord {kind : DocumentKind} {data : Json} {r : Record}
    (hplain : data.Plain)
    (h : kind.schema.shape.read data = .ok r.toDocument) : (ofRecord kind r).toRecord = r := by
  cases kind with
  | manifest => exact Manifest.toRecord_ofRecord hplain h
  | directive => exact Directive.toRecord_ofRecord hplain.distinct h

/-- A document that was loaded from finite numbers, keys with bytes and not too many levels is
rendered with every indentation for which there is room, and its text is loaded as that same
document. -/
theorem load_render [Machine] {kind : DocumentKind} {text : Text} {source : Option Text}
    {d : LoadedDocument} (h : load kind text source = .ok d) {data : Json}
    (hdata : Json.parse text = .ok data) (hfinite : data.isFinite = true)
    (hwhole : data.hasWholeKeys = true) (honce : kind.schema.shape.namesOnce data = true)
    (hdepth : data.depth ≤ Machine.encodable + 1) {indent : Int} {width : Nat}
    (hwidth : Indent.width indent = .ok width) (again : Option Text) :
    ∃ rendered, d.render indent = .ok rendered ∧ load kind rendered again = .ok d := by
  obtain ⟨fields, r, hparse, hr, rfl⟩ := load_eq_ok_iff.1 h
  rw [hparse] at hdata
  cases hdata
  have hclean : Clean kind.schema.shape (.obj fields) :=
    ⟨⟨Json.isDistinct_of_parse hparse, hwhole⟩, honce⟩
  obtain ⟨rendered, members, hrender, hparsed, -, hread⟩ :=
    Schema.render_of_read (isRegular_schema kind) hclean hfinite hdepth
      (Json.fits_of_parse hparse) hr hwidth
  refine ⟨rendered, ?_, load_eq_ok_iff.2 ⟨members, r, hparsed, hread, rfl⟩⟩
  rw [render, toRecord_ofRecord hclean.toPlain hr, hrender]

/-- The dependency map of a manifest. -/
def require? : LoadedDocument → Option Links
  | manifest m => m.require
  | directive _ => none

def sampleText : Text :=
  "\x7b\"require\":\x7b\"x/y\":\"1\"\x7d,\"name\":\"a/b\",\"n\":[1.5,-0.0,1e300,null]\x7d"

theorem load_render_sample :
    ∃ d rendered, load .manifest sampleText none = .ok d ∧ d.render 4 = .ok rendered ∧
      load .manifest rendered none = .ok d := by
  have hloads : (load .manifest sampleText none).toOption.any (fun _ => true) = true := by
    decide +kernel
  have hparses : (Json.parse sampleText).toOption.any (fun data =>
      data.isFinite && data.hasWholeKeys && Schema.manifest.shape.namesOnce data &&
        decide (data.depth ≤ Machine.encodable + 1)) = true := by decide +kernel
  obtain ⟨d, hd, -⟩ := exists_ok_of_any hloads
  obtain ⟨data, hdata, hplain⟩ := exists_ok_of_any hparses
  rw [Bool.and_eq_true, Bool.and_eq_true, Bool.and_eq_true, decide_eq_true_iff] at hplain
  obtain ⟨⟨⟨hfinite, hwhole⟩, honce⟩, hdepth⟩ := hplain
  have hwidth : Indent.width 4 = .ok 4 := by decide
  obtain ⟨rendered, hrender, hload⟩ :=
    load_render hd hdata hfinite hwhole honce hdepth hwidth none
  exact ⟨d, rendered, hd, hrender, hload⟩

def halfKeyText : Text :=
  "\x7b\"name\":\"a/b\",\"require\":\x7b\"\\ud800\":\"1\"\x7d\x7d"

/-- An unknown key with so many levels of arrays. -/
def deepText (levels : Nat) : Text :=
  "\x7b\"name\":\"a/b\",\"x\":" ++ .ofChars (List.replicate levels '[') ++
    .ofChars (List.replicate levels ']') ++ "\x7d"

/-- A key that holds half of a pair is loaded as another key, what is nested too deep is not
rendered, and an indentation that is no word of 64 bits cannot be laid out. -/
theorem load_render_limits :
    (∃ data d rendered other, Json.parse halfKeyText = .ok data ∧ data.isFinite = true ∧
      Schema.manifest.shape.namesOnce data = true ∧ load .manifest halfKeyText none = .ok d ∧
        d.render 0 = .ok rendered ∧ load .manifest rendered none = .ok other ∧ other ≠ d) ∧
    (∃ d, load .manifest (deepText 256) none = .ok d ∧ d.render 4 = .error (.encode .depth)) ∧
    ∃ d, load .directive "\x7b\x7d" none = .ok d ∧
      d.render 0x8000000000000000 = .error (.indent .notAWord) := by
  refine ⟨?_, ?_, ?_⟩
  · have hparses : (Json.parse halfKeyText).toOption.any (fun data =>
        data.isFinite && Schema.manifest.shape.namesOnce data) = true := by decide +kernel
    have hloads : (load .manifest halfKeyText none).toOption.any (fun d =>
        (d.render 0).toOption.any fun rendered =>
          (load .manifest rendered none).toOption.any fun other =>
            decide (other.require? ≠ d.require?)) = true := by decide +kernel
    obtain ⟨data, hdata, hplain⟩ := exists_ok_of_any hparses
    rw [Bool.and_eq_true] at hplain
    obtain ⟨d, hd, hrenders⟩ := exists_ok_of_any hloads
    obtain ⟨rendered, hrender, hreloads⟩ := exists_ok_of_any hrenders
    obtain ⟨other, hother, hdiffers⟩ := exists_ok_of_any hreloads
    exact ⟨data, d, rendered, other, hdata, hplain.1, hplain.2, hd, hrender, hother,
      fun heq => of_decide_eq_true hdiffers (by rw [heq])⟩
  · have hcheck : (load .manifest (deepText 256) none).toOption.any (fun d =>
        decide (d.render 4 = .error (.encode .depth))) = true := by
      decide +kernel
    obtain ⟨d, hd, hfault⟩ := exists_ok_of_any hcheck
    exact ⟨d, hd, of_decide_eq_true hfault⟩
  · have hcheck : (load .directive "\x7b\x7d" none).toOption.any (fun d =>
        decide (d.render 0x8000000000000000 = .error (.indent .notAWord))) = true := by
      decide +kernel
    obtain ⟨d, hd, hfault⟩ := exists_ok_of_any hcheck
    exact ⟨d, hd, of_decide_eq_true hfault⟩

end LoadedDocument

end ManifestEdit
