import ManifestEdit.Document.Rendering
import ManifestEdit.Proofs.Document.Parts
import ManifestEdit.Proofs.Json.Parsed
import ManifestEdit.Proofs.Json.RoundTrip
import ManifestEdit.Proofs.Shape.Bounded
import ManifestEdit.Run

/-!
# Rendered documents

A document that was read is rendered as its canonical value, and its text is parsed as that value.
-/

namespace ManifestEdit

open Shape

section Loading

variable [Machine]

theorem loadText_eq_ok_iff {α : Type} {decode : Json → String → Except DocumentError α}
    {text : Text} {source : Option Text} {a : α} :
    loadText decode text source = .ok a ↔
      ∃ fields, Json.parse text = .ok (.obj fields) ∧ decode (.obj fields) "" = .ok a := by
  unfold loadText parseObject
  constructor
  · intro h
    split at h
    · cases h
    · rename_i data hdata
      split at hdata
      · cases hdata
      · cases hdata
      · rename_i fields hparse
        cases hdata
        split at h
        · rename_i b hb
          cases h
          exact ⟨fields, hparse, hb⟩
        · cases h
      · cases hdata
  · rintro ⟨fields, hparse, hdecode⟩
    rw [hparse]
    dsimp only
    rw [hdecode]

/-- A document that was loaded was read from the value of its text. -/
theorem Schema.read_of_loadText {s : Schema} {α : Type} {ofRecord : Record → α} {text : Text}
    {source : Option Text} {a : α} {data : Json}
    (h : loadText (fun data root => (s.decode data root).map ofRecord) text source = .ok a)
    (hparse : Json.parse text = .ok data) :
    ∃ r, s.shape.read data = .ok (Record.toDocument r) ∧ ofRecord r = a := by
  obtain ⟨fields, hfields, hdecode⟩ := loadText_eq_ok_iff.1 h
  rw [hparse] at hfields
  cases hfields
  exact map_decode_eq_ok_iff.1 hdecode

end Loading

namespace Record

theorem encode_eq_ok_iff {r : Record} {j : Json} :
    r.encode = .ok j ↔ r.toDocument.fault? = none ∧ r.toDocument.toJson = j := by
  rw [encode, Document.encode]
  cases r.toDocument.fault? <;> simp

theorem encode_eq_ok {r : Record} (h : r.toDocument.fault? = none) :
    r.encode = .ok r.toDocument.toJson :=
  encode_eq_ok_iff.2 ⟨h, rfl⟩

section Render

variable [Machine] {indent : Int} {width : Nat}

/-- What a record writes that can be written is rendered where its integers fit. -/
theorem render_eq_ok {r : Record} (h : r.toDocument.fault? = none)
    (hfits : r.toDocument.toJson.fits = true) (hwidth : Indent.width indent = .ok width) :
    r.render indent = .ok (r.toDocument.toJson.lines width) := by
  have hdepth : r.toDocument.toJson.depth ≤ Machine.encodable + 1 :=
    (Document.isShallow_record.1 (Document.fault?_eq_none_iff.1 h).2).2.2
  rw [render, encode_eq_ok h]
  dsimp only
  rw [hwidth]
  dsimp only
  rw [Json.render_eq_ok (Nat.le_trans hdepth Machine.encodable_lt_writable) hfits]

/-- What is rendered can be written, fits, and has an indentation for which there is room. -/
theorem of_render {r : Record} {text : Text} (h : r.render indent = .ok text) :
    ∃ width, Indent.width indent = .ok width ∧ r.toDocument.fault? = none ∧
      r.toDocument.toJson.fits = true ∧ r.toDocument.toJson.lines width = text := by
  unfold render at h
  split at h
  · cases h
  · rename_i j hencode
    obtain ⟨hfault, rfl⟩ := encode_eq_ok_iff.1 hencode
    split at h
    · cases h
    · rename_i width hwidth
      split at h
      · cases h
      · rename_i written hwritten
        cases h
        obtain ⟨⟨-, hfits⟩, hlines⟩ := Json.render_eq_ok_iff.1 hwritten
        exact ⟨width, hwidth, hfault, hfits, hlines⟩

end Render

/-- The text of an object is parsed as that object, whatever it holds, where its integers and its
levels are within the bounds of the machine; and it is the text of every record that writes the
object. -/
theorem parseObject_render [Machine] {fields : List (Text × Json)}
    (hdistinct : (Json.obj fields).isDistinct = true) (hfits : (Json.obj fields).fits = true)
    (hdepth : (Json.obj fields).depth ≤ Machine.writable)
    (hnesting : (Json.obj fields).nesting ≤ Machine.readable) {indent : Int} {width : Nat}
    (hwidth : Indent.width indent = .ok width) (source : Option Text) :
    ∃ text, (Json.obj fields).render width = .ok text ∧
      parseObject text source = .ok (.obj fields) ∧
        ∀ r : Record, r.encode = .ok (.obj fields) → r.render indent = .ok text := by
  have hrender := Json.render_eq_ok hdepth hfits width
  refine ⟨_, hrender, ?_, ?_⟩
  · rw [parseObject, Json.parse_lines width ⟨hdistinct, hfits, hnesting⟩]
  · intro r hencode
    rw [render, hencode]
    dsimp only
    rw [hwidth]
    dsimp only
    rw [hrender]

theorem parseObject_render_nested :
    let nested : Json := .obj [("b", .arr []), ("a", .arr [.num (.int (-7)), .str "é\"\n", .null])]
    let record : Record := ⟨[], [⟨"z", nested, false⟩, ⟨"y", .obj [], false⟩], []⟩
    ∃ text, record.render 2 = .ok text ∧
      parseObject text none = .ok (.obj [("z", nested), ("y", .obj [])]) := by
  intro nested record
  have hdistinct : (Json.obj [("z", nested), ("y", .obj [])]).isDistinct = true := by
    decide +kernel
  have hfits : (Json.obj [("z", nested), ("y", .obj [])]).fits = true := by decide +kernel
  have hwidth : Indent.width 2 = .ok 2 := by decide
  obtain ⟨text, -, hparse, hrender⟩ :=
    parseObject_render hdistinct hfits (by decide +kernel) (by decide +kernel) hwidth none
  exact ⟨text, hrender record rfl, hparse⟩

/-- A key of half of a pair. -/
def halfKey : Text :=
  ⟨[.half ⟨0, Nat.zero_lt_succ 2047⟩]⟩

/-- The value that a key leads to, and so on. -/
def deepValue : Nat → Json
  | 0 => .null
  | n + 1 => .obj [("a", deepValue n)]

/-- An indentation that is no word of 64 bits leaves even an empty object without a text, and so do
an integer of too many digits and too many levels. -/
theorem exists_unrendered :
    (∃ r : Record, r.encode = .ok (.obj []) ∧
      r.render 0x8000000000000000 = .error (.indent .notAWord)) ∧
    (Json.obj [("a", .num (.int (tenTo 4300)))]).render 0 = .error .digitsWritten ∧
    (deepValue 1000).render 0 = .error .nestingWritten := by
  refine ⟨⟨⟨[], [], []⟩, rfl, by decide +kernel⟩, by decide +kernel, by decide +kernel⟩

end Record

namespace Schema

variable {s : Schema} {data : Json} {r : Record}

theorem encode_of_read (hregular : s.shape.isRegular = true) (hclean : Clean s.shape data)
    (hdepth : data.depth ≤ Machine.encodable + 1) (h : s.shape.read data = .ok r.toDocument) :
    r.encode = .ok (s.shape.canonical data.finiteOnly) := by
  rw [Record.encode_eq_ok (fault?_of_read h hclean.whole hdepth),
    (readsBack s.shape hregular data r.toDocument hclean h).writes]

/-- A record that was read from finite numbers is rendered, and its text read as that record. -/
theorem render_of_read [Machine] (hregular : s.shape.isRegular = true)
    (hclean : Clean s.shape data) (hfinite : data.isFinite = true)
    (hdepth : data.depth ≤ Machine.encodable + 1) (hfits : data.fits = true)
    (h : s.shape.read data = .ok r.toDocument) {indent : Int} {width : Nat}
    (hwidth : Indent.width indent = .ok width) :
    ∃ rendered fields, r.render indent = .ok rendered ∧
      Json.parse rendered = .ok (.obj fields) ∧ Clean s.shape (.obj fields) ∧
        s.shape.read (.obj fields) = .ok r.toDocument := by
  have hback := readsBack s.shape hregular data r.toDocument hclean h
  obtain ⟨d, hd, heq⟩ := hback.settled
  rw [heq hfinite] at hd
  obtain ⟨fields, hfields⟩ := read_record hd.reads
  have hwritten : r.toDocument.toJson = .obj fields := hback.writes.trans hfields
  have hwrittenFits : (Json.obj fields).fits = true := hwritten ▸ fits_toJson h hfits
  have hwrittenDepth : (Json.obj fields).depth ≤ Machine.encodable + 1 :=
    hwritten ▸ Nat.le_trans (depth_toJson_le h) hdepth
  have hreadable : Json.Readable Machine.readable (.obj fields) :=
    ⟨hfields ▸ hd.distinct, hwrittenFits, Nat.le_trans (Json.nesting_le_depth _)
      (Nat.le_trans hwrittenDepth Machine.encodable_lt_readable)⟩
  refine ⟨(Json.obj fields).lines width, fields, ?_, Json.parse_lines width hreadable,
    hfields ▸ hd.clean, hfields ▸ hd.reads⟩
  rw [← hwritten]
  exact Record.render_eq_ok (fault?_of_read h hclean.whole hdepth) (hwritten ▸ hwrittenFits) hwidth

end Schema

end ManifestEdit
