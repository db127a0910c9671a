import ManifestEdit.Proofs.Manifest.Parts
import ManifestEdit.Proofs.Document.Rendering
import ManifestEdit.Proofs.Shape.Respelled

/-!
# Manifests with fields under both of their names

A manifest that was loaded from finite numbers and keys with bytes is rendered, and its text is
loaded with the same content exactly when no object in it holds a field under both of its names and
null under one of them.
-/

namespace ManifestEdit

open Shape

namespace Schema

variable {s : Schema} {data : Json} {r : Record}

/-- A record that was read from a plain value writes a plain value. -/
theorem plain_toJson (hregular : s.shape.isRegular = true) (hplain : data.Plain)
    (h : s.shape.read data = .ok r.toDocument) : r.toDocument.toJson.Plain := by
  have hwritable := hasWholeKeys_of_read h hplain.whole
  exact ⟨isDistinct_toJson hregular h hplain.distinct,
    hasWholeKeys_toJson hregular h hwritable⟩

end Schema

namespace Manifest

section Rendered

variable [Machine] {data : Json} {r : Record}

/-- What is loaded from the text that a record is rendered as. -/
theorem load_lines_iff {width : Nat}
    (hreadable : Json.Readable Machine.readable r.toDocument.toJson) {source : Option Text}
    {n : Manifest} :
    load (r.toDocument.toJson.lines width) source = .ok n ↔
      ∃ r', Schema.manifest.shape.read r.toDocument.toJson = .ok (Record.toDocument r') ∧
        ofRecord r' = n := by
  obtain ⟨fields, hfields⟩ : ∃ fields, r.toDocument.toJson = .obj fields := ⟨_, rfl⟩
  rw [load, loadText_eq_ok_iff, Json.parse_lines width hreadable, hfields]
  constructor
  · rintro ⟨_, heq, hdecode⟩
    cases heq
    exact Schema.map_decode_eq_ok_iff.1 hdecode
  · intro h
    exact ⟨fields, rfl, Schema.map_decode_eq_ok_iff.2 h⟩

/-- A record is restored when it is loaded again with the same content. -/
theorem restored_iff_load {width : Nat} (hplain : r.toDocument.toJson.Plain)
    (hreadable : Json.Readable Machine.readable r.toDocument.toJson) (source : Option Text) :
    Schema.manifest.shape.Restored r.toDocument ↔
      ∃ n, load (r.toDocument.toJson.lines width) source = .ok n ∧
        r.toDocument.SameContent n.toRecord.toDocument := by
  constructor
  · rintro ⟨d, hread, hsame⟩
    obtain ⟨r', rfl⟩ := Schema.exists_record hread
    refine ⟨ofRecord r', (load_lines_iff hreadable).2 ⟨r', hread, rfl⟩, ?_⟩
    rw [toRecord_ofRecord hplain hread]
    exact hsame
  · rintro ⟨n, hload, hsame⟩
    obtain ⟨r', hread, rfl⟩ := (load_lines_iff hreadable).1 hload
    rw [toRecord_ofRecord hplain hread] at hsame
    exact ⟨r'.toDocument, hread, hsame⟩

/-- A manifest that was loaded from finite numbers and keys with bytes, and that is not nested too
deep, is rendered. Its text is loaded with the same content exactly when no object read holds a
field under both of its names and null under one of them. -/
theorem load_render_sameContent_iff {text : Text} {source : Option Text} {m : Manifest}
    (h : load text source = .ok m) (hdata : Json.parse text = .ok data)
    (hfinite : data.isFinite = true) (hwhole : data.hasWholeKeys = true)
    (hdepth : data.depth ≤ Machine.encodable + 1) {indent : Int} {width : Nat}
    (hwidth : Indent.width indent = .ok width) (again : Option Text) :
    ∃ rendered, m.render indent = .ok rendered ∧
      (Schema.manifest.shape.twinsHold data = true ↔
        ∃ n, load rendered again = .ok n ∧
          m.toRecord.toDocument.SameContent n.toRecord.toDocument) := by
  obtain ⟨r, hr, rfl⟩ : ∃ r, _ ∧ ofRecord r = m := Schema.read_of_loadText h hdata
  have hplain : data.Plain := ⟨Json.isDistinct_of_parse hdata, hwhole⟩
  have hwritten := Schema.plain_toJson Schema.isRegular_manifest hplain hr
  have hreadable : Json.Readable Machine.readable r.toDocument.toJson :=
    ⟨hwritten.distinct, fits_toJson hr (Json.fits_of_parse hdata),
      Nat.le_trans (Json.nesting_le_depth _) (Nat.le_trans (depth_toJson_le hr)
        (Nat.le_trans hdepth Machine.encodable_lt_readable))⟩
  refine ⟨r.toDocument.toJson.lines width, ?_, ?_⟩
  · rw [render, toRecord_ofRecord hplain hr]
    exact Record.render_eq_ok (Schema.fault?_of_read hr hwhole hdepth) hreadable.fits hwidth
  · rw [toRecord_ofRecord hplain hr, ← restored_iff_load hwritten hreadable again]
    exact (restored_iff_twinsHold _ Schema.isRegular_manifest data r.toDocument hr hplain
      hfinite).symm

end Rendered

/-- A manifest with three fields under both of their names, one of them with a value that is none of
the field's. -/
def twinsText : Text :=
  "\x7b\"name\":\"a/b\",\"require_dev\":\x7b\"x/y\":\"1\"\x7d," ++
    "\"require-dev\":\x7b\"x/y\":\"2\"\x7d," ++
    "\"config\":\x7b\"vendor-dir\":\"v\",\"vendor_dir\":[7]\x7d," ++
    "\"repositories\":[\x7b\"type\":\"vcs\",\"repository_type\":\"git\",\"n\":null\x7d]\x7d"

theorem load_render_sameContent_iff_twins :
    ∃ m rendered n, load twinsText none = .ok m ∧ m.render 4 = .ok rendered ∧
      load rendered none = .ok n ∧ m.toRecord.toDocument.SameContent n.toRecord.toDocument := by
  have hparses : (Json.parse twinsText).toOption.any (fun data =>
      data.isFinite && data.hasWholeKeys && decide (data.depth ≤ Machine.encodable + 1) &&
        Schema.manifest.shape.twinsHold data) = true := by
    decide +kernel
  have hloads : (load twinsText none).toOption.any (fun _ => true) = true := by decide +kernel
  obtain ⟨data, hdata, hchecks⟩ := exists_ok_of_any hparses
  obtain ⟨m, hm, -⟩ := exists_ok_of_any hloads
  simp only [Bool.and_eq_true, decide_eq_true_iff] at hchecks
  obtain ⟨⟨⟨hfinite, hwhole⟩, hdepth⟩, htwins⟩ := hchecks
  have hwidth : Indent.width 4 = .ok 4 := by decide
  obtain ⟨rendered, hrendered, hiff⟩ :=
    load_render_sameContent_iff hm hdata hfinite hwhole hdepth hwidth none
  obtain ⟨n, hn, hsame⟩ := hiff.1 htwins
  exact ⟨m, rendered, n, hm, hrendered, hn, hsame⟩

/-- The field is null and its respelling is not. -/
def nullFieldText : Text :=
  "\x7b\"name\":\"a/b\",\"require-dev\":null,\"require_dev\":\x7b\"x/y\":\"1\"\x7d\x7d"

/-- The respelling is null and the field is not. -/
def nullRespellingText : Text :=
  "\x7b\"name\":\"a/b\",\"require-dev\":\x7b\"x/y\":\"1\"\x7d,\"require_dev\":null\x7d"

/-- The field is null and its respelling has a value that is none of the field's. -/
def wrongRespellingText : Text :=
  "\x7b\"name\":\"a/b\",\"require-dev\":null,\"require_dev\":5\x7d"

/-- A respelling beside a null field is read as the field, or not at all, and a null respelling is
lost. -/
theorem exists_load_render_not_sameContent :
    (∀ text ∈ [nullFieldText, nullRespellingText], ∃ data m rendered n,
      Json.parse text = .ok data ∧ data.isFinite = true ∧ data.hasWholeKeys = true ∧
        load text none = .ok m ∧ m.render 4 = .ok rendered ∧ load rendered none = .ok n ∧
          ¬ m.toRecord.toDocument.SameContent n.toRecord.toDocument) ∧
    ∃ data m rendered, Json.parse wrongRespellingText = .ok data ∧ data.isFinite = true ∧
      data.hasWholeKeys = true ∧ load wrongRespellingText none = .ok m ∧
        m.render 4 = .ok rendered ∧ ∀ n, load rendered none ≠ .ok n := by
  have hparses : ∀ text ∈ [nullFieldText, nullRespellingText, wrongRespellingText],
      (Json.parse text).toOption.any (fun data => data.isFinite && data.hasWholeKeys) =
        true := by decide +kernel
  have hparse : ∀ text ∈ [nullFieldText, nullRespellingText, wrongRespellingText],
      ∃ data, Json.parse text = .ok data ∧ data.isFinite = true ∧ data.hasWholeKeys = true := by
    intro text htext
    obtain ⟨data, hdata, hchecks⟩ := exists_ok_of_any (hparses text htext)
    exact ⟨data, hdata, Bool.and_eq_true_iff.1 hchecks⟩
  have hloads : ∀ text ∈ [nullFieldText, nullRespellingText],
      (load text none).toOption.any (fun m => (m.render 4).toOption.any fun rendered =>
        (load rendered none).toOption.any fun n =>
          decide (m.unknownKeys.length ≠ n.unknownKeys.length)) = true := by decide +kernel
  have hwrong : (load wrongRespellingText none).toOption.any (fun m =>
      (m.render 4).toOption.any fun rendered => (load rendered none).toOption.isNone) = true := by
    decide +kernel
  constructor
  · intro text htext
    obtain ⟨data, hdata, hfinite, hwhole⟩ := hparse text (List.mem_append_left [_] htext)
    obtain ⟨m, hm, hrenders⟩ := exists_ok_of_any (hloads text htext)
    obtain ⟨rendered, hrendered, hreloads⟩ := exists_ok_of_any hrenders
    obtain ⟨n, hn, hkeys⟩ := exists_ok_of_any hreloads
    refine ⟨data, m, rendered, n, hdata, hfinite, hwhole, hm, hrendered, hn, fun hsame => ?_⟩
    exact of_decide_eq_true hkeys hsame.perm_unknownKeys.length_eq
  · obtain ⟨data, hdata, hfinite, hwhole⟩ := hparse wrongRespellingText (by simp)
    obtain ⟨m, hm, hrenders⟩ := exists_ok_of_any hwrong
    obtain ⟨rendered, hrendered, hnone⟩ := exists_ok_of_any hrenders
    refine ⟨data, m, rendered, hdata, hfinite, hwhole, hm, hrendered, fun n hn => ?_⟩
    rw [hn] at hnone
    cases hnone

end Manifest

end ManifestEdit
