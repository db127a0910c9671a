import ManifestEdit.Manifest
import ManifestEdit.Proofs.Document.Parts

/-!
# Manifests as records

A manifest that was read is written as the record from which it was made: its dependency maps and
its configuration are the documents that were read.
-/

namespace ManifestEdit

open Shape

/-! ## Dependency maps -/

namespace Links

theorem text?_of_read {j : Json} {d : Document} (h : Shape.text.read j = .ok d) :
    ∃ t, d.text? = some t ∧ Document.leaf (.str t) = d := by
  cases j <;> cases h
  exact ⟨_, rfl, rfl⟩

theorem viewedBy_text : Shape.text.ViewedBy Document.text? fun t => .leaf (.str t) :=
  fun _ h => text?_of_read h

/-- A map of texts that was read is viewed as a dependency map. -/
theorem viewedBy_textMap : Schema.textMap.ViewedBy ofDocument? toDocument :=
  Document.viewedBy_mapOf? viewedBy_text

end Links

/-! ## Fields of the schema -/

namespace Schema

theorem mem_require : (DeclaredField.optional "require", textMap) ∈ manifest.fields := by
  simp [manifest]

theorem mem_requireDev : (DeclaredField.optional "require_dev", textMap) ∈ manifest.fields := by
  simp [manifest]

theorem mem_config : (DeclaredField.optional "config", config.shape) ∈ manifest.fields := by
  simp [manifest]

end Schema

namespace Config

theorem viewedBy_config : Schema.config.shape.ViewedBy ofDocument? toDocument := by
  intro j d _ h
  obtain ⟨entries, rfl⟩ := read_record h
  obtain ⟨-, -, -, rfl⟩ := read_record_eq_ok_iff.1 h
  exact ⟨_, rfl, rfl⟩

end Config

/-! ## Records -/

namespace Manifest

variable {data : Json} {r : Record}

/-- The fields of a manifest are those of the record from which it was made. -/
theorem field?_ofRecord (hplain : data.Plain)
    (h : Schema.manifest.shape.read data = .ok r.toDocument) (key : Text) :
    (ofRecord r).field? key = r.field? key := by
  unfold field?
  split
  · rename_i hkey
    rw [hkey]
    exact Schema.map_bind_field? Schema.isRegular_manifest hplain.distinct h Schema.mem_require
      (by decide) Links.viewedBy_textMap
  · rename_i hrequire
    split
    · rename_i hkey
      rw [hkey]
      exact Schema.map_bind_field? Schema.isRegular_manifest hplain.distinct h
        Schema.mem_requireDev (by decide) Links.viewedBy_textMap
    · rename_i hrequireDev
      split
      · rename_i hkey
        rw [hkey]
        exact Schema.map_bind_field? Schema.isRegular_manifest hplain.distinct h
          Schema.mem_config (by decide) Config.viewedBy_config
      · rename_i hconfig
        have hother : editableKeys.contains key = false := by
          simp [editableKeys, hrequire, hrequireDev, hconfig]
        have hlookup := Entries.lookup_filter r.fields (fun k => !editableKeys.contains k) key
        rw [hother] at hlookup
        exact hlookup

/-- A manifest that was read is written as the record that was read. -/
theorem toRecord_ofRecord (hplain : data.Plain)
    (h : Schema.manifest.shape.read data = .ok r.toDocument) : (ofRecord r).toRecord = r := by
  have hsame : (ofRecord r).toRecord.fields = r.fields :=
    Schema.filterMap_declared Schema.isRegular_manifest h
      fun f _ => field?_ofRecord hplain h f.1.key
  obtain ⟨fields, unknown, order⟩ := r
  exact congrArg (fun fields => Record.mk fields unknown order) hsame

end Manifest

end ManifestEdit
