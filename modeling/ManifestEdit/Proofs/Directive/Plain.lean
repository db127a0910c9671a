import ManifestEdit.Proofs.Apply.Alike
import ManifestEdit.Proofs.Directive.Parts
import ManifestEdit.Proofs.Json.Parsed

/-!
# Passes of a directive that was read

Where every key of a directive has bytes, its rules stand under whole keys and its overrides hold
plain values.
-/

namespace ManifestEdit

open Shape

namespace Section

theorem ofDocument?_toDocument (r : Record) : ofDocument? r.toDocument = some (ofRecord r) :=
  rfl

variable {s : Schema} {data : Json} {r : Record}

theorem whole_targets (hregular : s.shape.isRegular = true) (hplain : data.Plain)
    (h : s.shape.read data = .ok r.toDocument) (hfields : ∀ f ∈ Schema.ruleFields, f ∈ s.fields) :
    ∀ x ∈ (ofRecord r).targets, ∀ k ∈ x.2.keys, k.isWhole = true := by
  intro x hx
  rw [targets, List.mem_append, Option.mem_toList, Option.mem_toList, Option.map_eq_some_iff,
    Option.map_eq_some_iff] at hx
  rcases hx with ⟨rules, hrules, rfl⟩ | ⟨rules, hrules, rfl⟩
  · exact Links.whole_of_field? hregular hplain h "require" (hfields _ List.mem_cons_self)
      (by decide) hrules
  · exact Links.whole_of_field? hregular hplain h "require_dev"
      (hfields _ (List.mem_cons_of_mem _ List.mem_cons_self)) (by decide) hrules

end Section

namespace ModifySection

theorem ofDocument?_toDocument (r : Record) : ofDocument? r.toDocument = some (ofRecord r) :=
  rfl

variable {data : Json} {r : Record}

/-- The overrides of a section that was read are entries of an object in it. -/
theorem exists_config (hdistinct : data.isDistinct = true)
    (h : Schema.modifySection.shape.read data = .ok r.toDocument) {o : Overrides}
    (ho : (ofRecord r).config = some o) {e : Text × Json} (he : e ∈ o.entries) :
    ∃ fields key inner, data = .obj fields ∧ (key, .obj inner) ∈ fields ∧ e ∈ inner := by
  have hkey : (DeclaredField.optional "config").key = ("config" : Text) := by decide
  obtain ⟨fields, rfl⟩ := Shape.read_record h
  obtain ⟨d, hd, hdo⟩ := Option.bind_eq_some_iff.1 ho
  rw [← hkey] at hd
  obtain ⟨⟨key, v⟩, hv, hread⟩ :=
    Schema.exists_entry_of_field? Schema.isRegular_modifySection h mem_config hd
  obtain ⟨inner, _, rfl, -, -⟩ := read_map hread
  obtain ⟨w, hw, hleaf⟩ := Document.of_mem_mapOf? hread ((Json.isDistinct_obj.1 hdistinct).2 _ hv)
    viewedBy_anything hdo he
  cases hleaf
  exact ⟨fields, key, inner, rfl, hv, hw⟩

theorem plain_config (hplain : data.Plain)
    (h : Schema.modifySection.shape.read data = .ok r.toDocument) {o : Overrides}
    (ho : (ofRecord r).config = some o) : ∀ e ∈ o.entries, e.1.isWhole = true ∧ e.2.Plain := by
  intro e he
  obtain ⟨fields, key, inner, rfl, hinner, hmem⟩ := exists_config hplain.distinct h ho he
  exact (Json.plain_obj.1 ((Json.plain_obj.1 hplain).2 _ hinner).2).2 e hmem

end ModifySection

namespace Directive

/-- The overrides of a directive. -/
def overrides (d : Directive) : List (Text × Json) :=
  ((d.modify.bind fun s => s.config).map OrderedMap.entries).getD []

variable {data : Json} {r : Record}

/-- The overrides of a pass are those of its directive. -/
theorem overrides_of_pass {d : Directive} {p : Pass} (hp : p ∈ d.passes) {o : Overrides}
    (ho : p.overrides = some o) : o.entries = d.overrides := by
  simp only [passes, List.mem_append, Option.mem_toList, Option.map_eq_some_iff] at hp
  rcases hp with ((⟨s, -, rfl⟩ | ⟨s, -, rfl⟩) | ⟨s, -, rfl⟩) | ⟨s, hs, rfl⟩
  · cases ho
  · cases ho
  · cases ho
  · have hconfig : s.config = some o := ho
    rw [overrides, hs, Option.bind_some, hconfig]
    rfl

theorem bounded_passes {q : Number → Bool} {d : Directive}
    (h : ∀ e ∈ d.overrides, e.2.isWithin q (Machine.encodable - 1) = true) :
    ∀ p ∈ d.passes, p.Bounded q :=
  fun _ hp _ ho e he => h e (overrides_of_pass hp ho ▸ he)

/-- A section of a directive that was read is a record that was read. -/
theorem exists_section {s : Schema} {α : Type} {ofRecord : Record → α}
    {ofDocument? : Document → Option α}
    (h : Schema.directive.shape.read data = .ok r.toDocument) (spelling : String)
    (hf : (DeclaredField.optional spelling, s.shape) ∈ Schema.directive.fields)
    {key : Text} (hkey : key = (DeclaredField.optional spelling).key)
    (hof : ∀ r : Record, ofDocument? r.toDocument = some (ofRecord r)) {a : α}
    (ha : (r.field? key).bind ofDocument? = some a) :
    ∃ fields, data = .obj fields ∧
      ∃ e ∈ fields, ∃ r', s.shape.read e.2 = .ok (Record.toDocument r') ∧ a = ofRecord r' := by
  subst hkey
  obtain ⟨fields, rfl⟩ := Shape.read_record h
  obtain ⟨d, hd, hda⟩ := Option.bind_eq_some_iff.1 ha
  obtain ⟨e, he, hread⟩ := Schema.exists_entry_of_field? Schema.isRegular_directive h hf hd
  obtain ⟨r', rfl⟩ := Schema.exists_record hread
  rw [hof r'] at hda
  cases hda
  exact ⟨fields, rfl, e, he, r', hread, rfl⟩

theorem whole_section (hplain : data.Plain)
    (h : Schema.directive.shape.read data = .ok r.toDocument) (spelling : String)
    (hf : (DeclaredField.optional spelling, Schema.directiveSection.shape) ∈
      Schema.directive.fields) {key : Text} (hkey : key = (DeclaredField.optional spelling).key)
    {s : Section} (hs : (r.field? key).bind Section.ofDocument? = some s) :
    ∀ x ∈ s.targets, ∀ k ∈ x.2.keys, k.isWhole = true := by
  obtain ⟨fields, rfl, e, he, r', hread, rfl⟩ :=
    exists_section h spelling hf hkey Section.ofDocument?_toDocument hs
  have hsection := ((Json.plain_obj.1 hplain).2 e he).2
  exact Section.whole_targets Schema.isRegular_directiveSection hsection hread fun _ hf => hf

/-- The section of a directive that overrides the configuration. -/
theorem exists_modify (h : Schema.directive.shape.read data = .ok r.toDocument)
    {s : ModifySection} (hs : (ofRecord r).modify = some s) :
    ∃ fields, data = .obj fields ∧ ∃ e ∈ fields, ∃ r',
      Schema.modifySection.shape.read e.2 = .ok (Record.toDocument r') ∧
        s = ModifySection.ofRecord r' :=
  exists_section h "modify" List.mem_cons_self (by decide) ModifySection.ofDocument?_toDocument hs

/-- The passes of a directive that was read are plain where its overrides are. -/
theorem plain_passes (hplain : data.Plain)
    (h : Schema.directive.shape.read data = .ok r.toDocument)
    (hoverrides : ∀ e ∈ (ofRecord r).overrides, Config.isPlainOverride e = true) :
    ∀ p ∈ (ofRecord r).passes, p.Plain := by
  intro p hp
  simp only [passes, List.mem_append, Option.mem_toList, Option.map_eq_some_iff] at hp
  rcases hp with ((⟨s, hs, rfl⟩ | ⟨s, hs, rfl⟩) | ⟨s, hs, rfl⟩) | ⟨s, hs, rfl⟩
  · exact ⟨whole_section hplain h "remove" (by simp [Schema.directive]) (by decide) hs,
      fun o ho => by cases ho⟩
  · exact ⟨whole_section hplain h "add" (by simp [Schema.directive]) (by decide) hs,
      fun o ho => by cases ho⟩
  · exact ⟨whole_section hplain h "replace" (by simp [Schema.directive]) (by decide) hs,
      fun o ho => by cases ho⟩
  · obtain ⟨fields, rfl, v, hv, r', hread, rfl⟩ := exists_modify h hs
    have hsection := ((Json.plain_obj.1 hplain).2 v hv).2
    refine ⟨Section.whole_targets Schema.isRegular_modifySection hsection hread
      fun _ hf => List.mem_append_left _ hf, fun o ho e he => ?_⟩
    obtain ⟨hwhole, hvalue⟩ := ModifySection.plain_config hsection hread ho e he
    refine ⟨hwhole, hvalue, hoverrides e ?_⟩
    dsimp only at ho
    rw [overrides, hs, Option.bind_some, ho]
    exact he

section Loaded

variable [Machine] {text : Text} {source : Option Text} {d : Directive}

/-- The passes of a directive are plain that was loaded from a text in which every key has bytes,
where its overrides are. -/
theorem plain_passes_of_load (hload : load text source = .ok d)
    (hparse : Json.parse text = .ok data) (hwhole : data.hasWholeKeys = true)
    (hoverrides : ∀ e ∈ d.overrides, Config.isPlainOverride e = true) :
    ∀ p ∈ d.passes, p.Plain := by
  obtain ⟨r, hr, rfl⟩ : ∃ r, _ ∧ ofRecord r = d := Schema.read_of_loadText hload hparse
  exact plain_passes ⟨Json.isDistinct_of_parse hparse, hwhole⟩ hr hoverrides

/-- Every integer in the overrides of a directive that was loaded can be written. -/
theorem fits_overrides (hload : load text source = .ok d) : ∀ e ∈ d.overrides, e.2.fits = true := by
  obtain ⟨fields, hparse, hdecode⟩ := loadText_eq_ok_iff.1 hload
  obtain ⟨r, hr, rfl⟩ := Schema.map_decode_eq_ok_iff.1 hdecode
  intro e he
  rw [overrides] at he
  cases hs : (ofRecord r).modify with
  | none =>
    rw [hs] at he
    cases he
  | some s =>
    rw [hs, Option.bind_some] at he
    obtain ⟨_, heq, v, hv, r', hread, rfl⟩ := exists_modify hr hs
    cases heq
    cases ho : (ModifySection.ofRecord r').config with
    | none =>
      rw [ho] at he
      cases he
    | some o =>
      rw [ho] at he
      have hsection := (Json.isDistinct_obj.1 (Json.isDistinct_of_parse hparse)).2 v hv
      obtain ⟨inner, key, values, hv', hinner, hmem⟩ :=
        ModifySection.exists_config hsection hread ho he
      have hfits := Json.fits_obj.1 (Json.fits_of_parse hparse) v hv
      rw [hv'] at hfits
      exact Json.fits_obj.1 (Json.fits_obj.1 hfits _ hinner) e hmem

/-- The overrides of a directive that was loaded may stand in a manifest where none is nested too
deep. -/
theorem bounded_passes_of_load (hload : load text source = .ok d)
    (hdepth : ∀ e ∈ d.overrides, e.2.depth < Machine.encodable) :
    ∀ p ∈ d.passes, p.Bounded Number.fits :=
  bounded_passes fun e he =>
    Json.isWithin_fits_iff.2 ⟨Nat.le_pred_of_lt (hdepth e he), fits_overrides hload e he⟩

end Loaded

end Directive

end ManifestEdit
