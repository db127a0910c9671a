import ManifestEdit.Directive
import ManifestEdit.Proofs.Manifest.Parts

/-!
# Directives as records

A directive that was read is written as the record from which it was made, and so is each of its
sections.
-/

namespace ManifestEdit

open Shape

theorem filterMap_cons_toList {α β : Type} (g : α → Option β) (a : α) (rest : List α) :
    (a :: rest).filterMap g = (g a).toList ++ rest.filterMap g := by
  rw [List.filterMap_cons]
  cases g a <;> rfl

namespace Schema

/-- The fields of a record that was read, key by key. -/
theorem fields_eq {s : Schema} (hregular : s.shape.isRegular = true) {j : Json} {r : Record}
    (h : s.shape.read j = .ok r.toDocument) :
    r.fields = (s.declared.map DeclaredField.key).filterMap fun k => (r.field? k).map (k, ·) := by
  rw [List.filterMap_map]
  exact (filterMap_declared hregular h fun _ _ => rfl).symm

theorem unknown_of_closed {s : Schema} (hclosed : s.closed = true) {j : Json} {r : Record}
    (h : s.shape.read j = .ok r.toDocument) : r.unknown = [] := by
  obtain ⟨entries, rfl, -, hunknown, -⟩ := parts_of_read h
  obtain ⟨-, -, hnone, -⟩ := read_record_eq_ok_iff.1 h
  rw [hunknown, unknownOf, declared, hnone hclosed, List.map_nil]

theorem isRegular_directiveSection : directiveSection.shape.isRegular = true := by
  decide +kernel

theorem isRegular_modifySection : modifySection.shape.isRegular = true := by
  decide +kernel

end Schema

namespace Section

variable {data : Json} {r : Record}

/-- The keys of the rules, in the order in which they are declared. -/
def ruleKeys : List Text :=
  [Target.require.key, Target.requireDev.key]

theorem fields_ofRecord {s : Schema} (hregular : s.shape.isRegular = true)
    (hdistinct : data.isDistinct = true) (h : s.shape.read data = .ok r.toDocument)
    (hfields : ∀ f ∈ Schema.ruleFields, f ∈ s.fields) :
    (ofRecord r).fields = ruleKeys.filterMap fun k => (r.field? k).map (k, ·) := by
  have hrequire : (rulesOf? r .require).map Links.toDocument = r.field? Target.require.key :=
    Schema.map_bind_field? hregular hdistinct h (hfields _ List.mem_cons_self) (by decide)
      Links.viewedBy_textMap
  have hrequireDev : (rulesOf? r .requireDev).map Links.toDocument =
      r.field? Target.requireDev.key :=
    Schema.map_bind_field? hregular hdistinct h
      (hfields _ (List.mem_cons_of_mem _ List.mem_cons_self)) (by decide) Links.viewedBy_textMap
  rw [ruleKeys, filterMap_cons_toList, filterMap_cons_toList, List.filterMap_nil, List.append_nil,
    ← hrequire, ← hrequireDev]
  unfold fields targets ofRecord
  cases rulesOf? r .require <;> cases rulesOf? r .requireDev <;> rfl

/-- A section that was read is written as the record that was read. -/
theorem toRecord_ofRecord (hdistinct : data.isDistinct = true)
    (h : Schema.directiveSection.shape.read data = .ok r.toDocument) :
    (ofRecord r).toRecord = r := by
  have hfields := fields_ofRecord Schema.isRegular_directiveSection hdistinct h fun _ hf => hf
  have hunknown := Schema.unknown_of_closed rfl h
  have hkeys : Schema.directiveSection.declared.map DeclaredField.key = ruleKeys := by decide
  have hread := Schema.fields_eq Schema.isRegular_directiveSection h
  rw [hkeys] at hread
  have hsame : (ofRecord r).fields = r.fields := hfields.trans hread.symm
  obtain ⟨fields, unknown, order⟩ := r
  dsimp only at hunknown
  subst hunknown
  exact congrArg (fun fields => Record.mk fields [] order) hsame

end Section

theorem Section.viewedBy_section :
    Schema.directiveSection.shape.ViewedBy ofDocument? fun s => s.toRecord.toDocument := by
  intro j d hdistinct h
  obtain ⟨r, rfl⟩ := Schema.exists_record h
  exact ⟨ofRecord r, rfl, congrArg Record.toDocument (toRecord_ofRecord hdistinct h)⟩

namespace ModifySection

theorem viewedBy_anything : Shape.anything.ViewedBy leaf? .leaf := by
  intro j d _ h
  cases h
  exact ⟨j, rfl, rfl⟩

theorem mem_config :
    (DeclaredField.optional "config", Shape.map .anything) ∈ Schema.modifySection.fields := by
  simp [Schema.modifySection]

variable {data : Json} {r : Record}

theorem config_ofRecord (hdistinct : data.isDistinct = true)
    (h : Schema.modifySection.shape.read data = .ok r.toDocument) :
    (ofRecord r).config.map overridesDocument = r.field? "config" :=
  Schema.map_bind_field? Schema.isRegular_modifySection hdistinct h mem_config (by decide)
    (Document.viewedBy_mapOf? viewedBy_anything)

/-- A section that was read is written as the record that was read. -/
theorem toRecord_ofRecord (hdistinct : data.isDistinct = true)
    (h : Schema.modifySection.shape.read data = .ok r.toDocument) :
    (ofRecord r).toRecord = r := by
  have hrules := Section.fields_ofRecord Schema.isRegular_modifySection hdistinct h
    fun _ hf => List.mem_append_left _ hf
  have hconfig := config_ofRecord hdistinct h
  have hunknown := Schema.unknown_of_closed rfl h
  have hkeys : Schema.modifySection.declared.map DeclaredField.key =
      Section.ruleKeys ++ [("config" : Text)] := by decide
  have hsame : (ofRecord r).toRecord.fields = r.fields := by
    rw [Schema.fields_eq Schema.isRegular_modifySection h, hkeys, List.filterMap_append, ← hrules,
      filterMap_cons_toList, ← hconfig, List.filterMap_nil, List.append_nil, Option.map_map]
    rfl
  obtain ⟨fields, unknown, order⟩ := r
  dsimp only at hunknown
  subst hunknown
  exact congrArg (fun fields => Record.mk fields [] order) hsame

theorem viewedBy_section :
    Schema.modifySection.shape.ViewedBy ofDocument? fun s => s.toRecord.toDocument := by
  intro j d hdistinct h
  obtain ⟨r, rfl⟩ := Schema.exists_record h
  exact ⟨ofRecord r, rfl, congrArg Record.toDocument (toRecord_ofRecord hdistinct h)⟩

end ModifySection

namespace Directive

variable {data : Json} {r : Record}

/-- A part that is read from a field is written as that field. -/
theorem part_of_field? (hdistinct : data.isDistinct = true)
    (h : Schema.directive.shape.read data = .ok r.toDocument) {α : Type} (spelling : String)
    {s : Shape} (hf : (DeclaredField.optional spelling, s) ∈ Schema.directive.fields)
    {ofDocument? : Document → Option α} {toRecord : α → Record}
    (hpart : s.ViewedBy ofDocument? fun a => (toRecord a).toDocument) (key : Text)
    (hkey : (DeclaredField.optional spelling).key = key) :
    part key (((r.field? key).bind ofDocument?).map toRecord) =
      ((r.field? key).map (key, ·)).toList := by
  have hfield := Schema.map_bind_field? Schema.isRegular_directive hdistinct h hf hkey hpart
  have hkeyed := congrArg (fun d => (d.map (key, ·)).toList) hfield
  rw [Option.map_map] at hkeyed
  rw [part, Option.map_map]
  exact hkeyed

/-- A directive that was read is written as the record that was read. -/
theorem toRecord_ofRecord (hdistinct : data.isDistinct = true)
    (h : Schema.directive.shape.read data = .ok r.toDocument) : (ofRecord r).toRecord = r := by
  have hunknown := Schema.unknown_of_closed rfl h
  have hmodify := part_of_field? hdistinct h "modify" (by simp [Schema.directive])
    ModifySection.viewedBy_section "modify" (by decide)
  have hadd := part_of_field? hdistinct h "add" (by simp [Schema.directive])
    Section.viewedBy_section "add" (by decide)
  have hremove := part_of_field? hdistinct h "remove" (by simp [Schema.directive])
    Section.viewedBy_section "remove" (by decide)
  have hreplace := part_of_field? hdistinct h "replace" (by simp [Schema.directive])
    Section.viewedBy_section "replace" (by decide)
  have hkeys : Schema.directive.declared.map DeclaredField.key =
      ([("modify" : Text), "add", "remove", "replace"]) := by decide
  have hsame : (ofRecord r).toRecord.fields = r.fields := by
    rw [Schema.fields_eq Schema.isRegular_directive h, hkeys]
    simp only [filterMap_cons_toList, List.filterMap_nil, List.append_nil, ← hmodify, ← hadd,
      ← hremove, ← hreplace, toRecord, ofRecord, List.append_assoc]
  obtain ⟨fields, unknown, order⟩ := r
  dsimp only at hunknown
  subst hunknown
  exact congrArg (fun fields => Record.mk fields [] order) hsame

end Directive

end ManifestEdit
