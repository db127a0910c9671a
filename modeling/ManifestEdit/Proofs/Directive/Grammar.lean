import ManifestEdit.Proofs.Directive.Plain
import ManifestEdit.Proofs.Shape.Closed

/-!
# The grammar of directives

A directive is read from the objects of a small grammar and from nothing else: up to four sections,
each with up to two maps of rules, and in one of them a configuration. What it then lists is what
stands in its text, section by section in the order in which they are applied.
-/

namespace ManifestEdit

open Shape

namespace Json

/-- The entries of an object. -/
def entries? : Json → Option (List (Text × Json))
  | obj fields => some fields
  | _ => none

theorem isNull_iff {j : Json} : j.isNull = true ↔ j = .null := by
  cases j <;> simp [isNull]

end Json

namespace Directive

/-! ## The grammar -/

def OrNull (P : Json → Prop) (j : Json) : Prop :=
  j = .null ∨ P j

def IsObject (j : Json) : Prop :=
  ∃ entries, j = .obj entries

/-- An object all of whose values are texts. -/
def IsRules (j : Json) : Prop :=
  ∃ rules, j = .obj rules ∧ ∀ e ∈ rules, ∃ t, e.2 = .str t

/-- What may stand in a section. Only where it `modifies` may there be a configuration. -/
inductive SectionEntry (modifies : Bool) : Text × Json → Prop where
  | require {j : Json} : OrNull IsRules j → SectionEntry modifies ("require", j)
  | requireDev {j : Json} : OrNull IsRules j → SectionEntry modifies ("require-dev", j)
  /-- The second spelling. -/
  | requireDevSpelled {j : Json} : OrNull IsRules j → SectionEntry modifies ("require_dev", j)
  | config {j : Json} : modifies = true → OrNull IsObject j → SectionEntry modifies ("config", j)

/-- A section holds no map of rules under two spellings. -/
def IsSection (modifies : Bool) (j : Json) : Prop :=
  ∃ entries, j = .obj entries ∧ (∀ e ∈ entries, SectionEntry modifies e) ∧
    ¬ (("require-dev" : Text) ∈ Entries.keys entries ∧
      ("require_dev" : Text) ∈ Entries.keys entries)

/-- What may stand in a directive. -/
inductive Entry : Text × Json → Prop where
  | modify {j : Json} : OrNull (IsSection true) j → Entry ("modify", j)
  | add {j : Json} : OrNull (IsSection false) j → Entry ("add", j)
  | remove {j : Json} : OrNull (IsSection false) j → Entry ("remove", j)
  | replace {j : Json} : OrNull (IsSection false) j → Entry ("replace", j)

def IsDirective (j : Json) : Prop :=
  ∃ entries, j = .obj entries ∧ ∀ e ∈ entries, Entry e

/-! ## What is listed -/

/-- What a pass is made of, in the values of its text. -/
structure Listed where
  name : String
  policy : MergePolicy
  rules : List (Target × List (Text × Json))
  config : Option (List (Text × Json))

def texts (rules : Rules Text) : List (Text × Json) :=
  rules.entries.map fun e => (e.1, .str e.2)

def listedRules (s : Section) : List (Target × List (Text × Json)) :=
  s.targets.map fun (target, rules) => (target, texts rules)

def listed (p : Pass) : Listed :=
  ⟨p.name, p.policy, listedRules p.rules, p.overrides.map OrderedMap.entries⟩

/-- The object under the first of some names that stands among the entries. -/
def objectIn? (names : List Text) (entries : List (Text × Json)) : Option (List (Text × Json)) :=
  (names.findSome? fun name => entries.lookup name).bind Json.entries?

/-- The rules in the text of a section. -/
def rulesIn (entries : List (Text × Json)) : List (Target × List (Text × Json)) :=
  ((objectIn? ["require"] entries).map (Target.require, ·)).toList ++
    ((objectIn? ["require-dev", "require_dev"] entries).map (Target.requireDev, ·)).toList

/-- The names and policies of the passes, in the order in which they are applied. -/
def policies : List (String × MergePolicy) :=
  [("remove", .delete), ("add", .insertIfAbsent), ("replace", .overwrite),
    ("modify", .overwriteIfPresent)]

def sectionIn (name : String) (policy : MergePolicy) (entries : List (Text × Json)) : Listed :=
  ⟨name, policy, rulesIn entries, objectIn? ["config"] entries⟩

/-- The sections in the text of a directive that are not null. -/
def sectionsIn (entries : List (Text × Json)) : List Listed :=
  policies.filterMap fun (name, policy) =>
    (objectIn? [name] entries).map (sectionIn name policy)

/-! ## Reading -/

theorem reads_rules_iff {j : Json} : (Shape.map .text).Reads j ↔ IsRules j := by
  have htext : ∀ j, Shape.text.Reads j ↔ ∃ t, j = .str t := by
    intro j
    constructor
    · rintro ⟨d, hd⟩
      cases j <;> cases hd
      exact ⟨_, rfl⟩
    · rintro ⟨t, rfl⟩
      exact ⟨_, rfl⟩
  constructor
  · rintro ⟨d, hd⟩
    obtain ⟨entries, -, rfl, -⟩ := read_map hd
    exact ⟨entries, rfl, fun e he => (htext e.2).1 (reads_map_iff.1 ⟨d, hd⟩ e he)⟩
  · rintro ⟨rules, rfl, h⟩
    exact reads_map_iff.2 fun e he => (htext e.2).2 (h e he)

theorem reads_object_iff {j : Json} : (Shape.map .anything).Reads j ↔ IsObject j := by
  constructor
  · rintro ⟨d, hd⟩
    obtain ⟨entries, -, rfl, -⟩ := read_map hd
    exact ⟨entries, rfl⟩
  · rintro ⟨entries, rfl⟩
    exact reads_map_iff.2 fun e _ => ⟨_, rfl⟩

theorem orNull_iff {s : Shape} {P : Json → Prop} {j : Json} (h : s.Reads j ↔ P j) :
    j.isNull = true ∨ s.Reads j ↔ OrNull P j := by
  rw [OrNull, Json.isNull_iff, h]

theorem optional_require :
    DeclaredField.optional "require" = ⟨"require", "require", false, true⟩ := by
  decide

theorem optional_requireDev :
    DeclaredField.optional "require_dev" = ⟨"require-dev", "require_dev", false, true⟩ := by
  decide

theorem optional_config :
    DeclaredField.optional "config" = ⟨"config", "config", false, true⟩ := by
  decide

theorem standOnce_ruleFields (more : List (DeclaredField × Shape))
    (hmore : ∀ f ∈ more, f.1.key = f.1.spelling) (entries : List (Text × Json)) :
    standOnce (Schema.ruleFields ++ more) entries = true ↔
      ¬ (("require-dev" : Text) ∈ Entries.keys entries ∧
        ("require_dev" : Text) ∈ Entries.keys entries) := by
  have hspellings : ("require-dev" : Text) ≠ "require_dev" := by decide
  rw [standOnce_iff, List.forall_mem_append]
  constructor
  · rintro ⟨h, -⟩ ⟨hkey, hspelling⟩
    have hrequireDev := h (DeclaredField.optional "require_dev", .map .text)
      (List.mem_cons_of_mem _ List.mem_cons_self)
    rw [optional_requireDev] at hrequireDev
    exact hspellings (hrequireDev hkey hspelling)
  · intro hnot
    refine ⟨?_, fun f hf _ _ => hmore f hf⟩
    rw [Schema.ruleFields, List.forall_mem_cons, List.forall_mem_singleton, optional_require,
      optional_requireDev]
    exact ⟨fun _ _ => rfl, fun hkey hspelling => absurd ⟨hkey, hspelling⟩ hnot⟩

/-- A section is read when it is one of the grammar. -/
theorem reads_section_iff {s : Schema} {modifies : Bool} (hclosed : s.closed = true)
    (hapart : Apart s.fields) (hoptional : ∀ f ∈ s.fields, isOptional f.1 = true)
    {more : List (DeclaredField × Shape)} (hfields : s.fields = Schema.ruleFields ++ more)
    (hmore : ∀ f ∈ more, f.1.key = f.1.spelling)
    (hentry : ∀ e, Allowed s.fields e ↔ SectionEntry modifies e) {j : Json}
    (hdistinct : j.isDistinct = true) : s.shape.Reads j ↔ IsSection modifies j := by
  rw [Schema.reads_closed_iff hclosed hapart hoptional hdistinct]
  refine exists_congr fun entries => and_congr_right fun _ => ?_
  rw [and_comm, hfields, standOnce_ruleFields more hmore, ← hfields]
  exact and_congr_left fun _ => forall₂_congr fun e _ => hentry e

theorem sectionEntry_iff {modifies : Bool} {key : Text} {j : Json} :
    SectionEntry modifies (key, j) ↔
      ("require" = key ∨ "require-dev" = key ∨ "require_dev" = key) ∧ OrNull IsRules j ∨
        "config" = key ∧ modifies = true ∧ OrNull IsObject j := by
  constructor
  · intro h
    cases h with
    | require h => exact .inl ⟨.inl rfl, h⟩
    | requireDev h => exact .inl ⟨.inr (.inl rfl), h⟩
    | requireDevSpelled h => exact .inl ⟨.inr (.inr rfl), h⟩
    | config hmodifies h => exact .inr ⟨rfl, hmodifies, h⟩
  · rintro (⟨rfl | rfl | rfl, h⟩ | ⟨rfl, hmodifies, h⟩)
    · exact .require h
    · exact .requireDev h
    · exact .requireDevSpelled h
    · exact .config hmodifies h

theorem allowed_rules_iff {e : Text × Json} :
    Allowed Schema.ruleFields e ↔ SectionEntry false e := by
  obtain ⟨key, j⟩ := e
  simp only [Allowed, Schema.ruleFields, List.mem_cons, List.not_mem_nil, or_false,
    exists_eq_or_imp, exists_eq_left, optional_require, optional_requireDev, isNamed_iff, or_self,
    orNull_iff reads_rules_iff, sectionEntry_iff, ← or_and_right]
  simp

theorem allowed_modify_iff {e : Text × Json} :
    Allowed Schema.modifySection.fields e ↔ SectionEntry true e := by
  obtain ⟨key, j⟩ := e
  simp only [Allowed, Schema.modifySection, Schema.ruleFields, List.mem_append, List.mem_cons,
    List.not_mem_nil, or_false, or_assoc, exists_eq_or_imp, exists_eq_left, optional_require,
    optional_requireDev, optional_config, isNamed_iff, or_self, orNull_iff reads_rules_iff,
    orNull_iff reads_object_iff, sectionEntry_iff]
  simp [or_and_right, or_assoc]

theorem reads_directiveSection_iff {j : Json} (hdistinct : j.isDistinct = true) :
    Schema.directiveSection.shape.Reads j ↔ IsSection false j :=
  reads_section_iff rfl (Schema.sound_fields Schema.isRegular_directiveSection).apart
    (by decide) (List.append_nil _).symm (by simp) (fun _ => allowed_rules_iff) hdistinct

theorem reads_modifySection_iff {j : Json} (hdistinct : j.isDistinct = true) :
    Schema.modifySection.shape.Reads j ↔ IsSection true j :=
  reads_section_iff rfl (Schema.sound_fields Schema.isRegular_modifySection).apart
    (by decide) rfl (by decide) (fun _ => allowed_modify_iff) hdistinct

theorem allowed_iff {e : Text × Json} (hdistinct : e.2.isDistinct = true) :
    Allowed Schema.directive.fields e ↔ Entry e := by
  have hkeys : DeclaredField.optional "modify" = ⟨"modify", "modify", false, true⟩ ∧
      DeclaredField.optional "add" = ⟨"add", "add", false, true⟩ ∧
      DeclaredField.optional "remove" = ⟨"remove", "remove", false, true⟩ ∧
      DeclaredField.optional "replace" = ⟨"replace", "replace", false, true⟩ := by
    decide
  obtain ⟨key, j⟩ := e
  simp only [Allowed, Schema.directive, List.mem_cons, List.not_mem_nil, or_false,
    exists_eq_or_imp, exists_eq_left, hkeys, isNamed_iff, or_self,
    orNull_iff (reads_modifySection_iff hdistinct),
    orNull_iff (reads_directiveSection_iff hdistinct)]
  constructor
  · rintro (⟨rfl, h⟩ | ⟨rfl, h⟩ | ⟨rfl, h⟩ | ⟨rfl, h⟩)
    · exact .modify h
    · exact .add h
    · exact .remove h
    · exact .replace h
  · intro h
    cases h with
    | modify h => exact .inl ⟨rfl, h⟩
    | add h => exact .inr (.inl ⟨rfl, h⟩)
    | remove h => exact .inr (.inr (.inl ⟨rfl, h⟩))
    | replace h => exact .inr (.inr (.inr ⟨rfl, h⟩))

theorem reads_iff {j : Json} (hdistinct : j.isDistinct = true) :
    Schema.directive.shape.Reads j ↔ IsDirective j := by
  have hfields : ∀ f ∈ Schema.directive.fields, isOptional f.1 = true ∧
      f.1.key = f.1.spelling := by
    decide
  rw [Schema.reads_closed_iff rfl (Schema.sound_fields Schema.isRegular_directive).apart
    (fun f hf => (hfields f hf).1) hdistinct]
  refine exists_congr fun entries => and_congr_right fun hj => ?_
  have honce : standOnce Schema.directive.fields entries = true :=
    standOnce_iff.2 fun f hf _ _ => (hfields f hf).2
  rw [and_iff_right honce]
  exact forall₂_congr fun e he =>
    allowed_iff ((Json.isDistinct_obj.1 (hj ▸ hdistinct)).2 e he)

/-! ## Listing -/

variable {entries : List (Text × Json)} {r : Record}

theorem objectIn?_names (f : DeclaredField) (entries : List (Text × Json)) :
    objectIn? [f.key, f.spelling] entries =
      ((entries.lookup f.key).or (entries.lookup f.spelling)).bind Json.entries? := by
  unfold objectIn?
  rw [List.findSome?_cons, List.findSome?_singleton]
  cases entries.lookup f.key <;> rfl

theorem objectIn?_twice (name : Text) (entries : List (Text × Json)) :
    objectIn? [name, name] entries = objectIn? [name] entries := by
  unfold objectIn?
  rw [List.findSome?_cons, List.findSome?_singleton]
  cases entries.lookup name <;> rfl

/-- What is made of a field is made of the object under its names. -/
theorem bind_field?_eq_objectIn? {s : Schema} (hregular : s.shape.isRegular = true)
    (h : s.shape.read (.obj entries) = .ok r.toDocument)
    (hdistinct : (Json.obj entries).isDistinct = true) {f : DeclaredField × Shape}
    (hf : f ∈ s.fields) (hnullable : f.1.nullable = true) {α : Type} {part? : Document → Option α}
    {made : List (Text × Json) → α}
    (hpart : ∀ v d, v.isDistinct = true → f.2.read v = .ok d → part? d = v.entries?.map made) :
    (r.field? f.1.key).bind part? = (objectIn? [f.1.key, f.1.spelling] entries).map made := by
  rw [objectIn?_names, Option.map_bind]
  exact Schema.bind_field?_eq (Schema.sound_fields hregular).apart h hdistinct hf hnullable rfl
    hpart

theorem texts_of_read {v : Json} {d : Document} (hdistinct : v.isDistinct = true)
    (h : (Shape.map .text).read v = .ok d) :
    (d.mapOf? Document.text?).map texts = v.entries?.map id := by
  obtain ⟨inner, -, rfl, -⟩ := read_map h
  refine Document.mapOf?_leaves .str h hdistinct (fun w e hread => ?_)
    Links.viewedBy_text
  obtain ⟨t, -, rfl⟩ := Links.text?_of_read hread
  cases w <;> cases hread
  rfl

theorem overrides_of_read {v : Json} {d : Document} (hdistinct : v.isDistinct = true)
    (h : (Shape.map .anything).read v = .ok d) :
    (d.mapOf? ModifySection.leaf?).map OrderedMap.entries = v.entries?.map id := by
  obtain ⟨inner, -, rfl, -⟩ := read_map h
  have hentries := Document.mapOf?_leaves id h hdistinct (fun w e hread => by cases hread; rfl)
    ModifySection.viewedBy_anything
  simp only [id_eq, Prod.mk.eta, List.map_id_fun'] at hentries
  exact hentries

theorem texts_rulesOf? {s : Schema} (hregular : s.shape.isRegular = true)
    (h : s.shape.read (.obj entries) = .ok r.toDocument)
    (hdistinct : (Json.obj entries).isDistinct = true) (target : Target) (spelling : String)
    (hf : (DeclaredField.optional spelling, Shape.map .text) ∈ s.fields)
    (hkey : (DeclaredField.optional spelling).key = target.key) :
    (Section.rulesOf? r target).map texts = objectIn? [target.key, spelling] entries := by
  have hfield := bind_field?_eq_objectIn? hregular h hdistinct hf rfl fun _ _ => texts_of_read
  rw [Option.map_id_apply] at hfield
  rw [Section.rulesOf?, Option.map_bind, ← hkey]
  exact hfield

theorem listedRules_ofRecord {s : Schema} (hregular : s.shape.isRegular = true)
    (h : s.shape.read (.obj entries) = .ok r.toDocument)
    (hdistinct : (Json.obj entries).isDistinct = true)
    (hfields : ∀ f ∈ Schema.ruleFields, f ∈ s.fields) :
    listedRules (Section.ofRecord r) = rulesIn entries := by
  have hrequire := texts_rulesOf? hregular h hdistinct .require "require"
    (hfields _ List.mem_cons_self) (by decide)
  have hrequireDev := texts_rulesOf? hregular h hdistinct .requireDev "require_dev"
    (hfields _ (List.mem_cons_of_mem _ List.mem_cons_self)) (by decide)
  rw [Target.key, objectIn?_twice] at hrequire
  rw [rulesIn, ← hrequire]
  unfold Target.key at hrequireDev
  rw [← hrequireDev]
  unfold listedRules Section.targets Section.ofRecord
  cases Section.rulesOf? r .require <;> cases Section.rulesOf? r .requireDev <;> rfl

theorem config_ofRecord (h : Schema.modifySection.shape.read (.obj entries) = .ok r.toDocument)
    (hdistinct : (Json.obj entries).isDistinct = true) :
    (ModifySection.ofRecord r).config.map OrderedMap.entries = objectIn? ["config"] entries := by
  have hfield := bind_field?_eq_objectIn? Schema.isRegular_modifySection h hdistinct
    ModifySection.mem_config rfl fun _ _ => overrides_of_read
  rw [Option.map_id_apply, optional_config] at hfield
  rw [ModifySection.ofRecord, Option.map_bind, ← objectIn?_twice]
  exact hfield

/-- A section that changes no configuration holds none. -/
theorem objectIn?_config_of_reads (hdistinct : (Json.obj entries).isDistinct = true)
    (h : Schema.directiveSection.shape.Reads (.obj entries)) :
    objectIn? ["config"] entries = none := by
  obtain ⟨_, heq, hall, -⟩ := (reads_directiveSection_iff hdistinct).1 h
  cases heq
  have hnone : entries.lookup ("config" : Text) = none := by
    refine Entries.lookup_eq_none_iff.2 fun hmem => ?_
    obtain ⟨v, hv⟩ := Entries.mem_keys.1 hmem
    rcases sectionEntry_iff.1 (hall _ hv) with ⟨hkey, -⟩ | ⟨-, hmodifies, -⟩
    · exact absurd hkey (by decide)
    · cases hmodifies
  rw [objectIn?, List.findSome?_singleton, hnone, Option.bind_none]

/-! ## Sections -/

theorem listed_of_read (name : String) (policy : MergePolicy) {v : Json} {d : Document}
    (hdistinct : v.isDistinct = true) (h : Schema.directiveSection.shape.read v = .ok d) :
    (Section.ofDocument? d).map (fun s => listed ⟨name, policy, s, none⟩) =
      v.entries?.map (sectionIn name policy) := by
  obtain ⟨inner, rfl⟩ := read_record h
  obtain ⟨r, rfl⟩ := Schema.exists_record h
  rw [Section.ofDocument?_toDocument, Option.map_some, Json.entries?, Option.map_some, listed,
    listedRules_ofRecord Schema.isRegular_directiveSection h hdistinct fun _ hf => hf, sectionIn,
    objectIn?_config_of_reads hdistinct ⟨_, h⟩]
  rfl

theorem listed_of_read_modify (name : String) (policy : MergePolicy) {v : Json} {d : Document}
    (hdistinct : v.isDistinct = true) (h : Schema.modifySection.shape.read v = .ok d) :
    (ModifySection.ofDocument? d).map (fun s => listed ⟨name, policy, s.toSection, s.config⟩) =
      v.entries?.map (sectionIn name policy) := by
  obtain ⟨inner, rfl⟩ := read_record h
  obtain ⟨r, rfl⟩ := Schema.exists_record h
  have hrules : listedRules (ModifySection.ofRecord r).toSection = rulesIn inner :=
    listedRules_ofRecord Schema.isRegular_modifySection h hdistinct
      fun _ hf => List.mem_append_left _ hf
  rw [ModifySection.ofDocument?_toDocument, Option.map_some, Json.entries?, Option.map_some,
    listed, hrules, config_ofRecord h hdistinct, sectionIn]

theorem listed_field (spelling : String) {s : Shape} {α : Type}
    {part? : Document → Option α} {pass : α → Listed} {made : List (Text × Json) → Listed}
    (h : Schema.directive.shape.read (.obj entries) = .ok r.toDocument)
    (hdistinct : (Json.obj entries).isDistinct = true)
    (hf : (DeclaredField.optional spelling, s) ∈ Schema.directive.fields)
    (hkey : (DeclaredField.optional spelling).key = spelling)
    (hpart : ∀ v d, v.isDistinct = true → s.read v = .ok d →
      (part? d).map pass = v.entries?.map made) :
    ((r.field? spelling).bind part?).map pass = (objectIn? [spelling] entries).map made := by
  have hfield := bind_field?_eq_objectIn? Schema.isRegular_directive h hdistinct hf rfl hpart
  rw [Option.map_bind, ← objectIn?_twice]
  dsimp only at hfield
  rw [hkey] at hfield
  exact hfield

/-- The passes of a directive that was read are the sections of its text. -/
theorem listed_passes (h : Schema.directive.shape.read (.obj entries) = .ok r.toDocument)
    (hdistinct : (Json.obj entries).isDistinct = true) :
    (ofRecord r).passes.map listed = sectionsIn entries := by
  have hremove := listed_field "remove" h hdistinct (by simp [Schema.directive]) (by decide)
    fun _ _ => listed_of_read "remove" .delete
  have hadd := listed_field "add" h hdistinct (by simp [Schema.directive]) (by decide)
    fun _ _ => listed_of_read "add" .insertIfAbsent
  have hreplace := listed_field "replace" h hdistinct (by simp [Schema.directive]) (by decide)
    fun _ _ => listed_of_read "replace" .overwrite
  have hmodify := listed_field "modify" h hdistinct List.mem_cons_self (by decide)
    fun _ _ => listed_of_read_modify "modify" .overwriteIfPresent
  simp only [sectionsIn, policies, filterMap_cons_toList, List.filterMap_nil, List.append_nil,
    ← hremove, ← hadd, ← hreplace, ← hmodify]
  simp only [passes, List.map_append, Option.toList_map, List.append_assoc, List.map_map]
  rfl

/-- A value is read as a directive exactly when it is one of the grammar, and what is then listed is
what stands in its text. -/
theorem decodes_exactly_grammar {data : Json} (hdistinct : data.isDistinct = true)
    (root : String) :
    ((∃ d, decode data root = .ok d) ↔ IsDirective data) ∧
      ∀ d, decode data root = .ok d →
        ∃ entries, data = .obj entries ∧ d.passes.map listed = sectionsIn entries := by
  constructor
  · rw [← reads_iff hdistinct]
    constructor
    · rintro ⟨d, hd⟩
      obtain ⟨r, hr, -⟩ := Schema.map_decode_eq_ok_iff.1 hd
      exact ⟨_, hr⟩
    · rintro ⟨d, hd⟩
      obtain ⟨r, rfl⟩ := Schema.exists_record hd
      exact ⟨ofRecord r, Schema.map_decode_eq_ok_iff.2 ⟨r, hd, rfl⟩⟩
  · intro d hd
    obtain ⟨r, hr, rfl⟩ := Schema.map_decode_eq_ok_iff.1 hd
    obtain ⟨entries, rfl⟩ := read_record hr
    exact ⟨entries, rfl, listed_passes hr hdistinct⟩

/-- A section that is null is not listed, and rules under the second spelling are those of the
same map. -/
theorem decodes_exactly_grammar_spelled :
    let rules : List (Text × Json) := [("b/*", .str "2"), ("a/b", .str "1")]
    let data : Json := .obj [("modify", .null), ("add", .obj [("require_dev", .obj rules)]),
      ("remove", .obj [("require", .null)])]
    data.isDistinct = true ∧ ∃ d, decode data "" = .ok d ∧ d.passes.map listed =
      [⟨"remove", .delete, [], none⟩,
        ⟨"add", .insertIfAbsent, [(.requireDev, rules)], none⟩] := by
  intro rules data
  have hdistinct : data.isDistinct = true := by decide +kernel
  have hrules : IsRules (.obj rules) := ⟨rules, rfl, by simp [rules]⟩
  have hadd : IsSection false (.obj [("require_dev", .obj rules)]) :=
    ⟨_, rfl, by simpa using SectionEntry.requireDevSpelled (.inr hrules), by decide⟩
  have hremove : IsSection false (.obj [("require", .null)]) :=
    ⟨_, rfl, by simpa using SectionEntry.require (.inl rfl), by decide⟩
  have hdata : IsDirective data :=
    ⟨_, rfl, by simpa using ⟨.modify (.inl rfl), .add (.inr hadd), .remove (.inr hremove)⟩⟩
  obtain ⟨hiff, hlisted⟩ := decodes_exactly_grammar hdistinct ""
  obtain ⟨d, hd⟩ := hiff.2 hdata
  obtain ⟨entries, heq, hpasses⟩ := hlisted d hd
  have hentries : _ = entries := Json.obj.inj heq
  subst hentries
  exact ⟨hdistinct, d, hd, hpasses⟩

end Directive

end ManifestEdit
