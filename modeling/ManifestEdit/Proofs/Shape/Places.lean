import ManifestEdit.Proofs.Document.Writing
import ManifestEdit.Proofs.Shape.Rewritten

/-!
# The places of failures

The place of a failure leads to a value that is wrong in the way said. Its path is shown without the
labels of the members tried, as long as the way is clear: a label that is also a key of the object
at which it stands is taken for that key, and the repaired form of a key is not found.
-/

namespace ManifestEdit

/-! ## Places -/

namespace PlacePart

def isLabel : PlacePart → Bool
  | label _ => true
  | _ => false

/-- What a part selects of a value: the value of a key, or an item by its index. A label selects as
the key of the same name. -/
inductive Selects : PlacePart → Json → Json → Prop where
  | key {fields : List (Text × Json)} {name : Text} {v : Json} :
    fields.lookup name = some v → Selects (.key name) (.obj fields) v
  | label {fields : List (Text × Json)} {name : String} {v : Json} :
    fields.lookup (name : Text) = some v → Selects (.label name) (.obj fields) v
  | index {items : List Json} {i : Nat} {v : Json} :
    items[i]? = some v → Selects (.index i) (.arr items) v

theorem step?_eq_some_iff {p : PlacePart} {j v : Json} :
    p.step? j = some v ↔ p.Selects j v := by
  constructor
  · intro h
    unfold step? at h
    split at h
    · exact .key h
    · exact .label h
    · split at h
      · rename_i place items hplace
        obtain ⟨i, rfl⟩ := Int.eq_ofNat_of_zero_le hplace
        exact .index h
      · cases h
    · cases h
  · intro h
    cases h with
    | key h => exact h
    | label h => exact h
    | @index items i v h => rw [step?, if_pos (Int.natCast_nonneg i), Int.toNat_natCast, h]

theorem step?_eq_none_iff {p : PlacePart} {j : Json} :
    p.step? j = none ↔ ∀ v, ¬ p.Selects j v := by
  simp only [Option.eq_none_iff_forall_ne_some, ne_eq, step?_eq_some_iff]

end PlacePart

namespace Place

/-- The path of the value to which a place leads: what is no label. -/
def parts (place : Place) : Place :=
  place.filter fun p => !p.isLabel

/-- The path as a line of a report starts with it. -/
def heading (place : Place) (root : String) : String :=
  if place.parts = [] ∧ root = "" then "<root>"
  else (place.parts.foldl PlacePart.extend (root : Text)).readable

end Place

namespace Json

/-- Where a place leads in a value. A label stays where it is, and keys are named in their repaired
form. -/
inductive Leads : Json → Place → Json → Prop where
  | here (j : Json) : Leads j [] j
  | key {entries : List (Text × Json)} {k : Text} {v w : Json} {rest : Place} :
    (k, v) ∈ entries → Leads v rest w → Leads (.obj entries) (.key k.repaired :: rest) w
  | index {items : List Json} {i : Nat} {v w : Json} {rest : Place} :
    items[i]? = some v → Leads v rest w → Leads (.arr items) (.index i :: rest) w
  | label {j w : Json} {name : String} {rest : Place} :
    Leads j rest w → Leads j (.label name :: rest) w

/-- A way on which no label is a key of the object at which it stands, and every key is whole. -/
inductive Clear : Json → Place → Prop where
  | here (j : Json) : Clear j []
  | key {entries : List (Text × Json)} {k : Text} {v : Json} {rest : Place} :
    (k, v) ∈ entries → k.isWhole = true → Clear v rest → Clear (.obj entries) (.key k :: rest)
  | index {items : List Json} {i : Nat} {v : Json} {rest : Place} :
    items[i]? = some v → Clear v rest → Clear (.arr items) (.index i :: rest)
  | label {j : Json} {name : String} {rest : Place} :
    (∀ entries, j = .obj entries → (name : Text) ∉ Entries.keys entries) → Clear j rest →
      Clear j (.label name :: rest)

end Json

theorem PlacePart.step?_label {j : Json} {name : String}
    (h : ∀ entries, j = .obj entries → (name : Text) ∉ Entries.keys entries) :
    (PlacePart.label name).step? j = none := by
  cases j with
  | obj entries => exact Entries.lookup_eq_none_iff.2 (h entries rfl)
  | _ => rfl

/-- On a clear way exactly the labels are left out. -/
theorem pathText_of_clear {j : Json} {place : Place} (hdistinct : j.isDistinct = true)
    (h : j.Clear place) (root : Text) :
    pathText place j root = place.parts.foldl PlacePart.extend root := by
  induction h generalizing root with
  | here j => rfl
  | @key entries k v rest hmem _ _ ih =>
    obtain ⟨hnodup, hvalues⟩ := Json.isDistinct_obj.1 hdistinct
    have hselects := PlacePart.Selects.key (Entries.lookup_of_mem hnodup hmem)
    rw [pathText, PlacePart.step?_eq_some_iff.2 hselects]
    exact ih (hvalues _ hmem) _
  | @index items i v rest hitem _ ih =>
    rw [pathText, PlacePart.step?_eq_some_iff.2 (.index hitem)]
    exact ih (Json.isDistinct_arr.1 hdistinct v (List.mem_of_getElem? hitem)) _
  | label hother _ ih =>
    rw [pathText, PlacePart.step?_label hother]
    exact ih hdistinct root

/-! ## What is wrong -/

/-- Whether a value is wrong in the way said. -/
def Cause.Fits : Cause → Json → Prop
  | missing key, j => ∃ entries, j = .obj entries ∧ key ∉ Entries.keys entries
  | unknown key, j => ∃ entries, j = .obj entries ∧ key ∈ Entries.keys entries
  | notText, j => ∀ t, j ≠ .str t
  | notFlag, j => ∀ b, j ≠ .bool b
  | notInteger, j => ∀ i, j ≠ .num (.int i)
  | negative, j => ∃ i < 0, j = .num (.int i)
  | notList, j => ∀ items, j ≠ .arr items
  | notMap, j => ∀ entries, j ≠ .obj entries
  | notRecord _, j => ∀ entries, j ≠ .obj entries
  | notWord words, j => ∀ w ∈ words, j ≠ .str w
  | notOff, j => j ≠ .bool false ∧ ∀ n, j = .num n → n.isZero = false
  | noText, j => (∃ t, j = .str t ∧ t.isWhole = false) ∨
      ∃ entries, j = .obj entries ∧ ∃ e ∈ entries, e.1.isWhole = false
  | notTextKey _, _ => False

/-- A failure whose place leads to a value that is wrong in the way said. -/
def Failure.At (j : Json) (f : Failure) : Prop :=
  ∃ v, j.Leads f.place v ∧ f.cause.Fits v

namespace Failure.At

variable {f : Failure}

theorem key {entries : List (Text × Json)} {k : Text} {v : Json} (hmem : (k, v) ∈ entries)
    (h : f.At v) : (f.under (.key k.repaired)).At (.obj entries) := by
  obtain ⟨w, hleads, hfits⟩ := h
  exact ⟨w, .key hmem hleads, hfits⟩

theorem index {items : List Json} {i : Nat} {v : Json} (hitem : items[i]? = some v)
    (h : f.At v) : (f.under (.index i)).At (.arr items) := by
  obtain ⟨w, hleads, hfits⟩ := h
  exact ⟨w, .index hitem hleads, hfits⟩

theorem label {j : Json} (h : f.At j) (name : String) : (f.under (.label name)).At j := by
  obtain ⟨w, hleads, hfits⟩ := h
  exact ⟨w, .label hleads, hfits⟩

end Failure.At

/-! ## Failed readings -/

namespace Reading

variable {α : Type}

theorem of_fail {cause : Cause} {failures : List Failure}
    (h : (fail cause : Reading α) = .error failures) : failures = [⟨[], cause⟩] := by
  cases h
  rfl

theorem mem_of_under {part : PlacePart} {r : Reading α} {failures : List Failure}
    (h : under part r = .error failures) {f : Failure} (hf : f ∈ failures) :
    ∃ inner, r = .error inner ∧ ∃ g ∈ inner, f = g.under part := by
  cases r with
  | ok a => cases h
  | error inner =>
    cases h
    obtain ⟨g, hg, rfl⟩ := List.mem_map.1 hf
    exact ⟨inner, rfl, g, hg, rfl⟩

/-- Every failure of several readings is one of theirs. -/
theorem mem_of_all {rs : List (Reading α)} {failures : List Failure}
    (h : all rs = .error failures) {f : Failure} (hf : f ∈ failures) :
    ∃ inner, .error inner ∈ rs ∧ f ∈ inner := by
  induction rs generalizing failures with
  | nil => cases h
  | cons r rest ih =>
    unfold all at h
    split at h
    · cases h
    · rename_i a failures hrest
      cases h
      obtain ⟨inner, hinner, hf⟩ := ih hrest hf
      exact ⟨inner, List.mem_cons_of_mem _ hinner, hf⟩
    · rename_i as _ _
      cases h
      exact ⟨failures, List.mem_cons_self, hf⟩
    · rename_i first more hrest
      cases h
      rcases List.mem_append.1 hf with hf | hf
      · exact ⟨first, List.mem_cons_self, hf⟩
      · obtain ⟨inner, hinner, hf⟩ := ih hrest hf
        exact ⟨inner, List.mem_cons_of_mem _ hinner, hf⟩

/-- Every failure of the readings of parts is one of a part, under its place. -/
theorem exists_part_of_all {β : Type} {parts : List β} (part : β → PlacePart)
    (reading : β → Reading α) {failures : List Failure}
    (h : all (parts.map fun b => under (part b) (reading b)) = .error failures) {f : Failure}
    (hf : f ∈ failures) :
    ∃ b ∈ parts, ∃ inner, reading b = .error inner ∧ ∃ g ∈ inner, f = g.under (part b) := by
  obtain ⟨inner, hinner, hf⟩ := mem_of_all h hf
  obtain ⟨b, hb, hunder⟩ := List.mem_map.1 hinner
  exact ⟨b, hb, mem_of_under hunder hf⟩

end Reading

namespace Shape

theorem at_of_fail {α : Type} {cause : Cause} {j : Json} {failures : List Failure}
    (h : (Reading.fail cause : Reading α) = .error failures) (hfits : cause.Fits j) :
    ∀ f ∈ failures, f.At j := by
  intro f hf
  rw [Reading.of_fail h, List.mem_singleton] at hf
  rw [hf]
  exact ⟨j, .here j, hfits⟩

theorem at_readCount {j : Json} {failures : List Failure} (h : readCount j = .error failures) :
    ∀ f ∈ failures, f.At j := by
  unfold readCount at h
  split at h
  · rename_i i
    split at h
    · cases h
    · rename_i hneg
      exact at_of_fail h ⟨i, by omega, rfl⟩
  · rename_i hother
    exact at_of_fail h hother

theorem at_readOff {j : Json} {failures : List Failure} (h : readOff j = .error failures) :
    ∀ f ∈ failures, f.At j := by
  unfold readOff at h
  split at h
  · cases h
  · rename_i n
    split at h
    · cases h
    · rename_i hzero
      refine at_of_fail h ⟨Json.noConfusion, fun m hm => ?_⟩
      cases hm
      exact Bool.eq_false_iff.2 hzero
  · rename_i hbool hnum
    exact at_of_fail h ⟨hbool, fun n hn => absurd hn (hnum n)⟩

theorem isWhole_of_string? {t : Text} (h : t.string? = none) : t.isWhole = false := by
  rw [Bool.eq_false_iff]
  intro hwhole
  rw [← Text.repaired_of_isWhole hwhole, Text.repaired, Text.string?_ofString] at h
  cases h

theorem at_readWord {words : List String} {j : Json} {failures : List Failure}
    (h : readWord words j = .error failures) : ∀ f ∈ failures, f.At j := by
  unfold readWord at h
  split at h
  · rename_i t
    split at h
    · rename_i w hw
      split at h
      · cases h
      · rename_i hother
        refine at_of_fail h fun v hv heq => hother ?_
        cases heq
        rw [Text.string?_ofString, Option.some.injEq] at hw
        subst hw
        exact List.contains_iff_mem.2 hv
    · rename_i hnone
      exact at_of_fail h (.inl ⟨t, rfl, isWhole_of_string? hnone⟩)
  · rename_i hother
    exact at_of_fail h fun w _ => hother w

/-- A failure of a choice is one of a member, under its label. -/
theorem mem_of_readMembers {members : List (String × Shape)} {j : Json} {failures : List Failure}
    (h : readMembers members j = .error failures) {f : Failure} (hf : f ∈ failures) :
    ∃ m ∈ members, ∃ inner, m.2.read j = .error inner ∧
      ∃ g ∈ inner, f = g.under (.label m.1) := by
  induction members generalizing failures with
  | nil =>
    cases h
    cases hf
  | cons m rest ih =>
    obtain ⟨label, s⟩ := m
    rw [readMembers] at h
    split at h
    · cases h
    · rename_i first hfirst
      split at h
      · cases h
      · rename_i more hmore
        cases h
        rcases List.mem_append.1 hf with hf | hf
        · exact ⟨_, List.mem_cons_self, Reading.mem_of_under hfirst hf⟩
        · obtain ⟨n, hn, hrest⟩ := ih hmore hf
          exact ⟨n, List.mem_cons_of_mem _ hn, hrest⟩

/-! ## Failures of a record -/

/-- What may be wrong with the entries of a record. -/
inductive RecordFailure (fields : List (DeclaredField × Shape)) (entries : List (Text × Json)) :
    Failure → Prop where
  | noText {e : Text × Json} : e ∈ entries → e.1.isWhole = false →
    RecordFailure fields entries ⟨[], .noText⟩
  | missing {g : DeclaredField × Shape} : g ∈ fields → g.1.find? entries = none →
    RecordFailure fields entries ⟨[], .missing g.1.key⟩
  | field {g : DeclaredField × Shape} {name : Text} {value : Json} {inner : List Failure}
    {f : Failure} : g ∈ fields → g.1.find? entries = some (name, value) → name.isWhole = true →
    g.2.read value = .error inner → f ∈ inner →
    RecordFailure fields entries (f.under (.key name))
  | unknown {e : Text × Json} : e ∈ entries → RecordFailure fields entries ⟨[], .unknown e.1⟩

variable {fields : List (DeclaredField × Shape)} {entries : List (Text × Json)}

theorem mem_of_assemble {closed : Bool} {declared : List DeclaredField}
    {values : Reading (List (Option (Text × Document)))} {failures : List Failure}
    (h : assemble closed declared entries values = .error failures) {f : Failure}
    (hf : f ∈ failures) :
    (∃ inner, values = .error inner ∧ f ∈ inner) ∨ ∃ e ∈ entries, f = ⟨[], .unknown e.1⟩ := by
  have hextra : ∀ {g : Failure}, g ∈ (if closed = true then
      (undeclared declared entries).map fun e => (⟨[], .unknown e.1⟩ : Failure) else []) →
      ∃ e ∈ entries, g = ⟨[], .unknown e.1⟩ := by
    intro g hg
    split at hg
    · obtain ⟨e, he, rfl⟩ := List.mem_map.1 hg
      exact ⟨e, (List.mem_filter.1 he).1, rfl⟩
    · cases hg
  unfold assemble at h
  dsimp only at h
  split at h
  · cases h
  · cases h
    exact .inr (hextra hf)
  · rename_i inner
    cases h
    rcases List.mem_append.1 hf with hf | hf
    · exact .inl ⟨inner, rfl, hf⟩
    · exact .inr (hextra hf)

theorem recordFailure_of_readField {g : DeclaredField × Shape} (hg : g ∈ fields)
    (hwhole : ∀ e ∈ entries, e.1.isWhole = true) {inner : List Failure}
    (h : readField entries g = .error inner) : ∀ f ∈ inner, RecordFailure fields entries f := by
  intro f hf
  unfold readField at h
  split at h
  · rename_i hnone
    split at h
    · rw [Reading.of_fail h, List.mem_singleton] at hf
      rw [hf]
      exact .missing hg hnone
    · cases h
  · rename_i name value hfind
    split at h
    · cases h
    · split at h
      · cases h
      · rename_i failures hfailures
        cases h
        obtain ⟨more, hmore, f, hmem, rfl⟩ := Reading.mem_of_under hfailures hf
        exact .field hg hfind (hwhole _ (mem_of_find? hfind)) hmore hmem

theorem recordFailure_of_read {name : String} {closed : Bool} {failures : List Failure}
    (h : (record name closed fields).read (.obj entries) = .error failures) :
    ∀ f ∈ failures, RecordFailure fields entries f := by
  intro f hf
  rw [read] at h
  split at h
  · rename_i hall
    have hwhole := List.all_eq_true.1 hall
    rcases mem_of_assemble h hf with ⟨inner, hinner, hf⟩ | ⟨e, he, rfl⟩
    · rw [readFields_eq_map] at hinner
      obtain ⟨more, hmore, hf⟩ := Reading.mem_of_all hinner hf
      obtain ⟨g, hg, hfield⟩ := List.mem_map.1 hmore
      exact recordFailure_of_readField hg hwhole hfield f hf
    · exact .unknown he
  · rename_i hall
    obtain ⟨e, he, hhalf⟩ : ∃ e ∈ entries, ¬ e.1.isWhole = true := by simpa using hall
    rw [Reading.of_fail h, List.mem_singleton] at hf
    rw [hf]
    exact .noText he (Bool.eq_false_iff.2 hhalf)

theorem RecordFailure.at {f : Failure} (h : RecordFailure fields entries f)
    (hfields : ∀ g ∈ fields, ∀ j failures, g.2.read j = .error failures →
      ∀ f ∈ failures, f.At j) : f.At (.obj entries) := by
  cases h with
  | noText he hhalf => exact ⟨_, .here _, .inr ⟨entries, rfl, _, he, hhalf⟩⟩
  | @missing g hg hnone =>
    have hkey : g.1.key ∉ Entries.keys entries := by
      intro hmem
      obtain ⟨value, hfind⟩ := exists_find?_of_key hmem
      rw [hnone] at hfind
      cases hfind
    exact ⟨_, .here _, entries, rfl, hkey⟩
  | field hg hfind hwhole hread hf =>
    have hplaced := (hfields _ hg _ _ hread _ hf).key (mem_of_find? hfind)
    rwa [Text.repaired_of_isWhole hwhole] at hplaced
  | @unknown e he => exact ⟨_, .here _, entries, rfl, Entries.mem_keys.2 ⟨e.2, he⟩⟩

/-- Every failure is at the value to which its place leads. The proof is by induction on the shape:
a part of the place is added for each part of the value. -/
theorem at_of_read (s : Shape) :
    ∀ j failures, s.read j = .error failures → ∀ f ∈ failures, f.At j := by
  induction s using induct with
  | anything => exact fun j failures h => by cases h
  | text =>
    intro j failures h
    cases j with
    | str t => cases h
    | _ => exact at_of_fail h fun t => Json.noConfusion
  | flag =>
    intro j failures h
    cases j with
    | bool b => cases h
    | _ => exact at_of_fail h fun b => Json.noConfusion
  | count => exact fun j failures h => at_readCount h
  | word words => exact fun j failures h => at_readWord h
  | off => exact fun j failures h => at_readOff h
  | list item ih =>
    intro j failures h
    cases j with
    | arr items =>
      rw [read] at h
      split at h
      · cases h
      · rename_i hall
        cases h
        intro f hf
        obtain ⟨⟨v, i⟩, hitem, inner, hinner, g, hg, rfl⟩ :=
          Reading.exists_part_of_all (fun p : Json × Nat => .index p.2)
            (fun p => item.read p.1) hall hf
        exact (ih v inner hinner g hg).index (List.mem_zipIdx_iff_getElem?.1 hitem)
    | _ => exact at_of_fail h fun items => Json.noConfusion
  | map value ih =>
    intro j failures h
    cases j with
    | obj entries =>
      rw [read] at h
      split at h
      · cases h
      · rename_i hall
        cases h
        intro f hf
        obtain ⟨e, he, inner, hinner, g, hg, rfl⟩ :=
          Reading.exists_part_of_all (fun e : Text × Json => .key e.1.repaired)
            (fun e => value.read e.2) hall hf
        exact (ih e.2 inner hinner g hg).key he
    | _ => exact at_of_fail h fun entries => Json.noConfusion
  | oneOf members ih =>
    intro j failures h
    rw [read] at h
    split at h
    · cases h
    · rename_i hmembers
      cases h
      intro f hf
      obtain ⟨m, hm, inner, hinner, g, hg, rfl⟩ := mem_of_readMembers hmembers hf
      exact (ih m hm j inner hinner g hg).label m.1
  | record name closed fields ih =>
    intro j failures h
    cases j with
    | obj entries =>
      intro f hf
      exact (recordFailure_of_read h f hf).at ih
    | _ => exact at_of_fail h fun entries => Json.noConfusion

end Shape

end ManifestEdit
