import ManifestEdit.Manifest
import ManifestEdit.Proofs.Document.Parts
import ManifestEdit.Proofs.Shape.Paths
import ManifestEdit.Proofs.Shape.Places

/-!
# Lines of a report

Each line of a report starts with the path of the value that failed, the top level as `<root>`,
where the way to that value is clear. Where it is not, the label of a member that was tried can
stand in the path as if it were a key.
-/

namespace ManifestEdit

open Shape

/-- Whether a result is an error can be told, whatever else it might have been. -/
local instance decidableError {ε α : Type} [DecidableEq ε] (x : Except ε α) (e : ε) :
    Decidable (x = .error e) :=
  match x with
  | .ok _ => isFalse nofun
  | .error e' => decidable_of_iff (e' = e) (by rw [Except.error.injEq])

/-! ## Paths -/

theorem isEmpty_foldl_extend {path : Text} (h : path.isEmpty = false) (parts : Place) :
    (parts.foldl PlacePart.extend path).isEmpty = false := by
  induction parts generalizing path with
  | nil => exact h
  | cons p rest ih => exact ih (PlacePart.isEmpty_extend h p)

/-- A place that starts with a key that has a name. -/
def StartsNamed (place : Place) : Prop :=
  ∃ name rest, place = .key name :: rest ∧ name.isEmpty = false

theorem isEmpty_foldl_extend_iff {place : Place} (h : place = [] ∨ StartsNamed place)
    (root : String) :
    (place.parts.foldl PlacePart.extend (root : Text)).isEmpty = true ↔
      place.parts = [] ∧ root = "" := by
  rcases h with rfl | ⟨name, rest, rfl, hname⟩
  · simp [Place.parts, Text.isEmpty, Text.ofString, Text.ofChars]
  · have hparts : Place.parts (.key name :: rest) = .key name :: Place.parts rest := rfl
    have hfirst : ((PlacePart.key name).extend root).isEmpty = false := by
      cases hroot : (root : Text).isEmpty with
      | true => rwa [PlacePart.extend, if_pos hroot]
      | false => exact PlacePart.isEmpty_extend hroot _
    rw [hparts, List.foldl_cons]
    simp [isEmpty_foldl_extend hfirst]

/-- On a clear way a line starts with the path of its value. -/
theorem Failure.line_eq [Glyphs] {data : Json} {f : Failure} (hdistinct : data.isDistinct = true)
    (hclear : data.Clear f.place) (hstart : f.place = [] ∨ StartsNamed f.place) (root : String) :
    f.line data root = f.place.heading root ++ ": " ++ f.cause.message := by
  unfold Failure.line Place.heading
  dsimp only
  rw [pathText_of_clear hdistinct hclear]
  simp only [isEmpty_foldl_extend_iff hstart root]

theorem Failure.mem_report_iff [Glyphs] {data : Json} {root : String} {failures : List Failure}
    {line : String} :
    line ∈ report data root failures ↔ ∃ f ∈ failures, f.line data root = line := by
  rw [report, List.mem_eraseDups, List.mem_map]

namespace Schema

variable {s : Schema} {data : Json} {root : String}

theorem decode_eq_error_iff {e : DocumentError} :
    s.decode data root = .error e ↔
      ∃ failures, s.shape.read data = .error failures ∧
        e = ⟨.invalid data root failures, none⟩ := by
  unfold decode read
  cases hread : s.shape.read data with
  | error failures => simp [eq_comm]
  | ok d =>
    obtain ⟨r, rfl⟩ := exists_record hread
    constructor
    · intro h
      cases h
    · rintro ⟨failures, h, -⟩
      cases h

/-- The place of a failure of a record is its own or starts with the name of a field. -/
theorem startsNamed_of_read {entries : List (Text × Json)} {failures : List Failure}
    (hnames : ∀ g ∈ s.fields, g.1.key.isEmpty = false ∧ g.1.spelling.isEmpty = false)
    (h : s.shape.read (.obj entries) = .error failures) :
    ∀ f ∈ failures, f.place = [] ∨ StartsNamed f.place := by
  intro f hf
  cases recordFailure_of_read h f hf with
  | noText _ _ => exact .inl rfl
  | missing _ _ => exact .inl rfl
  | unknown _ => exact .inl rfl
  | @field g name value inner f hg hfind _ _ _ =>
    refine .inr ⟨name, f.place, rfl, ?_⟩
    rcases isNamed_iff.1 (isNamed_of_find? hfind) with rfl | rfl
    · exact (hnames g hg).1
    · exact (hnames g hg).2

end Schema

namespace Manifest

theorem decode_eq_error_iff {data : Json} {root : String} {e : DocumentError} :
    decode data root = .error e ↔
      ∃ failures, Schema.manifest.shape.read data = .error failures ∧
        e = ⟨.invalid data root failures, none⟩ := by
  rw [← Schema.decode_eq_error_iff, decode]
  cases Schema.manifest.decode data root with
  | ok r => simp [Except.map]
  | error e' => simp [Except.map]

/-- Each line of the report on an object that is no manifest is that of a failure at the value to
which its place leads, and on a clear way it starts with the path of that value. -/
theorem lines_of_decode [Glyphs] {entries : List (Text × Json)}
    (hdistinct : (Json.obj entries).isDistinct = true) {root : String} {e : DocumentError}
    (h : decode (.obj entries) root = .error e) :
    ∃ failures lines, Schema.manifest.shape.read (.obj entries) = .error failures ∧
      e = ⟨.invalid (.obj entries) root failures, none⟩ ∧
      e.message = String.intercalate "; " lines ∧
      (∀ line, line ∈ lines ↔ ∃ f ∈ failures, f.line (.obj entries) root = line) ∧
      ∀ f ∈ failures, f.At (.obj entries) ∧
        ((Json.obj entries).Clear f.place →
          f.line (.obj entries) root = f.place.heading root ++ ": " ++ f.cause.message) := by
  obtain ⟨failures, hread, rfl⟩ := decode_eq_error_iff.1 h
  refine ⟨failures, _, hread, rfl, rfl, fun line => Failure.mem_report_iff, fun f hf => ?_⟩
  have hstart := Schema.startsNamed_of_read (by decide +kernel) hread f hf
  exact ⟨at_of_read _ _ _ hread f hf,
    fun hclear => Failure.line_eq hdistinct hclear hstart root⟩

/-- A list in which a value fails that may also be a text by itself: the path of the value shows its
index, and neither label. -/
theorem lines_of_decode_license :
    let data : Json := .obj [("name", .str "a/b"), ("license", .arr [.bool true])]
    data.isDistinct = true ∧ ∃ e lines, decode data "" = .error e ∧
      e.message = String.intercalate "; " lines ∧
      "license[0]: Input should be a valid string" ∈ lines := by
  intro data
  let f : Failure := ⟨[.key "license", .label "list[str]", .index 0], .notText⟩
  have hdistinct : data.isDistinct = true := by decide +kernel
  have hread : Schema.manifest.shape.read data =
      .error [⟨[.key "license", .label "str"], .notText⟩, f] := by
    decide +kernel
  have hdecode : decode data "" = .error _ := decode_eq_error_iff.2 ⟨_, hread, rfl⟩
  obtain ⟨failures, lines, hfailures, -, hmessage, hlines, hplaces⟩ :=
    lines_of_decode hdistinct hdecode
  rw [hread] at hfailures
  cases hfailures
  have hmem : f ∈ [⟨[.key "license", .label "str"], .notText⟩, f] :=
    List.mem_cons_of_mem _ List.mem_cons_self
  have hclear : data.Clear f.place :=
    .key (v := .arr [.bool true]) (by simp) (by decide)
      (.label (fun entries hj => by cases hj) (.index (i := 0) (v := .bool true) rfl (.here _)))
  have hline := (hplaces f hmem).2 hclear
  have hshown : f.place.heading "" ++ ": " ++ f.cause.message =
      "license[0]: Input should be a valid string" := by
    decide +kernel
  exact ⟨hdistinct, _, lines, hdecode, hmessage, (hlines _).2 ⟨f, hmem, hline.trans hshown⟩⟩

/-- Where the value holds a key of the same name as a label, the label stands in the path: the line
names a value that did not fail. -/
theorem exists_label_shown :
    ∃ (entries : List (Text × Json)) (failures : List Failure) (f : Failure),
      (Json.obj entries).isDistinct = true ∧
      Schema.manifest.shape.read (.obj entries) = .error failures ∧ f ∈ failures ∧
      f.place.heading "" = "license" ∧
      f.line (.obj entries) "" = "license.str: Input should be a valid string" ∧
      ∃ e, decode (.obj entries) "" = .error e ∧
        e.message = String.intercalate "; " ["license.str: Input should be a valid string",
          "license: Input should be a valid list"] := by
  have hread : Schema.manifest.shape.read
      (.obj [("name", .str "a/b"), ("license", .obj [("str", .str "MIT")])]) =
        .error [⟨[.key "license", .label "str"], .notText⟩,
          ⟨[.key "license", .label "list[str]"], .notList⟩] := by
    decide +kernel
  refine ⟨_, _, ⟨[.key "license", .label "str"], .notText⟩, ?_, hread, List.mem_cons_self, ?_, ?_,
    _, decode_eq_error_iff.2 ⟨_, hread, rfl⟩, ?_⟩
  all_goals decide +kernel

end Manifest

end ManifestEdit
