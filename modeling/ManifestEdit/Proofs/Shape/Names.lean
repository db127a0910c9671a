import ManifestEdit.Proofs.Shape.Regular

/-!
# Names of a record's fields

Where the names of the fields are apart, each key of a record stands for at most one field. Where
besides no field stands under both of its names, a record tells its fields and its other keys apart
by their keys alone.
-/

namespace ManifestEdit

namespace Shape

/-- Fields no two of which have a name in common. -/
def Apart (fields : List (DeclaredField × Shape)) : Prop :=
  fields.Pairwise fun f g => areApart f.1 g.1 = true

theorem isNamed_iff {f : DeclaredField} {key : Text} :
    isNamed f key = true ↔ f.key = key ∨ f.spelling = key := by
  rw [isNamed, Bool.or_eq_true, decide_eq_true_iff, decide_eq_true_iff]

theorem isNamed_key (f : DeclaredField) : isNamed f f.key = true :=
  isNamed_iff.2 (.inl rfl)

theorem areApart_iff {f g : DeclaredField} :
    areApart f g = true ↔ ∀ key, isNamed g key = true → isNamed f key = false := by
  rw [areApart, Bool.and_eq_true, Bool.not_eq_true', Bool.not_eq_true']
  constructor
  · rintro ⟨hkey, hspelling⟩ key h
    rcases isNamed_iff.1 h with rfl | rfl
    · exact hkey
    · exact hspelling
  · intro h
    exact ⟨h _ (isNamed_iff.2 (.inl rfl)), h _ (isNamed_iff.2 (.inr rfl))⟩

variable {fields : List (DeclaredField × Shape)} {f : DeclaredField × Shape} {key : Text}

theorem mem_of_fieldNamed? (h : fieldNamed? fields key = some f) :
    f ∈ fields ∧ isNamed f.1 key = true := by
  unfold fieldNamed? at h
  exact ⟨List.mem_of_find?_eq_some h, (List.find?_eq_some_iff_append.1 h).1⟩

theorem fieldNamed?_of_mem (hapart : Apart fields) (hf : f ∈ fields)
    (hkey : isNamed f.1 key = true) : fieldNamed? fields key = some f := by
  induction fields with
  | nil => cases hf
  | cons g rest ih =>
    rw [Apart, List.pairwise_cons] at hapart
    rw [fieldNamed?, List.find?_cons]
    rcases List.mem_cons.1 hf with rfl | hf
    · rw [hkey]
    · rw [areApart_iff.1 (hapart.1 f hf) key hkey]
      exact ih hapart.2 hf

theorem fieldNamed?_key (hapart : Apart fields) (hf : f ∈ fields) :
    fieldNamed? fields f.1.key = some f :=
  fieldNamed?_of_mem hapart hf (isNamed_key f.1)

theorem eq_of_isNamed {g : DeclaredField × Shape} (hapart : Apart fields) (hf : f ∈ fields)
    (hg : g ∈ fields) (hfkey : isNamed f.1 key = true) (hgkey : isNamed g.1 key = true) :
    f = g := by
  have h := fieldNamed?_of_mem hapart hf hfkey
  rw [fieldNamed?_of_mem hapart hg hgkey] at h
  exact (Option.some.inj h).symm

theorem not_isNamed_of_fieldNamed? (h : fieldNamed? fields key = none) (hf : f ∈ fields) :
    isNamed f.1 key = false := by
  have hnone := List.find?_eq_none.1 h f hf
  simpa using hnone

/-! ## The order in which keys were read -/

theorem keyFor_eq (hapart : Apart fields) (key : Text) :
    keyFor (fields.map Prod.fst) key =
      ((fieldNamed? fields key).map fun f => f.1.key).getD key := by
  unfold keyFor
  split
  · rename_i g hg
    obtain ⟨f, hf, rfl⟩ := List.mem_map.1 (List.mem_of_find?_eq_some hg)
    have hspelling : f.1.spelling = key := by simpa using List.find?_some hg
    rw [fieldNamed?_of_mem hapart hf (isNamed_iff.2 (.inr hspelling))]
    rfl
  · rename_i hnone
    cases hf : fieldNamed? fields key with
    | none => rfl
    | some f =>
      obtain ⟨hmem, hnamed⟩ := mem_of_fieldNamed? hf
      have hspelling := List.find?_eq_none.1 hnone f.1 (List.mem_map_of_mem hmem)
      rcases isNamed_iff.1 hnamed with h | h
      · exact h.symm
      · exact absurd (decide_eq_true h) hspelling

theorem any_key_keyFor (hapart : Apart fields) (key : Text) :
    ((fields.map Prod.fst).any fun f => f.key = keyFor (fields.map Prod.fst) key) =
      (fieldNamed? fields key).isSome := by
  rw [keyFor_eq hapart]
  cases hf : fieldNamed? fields key with
  | some f =>
    rw [Option.isSome_some, List.any_eq_true]
    exact ⟨f.1, List.mem_map_of_mem (mem_of_fieldNamed? hf).1, decide_eq_true rfl⟩
  | none =>
    rw [Option.isSome_none, List.any_eq_false]
    intro g hg hkey
    obtain ⟨f, hmem, rfl⟩ := List.mem_map.1 hg
    have hnamed : isNamed f.1 key = true := isNamed_iff.2 (.inl (of_decide_eq_true hkey))
    rw [not_isNamed_of_fieldNamed? hf hmem] at hnamed
    cases hnamed

/-- The key under which an entry is remembered. -/
def keyRead? (fields : List (DeclaredField × Shape)) (e : Text × Json) : Option Text :=
  match fieldNamed? fields e.1 with
  | some f => if e.2.isNull then none else some f.1.key
  | none => some e.1

theorem orderOf_eq (hapart : Apart fields) (entries : List (Text × Json)) :
    orderOf (fields.map Prod.fst) entries = entries.filterMap (keyRead? fields) := by
  rw [orderOf]
  refine congrArg (fun g => List.filterMap g entries) (funext fun e => ?_)
  dsimp only
  rw [any_key_keyFor hapart, keyFor_eq hapart, keyRead?]
  cases fieldNamed? fields e.1 with
  | some f => simp
  | none => simp

/-! ## Fields and other keys -/

/-- Whether no field stands under both of its names. -/
def standOnce (fields : List (DeclaredField × Shape)) (entries : List (Text × Json)) : Bool :=
  fields.all fun f =>
    f.1.key = f.1.spelling ||
      !((Entries.keys entries).contains f.1.key && (Entries.keys entries).contains f.1.spelling)

variable {entries : List (Text × Json)}

theorem standOnce_iff : standOnce fields entries = true ↔
    ∀ f ∈ fields, f.1.key ∈ Entries.keys entries → f.1.spelling ∈ Entries.keys entries →
      f.1.key = f.1.spelling := by
  rw [standOnce, List.all_eq_true]
  refine forall_congr' fun f => imp_congr_right fun _ => ?_
  by_cases hkey : f.1.key ∈ Entries.keys entries
  · by_cases hspelling : f.1.spelling ∈ Entries.keys entries
    · simp [hkey, hspelling]
    · simp [hspelling]
  · simp [hkey]

theorem standOnce_of_keys (h : ∀ f ∈ fields, f.1.spelling ∈ Entries.keys entries →
    f.1.key = f.1.spelling) : standOnce fields entries = true :=
  standOnce_iff.2 fun f hf _ hspelling => h f hf hspelling

theorem eq_of_standOnce (honce : standOnce fields entries = true) (hf : f ∈ fields)
    (hkey : f.1.key ∈ Entries.keys entries) (hspelling : f.1.spelling ∈ Entries.keys entries) :
    f.1.key = f.1.spelling :=
  standOnce_iff.1 honce f hf hkey hspelling

theorem find?_eq_some_iff (hnodup : (Entries.keys entries).Nodup)
    (honce : standOnce fields entries = true) (hf : f ∈ fields) {name : Text} {value : Json} :
    f.1.find? entries = some (name, value) ↔
      (name, value) ∈ entries ∧ isNamed f.1 name = true := by
  rw [DeclaredField.find?, isNamed_iff]
  split
  · rename_i v hv
    have hmem := Entries.mem_of_lookup hv
    constructor
    · intro h
      cases h
      exact ⟨hmem, .inl rfl⟩
    · rintro ⟨hentry, hname⟩
      have hkey : f.1.key = name := by
        rcases hname with h | h
        · exact h
        · rw [← h] at hentry ⊢
          exact eq_of_standOnce honce hf (Entries.mem_keys.2 ⟨v, hmem⟩)
            (Entries.mem_keys.2 ⟨value, hentry⟩)
      subst hkey
      rw [Entries.eq_of_mem hnodup hentry hmem]
  · rename_i hnone
    rw [Option.map_eq_some_iff]
    constructor
    · rintro ⟨v, hv, heq⟩
      cases heq
      exact ⟨Entries.mem_of_lookup hv, .inr rfl⟩
    · rintro ⟨hentry, hname⟩
      rcases hname with h | h
      · rw [h] at hnone
        exact absurd (Entries.mem_keys.2 ⟨value, hentry⟩) (Entries.lookup_eq_none_iff.1 hnone)
      · rw [h]
        exact ⟨value, Entries.lookup_of_mem hnodup hentry, rfl⟩

theorem mem_namesRead_iff (hapart : Apart fields) (hnodup : (Entries.keys entries).Nodup)
    (honce : standOnce fields entries = true) {e : Text × Json} (he : e ∈ entries) :
    e.1 ∈ namesRead (fields.map Prod.fst) entries ↔ (fieldNamed? fields e.1).isSome = true := by
  rw [namesRead, List.mem_filterMap]
  constructor
  · rintro ⟨g, hg, hname⟩
    obtain ⟨f, hf, rfl⟩ := List.mem_map.1 hg
    obtain ⟨⟨name, value⟩, hfind, rfl⟩ := Option.map_eq_some_iff.1 hname
    have hnamed := ((find?_eq_some_iff hnodup honce hf).1 hfind).2
    rw [fieldNamed?_of_mem hapart hf hnamed]
    rfl
  · intro h
    obtain ⟨f, hf⟩ := Option.isSome_iff_exists.1 h
    obtain ⟨hmem, hnamed⟩ := mem_of_fieldNamed? hf
    have hfind := (find?_eq_some_iff hnodup honce hmem).2 ⟨he, hnamed⟩
    exact ⟨f.1, List.mem_map_of_mem hmem, by rw [hfind, Option.map_some]⟩

/-- The entries under keys that stand for no field. -/
def others (fields : List (DeclaredField × Shape)) (entries : List (Text × Json)) :
    List (Text × Json) :=
  entries.filter fun e => (fieldNamed? fields e.1).isNone

theorem undeclared_eq (hapart : Apart fields) (hnodup : (Entries.keys entries).Nodup)
    (honce : standOnce fields entries = true) :
    undeclared (fields.map Prod.fst) entries = others fields entries := by
  rw [undeclared, others]
  refine List.filter_congr fun e he => ?_
  have hiff := mem_namesRead_iff hapart hnodup honce he
  cases hf : fieldNamed? fields e.1 with
  | some f =>
    rw [hf] at hiff
    simp [hiff.2 rfl]
  | none =>
    rw [hf] at hiff
    have hnot : e.1 ∉ namesRead (fields.map Prod.fst) entries :=
      fun h => Bool.false_ne_true (hiff.1 h)
    simp [hnot]

theorem unknownOf_eq (hapart : Apart fields) (hnodup : (Entries.keys entries).Nodup)
    (honce : standOnce fields entries = true) :
    unknownOf (fields.map Prod.fst) entries =
      (others fields entries).map fun e => ⟨e.1, e.2, false⟩ := by
  rw [unknownOf, undeclared_eq hapart hnodup honce]
  refine List.map_congr_left fun e he => ?_
  have hnone := Option.isNone_iff_eq_none.1 (List.mem_filter.1 he).2
  have hany : ((fields.map Prod.fst).any fun f => f.spelling = e.1) = false := by
    rw [List.any_eq_false]
    intro g hg hspelling
    obtain ⟨f, hf, rfl⟩ := List.mem_map.1 hg
    have hnamed : isNamed f.1 e.1 = true := isNamed_iff.2 (.inr (of_decide_eq_true hspelling))
    rw [not_isNamed_of_fieldNamed? hnone hf] at hnamed
    cases hnamed
  rw [hany]

end Shape

end ManifestEdit
