import ManifestEdit.Document
import Mathlib.Data.List.Forall2

/-!
# Documents with the same content

Documents with the same content hold equal values, equal keys that are not declared and, in lists
and maps, their parts in the same order. The order in which the keys of a record were read is left
out.
-/

namespace ManifestEdit

namespace Document

/-- Related documents under one key. -/
inductive SameEntry (R : Document → Document → Prop) :
    Text × Document → Text × Document → Prop where
  | mk {key : Text} {d e : Document} (value : R d e) : SameEntry R (key, d) (key, e)

inductive SameContent : Document → Document → Prop where
  | leaf (value : Json) : SameContent (.leaf value) (.leaf value)
  | list {ds es : List Document} (items : List.Forall₂ SameContent ds es) :
    SameContent (.list ds) (.list es)
  | map {ds es : List (Text × Document)} (entries : List.Forall₂ (SameEntry SameContent) ds es) :
    SameContent (.map ds) (.map es)
  | choice {d e : Document} (value : SameContent d e) : SameContent (.choice d) (.choice e)
  | record {fs gs : List (Text × Document)} {us vs : List Unknown} {o p : List Text}
    (fields : List.Forall₂ (SameEntry SameContent) fs gs) (unknown : us.Perm vs) :
    SameContent (.record fs us o) (.record gs vs p)

theorem SameEntry.iff {R : Document → Document → Prop} {a b : Text × Document} :
    SameEntry R a b ↔ a.1 = b.1 ∧ R a.2 b.2 := by
  constructor
  · rintro ⟨h⟩
    exact ⟨rfl, h⟩
  · obtain ⟨key, d⟩ := a
    rintro ⟨rfl, h⟩
    exact ⟨h⟩

theorem exists_mem_of_forall₂ {α β : Type} {R : α → β → Prop} {as : List α} {bs : List β}
    (h : List.Forall₂ R as bs) : ∀ a ∈ as, ∃ b ∈ bs, R a b := by
  induction h with
  | nil => exact fun a ha => absurd ha List.not_mem_nil
  | cons hab _ ih =>
    refine List.forall_mem_cons.2 ⟨⟨_, List.mem_cons_self, hab⟩, fun a ha => ?_⟩
    obtain ⟨b, hb, hr⟩ := ih a ha
    exact ⟨b, List.mem_cons_of_mem _ hb, hr⟩

/-- Maps under the same keys are related as their values are. -/
theorem sameEntries_zip_iff {R : Document → Document → Prop} {keys : List Text}
    {ds es : List Document} (hds : keys.length = ds.length) (hes : keys.length = es.length) :
    List.Forall₂ (SameEntry R) (keys.zip ds) (keys.zip es) ↔ List.Forall₂ R ds es := by
  induction keys generalizing ds es with
  | nil =>
    rw [List.eq_nil_of_length_eq_zero hds.symm, List.eq_nil_of_length_eq_zero hes.symm]
    exact ⟨fun _ => .nil, fun _ => .nil⟩
  | cons key rest ih =>
    cases ds with
    | nil => cases hds
    | cons d ds =>
      cases es with
      | nil => cases hes
      | cons e es =>
        rw [List.zip_cons_cons, List.zip_cons_cons, List.forall₂_cons, List.forall₂_cons,
          SameEntry.iff, ih (Nat.succ.inj hds) (Nat.succ.inj hes)]
        exact and_congr_left fun _ => ⟨And.right, fun h => ⟨rfl, h⟩⟩

/-- Records with the same content have the same other keys. -/
theorem SameContent.perm_unknownKeys {r s : Record}
    (h : SameContent r.toDocument s.toDocument) : r.unknownKeys.Perm s.unknownKeys := by
  cases h with
  | record _ unknown => exact unknown.map Unknown.key

/-! ## Documents without records -/

/-- A document in which there is no record and no choice. -/
inductive Bare : Document → Prop where
  | leaf (value : Json) : Bare (.leaf value)
  | list {ds : List Document} (items : ∀ d ∈ ds, Bare d) : Bare (.list ds)
  | map {ds : List (Text × Document)} (entries : ∀ e ∈ ds, Bare e.2) : Bare (.map ds)

theorem Bare.of_sameContent {e : Document} (h : Bare e) :
    ∀ {d : Document}, d.SameContent e → Bare d := by
  induction h with
  | leaf value =>
    rintro _ ⟨⟩
    exact .leaf value
  | list _ ih =>
    rintro _ ⟨⟩
    rename_i items
    refine .list fun d hd => ?_
    obtain ⟨e, he, hsame⟩ := exists_mem_of_forall₂ items d hd
    exact ih e he hsame
  | map _ ih =>
    rintro _ ⟨⟩
    rename_i entries
    refine .map fun d hd => ?_
    obtain ⟨e, he, hsame⟩ := exists_mem_of_forall₂ entries d hd
    exact ih e he (SameEntry.iff.1 hsame).2

end Document

end ManifestEdit
