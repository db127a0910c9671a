import ManifestEdit.Proofs.Document.Parts
import Mathlib.Data.List.Forall2

/-!
# Objects with their keys in another order

A record is read from its object key by key, so the order of the keys shows only where the keys that
are no fields are kept or reported. `Json.Shuffled` permutes the keys of an object and relates what
stands under them; `agree_read_record` lifts a relation between the readings of the fields to the
readings of the records.
-/

namespace ManifestEdit

/-- Both succeed, with related results, or both fail, with related errors. -/
inductive Agree {ε α : Type} (E : ε → ε → Prop) (S : α → α → Prop) :
    Except ε α → Except ε α → Prop where
  | ok {a b : α} (h : S a b) : Agree E S (.ok a) (.ok b)
  | error {e f : ε} (h : E e f) : Agree E S (.error e) (.error f)

namespace Agree

variable {ε α : Type} {E : ε → ε → Prop} {S : α → α → Prop} {x y : Except ε α}

theorem of_eq (hE : ∀ e, E e e) (hS : ∀ a, x = .ok a → S a a) : Agree E S x x := by
  cases x with
  | ok a => exact .ok (hS a rfl)
  | error e => exact .error (hE e)

theorem of_ok {a b : α} (h : Agree E S (.ok a) (.ok b)) : S a b := by
  cases h with
  | ok h => exact h

theorem map {β : Type} {T : β → β → Prop} {f : α → β} (h : Agree E S x y)
    (hf : ∀ {a b}, S a b → T (f a) (f b)) : Agree E T (x.map f) (y.map f) := by
  cases h with
  | ok h => exact .ok (hf h)
  | error h => exact .error h

end Agree

/-! ## Shuffled objects -/

/-- Related values under one key. -/
def SameKey {α : Type} (R : α → α → Prop) (e e' : Text × α) : Prop :=
  e.1 = e'.1 ∧ R e.2 e'.2

theorem eq_of_sameKeys {α : Type} {entries other : List (Text × α)}
    (h : List.Forall₂ (SameKey Eq) entries other) : entries = other := by
  rw [← List.forall₂_eq_eq_eq]
  exact h.imp fun _ _ hsame => Prod.ext hsame.1 hsame.2

namespace Entries

/-- The entries in another order, with related values; no key stands twice. -/
structure Shuffled (R : Json → Json → Prop) (entries other : List (Text × Json)) : Prop where
  distinct : (keys entries).Nodup
  perm : ∃ moved, entries.Perm moved ∧ List.Forall₂ (SameKey R) moved other

theorem lookup_forall₂ {α : Type} {R : α → α → Prop} {entries other : List (Text × α)}
    (h : List.Forall₂ (SameKey R) entries other) (key : Text) :
    Option.Rel R (entries.lookup key) (other.lookup key) := by
  induction h with
  | nil => exact .none
  | @cons e e' rest rest' hhead _ ih =>
    obtain ⟨k, v⟩ := e
    obtain ⟨k', v'⟩ := e'
    obtain ⟨rfl, hvalue⟩ := hhead
    rw [lookup_cons_eq, lookup_cons_eq]
    split
    · exact .some hvalue
    · exact ih

theorem keys_forall₂ {R : Json → Json → Prop} {entries other : List (Text × Json)}
    (h : List.Forall₂ (SameKey R) entries other) : keys entries = keys other := by
  induction h with
  | nil => rfl
  | cons hhead _ ih => exact congrArg₂ List.cons hhead.1 ih

theorem filter_forall₂ {R : Json → Json → Prop} {entries other : List (Text × Json)}
    (h : List.Forall₂ (SameKey R) entries other) (keep : Text → Bool) :
    List.Forall₂ (SameKey R) (entries.filter fun e => keep e.1)
      (other.filter fun e => keep e.1) := by
  induction h with
  | nil => exact .nil
  | cons hhead _ ih =>
    rw [List.filter_cons, List.filter_cons, ← hhead.1]
    split
    · exact .cons hhead ih
    · exact ih

namespace Shuffled

variable {R : Json → Json → Prop} {entries other : List (Text × Json)}

/-- Under each key related values are found. -/
theorem lookup (h : Shuffled R entries other) (key : Text) :
    Option.Rel R (entries.lookup key) (other.lookup key) := by
  obtain ⟨moved, hperm, hrel⟩ := h.perm
  rw [lookup_perm h.distinct hperm]
  exact lookup_forall₂ hrel key

theorem perm_keys (h : Shuffled R entries other) : (keys entries).Perm (keys other) := by
  obtain ⟨moved, hperm, hrel⟩ := h.perm
  exact keys_forall₂ hrel ▸ hperm.map Prod.fst

theorem distinct_right (h : Shuffled R entries other) : (keys other).Nodup :=
  h.perm_keys.nodup_iff.1 h.distinct

theorem filter (h : Shuffled R entries other) (keep : Text → Bool) :
    Shuffled R (entries.filter fun e => keep e.1) (other.filter fun e => keep e.1) := by
  obtain ⟨moved, hperm, hrel⟩ := h.perm
  exact ⟨(List.filter_sublist.map Prod.fst).nodup h.distinct, _, hperm.filter _,
    filter_forall₂ hrel keep⟩

/-- Entries with equal values are permuted. -/
theorem perm_of_eq (h : Shuffled Eq entries other) : entries.Perm other := by
  obtain ⟨moved, hperm, hrel⟩ := h.perm
  exact eq_of_sameKeys hrel ▸ hperm

end Shuffled

end Entries

namespace Json

/-- An object with its keys in another order and related values under them, or the same value. -/
inductive Shuffled (R : Json → Json → Prop) : Json → Json → Prop where
  | same (j : Json) : Shuffled R j j
  | obj {entries other : List (Text × Json)} (h : Entries.Shuffled R entries other) :
    Shuffled R (.obj entries) (.obj other)

theorem Shuffled.isNull_eq {R : Json → Json → Prop} {j j' : Json} (h : Shuffled R j j') :
    j.isNull = j'.isNull := by
  cases h <;> rfl

/-- Values through which every path is shown alike. -/
def SamePaths (j j' : Json) : Prop :=
  ∀ place path, pathText place j path = pathText place j' path

theorem SamePaths.of_eq {j j' : Json} (h : j = j') : j.SamePaths j' :=
  fun _ _ => h ▸ rfl

/-- Paths through values that lead on alike are shown alike. -/
theorem Shuffled.samePaths {R : Json → Json → Prop} (hR : ∀ {v v'}, R v v' → v.SamePaths v')
    {j j' : Json} (h : Shuffled R j j') : j.SamePaths j' := by
  intro place path
  cases h with
  | same => rfl
  | @obj entries other h =>
    induction place generalizing path with
    | nil => rfl
    | cons part rest ih =>
      have hstep : Option.Rel R (part.step? (.obj entries)) (part.step? (.obj other)) := by
        cases part with
        | key name => exact h.lookup name
        | label name => exact h.lookup name
        | index place => exact .none
      rw [pathText, pathText]
      revert hstep
      cases part.step? (.obj entries) <;> cases part.step? (.obj other) <;> intro hstep
      · exact ih path
      · cases hstep
      · cases hstep
      · cases hstep with
        | some hchild => exact hR hchild rest _

end Json

/-! ## Readings that agree -/

/-- The same failures in some order. -/
abbrev Reading.Agree {α : Type} (S : α → α → Prop) : Reading α → Reading α → Prop :=
  ManifestEdit.Agree List.Perm S

namespace Reading.Agree

variable {α : Type} {S : α → α → Prop} {r r' : Reading α}

theorem under (h : Reading.Agree S r r') (part : PlacePart) :
    Reading.Agree S (Reading.under part r) (Reading.under part r') := by
  cases h with
  | ok h => exact .ok h
  | error h => exact .error (h.map _)

theorem all {rs rs' : List (Reading α)} (h : List.Forall₂ (Reading.Agree S) rs rs') :
    Reading.Agree (List.Forall₂ S) (Reading.all rs) (Reading.all rs') := by
  induction h with
  | nil => exact .ok .nil
  | @cons r r' rest rest' hhead _ ih =>
    unfold Reading.all
    generalize Reading.all rest = more at ih ⊢
    generalize Reading.all rest' = more' at ih ⊢
    cases hhead with
    | ok hvalue =>
      cases ih with
      | ok hvalues => exact .ok (.cons hvalue hvalues)
      | error hfailures => exact .error hfailures
    | error hfailure =>
      cases ih with
      | ok hvalues => exact .error hfailure
      | error hfailures => exact .error (hfailure.append hfailures)

end Reading.Agree

namespace Document

/-- Records with related fields and the same keys besides; the order in which the keys were read is
left out. -/
inductive Shuffled (S : Document → Document → Prop) : Document → Document → Prop where
  | record {fields others : List (Text × Document)} {unknown unknown' : List Unknown}
    {order order' : List Text} (same : List.Forall₂ (SameKey S) fields others)
    (perm : unknown.Perm unknown') :
    Shuffled S (.record fields unknown order) (.record others unknown' order')

namespace Shuffled

variable {S : Document → Document → Prop} {r r' : Record}

theorem field? (h : Shuffled S r.toDocument r'.toDocument) (key : Text) :
    Option.Rel S (r.field? key) (r'.field? key) := by
  cases h with
  | record same _ => exact Entries.lookup_forall₂ same key

theorem perm_unknown (h : Shuffled S r.toDocument r'.toDocument) :
    r.unknown.Perm r'.unknown := by
  cases h with
  | record _ perm => exact perm

theorem fields_eq (h : Shuffled Eq r.toDocument r'.toDocument) : r.fields = r'.fields := by
  cases h with
  | record same _ => exact eq_of_sameKeys same

theorem field?_eq (h : Shuffled Eq r.toDocument r'.toDocument) : r.field? = r'.field? := by
  funext key
  rw [Record.field?, Record.field?, h.fields_eq]

end Shuffled

end Document

namespace Shape

variable {R : Json → Json → Prop} {S : Document → Document → Prop}
  {fields : List (DeclaredField × Shape)} {entries other : List (Text × Json)}

theorem rel_find? (h : Entries.Shuffled R entries other) (f : DeclaredField) :
    Option.Rel (SameKey R) (f.find? entries) (f.find? other) := by
  have hkey := h.lookup f.key
  have hspelling := h.lookup f.spelling
  unfold DeclaredField.find?
  revert hkey
  cases entries.lookup f.key <;> cases other.lookup f.key <;> intro hkey <;> cases hkey
  · revert hspelling
    cases entries.lookup f.spelling <;> cases other.lookup f.spelling <;> intro hspelling <;>
      cases hspelling
    · exact .none
    · rename_i hvalue
      exact .some ⟨rfl, hvalue⟩
  · rename_i hvalue
    exact .some ⟨rfl, hvalue⟩

theorem namesRead_shuffled (h : Entries.Shuffled R entries other) (fields : List DeclaredField) :
    namesRead fields entries = namesRead fields other := by
  refine List.filterMap_congr fun f _ => ?_
  have hfind := rel_find? h f
  revert hfind
  cases f.find? entries <;> cases f.find? other <;> intro hfind <;> cases hfind
  · rfl
  · rename_i hsame
    rw [Option.map_some, Option.map_some, hsame.1]

theorem shuffled_undeclared (h : Entries.Shuffled R entries other) (fields : List DeclaredField) :
    Entries.Shuffled R (undeclared fields entries) (undeclared fields other) := by
  unfold undeclared
  rw [namesRead_shuffled h]
  exact h.filter fun k => !(namesRead fields other).contains k

/-- A field reads alike where its values do. -/
theorem agree_readField (h : Entries.Shuffled R entries other) {f : DeclaredField × Shape}
    (hnull : ∀ {v v'}, R v v' → v.isNull = v'.isNull)
    (hread : ∀ {v v'}, R v v' → Reading.Agree S (f.2.read v) (f.2.read v')) :
    Reading.Agree (Option.Rel (SameKey S)) (readField entries f)
      (readField other f) := by
  have hfind := rel_find? h f.1
  unfold readField
  generalize f.1.find? entries = found at hfind ⊢
  generalize f.1.find? other = found' at hfind ⊢
  cases hfind with
  | none =>
    dsimp only
    cases f.1.required with
    | true => exact .error (List.Perm.refl _)
    | false => exact .ok .none
  | @some e e' hsame =>
    obtain ⟨name, v⟩ := e
    obtain ⟨name', v'⟩ := e'
    obtain ⟨hname, hvalue⟩ := hsame
    dsimp only at hname hvalue ⊢
    subst hname
    rw [← hnull hvalue]
    split
    · exact .ok .none
    · have hagree := (hread hvalue).under (.key name)
      generalize Reading.under (.key name) (f.2.read v) = reading at hagree ⊢
      generalize Reading.under (.key name) (f.2.read v') = reading' at hagree ⊢
      cases hagree with
      | ok hdocument => exact .ok (.some ⟨rfl, hdocument⟩)
      | error hfailures => exact .error hfailures

/-- The keys that are not allowed are reported in either order. -/
theorem perm_unallowed (h : Entries.Shuffled R entries other) (closed : Bool)
    (fields : List DeclaredField) :
    (if closed then (undeclared fields entries).map fun e => (⟨[], .unknown e.1⟩ : Failure)
      else []).Perm
      (if closed then (undeclared fields other).map fun e => (⟨[], .unknown e.1⟩ : Failure)
      else []) := by
  have hkeys := (shuffled_undeclared h fields).perm_keys.map fun k =>
    (⟨[], .unknown k⟩ : Failure)
  rw [Entries.keys, Entries.keys, List.map_map, List.map_map] at hkeys
  split
  · exact hkeys
  · exact List.Perm.refl []

/-- The keys besides are the same, where they were not reported. -/
theorem perm_unknownOf (h : Entries.Shuffled R entries other) {closed : Bool}
    (hopen : closed = false → R = Eq) {fields : List DeclaredField}
    (hnone : closed = true → undeclared fields entries = []) :
    (unknownOf fields entries).Perm (unknownOf fields other) := by
  have hextra := shuffled_undeclared h fields
  unfold unknownOf
  refine List.Perm.map _ ?_
  cases closed with
  | true =>
    have hkeys := hextra.perm_keys
    rw [hnone rfl] at hkeys
    rw [hnone rfl, List.map_eq_nil_iff.1 hkeys.nil_eq.symm]
  | false =>
    rw [hopen rfl] at hextra
    exact hextra.perm_of_eq

theorem agree_assemble {closed : Bool} {values values' : Reading (List (Option (Text × Document)))}
    (h : Entries.Shuffled R entries other) (hopen : closed = false → R = Eq)
    (hvalues : Reading.Agree (List.Forall₂ (Option.Rel (SameKey S))) values values')
    (fields : List DeclaredField) :
    Reading.Agree (Document.Shuffled S) (assemble closed fields entries values)
      (assemble closed fields other values') := by
  have hextra := perm_unallowed h closed fields
  unfold assemble
  dsimp only
  generalize hnone : (if closed then (undeclared fields entries).map fun e =>
    (⟨[], .unknown e.1⟩ : Failure) else []) = extra at hextra ⊢
  generalize (if closed then (undeclared fields other).map fun e =>
    (⟨[], .unknown e.1⟩ : Failure) else []) = extra' at hextra ⊢
  cases hvalues with
  | error hfailures => exact .error (hfailures.append hextra)
  | ok hvalues =>
    cases extra with
    | nil =>
      rw [hextra.nil_eq.symm]
      refine .ok (.record (List.rel_filterMap (fun _ _ h => h) hvalues) ?_)
      refine perm_unknownOf h hopen fun hclosed => ?_
      rw [if_pos hclosed] at hnone
      exact List.map_eq_nil_iff.1 hnone
    | cons failure rest =>
      cases extra' with
      | nil => cases hextra.eq_nil
      | cons failure' rest' => exact .error hextra

theorem agree_read_record {name : String} {closed : Bool} (h : Entries.Shuffled R entries other)
    (hopen : closed = false → R = Eq) (hnull : ∀ {v v'}, R v v' → v.isNull = v'.isNull)
    (hread : ∀ f ∈ fields, ∀ {v v'}, R v v' → Reading.Agree S (f.2.read v) (f.2.read v')) :
    Reading.Agree (Document.Shuffled S) ((record name closed fields).read (.obj entries))
      ((record name closed fields).read (.obj other)) := by
  have hwhole : (entries.all fun e => e.1.isWhole) = other.all fun e => e.1.isWhole := by
    have hkeys : (Entries.keys entries).all Text.isWhole = (Entries.keys other).all Text.isWhole :=
      h.perm_keys.all_eq
    rw [Entries.keys, Entries.keys, List.all_map, List.all_map] at hkeys
    exact hkeys
  have hvalues : List.Forall₂ (Reading.Agree (Option.Rel (SameKey S)))
      (fields.map (readField entries)) (fields.map (readField other)) := by
    rw [List.forall₂_map_left_iff, List.forall₂_map_right_iff, List.forall₂_same]
    exact fun f hf => agree_readField h hnull (hread f hf)
  rw [read, read, hwhole, readFields_eq_map, readFields_eq_map]
  split
  · exact agree_assemble h hopen (Reading.Agree.all hvalues) _
  · exact .error (List.Perm.refl _)

end Shape

/-- An object with its keys in another order is read alike. -/
theorem Schema.agree_read (s : Schema) {j j' : Json} (h : Json.Shuffled Eq j j') :
    Reading.Agree (Document.Shuffled Eq) (s.shape.read j) (s.shape.read j') := by
  cases h with
  | same =>
    refine Agree.of_eq List.Perm.refl fun d hd => ?_
    obtain ⟨r, rfl⟩ := exists_record hd
    exact .record (List.forall₂_same.2 fun _ _ => ⟨rfl, rfl⟩) (List.Perm.refl _)
  | obj h =>
    refine Shape.agree_read_record h (fun _ => rfl) (fun hvalue => hvalue ▸ rfl) ?_
    rintro f - v _ rfl
    exact Agree.of_eq List.Perm.refl fun _ _ => rfl

/-! ## Reports -/

/-- Reports of the same lines in some order, however letters are shown in them. -/
inductive DocumentError.SameLines : DocumentError → DocumentError → Prop where
  | invalid {data data' : Json} {root : String} {failures failures' : List Failure}
    (perm : ∀ [Glyphs], (Failure.report data root failures).Perm
      (Failure.report data' root failures')) (source : Option Text) :
    SameLines ⟨.invalid data root failures, source⟩ ⟨.invalid data' root failures', source⟩

theorem Failure.perm_report [Glyphs] {data data' : Json} (root : String)
    {failures failures' : List Failure} (hpath : data.SamePaths data')
    (h : failures.Perm failures') :
    (report data root failures).Perm (report data' root failures') := by
  have hline : line data root = line data' root := by
    funext f
    rw [line, line, hpath]
  have hlines := h.map (line data root)
  rw [report, report, ← hline]
  refine (List.perm_ext_iff_of_nodup (nodup_eraseDups _) (nodup_eraseDups _)).2 fun l => ?_
  rw [List.mem_eraseDups, List.mem_eraseDups, hlines.mem_iff]

/-- Records that are read alike are decoded alike, with reports of the same lines. -/
theorem Schema.agree_decode {s : Schema} {S : Document → Document → Prop} {j j' : Json}
    (root : String) (hpath : j.SamePaths j')
    (h : Reading.Agree (Document.Shuffled S) (s.shape.read j) (s.shape.read j')) :
    Agree DocumentError.SameLines (fun r r' => Document.Shuffled S r.toDocument r'.toDocument)
      (s.decode j root) (s.decode j' root) := by
  unfold Schema.decode Schema.read
  generalize s.shape.read j = reading at h ⊢
  generalize s.shape.read j' = reading' at h ⊢
  cases h with
  | ok h =>
    cases h with
    | record same perm => exact .ok (.record same perm)
  | error h => exact .error (.invalid (Failure.perm_report root hpath h) none)

end ManifestEdit
