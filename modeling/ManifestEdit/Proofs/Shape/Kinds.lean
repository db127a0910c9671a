import ManifestEdit.Proofs.Shape.Canonical

/-!
# Choices and kinds of values

A shape reads and writes values of its own kinds only, and reads a value whatever stands there in
place of its non-finite numbers. So the member of a regular choice that reads a value also reads
its canonical value, and no earlier member does.
-/

namespace ManifestEdit

namespace Shape

/-! ## Kinds -/

theorem mem_memberKinds {members : List (String × Shape)} {m : String × Shape} {k : Json.Kind}
    (hm : m ∈ members) (hk : k ∈ m.2.kinds) : k ∈ memberKinds members := by
  induction members with
  | nil => cases hm
  | cons n rest ih =>
    rw [memberKinds, List.mem_append]
    rcases List.mem_cons.1 hm with rfl | hm
    · exact .inl hk
    · exact .inr (ih hm)

/-- What the kind of a value that a shape reads says of its canonical value. -/
structure KeepsKind (s : Shape) (j : Json) : Prop where
  reads : j.kind ∈ s.kinds
  writes : (s.canonical j).kind ∈ s.kinds
  null : (s.canonical j).isNull = j.isNull

theorem keepsKind_scalar {s : Shape} (hs : s.isScalar = true) {j : Json} (h : s.Reads j) :
    KeepsKind s j := by
  obtain ⟨d, hd⟩ := h
  obtain ⟨-, -, hkind⟩ := read_scalar hs hd
  rw [← canonical_scalar hs j] at hkind
  exact ⟨canonical_scalar hs j ▸ hkind, hkind, by rw [canonical_scalar hs j]⟩

theorem keepsKind_oneOf {members : List (String × Shape)}
    (ih : ∀ m ∈ members, ∀ j, m.2.Reads j → KeepsKind m.2 j) {j : Json}
    (h : (oneOf members).Reads j) : KeepsKind (oneOf members) j := by
  obtain ⟨d, hd⟩ := h
  obtain ⟨c, -, hc⟩ := read_oneOf_eq_ok_iff.1 hd
  obtain ⟨before, label, s, after, rfl, hbefore, hs⟩ := exists_member_of_readMembers hc
  have hmem : (label, s) ∈ before ++ (label, s) :: after := by simp
  have hkeeps := ih (label, s) hmem j ⟨c, hs⟩
  have hcanonical : (oneOf (before ++ (label, s) :: after)).canonical j = s.canonical j := by
    rw [canonical]
    exact canonicalMember_append hbefore ⟨c, hs⟩
  constructor
  · rw [kinds]
    exact mem_memberKinds hmem hkeeps.reads
  · rw [hcanonical, kinds]
    exact mem_memberKinds hmem hkeeps.writes
  · rw [hcanonical, hkeeps.null]

theorem keepsKind (s : Shape) : ∀ j, s.Reads j → KeepsKind s j := by
  induction s using induct with
  | anything =>
    intro j _
    have hkind : j.kind ∈ anything.kinds := by
      cases j <;> simp [kinds, Json.kind]
    exact ⟨hkind, hkind, rfl⟩
  | text => exact fun j h => keepsKind_scalar rfl h
  | flag => exact fun j h => keepsKind_scalar rfl h
  | count => exact fun j h => keepsKind_scalar rfl h
  | word words => exact fun j h => keepsKind_scalar rfl h
  | off =>
    rintro j ⟨d, hd⟩
    obtain ⟨-, hscalar, hj⟩ := readOff_eq_ok hd
    refine ⟨?_, by simp [canonical, kinds, Json.kind], hscalar.notNull.symm⟩
    rcases hj with rfl | ⟨n, rfl⟩
    · exact List.mem_cons_self
    · exact List.mem_cons_of_mem _ List.mem_cons_self
  | list item ih =>
    rintro j ⟨d, hd⟩
    obtain ⟨items, -, rfl, -, -⟩ := read_list hd
    exact ⟨List.mem_cons_self, List.mem_cons_self, rfl⟩
  | map value ih =>
    rintro j ⟨d, hd⟩
    obtain ⟨entries, -, rfl, -, -⟩ := read_map hd
    exact ⟨List.mem_cons_self, List.mem_cons_self, rfl⟩
  | oneOf members ih => exact fun j h => keepsKind_oneOf ih h
  | record name closed fields ih =>
    rintro j ⟨d, hd⟩
    obtain ⟨entries, rfl⟩ := read_record hd
    exact ⟨List.mem_cons_self, List.mem_cons_self, rfl⟩

theorem isApart_comm {s t : Shape} : s.isApart t = t.isApart s := by
  rw [Bool.eq_iff_iff, isApart, isApart, List.all_eq_true, List.all_eq_true]
  simp only [Bool.not_eq_true', ← Bool.not_eq_true, List.contains_iff_mem]
  exact ⟨fun h k ht hs => h k hs ht, fun h k hs ht => h k ht hs⟩

theorem not_reads_of_isApart {s t : Shape} (h : s.isApart t = true) {j : Json}
    (hj : j.kind ∈ t.kinds) : ¬ s.Reads j := by
  intro hs
  have hk := List.all_eq_true.1 h j.kind (keepsKind s j hs).reads
  simp [hj] at hk

/-! ## Verbatim shapes -/

theorem exists_mem_of_map_eq_map_ok {α : Type} {f : α → Reading Document} {as : List α}
    {ds : List Document} (h : as.map f = ds.map .ok) {a : α} (ha : a ∈ as) :
    ∃ d ∈ ds, f a = .ok d := by
  have hmem : f a ∈ ds.map .ok := h ▸ List.mem_map_of_mem ha
  obtain ⟨d, hd, heq⟩ := List.mem_map.1 hmem
  exact ⟨d, hd, heq.symm⟩

theorem map_eq_map_ok {α : Type} {f : α → Reading Document} {as : List α} {ds : List Document}
    (h : as.map f = ds.map .ok) : ∀ a ∈ as, ∃ d, f a = .ok d :=
  fun _ ha => (exists_mem_of_map_eq_map_ok h ha).imp fun _ hd => hd.2

theorem canonical_of_isVerbatim (s : Shape) : s.isVerbatim = true →
    ∀ j, s.Reads j → j.isFinite = true ∧ s.canonical j = j := by
  have hscalar : ∀ {s : Shape}, s.isScalar = true →
      ∀ j, s.Reads j → j.isFinite = true ∧ s.canonical j = j := by
    rintro s hs j ⟨d, hd⟩
    obtain ⟨-, hj, -⟩ := read_scalar hs hd
    exact ⟨hj.finite, canonical_scalar hs j⟩
  induction s using induct with
  | anything => exact fun h => absurd h Bool.false_ne_true
  | text => exact fun _ => hscalar rfl
  | flag => exact fun _ => hscalar rfl
  | count => exact fun _ => hscalar rfl
  | word words => exact fun _ => hscalar rfl
  | off => exact fun h => absurd h Bool.false_ne_true
  | list item ih =>
    rintro hitem j ⟨d, hd⟩
    obtain ⟨items, ds, rfl, -, hds⟩ := read_list hd
    have hall := fun i hi => ih hitem i (map_eq_map_ok hds i hi)
    refine ⟨Json.isFinite_arr.2 fun i hi => (hall i hi).1, ?_⟩
    rw [canonical, List.map_congr_left fun i hi => (hall i hi).2, List.map_id']
  | map value ih =>
    rintro hvalue j ⟨d, hd⟩
    obtain ⟨entries, ds, rfl, -, hds⟩ := read_map hd
    have hall : ∀ e ∈ entries, e.2.isFinite = true ∧ value.canonical e.2 = e.2 :=
      fun e he => ih hvalue e.2 (map_eq_map_ok hds e he)
    have hsame : entries.map (fun e => (e.1, value.canonical e.2)) = entries.map id :=
      List.map_congr_left fun e he => by rw [(hall e he).2, id]
    refine ⟨Json.isFinite_obj.2 fun e he => (hall e he).1, ?_⟩
    rw [canonical, hsame, List.map_id]
  | oneOf members ih => exact fun h => absurd h Bool.false_ne_true
  | record name closed fields ih => exact fun h => absurd h Bool.false_ne_true

/-! ## Finite values -/

theorem lookup_finiteFields (entries : List (Text × Json)) (key : Text) :
    (Json.finiteFields entries).lookup key = (entries.lookup key).map Json.finiteOnly := by
  induction entries with
  | nil => rfl
  | cons e rest ih =>
    obtain ⟨k, v⟩ := e
    rw [Json.finiteFields, Entries.lookup_cons_eq, Entries.lookup_cons_eq, ih]
    split <;> rfl

theorem find?_finiteFields (f : DeclaredField) (entries : List (Text × Json)) :
    f.find? (Json.finiteFields entries) =
      (f.find? entries).map fun e => (e.1, e.2.finiteOnly) := by
  unfold DeclaredField.find?
  rw [lookup_finiteFields, lookup_finiteFields]
  cases entries.lookup f.key with
  | some value => rfl
  | none => cases entries.lookup f.spelling <;> rfl

theorem namesRead_finiteFields (fields : List DeclaredField) (entries : List (Text × Json)) :
    namesRead fields (Json.finiteFields entries) = namesRead fields entries := by
  refine congrArg (fun g => List.filterMap g fields) (funext fun f => ?_)
  rw [find?_finiteFields, Option.map_map]
  rfl

theorem undeclared_finiteFields (fields : List DeclaredField) (entries : List (Text × Json)) :
    undeclared fields (Json.finiteFields entries) =
      Json.finiteFields (undeclared fields entries) := by
  rw [undeclared, undeclared, namesRead_finiteFields, Json.finiteFields_eq_map,
    Json.finiteFields_eq_map, List.filter_map]
  rfl

theorem readable_finiteFields {entries : List (Text × Json)} {f : DeclaredField × Shape}
    (ih : ∀ j, f.2.Reads j → f.2.Reads j.finiteOnly) (h : Readable entries f) :
    Readable (Json.finiteFields entries) f := by
  unfold Readable at h ⊢
  rw [find?_finiteFields]
  cases hfind : f.1.find? entries with
  | none =>
    rw [hfind] at h
    exact h
  | some e =>
    rw [hfind] at h
    rcases h with hnull | hreads
    · refine .inl ?_
      rw [Bool.and_eq_true] at hnull ⊢
      refine ⟨hnull.1, ?_⟩
      have he : e.2 = .null := by
        cases hv : e.2 with
        | null => rfl
        | _ => rw [hv] at hnull; cases hnull.2
      rw [he]
      rfl
    · exact .inr (ih e.2 hreads)

theorem reads_oneOf_iff {members : List (String × Shape)} {j : Json} :
    (oneOf members).Reads j ↔ ∃ m ∈ members, m.2.Reads j := by
  constructor
  · rintro ⟨d, hd⟩
    obtain ⟨c, -, hc⟩ := read_oneOf_eq_ok_iff.1 hd
    obtain ⟨before, label, s, after, rfl, -, hs⟩ := exists_member_of_readMembers hc
    exact ⟨(label, s), by simp, c, hs⟩
  · intro h
    suffices hc : ∃ c, readMembers members j = .ok c by
      obtain ⟨c, hc⟩ := hc
      exact ⟨.choice c, read_oneOf_eq_ok_iff.2 ⟨c, rfl, hc⟩⟩
    induction members with
    | nil =>
      obtain ⟨m, hm, -⟩ := h
      cases hm
    | cons m rest ih =>
      obtain ⟨label, s⟩ := m
      by_cases hs : s.Reads j
      · obtain ⟨c, hc⟩ := hs
        exact ⟨c, readMembers_cons_eq_ok_iff.2 (.inl hc)⟩
      · have hrest : ∃ m ∈ rest, m.2.Reads j := by
          obtain ⟨m, hm, hreads⟩ := h
          rcases List.mem_cons.1 hm with rfl | hm
          · exact absurd hreads hs
          · exact ⟨m, hm, hreads⟩
        obtain ⟨c, hc⟩ := ih hrest
        exact ⟨c, readMembers_cons_eq_ok_iff.2 (.inr ⟨hs, hc⟩)⟩

theorem exists_map_eq_map_ok {α : Type} {f : α → Reading Document} {as : List α}
    (h : ∀ a ∈ as, ∃ d, f a = .ok d) : ∃ ds : List Document, as.map f = ds.map .ok := by
  induction as with
  | nil => exact ⟨[], rfl⟩
  | cons a rest ih =>
    rw [List.forall_mem_cons] at h
    obtain ⟨d, hd⟩ := h.1
    obtain ⟨ds, hds⟩ := ih h.2
    exact ⟨d :: ds, by rw [List.map_cons, List.map_cons, hd, hds]⟩

theorem reads_list_iff {item : Shape} {items : List Json} :
    (list item).Reads (.arr items) ↔ ∀ i ∈ items, item.Reads i := by
  constructor
  · rintro ⟨d, hd⟩
    obtain ⟨ds, -, hds⟩ := read_list_eq_ok_iff.1 hd
    exact map_eq_map_ok hds
  · intro h
    obtain ⟨ds, hds⟩ := exists_map_eq_map_ok h
    exact ⟨.list ds, read_list_eq_ok_iff.2 ⟨ds, rfl, hds⟩⟩

theorem reads_map_iff {value : Shape} {entries : List (Text × Json)} :
    (map value).Reads (.obj entries) ↔ ∀ e ∈ entries, value.Reads e.2 := by
  constructor
  · rintro ⟨d, hd⟩
    obtain ⟨ds, -, hds⟩ := read_map_eq_ok_iff.1 hd
    exact map_eq_map_ok hds
  · intro h
    obtain ⟨ds, hds⟩ := exists_map_eq_map_ok h
    exact ⟨_, read_map_eq_ok_iff.2 ⟨ds, rfl, hds⟩⟩

theorem reads_finiteOnly (s : Shape) : ∀ j, s.Reads j → s.Reads j.finiteOnly := by
  have hscalar : ∀ {s : Shape}, s.isScalar = true → ∀ j, s.Reads j → s.Reads j.finiteOnly := by
    rintro s hs j ⟨d, hd⟩
    obtain ⟨-, hj, -⟩ := read_scalar hs hd
    rw [Json.finiteOnly_of_isFinite hj.finite]
    exact ⟨d, hd⟩
  induction s using induct with
  | anything => exact fun j _ => ⟨.leaf j.finiteOnly, rfl⟩
  | text => exact hscalar rfl
  | flag => exact hscalar rfl
  | count => exact hscalar rfl
  | word words => exact hscalar rfl
  | off =>
    rintro j ⟨d, hd⟩
    obtain ⟨-, hj, -⟩ := readOff_eq_ok hd
    rw [Json.finiteOnly_of_isFinite hj.finite]
    exact ⟨d, hd⟩
  | list item ih =>
    intro j h
    obtain ⟨d, hd⟩ := h
    obtain ⟨items, ds, rfl, -, hds⟩ := read_list hd
    rw [Json.finiteOnly, Json.finiteItems_eq_map, reads_list_iff]
    intro k hk
    obtain ⟨i, hi, rfl⟩ := List.mem_map.1 hk
    exact ih i (map_eq_map_ok hds i hi)
  | map value ih =>
    rintro j ⟨d, hd⟩
    obtain ⟨entries, ds, rfl, -, hds⟩ := read_map hd
    rw [Json.finiteOnly, Json.finiteFields_eq_map, reads_map_iff]
    intro k hk
    obtain ⟨e, he, rfl⟩ := List.mem_map.1 hk
    exact ih e.2 (map_eq_map_ok hds e he)
  | oneOf members ih =>
    intro j h
    obtain ⟨m, hm, hreads⟩ := reads_oneOf_iff.1 h
    exact reads_oneOf_iff.2 ⟨m, hm, ih m hm j hreads⟩
  | record name closed fields ih =>
    rintro j ⟨d, hd⟩
    obtain ⟨entries, rfl⟩ := read_record hd
    obtain ⟨hwhole, hreadable, hclosed, -⟩ := read_record_eq_ok_iff.1 hd
    refine ⟨_, read_record_eq_ok_iff.2 ⟨?_, ?_, ?_, rfl⟩⟩
    · intro k hk
      rw [Json.finiteFields_eq_map] at hk
      obtain ⟨e, he, rfl⟩ := List.mem_map.1 hk
      exact hwhole e he
    · exact fun f hf => readable_finiteFields (ih f hf) (hreadable f hf)
    · intro h
      rw [undeclared_finiteFields, hclosed h]
      rfl

/-! ## The member that reads a value -/

/-- A member of a regular choice that reads a value first is also the first to read its finite
value and its canonical value. -/
theorem first_of_regular {before after : List (String × Shape)} {label : String} {s : Shape}
    (hregular : (oneOf (before ++ (label, s) :: after)).isRegular = true) {j : Json}
    (hbefore : ∀ m ∈ before, ¬ m.2.Reads j) (h : s.Reads j) :
    (∀ m ∈ before, ¬ m.2.Reads j.finiteOnly) ∧
      ∀ m ∈ before, ¬ m.2.Reads (s.canonical j.finiteOnly) := by
  rw [isRegular, areRegular_iff] at hregular
  have hpairs := (List.pairwise_append.1 hregular.2).2.2
  have hkeeps := keepsKind s j.finiteOnly (reads_finiteOnly s j h)
  constructor
  · intro m hm
    rcases Bool.or_eq_true _ _ ▸ hpairs m hm (label, s) List.mem_cons_self with happart | hverbatim
    · exact not_reads_of_isApart happart hkeeps.reads
    · rw [Json.finiteOnly_of_isFinite (canonical_of_isVerbatim s hverbatim j h).1]
      exact hbefore m hm
  · intro m hm
    rcases Bool.or_eq_true _ _ ▸ hpairs m hm (label, s) List.mem_cons_self with happart | hverbatim
    · exact not_reads_of_isApart happart hkeeps.writes
    · obtain ⟨hfinite, hsame⟩ := canonical_of_isVerbatim s hverbatim j h
      rw [Json.finiteOnly_of_isFinite hfinite, hsame]
      exact hbefore m hm

end Shape

end ManifestEdit
