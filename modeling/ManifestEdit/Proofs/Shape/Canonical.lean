import ManifestEdit.Proofs.Json.Values
import ManifestEdit.Proofs.Shape.Names

/-!
# Canonical values

The canonical value of a value that a shape reads is what the document read from it writes: records
lose the fields that are null and hold the others under their keys, in the same places, and a zero
that stands for `false` becomes it. All else stays as it is.
-/

namespace ManifestEdit

namespace Shape

mutual

def canonical : Shape → Json → Json
  | off, _ => .bool false
  | list item, .arr items => .arr (items.map (canonical item))
  | map value, .obj entries => .obj (entries.map fun e => (e.1, canonical value e.2))
  | oneOf members, j => canonicalMember members j
  | record _ _ fields, .obj entries => .obj (entries.filterMap (canonicalEntry fields))
  | _, j => j

/-- The canonical value by the first member that reads a value. -/
def canonicalMember : List (String × Shape) → Json → Json
  | [], j => j
  | (_, s) :: rest, j =>
    match s.read j with
    | .ok _ => canonical s j
    | .error _ => canonicalMember rest j

/-- The entry that is left of an entry of a record. -/
def canonicalEntry : List (DeclaredField × Shape) → Text × Json → Option (Text × Json)
  | [], e => some e
  | (f, s) :: rest, e =>
    if isNamed f e.1 then
      if e.2.isNull then none else some (f.key, canonical s e.2)
    else canonicalEntry rest e

end

mutual

/-- Whether no record read by the shape, at any depth, holds a field under both of its names. -/
def namesOnce : Shape → Json → Bool
  | list item, .arr items => items.all (namesOnce item)
  | map value, .obj entries => entries.all fun e => namesOnce value e.2
  | oneOf members, j => memberNamesOnce members j
  | record _ _ fields, .obj entries =>
    standOnce fields entries && entries.all (entryNamesOnce fields)
  | _, _ => true

def memberNamesOnce : List (String × Shape) → Json → Bool
  | [], _ => true
  | (_, s) :: rest, j =>
    match s.read j with
    | .ok _ => namesOnce s j
    | .error _ => memberNamesOnce rest j

def entryNamesOnce : List (DeclaredField × Shape) → Text × Json → Bool
  | [], _ => true
  | (f, s) :: rest, e => if isNamed f e.1 then namesOnce s e.2 else entryNamesOnce rest e

end

theorem canonicalEntry_eq (fields : List (DeclaredField × Shape)) (e : Text × Json) :
    canonicalEntry fields e =
      match fieldNamed? fields e.1 with
      | some f => if e.2.isNull then none else some (f.1.key, f.2.canonical e.2)
      | none => some e := by
  induction fields with
  | nil => rfl
  | cons f rest ih =>
    rw [canonicalEntry, fieldNamed?, List.find?_cons]
    cases h : isNamed f.1 e.1 with
    | true => rfl
    | false => exact ih

theorem entryNamesOnce_eq (fields : List (DeclaredField × Shape)) (e : Text × Json) :
    entryNamesOnce fields e = (fieldNamed? fields e.1).all fun f => f.2.namesOnce e.2 := by
  induction fields with
  | nil => rfl
  | cons f rest ih =>
    rw [entryNamesOnce, fieldNamed?, List.find?_cons]
    cases h : isNamed f.1 e.1 with
    | true => rfl
    | false => exact ih

theorem canonicalMember_cons_of_reads {label : String} {s : Shape} {j : Json} (h : s.Reads j)
    (rest : List (String × Shape)) : canonicalMember ((label, s) :: rest) j = s.canonical j := by
  obtain ⟨d, hd⟩ := h
  rw [canonicalMember, hd]

theorem canonicalMember_cons_of_not_reads {label : String} {s : Shape} {j : Json}
    (h : ¬ s.Reads j) (rest : List (String × Shape)) :
    canonicalMember ((label, s) :: rest) j = canonicalMember rest j := by
  cases hs : s.read j with
  | ok d => exact absurd ⟨d, hs⟩ h
  | error failures => rw [canonicalMember, hs]

theorem memberNamesOnce_cons_of_reads {label : String} {s : Shape} {j : Json} (h : s.Reads j)
    (rest : List (String × Shape)) :
    memberNamesOnce ((label, s) :: rest) j = s.namesOnce j := by
  obtain ⟨d, hd⟩ := h
  rw [memberNamesOnce, hd]

theorem memberNamesOnce_cons_of_not_reads {label : String} {s : Shape} {j : Json}
    (h : ¬ s.Reads j) (rest : List (String × Shape)) :
    memberNamesOnce ((label, s) :: rest) j = memberNamesOnce rest j := by
  cases hs : s.read j with
  | ok d => exact absurd ⟨d, hs⟩ h
  | error failures => rw [memberNamesOnce, hs]

/-! ## Values without parts -/

/-- Whether a shape reads texts, truth values and integers only. -/
def isScalar : Shape → Bool
  | text => true
  | flag => true
  | count => true
  | word _ => true
  | _ => false

/-- A value without parts that is written as it is. -/
structure Scalar (j : Json) : Prop where
  finite : j.isFinite = true
  whole : j.hasWholeKeys = true
  distinct : j.isDistinct = true
  notNull : j.isNull = false

theorem readCount_eq_ok {j : Json} {d : Document} (h : readCount j = .ok d) :
    ∃ i, j = .num (.int i) ∧ d = .leaf j := by
  unfold readCount at h
  split at h
  · split at h
    · cases h
      exact ⟨_, rfl, rfl⟩
    · cases h
  · cases h

theorem readWord_eq_ok {words : List String} {j : Json} {d : Document}
    (h : readWord words j = .ok d) : ∃ t, j = .str t ∧ d = .leaf j := by
  unfold readWord at h
  split at h
  · split at h
    · split at h
      · cases h
        exact ⟨_, rfl, rfl⟩
      · cases h
    · cases h
  · cases h

theorem readOff_eq_ok {j : Json} {d : Document} (h : readOff j = .ok d) :
    d = .leaf (.bool false) ∧ Scalar j ∧ (j = .bool false ∨ ∃ n, j = .num n) := by
  unfold readOff at h
  split at h
  · cases h
    exact ⟨rfl, ⟨rfl, rfl, rfl, rfl⟩, .inl rfl⟩
  · rename_i n
    split at h
    · rename_i hzero
      cases h
      refine ⟨rfl, ⟨?_, rfl, rfl, rfl⟩, .inr ⟨n, rfl⟩⟩
      cases n with
      | int i => rfl
      | double x =>
        cases x with
        | nan => cases hzero
        | infinite negative => cases hzero
        | finite negative rank => rfl
    · cases h
  · cases h

theorem read_scalar {s : Shape} (hs : s.isScalar = true) {j : Json} {d : Document}
    (h : s.read j = .ok d) : d = .leaf j ∧ Scalar j ∧ j.kind ∈ s.kinds := by
  cases s with
  | text =>
    cases j <;> cases h
    exact ⟨rfl, ⟨rfl, rfl, rfl, rfl⟩, List.mem_singleton.2 rfl⟩
  | flag =>
    cases j <;> cases h
    exact ⟨rfl, ⟨rfl, rfl, rfl, rfl⟩, List.mem_singleton.2 rfl⟩
  | count =>
    obtain ⟨i, rfl, rfl⟩ := readCount_eq_ok h
    exact ⟨rfl, ⟨rfl, rfl, rfl, rfl⟩, List.mem_singleton.2 rfl⟩
  | word words =>
    obtain ⟨t, rfl, rfl⟩ := readWord_eq_ok h
    exact ⟨rfl, ⟨rfl, rfl, rfl, rfl⟩, List.mem_singleton.2 rfl⟩
  | anything => cases hs
  | off => cases hs
  | list item => cases hs
  | map value => cases hs
  | oneOf members => cases hs
  | record name closed fields => cases hs

theorem canonical_scalar {s : Shape} (hs : s.isScalar = true) (j : Json) :
    s.canonical j = j := by
  cases s <;> cases hs <;> rw [canonical] <;> simp

theorem namesOnce_scalar {s : Shape} (hs : s.isScalar = true) (j : Json) :
    s.namesOnce j = true := by
  cases s <;> cases hs <;> rw [namesOnce] <;> simp

/-! ## Values with parts -/

theorem read_list {item : Shape} {j : Json} {d : Document} (h : (list item).read j = .ok d) :
    ∃ items ds, j = .arr items ∧ d = .list ds ∧ items.map item.read = ds.map .ok := by
  cases j with
  | arr items =>
    obtain ⟨ds, hd, hds⟩ := read_list_eq_ok_iff.1 h
    exact ⟨items, ds, rfl, hd, hds⟩
  | _ => cases h

theorem read_map {value : Shape} {j : Json} {d : Document} (h : (map value).read j = .ok d) :
    ∃ entries ds, j = .obj entries ∧ d = .map ((Entries.keys entries).zip ds) ∧
      entries.map (fun e => value.read e.2) = ds.map .ok := by
  cases j with
  | obj entries =>
    obtain ⟨ds, hd, hds⟩ := read_map_eq_ok_iff.1 h
    exact ⟨entries, ds, rfl, hd, hds⟩
  | _ => cases h

theorem read_record {name : String} {closed : Bool} {fields : List (DeclaredField × Shape)}
    {j : Json} {d : Document} (h : (record name closed fields).read j = .ok d) :
    ∃ entries, j = .obj entries := by
  cases j with
  | obj entries => exact ⟨entries, rfl⟩
  | _ => cases h

/-- The member that reads a value, after members that do not. -/
theorem exists_member_of_readMembers {members : List (String × Shape)} {j : Json} {d : Document}
    (h : readMembers members j = .ok d) :
    ∃ before label s after, members = before ++ (label, s) :: after ∧
      (∀ m ∈ before, ¬ m.2.Reads j) ∧ s.read j = .ok d := by
  induction members with
  | nil => cases h
  | cons m rest ih =>
    obtain ⟨label, s⟩ := m
    rcases readMembers_cons_eq_ok_iff.1 h with hs | ⟨hs, hrest⟩
    · exact ⟨[], label, s, rest, rfl, fun m hm => absurd hm List.not_mem_nil, hs⟩
    · obtain ⟨before, label', s', after, rfl, hbefore, hs'⟩ := ih hrest
      exact ⟨(label, s) :: before, label', s', after, rfl,
        List.forall_mem_cons.2 ⟨hs, hbefore⟩, hs'⟩

theorem mem_of_map_eq_map_ok {α : Type} {f : α → Reading Document} {as : List α}
    {ds : List Document} (hread : as.map f = ds.map .ok) {d : Document} (hd : d ∈ ds) :
    ∃ a ∈ as, f a = .ok d := by
  have hmem : Except.ok d ∈ as.map f := hread ▸ List.mem_map_of_mem hd
  exact List.mem_map.1 hmem

/-- A property of what shapes read holds where it is passed on from the values within: from those of
a list and of a map, from what the member reads that is chosen, and from the fields of a record. -/
@[elab_as_elim]
theorem read_induct {motive : ∀ s j d, read s j = .ok d → Prop}
    (scalar : ∀ s j d (h : read s j = .ok d), s.isScalar = true → motive s j d h)
    (anything : ∀ j, motive anything j (.leaf j) rfl)
    (off : ∀ j (h : read off j = .ok (.leaf (.bool false))),
      motive off j (.leaf (.bool false)) h)
    (list : ∀ item items ds (h : (list item).read (.arr items) = .ok (.list ds)),
      (∀ d ∈ ds, ∃ i ∈ items, ∃ hi, motive item i d hi) →
        motive (list item) (.arr items) (.list ds) h)
    (map : ∀ value entries ds
      (h : (map value).read (.obj entries) = .ok (.map ((Entries.keys entries).zip ds))),
      (∀ d ∈ ds, ∃ e ∈ entries, ∃ he, motive value e.2 d he) →
        motive (map value) (.obj entries) (.map ((Entries.keys entries).zip ds)) h)
    (oneOf : ∀ members m j d (h : (oneOf members).read j = .ok (.choice d)), m ∈ members →
      ∀ hm, motive m.2 j d hm → motive (oneOf members) j (.choice d) h)
    (record : ∀ name closed fields entries d
      (h : (record name closed fields).read (.obj entries) = .ok d),
      (∀ f ∈ fields, ∀ j c hf, motive f.2 j c hf) →
        motive (record name closed fields) (.obj entries) d h)
    {s : Shape} {j : Json} {d : Document} (h : s.read j = .ok d) : motive s j d h := by
  induction s using induct generalizing j d with
  | text => exact scalar _ _ _ h rfl
  | flag => exact scalar _ _ _ h rfl
  | count => exact scalar _ _ _ h rfl
  | word words => exact scalar _ _ _ h rfl
  | anything =>
    cases h
    exact anything j
  | off =>
    obtain ⟨rfl, -, -⟩ := readOff_eq_ok h
    exact off j h
  | list item ih =>
    obtain ⟨items, ds, rfl, rfl, hds⟩ := read_list h
    refine list item items ds h fun d hd => ?_
    obtain ⟨i, hi, hread⟩ := mem_of_map_eq_map_ok hds hd
    exact ⟨i, hi, hread, ih hread⟩
  | map value ih =>
    obtain ⟨entries, ds, rfl, rfl, hds⟩ := read_map h
    refine map value entries ds h fun d hd => ?_
    obtain ⟨e, he, hread⟩ := mem_of_map_eq_map_ok hds hd
    exact ⟨e, he, hread, ih hread⟩
  | oneOf members ih =>
    obtain ⟨c, rfl, hc⟩ := read_oneOf_eq_ok_iff.1 h
    obtain ⟨before, label, s, after, hmembers, -, hs⟩ := exists_member_of_readMembers hc
    have hm : (label, s) ∈ members := by simp [hmembers]
    exact oneOf members (label, s) j c h hm hs (ih (label, s) hm hs)
  | record name closed fields ih =>
    obtain ⟨entries, rfl⟩ := read_record h
    exact record name closed fields entries d h fun f hf j c hread => ih f hf hread

/-- Members that do not read a value are passed over. -/
theorem readMembers_append_iff {before rest : List (String × Shape)} {j : Json} {d : Document}
    (hbefore : ∀ m ∈ before, ¬ m.2.Reads j) :
    readMembers (before ++ rest) j = .ok d ↔ readMembers rest j = .ok d := by
  induction before with
  | nil => exact Iff.rfl
  | cons m more ih =>
    rw [List.forall_mem_cons] at hbefore
    rw [List.cons_append, readMembers_cons_eq_ok_iff, ih hbefore.2]
    exact ⟨fun h => h.elim (fun hm => absurd ⟨d, hm⟩ hbefore.1) And.right,
      fun h => .inr ⟨hbefore.1, h⟩⟩

theorem readMembers_append {before after : List (String × Shape)} {label : String} {s : Shape}
    {j : Json} {d : Document} (hbefore : ∀ m ∈ before, ¬ m.2.Reads j) (h : s.read j = .ok d) :
    readMembers (before ++ (label, s) :: after) j = .ok d :=
  (readMembers_append_iff hbefore).2 (readMembers_cons_eq_ok_iff.2 (.inl h))

theorem canonicalMember_append {before after : List (String × Shape)} {label : String}
    {s : Shape} {j : Json} (hbefore : ∀ m ∈ before, ¬ m.2.Reads j) (h : s.Reads j) :
    canonicalMember (before ++ (label, s) :: after) j = s.canonical j := by
  induction before with
  | nil => exact canonicalMember_cons_of_reads h after
  | cons m rest ih =>
    rw [List.forall_mem_cons] at hbefore
    rw [List.cons_append, canonicalMember_cons_of_not_reads hbefore.1, ih hbefore.2]

theorem memberNamesOnce_append {before after : List (String × Shape)} {label : String}
    {s : Shape} {j : Json} (hbefore : ∀ m ∈ before, ¬ m.2.Reads j) (h : s.Reads j) :
    memberNamesOnce (before ++ (label, s) :: after) j = s.namesOnce j := by
  induction before with
  | nil => exact memberNamesOnce_cons_of_reads h after
  | cons m rest ih =>
    rw [List.forall_mem_cons] at hbefore
    rw [List.cons_append, memberNamesOnce_cons_of_not_reads hbefore.1, ih hbefore.2]

end Shape

end ManifestEdit
