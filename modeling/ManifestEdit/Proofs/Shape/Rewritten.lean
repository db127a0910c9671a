import ManifestEdit.Proofs.Shape.Kept

/-!
# Documents written twice

What a document writes that was read by a steady shape is kept: it is read again, as a document
that writes the same. Nothing is asked of the value from which the document was read; it may hold
keys twice, halves of surrogate pairs in the keys of maps and numbers that are not finite. The proof
is by induction on the shape. In a record all depends on the respellings: one may only stand where
its field is written too, since it would be read in the field's place.
-/

namespace ManifestEdit

namespace Shape

/-! ## Kinds of what is written -/

theorem kind_toJson_of_read {s : Shape} {j : Json} {d : Document} (h : s.read j = .ok d) :
    d.toJson.kind ∈ s.kinds := by
  induction h using read_induct with
  | scalar s j d h hs =>
    rw [(kept_scalar hs h).writes]
    exact (read_scalar hs h).2.2
  | anything j => cases (Document.leaf j).toJson <;> simp [kinds, Json.kind]
  | off j h => exact List.mem_cons_self
  | list item items ds h ih => exact List.mem_cons_self
  | map value entries ds h ih => exact List.mem_cons_self
  | oneOf members m j d h hm hread hpart =>
    rw [kinds]
    exact mem_memberKinds hm hpart
  | record name closed fields entries d h ih =>
    obtain ⟨-, -, -, rfl⟩ := read_record_eq_ok_iff.1 h
    exact List.mem_cons_self

/-- Where all numbers are finite, nothing but null is written as null. -/
theorem isNull_toJson {s : Shape} {j : Json} {d : Document} (h : s.read j = .ok d)
    (hfinite : j.isFinite = true) : d.toJson.isNull = j.isNull := by
  induction h using read_induct with
  | scalar s j d h hs => rw [(kept_scalar hs h).writes]
  | anything j => rw [Document.toJson, Json.finiteOnly_of_isFinite hfinite]
  | off j h => exact (readOff_eq_ok h).2.1.notNull.symm
  | list item items ds h ih => rfl
  | map value entries ds h ih => rfl
  | oneOf members m j d h hm hread hpart => exact hpart hfinite
  | record name closed fields entries d h ih =>
    obtain ⟨-, -, -, rfl⟩ := read_record_eq_ok_iff.1 h
    rfl

/-! ## Steady shapes -/

mutual

/-- Whether the members of each choice read values of different kinds, and each field that may be
null has one name. -/
def isSteady : Shape → Bool
  | list item => item.isSteady
  | map value => value.isSteady
  | oneOf members => areSteady members
  | record _ _ fields => fieldsSteady fields
  | _ => true

def areSteady : List (String × Shape) → Bool
  | [] => true
  | (_, s) :: rest => s.isSteady && rest.all (fun m => s.isApart m.2) && areSteady rest

def fieldsSteady : List (DeclaredField × Shape) → Bool
  | [] => true
  | (f, s) :: rest => s.isSteady && (!f.nullable || f.key = f.spelling) && fieldsSteady rest

end

theorem areSteady_iff {members : List (String × Shape)} :
    areSteady members = true ↔ (∀ m ∈ members, m.2.isSteady = true) ∧
      members.Pairwise fun m n => m.2.isApart n.2 = true := by
  induction members with
  | nil => simp [areSteady]
  | cons m rest ih =>
    rw [areSteady, Bool.and_eq_true, Bool.and_eq_true, ih, List.forall_mem_cons,
      List.pairwise_cons, List.all_eq_true]
    constructor
    · rintro ⟨⟨hm, happart⟩, hrest, hpairs⟩
      exact ⟨⟨hm, hrest⟩, happart, hpairs⟩
    · rintro ⟨⟨hm, hrest⟩, happart, hpairs⟩
      exact ⟨⟨hm, happart⟩, hrest, hpairs⟩

theorem fieldsSteady_iff {fields : List (DeclaredField × Shape)} :
    fieldsSteady fields = true ↔ ∀ f ∈ fields,
      f.2.isSteady = true ∧ (f.1.nullable = true → f.1.key = f.1.spelling) := by
  induction fields with
  | nil => simp [fieldsSteady]
  | cons f rest ih =>
    rw [fieldsSteady, Bool.and_eq_true, Bool.and_eq_true, ih, List.forall_mem_cons]
    cases f.1.nullable <;> simp

/-! ## Respellings -/

section Record

variable {closed : Bool} {fields : List (DeclaredField × Shape)} {entries : List (Text × Json)}

theorem isNamed_of_find? {f : DeclaredField} {name : Text} {value : Json}
    (h : f.find? entries = some (name, value)) : isNamed f name = true := by
  unfold DeclaredField.find? at h
  split at h
  · cases h
    exact isNamed_key f
  · obtain ⟨v, -, heq⟩ := Option.map_eq_some_iff.1 h
    cases heq
    exact isNamed_iff.2 (.inr rfl)

/-- A field is read under its key where that stands. -/
theorem exists_find?_of_key {f : DeclaredField} (h : f.key ∈ Entries.keys entries) :
    ∃ value, f.find? entries = some (f.key, value) := by
  cases hkey : entries.lookup f.key with
  | none => exact absurd h (Entries.lookup_eq_none_iff.1 hkey)
  | some value => exact ⟨value, by rw [DeclaredField.find?, hkey]⟩

/-- A key with the name of a field is no field where the field's key stands beside it. -/
theorem key_of_undeclared {e : Text × Json}
    (he : e ∈ undeclared (fields.map Prod.fst) entries) {f : DeclaredField × Shape}
    (hf : f ∈ fields) (hnamed : isNamed f.1 e.1 = true) :
    f.1.key ≠ e.1 ∧ f.1.key ∈ Entries.keys entries := by
  obtain ⟨hmem, hunread⟩ := mem_undeclared_iff.1 he
  have hread := hunread f hf
  have hkeys : e.1 ∈ Entries.keys entries := Entries.mem_keys.2 ⟨e.2, hmem⟩
  by_cases hkey : f.1.key ∈ Entries.keys entries
  · obtain ⟨value, hfind⟩ := exists_find?_of_key hkey
    exact ⟨fun heq => hread value (heq ▸ hfind), hkey⟩
  · -- Without the key the spelling would have been read.
    exfalso
    have hspelling : f.1.spelling = e.1 :=
      (isNamed_iff.1 hnamed).resolve_left fun heq => hkey (heq ▸ hkeys)
    cases hlookup : entries.lookup f.1.spelling with
    | none => exact Entries.lookup_eq_none_iff.1 hlookup (hspelling ▸ hkeys)
    | some value =>
      refine hread value ?_
      rw [DeclaredField.find?, Entries.lookup_eq_none_iff.2 hkey, hlookup, hspelling]
      rfl

/-- A spelling is not declared where the field's key stands beside it. -/
theorem undeclared_of_spelling (hapart : Apart fields) {f : DeclaredField × Shape}
    (hf : f ∈ fields) (hkey : f.1.key ∈ Entries.keys entries) (hne : f.1.key ≠ f.1.spelling)
    {value : Json} (hmem : (f.1.spelling, value) ∈ entries) :
    (f.1.spelling, value) ∈ undeclared (fields.map Prod.fst) entries := by
  refine mem_undeclared_iff.2 ⟨hmem, fun g hg w hfind => hne ?_⟩
  have hsame : g = f :=
    eq_of_isNamed hapart hg hf (isNamed_of_find? hfind) (isNamed_iff.2 (.inr rfl))
  obtain ⟨v, hfirst⟩ := exists_find?_of_key hkey
  rw [hsame, hfirst] at hfind
  exact congrArg Prod.fst (Option.some.inj hfind)

/-- No field stands under both of its names exactly when no other key is a respelling. -/
theorem standOnce_eq_all (hapart : Apart fields) :
    standOnce fields entries =
      (unknownOf (fields.map Prod.fst) entries).all fun u => !u.respelling := by
  rw [Bool.eq_iff_iff, List.all_eq_true]
  constructor
  · intro honce u hu
    obtain ⟨e, he, rfl⟩ := List.mem_map.1 hu
    rw [Bool.not_eq_true', List.any_eq_false]
    intro g hg hspelling
    obtain ⟨f, hf, rfl⟩ := List.mem_map.1 hg
    have hspelled := of_decide_eq_true hspelling
    obtain ⟨hne, hkey⟩ := key_of_undeclared he hf (isNamed_iff.2 (.inr hspelled))
    have hkeys : e.1 ∈ Entries.keys entries :=
      Entries.mem_keys.2 ⟨e.2, (List.mem_filter.1 he).1⟩
    exact hne ((eq_of_standOnce honce hf hkey (hspelled ▸ hkeys)).trans hspelled)
  · intro hnone
    refine standOnce_iff.2 fun f hf hkey hspelling => ?_
    by_contra hne
    obtain ⟨value, hmem⟩ := Entries.mem_keys.1 hspelling
    have hfirst :=
      hnone _ (List.mem_map_of_mem (undeclared_of_spelling hapart hf hkey hne hmem))
    rw [Bool.not_eq_true', List.any_eq_false] at hfirst
    exact hfirst f.1 (List.mem_map_of_mem hf) (decide_eq_true rfl)

/-! ## Records -/

/-- What is known of the entries of a record that was read and can be written. -/
structure WritableEntries (closed : Bool) (fields : List (DeclaredField × Shape))
    (entries : List (Text × Json)) : Prop where
  sound : Sound fields
  whole : ∀ e ∈ entries, e.1.isWhole = true
  readable : ∀ f ∈ fields, Readable entries f
  closes : closed = true → undeclared (fields.map Prod.fst) entries = []
  unknown : ∀ e ∈ undeclared (fields.map Prod.fst) entries, e.2.hasWholeKeys = true
  field : ∀ f ∈ fields, ∀ e, fieldRead? entries f = some e → ∃ d, Kept f.2 e.2.toJson d
  /-- A respelling stands beside a field that is not null. -/
  respelled : ∀ e ∈ undeclared (fields.map Prod.fst) entries, ∀ f ∈ fields,
    f.1.spelling = e.1 → f.1.nullable = false

/-- The entries that a record writes before they are arranged. -/
def parts (fields : List (DeclaredField × Shape)) (entries : List (Text × Json)) :
    List (Text × Json) :=
  (Document.entriesToJson (fieldsRead fields entries)).filter (fun e => !e.2.isNull) ++
    (unknownOf (fields.map Prod.fst) entries).filterMap Unknown.entry?

theorem mem_parts_of_fieldRead? {f : DeclaredField × Shape} (hf : f ∈ fields) {d : Document}
    (hread : fieldRead? entries f = some (f.1.key, d)) (hnull : d.toJson.isNull = false) :
    (f.1.key, d.toJson) ∈ parts fields entries := by
  refine List.mem_append_left _ (List.mem_filter.2 ⟨?_, by rw [hnull]; rfl⟩)
  rw [Document.entriesToJson_eq_map]
  exact List.mem_map.2 ⟨(f.1.key, d), List.mem_filterMap.2 ⟨f, hf, hread⟩, rfl⟩

/-- The entries written under the keys that are remembered. -/
def remembered (fields : List (DeclaredField × Shape)) (entries : List (Text × Json)) :
    List (Text × Json) :=
  (orderOf (fields.map Prod.fst) entries).eraseDups.filterMap fun k =>
    ((parts fields entries).lookup k).map (k, ·)

/-- The entries written behind them. -/
def forgotten (fields : List (DeclaredField × Shape)) (entries : List (Text × Json)) :
    List (Text × Json) :=
  (parts fields entries).filter fun e => !(orderOf (fields.map Prod.fst) entries).contains e.1

theorem toJson_record_eq (fields : List (DeclaredField × Shape)) (entries : List (Text × Json)) :
    (Document.record (fieldsRead fields entries) (unknownOf (fields.map Prod.fst) entries)
      (orderOf (fields.map Prod.fst) entries)).toJson =
        .obj (remembered fields entries ++ forgotten fields entries) := by
  rw [Document.toJson]
  rfl

/-- A remembered key that names a field is the field's key. -/
theorem key_of_mem_orderOf (hapart : Apart fields) {key : Text}
    (hkey : key ∈ orderOf (fields.map Prod.fst) entries) {f : DeclaredField × Shape}
    (hf : f ∈ fields) (hnamed : isNamed f.1 key = true) : key = f.1.key := by
  rw [orderOf_eq hapart] at hkey
  obtain ⟨e, -, he⟩ := List.mem_filterMap.1 hkey
  have hfield := (fieldNamed?_keyRead? hapart he).1
  rw [fieldNamed?_of_mem hapart hf hnamed] at hfield
  rw [keyRead?, ← hfield] at he
  dsimp only at he
  split at he
  · cases he
  · cases he
    rfl

theorem mem_orderOf_of_unnamed (hapart : Apart fields) {e : Text × Json} (he : e ∈ entries)
    (hnone : fieldNamed? fields e.1 = none) :
    e.1 ∈ orderOf (fields.map Prod.fst) entries := by
  rw [orderOf_eq hapart]
  exact List.mem_filterMap.2 ⟨e, he, by rw [keyRead?, hnone]⟩

/-- A field that was read is remembered under its key. -/
theorem key_mem_orderOf (hfields : Sound fields) {f : DeclaredField × Shape} (hf : f ∈ fields)
    {e : Text × Document} (h : fieldRead? entries f = some e) :
    f.1.key ∈ orderOf (fields.map Prod.fst) entries := by
  obtain ⟨name, value, hfind, hnullable, -, hread⟩ := of_fieldRead? h
  have hnull := isNull_of_nullable (hfields.sound f hf) ⟨e.2, hread⟩ hnullable
  have hnamed := fieldNamed?_of_mem hfields.apart hf (isNamed_of_find? hfind)
  rw [orderOf_eq hfields.apart]
  refine List.mem_filterMap.2 ⟨(name, value), mem_of_find? hfind, ?_⟩
  rw [keyRead?, hnamed]
  dsimp only
  rw [hnull, if_neg Bool.false_ne_true]

namespace WritableEntries

theorem of_mem_parts {e : Text × Json} (he : e ∈ parts fields entries) :
    (∃ f ∈ fields, ∃ d, fieldRead? entries f = some (f.1.key, d) ∧ e = (f.1.key, d.toJson) ∧
        e.2.isNull = false) ∨
      ∃ o ∈ undeclared (fields.map Prod.fst) entries, e = (o.1, o.2.finiteOnly) ∧
        ((fields.map Prod.fst).any (fun f => f.spelling = o.1) = true → e.2.isNull = false) := by
  rcases List.mem_append.1 he with he | he
  · left
    rw [Document.entriesToJson_eq_map] at he
    obtain ⟨hmem, hnull⟩ := List.mem_filter.1 he
    obtain ⟨⟨key, d⟩, hd, rfl⟩ := List.mem_map.1 hmem
    obtain ⟨f, hf, hread⟩ := List.mem_filterMap.1 hd
    have hkey : key = f.1.key := key_of_fieldRead? hread
    subst hkey
    exact ⟨f, hf, d, hread, rfl, by simpa using hnull⟩
  · right
    obtain ⟨u, hu, hentry⟩ := List.mem_filterMap.1 he
    obtain ⟨o, ho, rfl⟩ := List.mem_map.1 hu
    unfold Unknown.entry? at hentry
    dsimp only at hentry
    split at hentry
    · cases hentry
    · rename_i hnull
      cases hentry
      refine ⟨o, ho, rfl, fun hany => ?_⟩
      rw [hany, Bool.true_and, Bool.not_eq_true] at hnull
      exact hnull

/-- A field that must not be null is written under its key where that stands. -/
theorem key_mem_remembered (h : WritableEntries closed fields entries)
    {f : DeclaredField × Shape} (hf : f ∈ fields) (hnullable : f.1.nullable = false)
    {name : Text} {value : Json} (hfind : f.1.find? entries = some (name, value)) :
    f.1.key ∈ Entries.keys (remembered fields entries) := by
  obtain ⟨d, hread, hd⟩ := exists_fieldRead? (h.readable f hf) hfind
    (by rw [hnullable, Bool.false_and])
  have hnull : d.toJson.isNull = false :=
    isNull_of_kind (h.sound.sound f hf) hnullable (kind_toJson_of_read hd)
  have hmem : f.1.key ∈ Entries.keys (parts fields entries) :=
    Entries.mem_keys.2 ⟨_, mem_parts_of_fieldRead? hf hread hnull⟩
  rw [remembered, keys_filterMap_lookup, List.mem_filter]
  exact ⟨List.mem_eraseDups.2 (key_mem_orderOf h.sound hf hread), Entries.isSome_lookup.2 hmem⟩

theorem other (h : WritableEntries closed fields entries) {o : Text × Json}
    (ho : o ∈ undeclared (fields.map Prod.fst) entries) :
    KeptOther closed o.2.finiteOnly := by
  refine ⟨?_, Json.finiteOnly_finiteOnly o.2, ?_⟩
  · cases closed with
    | false => rfl
    | true =>
      rw [h.closes rfl] at ho
      cases ho
  · rw [Json.hasWholeKeys_finiteOnly, h.unknown o ho]

theorem of_mem_remembered {e : Text × Json} (he : e ∈ remembered fields entries) :
    e ∈ parts fields entries ∧ e.1 ∈ orderOf (fields.map Prod.fst) entries := by
  obtain ⟨k, hk, hlookup⟩ := List.mem_filterMap.1 he
  obtain ⟨v, hv, rfl⟩ := Option.map_eq_some_iff.1 hlookup
  exact ⟨Entries.mem_of_lookup hv, List.mem_eraseDups.1 hk⟩

/-- What stands behind the remembered keys is a respelling. -/
theorem of_mem_forgotten (h : WritableEntries closed fields entries) {e : Text × Json}
    (he : e ∈ forgotten fields entries) :
    ∃ o ∈ undeclared (fields.map Prod.fst) entries, e = (o.1, o.2.finiteOnly) ∧
      e.2.isNull = false ∧ ∃ f ∈ fields, f.1.spelling = o.1 ∧ f.1.key ≠ o.1 ∧
        f.1.key ∈ Entries.keys entries := by
  obtain ⟨hpart, hnot⟩ := List.mem_filter.1 he
  have hnot : e.1 ∉ orderOf (fields.map Prod.fst) entries := by simpa using hnot
  rcases of_mem_parts hpart with ⟨f, hf, d, hread, rfl, -⟩ | ⟨o, ho, rfl, hnull⟩
  · exact absurd (key_mem_orderOf h.sound hf hread) hnot
  · cases hnamed : fieldNamed? fields o.1 with
    | none =>
      exact absurd (mem_orderOf_of_unnamed h.sound.apart (List.mem_filter.1 ho).1 hnamed) hnot
    | some f =>
      obtain ⟨hf, hname⟩ := mem_of_fieldNamed? hnamed
      obtain ⟨hne, hkey⟩ := key_of_undeclared ho hf hname
      have hspelling : f.1.spelling = o.1 := (isNamed_iff.1 hname).resolve_left hne
      have hany : ((fields.map Prod.fst).any fun f => f.spelling = o.1) = true :=
        List.any_eq_true.2 ⟨f.1, List.mem_map_of_mem hf, decide_eq_true hspelling⟩
      exact ⟨o, ho, rfl, hnull hany, f, hf, hspelling, hne, hkey⟩

/-- A record that can be written writes entries that are kept. -/
theorem keptEntries (h : WritableEntries closed fields entries) :
    KeptEntries closed fields (remembered fields entries) (forgotten fields entries) where
  nodup := by
    rw [remembered, keys_filterMap_lookup]
    exact (nodup_eraseDups _).filter _
  whole := by
    intro e he
    have hpart : e ∈ parts fields entries := by
      rcases List.mem_append.1 he with he | he
      · exact (of_mem_remembered he).1
      · exact (List.mem_filter.1 he).1
    rcases of_mem_parts hpart with ⟨f, hf, d, -, rfl, -⟩ | ⟨o, ho, rfl, -⟩
    · exact isWhole_of_isSound (h.sound.sound f hf)
    · exact h.whole o (List.mem_filter.1 ho).1
  field := by
    intro e he f hf
    obtain ⟨hpart, horder⟩ := of_mem_remembered he
    obtain ⟨hmem, hnamed⟩ := mem_of_fieldNamed? hf
    have hkey := key_of_mem_orderOf h.sound.apart horder hmem hnamed
    rcases of_mem_parts hpart with ⟨g, hg, d, hread, rfl, hnull⟩ | ⟨o, ho, rfl, -⟩
    · rw [fieldNamed?_key h.sound.apart hg] at hf
      cases hf
      exact ⟨rfl, hnull, h.field f hg _ hread⟩
    · exact absurd hkey.symm (key_of_undeclared ho hmem hnamed).1
  other := by
    intro e he hnone
    rcases of_mem_parts (of_mem_remembered he).1 with ⟨g, hg, d, -, rfl, -⟩ | ⟨o, ho, rfl, -⟩
    · rw [fieldNamed?_key h.sound.apart hg] at hnone
      cases hnone
    · exact h.other ho
  respelling := by
    intro e he
    obtain ⟨o, ho, rfl, hnull, f, hf, hspelling, hne, hkey⟩ := h.of_mem_forgotten he
    obtain ⟨value, hfind⟩ := exists_find?_of_key hkey
    exact ⟨h.other ho, hnull, f, hf, hspelling, hne,
      h.key_mem_remembered hf (h.respelled o ho f hf hspelling) hfind⟩
  required := by
    intro f hf hrequired
    have hnullable : f.1.nullable = false :=
      nullable_of_required (h.sound.sound f hf) hrequired
    cases hfind : f.1.find? entries with
    | none =>
      have hreads := h.readable f hf
      unfold Readable at hreads
      rw [hfind] at hreads
      dsimp only at hreads
      rw [hrequired] at hreads
      cases hreads
    | some e => exact h.key_mem_remembered hf hnullable hfind

end WritableEntries

theorem writableEntries {name : String}
    (hregular : (record name closed fields).isRegular = true)
    (hfields : ∀ f ∈ fields, ∀ j d, f.2.read j = .ok d → d.hasWholeKeys = true →
      ∃ e, Kept f.2 d.toJson e)
    (hrespelled : ∀ e ∈ undeclared (fields.map Prod.fst) entries, ∀ f ∈ fields,
      f.1.spelling = e.1 → f.1.nullable = false)
    {d : Document} (h : (record name closed fields).read (.obj entries) = .ok d)
    (hwritable : d.hasWholeKeys = true) : WritableEntries closed fields entries := by
  obtain ⟨hwhole, hreadable, hcloses, rfl⟩ := read_record_eq_ok_iff.1 h
  rw [Document.hasWholeKeys_record] at hwritable
  refine ⟨sound_of_regular hregular, hwhole, hreadable, hcloses, ?_, ?_, hrespelled⟩
  · exact fun e he => hwritable.2 _ (List.mem_map_of_mem he)
  · intro f hf e he
    obtain ⟨-, value, -, -, -, hread⟩ := of_fieldRead? he
    exact hfields f hf value e.2 hread (hwritable.1 e (List.mem_filterMap.2 ⟨f, hf, he⟩))

end Record

/-! ## All shapes -/

theorem kept_toJson_of_list {item : Shape}
    (ih : ∀ j d, item.read j = .ok d → d.hasWholeKeys = true → ∃ e, Kept item d.toJson e)
    {j : Json} {d : Document} (h : (list item).read j = .ok d) (hwritable : d.hasWholeKeys = true) :
    ∃ e, Kept (list item) d.toJson e := by
  obtain ⟨items, ds, rfl, rfl, hds⟩ := read_list h
  rw [Document.hasWholeKeys, Document.itemsHaveWholeKeys_iff] at hwritable
  have hkept : ∀ k ∈ ds.map Document.toJson, ∃ e, Kept item k e := by
    intro k hk
    obtain ⟨c, hc, rfl⟩ := List.mem_map.1 hk
    obtain ⟨i, -, hi⟩ := mem_of_map_eq_map_ok hds hc
    exact ih i c hi (hwritable c hc)
  obtain ⟨es, hes⟩ := exists_map_eq_map_ok fun k hk => (hkept k hk).imp fun _ he => he.reads
  rw [Document.toJson, Document.itemsToJson_eq_map]
  exact ⟨.list es, kept_list hes hkept⟩

/-- The keys of a map are repaired once. -/
theorem kept_toJson_of_map {value : Shape}
    (ih : ∀ j d, value.read j = .ok d → d.hasWholeKeys = true → ∃ e, Kept value d.toJson e)
    {j : Json} {d : Document} (h : (map value).read j = .ok d) (hwritable : d.hasWholeKeys = true) :
    ∃ e, Kept (map value) d.toJson e := by
  obtain ⟨entries, ds, rfl, rfl, hds⟩ := read_map h
  rw [Document.hasWholeKeys, Document.entriesHaveWholeKeys_iff] at hwritable
  rw [Document.toJson, Document.entriesToJson_eq_map, Document.wholeKeys]
  generalize hparts : ((((Entries.keys entries).zip ds).map fun e => (e.1, e.2.toJson)).map
    fun e => (e.1.repaired, e.2)) = parts
  have hpart : ∀ e ∈ Entries.ofPairs parts, e.1.isWhole = true ∧ ∃ c, Kept value e.2 c := by
    intro e he
    have hmem := Entries.mem_ofPairs he
    rw [← hparts, List.map_map] at hmem
    obtain ⟨o, ho, rfl⟩ := List.mem_map.1 hmem
    obtain ⟨v, -, hv⟩ := mem_of_map_eq_map_ok hds (List.of_mem_zip ho).2
    exact ⟨Text.isWhole_ofString _, ih v.2 o.2 hv (hwritable o ho)⟩
  obtain ⟨es, hes⟩ := exists_map_eq_map_ok fun e he => (hpart e he).2.imp fun _ hc => hc.reads
  exact ⟨_, kept_map (Entries.nodup_ofPairs parts) (fun e he => (hpart e he).1) hes
    fun e he => (hpart e he).2⟩

theorem kept_toJson_of_oneOf {members : List (String × Shape)}
    (hsteady : (oneOf members).isSteady = true)
    (ih : ∀ m ∈ members, ∀ j d, m.2.read j = .ok d → d.hasWholeKeys = true →
      ∃ e, Kept m.2 d.toJson e)
    {j : Json} {d : Document} (h : (oneOf members).read j = .ok d)
    (hwritable : d.hasWholeKeys = true) : ∃ e, Kept (oneOf members) d.toJson e := by
  obtain ⟨c, rfl, hc⟩ := read_oneOf_eq_ok_iff.1 h
  obtain ⟨before, label, s, after, rfl, -, hs⟩ := exists_member_of_readMembers hc
  rw [isSteady, areSteady_iff] at hsteady
  have happart := (List.pairwise_append.1 hsteady.2).2.2
  obtain ⟨e, he⟩ := ih (label, s) (by simp) j c hs (hwritable)
  have hbefore : ∀ m ∈ before, ¬ m.2.Reads c.toJson := fun m hm =>
    not_reads_of_isApart (happart m hm (label, s) List.mem_cons_self)
      (kind_toJson_of_read hs)
  rw [Document.toJson]
  exact ⟨.choice e, kept_oneOf hbefore he⟩

/-- What a document writes that was read by a steady shape is read again and written as it is. -/
theorem kept_toJson (s : Shape) : s.isRegular = true → s.isSteady = true →
    ∀ j d, s.read j = .ok d → d.hasWholeKeys = true → ∃ e, Kept s d.toJson e := by
  have hscalar : ∀ {s : Shape}, s.isScalar = true →
      ∀ j d, s.read j = .ok d → d.hasWholeKeys = true → ∃ e, Kept s d.toJson e := by
    intro s hs j d h _
    have hkept := kept_scalar hs h
    exact ⟨d, by rw [hkept.writes]; exact hkept⟩
  induction s using induct with
  | anything =>
    intro _ _ j d h hwritable
    cases h
    refine ⟨.leaf j.finiteOnly, rfl, Json.finiteOnly_finiteOnly j, ?_⟩
    rw [Document.hasWholeKeys, Json.hasWholeKeys_finiteOnly]
    exact hwritable
  | text => exact fun _ _ => hscalar rfl
  | flag => exact fun _ _ => hscalar rfl
  | count => exact fun _ _ => hscalar rfl
  | word words => exact fun _ _ => hscalar rfl
  | off =>
    intro _ _ j d h _
    obtain ⟨rfl, -, -⟩ := readOff_eq_ok h
    exact ⟨.leaf (.bool false), rfl, rfl, rfl⟩
  | list item ih => exact fun hregular hsteady j d => kept_toJson_of_list (ih hregular hsteady)
  | map value ih => exact fun hregular hsteady j d => kept_toJson_of_map (ih hregular hsteady)
  | oneOf members ih =>
    intro hregular hsteady j d
    have hmembers := (areRegular_iff.1 hregular).1
    have hsteadies := (areSteady_iff.1 hsteady).1
    exact kept_toJson_of_oneOf hsteady fun m hm => ih m hm (hmembers m hm) (hsteadies m hm)
  | record name closed fields ih =>
    intro hregular hsteady j d h hwritable
    obtain ⟨entries, rfl⟩ := read_record h
    have hfields := hregular
    rw [isRegular, Bool.and_eq_true, fieldsRegular_iff] at hfields
    rw [isSteady, fieldsSteady_iff] at hsteady
    have hentries : WritableEntries closed fields entries := by
      refine writableEntries hregular
        (fun f hf => ih f hf (hfields.2 f hf).1 (hsteady f hf).1) ?_ h hwritable
      intro e he f hf hspelling
      rw [← Bool.not_eq_true]
      intro hnullable
      -- A field with one name is read under it.
      have hne := (key_of_undeclared he hf (isNamed_iff.2 (.inr hspelling))).1
      exact hne (((hsteady f hf).2 hnullable).trans hspelling)
    obtain ⟨-, -, -, rfl⟩ := read_record_eq_ok_iff.1 h
    rw [← fieldsRead, toJson_record_eq]
    exact ⟨_, hentries.keptEntries.kept hentries.sound name⟩

end Shape

end ManifestEdit
