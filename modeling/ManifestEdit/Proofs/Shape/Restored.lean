import ManifestEdit.Proofs.Document.Content
import ManifestEdit.Proofs.Shape.ReadsBack
import ManifestEdit.Proofs.Shape.Rewritten

/-!
# Documents that are restored

A document is restored when what it writes is read with the same content. A list or a map is
restored when its values are, and a choice when its value is. The converse for a choice is not
plain: a later member may read what is written, but then the choice holds no record.
-/

namespace ManifestEdit

namespace Shape

/-- Whether what a document writes is read with the same content. -/
def Restored (s : Shape) (d : Document) : Prop :=
  ∃ e, s.read d.toJson = .ok e ∧ d.SameContent e

theorem restored_leaf {s : Shape} {j : Json} (h : s.read j = .ok (.leaf j))
    (hfinite : j.isFinite = true) : s.Restored (.leaf j) := by
  refine ⟨.leaf j, ?_, .leaf j⟩
  rw [Document.toJson, Json.finiteOnly_of_isFinite hfinite]
  exact h

/-! ## Lists and maps -/

theorem exists_map_read_iff {s : Shape} {ds : List Document} :
    (∃ es : List Document, ds.map (fun d => s.read d.toJson) = es.map .ok ∧
      List.Forall₂ Document.SameContent ds es) ↔ ∀ d ∈ ds, s.Restored d := by
  induction ds with
  | nil => exact ⟨fun _ d hd => absurd hd List.not_mem_nil, fun _ => ⟨[], rfl, .nil⟩⟩
  | cons d rest ih =>
    rw [List.forall_mem_cons, ← ih]
    constructor
    · rintro ⟨_, hread, hsame⟩
      cases hsame with
      | cons hd hrest =>
        rw [List.map_cons, List.map_cons, List.cons.injEq] at hread
        exact ⟨⟨_, hread.1, hd⟩, _, hread.2, hrest⟩
    · rintro ⟨⟨e, he, hd⟩, es, hes, hrest⟩
      exact ⟨e :: es, by rw [List.map_cons, List.map_cons, he, hes], .cons hd hrest⟩

theorem restored_list_iff {item : Shape} {ds : List Document} :
    (list item).Restored (.list ds) ↔ ∀ d ∈ ds, item.Restored d := by
  rw [← exists_map_read_iff, Restored, Document.toJson, Document.itemsToJson_eq_map]
  constructor
  · rintro ⟨_, hread, hsame⟩
    obtain ⟨es, rfl, hes⟩ := read_list_eq_ok_iff.1 hread
    rw [List.map_map] at hes
    cases hsame with
    | list items => exact ⟨es, hes, items⟩
  · rintro ⟨es, hes, hsame⟩
    refine ⟨.list es, read_list_eq_ok_iff.2 ⟨es, rfl, ?_⟩, .list hsame⟩
    rw [List.map_map]
    exact hes

theorem keys_toJson_zip {keys : List Text} {ds : List Document}
    (hlength : keys.length = ds.length) :
    Entries.keys ((keys.zip ds).map fun e => (e.1, e.2.toJson)) = keys := by
  rw [Entries.keys, List.map_map]
  exact List.map_fst_zip (Nat.le_of_eq hlength)

/-- A map under whole and distinct keys writes them as they are. -/
theorem toJson_map {keys : List Text} {ds : List Document} (hlength : keys.length = ds.length)
    (hwhole : ∀ k ∈ keys, k.isWhole = true) (hnodup : keys.Nodup) :
    (Document.map (keys.zip ds)).toJson = .obj ((keys.zip ds).map fun e => (e.1, e.2.toJson)) := by
  have hkeys := keys_toJson_zip hlength
  rw [Document.toJson, Document.entriesToJson_eq_map, Document.wholeKeys_of_isWhole ?_ ?_]
  · intro e he
    exact hwhole e.1 (hkeys ▸ Entries.mem_keys.2 ⟨e.2, he⟩)
  · rw [hkeys]
    exact hnodup

theorem restored_map_iff {value : Shape} {keys : List Text} {ds : List Document}
    (hlength : keys.length = ds.length) (hwhole : ∀ k ∈ keys, k.isWhole = true)
    (hnodup : keys.Nodup) :
    (map value).Restored (.map (keys.zip ds)) ↔ ∀ d ∈ ds, value.Restored d := by
  have hkeys := keys_toJson_zip hlength
  have hvalues : ((keys.zip ds).map fun e => (e.1, e.2.toJson)).map (fun e => value.read e.2) =
      ds.map fun d => value.read d.toJson := by
    have hsnd := congrArg (List.map fun d => value.read d.toJson)
      (List.map_snd_zip (Nat.le_of_eq hlength.symm))
    rw [List.map_map] at hsnd ⊢
    exact hsnd
  have hlengths : ∀ {es : List Document}, ds.map (fun d => value.read d.toJson) = es.map .ok →
      keys.length = es.length := by
    intro es hes
    have h := congrArg List.length hes
    rw [List.length_map, List.length_map] at h
    exact hlength.trans h
  rw [← exists_map_read_iff, Restored, toJson_map hlength hwhole hnodup]
  constructor
  · rintro ⟨_, hread, hsame⟩
    obtain ⟨es, rfl, hes⟩ := read_map_eq_ok_iff.1 hread
    rw [hvalues] at hes
    rw [hkeys] at hsame
    cases hsame with
    | map entries =>
      exact ⟨es, hes, (Document.sameEntries_zip_iff hlength (hlengths hes)).1 entries⟩
  · rintro ⟨es, hes, hsame⟩
    refine ⟨.map (keys.zip es), read_map_eq_ok_iff.2 ⟨es, by rw [hkeys], ?_⟩,
      .map ((Document.sameEntries_zip_iff hlength (hlengths hes)).2 hsame)⟩
    rw [hvalues]
    exact hes

/-! ## Choices -/

theorem namesOnce_of_isVerbatim (s : Shape) : s.isVerbatim = true →
    ∀ j, s.namesOnce j = true := by
  induction s using induct with
  | anything => exact fun h => absurd h Bool.false_ne_true
  | text => exact fun _ => namesOnce_scalar rfl
  | flag => exact fun _ => namesOnce_scalar rfl
  | count => exact fun _ => namesOnce_scalar rfl
  | word words => exact fun _ => namesOnce_scalar rfl
  | off => exact fun h => absurd h Bool.false_ne_true
  | list item ih =>
    intro hitem j
    cases j with
    | arr items =>
      rw [namesOnce, List.all_eq_true]
      exact fun i _ => ih hitem i
    | _ => rfl
  | map value ih =>
    intro hvalue j
    cases j with
    | obj entries =>
      rw [namesOnce, List.all_eq_true]
      exact fun e _ => ih hvalue e.2
    | _ => rfl
  | oneOf members ih => exact fun h => absurd h Bool.false_ne_true
  | record name closed fields ih => exact fun h => absurd h Bool.false_ne_true

theorem toJson_of_isVerbatim {s : Shape} (hregular : s.isRegular = true)
    (hverbatim : s.isVerbatim = true) {j : Json} (hplain : j.Plain) {d : Document}
    (h : s.read j = .ok d) : d.toJson = j := by
  have hback := readsBack s hregular j d ⟨hplain, namesOnce_of_isVerbatim s hverbatim j⟩ h
  obtain ⟨hfinite, hsame⟩ := canonical_of_isVerbatim s hverbatim j ⟨d, h⟩
  rw [hback.writes, Json.finiteOnly_of_isFinite hfinite, hsame]

theorem bare_of_isVerbatim {s : Shape} {j : Json} {d : Document} (hverbatim : s.isVerbatim = true)
    (h : s.read j = .ok d) : d.Bare := by
  induction h using read_induct with
  | scalar s j d h hs =>
    rw [(read_scalar hs h).1]
    exact .leaf j
  | anything j => cases hverbatim
  | off j h => cases hverbatim
  | list item items ds h ih =>
    refine .list fun d hd => ?_
    obtain ⟨i, -, -, hpart⟩ := ih d hd
    exact hpart hverbatim
  | map value entries ds h ih =>
    refine .map fun e he => ?_
    obtain ⟨i, -, -, hpart⟩ := ih e.2 (List.of_mem_zip he).2
    exact hpart hverbatim
  | oneOf members m j d h hm hread hpart => cases hverbatim
  | record name closed fields entries d h ih => cases hverbatim

section Choice

variable {before after : List (String × Shape)} {label : String} {s : Shape} {j : Json}
  {c : Document}

/-- What the member writes that reads a value is read by no earlier member. -/
theorem not_reads_toJson (hregular : (oneOf (before ++ (label, s) :: after)).isRegular = true)
    (hbefore : ∀ m ∈ before, ¬ m.2.Reads j) (hplain : j.Plain) (hs : s.read j = .ok c) :
    ∀ m ∈ before, ¬ m.2.Reads c.toJson := by
  intro m hm
  rw [isRegular, areRegular_iff] at hregular
  have hpairs := (List.pairwise_append.1 hregular.2).2.2
  rcases Bool.or_eq_true _ _ ▸ hpairs m hm (label, s) List.mem_cons_self with happart | hverbatim
  · exact not_reads_of_isApart happart (kind_toJson_of_read hs)
  · rw [toJson_of_isVerbatim (hregular.1 (label, s) (by simp)) hverbatim hplain hs]
    exact hbefore m hm

theorem restored_oneOf (hfirst : ∀ m ∈ before, ¬ m.2.Reads c.toJson) (h : s.Restored c) :
    (oneOf (before ++ (label, s) :: after)).Restored (.choice c) := by
  obtain ⟨e, hread, hsame⟩ := h
  refine ⟨.choice e, ?_, .choice hsame⟩
  rw [Document.toJson]
  exact read_oneOf_eq_ok_iff.2 ⟨e, rfl, readMembers_append hfirst hread⟩

/-- A choice that is restored is read by the same member, unless it holds no record. -/
theorem restored_or_bare (hregular : (oneOf (before ++ (label, s) :: after)).isRegular = true)
    (hfirst : ∀ m ∈ before, ¬ m.2.Reads c.toJson) (hs : s.read j = .ok c)
    (h : (oneOf (before ++ (label, s) :: after)).Restored (.choice c)) :
    s.Restored c ∨ c.Bare := by
  obtain ⟨_, hread, hsame⟩ := h
  rw [Document.toJson] at hread
  obtain ⟨e, rfl, he⟩ := read_oneOf_eq_ok_iff.1 hread
  have hvalue : c.SameContent e := by
    cases hsame with
    | choice value => exact value
  rw [readMembers_append_iff hfirst] at he
  rcases readMembers_cons_eq_ok_iff.1 he with he | ⟨-, he⟩
  · exact .inl ⟨e, he, hvalue⟩
  · -- A later member that reads what `s` writes is not apart from `s`, so it is verbatim.
    obtain ⟨front, other, t, back, rfl, -, ht⟩ := exists_member_of_readMembers he
    rw [isRegular, areRegular_iff] at hregular
    have hpairs := (List.pairwise_cons.1 (List.pairwise_append.1 hregular.2).2.1).1
    rcases Bool.or_eq_true _ _ ▸ hpairs (other, t) (by simp) with happart | hverbatim
    · exact absurd ⟨e, ht⟩
        (not_reads_of_isApart (isApart_comm ▸ happart) (kind_toJson_of_read hs))
    · exact .inr ((bare_of_isVerbatim hverbatim ht).of_sameContent hvalue)

end Choice

end Shape

end ManifestEdit
