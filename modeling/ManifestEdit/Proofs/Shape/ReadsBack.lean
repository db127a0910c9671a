import ManifestEdit.Proofs.Shape.Settled

/-!
# Documents read back

What a document writes that was read by a regular shape is the canonical value of what it was read
from, and is settled: it is read and written again as it stands. The proof is by induction on the
shape. For a record, each field that is not null is settled by hypothesis, and the entries of the
canonical value are the ones that the record writes.
-/

namespace ManifestEdit

namespace Shape

/-- What is asked of a value that a shape reads: besides being plain, that no record holds a field
under both of its names. -/
structure Clean (s : Shape) (j : Json) : Prop extends j.Plain where
  once : s.namesOnce j = true

theorem Settled.clean {s : Shape} {j : Json} {d : Document} (h : Settled s j d) : Clean s j :=
  ⟨⟨h.distinct, h.whole⟩, h.once⟩

/-- What a document writes that was read from a value. -/
structure ReadsBack (s : Shape) (j : Json) (d : Document) : Prop where
  writes : d.toJson = s.canonical j.finiteOnly
  writable : d.hasWholeKeys = true
  settled : ∃ e, Settled s (s.canonical j.finiteOnly) e ∧ (j.isFinite = true → e = d)

theorem readsBack_scalar {s : Shape} (hs : s.isScalar = true) {j : Json} {d : Document}
    (h : s.read j = .ok d) : ReadsBack s j d := by
  have hsettled := settled_scalar hs h
  have hcanonical : s.canonical j.finiteOnly = j := by
    rw [Json.finiteOnly_of_isFinite hsettled.finite, canonical_scalar hs]
  refine ⟨hsettled.writes.trans hcanonical.symm, hsettled.writable, d, ?_, fun _ => rfl⟩
  rw [hcanonical]
  exact hsettled

theorem readsBack_anything {j : Json} (h : Clean anything j) : ReadsBack anything j (.leaf j) := by
  have hplain := h.toPlain.finiteOnly
  refine ⟨rfl, h.whole, .leaf j.finiteOnly, ?_, ?_⟩
  · exact ⟨rfl, Json.finiteOnly_finiteOnly j, hplain.whole, Json.isFinite_finiteOnly j,
      hplain.distinct, hplain.whole, rfl⟩
  · intro hfinite
    rw [Json.finiteOnly_of_isFinite hfinite]

theorem readsBack_off {j : Json} {d : Document} (h : off.read j = .ok d) : ReadsBack off j d := by
  obtain ⟨rfl, -, -⟩ := readOff_eq_ok h
  exact ⟨rfl, rfl, .leaf (.bool false), ⟨rfl, rfl, rfl, rfl, rfl, rfl, rfl⟩, fun _ => rfl⟩

/-- The parts of a value that are read back are settled, and read as what they were read as. -/
theorem exists_settled_parts {α : Type} {item : Shape} {value : α → Json} {as : List α}
    {ds : List Document} (hds : as.map (fun a => item.read (value a)) = ds.map .ok)
    (hback : ∀ a ∈ as, ∀ d, item.read (value a) = .ok d → ReadsBack item (value a) d) :
    (∀ a ∈ as, ∃ e, Settled item (item.canonical (value a).finiteOnly) e) ∧
      ∃ es : List Document,
        as.map (fun a => item.read (item.canonical (value a).finiteOnly)) = es.map .ok ∧
          ((∀ a ∈ as, (value a).isFinite = true) → es = ds) := by
  have hsettled : ∀ a ∈ as, ∃ e, Settled item (item.canonical (value a).finiteOnly) e := by
    intro a ha
    obtain ⟨d, hd⟩ := map_eq_map_ok hds a ha
    exact (hback a ha d hd).settled.imp fun _ he => he.1
  obtain ⟨es, hes⟩ := exists_map_eq_map_ok fun a ha => (hsettled a ha).imp fun _ he => he.reads
  refine ⟨hsettled, es, hes, fun hfinite => ?_⟩
  have hsame : as.map (fun a => item.read (item.canonical (value a).finiteOnly)) =
      as.map fun a => item.read (value a) := by
    refine List.map_congr_left fun a ha => ?_
    obtain ⟨d, hd⟩ := map_eq_map_ok hds a ha
    obtain ⟨e, he, heq⟩ := (hback a ha d hd).settled
    rw [he.reads, hd, heq (hfinite a ha)]
  exact map_ok_injective (hes.symm.trans (hsame.trans hds))

theorem readsBack_list {item : Shape}
    (ih : ∀ j d, Clean item j → item.read j = .ok d → ReadsBack item j d) {j : Json} {d : Document}
    (hclean : Clean (list item) j) (h : (list item).read j = .ok d) :
    ReadsBack (list item) j d := by
  obtain ⟨items, ds, rfl, rfl, hds⟩ := read_list h
  have hback : ∀ i ∈ items, ∀ d, item.read i = .ok d → ReadsBack item i d := fun i hi d hd =>
    ih i d ⟨Json.plain_arr.1 hclean.toPlain i hi, List.all_eq_true.1 hclean.once i hi⟩ hd
  obtain ⟨hsettled, es, hes, hsame⟩ := exists_settled_parts hds hback
  have hcanonical : (list item).canonical (Json.arr items).finiteOnly =
      .arr (items.map fun i => item.canonical i.finiteOnly) := by
    rw [Json.finiteOnly, Json.finiteItems_eq_map, canonical, List.map_map]
    rfl
  refine ⟨?_, ?_, .list es, ?_, ?_⟩
  · rw [hcanonical, Document.toJson, Document.itemsToJson_eq_map,
      map_toJson_eq hds fun i hi d hd => (hback i hi d hd).writes]
  · rw [Document.hasWholeKeys, Document.itemsHaveWholeKeys_iff]
    intro d hd
    obtain ⟨i, hi, hid⟩ := mem_of_map_eq_map_ok hds hd
    exact (hback i hi d hid).writable
  · rw [hcanonical]
    refine settled_list ?_ ?_
    · rw [List.map_map]
      exact hes
    · intro k hk
      obtain ⟨i, hi, rfl⟩ := List.mem_map.1 hk
      exact hsettled i hi
  · intro hfinite
    rw [hsame (Json.isFinite_arr.1 hfinite)]

theorem readsBack_map {value : Shape}
    (ih : ∀ j d, Clean value j → value.read j = .ok d → ReadsBack value j d) {j : Json}
    {d : Document} (hclean : Clean (map value) j) (h : (map value).read j = .ok d) :
    ReadsBack (map value) j d := by
  obtain ⟨entries, ds, rfl, rfl, hds⟩ := read_map h
  obtain ⟨hdistinct, hplain⟩ := Json.plain_obj.1 hclean.toPlain
  have hback : ∀ e ∈ entries, ∀ d, value.read e.2 = .ok d → ReadsBack value e.2 d :=
    fun e he d hd => ih e.2 d ⟨(hplain e he).2, List.all_eq_true.1 hclean.once e he⟩ hd
  obtain ⟨hsettled, es, hes, hsame⟩ := exists_settled_parts hds hback
  have hcanonical : (map value).canonical (Json.obj entries).finiteOnly =
      .obj (entries.map fun e => (e.1, value.canonical e.2.finiteOnly)) := by
    rw [Json.finiteOnly, Json.finiteFields_eq_map, canonical, List.map_map]
    rfl
  have hkeys : Entries.keys (entries.map fun e => (e.1, value.canonical e.2.finiteOnly)) =
      Entries.keys entries := by
    rw [Entries.keys, List.map_map]
    rfl
  have hnodup : (Entries.keys (entries.map fun e =>
      (e.1, value.canonical e.2.finiteOnly))).Nodup := by
    rw [hkeys]
    exact hdistinct
  have hwholeKeys : ∀ e ∈ entries.map (fun e => (e.1, value.canonical e.2.finiteOnly)),
      e.1.isWhole = true := by
    intro k hk
    obtain ⟨e, he, rfl⟩ := List.mem_map.1 hk
    exact (hplain e he).1
  have hwrites : (Document.map ((Entries.keys entries).zip ds)).toJson =
      .obj (entries.map fun e => (e.1, value.canonical e.2.finiteOnly)) := by
    rw [Document.toJson, toJson_zip hds fun e he d hd => (hback e he d hd).writes,
      Document.wholeKeys_of_isWhole hwholeKeys hnodup]
  refine ⟨hwrites.trans hcanonical.symm, ?_, .map ((Entries.keys entries).zip es), ?_, ?_⟩
  · rw [Document.hasWholeKeys, Document.entriesHaveWholeKeys_iff]
    intro e he
    obtain ⟨o, ho, hd⟩ := mem_of_map_eq_map_ok hds (List.of_mem_zip he).2
    exact (hback o ho _ hd).writable
  · rw [hcanonical, ← hkeys]
    refine settled_map hnodup hwholeKeys ?_ ?_
    · rw [List.map_map]
      exact hes
    · intro k hk
      obtain ⟨e, he, rfl⟩ := List.mem_map.1 hk
      exact hsettled e he
  · intro hfinite
    rw [hsame (Json.isFinite_obj.1 hfinite)]

theorem readsBack_oneOf {members : List (String × Shape)}
    (hregular : (oneOf members).isRegular = true)
    (ih : ∀ m ∈ members, ∀ j d, Clean m.2 j → m.2.read j = .ok d → ReadsBack m.2 j d) {j : Json}
    {d : Document} (hclean : Clean (oneOf members) j) (h : (oneOf members).read j = .ok d) :
    ReadsBack (oneOf members) j d := by
  obtain ⟨c, rfl, hc⟩ := read_oneOf_eq_ok_iff.1 h
  obtain ⟨before, label, s, after, rfl, hbefore, hs⟩ := exists_member_of_readMembers hc
  have honce := hclean.once
  rw [namesOnce, memberNamesOnce_append hbefore ⟨c, hs⟩] at honce
  have hback := ih (label, s) (by simp) j c ⟨hclean.toPlain, honce⟩ hs
  obtain ⟨hfirst, hfirst'⟩ := first_of_regular hregular hbefore ⟨c, hs⟩
  obtain ⟨e, he, heq⟩ := hback.settled
  have hcanonical : (oneOf (before ++ (label, s) :: after)).canonical j.finiteOnly =
      s.canonical j.finiteOnly := by
    rw [canonical]
    exact canonicalMember_append hfirst (reads_finiteOnly s j ⟨c, hs⟩)
  refine ⟨?_, ?_, .choice e, ?_, fun hfinite => by rw [heq hfinite]⟩
  · rw [hcanonical, Document.toJson, hback.writes]
  · rw [Document.hasWholeKeys, hback.writable]
  · rw [hcanonical]
    exact settled_oneOf hfirst' he

/-! ## Records -/

section Record

variable {closed : Bool} {fields : List (DeclaredField × Shape)} {entries : List (Text × Json)}

theorem reads_of_readable (hnodup : (Entries.keys entries).Nodup)
    (honce : standOnce fields entries = true) {e : Text × Json} (he : e ∈ entries)
    {f : DeclaredField × Shape} (hf : fieldNamed? fields e.1 = some f)
    (hreadable : Readable entries f) (hnull : e.2.isNull = false) : f.2.Reads e.2 := by
  obtain ⟨hmem, hnamed⟩ := mem_of_fieldNamed? hf
  unfold Readable at hreadable
  rw [(find?_eq_some_iff hnodup honce hmem).2 ⟨he, hnamed⟩] at hreadable
  rcases hreadable with h | h
  · rw [hnull, Bool.and_false] at h
    cases h
  · exact h

/-- What is known of the entries of a record that was read. -/
structure ReadEntries (closed : Bool) (fields : List (DeclaredField × Shape))
    (entries : List (Text × Json)) : Prop where
  sound : Sound fields
  nodup : (Entries.keys entries).Nodup
  once : standOnce fields entries = true
  whole : ∀ e ∈ entries, e.1.isWhole = true
  plain : ∀ e ∈ entries, e.2.Plain
  readable : ∀ f ∈ fields, Readable entries f
  closes : closed = true → undeclared (fields.map Prod.fst) entries = []
  back : ∀ e ∈ entries, ∀ f, fieldNamed? fields e.1 = some f →
    ∀ d, f.2.read e.2 = .ok d → ReadsBack f.2 e.2 d

/-- The entry of the canonical value for an entry that was read. -/
def settledPart? (fields : List (DeclaredField × Shape)) (e : Text × Json) :
    Option (Text × Json) :=
  canonicalEntry fields (e.1, e.2.finiteOnly)

namespace ReadEntries

theorem reads (h : ReadEntries closed fields entries) {e : Text × Json} (he : e ∈ entries)
    {f : DeclaredField × Shape} (hf : fieldNamed? fields e.1 = some f)
    (hnull : e.2.isNull = false) : f.2.Reads e.2 :=
  reads_of_readable h.nodup h.once he hf (h.readable f (mem_of_fieldNamed? hf).1) hnull

theorem isNull_canonical {f : DeclaredField × Shape} {j : Json} (h : f.2.Reads j) :
    (f.2.canonical j.finiteOnly).isNull = j.finiteOnly.isNull :=
  (keepsKind f.2 j.finiteOnly (reads_finiteOnly f.2 j h)).null

theorem settledPart?_field {e : Text × Json} {f : DeclaredField × Shape}
    (hf : fieldNamed? fields e.1 = some f) :
    settledPart? fields e =
      if e.2.finiteOnly.isNull then none
      else some (f.1.key, f.2.canonical e.2.finiteOnly) := by
  rw [settledPart?, canonicalEntry_eq]
  dsimp only
  rw [hf]

theorem settledPart?_other {e : Text × Json} (hf : fieldNamed? fields e.1 = none) :
    settledPart? fields e = some (e.1, e.2.finiteOnly) := by
  rw [settledPart?, canonicalEntry_eq]
  dsimp only
  rw [hf]

theorem written?_eq (h : ReadEntries closed fields entries) {e : Text × Json} (he : e ∈ entries) :
    written? fields e = settledPart? fields e := by
  cases hf : fieldNamed? fields e.1 with
  | none => rw [written?_other hf, settledPart?_other hf]
  | some f =>
    rw [settledPart?_field hf]
    cases hnull : e.2.isNull with
    | true =>
      rw [if_pos (Json.isNull_finiteOnly hnull), written?, hf]
      dsimp only
      rw [hnull]
      split <;> rfl
    | false =>
      obtain ⟨d, hd⟩ := h.reads he hf hnull
      rw [written?_field hf hd, (h.back e he f hf d hd).writes, isNull_canonical ⟨d, hd⟩, hnull,
        Bool.false_or]

theorem written_eq (h : ReadEntries closed fields entries) :
    entries.filterMap (written? fields) = entries.filterMap (settledPart? fields) :=
  List.filterMap_congr fun _ he => h.written?_eq he

/-- An entry of the canonical value comes from an entry that was read. -/
theorem of_mem (h : ReadEntries closed fields entries) {e : Text × Json}
    (he : e ∈ entries.filterMap (settledPart? fields)) :
    (∃ o ∈ entries, ∃ f, fieldNamed? fields o.1 = some f ∧ f.2.Reads o.2 ∧
        o.2.finiteOnly.isNull = false ∧ e = (f.1.key, f.2.canonical o.2.finiteOnly)) ∨
      ∃ o ∈ entries, fieldNamed? fields o.1 = none ∧ e = (o.1, o.2.finiteOnly) := by
  obtain ⟨o, ho, hoe⟩ := List.mem_filterMap.1 he
  cases hf : fieldNamed? fields o.1 with
  | none =>
    rw [settledPart?_other hf] at hoe
    cases hoe
    exact .inr ⟨o, ho, hf, rfl⟩
  | some f =>
    rw [settledPart?_field hf] at hoe
    split at hoe
    · cases hoe
    · rename_i hnull
      cases hoe
      rw [Bool.not_eq_true] at hnull
      have honull := Json.not_isNull_of_finiteOnly hnull
      exact .inl ⟨o, ho, f, hf, h.reads ho hf honull, hnull, rfl⟩

/-- A field that must be present was read from an entry that does not write null. -/
theorem exists_of_required (h : ReadEntries closed fields entries) {f : DeclaredField × Shape}
    (hf : f ∈ fields) (hrequired : f.1.required = true) :
    ∃ e ∈ entries, fieldNamed? fields e.1 = some f ∧ f.2.Reads e.2 ∧
      e.2.finiteOnly.isNull = false := by
  have hreadable := h.readable f hf
  unfold Readable at hreadable
  split at hreadable
  · rw [hrequired] at hreadable
    cases hreadable
  · rename_i name value hfind
    obtain ⟨hmem, hnamed⟩ := (find?_eq_some_iff h.nodup h.once hf).1 hfind
    have hsound := h.sound.sound f hf
    have hnullable : f.1.nullable = false := nullable_of_required hsound hrequired
    have hreads : f.2.Reads value := by
      rcases hreadable with hnull | hreads
      · rw [hnullable] at hnull
        cases hnull
      · exact hreads
    have hnull := isNull_of_nullable hsound (reads_finiteOnly f.2 value hreads)
      (by rw [hnullable, Bool.false_and])
    exact ⟨(name, value), hmem, fieldNamed?_of_mem h.sound.apart hf hnamed, hreads, hnull⟩

theorem settledEntries (h : ReadEntries closed fields entries) :
    SettledEntries closed fields (entries.filterMap (settledPart? fields)) where
  nodup := by
    rw [← h.written_eq]
    exact (keys_written_sublist h.sound.apart).nodup (nodup_orderOf h.sound.apart h.nodup h.once)
  whole := by
    intro e he
    rcases h.of_mem he with ⟨o, ho, f, hf, -, -, rfl⟩ | ⟨o, ho, -, rfl⟩
    · have hsound := h.sound.sound f (mem_of_fieldNamed? hf).1
      exact (Bool.and_eq_true _ _ ▸ hsound).1
    · exact h.whole o ho
  field := by
    intro e he g hg
    rcases h.of_mem he with ⟨o, ho, f, hf, hreads, hnull, rfl⟩ | ⟨o, ho, hnone, rfl⟩
    · have hfg := fieldNamed?_key h.sound.apart (mem_of_fieldNamed? hf).1
      rw [hfg] at hg
      cases hg
      obtain ⟨d, hd⟩ := hreads
      obtain ⟨c, hc, -⟩ := (h.back o ho g hf d hd).settled
      exact ⟨rfl, (isNull_canonical ⟨d, hd⟩).trans hnull, c, hc⟩
    · rw [hnone] at hg
      cases hg
  other := by
    intro e he hother
    rcases h.of_mem he with ⟨o, ho, f, hf, -, -, rfl⟩ | ⟨o, ho, hnone, rfl⟩
    · rw [fieldNamed?_key h.sound.apart (mem_of_fieldNamed? hf).1] at hother
      cases hother
    · have hplain := (h.plain o ho).finiteOnly
      refine ⟨?_, Json.isFinite_finiteOnly o.2, hplain.distinct, hplain.whole⟩
      cases hclosed : closed with
      | false => rfl
      | true =>
        have hnil := h.closes hclosed
        rw [undeclared_eq h.sound.apart h.nodup h.once] at hnil
        have hmem : o ∈ others fields entries :=
          List.mem_filter.2 ⟨ho, Option.isNone_iff_eq_none.2 hnone⟩
        rw [hnil] at hmem
        cases hmem
  required := by
    intro f hf hrequired
    obtain ⟨e, he, hnamed, -, hnull⟩ := h.exists_of_required hf hrequired
    refine Entries.mem_keys.2 ⟨f.2.canonical e.2.finiteOnly, List.mem_filterMap.2 ⟨e, he, ?_⟩⟩
    rw [settledPart?_field hnamed, hnull]
    rfl

/-! Where all numbers are finite, the same record is read from the canonical value. -/

theorem fieldsRead_settled (h : ReadEntries closed fields entries)
    (hfinite : ∀ e ∈ entries, e.2.isFinite = true) :
    fieldsRead fields (entries.filterMap (settledPart? fields)) = fieldsRead fields entries := by
  have hentries := h.settledEntries
  refine List.filterMap_congr fun f hf => Option.ext fun r => ?_
  obtain ⟨key, d⟩ := r
  rw [fieldRead?_eq_some_iff h.sound hentries.nodup (hentries.standOnce h.sound) hf,
    fieldRead?_eq_some_iff h.sound h.nodup h.once hf]
  refine and_congr_right fun hkey => ?_
  constructor
  · rintro ⟨e, he, hnamed, -, hread⟩
    rcases h.of_mem he with ⟨o, ho, g, hg, ⟨c, hc⟩, hnull, rfl⟩ | ⟨o, ho, hnone, rfl⟩
    · rw [fieldNamed?_key h.sound.apart (mem_of_fieldNamed? hg).1] at hnamed
      cases hnamed
      obtain ⟨b, hb, heq⟩ := (h.back o ho f hg c hc).settled
      rw [Json.finiteOnly_of_isFinite (hfinite o ho)] at hnull
      refine ⟨o, ho, hg, hnull, ?_⟩
      rw [hc, ← heq (hfinite o ho), hb.eq_of_read hread]
    · rw [hnone] at hnamed
      cases hnamed
  · rintro ⟨o, ho, hnamed, hnull, hread⟩
    obtain ⟨b, hb, heq⟩ := (h.back o ho f hnamed d hread).settled
    have hsame := Json.finiteOnly_of_isFinite (hfinite o ho)
    have hvalue := isNull_canonical ⟨d, hread⟩
    rw [hsame, hnull] at hvalue
    refine ⟨(f.1.key, f.2.canonical o.2.finiteOnly), List.mem_filterMap.2 ⟨o, ho, ?_⟩,
      fieldNamed?_key h.sound.apart hf, ?_, ?_⟩
    · rw [settledPart?_field hnamed, hsame, hnull]
      rfl
    · rw [hsame]
      exact hvalue
    · rw [hb.reads, heq (hfinite o ho)]

theorem others_settled (h : ReadEntries closed fields entries)
    (hfinite : ∀ e ∈ entries, e.2.isFinite = true) :
    others fields (entries.filterMap (settledPart? fields)) = others fields entries := by
  rw [others, others, List.filter_filterMap, ← List.filterMap_eq_filter]
  refine List.filterMap_congr fun o ho => ?_
  cases hf : fieldNamed? fields o.1 with
  | none =>
    rw [settledPart?_other hf, Json.finiteOnly_of_isFinite (hfinite o ho)]
    simp [Option.guard, hf]
  | some f =>
    have hkey := fieldNamed?_key h.sound.apart (mem_of_fieldNamed? hf).1
    rw [settledPart?_field hf]
    split
    · simp [Option.guard, hf]
    · simp [Option.guard, hf, hkey]

theorem orderOf_settled (h : ReadEntries closed fields entries)
    (hfinite : ∀ e ∈ entries, e.2.isFinite = true) :
    orderOf (fields.map Prod.fst) (entries.filterMap (settledPart? fields)) =
      orderOf (fields.map Prod.fst) entries := by
  rw [orderOf_eq h.sound.apart, orderOf_eq h.sound.apart, List.filterMap_filterMap]
  refine List.filterMap_congr fun o ho => ?_
  have hsame := Json.finiteOnly_of_isFinite (hfinite o ho)
  cases hf : fieldNamed? fields o.1 with
  | none => rw [settledPart?_other hf, hsame, Option.bind_some]
  | some f =>
    rw [settledPart?_field hf, hsame, keyRead?, hf]
    dsimp only
    cases hnull : o.2.isNull with
    | true => rfl
    | false =>
      have hvalue := isNull_canonical (h.reads ho hf hnull)
      rw [hsame, hnull] at hvalue
      rw [if_neg Bool.false_ne_true, Option.bind_some, keyRead?,
        fieldNamed?_key h.sound.apart (mem_of_fieldNamed? hf).1]
      dsimp only
      rw [hvalue]

theorem writable (h : ReadEntries closed fields entries) :
    (Document.record (fieldsRead fields entries) (unknownOf (fields.map Prod.fst) entries)
      (orderOf (fields.map Prod.fst) entries)).hasWholeKeys = true := by
  rw [Document.hasWholeKeys_record]
  constructor
  · rintro ⟨key, d⟩ hd
    obtain ⟨f, hf, hread⟩ := List.mem_filterMap.1 hd
    obtain ⟨-, e, he, hnamed, -, hed⟩ :=
      (fieldRead?_eq_some_iff h.sound h.nodup h.once hf).1 hread
    exact (h.back e he f hnamed d hed).writable
  · intro u hu
    rw [unknownOf_eq h.sound.apart h.nodup h.once] at hu
    obtain ⟨e, he, rfl⟩ := List.mem_map.1 hu
    exact (h.plain e (List.mem_filter.1 he).1).whole

end ReadEntries

/-- What is asked of a record is asked of its fields. -/
theorem Clean.field {name : String} (h : Clean (record name closed fields) (.obj entries))
    {e : Text × Json} (he : e ∈ entries) {f : DeclaredField × Shape}
    (hf : fieldNamed? fields e.1 = some f) : Clean f.2 e.2 := by
  have honce := h.once
  rw [namesOnce, Bool.and_eq_true, List.all_eq_true] at honce
  have heonce := honce.2 e he
  rw [entryNamesOnce_eq, hf] at heonce
  exact ⟨((Json.plain_obj.1 h.toPlain).2 e he).2, heonce⟩

theorem Clean.standOnce {name : String} (h : Clean (record name closed fields) (.obj entries)) :
    standOnce fields entries = true := by
  have honce := h.once
  rw [namesOnce, Bool.and_eq_true] at honce
  exact honce.1

theorem readEntries {name : String} (hregular : (record name closed fields).isRegular = true)
    (ih : ∀ f ∈ fields, ∀ j d, Clean f.2 j → f.2.read j = .ok d → ReadsBack f.2 j d)
    {d : Document} (hclean : Clean (record name closed fields) (.obj entries))
    (h : (record name closed fields).read (.obj entries) = .ok d) :
    ReadEntries closed fields entries := by
  obtain ⟨hwhole, hreadable, hclosed, -⟩ := read_record_eq_ok_iff.1 h
  obtain ⟨hnodup, hplain⟩ := Json.plain_obj.1 hclean.toPlain
  refine ⟨sound_of_regular hregular, hnodup, hclean.standOnce, hwhole,
    fun e he => (hplain e he).2, hreadable, hclosed, ?_⟩
  intro e he f hf d hd
  exact ih f (mem_of_fieldNamed? hf).1 e.2 d (hclean.field he hf) hd

theorem canonical_record (name : String) :
    (record name closed fields).canonical (Json.obj entries).finiteOnly =
      .obj (entries.filterMap (settledPart? fields)) := by
  rw [Json.finiteOnly, Json.finiteFields_eq_map, canonical, List.filterMap_map]
  rfl

theorem readsBack_record {name : String}
    (hregular : (record name closed fields).isRegular = true)
    (ih : ∀ f ∈ fields, ∀ j d, Clean f.2 j → f.2.read j = .ok d → ReadsBack f.2 j d)
    {d : Document} (hclean : Clean (record name closed fields) (.obj entries))
    (h : (record name closed fields).read (.obj entries) = .ok d) :
    ReadsBack (record name closed fields) (.obj entries) d := by
  have hentries := readEntries hregular ih hclean h
  obtain ⟨-, -, -, rfl⟩ := read_record_eq_ok_iff.1 h
  have hsettled := hentries.settledEntries.settled hentries.sound name
  rw [← canonical_record name] at hsettled
  refine ⟨?_, hentries.writable, _, hsettled, ?_⟩
  · rw [canonical_record, ← hentries.written_eq]
    exact toJson_record hentries.sound hentries.nodup hentries.once
  · intro hfinite
    rw [Json.isFinite_obj] at hfinite
    rw [hentries.fieldsRead_settled hfinite, hentries.orderOf_settled hfinite,
      unknownOf_eq hentries.sound.apart hentries.settledEntries.nodup
        (hentries.settledEntries.standOnce hentries.sound),
      hentries.others_settled hfinite, ← unknownOf_eq hentries.sound.apart hentries.nodup
        hentries.once]
    rfl

end Record

/-! ## All shapes -/

/-- A document that was read by a regular shape writes the canonical value, which is settled. -/
theorem readsBack (s : Shape) : s.isRegular = true →
    ∀ j d, Clean s j → s.read j = .ok d → ReadsBack s j d := by
  induction s using induct with
  | anything =>
    intro _ j d hclean h
    cases h
    exact readsBack_anything hclean
  | text => exact fun _ j d _ h => readsBack_scalar rfl h
  | flag => exact fun _ j d _ h => readsBack_scalar rfl h
  | count => exact fun _ j d _ h => readsBack_scalar rfl h
  | word words => exact fun _ j d _ h => readsBack_scalar rfl h
  | off => exact fun _ j d _ h => readsBack_off h
  | list item ih => exact fun hregular j d hclean h => readsBack_list (ih hregular) hclean h
  | map value ih => exact fun hregular j d hclean h => readsBack_map (ih hregular) hclean h
  | oneOf members ih =>
    intro hregular j d hclean h
    have hmembers := (areRegular_iff.1 hregular).1
    exact readsBack_oneOf hregular (fun m hm => ih m hm (hmembers m hm)) hclean h
  | record name closed fields ih =>
    intro hregular j d hclean h
    obtain ⟨entries, rfl⟩ := read_record h
    have hfields := hregular
    rw [isRegular, Bool.and_eq_true, fieldsRegular_iff] at hfields
    exact readsBack_record hregular (fun f hf => ih f hf (hfields.2 f hf).1) hclean h

theorem readEntries_of_regular {name : String} {closed : Bool}
    {fields : List (DeclaredField × Shape)} {entries : List (Text × Json)} {d : Document}
    (hregular : (record name closed fields).isRegular = true)
    (hclean : Clean (record name closed fields) (.obj entries))
    (h : (record name closed fields).read (.obj entries) = .ok d) :
    ReadEntries closed fields entries := by
  have hfields := hregular
  rw [isRegular, Bool.and_eq_true, fieldsRegular_iff] at hfields
  exact readEntries hregular (fun f hf => readsBack f.2 (hfields.2 f hf).1) hclean h

/-! ## Documents that can be written -/

/-- A document that is written as null or as a settled value. -/
structure Writes (s : Shape) (d : Document) : Prop where
  writable : d.hasWholeKeys = true
  settled : d.toJson.isNull = false → ∃ e, Settled s d.toJson e

theorem ReadsBack.toWrites {s : Shape} {j : Json} {d : Document} (h : ReadsBack s j d) :
    Writes s d := by
  refine ⟨h.writable, fun _ => ?_⟩
  rw [h.writes]
  exact h.settled.imp fun _ he => he.1

theorem Settled.toWrites {s : Shape} {j : Json} {d : Document} (h : Settled s j d) :
    Writes s d := by
  refine ⟨h.writable, fun _ => ⟨d, ?_⟩⟩
  rw [h.writes]
  exact h

end Shape

end ManifestEdit
