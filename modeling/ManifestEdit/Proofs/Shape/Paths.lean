import ManifestEdit.Proofs.Number.ReadBack
import ManifestEdit.Proofs.Shape.Places

/-!
# Paths told apart

A path is cut into its parts again at the marks with which they begin: two places of a value have
different paths where no key is empty or holds a mark. A part that selects nothing is not shown,
wherever it stands.
-/

namespace ManifestEdit

/-! ## Marks -/

namespace Letter

/-- Whether a part of a path may begin with the letter. -/
def isMark (l : Letter) : Bool :=
  l = '.' || l = '['

theorem isMark_of_isDigit {c : Char} (h : c.isDigit = true) : (char c).isMark = false := by
  rw [Bool.eq_false_iff]
  intro hmark
  simp only [isMark, Bool.or_eq_true, decide_eq_true_iff, char.injEq] at hmark
  rcases hmark with rfl | rfl <;> cases h

end Letter

/-- Letters that a run without marks in front of them does not run into. -/
def StartsMarked (ls : List Letter) : Prop :=
  ∀ l ∈ ls.head?, l.isMark = true

theorem startsMarked_cons {l : Letter} {ls : List Letter} (h : l.isMark = true) :
    StartsMarked (l :: ls) := by
  intro m hm
  cases hm
  exact h

/-- Letters are cut at their first mark in one way. -/
theorem eq_of_append_eq_append {run run' rest rest' : List Letter}
    (hrun : ∀ l ∈ run, l.isMark = false) (hrun' : ∀ l ∈ run', l.isMark = false)
    (hrest : StartsMarked rest) (hrest' : StartsMarked rest') (h : run ++ rest = run' ++ rest') :
    run = run' ∧ rest = rest' := by
  have hcut : ∀ {ls more : List Letter}, (∀ l ∈ ls, l.isMark = false) → StartsMarked more →
      (ls ++ more).takeWhile (fun l => !l.isMark) = ls := by
    intro ls more hls hmore
    refine takeWhile_append_of_stop (fun l hl => ?_) (fun l hl => ?_)
    · rw [hls l hl, Bool.not_false]
    · rw [hmore l hl, Bool.not_true]
  have heq : run = run' := by rw [← hcut hrun hrest, h, hcut hrun' hrest']
  subst heq
  exact ⟨rfl, List.append_cancel_left h⟩

/-! ## Simple keys -/

namespace Text

/-- Whether a key makes one part of a path: it is not empty and holds no mark. -/
def isSimple (t : Text) : Bool :=
  !t.isEmpty && t.letters.all fun l => !l.isMark

theorem isSimple_iff {t : Text} :
    t.isSimple = true ↔ t.isEmpty = false ∧ ∀ l ∈ t.letters, l.isMark = false := by
  simp [isSimple]

end Text

namespace Json

mutual

/-- Whether every key, at any depth, is simple. -/
def hasSimpleKeys : Json → Bool
  | arr items => itemsHaveSimpleKeys items
  | obj fields => fieldsHaveSimpleKeys fields
  | _ => true

def itemsHaveSimpleKeys : List Json → Bool
  | [] => true
  | j :: rest => j.hasSimpleKeys && itemsHaveSimpleKeys rest

def fieldsHaveSimpleKeys : List (Text × Json) → Bool
  | [] => true
  | (k, v) :: rest => k.isSimple && v.hasSimpleKeys && fieldsHaveSimpleKeys rest

end

theorem itemsHaveSimpleKeys_iff {items : List Json} :
    itemsHaveSimpleKeys items = true ↔ ∀ j ∈ items, j.hasSimpleKeys = true := by
  induction items with
  | nil => simp [itemsHaveSimpleKeys]
  | cons j rest ih => simp [itemsHaveSimpleKeys, ih]

theorem fieldsHaveSimpleKeys_iff {fields : List (Text × Json)} :
    fieldsHaveSimpleKeys fields = true ↔
      ∀ e ∈ fields, e.1.isSimple = true ∧ e.2.hasSimpleKeys = true := by
  induction fields with
  | nil => simp [fieldsHaveSimpleKeys]
  | cons e rest ih =>
    rw [fieldsHaveSimpleKeys, Bool.and_eq_true, Bool.and_eq_true, ih, List.forall_mem_cons]

end Json

/-! ## Parts of a path -/

namespace PlacePart

/-- What a part adds to a path that does not begin with it. -/
def segment : PlacePart → Text
  | key name => "." ++ name
  | label name => "." ++ name
  | index place => "[" ++ toString place ++ "]"

theorem extend_index (path : Text) (place : Int) :
    (index place).extend path = path ++ (index place).segment := by
  rw [extend, segment, Text.append_assoc, Text.append_assoc, Text.append_assoc]

theorem extend_eq {path : Text} (h : path.isEmpty = false) (p : PlacePart) :
    p.extend path = path ++ p.segment := by
  cases p with
  | key name => rw [extend, h, if_neg Bool.false_ne_true, Text.append_assoc, segment]
  | label name => rw [extend, h, if_neg Bool.false_ne_true, Text.append_assoc, segment]
  | index place => exact extend_index path place

theorem isEmpty_extend {path : Text} (h : path.isEmpty = false) (p : PlacePart) :
    (p.extend path).isEmpty = false := by
  rw [extend_eq h]
  exact Text.isEmpty_append h _

/-- A simple key or the index of an item. -/
inductive IsSimple : PlacePart → Prop where
  | key {name : Text} (h : name.isSimple = true) : IsSimple (.key name)
  | index (i : Nat) : IsSimple (.index i)

theorem letters_segment_index (i : Nat) : (index i).segment.letters =
    .char '[' :: ((Nat.toDigits 10 i).map .char ++ [.char ']']) := by
  have hdigits : (toString (i : Int)).toList = Nat.toDigits 10 i := Nat.toList_repr
  simp only [segment, Text.letters_append, Text.ofString, Text.ofChars, hdigits]
  rfl

/-- A simple part begins with a mark and holds no other. -/
theorem IsSimple.letters_segment {p : PlacePart} (h : p.IsSimple) :
    ∃ mark body, p.segment.letters = mark :: body ∧ mark.isMark = true ∧
      ∀ l ∈ body, l.isMark = false := by
  cases h with
  | @key name h => exact ⟨'.', name.letters, rfl, rfl, (Text.isSimple_iff.1 h).2⟩
  | index i =>
    refine ⟨'[', _, letters_segment_index i, rfl, fun l hl => ?_⟩
    rcases List.mem_append.1 hl with hl | hl
    · obtain ⟨c, hc, rfl⟩ := List.mem_map.1 hl
      exact Letter.isMark_of_isDigit (isDigit_of_mem_toDigits hc)
    · rw [List.mem_singleton.1 hl]
      rfl

theorem IsSimple.eq_of_segment {p q : PlacePart} (hp : p.IsSimple) (hq : q.IsSimple)
    (h : p.segment.letters = q.segment.letters) : p = q := by
  cases hp with
  | @key name _ =>
    cases hq with
    | @key other _ => exact congrArg PlacePart.key (Text.eq_of_letters (List.cons.inj h).2)
    | index i => cases (List.cons.inj (h.trans (letters_segment_index i))).1
  | index i =>
    cases hq with
    | key _ => cases (List.cons.inj ((letters_segment_index i).symm.trans h)).1
    | index k =>
      rw [letters_segment_index, letters_segment_index] at h
      have hdigits : Nat.toDigits 10 i = Nat.toDigits 10 k :=
        (List.map_inj_right fun _ _ => Letter.char.inj).1
          (List.append_cancel_right (List.cons.inj h).2)
      rw [← Literal.natOfDigits_toDigits i, hdigits, Literal.natOfDigits_toDigits]

end PlacePart

namespace Place

/-- The letters of all segments. -/
def segments (place : Place) : List Letter :=
  place.flatMap fun p => p.segment.letters

theorem letters_foldl_extend {path : Text} (h : path.isEmpty = false) (place : Place) :
    (place.foldl PlacePart.extend path).letters = path.letters ++ place.segments := by
  induction place generalizing path with
  | nil => exact (List.append_nil _).symm
  | cons p rest ih =>
    rw [List.foldl_cons, ih (PlacePart.isEmpty_extend h p), PlacePart.extend_eq h,
      Text.letters_append, List.append_assoc]
    rfl

theorem segments_eq_nil_iff {place : Place} (h : ∀ p ∈ place, p.IsSimple) :
    place.segments = [] ↔ place = [] := by
  cases place with
  | nil => exact ⟨fun _ => rfl, fun _ => rfl⟩
  | cons p rest =>
    obtain ⟨mark, body, hp, -⟩ := (h p List.mem_cons_self).letters_segment
    simp [segments, hp]

theorem startsMarked_segments {place : Place} (h : ∀ p ∈ place, p.IsSimple) :
    StartsMarked place.segments := by
  cases place with
  | nil => exact fun l hl => by cases hl
  | cons p rest =>
    obtain ⟨mark, body, hp, hmark, -⟩ := (h p List.mem_cons_self).letters_segment
    rw [segments, List.flatMap_cons, hp]
    exact startsMarked_cons hmark

/-- The segments of simple parts are cut apart at their marks. -/
theorem eq_of_segments {a b : Place} (ha : ∀ p ∈ a, p.IsSimple) (hb : ∀ p ∈ b, p.IsSimple)
    (h : a.segments = b.segments) : a = b := by
  induction a generalizing b with
  | nil => exact ((segments_eq_nil_iff hb).1 h.symm).symm
  | cons p rest ih =>
    cases b with
    | nil => exact (segments_eq_nil_iff ha).1 h
    | cons q rest' =>
      obtain ⟨hp, hrest⟩ := List.forall_mem_cons.1 ha
      obtain ⟨hq, hrest'⟩ := List.forall_mem_cons.1 hb
      obtain ⟨mark, body, hleft, -, hbody⟩ := hp.letters_segment
      obtain ⟨mark', body', hright, -, hbody'⟩ := hq.letters_segment
      rw [segments, segments, List.flatMap_cons, List.flatMap_cons, hleft, hright] at h
      obtain ⟨hmark, htail⟩ := List.cons.inj h
      -- Both first segments end where the next mark stands.
      obtain ⟨hsame, hmore⟩ := eq_of_append_eq_append hbody hbody'
        (startsMarked_segments hrest) (startsMarked_segments hrest') htail
      have hpq : p = q := hp.eq_of_segment hq (by rw [hleft, hright, hmark, hsame])
      rw [hpq, ih hrest hrest' hmore]

/-- The letters of a path that starts from nothing, with the mark of its first part: a key at the
start goes without it. -/
def markFirst : List Letter → List Letter
  | [] => []
  | l :: rest => if l.isMark then l :: rest else '.' :: l :: rest

theorem markFirst_of_startsMarked {ls : List Letter} (h : StartsMarked ls) : markFirst ls = ls := by
  cases ls with
  | nil => rfl
  | cons l rest => rw [markFirst, if_pos (h l rfl)]

theorem markFirst_simple {name : Text} (h : name.isSimple = true) (rest : List Letter) :
    markFirst (name.letters ++ rest) = .char '.' :: (name.letters ++ rest) := by
  obtain ⟨hne, hplain⟩ := Text.isSimple_iff.1 h
  obtain ⟨ls⟩ := name
  cases ls with
  | nil => cases hne
  | cons l more =>
    have hl : ¬ l.isMark = true := Bool.eq_false_iff.1 (hplain l List.mem_cons_self)
    rw [List.cons_append, markFirst, if_neg hl]

theorem markFirst_foldl_extend {root : Text} (hroot : root.isEmpty = true) {place : Place}
    (h : ∀ p ∈ place, p.IsSimple) :
    markFirst (place.foldl PlacePart.extend root).letters = place.segments := by
  have hnil : root.letters = [] := List.isEmpty_iff.1 hroot
  cases place with
  | nil =>
    rw [List.foldl_nil, hnil]
    rfl
  | cons p rest =>
    cases h p List.mem_cons_self with
    | @key name hname =>
      have hstart : (PlacePart.key name).extend root = name := if_pos hroot
      rw [List.foldl_cons, hstart, letters_foldl_extend (Text.isSimple_iff.1 hname).1,
        markFirst_simple hname]
      rfl
    | index i =>
      have hstart : (PlacePart.index i).extend root = (PlacePart.index i).segment :=
        Text.eq_of_letters (by
          rw [PlacePart.extend_index, Text.letters_append, hnil, List.nil_append])
      have hne : (PlacePart.index i).segment.isEmpty = false := by
        rw [Text.isEmpty, PlacePart.letters_segment_index]
        rfl
      rw [List.foldl_cons, hstart, letters_foldl_extend hne]
      exact markFirst_of_startsMarked (startsMarked_segments h)

/-- Paths of simple parts that start from one path are told apart. -/
theorem eq_of_foldl_extend {a b : Place} (ha : ∀ p ∈ a, p.IsSimple) (hb : ∀ p ∈ b, p.IsSimple)
    {root : Text} (h : a.foldl PlacePart.extend root = b.foldl PlacePart.extend root) : a = b := by
  refine eq_of_segments ha hb ?_
  cases hroot : root.isEmpty with
  | true => rw [← markFirst_foldl_extend hroot ha, h, markFirst_foldl_extend hroot hb]
  | false =>
    have hletters := congrArg Text.letters h
    rw [letters_foldl_extend hroot, letters_foldl_extend hroot] at hletters
    exact List.append_cancel_left hletters

end Place

/-! ## Places of a value -/

namespace Json

/-- A place of keys and indices, each of which selects a value of the one before. -/
inductive Addresses : Json → Place → Prop where
  | here (j : Json) : Addresses j []
  | part {j v : Json} {p : PlacePart} {rest : Place} :
    p.isLabel = false → p.Selects j v → Addresses v rest → Addresses j (p :: rest)

/-- A place with more parts put in, each of which selects nothing where it stands. -/
inductive Padded : Json → Place → Place → Prop where
  | here (j : Json) : Padded j [] []
  | part {j v : Json} {p : PlacePart} {place padded : Place} :
    p.Selects j v → Padded v place padded → Padded j (p :: place) (p :: padded)
  | kept {j : Json} {p : PlacePart} {place padded : Place} :
    (∀ v, ¬ p.Selects j v) → Padded j place padded → Padded j (p :: place) (p :: padded)
  | extra {j : Json} {p : PlacePart} {place padded : Place} :
    (∀ v, ¬ p.Selects j v) → Padded j place padded → Padded j place (p :: padded)

theorem Addresses.pathText_eq {j : Json} {place : Place} (h : j.Addresses place) (root : Text) :
    pathText place j root = place.foldl PlacePart.extend root := by
  induction h generalizing root with
  | here j => rfl
  | part _ hselects _ ih =>
    rw [pathText, PlacePart.step?_eq_some_iff.2 hselects]
    exact ih _

theorem Addresses.isSimple {j : Json} {place : Place} (h : j.Addresses place)
    (hkeys : j.hasSimpleKeys = true) : ∀ p ∈ place, p.IsSimple := by
  induction h with
  | here j => exact fun p hp => by cases hp
  | part hlabel hselects _ ih =>
    cases hselects with
    | key hlookup =>
      rw [hasSimpleKeys, fieldsHaveSimpleKeys_iff] at hkeys
      obtain ⟨hname, hv⟩ := hkeys _ (Entries.mem_of_lookup hlookup)
      exact List.forall_mem_cons.2 ⟨.key hname, ih hv⟩
    | label _ => cases hlabel
    | index hitem =>
      rw [hasSimpleKeys, itemsHaveSimpleKeys_iff] at hkeys
      exact List.forall_mem_cons.2 ⟨.index _, ih (hkeys _ (List.mem_of_getElem? hitem))⟩

theorem Padded.pathText_eq {j : Json} {place padded : Place} (h : j.Padded place padded)
    (root : Text) : pathText padded j root = pathText place j root := by
  induction h generalizing root with
  | here j => rfl
  | part hselects _ ih =>
    rw [pathText, pathText, PlacePart.step?_eq_some_iff.2 hselects]
    exact ih _
  | kept hnone _ ih =>
    rw [pathText, pathText, PlacePart.step?_eq_none_iff.2 hnone]
    exact ih root
  | extra hnone _ ih =>
    rw [pathText, PlacePart.step?_eq_none_iff.2 hnone]
    exact ih root

/-- Where all keys are simple, a place is known by its path. Parts that select nothing never change
a path. -/
theorem pathText_unambiguous (j : Json) (root : Text) :
    (j.hasSimpleKeys = true → ∀ {a b : Place}, j.Addresses a → j.Addresses b →
      (pathText a j root = pathText b j root ↔ a = b)) ∧
    ∀ {place padded : Place}, j.Padded place padded →
      pathText padded j root = pathText place j root := by
  refine ⟨fun hkeys a b ha hb => ⟨fun h => ?_, fun h => by rw [h]⟩, fun h => h.pathText_eq root⟩
  rw [ha.pathText_eq, hb.pathText_eq] at h
  exact Place.eq_of_foldl_extend (ha.isSimple hkeys) (hb.isSimple hkeys) h

/-- Two values in a list of lists and objects; labels and parts that are not there are put into the
place of one of them. -/
theorem pathText_unambiguous_nested :
    let data : Json := .obj [("psr-4", .arr [.obj [("0]", .null), ("b", .null)], .arr [.null]]),
      ("b", .null)]
    let named : Place := [.key "psr-4", .index 0, .key "b"]
    let listed : Place := [.key "psr-4", .index 1, .index 0]
    let padded : Place := [.label "list[str]", .key "psr-4", .index (-1), .index 0, .index 0,
      .label "str", .key "b", .key "b"]
    data.hasSimpleKeys = true ∧ data.Addresses named ∧ data.Addresses listed ∧
      data.Padded named padded ∧ pathText named data "config" = "config.psr-4[0].b" ∧
      pathText named data "config" ≠ pathText listed data "config" ∧
      pathText padded data "config" = pathText named data "config" := by
  intro data named listed padded
  have hkeys : data.hasSimpleKeys = true := by decide +kernel
  have hnamed : data.Addresses named :=
    .part rfl (.key rfl) (.part rfl (.index rfl) (.part rfl (.key rfl) (.here _)))
  have hlisted : data.Addresses listed :=
    .part rfl (.key rfl) (.part rfl (.index rfl) (.part rfl (.index rfl) (.here _)))
  have hnone : ∀ {p : PlacePart} {j : Json}, p.step? j = none → ∀ v, ¬ p.Selects j v :=
    PlacePart.step?_eq_none_iff.1
  have hpadded : data.Padded named padded :=
    .extra (hnone rfl) (.part (.key rfl) (.extra (hnone rfl) (.part (.index rfl)
      (.extra (hnone rfl) (.extra (hnone rfl) (.part (.key rfl) (.extra (hnone rfl) (.here _))))))))
  obtain ⟨hapart, hkept⟩ := pathText_unambiguous data "config"
  have hdistinct : named ≠ listed := by decide +kernel
  exact ⟨hkeys, hnamed, hlisted, hpadded, by decide +kernel,
    fun h => hdistinct ((hapart hkeys hnamed hlisted).1 h), hkept hpadded⟩

end Json

end ManifestEdit
