import ManifestEdit.Proofs.Apply.Local
import ManifestEdit.Proofs.Shape.Shuffled

/-!
# Keys in another order

Manifests whose keys stand in another order have the same fields and the same other keys, and
directives whose sections or targets do have the same passes. The passes read nothing else, so they
make the same changes, and what is left of both manifests is written with the same entries.
-/

namespace ManifestEdit

open Shape

/-! ## Manifests -/

namespace Manifest

/-- The same manifest, but for the order in which its keys were read. -/
structure SameButOrder (m n : Manifest) : Prop where
  require : m.require = n.require
  requireDev : m.requireDev = n.requireDev
  config : m.config = n.config
  others : m.others = n.others
  unknown : m.unknown.Perm n.unknown

namespace SameButOrder

variable {m n : Manifest}

theorem links (h : m.SameButOrder n) (target : Target) : m.links target = n.links target := by
  cases target with
  | require => exact h.require
  | requireDev => exact h.requireDev

theorem withLinks (h : m.SameButOrder n) (target : Target) (links : Option Links) :
    (m.withLinks target links).SameButOrder (n.withLinks target links) := by
  cases target with
  | require => exact ⟨rfl, h.requireDev, h.config, h.others, h.unknown⟩
  | requireDev => exact ⟨h.require, rfl, h.config, h.others, h.unknown⟩

theorem withConfig (h : m.SameButOrder n) (config : Option Config) :
    SameButOrder { m with config := config } { n with config := config } :=
  ⟨h.require, h.requireDev, rfl, h.others, h.unknown⟩

theorem field? (h : m.SameButOrder n) (key : Text) : m.field? key = n.field? key := by
  simp only [Manifest.field?, h.require, h.requireDev, h.config, h.others]

theorem perm_written (h : m.SameButOrder n) : m.written.Perm n.written := by
  have hjson : m.json? = n.json? := by
    funext key
    rw [json?, json?, h.field?]
  rw [written, written, hjson]
  exact (h.unknown.filterMap Unknown.entry?).append_left _

/-- What is written differs in the order of its keys only. -/
theorem perm_arranged (h : m.SameButOrder n) (hm : m.Separate) (hn : n.Separate) :
    m.arranged.Perm n.arranged :=
  (arrange_perm _ hm.nodup_keys_written).trans
    (h.perm_written.trans (arrange_perm _ hn.nodup_keys_written).symm)

theorem depth_toJson_le_iff (h : m.SameButOrder n) (hm : m.Separate) (hn : n.Separate)
    {levels : Nat} : m.toRecord.toDocument.toJson.depth ≤ levels + 1 ↔
      n.toRecord.toDocument.toJson.depth ≤ levels + 1 := by
  rw [toJson_toRecord, toJson_toRecord, Json.depth_obj_le_iff, Json.depth_obj_le_iff]
  exact forall_congr' fun e => imp_congr_left (h.perm_arranged hm hn).mem_iff

/-- Both can be written or neither can. -/
theorem fault?_iff (h : m.SameButOrder n) (hm : m.Separate) (hn : n.Separate) :
    m.toRecord.toDocument.fault? = none ↔ n.toRecord.toDocument.fault? = none := by
  have hfields : m.toRecord.fields = n.toRecord.fields := by
    simp only [toRecord, h.field?]
  have hunknown : ∀ u, u ∈ m.toRecord.unknown ↔ u ∈ n.toRecord.unknown := fun u =>
    h.unknown.mem_iff
  refine Document.fault?_record.trans (Iff.trans ?_ Document.fault?_record.symm)
  refine and_congr (by rw [hfields]) (and_congr ?_ (h.depth_toJson_le_iff hm hn))
  exact forall_congr' fun u => imp_congr_left (hunknown u)

theorem agree_encode (h : m.SameButOrder n) (hm : m.Separate) (hn : n.Separate) :
    Agree (fun _ _ => True) (Json.Shuffled Eq) m.toRecord.encode n.toRecord.encode := by
  have hfault := h.fault?_iff hm hn
  by_cases hwritable : m.toRecord.toDocument.fault? = none
  · rw [encode_eq_ok_iff.2 ⟨hwritable, rfl⟩, encode_eq_ok_iff.2 ⟨hfault.1 hwritable, rfl⟩]
    exact .ok (.obj ⟨nodup_keys_arrange _ hm.nodup_keys_written, n.arranged,
      h.perm_arranged hm hn, List.forall₂_same.2 fun _ _ => ⟨rfl, rfl⟩⟩)
  · obtain ⟨fault, hm⟩ := Option.ne_none_iff_exists'.1 hwritable
    obtain ⟨fault', hn⟩ := Option.ne_none_iff_exists'.1 fun hn => hwritable (hfault.2 hn)
    rw [Record.encode, Record.encode, Document.encode, Document.encode, hm, hn]
    exact .error trivial

end SameButOrder

theorem sameButOrder_ofRecord {r r' : Record}
    (h : Document.Shuffled Eq r.toDocument r'.toDocument) :
    (ofRecord r).SameButOrder (ofRecord r') := by
  refine ⟨?_, ?_, ?_, ?_, h.perm_unknown⟩
  all_goals simp only [ofRecord, h.field?_eq, h.fields_eq]

theorem agree_decode {entries other : List (Text × Json)} (h : Entries.Shuffled Eq entries other)
    (root : String) :
    Agree DocumentError.SameLines SameButOrder (decode (.obj entries) root)
      (decode (.obj other) root) := by
  have hshuffled := Json.Shuffled.obj h
  exact (Schema.agree_decode root (hshuffled.samePaths .of_eq)
    (Schema.manifest.agree_read hshuffled)).map sameButOrder_ofRecord

end Manifest

/-! ## Directives -/

/-- The same rules, but for the order in which their targets were read. -/
structure Section.SameButOrder (s t : Section) : Prop where
  require : s.require = t.require
  requireDev : s.requireDev = t.requireDev

structure ModifySection.SameButOrder (s t : ModifySection) : Prop where
  rules : s.toSection.SameButOrder t.toSection
  config : s.config = t.config

/-- The same sections, but for the orders in which they and their targets were read. -/
structure Directive.SameButOrder (d e : Directive) : Prop where
  modify : Option.Rel ModifySection.SameButOrder d.modify e.modify
  add : Option.Rel Section.SameButOrder d.add e.add
  remove : Option.Rel Section.SameButOrder d.remove e.remove
  replace : Option.Rel Section.SameButOrder d.replace e.replace

/-- What a pass does depends on its targets and not on the order in which they were read. -/
structure Pass.SameButOrder (p q : Pass) : Prop where
  name : p.name = q.name
  policy : p.policy = q.policy
  targets : p.rules.targets = q.rules.targets
  overrides : p.overrides = q.overrides

theorem Section.SameButOrder.targets_eq {s t : Section} (h : s.SameButOrder t) :
    s.targets = t.targets := by
  rw [targets, targets, h.require, h.requireDev]

/-- Fields that are related documents are related once they are taken apart. -/
theorem rel_bind {α : Type} {S : α → α → Prop} {T : Document → Document → Prop}
    {ofDocument? : Document → Option α} {x y : Option Document} (h : Option.Rel T x y)
    (hof : ∀ {d e}, T d e → Option.Rel S (ofDocument? d) (ofDocument? e)) :
    Option.Rel S (x.bind ofDocument?) (y.bind ofDocument?) := by
  cases h with
  | none => exact .none
  | some h => exact hof h

theorem forall₂_toList {α β : Type} {R : α → α → Prop} {S : β → β → Prop} {f : α → β}
    {x y : Option α} (h : Option.Rel R x y) (hf : ∀ {a b}, R a b → S (f a) (f b)) :
    List.Forall₂ S (x.map f).toList (y.map f).toList := by
  cases h with
  | none => exact .nil
  | some h => exact .cons (hf h) .nil

theorem Section.sameButOrder_ofRecord {r r' : Record}
    (h : Document.Shuffled Eq r.toDocument r'.toDocument) :
    (ofRecord r).SameButOrder (ofRecord r') := by
  constructor <;> simp only [ofRecord, rulesOf?, h.field?_eq]

theorem ModifySection.sameButOrder_ofRecord {r r' : Record}
    (h : Document.Shuffled Eq r.toDocument r'.toDocument) :
    (ofRecord r).SameButOrder (ofRecord r') :=
  ⟨Section.sameButOrder_ofRecord h, by simp only [ofRecord, h.field?_eq]⟩

theorem Section.rel_ofDocument? {d e : Document} (h : d.Shuffled Eq e) :
    Option.Rel SameButOrder (ofDocument? d) (ofDocument? e) := by
  cases h with
  | record same perm => exact .some (sameButOrder_ofRecord (.record same perm))

theorem ModifySection.rel_ofDocument? {d e : Document} (h : d.Shuffled Eq e) :
    Option.Rel SameButOrder (ofDocument? d) (ofDocument? e) := by
  cases h with
  | record same perm => exact .some (sameButOrder_ofRecord (.record same perm))

namespace Directive

theorem sameButOrder_ofRecord {r r' : Record}
    (h : Document.Shuffled (Document.Shuffled Eq) r.toDocument r'.toDocument) :
    (ofRecord r).SameButOrder (ofRecord r') where
  modify := rel_bind (h.field? "modify") ModifySection.rel_ofDocument?
  add := rel_bind (h.field? "add") Section.rel_ofDocument?
  remove := rel_bind (h.field? "remove") Section.rel_ofDocument?
  replace := rel_bind (h.field? "replace") Section.rel_ofDocument?

theorem agree_decode {entries other : List (Text × Json)}
    (h : Entries.Shuffled (Json.Shuffled Eq) entries other) (root : String) :
    Agree DocumentError.SameLines SameButOrder (decode (.obj entries) root)
      (decode (.obj other) root) := by
  have hpaths : (Json.obj entries).SamePaths (.obj other) :=
    (Json.Shuffled.obj h).samePaths fun hsection => hsection.samePaths .of_eq
  have hread : Reading.Agree (Document.Shuffled (Document.Shuffled Eq))
      (Schema.directive.shape.read (.obj entries)) (Schema.directive.shape.read (.obj other)) := by
    refine agree_read_record h (fun hopen => by cases hopen) Json.Shuffled.isNull_eq ?_
    intro f hf v v' hsection
    simp only [Schema.directive, List.mem_cons, List.not_mem_nil, or_false] at hf
    rcases hf with rfl | rfl | rfl | rfl
    · exact Schema.modifySection.agree_read hsection
    · exact Schema.directiveSection.agree_read hsection
    · exact Schema.directiveSection.agree_read hsection
    · exact Schema.directiveSection.agree_read hsection
  exact (Schema.agree_decode root hpaths hread).map sameButOrder_ofRecord

theorem SameButOrder.passes {d e : Directive} (h : d.SameButOrder e) :
    List.Forall₂ Pass.SameButOrder d.passes e.passes := by
  have hsection {name : String} {policy : MergePolicy} {s t : Section} (h : s.SameButOrder t) :
      Pass.SameButOrder ⟨name, policy, s, none⟩ ⟨name, policy, t, none⟩ :=
    ⟨rfl, rfl, h.targets_eq, rfl⟩
  rw [Directive.passes, Directive.passes]
  refine List.rel_append (List.rel_append (List.rel_append ?_ ?_) ?_) ?_
  · exact forall₂_toList h.remove hsection
  · exact forall₂_toList h.add hsection
  · exact forall₂_toList h.replace hsection
  · exact forall₂_toList h.modify fun h => ⟨rfl, rfl, h.rules.targets_eq, h.config⟩

end Directive

/-! ## Applying -/

namespace Applied

/-- The same changes, and the same manifest but for the order of its keys. -/
structure SameButOrder (a b : Applied) : Prop where
  changes : a.changes = b.changes
  manifest : a.manifest.SameButOrder b.manifest

variable {a b : Applied}

theorem SameButOrder.links (h : a.SameButOrder b) (pass : String) (policy : MergePolicy)
    (rules : Target × Rules Text) :
    (a.links pass policy rules).SameButOrder (b.links pass policy rules) := by
  unfold Applied.links
  rw [h.manifest.links rules.1, h.changes]
  exact ⟨rfl, h.manifest.withLinks _ _⟩

theorem SameButOrder.foldl_links (h : a.SameButOrder b) (pass : String) (policy : MergePolicy)
    (targets : List (Target × Rules Text)) :
    (targets.foldl (Applied.links pass policy) a).SameButOrder
      (targets.foldl (Applied.links pass policy) b) := by
  induction targets generalizing a b with
  | nil => exact h
  | cons rules rest ih => exact ih (h.links pass policy rules)

theorem SameButOrder.config (h : a.SameButOrder b) (overrides : Option Overrides) :
    Agree Eq SameButOrder (a.config overrides) (b.config overrides) := by
  unfold Applied.config
  cases overrides with
  | none => exact .ok h
  | some o =>
    dsimp only
    rw [← h.manifest.config]
    split
    · exact .ok h
    · cases Config.applyOverrides a.manifest.config o with
      | ok result => exact .ok ⟨congrArg (· ++ result.2) h.changes, h.manifest.withConfig _⟩
      | error e => exact .error rfl

theorem SameButOrder.pass (h : a.SameButOrder b) {p q : Pass} (hpass : p.SameButOrder q) :
    Agree Eq SameButOrder (a.pass p) (b.pass q) := by
  rw [Applied.pass, Applied.pass, hpass.name, hpass.policy, hpass.targets, hpass.overrides]
  exact (h.foldl_links q.name q.policy q.rules.targets).config q.overrides

theorem SameButOrder.passes (h : a.SameButOrder b) {ps qs : List Pass}
    (hpasses : List.Forall₂ Pass.SameButOrder ps qs) :
    Agree Eq SameButOrder (a.passes ps) (b.passes qs) := by
  induction hpasses generalizing a b with
  | nil => exact .ok h
  | @cons p q ps qs hpass _ ih =>
    have hagree := h.pass hpass
    rw [Applied.passes, Applied.passes]
    generalize a.pass p = x at hagree ⊢
    generalize b.pass q = y at hagree ⊢
    cases hagree with
    | ok hsame => exact ih hsame
    | error heq => exact .error heq

end Applied

namespace Manifest

theorem SameButOrder.apply {m n : Manifest} (h : m.SameButOrder n) {d e : Directive}
    (hd : d.SameButOrder e) : Agree Eq Applied.SameButOrder (m.apply d) (n.apply e) := by
  have hstart : Applied.SameButOrder ⟨m, []⟩ ⟨n, []⟩ := ⟨rfl, h⟩
  exact hstart.passes hd.passes

/-- In whichever order the keys of a manifest and of a directive and its sections stand, both are
read or rejected alike, the directive applies or fails alike, and what it makes of the manifest
differs in the order of the written keys only. -/
theorem apply_shuffled {entries entries' sections sections' : List (Text × Json)}
    (hentries : Entries.Shuffled Eq entries entries')
    (hsections : Entries.Shuffled (Json.Shuffled Eq) sections sections') (root rules : String) :
    Agree DocumentError.SameLines SameButOrder (decode (.obj entries) root)
        (decode (.obj entries') root) ∧
      Agree DocumentError.SameLines Directive.SameButOrder
        (Directive.decode (.obj sections) rules) (Directive.decode (.obj sections') rules) ∧
      ∀ m m' d d', decode (.obj entries) root = .ok m → decode (.obj entries') root = .ok m' →
        Directive.decode (.obj sections) rules = .ok d →
        Directive.decode (.obj sections') rules = .ok d' →
        Agree Eq Applied.SameButOrder (m.apply d) (m'.apply d') ∧
          ∀ a a', m.apply d = .ok a → m'.apply d' = .ok a' →
            Agree (fun _ _ => True) (Json.Shuffled Eq) a.manifest.toRecord.encode
              a'.manifest.toRecord.encode := by
  have hmanifest := agree_decode hentries root
  have hdirective := Directive.agree_decode hsections rules
  refine ⟨hmanifest, hdirective, fun m m' d d' hm hm' hd hd' => ?_⟩
  have hsame : m.SameButOrder m' := (hm ▸ hm' ▸ hmanifest).of_ok
  have hpasses : d.SameButOrder d' := (hd ▸ hd' ▸ hdirective).of_ok
  have happly := hsame.apply hpasses
  refine ⟨happly, fun a a' ha ha' => ?_⟩
  have hresult : a.SameButOrder a' := (ha ▸ ha' ▸ happly).of_ok
  exact hresult.manifest.agree_encode
    ((editedAt_apply ha).separate (separate_of_decode hentries.distinct hm))
    ((editedAt_apply ha').separate (separate_of_decode hentries.distinct_right hm'))

/-- A manifest with a key in its second spelling and one of its own. -/
def spelledEntries : List (Text × Json) :=
  [("name", .str "a/b"), ("require_dev", .obj [("x/y", .str "1")]), ("note", .null),
    ("require", .obj [("x/y", .str "1")])]

def modifyingSections : List (Text × Json) :=
  [("modify", .obj [("config", .obj [("lock", .bool true)]),
      ("require", .obj [("x/*", .str "2")])]),
    ("remove", .obj [("require-dev", .obj [("x/y", .str "")])])]

/-- The same sections the other way round, and so the targets of the first. -/
def turnedSections : List (Text × Json) :=
  [("remove", .obj [("require-dev", .obj [("x/y", .str "")])]),
    ("modify", .obj [("require", .obj [("x/*", .str "2")]),
      ("config", .obj [("lock", .bool true)])])]

theorem shuffled_spelledEntries : Entries.Shuffled Eq spelledEntries spelledEntries.reverse :=
  ⟨by decide, _, (List.reverse_perm _).symm, List.forall₂_same.2 fun _ _ => ⟨rfl, rfl⟩⟩

theorem shuffled_modifyingSections :
    Entries.Shuffled (Json.Shuffled Eq) modifyingSections turnedSections :=
  ⟨by decide, _, (List.reverse_perm _).symm,
    .cons ⟨rfl, .same _⟩ (.cons ⟨rfl, .obj ⟨by decide, _, (List.reverse_perm _).symm,
      List.forall₂_same.2 fun _ _ => ⟨rfl, rfl⟩⟩⟩ .nil)⟩

theorem apply_shuffled_reversed :
    ∃ m m' d d' a a', decode (.obj spelledEntries) "" = .ok m ∧
      decode (.obj spelledEntries.reverse) "" = .ok m' ∧
      Directive.decode (.obj modifyingSections) "" = .ok d ∧
      Directive.decode (.obj turnedSections) "" = .ok d' ∧
      m.apply d = .ok a ∧ m'.apply d' = .ok a' ∧ a.SameButOrder a' ∧
      Entries.keys a.manifest.arranged = ["name", "require-dev", "note", "require", "config"] ∧
      Entries.keys a'.manifest.arranged =
        ["require", "note", "require-dev", "name", "config"] := by
  have hruns : (decode (.obj spelledEntries) "").toOption.any (fun m =>
      (decode (.obj spelledEntries.reverse) "").toOption.any fun m' =>
        (Directive.decode (.obj modifyingSections) "").toOption.any fun d =>
          (Directive.decode (.obj turnedSections) "").toOption.any fun d' =>
            (m.apply d).toOption.any fun a => (m'.apply d').toOption.any fun a' =>
              decide (Entries.keys a.manifest.arranged =
                ["name", "require-dev", "note", "require", "config"]) &&
              decide (Entries.keys a'.manifest.arranged =
                ["require", "note", "require-dev", "name", "config"])) = true := by
    decide +kernel
  obtain ⟨m, hm, hruns⟩ := exists_ok_of_any hruns
  obtain ⟨m', hm', hruns⟩ := exists_ok_of_any hruns
  obtain ⟨d, hd, hruns⟩ := exists_ok_of_any hruns
  obtain ⟨d', hd', hruns⟩ := exists_ok_of_any hruns
  obtain ⟨a, ha, hruns⟩ := exists_ok_of_any hruns
  obtain ⟨a', ha', hkeys⟩ := exists_ok_of_any hruns
  rw [Bool.and_eq_true, decide_eq_true_iff, decide_eq_true_iff] at hkeys
  obtain ⟨-, -, hlaw⟩ := apply_shuffled shuffled_spelledEntries shuffled_modifyingSections "" ""
  have hsame := (hlaw m m' d d' hm hm' hd hd').1
  rw [ha, ha'] at hsame
  exact ⟨m, m', d, d', a, a', hm, hm', hd, hd', ha, ha', hsame.of_ok, hkeys.1, hkeys.2⟩

end Manifest

end ManifestEdit
