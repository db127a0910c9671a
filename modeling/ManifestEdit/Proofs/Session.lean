import ManifestEdit.Proofs.Apply.Local
import ManifestEdit.Proofs.RoundTrip

/-!
# Sessions

A manifest is edited step by step, in memory or through its text: after any step it may be rendered
and loaded again. Both ways report the same, because after each step the two manifests are alike.
-/

namespace ManifestEdit

namespace Session

inductive Step where
  | apply (d : Directive)
  | removeRequire (rules : Rules Text)

/-- The changes that a step reports, or why it fails. -/
abbrev Report := Except ApplyError (List Change)

/-- Why a manifest cannot be rendered and loaded again. -/
inductive ReloadFault where
  | render (fault : RenderFault)
  | load (error : LoadError)

def outcome (m : Manifest) : Step → Except ApplyError Applied
  | .apply d => m.apply d
  | .removeRequire rules => .ok (m.removeRequire rules)

/-- A step that fails leaves the manifest as it was. -/
def after (m : Manifest) (s : Step) : Manifest :=
  match outcome m s with
  | .ok a => a.manifest
  | .error _ => m

def report (m : Manifest) (s : Step) : Report :=
  (outcome m s).map Applied.changes

/-- The reports of all steps and the manifest after them. -/
def run (m : Manifest) : List Step → List Report × Manifest
  | [] => ([], m)
  | s :: rest =>
    let (reports, final) := run (after m s) rest
    (report m s :: reports, final)

/-- The manifest that the text of a manifest is loaded as. -/
def reload [Machine] (m : Manifest) (indent : Int) : Except ReloadFault Manifest :=
  match m.render indent with
  | .error fault => .error (.render fault)
  | .ok text =>
    match Manifest.load text none with
    | .error error => .error (.load error)
    | .ok n => .ok n

/-- A step, with the indentation in which the manifest is then rendered and loaded again. -/
structure Turn where
  step : Step
  reload : Option Int

def turn [Machine] (m : Manifest) (t : Turn) : Except ReloadFault Manifest :=
  match t.reload with
  | none => .ok (after m t.step)
  | some indent => reload (after m t.step) indent

/-- The reports of all turns and the manifest after them. -/
def runThroughText [Machine] (m : Manifest) :
    List Turn → Except ReloadFault (List Report × Manifest)
  | [] => .ok ([], m)
  | t :: rest =>
    match turn m t with
    | .error fault => .error fault
    | .ok n =>
      match runThroughText n rest with
      | .error fault => .error fault
      | .ok (reports, final) => .ok (report m t.step :: reports, final)

/-! ## Steps -/

section Steps

variable [Machine]

/-- What is asked of a step: that a directive was loaded from a text in which every key has bytes,
and that its overrides are under no second spelling, hold no field under both of its names and are
not nested too deep. -/
inductive IsLoaded : Step → Prop where
  | apply {d : Directive} {text : Text} {source : Option Text} {data : Json}
      (load : Directive.load text source = .ok d) (parse : Json.parse text = .ok data)
      (whole : data.hasWholeKeys = true)
      (overrides : ∀ e ∈ d.overrides, Config.isPlainOverride e = true)
      (depth : ∀ e ∈ d.overrides, e.2.depth < Machine.encodable) : IsLoaded (.apply d)
  | removeRequire (rules : Rules Text) : IsLoaded (.removeRequire rules)

variable {m n : Manifest} {s : Step}

theorem sameOutcome (h : Manifest.Alike m n) (hs : IsLoaded s) :
    Applied.SameOutcome (outcome m s) (outcome n s) := by
  cases hs with
  | @apply d text source data hload hparse hwhole hoverrides hdepth =>
    exact h.apply (Directive.plain_passes_of_load hload hparse hwhole hoverrides)
      (Directive.bounded_passes_of_load hload hdepth)
  | removeRequire rules => exact h.removeRequire rules

/-- A step reports the same of alike manifests and leaves alike ones. -/
theorem alike_after (h : Manifest.Alike m n) (hs : IsLoaded s) :
    report m s = report n s ∧ Manifest.Alike (after m s) (after n s) := by
  have hsame := sameOutcome h hs
  unfold report after
  cases hm : outcome m s with
  | ok a =>
    cases hn : outcome n s with
    | ok b =>
      rw [hm, hn] at hsame
      exact ⟨congrArg Except.ok hsame.changes, hsame.manifest⟩
    | error e =>
      rw [hm, hn] at hsame
      exact absurd hsame id
  | error e =>
    cases hn : outcome n s with
    | ok b =>
      rw [hm, hn] at hsame
      exact absurd hsame id
    | error e' =>
      rw [hm, hn] at hsame
      exact ⟨congrArg Except.error hsame, h⟩

/-! ## Runs -/

/-- Whether there is room for an indentation. -/
def Fits (indent : Int) : Prop :=
  ∃ width, Indent.width indent = .ok width

theorem reload_eq_ok (h : m.Storable) {indent : Int} (hindent : Fits indent) :
    reload m indent = .ok m.reread := by
  obtain ⟨width, hwidth⟩ := hindent
  obtain ⟨text, hrender, hload⟩ := h.loads_reread hwidth none
  rw [reload, hrender]
  dsimp only
  rw [hload]

theorem alike_turn (h : Manifest.Alike m n) {t : Turn} (ht : IsLoaded t.step)
    (hreload : ∀ indent, t.reload = some indent → Fits indent) :
    ∃ n', turn n t = .ok n' ∧ Manifest.Alike (after m t.step) n' := by
  have hafter := (alike_after h ht).2
  unfold turn
  cases hr : t.reload with
  | none => exact ⟨after n t.step, rfl, hafter⟩
  | some indent =>
    exact ⟨_, reload_eq_ok hafter.right (hreload indent hr),
      hafter.trans hafter.right.alike_reread⟩

/-- From alike manifests on, a run in memory and a run through texts report the same and end in
alike manifests. -/
theorem alike_run (h : Manifest.Alike m n) {turns : List Turn}
    (hturns : ∀ t ∈ turns, IsLoaded t.step)
    (hreload : ∀ t ∈ turns, ∀ indent, t.reload = some indent → Fits indent) :
    ∃ final, runThroughText n turns = .ok ((run m (turns.map Turn.step)).1, final) ∧
      Manifest.Alike (run m (turns.map Turn.step)).2 final := by
  induction turns generalizing m n with
  | nil => exact ⟨n, rfl, h⟩
  | cons t rest ih =>
    rw [List.forall_mem_cons] at hturns hreload
    obtain ⟨n', hturn, hafter⟩ := alike_turn h hturns.1 hreload.1
    obtain ⟨final, hrun, halike⟩ := ih hafter hturns.2 hreload.2
    refine ⟨final, ?_, halike⟩
    rw [runThroughText, hturn]
    dsimp only
    rw [hrun]
    dsimp only
    rw [← (alike_after h hturns.1).1]
    rfl

/-- A manifest whose text is loaded, and the manifest loaded is rendered as that text again. -/
def Reloads (m : Manifest) (indent : Int) : Prop :=
  ∃ text n, m.render indent = .ok text ∧ Manifest.load text none = .ok n ∧
    n.render indent = .ok text

theorem reloads_of_storable (h : m.Storable) {indent : Int} (hindent : Fits indent) :
    Reloads m indent := by
  obtain ⟨width, hwidth⟩ := hindent
  obtain ⟨text, hrender, hload⟩ := h.loads_reread hwidth none
  exact ⟨text, m.reread, hrender, hload, h.render_reread.trans hrender⟩

/-- A run in memory agrees with a run that renders and loads the manifest again after any of the
steps. At every point of the two the reports so far are the same, the manifests are loaded from
their texts, and what they write differs in the order of the keys at most. -/
theorem run_eq_runThroughText {text : Text} {source : Option Text} {data : Json}
    (hload : Manifest.load text source = .ok m) (hparse : Json.parse text = .ok data)
    (hwhole : data.hasWholeKeys = true) (honce : Schema.manifest.shape.namesOnce data = true)
    (hdepth : data.depth ≤ Machine.encodable + 1)
    {turns : List Turn} (hturns : ∀ t ∈ turns, IsLoaded t.step)
    (hreload : ∀ t ∈ turns, ∀ indent, t.reload = some indent → Fits indent)
    {seen : List Turn} (hseen : seen <+: turns) :
    ∃ reports memory final, run m (seen.map Turn.step) = (reports, memory) ∧
      runThroughText m seen = .ok (reports, final) ∧
      (∀ indent, Fits indent → Reloads memory indent ∧ Reloads final indent) ∧
      ∃ entries entries', memory.toRecord.encode = .ok (.obj entries) ∧
        final.toRecord.encode = .ok (.obj entries') ∧ entries.Perm entries' := by
  obtain ⟨r, hr, rfl⟩ : ∃ r, _ ∧ Manifest.ofRecord r = m :=
    Schema.read_of_loadText hload hparse
  have hclean : Shape.Clean Schema.manifest.shape data :=
    ⟨⟨Json.isDistinct_of_parse hparse, hwhole⟩, honce⟩
  have hstart := Manifest.Alike.refl
    (Manifest.storable_of_read hclean hdepth (Json.fits_of_parse hparse) hr)
  obtain ⟨final, hrun, halike⟩ := alike_run hstart (fun t ht => hturns t (hseen.subset ht))
    fun t ht => hreload t (hseen.subset ht)
  refine ⟨_, _, final, rfl, hrun, fun indent hindent => ?_, ?_⟩
  · exact ⟨reloads_of_storable halike.left hindent, reloads_of_storable halike.right hindent⟩
  · exact ⟨_, _, halike.left.encode, halike.right.encode, halike.perm⟩

end Steps

/-- A manifest that holds a number that is none. -/
def sampleText : Text :=
  "\x7b\"n\":NaN,\"name\":\"a/b\",\"require\":\x7b\"x/y\":\"1\"\x7d\x7d"

/-- A directive that adds a dependency map and a configuration. -/
def editText : Text :=
  "\x7b\"add\":\x7b\"require-dev\":\x7b\"z/w\":\"2\"\x7d\x7d," ++
    "\"modify\":\x7b\"config\":\x7b\"lock\":true,\"x\":NaN\x7d\x7d\x7d"

/-- Patterns that match the package required. -/
def sampleRules : Rules Text :=
  OrderedMap.ofPairs [("x/*", "")]

theorem run_eq_runThroughText_sample :
    ∃ m d reports memory final, Manifest.load sampleText none = .ok m ∧
      Directive.load editText none = .ok d ∧
      run m [.apply d, .removeRequire sampleRules] = (reports, memory) ∧
      runThroughText m [⟨.apply d, some 4⟩, ⟨.removeRequire sampleRules, none⟩] =
        .ok (reports, final) ∧ Reloads memory 4 ∧ Reloads final 4 := by
  have hmanifest : (Manifest.load sampleText none).toOption.any (fun _ => true) = true := by
    decide +kernel
  have hmembers : (Json.parse sampleText).toOption.any (fun data =>
      data.hasWholeKeys && Schema.manifest.shape.namesOnce data &&
        decide (data.depth ≤ Machine.encodable + 1)) = true := by decide +kernel
  have hdirective : (Directive.load editText none).toOption.any (fun d =>
      d.overrides.all fun e => Config.isPlainOverride e && e.2.depth < Machine.encodable) =
      true := by decide +kernel
  have hedits : (Json.parse editText).toOption.any (fun data => data.hasWholeKeys) = true := by
    decide +kernel
  obtain ⟨m, hm, -⟩ := exists_ok_of_any hmanifest
  obtain ⟨data, hdata, hplain⟩ := exists_ok_of_any hmembers
  obtain ⟨d, hd, hoverrides⟩ := exists_ok_of_any hdirective
  obtain ⟨edits, hparse, hwhole⟩ := exists_ok_of_any hedits
  simp only [Bool.and_eq_true, decide_eq_true_iff] at hplain
  obtain ⟨⟨hkeys, honce⟩, hdepth⟩ := hplain
  simp only [List.all_eq_true, Bool.and_eq_true, decide_eq_true_iff] at hoverrides
  have hfits : Fits 4 := ⟨4, by decide⟩
  have hturns : ∀ t ∈ [(⟨.apply d, some 4⟩ : Turn), ⟨.removeRequire sampleRules, none⟩],
      IsLoaded t.step := by
    rw [List.forall_mem_cons, List.forall_mem_singleton]
    exact ⟨.apply hd hparse hwhole (fun e he => (hoverrides e he).1) fun e he =>
      (hoverrides e he).2, .removeRequire sampleRules⟩
  have hreload : ∀ t ∈ [(⟨.apply d, some 4⟩ : Turn), ⟨.removeRequire sampleRules, none⟩],
      ∀ indent, t.reload = some indent → Fits indent := by
    rw [List.forall_mem_cons, List.forall_mem_singleton]
    refine ⟨fun indent h => ?_, fun indent h => by cases h⟩
    cases h
    exact hfits
  obtain ⟨reports, memory, final, hrun, htext, hreloads, -⟩ :=
    run_eq_runThroughText hm hdata hkeys honce hdepth hturns hreload (List.prefix_refl _)
  exact ⟨m, d, reports, memory, final, hm, hd, hrun, htext, hreloads 4 hfits⟩

/-! ## Runs that part -/

/-- Two steps that cannot be run, or do not report the same, where the manifest is loaded from its
text between them. -/
def Diverges [Machine] (m : Manifest) (first second : Step) : Prop :=
  ∀ reports final, runThroughText m [⟨first, some 4⟩, ⟨second, none⟩] = .ok (reports, final) →
    reports ≠ (run m [first, second]).1

def kinds (r : Report) : Option (List ChangeKind) :=
  r.toOption.map fun changes => changes.map Change.kind

/-- Whether the run through the text fails or its reports differ in the kinds of their changes. -/
def kindsDiverge [Machine] (m : Manifest) (first second : Step) : Bool :=
  match runThroughText m [⟨first, some 4⟩, ⟨second, none⟩] with
  | .error _ => true
  | .ok (reports, _) => decide (reports.map kinds ≠ (run m [first, second]).1.map kinds)

theorem diverges_of_kinds [Machine] {m : Manifest} {first second : Step}
    (h : kindsDiverge m first second = true) : Diverges m first second := by
  intro reports final hrun heq
  rw [kindsDiverge, hrun] at h
  exact of_decide_eq_true h (congrArg (List.map kinds) heq)

/-- A manifest of a name only. -/
def bareText : Text :=
  "\x7b\"name\":\"a/b\"\x7d"

/-- A directive that adds a dependency under half of a pair, which is rendered as another key. -/
def addHalfKeyText : Text :=
  "\x7b\"add\":\x7b\"require\":\x7b\"\\ud800\":\"1\"\x7d\x7d\x7d"

/-- A directive that removes what that key is rendered as. -/
def repairedKeyText : Text :=
  "\x7b\"remove\":\x7b\"require\":\x7b\"\\ufffd*\":\"\"\x7d\x7d\x7d"

/-- The runs part over what a manifest was loaded with. -/
theorem exists_diverges_load {text : Text}
    (htext : text ∈ [LoadedDocument.halfKeyText, LoadedDocument.deepText 256]) :
    ∃ m d data, Manifest.load text none = .ok m ∧ Json.parse text = .ok data ∧
      Schema.manifest.shape.namesOnce data = true ∧
      (data.hasWholeKeys = true ∨ data.depth ≤ Machine.encodable + 1) ∧
      Directive.load repairedKeyText none = .ok d ∧ d.overrides.isEmpty = true ∧
      Diverges m (.removeRequire .empty) (.apply d) := by
  have hchecks : ∀ text ∈ [LoadedDocument.halfKeyText, LoadedDocument.deepText 256],
      (Json.parse text).toOption.any (fun data =>
        Schema.manifest.shape.namesOnce data &&
          decide (data.hasWholeKeys = true ∨ data.depth ≤ Machine.encodable + 1)) = true ∧
      (Manifest.load text none).toOption.any (fun m =>
        (Directive.load repairedKeyText none).toOption.any fun d =>
          d.overrides.isEmpty && kindsDiverge m (.removeRequire .empty) (.apply d)) = true := by
    decide +kernel
  obtain ⟨hparses, hloads⟩ := hchecks text htext
  obtain ⟨data, hdata, hplain⟩ := exists_ok_of_any hparses
  obtain ⟨m, hm, hsteps⟩ := exists_ok_of_any hloads
  obtain ⟨d, hd, hruns⟩ := exists_ok_of_any hsteps
  rw [Bool.and_eq_true] at hplain hruns
  exact ⟨m, d, data, hm, hdata, hplain.1, of_decide_eq_true hplain.2, hd, hruns.1,
    diverges_of_kinds hruns.2⟩

/-- The runs part over what a directive puts into a manifest. -/
theorem exists_diverges_edit {text : Text}
    (htext : text ∈ [addHalfKeyText, Manifest.deepOverrideText 255]) :
    ∃ m edit d, Manifest.load bareText none = .ok m ∧ Directive.load text none = .ok edit ∧
      (∀ e ∈ edit.overrides, Config.isPlainOverride e = true) ∧
      Directive.load repairedKeyText none = .ok d ∧ d.overrides.isEmpty = true ∧
      Diverges m (.apply edit) (.apply d) := by
  have hchecks : ∀ text ∈ [addHalfKeyText, Manifest.deepOverrideText 255],
      (Manifest.load bareText none).toOption.any (fun m =>
        (Directive.load text none).toOption.any fun edit =>
          (Directive.load repairedKeyText none).toOption.any fun d =>
            (edit.overrides.all Config.isPlainOverride && d.overrides.isEmpty) &&
              kindsDiverge m (.apply edit) (.apply d)) = true := by
    decide +kernel
  obtain ⟨m, hm, hsteps⟩ := exists_ok_of_any (hchecks text htext)
  obtain ⟨edit, hedit, hsteps⟩ := exists_ok_of_any hsteps
  obtain ⟨d, hd, hruns⟩ := exists_ok_of_any hsteps
  rw [Bool.and_eq_true, Bool.and_eq_true] at hruns
  exact ⟨m, edit, d, hm, hedit, List.all_eq_true.1 hruns.1.1, hd, hruns.1.2,
    diverges_of_kinds hruns.2⟩

/-- The runs part over half of a pair in a key, or a value nested too deep, in the manifest or in
what a directive adds to one without any. -/
theorem run_ne_runThroughText_limits :
    (∀ text ∈ [LoadedDocument.halfKeyText, LoadedDocument.deepText 256], ∃ m d data,
      Manifest.load text none = .ok m ∧ Json.parse text = .ok data ∧
      Schema.manifest.shape.namesOnce data = true ∧
      (data.hasWholeKeys = true ∨ data.depth ≤ Machine.encodable + 1) ∧
      Directive.load repairedKeyText none = .ok d ∧ d.overrides.isEmpty = true ∧
      Diverges m (.removeRequire .empty) (.apply d)) ∧
    ∀ text ∈ [addHalfKeyText, Manifest.deepOverrideText 255], ∃ m edit d,
      Manifest.load bareText none = .ok m ∧
      Directive.load text none = .ok edit ∧
      (∀ e ∈ edit.overrides, Config.isPlainOverride e = true) ∧
      Directive.load repairedKeyText none = .ok d ∧ d.overrides.isEmpty = true ∧
      Diverges m (.apply edit) (.apply d) :=
  ⟨fun _ => exists_diverges_load, fun _ => exists_diverges_edit⟩

end Session

end ManifestEdit
