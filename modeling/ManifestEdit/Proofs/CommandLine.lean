import ManifestEdit.CommandLine
import ManifestEdit.Proofs.Run.Exporting

/-!
# All or nothing

A run of the program either ends with code 0 and has done the whole of what its command asks for, or
it has touched no file (`run_allOrNothing`). One failure is an exception: an edited manifest whose
text holds half of a surrogate pair has no bytes, and when that shows the file is empty already.
-/

namespace ManifestEdit

open ManifestEdit.Action

namespace CommandLine

namespace ModifyCommand

variable (c : ModifyCommand) (settings : Settings)

def manifestPath : Text :=
  Run.orElse c.manifest settings.manifestFile

def directivePath : Text :=
  Run.orElse c.directive settings.directiveFile

/-- The result replaces the manifest unless another path is given. -/
def outputPath : FilePath :=
  .ofText (Run.orElse c.output (c.manifestPath settings))

/-- Both documents of the command stand in the store, and this comes of applying one to the
other. -/
def Gives [Machine] (s : Store) (applied : Applied) : Prop :=
  ∃ manifest directive,
    s.HoldsDocument Manifest.decode (c.manifestPath settings) manifest ∧
      s.HoldsDocument Directive.decode (c.directivePath settings) directive ∧
      manifest.apply directive = .ok applied

/-- Whether a result is to be written. -/
def writes (applied : Applied) : Bool :=
  !(c.dry || settings.dryRun) && applied.isChanged

/-- The whole effect of the command on the files. -/
def Done [Machine] (s t : Store) : Prop :=
  ∃ applied, c.Gives settings s applied ∧
    if c.writes settings applied then
      ∃ text bytes, applied.manifest.render settings.indent = .ok text ∧
        Utf8.encodeText text = .ok bytes ∧ Store.Written (c.outputPath settings) bytes s t
    else Store.SameFiles s t

/-- The result is to be written but its text has no bytes, and this is all that was written. -/
def Emptied [Machine] (s t : Store) (u : Utf8.Unencodable) : Prop :=
  ∃ applied text, c.Gives settings s applied ∧ c.writes settings applied = true ∧
    applied.manifest.render settings.indent = .ok text ∧ Utf8.encodeText text = .error u ∧
      Store.Written (c.outputPath settings) [] s t

/-- What a run is asked for by the command. -/
def request : Run.Request :=
  ⟨some (c.manifestPath settings), some (c.directivePath settings),
    some (c.dry || settings.dryRun)⟩

end ModifyCommand

/-! ## Outcomes -/

section Outcomes

variable [Machine] [Glyphs] {f : Fault} {source : Option Text} {w : World}

theorem failed_exit : (failed f source w).exit = 1 := by
  unfold failed
  split <;> rfl

theorem failed_store : (failed f source w).world.store = w.store := by
  unfold failed
  split <;> rfl

theorem failed_escaped (h : f.isReported = false) : (failed f source w).escaped = some f := by
  rw [failed, if_neg (by rw [h]; exact Bool.false_ne_true)]

end Outcomes

section Modify

variable {c : ModifyCommand} {settings : Settings} {s : Store} {w v : World}

theorem orElse_orElse (path : Option Text) (fallback : Text) :
    Run.orElse (some (Run.orElse path fallback)) fallback = Run.orElse path fallback := by
  show (if (Run.orElse path fallback).isEmpty then fallback else Run.orElse path fallback) = _
  cases path with
  | none => exact ite_self fallback
  | some p =>
    rw [Run.orElse]
    by_cases hp : p.isEmpty = true
    · rw [if_pos hp]
      exact ite_self fallback
    · rw [if_neg hp]
      exact if_neg hp

theorem manifestPath_request :
    (c.request settings).manifestPath settings = c.manifestPath settings :=
  orElse_orElse c.manifest settings.manifestFile

theorem gives_of_request [Machine] {applied : Applied}
    (h : (c.request settings).Gives settings s applied) : c.Gives settings s applied := by
  obtain ⟨manifest, directive, hmanifest, hdirective, happly⟩ := h
  rw [manifestPath_request] at hmanifest
  rw [ModifyCommand.request] at hdirective
  dsimp only [ModifyCommand.directivePath] at hdirective
  rw [orElse_orElse] at hdirective
  exact ⟨manifest, directive, hmanifest, hdirective, happly⟩

/-- Documents stand at paths that are not empty. -/
theorem ModifyCommand.Gives.manifestPath_ne_empty [Machine] {applied : Applied}
    (h : c.Gives settings s applied) : (c.manifestPath settings).isEmpty = false := by
  obtain ⟨manifest, directive, ⟨text, hholds, -⟩, -⟩ := h
  exact hholds.path_ne_empty

theorem skips_request {applied : Applied} :
    (c.request settings).skips settings applied = !c.writes settings applied := by
  simp [ModifyCommand.request, ModifyCommand.writes, Run.Request.skips]

/-- Of the exporters of a command only the first persists; the other prints under the manifest's
path. -/
theorem exportersFor_eq (c : ModifyCommand) (settings : Settings) :
    ∃ others, (exportersFor settings c (c.manifestPath settings)).zipIdx =
        (⟨.file (c.outputPath settings), settings.indent⟩, 0) :: others ∧
      ∀ d ∈ others, d.1 = ⟨.console (some (c.manifestPath settings)), settings.indent⟩ := by
  refine ⟨_, rfl, fun d hd => ?_⟩
  split at hd
  · rw [List.mem_singleton.1 hd]
  · cases hd

section Deliveries

variable [Machine] [Glyphs]

/-- The deliveries of a command, to its file and perhaps to the console. -/
def deliveries (c : ModifyCommand) (settings : Settings) (applied : Applied) : Action Unit :=
  Run.deliverAll applied.manifest
    (Run.active (!c.writes settings applied)
      (exportersFor settings c (c.manifestPath settings)))

theorem quiet_deliveries {applied : Applied} (h : c.writes settings applied = false) :
    (deliveries c settings applied).Quiet := by
  unfold deliveries
  rw [h]
  exact Run.quiet_deliverAll fun _ he => Run.persists_of_mem_active he

theorem deliveries_ok {applied : Applied} (hwrites : c.writes settings applied = true)
    (h : (deliveries c settings applied).Ends w (.ok ()) v) :
    ∃ text bytes, applied.manifest.render settings.indent = .ok text ∧
      Utf8.encodeText text = .ok bytes ∧
        Store.Written (c.outputPath settings) bytes w.store v.store := by
  obtain ⟨others, hexporters, hothers⟩ := exportersFor_eq c settings
  unfold deliveries at h
  rw [hwrites, Bool.not_true, Run.active_false, hexporters] at h
  refine Run.deliverAll_ok (fun d hd => ?_) h
  rw [hothers d hd]
  rfl

theorem deliveries_error {applied : Applied} {f : Fault}
    (hgives : c.Gives settings s applied)
    (hprinted : Console.refused? (c.manifestPath settings) = none)
    (hwrites : c.writes settings applied = true)
    (h : (deliveries c settings applied).Ends w (.error f) v) :
    Store.SameFiles w.store v.store ∨
      ∃ text u, applied.manifest.render settings.indent = .ok text ∧
        Utf8.encodeText text = .error u ∧ f = .unencodable u ∧
          Store.Written (c.outputPath settings) [] w.store v.store := by
  obtain ⟨others, hexporters, hothers⟩ := exportersFor_eq c settings
  unfold deliveries at h
  rw [hwrites, Bool.not_true, Run.active_false, hexporters] at h
  exact Run.deliverAll_error hgives.manifestPath_ne_empty hprinted hothers h

end Deliveries

/-- The outcome of a command says what it has done: with code 0 all of it, with code 1 nothing, or a
file was emptied. -/
inductive Settled [Machine] (c : ModifyCommand) (settings : Settings) (s : Store) (o : Outcome) :
    Prop where
  | done (hexit : o.exit = 0) (h : c.Done settings s o.world.store)
  | untouched (hexit : o.exit = 1) (h : Store.SameFiles s o.world.store)
  | emptied (hexit : o.exit = 1) {u : Utf8.Unencodable} (hu : o.escaped = some (.unencodable u))
      (h : c.Emptied settings s o.world.store u)

section Settled

variable [Machine] [Glyphs]

theorem settled_of_sameFiles {f : Fault} (h : Store.SameFiles s w.store) :
    Settled c settings s (failed f none w) :=
  .untouched failed_exit (by rw [failed_store]; exact h)

theorem settled_of_emptied {u : Utf8.Unencodable} (h : c.Emptied settings s w.store u) :
    Settled c settings s (failed (.unencodable u) none w) :=
  .emptied failed_exit (failed_escaped rfl) (by rw [failed_store]; exact h)

theorem settled_runModify (settings : Settings) (c : ModifyCommand) (w : World) :
    Settled c settings w.store (runModify settings c w) := by
  obtain ⟨r, v, h⟩ := exists_ends
    (Run.run settings (exportersFor settings c (c.manifestPath settings)) (c.request settings)) w
  have hrun : runModify settings c w = finished none (r, v) := congrArg (finished none) h
  rw [hrun]
  obtain ⟨hstore, f, rfl⟩ | ⟨applied, u, u', q, hgives, hprinted, hu, hdeliver, hu', rfl⟩ :=
    Run.ends_run h
  · refine settled_of_sameFiles ?_
    rw [hstore]
    exact Store.SameFiles.refl _
  · rw [skips_request] at hdeliver
    replace hdeliver : (deliveries c settings applied).Ends u q u' := hdeliver
    rw [manifestPath_request] at hprinted
    have hgives := gives_of_request hgives
    rw [← hu] at hgives ⊢
    by_cases hwrites : c.writes settings applied = true
    · cases q with
      | ok done =>
        have hwritten := deliveries_ok hwrites hdeliver
        rw [hu'] at hwritten
        refine .done rfl ⟨applied, hgives, ?_⟩
        rw [if_pos hwrites]
        exact hwritten
      | error f =>
        have herror := deliveries_error hgives hprinted hwrites hdeliver
        rw [hu'] at herror
        obtain hsame | ⟨text, fault, htext, hfault, rfl, hwritten⟩ := herror
        · exact settled_of_sameFiles hsame
        · exact settled_of_emptied ⟨applied, text, hgives, hwrites, htext, hfault, hwritten⟩
    · have hsame : Store.SameFiles u.store v.store := by
        rw [← hu', quiet_deliveries (Bool.eq_false_iff.2 hwrites) hdeliver]
        exact Store.SameFiles.refl _
      cases q with
      | ok done =>
        refine .done rfl ⟨applied, hgives, ?_⟩
        rw [if_neg hwrites]
        exact hsame
      | error f => exact settled_of_sameFiles hsame

end Settled

end Modify

/-! ## The program -/

section Program

variable {store : Store} {arguments : List Text} {environment : Option Text} {s : Start}
  {c : ModifyCommand} {settings : Settings}

/-- The arguments ask for a command that modifies. -/
structure Asks (store : Store) (arguments : List Text) (s : Start) (c : ModifyCommand) : Prop where
  start : start store arguments = .ok s
  group : s.group = .modify
  command : modifyCommand store s.rest = .ok c

theorem Asks.unique {s' : Start} {c' : ModifyCommand} (h : Asks store arguments s c)
    (h' : Asks store arguments s' c') : s = s' ∧ c = c' := by
  cases h.start.symm.trans h'.start
  cases h.command.symm.trans h'.command
  exact ⟨rfl, rfl⟩

theorem outcome_store (stop : Stop) (w : World) : (stop.outcome w).world = w := by
  cases stop <;> rfl

section Runs

variable [Machine] [Glyphs]

/-- The settings that are loaded for a command. -/
def Uses (store : Store) (environment : Option Text) (s : Start) (settings : Settings) : Prop :=
  ∃ v, (Run.loadSettings s.config environment).Ends (.ofStore store s.threshold) (.ok settings) v

theorem quiet_parseDocument {kind : DocumentKind} {path : Text} {print : Bool} :
    (parseDocument settings kind path print).Quiet := by
  have hprint (r : Record) : (if print then Exporter.printDocument path (r.render settings.indent)
      else pure () : Action Unit).Quiet := by
    split
    · exact Exporter.quiet_printDocument
    · exact quiet_pure
  cases kind with
  | manifest => exact Run.quiet_load.bind fun _ => quiet_pure.bind hprint
  | directive => exact Run.quiet_load.bind fun _ => quiet_pure.bind hprint

/-- A quiet action leaves the files alone however the run that it is goes on to end. -/
theorem finished_store {α : Type} {x : Action α} (hx : x.Quiet) (source : Option Text)
    (w : World) : (finished source (x.run.run w)).world.store = w.store := by
  obtain ⟨r, v, h⟩ := exists_ends x w
  have hstore := hx h
  rw [show x.run.run w = (r, v) from h]
  cases r with
  | ok a => exact hstore
  | error f => exact failed_store.trans hstore

theorem runParse_store (settings : Settings) (p : ParseCommand) (w : World) :
    (runParse settings p w).world.store = w.store :=
  finished_store quiet_parseDocument _ w

/-- The program is a command that is settled, or it leaves the files alone; then either no command
was asked for or it fails. -/
theorem run_cases (store : Store) (arguments : List Text) (environment : Option Text) :
    (∃ s c settings, Asks store arguments s c ∧ Uses store environment s settings ∧
        Settled c settings store (run store arguments environment)) ∨
      Store.SameFiles store (run store arguments environment).world.store ∧
        ((¬ ∃ s c, Asks store arguments s c) ∨ (run store arguments environment).exit ≠ 0) := by
  unfold run
  cases hstart : start store arguments with
  | error stop =>
    refine .inr ⟨?_, .inl ?_⟩
    · rw [outcome_store]
      exact Store.SameFiles.refl _
    · rintro ⟨s, c, hasks⟩
      rw [hasks.start] at hstart
      cases hstart
  | ok s =>
    obtain ⟨r, w, hload⟩ :=
      exists_ends (Run.loadSettings s.config environment) (.ofStore store s.threshold)
    have hstore : w.store = store := Run.quiet_loadSettings hload
    dsimp only
    rw [show (Run.loadSettings s.config environment).run.run (.ofStore store s.threshold) = (r, w)
      from hload]
    cases r with
    | error f =>
      refine .inr ⟨?_, .inr ?_⟩
      · rw [failed_store, hstore]
        exact Store.SameFiles.refl _
      · rw [failed_exit]
        exact Nat.one_ne_zero
    | ok settings =>
      dsimp only [runGroup]
      cases hgroup : s.group with
      | parse =>
        have hnone : ¬ ∃ s c, Asks store arguments s c := by
          rintro ⟨s', c, hasks⟩
          rw [hasks.start] at hstart
          cases hstart
          rw [hasks.group] at hgroup
          cases hgroup
        refine .inr ⟨?_, .inl hnone⟩
        cases parseCommand s.rest with
        | error stop =>
          rw [outcome_store, hstore]
          exact Store.SameFiles.refl _
        | ok p =>
          rw [runParse_store, hstore]
          exact Store.SameFiles.refl _
      | modify =>
        dsimp only
        rw [hstore]
        cases hcommand : modifyCommand store s.rest with
        | error stop =>
          refine .inr ⟨?_, .inl ?_⟩
          · rw [outcome_store, hstore]
            exact Store.SameFiles.refl _
          · rintro ⟨s', c, hasks⟩
            rw [hasks.start] at hstart
            cases hstart
            rw [hasks.command] at hcommand
            cases hcommand
        | ok c =>
          have hsettled := settled_runModify settings c w
          rw [hstore] at hsettled
          exact .inl ⟨s, c, settings, ⟨hstart, hgroup, hcommand⟩, ⟨w, hload⟩, hsettled⟩

end Runs

/-- All or nothing: where the program fails no file has been made, changed or taken away, unless the
edited manifest has no bytes; where it ends well the whole command is done, with its documents
loaded and the directive applied; and where it was not asked to modify anything no file is
touched. -/
theorem run_allOrNothing [Machine] [Glyphs] (store : Store) (arguments : List Text)
    (environment : Option Text) :
    ((run store arguments environment).exit ≠ 0 →
      Store.SameFiles store (run store arguments environment).world.store ∨
        ∃ s c settings u, Asks store arguments s c ∧ Uses store environment s settings ∧
          (run store arguments environment).escaped = some (.unencodable u) ∧
            c.Emptied settings store (run store arguments environment).world.store u) ∧
    ((run store arguments environment).exit = 0 → ∀ s c, Asks store arguments s c →
      ∃ settings, Uses store environment s settings ∧
        c.Done settings store (run store arguments environment).world.store) ∧
    ((¬ ∃ s c, Asks store arguments s c) →
      Store.SameFiles store (run store arguments environment).world.store) := by
  obtain ⟨s, c, settings, hasks, huses, hsettled⟩ | ⟨hsame, hnone⟩ :=
    run_cases store arguments environment
  · refine ⟨fun hexit => ?_, fun hexit s' c' hasks' => ?_, fun hnone => ?_⟩
    · cases hsettled with
      | done hzero _ => exact absurd hzero hexit
      | untouched _ hsame => exact .inl hsame
      | emptied _ hu hempty => exact .inr ⟨s, c, settings, _, hasks, huses, hu, hempty⟩
    · obtain ⟨rfl, rfl⟩ := hasks.unique hasks'
      cases hsettled with
      | done _ hdone => exact ⟨settings, huses, hdone⟩
      | untouched hone _ => rw [hone] at hexit; cases hexit
      | emptied hone _ _ => rw [hone] at hexit; cases hexit
    · exact absurd ⟨s, c, hasks⟩ hnone
  · refine ⟨fun _ => .inl hsame, fun hexit s c hasks => ?_, fun _ => hsame⟩
    obtain hnone | hfails := hnone
    · exact absurd ⟨s, c, hasks⟩ hnone
    · exact absurd hexit hfails

/-- Two documents under their usual names. -/
def storeOf (manifest directive : String) : Store :=
  ⟨[(⟨false, [Manifest.fileName]⟩, .file (manifest.toList.flatMap String.utf8EncodeChar) .full),
    (⟨false, [Directive.fileName]⟩, .file (directive.toList.flatMap String.utf8EncodeChar) .full)]⟩

/-- A directive that removes a dependency. -/
def removeText : String :=
  "\x7b\"remove\":\x7b\"require\":\x7b\"x/y\":\"\"\x7d\x7d\x7d"

/-- A manifest with that dependency. -/
def dependentText : String :=
  "\x7b\"name\":\"a/b\",\"require\":\x7b\"x/y\":\"1\"\x7d\x7d"

theorem run_allOrNothing_sample :
    ∃ c settings, Asks (storeOf dependentText removeText) ["modify"]
        ⟨none, .warning, .modify, []⟩ c ∧
      c.Done settings (storeOf dependentText removeText)
        (run (storeOf dependentText removeText) ["modify"] none).world.store ∧
      ¬ Store.SameFiles (storeOf dependentText removeText)
        (run (storeOf dependentText removeText) ["modify"] none).world.store := by
  have hasks : Asks (storeOf dependentText removeText) ["modify"] ⟨none, .warning, .modify, []⟩
      ⟨none, none, none, false, false⟩ :=
    ⟨by rfl, rfl, by rfl⟩
  have hrun : (decide ((run (storeOf dependentText removeText) ["modify"] none).exit = 0) &&
      decide ((run (storeOf dependentText removeText) ["modify"] none).world.store.file?
          ⟨false, [Manifest.fileName]⟩ ≠
        (storeOf dependentText removeText).file? ⟨false, [Manifest.fileName]⟩)) = true := by
    decide +kernel
  rw [Bool.and_eq_true, decide_eq_true_iff, decide_eq_true_iff] at hrun
  obtain ⟨settings, -, hdone⟩ :=
    (run_allOrNothing (storeOf dependentText removeText) ["modify"] none).2.1 hrun.1 _ _ hasks
  exact ⟨_, settings, hasks, hdone, fun hsame => hrun.2 (hsame _)⟩

/-- A description that is half of a surrogate pair. -/
def halfDescriptionText : String :=
  "\x7b\"name\":\"a/b\",\"description\":\"\\ud800\",\"require\":\x7b\"x/y\":\"1\"\x7d\x7d"

/-- Not every failure leaves the files alone: half of a pair in a value empties the manifest. -/
theorem exists_fails_and_empties :
    ∃ store arguments, (run store arguments none).exit ≠ 0 ∧
      ¬ Store.SameFiles store (run store arguments none).world.store := by
  have hrun : (decide ((run (storeOf halfDescriptionText removeText) ["modify"] none).exit = 1) &&
      decide ((run (storeOf halfDescriptionText removeText) ["modify"] none).world.store.file?
        ⟨false, [Manifest.fileName]⟩ = some [])) = true := by
    decide +kernel
  have hbefore : (storeOf halfDescriptionText removeText).file? ⟨false, [Manifest.fileName]⟩ ≠
      some [] := by
    decide +kernel
  rw [Bool.and_eq_true, decide_eq_true_iff, decide_eq_true_iff] at hrun
  refine ⟨_, _, by rw [hrun.1]; exact Nat.one_ne_zero, fun hsame => hbefore ?_⟩
  rw [← hsame]
  exact hrun.2

end Program

end CommandLine

end ManifestEdit
