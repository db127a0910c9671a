import ManifestEdit.Proofs.Run.Loading

/-!
# What a run does to the files

Until a run hands its result to the exporters it is quiet, and so is all that follows: `ends_run`
leaves of a run only what its exporters deliver. An exporter to the console is quiet too. One to a
file writes the rendered text, or it fails; where it fails it has touched no file, unless the text
has no bytes.
-/

namespace ManifestEdit

open ManifestEdit.Action

variable {w v : World} {f : Fault} {m : Manifest} {indent : Int} {place : Nat} {p : FilePath}

namespace Exporter

/-! ## Deliveries -/

section Deliveries

variable [Machine] [Glyphs]

omit [Machine] in
theorem quiet_printDocument {heading : Text} {text : Except RenderFault Text} :
    (printDocument heading text).Quiet :=
  quiet_printLine.bind fun _ => quiet_ofExcept.bind fun _ => quiet_print

/-- An exporter that does not persist leaves the files alone. -/
theorem quiet_deliver {e : Exporter} (h : e.persists = false) : (e.deliver m place).Quiet := by
  unfold persists at h
  unfold deliver
  split
  · rename_i path houtlet
    rw [houtlet] at h
    cases h
  · exact quiet_printDocument.bind fun _ => quiet_modify fun _ => rfl

omit [Machine] in
/-- A text that has bytes is printed under a heading that the console prints. -/
theorem certain_printDocument {heading text : Text} (hheading : Console.refused? heading = none)
    (hwhole : text.isWhole = true) : (printDocument heading (.ok text)).Certain := by
  have hline : Console.refused? ("\n" ++ heading ++ ":") = none :=
    Console.refused?_append.2 ⟨Console.refused?_append.2
      ⟨Console.refused?_ofString "\n", hheading⟩, Console.refused?_ofString ":"⟩
  refine (certain_printLine hline).bind fun _ => ?_
  show (pure text >>= fun t => Action.print (.out t)).Certain
  rw [pure_bind]
  exact certain_print (Console.refused?_of_isWhole hwhole)

theorem certain_deliver {title text : Text} (htitle : title.isEmpty = false)
    (hrefused : Console.refused? title = none) (htext : m.render indent = .ok text)
    (hwhole : text.isWhole = true) :
    (deliver m place ⟨.console (some title), indent⟩).Certain := by
  unfold deliver heading
  dsimp only
  rw [htext, if_neg (Bool.eq_false_iff.1 htitle)]
  exact (certain_printDocument hrefused hwhole).bind fun _ => certain_modify

omit [Machine] [Glyphs] in
/-- A delivery is counted and said. -/
theorem quiet_count {level : LogLevel} {logger : String} {message : Text} :
    (do
      modify fun w => { w with delivered := w.delivered ++ [place] }
      Action.log level logger message : Action Unit).Quiet := by
  refine Quiet.bind (quiet_modify ?_) fun _ => quiet_log
  intro w
  rfl

/-- An exporter to a file that delivers has written the rendered text. -/
theorem deliver_ok (h : (deliver m place ⟨.file p, indent⟩).Ends w (.ok ()) v) :
    ∃ text bytes, m.render indent = .ok text ∧ Utf8.encodeText text = .ok bytes ∧
      Store.Written p bytes w.store v.store := by
  unfold deliver at h
  obtain ⟨text, w₁, hrender, hrest⟩ := ends_bind_ok.1 h
  obtain ⟨htext, rfl⟩ := ends_ofExcept_ok.1 hrender
  obtain ⟨⟨⟩, w₂, hwrite, hsaid⟩ := ends_bind_ok.1 hrest
  obtain ⟨bytes, hbytes, hwritten⟩ := writeText_ok hwrite
  have hstore : v.store = w₂.store := quiet_count hsaid
  exact ⟨text, bytes, htext, hbytes, hstore ▸ hwritten⟩

/-- An exporter to a file that fails has touched no file, unless the text has no bytes. -/
theorem deliver_error (h : (deliver m place ⟨.file p, indent⟩).Ends w (.error f) v) :
    Store.SameFiles w.store v.store ∨
      ∃ text u, m.render indent = .ok text ∧ Utf8.encodeText text = .error u ∧
        f = .unencodable u ∧ Store.Written p [] w.store v.store := by
  unfold deliver at h
  obtain ⟨text, w₁, hrender, hrest⟩ | hrender := ends_bind_error.1 h
  · obtain ⟨htext, rfl⟩ := ends_ofExcept_ok.1 hrender
    obtain ⟨⟨⟩, w₂, -, hsaid⟩ | hwrite := ends_bind_error.1 hrest
    · exact absurd hsaid (certain_modify.bind fun _ => certain_log).not_error
    · refine (writeText_error hwrite).imp_right ?_
      rintro ⟨u, hu, hf, hwritten⟩
      exact ⟨text, u, htext, hu, hf, hwritten⟩
  · rw [(ends_ofExcept_error.1 hrender).2]
    exact .inl (Store.SameFiles.refl _)

end Deliveries

theorem quiet_finish {e : Exporter} : (e.finish place).Quiet := by
  unfold finish
  refine quiet_get.bind fun w => ?_
  split
  · exact quiet_log
  · exact quiet_log

theorem certain_finish {e : Exporter} : (e.finish place).Certain := by
  unfold finish
  refine certain_get.bind fun w => ?_
  split
  · exact certain_log
  · exact certain_log

end Exporter

namespace Run

variable {settings : Settings} {exporters : List Exporter} {request : Request}

/-! ## Requests -/

/-- The path of the manifest that is edited. -/
def Request.manifestPath (request : Request) (settings : Settings) : Text :=
  orElse request.manifest settings.manifestFile

/-- The result of a request on the stored files: both documents stand there and the directive has
been applied. -/
def Request.Gives [Machine] (request : Request) (settings : Settings) (s : Store)
    (applied : Applied) : Prop :=
  ∃ manifest directive,
    s.HoldsDocument Manifest.decode (request.manifestPath settings) manifest ∧
      s.HoldsDocument Directive.decode (orElse request.directive settings.directiveFile)
        directive ∧
      manifest.apply directive = .ok applied

/-- Whether what persists is skipped. -/
def Request.skips (request : Request) (settings : Settings) (applied : Applied) : Bool :=
  request.dry.getD settings.dryRun || !applied.isChanged

/-- The exporters that are not skipped, with their places. -/
def active (skips : Bool) (exporters : List Exporter) : List (Exporter × Nat) :=
  exporters.zipIdx.filter fun e => !(skips && e.1.persists)

theorem persists_of_mem_active {e : Exporter × Nat} (h : e ∈ active true exporters) :
    e.1.persists = false := by
  simpa using (List.mem_filter.1 h).2

theorem active_false (exporters : List Exporter) : active false exporters = exporters.zipIdx := by
  simp [active]

/-! ## The parts of a run -/

/-- What a run says when it skips exporters. -/
def announce (dry skips : Bool) (skipped : Nat) : Action Unit :=
  if skips then
    Action.log .info logger
      ((if dry then "Dry run" else "Nothing changed") ++ ": skipping " ++ toString skipped ++
        " persisting exporter(s).")
  else pure ()

theorem quiet_announce {dry skips : Bool} {skipped : Nat} :
    (announce dry skips skipped).Quiet := by
  unfold announce
  split
  · exact quiet_log
  · exact quiet_pure

theorem certain_announce {dry skips : Bool} {skipped : Nat} :
    (announce dry skips skipped).Certain := by
  unfold announce
  split
  · exact certain_log
  · exact certain_pure

/-- What a run says after the deliveries. -/
def conclude (applied : Applied) (placed : List (Exporter × Nat)) : Action Applied := do
  placed.forM fun (e, place) => e.finish place
  Action.log .info logger "Modification complete."
  pure applied

theorem quiet_conclude {applied : Applied} {placed : List (Exporter × Nat)} :
    (conclude applied placed).Quiet :=
  (quiet_forM fun _ _ => Exporter.quiet_finish).bind fun _ => quiet_log.bind fun _ => quiet_pure

theorem conclude_ends {applied : Applied} {placed : List (Exporter × Nat)}
    {r : Except Fault Applied} (h : (conclude applied placed).Ends w r v) : r = .ok applied := by
  unfold conclude at h
  have hfinish : (placed.forM fun (e, place) => e.finish place).Certain :=
    certain_forM fun _ _ => Exporter.certain_finish
  obtain ⟨⟨⟩, w₁, -, hrest⟩ | ⟨f, hf, -⟩ := ends_bind.1 h
  · obtain ⟨⟨⟩, w₂, -, hpure⟩ | ⟨f, hf, -⟩ := ends_bind.1 hrest
    · exact (ends_pure.1 hpure).1
    · exact absurd hf certain_log.not_error
  · exact absurd hf hfinish.not_error

section Whole

variable [Machine] [Glyphs]

/-- One exporter after the other delivers the manifest. -/
def deliverAll (m : Manifest) (placed : List (Exporter × Nat)) : Action Unit :=
  placed.forM fun (e, place) => e.deliver m place

/-- What a run does before the deliveries: it loads both documents, applies the directive and
reports the changes. -/
def prepare (settings : Settings) (request : Request) : Action Applied := do
  let manifestPath := request.manifestPath settings
  let directivePath := orElse request.directive settings.directiveFile
  let manifest ← load .manifest Manifest.decode manifestPath
  let directive ← load .directive Directive.decode directivePath
  Action.log .info logger ("Applying " ++ directivePath ++ " to " ++ manifestPath)
  let applied ← Action.ofExcept Fault.ofApplyError (manifest.apply directive)
  logChanges applied.changes
  printChanges applied.changes (request.dry.getD settings.dryRun)
  pure applied

theorem quiet_logChanges {changes : List Change} : (logChanges changes).Quiet :=
  quiet_forM fun _ _ => quiet_ofExcept.bind fun _ => quiet_log

omit [Machine] in
theorem quiet_printChanges {changes : List Change} {dry : Bool} :
    (printChanges changes dry).Quiet := by
  unfold printChanges
  split
  · exact quiet_printLine
  · exact quiet_print

theorem quiet_prepare : (prepare settings request).Quiet :=
  quiet_load.bind fun _ => quiet_load.bind fun _ => quiet_log.bind fun _ =>
    quiet_ofExcept.bind fun _ => quiet_logChanges.bind fun _ => quiet_printChanges.bind fun _ =>
      quiet_pure

/-- What comes before the deliveries gives their result, and the manifest's path has been
printed. -/
theorem prepare_ok {applied : Applied} (h : (prepare settings request).Ends w (.ok applied) v) :
    request.Gives settings w.store applied ∧
      Console.refused? (request.manifestPath settings) = none := by
  unfold prepare at h
  obtain ⟨manifest, w₁, hmanifest, h₁⟩ := ends_bind_ok.1 h
  obtain ⟨directive, w₂, hdirective, h₂⟩ := ends_bind_ok.1 h₁
  obtain ⟨⟨⟩, w₃, -, h₃⟩ := ends_bind_ok.1 h₂
  obtain ⟨result, w₄, happly, h₄⟩ := ends_bind_ok.1 h₃
  obtain ⟨⟨⟩, w₅, -, h₅⟩ := ends_bind_ok.1 h₄
  obtain ⟨⟨⟩, w₆, -, h₆⟩ := ends_bind_ok.1 h₅
  cases (ends_pure.1 h₆).1
  obtain ⟨hholds, hprinted⟩ := load_ok hmanifest
  refine ⟨⟨manifest, directive, hholds, ?_, (ends_ofExcept_ok.1 happly).1⟩, hprinted⟩
  rw [← quiet_load hmanifest]
  exact (load_ok hdirective).1

theorem ends_deliverAll_conclude {applied : Applied} {placed : List (Exporter × Nat)}
    {r : Except Fault Applied}
    (h : (deliverAll applied.manifest placed >>= fun _ => conclude applied placed).Ends w r v) :
    ∃ u q, (deliverAll applied.manifest placed).Ends w q u ∧ u.store = v.store ∧
      r = q.map fun _ => applied := by
  obtain ⟨⟨⟩, u, hdeliver, hconclude⟩ | ⟨f, hdeliver, hr⟩ := ends_bind.1 h
  · exact ⟨u, _, hdeliver, (quiet_conclude hconclude).symm, conclude_ends hconclude⟩
  · exact ⟨v, _, hdeliver, rfl, hr⟩

theorem run_eq (settings : Settings) (exporters : List Exporter) (request : Request) :
    run settings exporters request = (do
      let applied ← prepare settings request
      let skips := request.skips settings applied
      let placed := active skips exporters
      announce (request.dry.getD settings.dryRun) skips
        (exporters.zipIdx.length - placed.length)
      deliverAll applied.manifest placed
      conclude applied placed) := by
  unfold run prepare announce conclude
  simp only [bind_assoc, pure_bind]
  refine bind_congr fun manifest => bind_congr fun directive => bind_congr fun _ =>
    bind_congr fun applied => bind_congr fun _ => bind_congr fun _ => ?_
  unfold Request.skips active deliverAll
  split
  · rfl
  · rw [pure_bind]

/-- Of all that a run does only the deliveries touch files; before them both documents have been
loaded and the directive applied. -/
theorem ends_run {r : Except Fault Applied} (h : (run settings exporters request).Ends w r v) :
    (v.store = w.store ∧ ∃ f, r = .error f) ∨
      ∃ applied u u' q, request.Gives settings w.store applied ∧
        Console.refused? (request.manifestPath settings) = none ∧ u.store = w.store ∧
        (deliverAll applied.manifest (active (request.skips settings applied) exporters)).Ends
          u q u' ∧
        u'.store = v.store ∧ r = q.map fun _ => applied := by
  rw [run_eq] at h
  obtain ⟨applied, w₁, hprepare, hs₁, h₁⟩ | ⟨f, hr, -, hv⟩ := quiet_prepare.ends_bind h
  · obtain ⟨⟨⟩, w₂, -, hs₂, h₂⟩ | ⟨f, -, hannounce, -⟩ := quiet_announce.ends_bind h₁
    · obtain ⟨u', q, hdeliver, hstore, hr⟩ := ends_deliverAll_conclude h₂
      obtain ⟨hgives, hprinted⟩ := prepare_ok hprepare
      exact .inr ⟨applied, w₂, u', q, hgives, hprinted, hs₂.trans hs₁, hdeliver, hstore, hr⟩
    · exact absurd hannounce certain_announce.not_error
  · exact .inl ⟨hv, f, hr⟩

/-! ## Deliveries to one file -/

/-- Where what persists is skipped all deliveries are quiet. -/
theorem quiet_deliverAll {exporters : List (Exporter × Nat)}
    (h : ∀ e ∈ exporters, e.1.persists = false) : (deliverAll m exporters).Quiet :=
  quiet_forM fun e he => Exporter.quiet_deliver (h e he)

variable {others : List (Exporter × Nat)}

theorem deliverAll_ok (hothers : ∀ d ∈ others, d.1.persists = false)
    (h : (deliverAll m ((⟨.file p, indent⟩, place) :: others)).Ends w (.ok ()) v) :
    ∃ text bytes, m.render indent = .ok text ∧ Utf8.encodeText text = .ok bytes ∧
      Store.Written p bytes w.store v.store := by
  obtain ⟨⟨⟩, w₁, hfile, hrest⟩ := ends_bind_ok.1 h
  have hstore : v.store = w₁.store := quiet_deliverAll hothers hrest
  rw [hstore]
  exact Exporter.deliver_ok hfile

/-- Once the file has been written nothing can fail: what has bytes can be printed under a title
that can be. -/
theorem deliverAll_error {title : Text} (htitle : title.isEmpty = false)
    (hrefused : Console.refused? title = none)
    (hothers : ∀ d ∈ others, d.1 = ⟨.console (some title), indent⟩)
    (h : (deliverAll m ((⟨.file p, indent⟩, place) :: others)).Ends w (.error f) v) :
    Store.SameFiles w.store v.store ∨
      ∃ text u, m.render indent = .ok text ∧ Utf8.encodeText text = .error u ∧
        f = .unencodable u ∧ Store.Written p [] w.store v.store := by
  obtain ⟨⟨⟩, w₁, hfile, hrest⟩ | hfile := ends_bind_error.1 h
  · obtain ⟨text, bytes, htext, hbytes, -⟩ := Exporter.deliver_ok hfile
    have hwhole : text.isWhole = true := Utf8.exists_encodeText_iff.1 ⟨bytes, hbytes⟩
    have hcertain : (deliverAll m others).Certain := by
      refine certain_forM fun d hd => ?_
      obtain ⟨e, number⟩ := d
      obtain rfl : e = _ := hothers _ hd
      exact Exporter.certain_deliver htitle hrefused htext hwhole
    exact absurd hrest hcertain.not_error
  · exact Exporter.deliver_error hfile

end Whole

end Run

end ManifestEdit
