import ManifestEdit.Proofs.CommandLine

/-!
# Runs that fail

A run that fails before its exporters have begun has touched no file. The exporters deliver one
after the other and nothing takes back what was delivered, so where one of them fails the files of
those before it have been written. `run_failing` lists all that a failing run has done to the files.
-/

namespace ManifestEdit

open ManifestEdit.Action

variable {w v : World} {f : Fault} {m : Manifest}

namespace Exporter

/-- What exporters do to the files when each of them delivers: those to files write the rendered
text, one after the other, and those to the console nothing. -/
inductive Delivered [Machine] (m : Manifest) : List Exporter → Store → Store → Prop where
  | nil (s : Store) : Delivered m [] s s
  | file {p : FilePath} {indent : Int} {rest : List Exporter} {text : Text} {bytes : List UInt8}
      {s t u : Store} (rendered : m.render indent = .ok text)
      (encoded : Utf8.encodeText text = .ok bytes) (written : Store.Written p bytes s t)
      (delivered : Delivered m rest t u) : Delivered m (⟨.file p, indent⟩ :: rest) s u
  | console {title : Option Text} {indent : Int} {rest : List Exporter} {text : Text} {s u : Store}
      (rendered : m.render indent = .ok text) (delivered : Delivered m rest s u) :
      Delivered m (⟨.console title, indent⟩ :: rest) s u

/-- What an exporter that fails does to the files: nothing, or it leaves its file empty because the
rendered text has no bytes. -/
inductive Fails [Machine] (m : Manifest) (f : Fault) : Exporter → Store → Store → Prop where
  | untouched {e : Exporter} {s t : Store} (same : Store.SameFiles s t) : Fails m f e s t
  | emptied {p : FilePath} {indent : Int} {text : Text} {u : Utf8.Unencodable} {s t : Store}
      (rendered : m.render indent = .ok text) (encoded : Utf8.encodeText text = .error u)
      (fault : f = .unencodable u) (written : Store.Written p [] s t) :
      Fails m f ⟨.file p, indent⟩ s t

/-- Exporters that do not persist leave the files alone. -/
theorem Delivered.eq_of_not_persists [Machine] {exporters : List Exporter} {s t : Store}
    (h : Delivered m exporters s t) (hnone : ∀ e ∈ exporters, e.persists = false) : s = t := by
  induction h with
  | nil => rfl
  | file => cases hnone _ List.mem_cons_self
  | console _ _ ih => exact ih fun e he => hnone e (List.mem_cons_of_mem _ he)

/-- Files are touched only where an exporter to a file has delivered or a text has no bytes. -/
theorem Delivered.untouched_or [Machine] {done : List Exporter} {e : Exporter} {s t u : Store}
    (h : Delivered m done s t) (hfails : Fails m f e t u) :
    Store.SameFiles s u ∨ (∃ d ∈ done, d.persists = true) ∨ ∃ fault, f = .unencodable fault := by
  by_cases hfile : ∃ d ∈ done, d.persists = true
  · exact .inr (.inl hfile)
  · have hnone : ∀ d ∈ done, d.persists = false := fun d hd =>
      Bool.eq_false_iff.2 fun hd' => hfile ⟨d, hd, hd'⟩
    cases h.eq_of_not_persists hnone
    cases hfails with
    | untouched same => exact .inl same
    | emptied _ _ fault _ => exact .inr (.inr ⟨_, fault⟩)

theorem render_of_deliver [Machine] [Glyphs] {title : Option Text} {indent : Int} {place : Nat}
    (h : (deliver m place ⟨.console title, indent⟩).Ends w (.ok ()) v) :
    ∃ text, m.render indent = .ok text := by
  unfold deliver printDocument at h
  obtain ⟨⟨⟩, w₁, hprint, -⟩ := ends_bind_ok.1 h
  obtain ⟨⟨⟩, w₂, -, hrest⟩ := ends_bind_ok.1 hprint
  obtain ⟨text, w₃, hrender, -⟩ := ends_bind_ok.1 hrest
  exact ⟨text, (ends_ofExcept_ok.1 hrender).1⟩

theorem fails_of_deliver [Machine] [Glyphs] {e : Exporter} {place : Nat}
    (h : (e.deliver m place).Ends w (.error f) v) : Fails m f e w.store v.store := by
  obtain ⟨outlet, indent⟩ := e
  cases outlet with
  | console title =>
    have hstore : v.store = w.store := quiet_deliver rfl h
    rw [hstore]
    exact .untouched (Store.SameFiles.refl _)
  | file p =>
    obtain hsame | ⟨text, u, hrender, hencode, hf, hwritten⟩ := deliver_error h
    · exact .untouched hsame
    · exact .emptied hrender hencode hf hwritten

end Exporter

namespace Run

open Exporter

variable {settings : Settings} {exporters : List Exporter} {request : Request}

theorem delivered_of_deliverAll [Machine] [Glyphs] {placed : List (Exporter × Nat)}
    (h : (deliverAll m placed).Ends w (.ok ()) v) :
    Delivered m (placed.map Prod.fst) w.store v.store := by
  induction placed generalizing w with
  | nil =>
    rw [(ends_pure.1 h).2]
    exact .nil _
  | cons d rest ih =>
    obtain ⟨⟨outlet, indent⟩, place⟩ := d
    obtain ⟨⟨⟩, w₁, hfirst, hrest⟩ := ends_bind_ok.1 h
    cases outlet with
    | console title =>
      obtain ⟨text, htext⟩ := render_of_deliver hfirst
      have hstore : w₁.store = w.store := quiet_deliver rfl hfirst
      exact .console htext (hstore ▸ ih hrest)
    | file p =>
      obtain ⟨text, bytes, hrender, hencode, hwritten⟩ := deliver_ok hfirst
      exact .file hrender hencode hwritten (ih hrest)

/-- A run that fails has touched no file, or it has come to its exporters: those before the one that
failed have delivered. One of them persists, or the text of the result has no bytes. -/
theorem run_failing [Machine] [Glyphs]
    (h : (run settings exporters request).Ends w (.error f) v) :
    Store.SameFiles w.store v.store ∨
      ∃ applied done e rest t, request.Gives settings w.store applied ∧
        request.skips settings applied = false ∧ exporters = done ++ e :: rest ∧
        Delivered applied.manifest done w.store t ∧ Fails applied.manifest f e t v.store ∧
        ((∃ d ∈ done, d.persists = true) ∨ ∃ u, f = .unencodable u) := by
  obtain ⟨hstore, -⟩ | ⟨applied, u, u', q, hgives, -, hu, hdeliver, hu', hq⟩ := ends_run h
  · exact .inl (hstore ▸ Store.SameFiles.refl _)
  · cases q with
    | ok done => cases hq
    | error e =>
      cases hq
      rw [← hu, ← hu']
      cases hskips : request.skips settings applied with
      | true =>
        rw [hskips] at hdeliver
        have hstore := quiet_deliverAll (fun _ he => persists_of_mem_active he) hdeliver
        exact .inl (hstore ▸ Store.SameFiles.refl _)
      | false =>
        rw [hskips, active_false] at hdeliver
        obtain ⟨before, x, after, u₁, hsplit, hbefore, hx⟩ := ends_forM_error hdeliver
        have hexporters : exporters = before.map Prod.fst ++ x.1 :: after.map Prod.fst := by
          rw [← List.map_cons, ← List.map_append, ← hsplit, List.zipIdx_map_fst]
        have hdone := delivered_of_deliverAll hbefore
        have hfails := fails_of_deliver hx
        refine (hdone.untouched_or hfails).imp_right fun hreason => ?_
        exact ⟨applied, _, x.1, _, _, hu ▸ hgives, hskips, hexporters, hdone, hfails, hreason⟩

open CommandLine (storeOf dependentText removeText)

/-- Two exporters to files, of which the second asks for a folder where a file stands. -/
def pathThroughFile : List Exporter :=
  [⟨.file (.ofText "a.json"), 4⟩, ⟨.file (.ofText "composer.json/b"), 4⟩]

/-- What went wrong with a file. -/
def fileError? : Fault → Option FileError
  | .file e => some e
  | _ => none

theorem eq_of_fileError? {f : Fault} {e : FileError} (h : fileError? f = some e) : f = .file e := by
  cases f with
  | file e' =>
    cases h
    rfl
  | _ => cases h

/-- The first of them has made its file when the second fails. -/
theorem ends_pathThroughFile :
    ∃ v, (run .initial pathThroughFile ⟨none, none, none⟩).Ends
        (.ofStore (storeOf dependentText removeText) .warning)
        (.error (.file ⟨.occupied, .ofText "composer.json"⟩)) v ∧
      ¬ Store.SameFiles (storeOf dependentText removeText) v.store := by
  have hrun : (match (run .initial pathThroughFile ⟨none, none, none⟩).run.run
        (.ofStore (storeOf dependentText removeText) .warning) with
      | (.error f, v) => decide (fileError? f = some ⟨.occupied, .ofText "composer.json"⟩) &&
          (v.store.file? ⟨false, ["a.json"]⟩).isSome
      | (.ok _, _) => false) = true := by
    decide +kernel
  have hbefore : (storeOf dependentText removeText).file? ⟨false, ["a.json"]⟩ = none := by
    decide +kernel
  obtain ⟨r, v, h⟩ := exists_ends (run .initial pathThroughFile ⟨none, none, none⟩)
    (.ofStore (storeOf dependentText removeText) .warning)
  rw [show _ = (r, v) from h] at hrun
  cases r with
  | ok applied => cases hrun
  | error f =>
    rw [Bool.and_eq_true, decide_eq_true_iff] at hrun
    obtain ⟨hfault, hafter⟩ := hrun
    cases eq_of_fileError? hfault
    refine ⟨v, h, fun hsame => ?_⟩
    rw [hsame, hbefore] at hafter
    cases hafter

/-- Not every run that fails leaves the files alone. -/
theorem exists_fails_and_writes :
    ∃ exporters store f v, (run .initial exporters ⟨none, none, none⟩).Ends
      (.ofStore store .warning) (.error f) v ∧ ¬ Store.SameFiles store v.store := by
  obtain ⟨v, h, hfiles⟩ := ends_pathThroughFile
  exact ⟨_, _, _, v, h, hfiles⟩

theorem run_failing_pathThroughFile :
    ∃ v, ∃ applied : Applied, ∃ done e rest t,
      (run .initial pathThroughFile ⟨none, none, none⟩).Ends
        (.ofStore (storeOf dependentText removeText) .warning)
        (.error (.file ⟨.occupied, .ofText "composer.json"⟩)) v ∧
      pathThroughFile = done ++ e :: rest ∧ (∃ d ∈ done, d.persists = true) ∧
      Delivered applied.manifest done (storeOf dependentText removeText) t ∧
      Store.SameFiles t v.store := by
  obtain ⟨v, h, hfiles⟩ := ends_pathThroughFile
  obtain hsame | ⟨applied, done, e, rest, t, -, -, hsplit, hdone, hfails, hreason⟩ := run_failing h
  · exact absurd hsame hfiles
  · obtain hfile | ⟨u, hu⟩ := hreason
    · cases hfails with
      | untouched same => exact ⟨v, applied, done, e, rest, t, h, hsplit, hfile, hdone, same⟩
      | emptied _ _ fault _ => cases fault
    · cases hu

end Run

end ManifestEdit
