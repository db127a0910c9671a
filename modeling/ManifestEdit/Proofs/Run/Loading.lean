import ManifestEdit.Proofs.Files.Text
import ManifestEdit.Proofs.Text.Utf8
import ManifestEdit.Run

/-!
# What loading ends with

Loading a document or settings is quiet: no file is changed. It ends with a document, with settings,
or with a fault that the command line reports, but for the faults that `Store.Unloadable` and
`Store.NoSettings` list: what may not be read, bytes that are no text, texts beyond the bounds of
the machine, and paths that can name no file or that the console does not print.
-/

namespace ManifestEdit

open ManifestEdit.Action

variable {α : Type} {decode : Json → String → Except DocumentError α} {w v : World} {f : Fault}
  {path : Text} {p : FilePath} {kind : DocumentKind}

theorem parseObject_eq_limit_iff [Machine] {text : Text} {source : Option Text}
    {fault : Machine.Fault} :
    parseObject text source = .error (.limit fault) ↔ Json.parse text = .error (.limit fault) := by
  unfold parseObject
  split
  · rename_i h
    simp [h]
  · rename_i h
    simp [h]
  · rename_i h
    simp [h]
  · rename_i h
    simp [h]

/-- A document is not read for a bound of the machine exactly where its text is not parsed for
it. -/
theorem loadText_eq_limit_iff [Machine] {text : Text} {source : Option Text}
    {fault : Machine.Fault} :
    loadText decode text source = .error (.limit fault) ↔
      Json.parse text = .error (.limit fault) := by
  rw [← @parseObject_eq_limit_iff _ text source, loadText]
  cases parseObject text source with
  | error e => simp
  | ok data =>
    dsimp only
    cases decode data "" <;> simp

namespace Store

/-- The document that stands at a path. -/
def HoldsDocument [Machine] (s : Store) (decode : Json → String → Except DocumentError α)
    (path : Text) (a : α) : Prop :=
  ∃ text, s.HoldsText (.ofText path) text ∧ loadText decode text (some path) = .ok a

/-- Why a document is not loaded though it is not missing and has no error: what stands at the path
cannot be read as a text, or the text passes a bound of the machine, or the document is read but the
console does not print the path. -/
inductive Unloadable [Machine] [Glyphs] (s : Store) (kind : DocumentKind)
    (decode : Json → String → Except DocumentError α) (path : Text) : Fault → Prop where
  | unreadable {f : Fault} (h : s.Unreadable (.ofText path) f) : Unloadable s kind decode path f
  | limit {text : Text} {fault : Machine.Fault} (htext : s.HoldsText (.ofText path) text)
      (hparse : Json.parse text = .error (.limit fault)) :
      Unloadable s kind decode path (.limit fault)
  | console {a : α} {fault : Utf8.Unencodable} (hdocument : s.HoldsDocument decode path a)
      (hrefused : Console.refused? (Run.successText kind path) = some fault) :
      Unloadable s kind decode path (.console fault)

/-- The empty path is that of the working folder, which holds no text itself. -/
theorem HoldsText.path_ne_empty {s : Store} {t : Text} (h : s.HoldsText (.ofText path) t) :
    path.isEmpty = false := by
  obtain ⟨-, bytes, cs, hread, -, -⟩ := h
  rw [Bool.eq_false_iff]
  intro hempty
  have hpath : FilePath.ofText path = ⟨0, []⟩ := by
    obtain ⟨letters⟩ := path
    cases List.isEmpty_iff.1 hempty
    rfl
  obtain ⟨access, hfind, -⟩ := read_eq_ok_iff.1 hread
  rw [hpath] at hfind
  cases hfind

theorem Missing.isReported {s : Store} (h : s.Missing p f) : f.isReported = true := by
  cases h <;> rfl

theorem Unreadable.isReported {s : Store} (h : s.Unreadable p f) : f.isReported = false := by
  cases h <;> rfl

theorem Unloadable.isReported [Machine] [Glyphs] {s : Store}
    (h : s.Unloadable kind decode path f) : f.isReported = false := by
  cases h with
  | unreadable h => exact h.isReported
  | limit _ _ => rfl
  | console _ _ => rfl

/-- Why what stands at the path of settings cannot be read as a value. -/
inductive NoSettings [Machine] (s : Store) (p : FilePath) : Fault → Prop where
  | noName {fault : NameFault} (hname : FilePath.nameFault? p.text = some fault) :
      NoSettings s p (.name fault)
  | noText (hname : FilePath.nameFault? p.text = none) {bytes : List UInt8} {fault : Utf8.Fault}
      (hread : s.read p = .ok bytes) (hbytes : Utf8.decode bytes = .error fault) :
      NoSettings s p (.encoding fault)
  | limit {text : Text} {fault : Machine.Fault} (htext : s.HoldsText p text)
      (hparse : Json.parse text = .error (.limit fault)) : NoSettings s p (.limit fault)

theorem NoSettings.isReported [Machine] {s : Store} (h : s.NoSettings p f) :
    f.isReported = false := by
  cases h <;> rfl

end Store

namespace Run

/-! ## Documents -/

section Announcement

variable [Glyphs]

/-- A document that has been read is announced. -/
def announceLoaded (kind : DocumentKind) (path : Text) : Action Unit := do
  let source : Text := if path.isEmpty then "<text>" else path
  Action.log .debug loaderLogger ("[Loader] Parsed " ++ kind.name ++ " from " ++ source)
  Action.printLine (successText kind path)
  Action.log .info logger ("Loaded " ++ kind.name ++ " from " ++ path)

theorem quiet_announceLoaded : (announceLoaded kind path).Quiet :=
  quiet_log.bind fun _ => quiet_printLine.bind fun _ => quiet_log

theorem announceLoaded_ok (h : (announceLoaded kind path).Ends w (.ok ()) v) :
    Console.refused? (successText kind path) = none := by
  obtain ⟨⟨⟩, w₁, -, h⟩ := ends_bind_ok.1 h
  obtain ⟨⟨⟩, w₂, hprint, -⟩ := ends_bind_ok.1 h
  exact refused?_of_printLine hprint

theorem announceLoaded_error_iff :
    (∃ v, (announceLoaded kind path).Ends w (.error f) v) ↔
      ∃ fault, Console.refused? (successText kind path) = some fault ∧ f = .console fault := by
  constructor
  · rintro ⟨v, h⟩
    obtain ⟨⟨⟩, w₁, -, h⟩ | h := ends_bind_error.1 h
    · obtain ⟨⟨⟩, w₂, -, h⟩ | h := ends_bind_error.1 h
      · exact absurd h certain_log.not_error
      · exact (ends_printLine_error.1 h).1
    · exact absurd h certain_log.not_error
  · intro hrefused
    obtain ⟨⟨⟩, w₁, hlog⟩ := certain_log w
    exact ⟨w₁, ends_bind_error.2 (.inl ⟨⟨⟩, w₁, hlog,
      ends_bind_error.2 (.inr (ends_printLine_error.2 ⟨hrefused, rfl⟩))⟩)⟩

end Announcement

section Load

variable [Machine] [Glyphs]

theorem load_eq (kind : DocumentKind) (decode : Json → String → Except DocumentError α)
    (path : Text) :
    load kind decode path = (do
      let text ← Action.readText path
      let document ← Action.ofExcept Fault.ofLoadError (loadText decode text (some path))
      announceLoaded kind path
      pure document) := by
  unfold load announceLoaded
  simp only [bind_assoc]

theorem quiet_load : (load kind decode path).Quiet := by
  rw [load_eq]
  exact quiet_readText.bind fun _ => quiet_ofExcept.bind fun _ => quiet_announceLoaded.bind fun _ =>
    quiet_pure

/-- A document that is loaded stands at the path, and the console prints the path. -/
theorem load_ok {a : α} (h : (load kind decode path).Ends w (.ok a) v) :
    w.store.HoldsDocument decode path a ∧ Console.refused? path = none := by
  rw [load_eq] at h
  obtain ⟨text, w₁, htext, h⟩ := ends_bind_ok.1 h
  obtain ⟨b, w₂, hdecode, h⟩ := ends_bind_ok.1 h
  obtain ⟨⟨⟩, w₃, hannounce, h⟩ := ends_bind_ok.1 h
  cases (ends_pure.1 h).1
  exact ⟨⟨text, readText_ok htext, (ends_ofExcept_ok.1 hdecode).1⟩,
    (Console.refused?_append.1 (announceLoaded_ok hannounce)).2⟩

/-- The fault of a load is that of a missing file or of its document, or else it is listed. -/
theorem load_error (h : (load kind decode path).Ends w (.error f) v) :
    f.isReported = true ∨ w.store.Unloadable kind decode path f := by
  rw [load_eq] at h
  obtain ⟨text, w₁, htext, h⟩ | htext := ends_bind_error.1 h
  · have hholds := readText_ok htext
    obtain ⟨a, w₂, hdecode, h⟩ | hdecode := ends_bind_error.1 h
    · obtain ⟨⟨⟩, w₃, -, h⟩ | hannounce := ends_bind_error.1 h
      · cases (ends_pure.1 h).1
      · obtain ⟨fault, hrefused, rfl⟩ := announceLoaded_error_iff.1 ⟨v, hannounce⟩
        exact .inr (.console ⟨text, hholds, (ends_ofExcept_ok.1 hdecode).1⟩ hrefused)
    · obtain ⟨⟨e, he, rfl⟩, -⟩ := ends_ofExcept_error.1 hdecode
      cases e with
      | document error => exact .inl rfl
      | limit fault => exact .inr (.limit hholds (loadText_eq_limit_iff.1 he))
  · exact (readText_error htext).imp Store.Missing.isReported .unreadable

theorem load_of_unloadable (h : w.store.Unloadable kind decode path f) :
    ∃ v, (load kind decode path).Ends w (.error f) v := by
  rw [load_eq]
  cases h with
  | unreadable h => exact ⟨w, ends_bind_error.2 (.inr (readText_of_unreadable h))⟩
  | limit htext hparse =>
    refine ⟨w, ends_bind_error.2 (.inl ⟨_, w, readText_of_holdsText htext, ?_⟩)⟩
    exact ends_bind_error.2
      (.inr (ends_ofExcept_error.2 ⟨⟨_, loadText_eq_limit_iff.2 hparse, rfl⟩, rfl⟩))
  | console hdocument hrefused =>
    obtain ⟨text, htext, hdecode⟩ := hdocument
    obtain ⟨v, hannounce⟩ := announceLoaded_error_iff.2 ⟨_, hrefused, rfl⟩
    refine ⟨v, ends_bind_error.2 (.inl ⟨_, w, readText_of_holdsText htext, ?_⟩)⟩
    refine ends_bind_error.2 (.inl ⟨_, w, ends_ofExcept_ok.2 ⟨hdecode, rfl⟩, ?_⟩)
    exact ends_bind_error.2 (.inr hannounce)

end Load

/-! ## Settings -/

/-- Settings are read at the path, else at that of the environment. -/
def settingsName (path environment : Option Text) : Option Text :=
  match path, environment with
  | some p, _ => some p
  | none, some e => if e.isEmpty then none else some e
  | none, none => none

section Settings

variable [Machine] [Glyphs]

/-- The settings at a path. -/
def settingsAt (p : FilePath) : Action Settings := do
  let data ← readSettings p
  let settings ← Action.ofExcept Fault.settings (Settings.decode data)
  Action.log .debug settingsLogger
    ("Loaded settings from " ++ p.text ++ ": " ++ settings.toJson.display)
  pure settings

theorem loadSettings_eq (path environment : Option Text) :
    loadSettings path environment =
      match settingsName path environment with
      | none => pure Settings.initial
      | some name => settingsAt (.ofText name) := by
  rfl

omit [Glyphs] in
theorem quiet_readSettings : (readSettings p).Quiet := by
  unfold readSettings
  refine quiet_checkName.bind fun _ => quiet_get.bind fun w => ?_
  split
  · exact quiet_fail
  · exact quiet_fail
  · exact quiet_decodeText.bind fun _ => quiet_ofExcept

theorem quiet_settingsAt : (settingsAt p).Quiet := by
  unfold settingsAt
  exact quiet_readSettings.bind fun _ => quiet_ofExcept.bind fun _ => quiet_log.bind fun _ =>
    quiet_pure

theorem quiet_loadSettings {environment path : Option Text} :
    (loadSettings path environment).Quiet := by
  rw [loadSettings_eq]
  split
  · exact quiet_pure
  · exact quiet_settingsAt

omit [Glyphs] in
theorem readSettings_error (h : (readSettings p).Ends w (.error f) v) :
    f.isReported = true ∨ w.store.NoSettings p f := by
  unfold readSettings at h
  obtain ⟨⟨⟩, w₁, hname, hread⟩ | hname := ends_bind_error.1 h
  · obtain ⟨hnone, rfl⟩ := ends_checkName_ok.1 hname
    rw [ends_get_bind] at hread
    split at hread
    · cases (ends_fail.1 hread).1
      exact .inl rfl
    · cases (ends_fail.1 hread).1
      exact .inl rfl
    · rename_i bytes hbytes
      obtain ⟨text, w₂, htext, hparse⟩ | hdecode := ends_bind_error.1 hread
      · obtain ⟨⟨e, he, rfl⟩, -⟩ := ends_ofExcept_error.1 hparse
        obtain ⟨⟨cs, hcs, ht⟩, -⟩ := ends_decodeText_ok.1 htext
        cases e with
        | fault fault => exact .inl rfl
        | limit fault => exact .inr (.limit ⟨hnone, bytes, cs, hbytes, hcs, ht⟩ he)
      · obtain ⟨⟨fault, hfault, rfl⟩, -⟩ := ends_decodeText_error.1 hdecode
        exact .inr (.noText hnone hbytes hfault)
  · obtain ⟨rfl, fault, hfault, rfl⟩ := ends_checkName_error.1 hname
    exact .inr (.noName hfault)

omit [Glyphs] in
theorem readSettings_of_noSettings (h : w.store.NoSettings p f) :
    (readSettings p).Ends w (.error f) w := by
  unfold readSettings
  cases h with
  | noName hname => exact ends_bind_error.2 (.inr (ends_checkName_error.2 ⟨rfl, _, hname, rfl⟩))
  | noText hname hread hbytes =>
    refine ends_bind_error.2 (.inl ⟨(), w, ends_checkName_ok.2 ⟨hname, rfl⟩, ?_⟩)
    rw [ends_get_bind, hread]
    exact ends_bind_error.2 (.inr (ends_decodeText_error.2 ⟨⟨_, hbytes, rfl⟩, rfl⟩))
  | limit htext hparse =>
    obtain ⟨hname, bytes, cs, hread, hcs, ht⟩ := htext
    refine ends_bind_error.2 (.inl ⟨(), w, ends_checkName_ok.2 ⟨hname, rfl⟩, ?_⟩)
    rw [ends_get_bind, hread]
    refine ends_bind_error.2 (.inl ⟨_, w, ends_decodeText_ok.2 ⟨⟨cs, hcs, ht⟩, rfl⟩, ?_⟩)
    exact ends_ofExcept_error.2 ⟨⟨_, hparse, rfl⟩, rfl⟩

theorem settingsAt_error (h : (settingsAt p).Ends w (.error f) v) :
    f.isReported = true ∨ w.store.NoSettings p f := by
  unfold settingsAt at h
  obtain ⟨data, w₁, -, h⟩ | hread := ends_bind_error.1 h
  · obtain ⟨s, w₂, -, h⟩ | hdecode := ends_bind_error.1 h
    · exact absurd h (certain_log.bind fun _ => certain_pure).not_error
    · obtain ⟨⟨e, -, rfl⟩, -⟩ := ends_ofExcept_error.1 hdecode
      exact .inl rfl
  · exact readSettings_error hread

/-- A fault of loading settings that is not reported is one of the path that is read, if any is. -/
theorem loadSettings_error {path environment : Option Text}
    (h : (loadSettings path environment).Ends w (.error f) v) :
    f.isReported = true ∨
      ∃ name ∈ settingsName path environment, w.store.NoSettings (.ofText name) f := by
  rw [loadSettings_eq] at h
  split at h
  · cases (ends_pure.1 h).1
  · rename_i name hname
    exact (settingsAt_error h).imp_right fun h => ⟨name, hname, h⟩

theorem loadSettings_of_noSettings {path environment : Option Text} {name : Text}
    (hname : settingsName path environment = some name)
    (h : w.store.NoSettings (.ofText name) f) :
    (loadSettings path environment).Ends w (.error f) w := by
  rw [loadSettings_eq, hname]
  exact ends_bind_error.2 (.inr (readSettings_of_noSettings h))

end Settings

/-! ## Faults that are not reported -/

/-- A document fails to load with a fault that is not reported exactly where what stands at the path
may not be read or is no text, where the text passes a bound of the machine, or where the console
does not print the path. Settings fail so exactly where the path that is read can name no file or,
again, the bytes are no text or the text passes a bound. In all other worlds loading ends with what
was asked for or with a reported fault. -/
theorem loading_unreported_iff [Machine] [Glyphs] (w : World) (f : Fault) :
    (∀ {α : Type} (kind : DocumentKind) (decode : Json → String → Except DocumentError α)
        (path : Text),
      (f.isReported = false ∧ ∃ v, (load kind decode path).Ends w (.error f) v) ↔
        w.store.Unloadable kind decode path f) ∧
    ∀ path environment : Option Text,
      (f.isReported = false ∧ ∃ v, (loadSettings path environment).Ends w (.error f) v) ↔
        ∃ name ∈ settingsName path environment, w.store.NoSettings (.ofText name) f := by
  constructor
  · intro α kind decode path
    constructor
    · rintro ⟨hf, v, h⟩
      exact (load_error h).resolve_left (by rw [hf]; exact Bool.false_ne_true)
    · intro h
      exact ⟨h.isReported, load_of_unloadable h⟩
  · intro path environment
    constructor
    · rintro ⟨hf, v, h⟩
      exact (loadSettings_error h).resolve_left (by rw [hf]; exact Bool.false_ne_true)
    · rintro ⟨name, hname, h⟩
      exact ⟨h.isReported, w, loadSettings_of_noSettings hname h⟩

/-- A world of one file, which is a byte that starts no character. -/
def byteWorld (path : Text) : World :=
  .ofStore ⟨[(⟨false, [path]⟩, .file [0xff] .full)]⟩ .warning

/-- Not every fault of loading is reported: a byte that starts no character gets out as it is. -/
theorem exists_unreported_of_bytes :
    (∃ f v, f.isReported = false ∧
      (load .manifest Manifest.decode Manifest.fileName).Ends (byteWorld Manifest.fileName)
        (.error f) v) ∧
    ∃ f v, f.isReported = false ∧
      (loadSettings (some Manifest.fileName) none).Ends (byteWorld Manifest.fileName)
        (.error f) v := by
  have hname : FilePath.nameFault? (FilePath.ofText Manifest.fileName).text = none := by
    decide +kernel
  have hread : (byteWorld Manifest.fileName).store.read (.ofText Manifest.fileName) =
      .ok [0xff] := by
    rfl
  have hbytes : Utf8.decode [0xff] = .error ⟨.invalidStart, 0xff, 0, 1⟩ := by rfl
  have hunloadable : (byteWorld Manifest.fileName).store.Unloadable .manifest Manifest.decode
      Manifest.fileName _ := .unreadable (.noText hname hread hbytes)
  obtain ⟨v, hload⟩ := load_of_unloadable hunloadable
  exact ⟨⟨_, v, rfl, hload⟩,
    ⟨_, _, rfl, loadSettings_of_noSettings rfl (.noText hname hread hbytes)⟩⟩

end Run

end ManifestEdit
