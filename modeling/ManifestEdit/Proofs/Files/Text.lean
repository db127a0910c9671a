import ManifestEdit.Files.Text
import ManifestEdit.Proofs.Action
import ManifestEdit.Proofs.Files.Store

/-!
# Reading and writing a text

Reading the text at a path is quiet and its end depends on what stands there: `readText_ok` and
`readText_error` list all of it. Writing a text either has its whole effect (`writeText_ok`) or
touches no file; the one exception is a text that has no bytes, which leaves an empty file.
-/

namespace ManifestEdit

open ManifestEdit.Action

variable {w v : World} {path t : Text} {p : FilePath} {f : Fault}

namespace Store

/-- The file at a path may be read and holds the text, whatever its line breaks are. -/
structure HoldsText (s : Store) (p : FilePath) (t : Text) : Prop where
  name : FilePath.nameFault? p.text = none
  file : ∃ bytes cs, s.read p = .ok bytes ∧ Utf8.decode bytes = .ok cs ∧ t = .ofChars (lineFeeds cs)

/-- There is no file at the path, be it that nothing could be there. -/
inductive Missing (s : Store) (p : FilePath) : Fault → Prop where
  | noName (hname : FilePath.nameFault? p.text ≠ none) : Missing s p (.notFound p)
  | nothing {e : PathFault} (hfind : s.find p = .error e) (hlong : e ≠ .nameTooLong)
      (hdenied : e ≠ .denied) : Missing s p (.notFound p)
  | folder (hname : FilePath.nameFault? p.text = none) {access : Access}
      (hfind : s.find p = .ok (.folder access)) : Missing s p (.notAFile p)

/-- The path is a name, but too long a one, or one that leads through a folder that may not be
searched, or to a file that may not be read or of which the bytes are no text. -/
inductive Unreadable (s : Store) (p : FilePath) : Fault → Prop where
  | tooLong (hname : FilePath.nameFault? p.text = none) (hfind : s.find p = .error .nameTooLong) :
      Unreadable s p (.file ⟨.nameTooLong, p⟩)
  | unreachable (hname : FilePath.nameFault? p.text = none) (hfind : s.find p = .error .denied) :
      Unreadable s p (.file ⟨.denied, p⟩)
  | closed (hname : FilePath.nameFault? p.text = none) {bytes : List UInt8} {access : Access}
      (hfind : s.find p = .ok (.file bytes access)) (hread : access.read = false) :
      Unreadable s p (.file ⟨.denied, p⟩)
  | noText (hname : FilePath.nameFault? p.text = none) {bytes : List UInt8} {fault : Utf8.Fault}
      (hread : s.read p = .ok bytes) (hbytes : Utf8.decode bytes = .error fault) :
      Unreadable s p (.encoding fault)

end Store

/-! ## Reading -/

namespace Action

theorem ends_decodeText_ok {bytes : List UInt8} :
    (decodeText bytes).Ends w (.ok t) v ↔
      (∃ cs, Utf8.decode bytes = .ok cs ∧ t = .ofChars (lineFeeds cs)) ∧ v = w := by
  unfold decodeText
  cases Utf8.decode bytes <;> simp

theorem ends_decodeText_error {bytes : List UInt8} :
    (decodeText bytes).Ends w (.error f) v ↔
      (∃ fault, Utf8.decode bytes = .error fault ∧ f = .encoding fault) ∧ v = w := by
  unfold decodeText
  cases Utf8.decode bytes <;> simp

theorem quiet_decodeText {bytes : List UInt8} : (decodeText bytes).Quiet := by
  unfold decodeText
  split
  · exact quiet_pure
  · exact quiet_fail

theorem ends_checkName_ok {t : Text} :
    (checkName t).Ends w (.ok ()) v ↔ FilePath.nameFault? t = none ∧ v = w := by
  unfold checkName
  cases FilePath.nameFault? t <;> simp

theorem ends_checkName_error {t : Text} :
    (checkName t).Ends w (.error f) v ↔
      v = w ∧ ∃ fault, FilePath.nameFault? t = some fault ∧ f = .name fault := by
  unfold checkName
  cases FilePath.nameFault? t <;> simp [and_comm]

theorem quiet_checkName {t : Text} : (checkName t).Quiet := by
  unfold checkName
  split
  · exact quiet_fail
  · exact quiet_pure

/-- A text that is read is held by the file at the path. -/
theorem readText_ok (h : (readText path).Ends w (.ok t) v) :
    w.store.HoldsText (.ofText path) t := by
  unfold readText at h
  rw [ends_get_bind] at h
  split at h
  · cases (ends_fail.1 h).1
  · cases (ends_fail.1 h).1
  · cases (ends_fail.1 h).1
  · cases (ends_fail.1 h).1
  · cases (ends_fail.1 h).1
  · rename_i bytes access hname hfind
    split at h
    · rename_i hread
      obtain ⟨⟨cs, hcs, ht⟩, -⟩ := ends_decodeText_ok.1 h
      exact ⟨hname, bytes, cs, Store.read_eq_ok_iff.2 ⟨access, hfind, hread⟩, hcs, ht⟩
    · cases (ends_fail.1 h).1

theorem readText_of_holdsText (h : w.store.HoldsText (.ofText path) t) :
    (readText path).Ends w (.ok t) w := by
  obtain ⟨hname, bytes, cs, hread, hcs, ht⟩ := h
  obtain ⟨access, hfind, hread⟩ := Store.read_eq_ok_iff.1 hread
  unfold readText
  rw [ends_get_bind, hname, hfind]
  dsimp only
  rw [if_pos hread]
  exact ends_decodeText_ok.2 ⟨⟨cs, hcs, ht⟩, rfl⟩

/-- The faults of reading are those of a path at which there is no file, and some more. -/
theorem readText_error (h : (readText path).Ends w (.error f) v) :
    w.store.Missing (.ofText path) f ∨ w.store.Unreadable (.ofText path) f := by
  unfold readText at h
  rw [ends_get_bind] at h
  split at h
  · rename_i hname
    cases (ends_fail.1 h).1
    exact .inl (.noName (by rw [hname]; simp))
  · rename_i hname hfind
    cases (ends_fail.1 h).1
    exact .inr (.tooLong hname hfind)
  · rename_i hname hfind
    cases (ends_fail.1 h).1
    exact .inr (.unreachable hname hfind)
  · rename_i hlong hdenied hname hfind
    cases (ends_fail.1 h).1
    exact .inl (.nothing hfind hlong hdenied)
  · rename_i hname hfind
    cases (ends_fail.1 h).1
    exact .inl (.folder hname hfind)
  · rename_i bytes access hname hfind
    split at h
    · rename_i hread
      obtain ⟨⟨fault, hbytes, rfl⟩, -⟩ := ends_decodeText_error.1 h
      exact .inr (.noText hname (Store.read_eq_ok_iff.2 ⟨access, hfind, hread⟩) hbytes)
    · rename_i hread
      cases (ends_fail.1 h).1
      exact .inr (.closed hname hfind (Bool.eq_false_iff.2 hread))

theorem readText_of_unreadable (h : w.store.Unreadable (.ofText path) f) :
    (readText path).Ends w (.error f) w := by
  unfold readText
  rw [ends_get_bind]
  cases h with
  | tooLong hname hfind =>
    rw [hname, hfind]
    exact ends_fail.2 ⟨rfl, rfl⟩
  | unreachable hname hfind =>
    rw [hname, hfind]
    exact ends_fail.2 ⟨rfl, rfl⟩
  | closed hname hfind hread =>
    rw [hname, hfind]
    dsimp only
    rw [hread, if_neg Bool.false_ne_true]
    exact ends_fail.2 ⟨rfl, rfl⟩
  | noText hname hread hbytes =>
    obtain ⟨access, hfind, hread⟩ := Store.read_eq_ok_iff.1 hread
    rw [hname, hfind]
    dsimp only
    rw [if_pos hread]
    exact ends_decodeText_error.2 ⟨⟨_, hbytes, rfl⟩, rfl⟩

theorem quiet_readText : (readText path).Quiet := by
  unfold readText
  refine quiet_get.bind fun w => ?_
  split
  · exact quiet_fail
  · exact quiet_fail
  · exact quiet_fail
  · exact quiet_fail
  · exact quiet_fail
  · split
    · exact quiet_decodeText
    · exact quiet_fail

/-! ## Writing -/

/-- A folder is made, or as much of it as could be; nothing else fails but the making. -/
theorem ends_makeParent {r : Except Fault Unit} (h : (makeParent p).Ends w r v) :
    w.store.Grows v.store := by
  unfold makeParent at h
  obtain ⟨⟨⟩, u, -, hu, h⟩ | ⟨e, -, -, hstore⟩ := quiet_checkName.ends_bind h
  · rw [ends_get_bind] at h
    have hgrows := Store.makeFolders_grows p.slashes u.store p.parent.parts.reverse
    rw [← hu]
    obtain ⟨⟨⟩, x, hx, h⟩ | ⟨e, he, -⟩ := ends_bind.1 h
    · have hv : v = x := by
        split at h
        · exact (ends_fail.1 h).2
        · exact (ends_pure.1 h).2
      rw [hv, (ends_set.1 hx).2]
      exact hgrows
    · cases (ends_set.1 he).1
  · rw [hstore]
    exact Store.Grows.refl _

theorem ends_writeBytes_ok {bytes : List UInt8} (h : (writeBytes p bytes).Ends w (.ok ()) v) :
    Store.Written p bytes w.store v.store := by
  unfold writeBytes at h
  rw [ends_get_bind] at h
  split at h
  · rename_i t ht
    rw [(ends_set.1 h).2]
    exact Store.written_of_write ht
  · cases (ends_fail.1 h).1

theorem ends_writeBytes_error {bytes : List UInt8}
    (h : (writeBytes p bytes).Ends w (.error f) v) : v.store = w.store := by
  unfold writeBytes at h
  rw [ends_get_bind] at h
  split at h
  · cases (ends_set.1 h).1
  · rw [(ends_fail.1 h).2]

/-- A text that is written has bytes and the file holds them. -/
theorem writeText_ok {text : Text} (h : (writeText p text).Ends w (.ok ()) v) :
    ∃ bytes, Utf8.encodeText text = .ok bytes ∧ Store.Written p bytes w.store v.store := by
  unfold writeText at h
  obtain ⟨⟨⟩, w₁, hparent, h⟩ := ends_bind_ok.1 h
  obtain ⟨⟨⟩, w₂, hname, h⟩ := ends_bind_ok.1 h
  cases (ends_checkName_ok.1 hname).2
  have hgrows := ends_makeParent hparent
  split at h
  · rename_i bytes hbytes
    exact ⟨bytes, hbytes, (ends_writeBytes_ok h).of_sameFiles hgrows.files⟩
  · obtain ⟨⟨⟩, w₃, -, h⟩ := ends_bind_ok.1 h
    cases (ends_fail.1 h).1

/-- Where a text is not written no file is touched, unless the text has no bytes: then the file is
left empty. -/
theorem writeText_error {text : Text} (h : (writeText p text).Ends w (.error f) v) :
    Store.SameFiles w.store v.store ∨
      ∃ u, Utf8.encodeText text = .error u ∧ f = .unencodable u ∧
        Store.Written p [] w.store v.store := by
  unfold writeText at h
  obtain ⟨⟨⟩, w₁, hparent, h⟩ | hparent := ends_bind_error.1 h
  · have hgrows := (ends_makeParent hparent).files
    obtain ⟨⟨⟩, w₂, hname, h⟩ | hname := ends_bind_error.1 h
    · cases (ends_checkName_ok.1 hname).2
      split at h
      · rw [ends_writeBytes_error h]
        exact .inl hgrows
      · rename_i u hu
        obtain ⟨⟨⟩, w₃, hwrite, h⟩ | hwrite := ends_bind_error.1 h
        · cases (ends_fail.1 h).1
          cases (ends_fail.1 h).2
          exact .inr ⟨u, hu, rfl, (ends_writeBytes_ok hwrite).of_sameFiles hgrows⟩
        · rw [ends_writeBytes_error hwrite]
          exact .inl hgrows
    · cases (ends_checkName_error.1 hname).1
      exact .inl hgrows
  · exact .inl (ends_makeParent hparent).files

end Action

end ManifestEdit
