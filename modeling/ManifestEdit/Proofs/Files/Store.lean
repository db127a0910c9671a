import ManifestEdit.Files.Store

/-!
# What writing changes

`Store.SameFiles` compares two stores by their files alone and `Store.Grows` says that one came of
the other by making folders. `Store.Written` is the whole effect of writing a file: it stands at
the path with its bytes and every other file is as before. Making folders lets a store grow, and
writing after that is `Written` on the first store.
-/

namespace ManifestEdit

namespace Store

variable {s t u : Store} {l k : Location} {p : FilePath}

theorem lookup_cons_eq (l k : Location) (n : Node) (nodes : List (Location × Node)) :
    ((l, n) :: nodes).lookup k = if k = l then some n else nodes.lookup k := by
  rw [List.lookup_cons]
  by_cases hk : k = l
  · rw [if_pos hk, beq_iff_eq.2 hk]
  · rw [if_neg hk, beq_false_of_ne hk]

theorem lookup_putNode (l k : Location) (n : Node) (nodes : List (Location × Node)) :
    (putNode l n nodes).lookup k = if k = l then some n else nodes.lookup k := by
  induction nodes with
  | nil => rw [putNode, lookup_cons_eq]
  | cons e rest ih =>
    obtain ⟨m, o⟩ := e
    rw [putNode]
    split
    · rename_i hml
      rw [lookup_cons_eq, lookup_cons_eq, hml]
      split <;> rfl
    · rename_i hml
      rw [lookup_cons_eq, ih, lookup_cons_eq]
      by_cases hk : k = m
      · rw [if_pos hk, if_pos hk, if_neg (fun h => hml (hk.symm.trans h))]
      · rw [if_neg hk, if_neg hk]

/-- Where the node is not one that is always there, a node put in its place is found. -/
theorem node?_put (hl : l.isUpwards = false) (n : Node) (s : Store) (k : Location) :
    (s.put l n).node? k = if k = l then some n else s.node? k := by
  unfold node? upwardsAccess put
  by_cases hk : k = l
  · rw [hk, if_neg (by rw [hl]; exact Bool.false_ne_true), if_pos rfl, lookup_putNode, if_pos rfl]
  · simp only [lookup_putNode, if_neg hk]

theorem isUpwards_eq_false (h : ∀ access, s.node? l ≠ some (.folder access)) :
    l.isUpwards = false := by
  rw [Bool.eq_false_iff]
  intro hl
  exact h _ (by rw [node?, if_pos hl])

/-! ## Files -/

/-- The bytes of the file at a location. -/
def file? (s : Store) (l : Location) : Option (List UInt8) :=
  match s.node? l with
  | some (.file bytes _) => some bytes
  | _ => none

theorem file?_eq_some_iff {bytes : List UInt8} :
    s.file? l = some bytes ↔ ∃ access, s.node? l = some (.file bytes access) := by
  unfold file?
  split
  · rename_i b access hb
    simp [hb]
  · rename_i hb
    constructor
    · intro h
      cases h
    · rintro ⟨access, h⟩
      exact absurd h (hb bytes access)

theorem file?_of_folder {access : Access} (h : s.node? l = some (.folder access)) :
    s.file? l = none := by
  simp [file?, h]

theorem file?_of_none (h : s.node? l = none) : s.file? l = none := by
  simp [file?, h]

/-- No file has been made, changed or taken away; folders are not compared. -/
def SameFiles (s t : Store) : Prop :=
  ∀ l, t.file? l = s.file? l

theorem SameFiles.refl (s : Store) : SameFiles s s :=
  fun _ => rfl

theorem SameFiles.trans (h : SameFiles s t) (h' : SameFiles t u) : SameFiles s u :=
  fun l => (h' l).trans (h l)

/-- The folders of the first store are as they were in the second. -/
def KeepsFolders (s t : Store) : Prop :=
  ∀ l access, s.node? l = some (.folder access) → t.node? l = some (.folder access)

/-- The store came of the other by making folders where nothing was. -/
structure Grows (s t : Store) : Prop where
  folders : KeepsFolders s t
  files : SameFiles s t

theorem Grows.refl (s : Store) : Grows s s :=
  ⟨fun _ _ h => h, SameFiles.refl s⟩

theorem Grows.trans (h : Grows s t) (h' : Grows t u) : Grows s u :=
  ⟨fun l access hl => h'.folders l access (h.folders l access hl), h.files.trans h'.files⟩

theorem grows_put_folder (h : s.node? l = none) : Grows s (s.put l (.folder .full)) := by
  have hl : l.isUpwards = false := isUpwards_eq_false (by rw [h]; simp)
  refine ⟨fun k access hk => ?_, fun k => ?_⟩
  · rw [node?_put hl, if_neg]
    · exact hk
    · rintro rfl
      rw [h] at hk
      cases hk
  · by_cases hk : k = l
    · rw [hk, file?_of_none h, file?_of_folder (by rw [node?_put hl, if_pos rfl])]
    · rw [file?, node?_put hl, if_neg hk, file?]

/-! ## Paths -/

/-- Where all folders have stayed, a path leads to where it led before. -/
theorem walk_of_folders (h : KeepsFolders s t) {parts : List Text}
    (hwalk : s.walk l parts = .ok k) : t.walk l parts = .ok k := by
  induction parts generalizing l with
  | nil => exact hwalk
  | cons part rest ih =>
    rw [walk] at hwalk ⊢
    split at hwalk
    · rename_i access hfolder
      rw [h l access hfolder]
      split at hwalk
      · cases hwalk
      · rename_i hsearch
        split at hwalk
        · cases hwalk
        · rename_i hshort
          simp only [if_neg hsearch, if_neg hshort]
          exact ih hwalk
    · cases hwalk
    · cases hwalk

theorem locate_of_folders (h : KeepsFolders s t) (hlocate : s.locate p = .ok l) :
    t.locate p = .ok l := by
  unfold locate at hlocate ⊢
  split at hlocate
  · cases hlocate
  · rename_i hshort
    rw [if_neg hshort]
    exact walk_of_folders h hlocate

theorem read_eq_ok_iff {bytes : List UInt8} :
    s.read p = .ok bytes ↔
      ∃ access, s.find p = .ok (.file bytes access) ∧ access.read = true := by
  unfold read
  split
  · rename_i b access hfind
    rw [hfind]
    constructor
    · intro h
      split at h
      · rename_i hread
        cases h
        exact ⟨access, rfl, hread⟩
      · cases h
    · rintro ⟨a, ha, hread⟩
      cases ha
      exact if_pos hread
  · rename_i access hfind
    simp [hfind]
  · rename_i f hfind
    simp [hfind]

/-! ## Making folders -/

theorem makeFolder_grows (h : s.makeFolder p = .ok t) : Grows s t := by
  unfold makeFolder at h
  split at h
  · cases h
  · split at h
    · cases h
    · rename_i hnone
      split at h
      · cases h
        exact grows_put_folder hnone
      · cases h

theorem ensureFolder_grows (h : s.ensureFolder p = .ok t) : Grows s t := by
  unfold ensureFolder at h
  split at h
  · rename_i hmake
    cases h
    exact makeFolder_grows hmake
  · split at h
    · cases h
      exact Grows.refl s
    · cases h

/-- Making folders touches no file, also where it stops half-way. -/
theorem makeFolders_grows (slashes : Nat) (s : Store) (parts : List Text) :
    Grows s (makeFolders slashes s parts).1 := by
  induction parts with
  | nil => exact Grows.refl s
  | cons part above ih =>
    rw [makeFolders]
    split
    · rename_i hmake
      exact makeFolder_grows hmake
    · split
      · rename_i habove
        rw [habove] at ih
        exact ih
      · rename_i t habove
        rw [habove] at ih
        split
        · rename_i hensure
          exact ih.trans (ensureFolder_grows hensure)
        · exact ih
    · split
      · exact Grows.refl s
      · exact Grows.refl s

/-! ## Writing a file -/

/-- What writing a file does: the path now leads to a file of these bytes and every other file is as
before. -/
def Written (p : FilePath) (bytes : List UInt8) (s t : Store) : Prop :=
  ∃ l, t.locate p = .ok l ∧ t.file? l = some bytes ∧ ∀ k, k ≠ l → t.file? k = s.file? k

/-- What was written is found at the path. -/
theorem Written.find {bytes : List UInt8} (h : Written p bytes s t) :
    ∃ access, t.find p = .ok (.file bytes access) := by
  obtain ⟨l, hl, hfile, -⟩ := h
  obtain ⟨access, hnode⟩ := file?_eq_some_iff.1 hfile
  exact ⟨access, by simp [Store.find, hl, hnode]⟩

theorem Written.of_sameFiles {bytes : List UInt8} (h : SameFiles s t) (h' : Written p bytes t u) :
    Written p bytes s u := by
  obtain ⟨l, hl, hfile, hrest⟩ := h'
  exact ⟨l, hl, hfile, fun k hk => (hrest k hk).trans (h k)⟩

/-- A file put where no folder is has been written at the path that leads there. -/
theorem written_put {bytes : List UInt8} (access : Access) (hlocate : s.locate p = .ok l)
    (hfolder : ∀ access, s.node? l ≠ some (.folder access)) :
    Written p bytes s (s.put l (.file bytes access)) := by
  have hnode := node?_put (isUpwards_eq_false hfolder) (.file bytes access) s
  refine ⟨l, locate_of_folders (fun k a hk => ?_) hlocate, ?_, fun k hk => ?_⟩
  · rw [hnode, if_neg (by rintro rfl; exact hfolder a hk)]
    exact hk
  · exact file?_eq_some_iff.2 ⟨access, by rw [hnode, if_pos rfl]⟩
  · unfold file?
    rw [hnode, if_neg hk]

theorem written_of_write {bytes : List UInt8} (h : s.write p bytes = .ok t) :
    Written p bytes s t := by
  unfold write at h
  split at h
  · cases h
  · rename_i l hlocate
    split at h
    · cases h
    · rename_i old access hfile
      split at h
      · cases h
        exact written_put access hlocate (by rw [hfile]; simp)
      · cases h
    · rename_i hnone
      split at h
      · cases h
        exact written_put .full hlocate (by rw [hnone]; simp)
      · cases h

end Store

end ManifestEdit
