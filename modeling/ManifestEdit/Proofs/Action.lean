import ManifestEdit.World

/-!
# What an action does

`x.Ends w r v`: run in the world `w`, the action `x` ends with `r` and leaves the world `v`. The
lemmas here give the ends of the basic actions and of a sequence. An action is quiet when it leaves
the stored files as they are, whatever it ends with, and certain when it cannot fail.
-/

namespace ManifestEdit

namespace Action

variable {α β : Type}

/-- The action ends with a result and leaves a world. -/
def Ends (x : Action α) (w : World) (r : Except Fault α) (v : World) : Prop :=
  x.run.run w = (r, v)

theorem exists_ends (x : Action α) (w : World) : ∃ r v, x.Ends w r v :=
  ⟨_, _, rfl⟩

/-- An action ends in one way. -/
theorem Ends.unique {x : Action α} {w v v' : World} {r r' : Except Fault α} (h : x.Ends w r v)
    (h' : x.Ends w r' v') : r = r' ∧ v = v' :=
  Prod.mk.inj (h.symm.trans h')

@[simp]
theorem ends_pure {a : α} {w v : World} {r : Except Fault α} :
    (pure a : Action α).Ends w r v ↔ r = .ok a ∧ v = w := by
  constructor
  · intro h
    exact ⟨(Prod.mk.inj h).1.symm, (Prod.mk.inj h).2.symm⟩
  · rintro ⟨rfl, rfl⟩
    rfl

@[simp]
theorem ends_fail {f : Fault} {w v : World} {r : Except Fault α} :
    (fail f : Action α).Ends w r v ↔ r = .error f ∧ v = w := by
  constructor
  · intro h
    exact ⟨(Prod.mk.inj h).1.symm, (Prod.mk.inj h).2.symm⟩
  · rintro ⟨rfl, rfl⟩
    rfl

@[simp]
theorem ends_get {w v : World} {r : Except Fault World} :
    (get : Action World).Ends w r v ↔ r = .ok w ∧ v = w := by
  constructor
  · intro h
    exact ⟨(Prod.mk.inj h).1.symm, (Prod.mk.inj h).2.symm⟩
  · rintro ⟨rfl, rfl⟩
    rfl

@[simp]
theorem ends_set {u w v : World} {r : Except Fault PUnit} :
    (set u : Action PUnit).Ends w r v ↔ r = .ok ⟨⟩ ∧ v = u := by
  constructor
  · intro h
    exact ⟨(Prod.mk.inj h).1.symm, (Prod.mk.inj h).2.symm⟩
  · rintro ⟨rfl, rfl⟩
    rfl

@[simp]
theorem ends_modify {g : World → World} {w v : World} {r : Except Fault PUnit} :
    (modify g : Action PUnit).Ends w r v ↔ r = .ok ⟨⟩ ∧ v = g w := by
  constructor
  · intro h
    exact ⟨(Prod.mk.inj h).1.symm, (Prod.mk.inj h).2.symm⟩
  · rintro ⟨rfl, rfl⟩
    rfl

/-- A sequence ends as its second part does, or as its first part where that fails. -/
theorem ends_bind {x : Action α} {f : α → Action β} {w v : World} {r : Except Fault β} :
    (x >>= f).Ends w r v ↔
      (∃ a u, x.Ends w (.ok a) u ∧ (f a).Ends u r v) ∨
        ∃ e, x.Ends w (.error e) v ∧ r = .error e := by
  obtain ⟨q, u, hx⟩ := exists_ends x w
  have hrun : (x >>= f).run.run w =
      match q with
      | .ok a => (f a).run.run u
      | .error e => (.error e, u) := by
    have hx : x.run.run w = (q, u) := hx
    show (ExceptT.bind x f).run.run w = _
    simp only [ExceptT.bind, ExceptT.mk, ExceptT.run, StateT.run, bind, StateT.bind] at hx ⊢
    rw [hx]
    cases q <;> rfl
  cases q with
  | ok a =>
    constructor
    · intro h
      exact .inl ⟨a, u, hx, hrun.symm.trans h⟩
    · rintro (⟨b, u', hb, h⟩ | ⟨e, he, -⟩)
      · obtain ⟨hab, rfl⟩ := hx.unique hb
        cases hab
        exact hrun.trans h
      · cases (hx.unique he).1
  | error e =>
    constructor
    · intro h
      obtain ⟨rfl, rfl⟩ := Prod.mk.inj (hrun.symm.trans h)
      exact .inr ⟨e, hx, rfl⟩
    · rintro (⟨b, u', hb, -⟩ | ⟨e', he, rfl⟩)
      · cases (hx.unique hb).1
      · obtain ⟨hee, rfl⟩ := hx.unique he
        cases hee
        exact hrun

theorem ends_bind_ok {x : Action α} {f : α → Action β} {w v : World} {b : β} :
    (x >>= f).Ends w (.ok b) v ↔ ∃ a u, x.Ends w (.ok a) u ∧ (f a).Ends u (.ok b) v := by
  simp [ends_bind]

theorem ends_bind_error {x : Action α} {f : α → Action β} {w v : World} {e : Fault} :
    (x >>= f).Ends w (.error e) v ↔
      (∃ a u, x.Ends w (.ok a) u ∧ (f a).Ends u (.error e) v) ∨ x.Ends w (.error e) v := by
  simp [ends_bind]

/-- What follows a look at the world knows that world. -/
theorem ends_get_bind {f : World → Action β} {w v : World} {r : Except Fault β} :
    ((get : Action World) >>= f).Ends w r v ↔ (f w).Ends w r v :=
  Iff.rfl

theorem ends_ofExcept_ok {ε : Type} {fault : ε → Fault} {y : Except ε α} {w v : World} {a : α} :
    (ofExcept fault y).Ends w (.ok a) v ↔ y = .ok a ∧ v = w := by
  cases y with
  | ok b => simp [ofExcept, eq_comm]
  | error e => simp [ofExcept]

theorem ends_ofExcept_error {ε : Type} {fault : ε → Fault} {y : Except ε α} {w v : World}
    {f : Fault} :
    (ofExcept fault y).Ends w (.error f) v ↔ (∃ e, y = .error e ∧ f = fault e) ∧ v = w := by
  cases y with
  | ok b => simp [ofExcept]
  | error e => simp [ofExcept]

/-! ## Actions that leave the files alone -/

def Quiet (x : Action α) : Prop :=
  ∀ ⦃w r v⦄, x.Ends w r v → v.store = w.store

/-- The action cannot fail. -/
def Certain (x : Action α) : Prop :=
  ∀ w, ∃ a v, x.Ends w (.ok a) v

theorem Certain.not_error {x : Action α} (hx : x.Certain) {w v : World} {e : Fault} :
    ¬ x.Ends w (.error e) v := by
  intro h
  obtain ⟨a, u, ha⟩ := hx w
  cases (ha.unique h).1

theorem quiet_pure {a : α} : (pure a : Action α).Quiet := by
  intro w r v h
  rw [(ends_pure.1 h).2]

theorem quiet_fail {f : Fault} : (fail f : Action α).Quiet := by
  intro w r v h
  rw [(ends_fail.1 h).2]

theorem quiet_get : (get : Action World).Quiet := by
  intro w r v h
  rw [(ends_get.1 h).2]

theorem quiet_modify {g : World → World} (hg : ∀ w, (g w).store = w.store) :
    (modify g : Action PUnit).Quiet := by
  intro w r v h
  rw [(ends_modify.1 h).2, hg]

theorem quiet_ofExcept {ε : Type} {fault : ε → Fault} {y : Except ε α} :
    (ofExcept fault y).Quiet := by
  cases y with
  | ok a => exact quiet_pure
  | error e => exact quiet_fail

theorem Quiet.bind {x : Action α} {f : α → Action β} (hx : x.Quiet) (hf : ∀ a, (f a).Quiet) :
    (x >>= f).Quiet := by
  intro w r v h
  obtain ⟨a, u, ha, hb⟩ | ⟨e, he, -⟩ := ends_bind.1 h
  · exact (hf a hb).trans (hx ha)
  · exact hx he

theorem quiet_forM {xs : List β} {f : β → Action PUnit} (hf : ∀ b ∈ xs, (f b).Quiet) :
    (xs.forM f).Quiet := by
  induction xs with
  | nil => exact quiet_pure
  | cons b xs ih =>
    exact (hf b List.mem_cons_self).bind fun _ => ih fun c hc => hf c (List.mem_cons_of_mem b hc)

/-- A loop fails when one of its turns does, after those before it. -/
theorem ends_forM_error {xs : List β} {f : β → Action PUnit} {w v : World} {e : Fault}
    (h : (xs.forM f).Ends w (.error e) v) :
    ∃ before x after u, xs = before ++ x :: after ∧ (before.forM f).Ends w (.ok ⟨⟩) u ∧
      (f x).Ends u (.error e) v := by
  induction xs generalizing w with
  | nil => cases (ends_pure.1 h).1
  | cons b rest ih =>
    obtain ⟨⟨⟩, w₁, hb, hrest⟩ | hb := ends_bind_error.1 h
    · obtain ⟨before, x, after, u, rfl, hbefore, hx⟩ := ih hrest
      exact ⟨b :: before, x, after, u, rfl, ends_bind_ok.2 ⟨⟨⟩, w₁, hb, hbefore⟩, hx⟩
    · exact ⟨[], b, rest, w, rfl, ends_pure.2 ⟨rfl, rfl⟩, hb⟩

theorem quiet_put {e : Event} : (put e).Quiet :=
  quiet_modify fun _ => rfl

theorem quiet_print [Glyphs] {e : Event} : (print e).Quiet := by
  unfold print
  split
  · exact quiet_fail
  · exact quiet_put

theorem quiet_printLine [Glyphs] {text : Text} : (printLine text).Quiet := by
  unfold printLine
  split
  · exact quiet_fail
  · exact quiet_put

theorem quiet_log {level : LogLevel} {logger : String} {message : Text} :
    (log level logger message).Quiet := by
  refine quiet_modify fun w => ?_
  split <;> rfl

theorem certain_pure {a : α} : (pure a : Action α).Certain :=
  fun w => ⟨a, w, rfl⟩

theorem certain_get : (get : Action World).Certain :=
  fun w => ⟨w, w, rfl⟩

theorem certain_modify {g : World → World} : (modify g : Action PUnit).Certain :=
  fun w => ⟨⟨⟩, g w, rfl⟩

theorem certain_log {level : LogLevel} {logger : String} {message : Text} :
    (log level logger message).Certain :=
  certain_modify

theorem certain_put {e : Event} : (put e).Certain :=
  certain_modify

/-- What the console prints all of is printed. -/
theorem certain_print [Glyphs] {e : Event} (h : e.refused? = none) : (print e).Certain := by
  rw [print, h]
  exact certain_put

theorem certain_printLine [Glyphs] {text : Text} (h : Console.refused? text = none) :
    (printLine text).Certain := by
  rw [printLine, h]
  exact certain_put

theorem ends_printLine_error [Glyphs] {text : Text} {w v : World} {f : Fault} :
    (printLine text).Ends w (.error f) v ↔
      (∃ fault, Console.refused? text = some fault ∧ f = .console fault) ∧ v = w := by
  unfold printLine
  cases h : Console.refused? text with
  | none => simp [put]
  | some fault => simp

/-- A line that was printed was printed all of. -/
theorem refused?_of_printLine [Glyphs] {text : Text} {w v : World}
    (h : (printLine text).Ends w (.ok ()) v) : Console.refused? text = none := by
  cases hrefused : Console.refused? text with
  | none => rfl
  | some fault =>
    rw [printLine, hrefused] at h
    cases (ends_fail.1 h).1

theorem Certain.bind {x : Action α} {f : α → Action β} (hx : x.Certain)
    (hf : ∀ a, (f a).Certain) : (x >>= f).Certain := by
  intro w
  obtain ⟨a, u, ha⟩ := hx w
  obtain ⟨b, v, hb⟩ := hf a u
  exact ⟨b, v, ends_bind_ok.2 ⟨a, u, ha, hb⟩⟩

theorem certain_forM {xs : List β} {f : β → Action PUnit} (hf : ∀ b ∈ xs, (f b).Certain) :
    (xs.forM f).Certain := by
  induction xs with
  | nil => exact certain_pure
  | cons b xs ih =>
    exact (hf b List.mem_cons_self).bind fun _ => ih fun c hc => hf c (List.mem_cons_of_mem b hc)

/-- A quiet part that comes first changes nothing of what the rest does to the files. -/
theorem Quiet.ends_bind {x : Action α} {f : α → Action β} (hx : x.Quiet) {w v : World}
    {r : Except Fault β} (h : (x >>= f).Ends w r v) :
    (∃ a u, x.Ends w (.ok a) u ∧ u.store = w.store ∧ (f a).Ends u r v) ∨
      ∃ e, r = .error e ∧ x.Ends w (.error e) v ∧ v.store = w.store := by
  obtain ⟨a, u, ha, hb⟩ | ⟨e, he, hr⟩ := Action.ends_bind.1 h
  · exact .inl ⟨a, u, ha, hx ha, hb⟩
  · exact .inr ⟨e, hr, he, hx he⟩

end Action

end ManifestEdit
