import ProxyZ.Go.Program

/-!
# Ghost state

A statement about a call can need more than the state keeps: which of two equal values came first, say. Such things
are noted in a ghost state beside the state, by a second version of the method that does everything the method does
and reads the ghost state only to update it. That it does (`Erases`) follows construct by construct, so every call
of the method has one of the second version beside it (`Erases.of_ok`).
-/

namespace Go.Method

variable {σ γ α β ι : Type}

/-- A method that leaves the ghost state alone. -/
def onState (m : Method σ α) : Method (σ × γ) α := fun s => (m s.1).map fun p => (p.1, p.2, s.2)

/-- An update of the ghost state. -/
def ghost (f : σ × γ → γ) : Method (σ × γ) PUnit := modify fun s => (s.1, f s)

/-- `m'` does what `m` does. -/
def Erases (m' : Method (σ × γ) α) (m : Method σ α) : Prop := ∀ s, (m' s).map (fun p => (p.1, p.2.1)) = m s.1

section Erasure

theorem Erases.onState (m : Method σ α) : Erases (onState m : Method (σ × γ) α) m := by
  intro s
  unfold Method.onState
  cases m s.1 <;> rfl

theorem Erases.pure (a : α) : Erases (Pure.pure a : Method (σ × γ) α) (Pure.pure a) := fun _ => rfl

theorem Erases.throw (e : Stop) : Erases (throw e : Method (σ × γ) α) (throw e) := fun _ => rfl

theorem Erases.bind {m' : Method (σ × γ) α} {m : Method σ α} {f' : α → Method (σ × γ) β} {f : α → Method σ β}
    (h : Erases m' m) (hf : ∀ a, Erases (f' a) (f a)) : Erases (m' >>= f') (m >>= f) := by
  intro s
  have hs := h s
  show (m' s >>= fun p => f' p.1 p.2).map _ = (m s.1 >>= fun p => f p.1 p.2)
  rw [← hs]
  rcases m' s with e | ⟨a, s'⟩
  · rfl
  · exact hf a s'

/-- Reading the state. -/
theorem Erases.get {f' : σ × γ → Method (σ × γ) α} {f : σ → Method σ α} (h : ∀ s, Erases (f' s) (f s.1)) :
    Erases (MonadState.get >>= f') (MonadState.get >>= f) := fun s => h s s

/-- Reading the state for the ghost state only. -/
theorem Erases.ghost_get {f' : σ × γ → Method (σ × γ) α} {m : Method σ α} (h : ∀ s, Erases (f' s) m) :
    Erases (MonadState.get >>= f') m := fun s => h s s

theorem Erases.modify {f' : σ × γ → σ × γ} {f : σ → σ} (h : ∀ s, (f' s).1 = f s.1) :
    Erases (modify f' : Method (σ × γ) PUnit) (modify f) := fun s => congrArg (fun c => Except.ok (PUnit.unit, c)) (h s)

theorem Erases.ghost_bind {f : σ × γ → γ} {m' : Method (σ × γ) α} {m : Method σ α} (h : Erases m' m) :
    Erases (ghost f >>= fun _ => m') m := fun s => h (s.1, f s)

theorem Erases.bind_ghost {f : σ × γ → γ} {m' : Method (σ × γ) PUnit} {m : Method σ PUnit} (h : Erases m' m) :
    Erases (m' >>= fun _ => ghost f) m := by
  intro s
  have hs := h s
  show (m' s >>= fun p => ghost f p.2).map _ = _
  rw [← hs]
  rcases m' s with e | ⟨a, s'⟩ <;> rfl

theorem Erases.ite {c : Prop} [Decidable c] {m' n' : Method (σ × γ) α} {m n : Method σ α}
    (hm : c → Erases m' m) (hn : ¬c → Erases n' n) : Erases (if c then m' else n') (if c then m else n) := by
  by_cases h : c
  · rw [if_pos h, if_pos h]
    exact hm h
  · rw [if_neg h, if_neg h]
    exact hn h

theorem Erases.forM {f' : ι → Method (σ × γ) PUnit} {f : ι → Method σ PUnit} (h : ∀ i, Erases (f' i) (f i))
    (l : List ι) : Erases (l.forM f') (l.forM f) := by
  induction l with
  | nil => exact Erases.pure _
  | cons i l ih => exact Erases.bind (h i) fun _ => ih

theorem Erases.discard {m' : Method (σ × γ) α} {m : Method σ α} (h : Erases m' m) :
    Erases (Functor.discard m' : Method (σ × γ) PUnit) (Functor.discard m : Method σ PUnit) := by
  have hbind : ∀ {τ : Type} (n : Method τ α), (Functor.discard n : Method τ PUnit) = n >>= fun _ => Pure.pure ⟨⟩ :=
    fun n => by rw [Functor.discard, map_const, Function.comp_apply, map_eq_pure_bind]
  rw [hbind, hbind]
  exact h.bind fun _ => Erases.pure _

/-- Every call of the method has one beside it that notes the ghost state. -/
theorem Erases.of_ok {m' : Method (σ × γ) α} {m : Method σ α} (h : Erases m' m) {c c' : σ} {a : α}
    (hcall : m c = .ok (a, c')) (g : γ) : ∃ g', m' (c, g) = .ok (a, c', g') := by
  have hs := h (c, g)
  rw [hcall] at hs
  rcases hm' : m' (c, g) with e | ⟨a', c'', g'⟩
  · rw [hm'] at hs
    cases hs
  · rw [hm'] at hs
    cases hs
    exact ⟨g', rfl⟩

end Erasure

section Contracts

variable {wait : Prop} {P : σ × γ → Prop}

theorem Triple.onState {m : Method σ α} {Q : α → σ × γ → Prop}
    (h : ∀ s, P s → Triple wait (fun c => c = s.1) m fun a c => Q a (c, s.2)) : Triple wait P (onState m) Q := by
  intro s hs
  have hms := h s hs s.1 rfl
  unfold Method.onState
  rcases hcall : m s.1 with stop | ⟨a, c⟩
  · rw [hcall] at hms
    cases stop <;> exact hms
  · rw [hcall] at hms
    exact hms

theorem Triple.ghost {f : σ × γ → γ} {Q : PUnit → σ × γ → Prop} (h : ∀ s, P s → Q () (s.1, f s)) :
    Triple wait P (ghost f) Q := Triple.modify h

theorem Triple.ghost_bind {f : σ × γ → γ} {m : PUnit → Method (σ × γ) α} {Q : α → σ × γ → Prop} {s : σ × γ}
    (h : Triple wait (fun t => t = (s.1, f s)) (m ⟨⟩) Q) : Triple wait (fun t => t = s) (Method.ghost f >>= m) Q :=
  Triple.modify_bind h

/-- Behind an update of the state alone. -/
theorem Triple.onState_modify_bind {f : σ → σ} {m : PUnit → Method (σ × γ) α} {Q : α → σ × γ → Prop} {s : σ × γ}
    (h : Triple wait (fun t => t = (f s.1, s.2)) (m ⟨⟩) Q) :
    Triple wait (fun t => t = s) (Method.onState (modifyThe σ f) >>= m) Q :=
  Triple.modify_bind (f := fun t : σ × γ => (f t.1, t.2)) h

end Contracts

end Go.Method
