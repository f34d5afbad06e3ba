import Mathlib.Logic.Relation
import Mathlib.Tactic.Common

/-!
# Methods on a state

A method reads and writes a state and returns a value, or it stops: with a run-time panic, or because it
waits for something that never comes. A loop without a bound runs on fuel and waits once that is used up.

`Triple wait P m Q` is the contract of a method: from a state with `P` it returns with `Q` or panics, and
it may wait only if `wait` holds. With `wait := True` this is partial correctness, with `wait := False`
it says in addition that the method ends. Both are proved by the same rules: there is one for each
construct a method is written with, and one for loops over a list and for loops on fuel.
-/

namespace Go

/-- Why a call does not return. -/
inductive Stop
  | panic
  | waiting
  deriving DecidableEq, Repr

/-- A method on a state `σ`. -/
abbrev Method (σ α : Type) := StateT σ (Except Stop) α

namespace Method

variable {σ α β ι : Type}

/-! ### Evaluation -/

theorem get_bind_apply (f : σ → Method σ α) (s : σ) : (MonadState.get >>= f) s = f s s := rfl

theorem modify_bind_apply (f : σ → σ) (g : PUnit → Method σ α) (s : σ) :
    ((modify f : Method σ PUnit) >>= g) s = g ⟨⟩ (f s) := rfl

theorem bind_apply_ok {m : Method σ α} (f : α → Method σ β) {s s' : σ} {a : α} (h : m s = .ok (a, s')) :
    (m >>= f) s = f a s' := by
  show (m s >>= fun p => f p.1 p.2) = _
  rw [h]
  rfl

/-- A sequence that returns is made of two calls that return. -/
theorem bind_eq_ok {m : Method σ α} {f : α → Method σ β} {s s' : σ} {b : β} (h : (m >>= f) s = .ok (b, s')) :
    ∃ a t, m s = .ok (a, t) ∧ f a t = .ok (b, s') := by
  rcases hm : m s with stop | ⟨a, t⟩
  · have hstop : (m >>= f) s = .error stop := by
      show (m s >>= fun p => f p.1 p.2) = _
      rw [hm]
      rfl
    cases hstop.symm.trans h
  · rw [bind_apply_ok f hm] at h
    exact ⟨a, t, rfl, h⟩

/-! ### Contracts -/

/-- The call ends, by returning or by a panic. -/
def Ends (m : Method σ α) (s : σ) : Prop := m s ≠ .error .waiting

/-- The contract of a method. -/
def Triple (wait : Prop) (P : σ → Prop) (m : Method σ α) (Q : α → σ → Prop) : Prop :=
  ∀ s, P s → match m s with
    | .ok (a, s') => Q a s'
    | .error .panic => True
    | .error .waiting => wait

section Rules

variable {wait : Prop} {P P' : σ → Prop} {Q Q' : α → σ → Prop} {R : β → σ → Prop}

theorem Triple.returns {m : Method σ α} (h : Triple wait P m Q) {s s' : σ} {a : α} (hs : P s)
    (hm : m s = .ok (a, s')) : Q a s' := by
  have := h s hs
  rw [hm] at this
  exact this

theorem Triple.ends {m : Method σ α} (h : Triple False P m Q) {s : σ} (hs : P s) : Ends m s := by
  intro hm
  have := h s hs
  rw [hm] at this
  exact this

theorem Triple.pure {a : α} (h : ∀ s, P s → Q a s) : Triple wait P (Pure.pure a : Method σ α) Q := by
  intro s hs
  exact h s hs

theorem Triple.bind {m : Method σ α} {f : α → Method σ β} (hm : Triple wait P m Q)
    (hf : ∀ a, Triple wait (Q a) (f a) R) : Triple wait P (m >>= f) R := by
  intro s hs
  have hms := hm s hs
  show match (m s >>= fun p => f p.1 p.2) with
    | .ok (a, s') => R a s'
    | .error .panic => True
    | .error .waiting => wait
  rcases hcall : m s with stop | ⟨a, s'⟩
  · rw [hcall] at hms
    cases stop <;> exact hms
  · rw [hcall] at hms
    exact hf a s' hms

theorem Triple.conseq {m : Method σ α} (h : Triple wait P' m Q') (hpre : ∀ s, P s → P' s)
    (hpost : ∀ a s, Q' a s → Q a s) : Triple wait P m Q := by
  intro s hs
  have hms := h s (hpre s hs)
  rcases hcall : m s with stop | ⟨a, s'⟩
  · rw [hcall] at hms
    cases stop <;> exact hms
  · rw [hcall] at hms
    exact hpost a s' hms

theorem Triple.pre {m : Method σ α} (h : Triple wait P' m Q) (hpre : ∀ s, P s → P' s) : Triple wait P m Q :=
  h.conseq hpre fun _ _ hq => hq

theorem Triple.post {m : Method σ α} (h : Triple wait P m Q') (hpost : ∀ a s, Q' a s → Q a s) :
    Triple wait P m Q :=
  h.conseq (fun _ hp => hp) hpost

theorem Triple.and {m : Method σ α} (h : Triple wait P m Q) (h' : Triple wait P m Q') :
    Triple wait P m fun a s => Q a s ∧ Q' a s := by
  intro s hs
  have hms := h s hs
  have hms' := h' s hs
  rcases hcall : m s with stop | ⟨a, s'⟩
  · rw [hcall] at hms
    cases stop <;> exact hms
  · rw [hcall] at hms hms'
    exact ⟨hms, hms'⟩

/-- Where waiting is allowed in fewer cases it is allowed in all the others too. -/
theorem Triple.mono {wait' : Prop} {m : Method σ α} (h : Triple wait P m Q) (hwait : wait → wait') :
    Triple wait' P m Q := by
  intro s hs
  have hms := h s hs
  rcases hcall : m s with stop | ⟨a, s'⟩
  · rw [hcall] at hms
    cases stop with
    | panic => trivial
    | waiting => exact hwait hms
  · rw [hcall] at hms
    exact hms

theorem Triple.of_false {m : Method σ α} (h : ∀ s, ¬P s) : Triple wait P m Q :=
  fun s hs => absurd hs (h s)

theorem Triple.of_state {m : Method σ α} (h : Triple wait P m Q) {c : σ} (hc : P c) :
    Triple wait (fun s => s = c) m Q := by
  intro s hs
  subst hs
  exact h s hc

/-- What a call returns from a given state. -/
theorem Triple.outcome {m : Method σ α} (c : σ) : Triple True (fun s => s = c) m fun a s => m c = .ok (a, s) := by
  intro s hs
  rw [hs]
  rcases m c with stop | ⟨a, s'⟩
  · cases stop <;> trivial
  · rfl

/-- A contract proved for each state with `P` by itself. -/
theorem Triple.for_each {m : Method σ α} (h : ∀ c, P c → Triple wait (fun s => s = c) m Q) : Triple wait P m Q :=
  fun s hs => h s hs s rfl

/-- Reading the state names it for the rest of the method. -/
theorem Triple.get {f : σ → Method σ β} (h : ∀ c, P c → Triple wait (fun s => s = c) (f c) R) :
    Triple wait P (MonadState.get >>= f) R := by
  intro s hs
  exact h s hs s rfl

theorem Triple.modify {f : σ → σ} {R : PUnit → σ → Prop} (h : ∀ s, P s → R () (f s)) :
    Triple wait P (modifyThe σ f : Method σ PUnit) R := by
  intro s hs
  exact h s hs

/-- Behind an update the state is known for the rest of the method. -/
theorem Triple.modify_bind {f : σ → σ} {g : PUnit → Method σ α} {c : σ}
    (h : Triple wait (fun s => s = f c) (g ⟨⟩) Q) :
    Triple wait (fun s => s = c) ((modifyThe σ f : Method σ PUnit) >>= g) Q :=
  Triple.bind (Triple.modify fun s hs => by rw [hs]) fun _ => h

theorem Triple.discard {m : Method σ α} (h : Triple wait P m fun _ => P') :
    Triple wait P (Functor.discard m : Method σ PUnit) fun _ => P' := by
  have hbind : (Functor.discard m : Method σ PUnit) = m >>= fun _ => Pure.pure PUnit.unit := by
    rw [Functor.discard, map_const, Function.comp_apply, map_eq_pure_bind]
  rw [hbind]
  exact Triple.bind h fun _ => Triple.pure fun _ hs => hs

theorem Triple.panic : Triple wait P (throw .panic : Method σ α) Q := by
  intro s _
  exact trivial

theorem Triple.waiting (h : ∀ s, P s → wait) : Triple wait P (throw .waiting : Method σ α) Q := by
  intro s hs
  exact h s hs

theorem Triple.ite {c : Prop} [Decidable c] {m n : Method σ α} (hm : c → Triple wait P m Q)
    (hn : ¬c → Triple wait P n Q) : Triple wait P (if c then m else n) Q := by
  by_cases h : c
  · rw [if_pos h]
    exact hm h
  · rw [if_neg h]
    exact hn h

theorem Triple.forM {f : ι → Method σ PUnit} (h : ∀ i, Triple wait P (f i) fun _ => P) (l : List ι) :
    Triple wait P (l.forM f) fun _ => P := by
  induction l with
  | nil => exact Triple.pure fun _ hs => hs
  | cons i l ih => exact Triple.bind (h i) fun _ => ih

end Rules

end Method

/-! ### Runs -/

section Runs

variable {σ : Type} {step : σ → σ → Prop} {Inv : σ → Prop}

/-- What every step keeps holds in every state of a run. -/
theorem run_invariant (hstep : ∀ s s', Inv s → step s s' → Inv s') {s s' : σ} (h : Inv s)
    (hrun : Relation.ReflTransGen step s s') : Inv s' := by
  induction hrun with
  | refl => exact h
  | tail _ hlast ih => exact hstep _ _ ih hlast

end Runs

end Go
