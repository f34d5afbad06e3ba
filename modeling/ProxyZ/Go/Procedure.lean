import Mathlib.Tactic.Common

/-!
# Procedures

A procedure is a method whose effects stay where it panics: a handler of a request is stopped by a panic, and
the program goes on with the state it has left.

`Contract P m Q E` is the contract of a procedure: from a state with `P` it returns with `Q`, or panics in a
state with `E`. `Keeps P m` says that `P` survives the procedure either way.
-/

namespace Go

/-- A procedure on a state `σ`. -/
abbrev Procedure (σ α : Type) := OptionT (StateM σ) α

namespace Procedure

variable {σ α β ι : Type}

/-- What the procedure returns, `none` where it panics, and the state it leaves. -/
def exec (m : Procedure σ α) (s : σ) : Option α × σ := Id.run (StateT.run (OptionT.run m) s)

def panic : Procedure σ α := OptionT.fail

theorem exec_bind (m : Procedure σ α) (f : α → Procedure σ β) (s : σ) :
    exec (m >>= f) s = match exec m s with
      | (some a, s') => exec (f a) s'
      | (none, s') => (none, s') := by
  show Id.run (StateT.run (OptionT.run (m >>= f)) s) = _
  rcases h : exec m s with ⟨_ | a, s'⟩
  all_goals
    simp only [exec] at h
    simp only [OptionT.run_bind, Option.elimM, StateT.run_bind, Id.run_bind]
    rw [h]
    rfl

def Contract (P : σ → Prop) (m : Procedure σ α) (Q : α → σ → Prop) (E : σ → Prop) : Prop :=
  ∀ s, P s → match exec m s with
    | (some a, s') => Q a s'
    | (none, s') => E s'

section Rules

variable {P P' E : σ → Prop} {Q Q' : α → σ → Prop} {R : β → σ → Prop} {m : Procedure σ α}

theorem Contract.pure {a : α} (h : ∀ s, P s → Q a s) : Contract P (Pure.pure a : Procedure σ α) Q E := h

theorem Contract.panic (h : ∀ s, P s → E s) : Contract P (panic : Procedure σ α) Q E := h

theorem Contract.modify {f : σ → σ} {R : PUnit → σ → Prop} (h : ∀ s, P s → R ⟨⟩ (f s)) :
    Contract P (modifyThe σ f : Procedure σ PUnit) R E := h

theorem Contract.bind {f : α → Procedure σ β} (hm : Contract P m Q E) (hf : ∀ a, Contract (Q a) (f a) R E) :
    Contract P (m >>= f) R E := by
  intro s hs
  have hms := hm s hs
  rw [exec_bind]
  rcases hcall : exec m s with ⟨_ | a, s'⟩
  · rw [hcall] at hms
    exact hms
  · rw [hcall] at hms
    exact hf a s' hms

theorem Contract.conseq (h : Contract P' m Q' E) (hpre : ∀ s, P s → P' s) (hpost : ∀ a s, Q' a s → Q a s) :
    Contract P m Q E := by
  intro s hs
  have hms := h s (hpre s hs)
  rcases hcall : exec m s with ⟨_ | a, s'⟩
  · rw [hcall] at hms
    exact hms
  · rw [hcall] at hms
    exact hpost a s' hms

theorem Contract.post (h : Contract P m Q' E) (hpost : ∀ a s, Q' a s → Q a s) : Contract P m Q E :=
  h.conseq (fun _ hs => hs) hpost

/-- What holds where a procedure panics can be weakened. -/
theorem Contract.mono {E' : σ → Prop} (h : Contract P m Q E) (hE : ∀ s, E s → E' s) : Contract P m Q E' := by
  intro s hs
  have hms := h s hs
  rcases hcall : exec m s with ⟨_ | a, s'⟩
  · rw [hcall] at hms
    exact hE s' hms
  · rw [hcall] at hms
    exact hms

theorem Contract.ite {c : Prop} [Decidable c] {n : Procedure σ α} (hm : c → Contract P m Q E)
    (hn : ¬c → Contract P n Q E) : Contract P (if c then m else n) Q E := by
  by_cases h : c
  · rw [if_pos h]
    exact hm h
  · rw [if_neg h]
    exact hn h

/-- Reading the state names it for the rest of the procedure. -/
theorem Contract.get {f : σ → Procedure σ β} (h : ∀ c, P c → Contract (fun s => s = c) (f c) R E) :
    Contract P (MonadState.get >>= f) R E := by
  intro s hs
  exact h s hs s rfl

end Rules

/-! ### What survives a procedure -/

def Keeps (P : σ → Prop) (m : Procedure σ α) : Prop := Contract P m (fun _ => P) P

section Keeps

variable {P : σ → Prop} {m : Procedure σ α}

theorem Keeps.pure (a : α) : Keeps P (Pure.pure a : Procedure σ α) := Contract.pure fun _ hs => hs

theorem Keeps.panic : Keeps P (Procedure.panic : Procedure σ α) := Contract.panic fun _ hs => hs

theorem Keeps.modify {f : σ → σ} (h : ∀ s, P s → P (f s)) : Keeps P (modifyThe σ f : Procedure σ PUnit) :=
  Contract.modify h

theorem Keeps.bind {f : α → Procedure σ β} (hm : Keeps P m) (hf : ∀ a, Keeps P (f a)) : Keeps P (m >>= f) :=
  Contract.bind hm hf

theorem Keeps.get {f : σ → Procedure σ α} (h : ∀ c, P c → Keeps P (f c)) : Keeps P (MonadState.get >>= f) :=
  Contract.get fun c hc => (h c hc).conseq (fun _ hs => hs ▸ hc) fun _ _ hs => hs

/-- What survives a procedure holds behind a call of it. -/
theorem Keeps.exec (h : Keeps P m) {s : σ} (hs : P s) : P (m.exec s).2 := by
  have hms := h s hs
  rcases hcall : Procedure.exec m s with ⟨_ | a, s'⟩
  all_goals
    rw [hcall] at hms
    exact hms

theorem Keeps.ite {c : Prop} [Decidable c] {n : Procedure σ α} (hm : Keeps P m) (hn : Keeps P n) :
    Keeps P (if c then m else n) :=
  Contract.ite (fun _ => hm) fun _ => hn

theorem Keeps.discard (hm : Keeps P m) : Keeps P (Functor.discard m : Procedure σ PUnit) := by
  have hbind : (Functor.discard m : Procedure σ PUnit) = m >>= fun _ => Pure.pure PUnit.unit := by
    rw [Functor.discard, map_const, Function.comp_apply, map_eq_pure_bind]
  rw [hbind]
  exact hm.bind fun _ => Keeps.pure _

theorem Keeps.forM {f : ι → Procedure σ PUnit} (h : ∀ i, Keeps P (f i)) (l : List ι) : Keeps P (l.forM f) := by
  induction l with
  | nil => exact Keeps.pure _
  | cons i l ih => exact (h i).bind fun _ => ih

theorem Keeps.mapM {f : ι → Procedure σ α} (h : ∀ i, Keeps P (f i)) (l : List ι) : Keeps P (l.mapM f) := by
  induction l with
  | nil => exact Keeps.pure _
  | cons i l ih =>
    rw [List.mapM_cons]
    apply (h i).bind
    intro _
    exact ih.bind fun _ => Keeps.pure _

end Keeps

/-! ### What does not panic -/

/-- The procedure returns from every state. -/
def Returns (m : Procedure σ α) : Prop := ∀ s, ∃ a s', m.exec s = (some a, s')

section Returns

variable {m n : Procedure σ α}

theorem Returns.pure (a : α) : Returns (Pure.pure a : Procedure σ α) := fun s => ⟨a, s, rfl⟩

theorem Returns.modify (f : σ → σ) : Returns (modifyThe σ f : Procedure σ PUnit) := fun s => ⟨⟨⟩, f s, rfl⟩

theorem Returns.bind {f : α → Procedure σ β} (hm : Returns m) (hf : ∀ a, Returns (f a)) : Returns (m >>= f) := by
  intro s
  obtain ⟨a, s', hexec⟩ := hm s
  rw [exec_bind, hexec]
  exact hf a s'

theorem Returns.get {f : σ → Procedure σ β} (hf : ∀ c, Returns (f c)) : Returns (MonadState.get >>= f) :=
  fun s => hf s s

theorem Returns.ite {c : Prop} [Decidable c] (hm : Returns m) (hn : Returns n) : Returns (if c then m else n) := by
  split
  · exact hm
  · exact hn

end Returns

end Procedure

end Go
