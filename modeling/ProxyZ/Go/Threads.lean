import Mathlib.Algebra.Order.BigOperators.Group.List
import Mathlib.Algebra.Order.Ring.Nat
import Mathlib.Tactic.Common

/-!
# Calls that run at the same time

A program runs any number of calls on a shared state. Every call has a local state of its own, and takes one
step after the other: a locked region, an operation on a channel, or a read or write without a lock. An
action starts a call or lets one of the calls take its next step; what the program does not decide itself
(the answer of a server, the order of a map) is part of the action.

A run is a list of actions. `AllSteps R` says that every step of the run satisfies `R`. A condition on the
steps is the exact one for a property of the steps if the two agree where an invariant holds, and the condition
keeps the invariant (`allSteps_iff`); and then the invariant holds at the end (`AllSteps.invariant`).
-/

namespace Go

/-! ### Runs -/

section Runs

variable {S A : Type} {step? : S → A → Option S} {R R' : S → A → S → Prop} {I : S → Prop}

/-- The state after a run, `none` where one of its actions cannot be taken. -/
def runAll (step? : S → A → Option S) : List A → S → Option S
  | [], s => some s
  | a :: rest, s => step? s a >>= runAll step? rest

/-- Every step of the run satisfies `R`. The run ends before an action that cannot be taken. -/
def AllSteps (step? : S → A → Option S) (R : S → A → S → Prop) : List A → S → Prop
  | [], _ => True
  | a :: rest, s => ∀ s', step? s a = some s' → R s a s' ∧ AllSteps step? R rest s'

theorem allSteps_iff (hiff : ∀ s a s', I s → step? s a = some s' → (R s a s' ↔ R' s a s'))
    (hkeep : ∀ s a s', I s → step? s a = some s' → R s a s' → I s') {s : S} (hs : I s) (acts : List A) :
    AllSteps step? R acts s ↔ AllSteps step? R' acts s := by
  induction acts generalizing s with
  | nil => exact Iff.rfl
  | cons a rest ih =>
    constructor
    · intro h s' hs'
      obtain ⟨hR, hrest⟩ := h s' hs'
      exact ⟨(hiff s a s' hs hs').mp hR, (ih (hkeep s a s' hs hs' hR)).mp hrest⟩
    · intro h s' hs'
      obtain ⟨hR', hrest⟩ := h s' hs'
      have hR := (hiff s a s' hs hs').mpr hR'
      exact ⟨hR, (ih (hkeep s a s' hs hs' hR)).mpr hrest⟩

theorem AllSteps.cons {s s' : S} {a : A} {rest : List A} (hs : step? s a = some s') (hR : R s a s')
    (hrest : AllSteps step? R rest s') : AllSteps step? R (a :: rest) s := by
  intro s'' hs''
  obtain rfl : s' = s'' := Option.some.inj (hs.symm.trans hs'')
  exact ⟨hR, hrest⟩

/-- The step behind the first part of a run. -/
theorem AllSteps.at {acts rest : List A} {a : A} {s t t' : S} (h : AllSteps step? R (acts ++ a :: rest) s)
    (hrun : runAll step? acts s = some t) (hstep : step? t a = some t') : R t a t' := by
  induction acts generalizing s with
  | nil =>
    cases hrun
    exact (h t' hstep).1
  | cons b acts ih =>
    obtain ⟨s', hs', hrest⟩ := Option.bind_eq_some_iff.mp hrun
    exact ih (h s' hs').2 hrest

/-- In a run whose steps all satisfy `R`, the invariant holds at the end. -/
theorem AllSteps.invariant (hkeep : ∀ s a s', I s → step? s a = some s' → R s a s' → I s') {acts : List A} {s t : S}
    (hs : I s) (h : AllSteps step? R acts s) (hrun : runAll step? acts s = some t) : I t := by
  induction acts generalizing s with
  | nil =>
    cases hrun
    exact hs
  | cons a rest ih =>
    obtain ⟨s', hs', hrest⟩ := Option.bind_eq_some_iff.mp hrun
    obtain ⟨hR, hall⟩ := h s' hs'
    exact ih (hkeep s a s' hs hs' hR) hall hrest

/-- What every step keeps holds at the end of a run. -/
theorem runAll_invariant (hkeep : ∀ s a s', I s → step? s a = some s' → I s') {acts : List A} {s t : S} (hs : I s)
    (hrun : runAll step? acts s = some t) : I t := by
  induction acts generalizing s with
  | nil =>
    cases hrun
    exact hs
  | cons a rest ih =>
    obtain ⟨s', hs', hrest⟩ := Option.bind_eq_some_iff.mp hrun
    exact ih (hkeep s a s' hs hs') hrest

end Runs

/-! ### Threads -/

/-- A program for concurrent calls: how a call starts, and the next step of a call, which may start others. -/
structure Program (σ τ ι ω : Type) where
  start : ι → τ
  next : σ → τ → ω → Option (σ × τ × List τ)

/-- The shared state and the calls started so far. -/
structure Threads (σ τ : Type) where
  shared : σ
  threads : List τ

/-- Start a call, or let the call `k` take its next step. -/
inductive Act (ι ω : Type)
  | call (i : ι)
  | step (k : Nat) (o : ω)

namespace Program

variable {σ τ ι ω : Type} {m : Program σ τ ι ω} {s s' : Threads σ τ}

def step? (m : Program σ τ ι ω) (s : Threads σ τ) : Act ι ω → Option (Threads σ τ)
  | .call i => some { s with threads := s.threads ++ [m.start i] }
  | .step k o => do
      let t ← s.threads[k]?
      let (shared, t', new) ← m.next s.shared t o
      some ⟨shared, s.threads.set k t' ++ new⟩

theorem step?_call {i : ι} : m.step? s (.call i) = some s' ↔ s' = ⟨s.shared, s.threads ++ [m.start i]⟩ := by
  rw [step?, Option.some.injEq, eq_comm]

theorem step?_step {k : Nat} {o : ω} : m.step? s (.step k o) = some s' ↔
    ∃ t shared t' new, s.threads[k]? = some t ∧ m.next s.shared t o = some (shared, t', new) ∧
      s' = ⟨shared, s.threads.set k t' ++ new⟩ := by
  rw [step?]
  constructor
  · intro h
    obtain ⟨t, ht, h⟩ := Option.bind_eq_some_iff.mp h
    obtain ⟨⟨shared, t', new⟩, hnext, h⟩ := Option.bind_eq_some_iff.mp h
    cases h
    exact ⟨t, shared, t', new, ht, hnext, rfl⟩
  · rintro ⟨t, shared, t', new, ht, hnext, rfl⟩
    rw [ht]
    show m.next s.shared t o >>= _ = _
    rw [hnext]
    rfl

end Program

/-! ### What holds of every call -/

section Each

variable {τ : Type} {ts new : List τ} {k : Nat} {t t' : τ} {I I' : τ → Prop}

/-- After a step of the call `k`, what held of the other calls and holds of this one holds of all. -/
theorem each_set (hts : ∀ u ∈ ts, I' u) (ht : I' t') : ∀ u ∈ ts.set k t', I' u := by
  intro u hu
  rcases List.mem_or_eq_of_mem_set hu with hu | rfl
  · exact hts u hu
  · exact ht

theorem each_append (hts : ∀ u ∈ ts, I' u) (hnew : ∀ u ∈ new, I' u) : ∀ u ∈ ts ++ new, I' u := by
  intro u hu
  rcases List.mem_append.mp hu with hu | hu
  · exact hts u hu
  · exact hnew u hu

/-- One of the calls still has a property after the step of the call `k` if this one keeps it. -/
theorem exists_set (hk : ts[k]? = some t) (hu : ∃ u ∈ ts, I u) (ht : I t → I t') : ∃ u ∈ ts.set k t', I u := by
  obtain ⟨u, hmem, hu⟩ := hu
  obtain ⟨j, hj⟩ := List.getElem?_of_mem hmem
  have hlt : k < ts.length := (List.getElem?_eq_some_iff.mp hk).1
  by_cases hjk : k = j
  · subst hjk
    cases hk.symm.trans hj
    exact ⟨t', List.mem_set hlt t', ht hu⟩
  · have hj' : (ts.set k t')[j]? = some u := by rwa [List.getElem?_set_ne hjk]
    exact ⟨u, List.mem_of_getElem? hj', hu⟩

/-- A number counted for each call. -/
def total (weight : τ → Nat) (ts : List τ) : Nat := (ts.map weight).sum

theorem total_append (weight : τ → Nat) (ts new : List τ) :
    total weight (ts ++ new) = total weight ts + total weight new := by
  rw [total, List.map_append, List.sum_append, total, total]

/-- A step of the call `k` exchanges the number counted for it. -/
theorem total_set (weight : τ → Nat) (hk : ts[k]? = some t) (t' : τ) :
    total weight (ts.set k t') + weight t = total weight ts + weight t' := by
  induction ts generalizing k with
  | nil => cases hk
  | cons u rest ih =>
    cases k with
    | zero =>
      cases hk
      simp only [total, List.set_cons_zero, List.map_cons, List.sum_cons]
      omega
    | succ k =>
      have := ih hk
      simp only [total, List.set_cons_succ, List.map_cons, List.sum_cons] at this ⊢
      omega

/-- The same for a step that starts other calls. -/
theorem total_step (weight : τ → Nat) (hk : ts[k]? = some t) (t' : τ) (new : List τ) :
    total weight (ts.set k t' ++ new) + weight t = total weight ts + weight t' + total weight new := by
  rw [total_append]
  have := total_set weight hk t'
  omega

theorem weight_le_total (weight : τ → Nat) (hk : ts[k]? = some t) : weight t ≤ total weight ts :=
  List.single_le_sum (fun _ _ => Nat.zero_le _) _ (List.mem_map_of_mem (List.mem_of_getElem? hk))

end Each

end Go
