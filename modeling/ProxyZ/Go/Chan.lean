import Mathlib.Data.List.Perm.Basic
import Mathlib.Tactic.Common

/-!
# Buffered channels

A buffered channel is a queue with a capacity it never exceeds. `send` and `recv` are the operations that
succeed at once; `none` means that the goroutine would have to wait, or that a `select` takes its
`default` branch.

A goroutine that looks for an element by taking the head and putting it back at the tail turns the queue
round; the element comes one place closer each time (`findIdx_turn`).
-/

namespace Go

structure Chan (α : Type) where
  cap : Nat
  items : List α
  bound : items.length ≤ cap
  deriving DecidableEq

namespace Chan

variable {α : Type}

/-- `make(chan T, cap)`. -/
def make (cap : Nat) : Chan α := ⟨cap, [], Nat.zero_le _⟩

/-- `ch <- x` where there is room. -/
def send (x : α) (ch : Chan α) : Option (Chan α) :=
  if h : ch.items.length < ch.cap then some ⟨ch.cap, ch.items ++ [x], by rw [List.length_append]; exact h⟩ else none

/-- `<-ch` where something is queued. -/
def recv : Chan α → Option (α × Chan α)
  | ⟨_, [], _⟩ => none
  | ⟨cap, x :: xs, h⟩ => some (x, ⟨cap, xs, Nat.le_of_succ_le h⟩)

@[ext] theorem ext {ch ch' : Chan α} (hcap : ch.cap = ch'.cap) (hitems : ch.items = ch'.items) : ch = ch' := by
  cases ch
  cases ch'
  cases hcap
  cases hitems
  rfl

theorem recv_eq_none {ch : Chan α} : ch.recv = none ↔ ch.items = [] := by
  rcases ch with ⟨cap, _ | ⟨x, xs⟩, h⟩ <;> simp [recv]

theorem recv_eq_some {ch ch' : Chan α} {x : α} :
    ch.recv = some (x, ch') ↔ ch.items = x :: ch'.items ∧ ch'.cap = ch.cap := by
  rcases ch with ⟨cap, _ | ⟨y, ys⟩, h⟩
  · simp [recv]
  · simp only [recv, Option.some.injEq, Prod.mk.injEq, List.cons.injEq]
    constructor
    · rintro ⟨rfl, rfl⟩
      exact ⟨⟨rfl, rfl⟩, rfl⟩
    · rintro ⟨⟨rfl, hitems⟩, hcap⟩
      exact ⟨rfl, ext hcap.symm hitems⟩

theorem send_eq_some {ch ch' : Chan α} {x : α} :
    ch.send x = some ch' ↔ ch'.items = ch.items ++ [x] ∧ ch'.cap = ch.cap := by
  rw [send]
  split_ifs with h
  · rw [Option.some.injEq]
    constructor
    · rintro rfl
      exact ⟨rfl, rfl⟩
    · rintro ⟨hitems, hcap⟩
      exact ext hcap.symm hitems.symm
  · constructor
    · intro hnone
      cases hnone
    · rintro ⟨hitems, hcap⟩
      have := ch'.bound
      rw [hitems, hcap, List.length_append, List.length_singleton] at this
      omega

theorem exists_send {ch : Chan α} (x : α) (h : ch.items.length < ch.cap) :
    ∃ ch', ch.send x = some ch' :=
  ⟨_, dif_pos h⟩

end Chan

/-- One turn of the search: taking the head to the tail brings the first match one place closer. -/
theorem findIdx_turn {α : Type} {p : α → Bool} {x : α} {xs : List α} (hx : p x = false) (hxs : ∃ y ∈ xs, p y) :
    (xs ++ [x]).findIdx p + 1 = (x :: xs).findIdx p := by
  rw [List.findIdx_append, if_pos (List.findIdx_lt_length_of_exists hxs), List.findIdx_cons, hx, cond_false]

end Go
