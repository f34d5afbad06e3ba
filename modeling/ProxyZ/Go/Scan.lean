import Mathlib.Data.List.Infix
import Mathlib.Order.Lattice
import Mathlib.Data.List.Perm.Basic
import Mathlib.Tactic.Common

/-!
# Loops that overwrite their result

A loop that assigns its result at every element with `p`, and never compares, ends with the last of these
elements. So what it ends with has a property `q` exactly if in the list every element with `p` and without `q`
is followed by one with both (`lastHit_iff`). In whatever order the elements come, it has the property exactly
if all of them have it (`lastHit_perm_iff`).

A loop that takes an element for its result where that is greater, and passes over elements that it cannot compare,
ends with the first of the greatest, or with the first element where that cannot be compared
(`foldl_keepGreater_some`, `foldl_keepGreater_none`).
-/

namespace Go

variable {α β : Type} {p : α → Bool} {q : α → Prop} {l : List α} {x : α}

/-- The last element with `p`. -/
def lastHit (p : α → Bool) (l : List α) : Option α := (l.filter p).getLast?

/-- Every element with `p` and without `q` is followed by one with both. -/
def Followed (p : α → Bool) (q : α → Prop) (l : List α) : Prop :=
  ∀ x rest, x :: rest <:+ l → p x = true → ¬q x → ∃ y ∈ rest, p y = true ∧ q y

theorem lastHit_concat (p : α → Bool) (l : List α) (x : α) :
    lastHit p (l ++ [x]) = if p x then some x else lastHit p l := by
  unfold lastHit
  rw [List.filter_append, List.filter_singleton]
  cases p x with
  | true => exact List.getLast?_concat
  | false => exact congrArg _ (List.append_nil _)

theorem foldl_overwrite (f : α → β) (init : β) (l : List α) :
    l.foldl (fun acc x => if p x then f x else acc) init = ((lastHit p l).map f).getD init := by
  induction l using List.reverseRecOn with
  | nil => rfl
  | append_singleton l x ih =>
    rw [List.foldl_append, List.foldl_cons, List.foldl_nil, ih, lastHit_concat]
    cases p x <;> rfl

theorem lastHit_suffix (h : lastHit p l = some x) :
    p x = true ∧ ∃ rest, x :: rest <:+ l ∧ ∀ y ∈ rest, p y = false := by
  induction l using List.reverseRecOn with
  | nil => cases h
  | append_singleton l z ih =>
    rw [lastHit_concat] at h
    split_ifs at h with hz
    · cases h
      exact ⟨hz, [], List.suffix_append l _, fun _ hy => absurd hy List.not_mem_nil⟩
    · obtain ⟨hx, rest, hsuffix, hrest⟩ := ih h
      refine ⟨hx, rest ++ [z], List.suffix_append_self_iff.mpr hsuffix, fun y hy => ?_⟩
      rcases List.mem_append.mp hy with hmem | hmem
      · exact hrest y hmem
      · rw [List.mem_singleton.mp hmem]
        exact Bool.eq_false_iff.mpr hz

theorem lastHit_of_mem (hx : x ∈ l) (hp : p x = true) : ∃ y, lastHit p l = some y := by
  have hne : l.filter p ≠ [] := List.ne_nil_of_mem (List.mem_filter.mpr ⟨hx, hp⟩)
  exact ⟨_, List.getLast?_eq_some_getLast hne⟩

/-- The last element with `p` has `q`. -/
theorem lastHit_iff (hhit : ∃ x ∈ l, p x = true) : (∃ x, lastHit p l = some x ∧ q x) ↔ Followed p q l := by
  constructor
  · rintro ⟨y, hy, hq⟩ x rest hx hpx hqx
    obtain ⟨hpy, rest', hy', hlast⟩ := lastHit_suffix hy
    rcases List.suffix_or_suffix_of_suffix hy' hx with hle | hle
    · rcases List.suffix_cons_iff.mp hle with heq | hle
      · cases heq
        exact absurd hq hqx
      · exact ⟨y, hle.subset List.mem_cons_self, hpy, hq⟩
    · rcases List.suffix_cons_iff.mp hle with heq | hle
      · cases heq
        exact absurd hq hqx
      · have := hlast x (hle.subset List.mem_cons_self)
        rw [hpx] at this
        cases this
  · intro hfollowed
    obtain ⟨x, hmem, hpx⟩ := hhit
    obtain ⟨y, hy⟩ := lastHit_of_mem hmem hpx
    refine ⟨y, hy, by_contra fun hqy => ?_⟩
    obtain ⟨hpy, rest, hsuffix, hlast⟩ := lastHit_suffix hy
    obtain ⟨z, hz, hpz, -⟩ := hfollowed y rest hsuffix hpy hqy
    rw [hlast z hz] at hpz
    cases hpz

/-- In a list ordered by `r` the last element with `p` is the greatest of them. -/
theorem lastHit_greatest {r : α → α → Prop} (hrefl : ∀ x, r x x) (hl : l.Pairwise r) (h : lastHit p l = some x) :
    ∀ y ∈ l, p y = true → r y x := by
  intro y hy hp
  obtain ⟨-, rest, ⟨pre, rfl⟩, hrest⟩ := lastHit_suffix h
  rcases List.mem_append.mp hy with hpre | htail
  · exact (List.pairwise_append.mp hl).2.2 y hpre x List.mem_cons_self
  rcases List.mem_cons.mp htail with rfl | hmem
  · exact hrefl y
  · have := hrest y hmem
    rw [hp] at this
    cases this

/-- An order in which `x` comes last. -/
theorem exists_perm_concat (hx : x ∈ l) : ∃ l', (l' ++ [x]).Perm l := by
  obtain ⟨pre, post, rfl⟩ := List.append_of_mem hx
  refine ⟨pre ++ post, ?_⟩
  rw [List.append_assoc]
  exact List.Perm.append_left pre (List.perm_append_singleton x post)

/-- The last element with `p` has `q` in every order of the list. -/
theorem lastHit_perm_iff (hhit : ∃ x ∈ l, p x = true) :
    (∀ l', l'.Perm l → ∃ x, lastHit p l' = some x ∧ q x) ↔ ∀ x ∈ l, p x = true → q x := by
  constructor
  · intro hall x hx hpx
    obtain ⟨l', hperm⟩ := exists_perm_concat hx
    obtain ⟨y, hy, hq⟩ := hall _ hperm
    rw [lastHit_concat, if_pos hpx] at hy
    cases hy
    exact hq
  · intro hall l' hperm
    obtain ⟨x, hx, hpx⟩ := hhit
    obtain ⟨y, hy⟩ := lastHit_of_mem (hperm.mem_iff.mpr hx) hpx
    obtain ⟨hpy, rest, hsuffix, -⟩ := lastHit_suffix hy
    exact ⟨y, hy, hall y (hperm.mem_iff.mp (hsuffix.subset List.mem_cons_self)) hpy⟩

/-! ### A loop that treats the first element differently -/

theorem foldl_zipIdx_cons {σ : Type} (f g : σ → α → σ) (s : σ) (x : α) (l : List α) :
    (x :: l).zipIdx.foldl (fun s p => if p.2 = 0 then f s p.1 else g s p.1) s = l.foldl g (f s x) := by
  have hrest : ∀ (n : Nat) (s : σ), 0 < n →
      (l.zipIdx n).foldl (fun s p => if p.2 = 0 then f s p.1 else g s p.1) s = l.foldl g s := by
    induction l with
    | nil => exact fun _ _ _ => rfl
    | cons y l ih =>
      intro n s hn
      rw [List.zipIdx_cons, List.foldl_cons, List.foldl_cons, if_neg (Nat.ne_of_gt hn)]
      exact ih (n + 1) _ (Nat.succ_pos n)
  rw [List.zipIdx_cons, List.foldl_cons, if_pos rfl]
  exact hrest 1 _ Nat.one_pos

/-! ### A selection that passes over what it cannot compare -/

section Greater

variable [LinearOrder β] (key : α → Option β) {b : β}

/-- `i` if it is greater than `it`, else `it`, also where one of them has no key. -/
def keepGreater (key : α → Option β) (it i : α) : α :=
  match key i, key it with
  | some fi, some fit => if fit < fi then i else it
  | _, _ => it

/-- From an element without a key there is no way on. -/
theorem foldl_keepGreater_none (hx : key x = none) (l : List α) : l.foldl (keepGreater key) x = x := by
  induction l with
  | nil => rfl
  | cons i l ih =>
    have hstep : keepGreater key x i = x := by
      unfold keepGreater
      rw [hx]
      cases key i <;> rfl
    rw [List.foldl_cons, hstep, ih]

/-- From an element with a key the loop ends with the first of the greatest. -/
theorem foldl_keepGreater_some (hx : key x = some b) (l : List α) :
    ∃ first y rest a, x :: l = first ++ y :: rest ∧ l.foldl (keepGreater key) x = y ∧ key y = some a ∧
      (∀ z ∈ first, ∀ c, key z = some c → c < a) ∧ ∀ z ∈ rest, ∀ c, key z = some c → c ≤ a := by
  induction l using List.reverseRecOn with
  | nil => exact ⟨[], x, [], b, rfl, rfl, hx, nofun, nofun⟩
  | append_singleton l i ih =>
    obtain ⟨first, y, rest, a, hsplit, hfold, hy, hfirst, hrest⟩ := ih
    have hsplit' : x :: (l ++ [i]) = first ++ y :: (rest ++ [i]) := by
      rw [← List.cons_append, hsplit, List.append_assoc, List.cons_append]
    rw [List.foldl_append, List.foldl_cons, List.foldl_nil, hfold]
    by_cases hgreater : ∃ c, key i = some c ∧ a < c
    · obtain ⟨c, hc, hac⟩ := hgreater
      have hstep : keepGreater key y i = i := by
        unfold keepGreater
        rw [hc, hy]
        exact if_pos hac
      refine ⟨x :: l, i, [], c, rfl, hstep, hc, fun z hz d hd => ?_, nofun⟩
      rw [hsplit] at hz
      rcases List.mem_append.mp hz with hz | hz
      · exact (hfirst z hz d hd).trans hac
      · rcases List.mem_cons.mp hz with rfl | hz
        · exact Option.some.inj (hy.symm.trans hd) ▸ hac
        · exact (hrest z hz d hd).trans_lt hac
    · have hstep : keepGreater key y i = y := by
        unfold keepGreater
        rcases hi : key i with _ | c
        · rfl
        · rw [hy]
          exact if_neg fun hac => hgreater ⟨c, hi, hac⟩
      refine ⟨first, y, rest ++ [i], a, hsplit', hstep, hy, hfirst, fun z hz d hd => ?_⟩
      rcases List.mem_append.mp hz with hz | hz
      · exact hrest z hz d hd
      · rw [List.mem_singleton.mp hz] at hd
        exact not_lt.mp fun hac => hgreater ⟨d, hd, hac⟩

end Greater

end Go
