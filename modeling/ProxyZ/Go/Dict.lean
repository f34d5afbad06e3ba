import Mathlib.Data.List.AList
import Mathlib.Algebra.Order.BigOperators.Group.List
import Mathlib.Tactic.Linarith
import Mathlib.Tactic.Ring
import ProxyZ.Go.Bytes

/-!
# Maps

A `map[string]T` is an association list without repeated keys. A missing key reads as the zero value,
which `get` takes as an argument. The order in which Go ranges over a map is not fixed: a function that
ranges is given some permutation of the entries.
-/

namespace Go

/-- A `map[string]T`. -/
abbrev Dict (α : Type) := AList fun _ : Str => α

namespace Dict

variable {α : Type}

/-- `d[k]`, `zero` where the key is missing. -/
def get (d : Dict α) (k : Str) (zero : α) : α := (d.lookup k).getD zero

/-- The entries, in some order. -/
def pairs (d : Dict α) : List (Str × α) := d.entries.map fun e => (e.1, e.2)

/-- `_, ok := d[k]`. -/
def has (d : Dict α) (k : Str) : Bool := (d.lookup k).isSome

@[simp] theorem get_empty (k : Str) (zero : α) : get (∅ : Dict α) k zero = zero := rfl

@[simp] theorem get_insert_self (d : Dict α) (k : Str) (v zero : α) : get (d.insert k v) k zero = v := by
  simp [get]

theorem get_insert_ne (d : Dict α) {k k' : Str} (v zero : α) (h : k' ≠ k) :
    get (d.insert k v) k' zero = get d k' zero := by
  simp [get, AList.lookup_insert_ne h]

@[simp] theorem get_erase_self (d : Dict α) (k : Str) (zero : α) : get (d.erase k) k zero = zero := by
  simp [get]

theorem get_erase_ne (d : Dict α) {k k' : Str} (zero : α) (h : k' ≠ k) :
    get (d.erase k) k' zero = get d k' zero := by
  simp [get, AList.lookup_erase_ne h]

theorem get_of_mem {d : Dict α} {k : Str} {v : α} (zero : α) (h : ⟨k, v⟩ ∈ d.entries) : get d k zero = v := by
  rw [get, AList.mem_lookup_iff.mpr h]
  rfl

theorem get_of_mem_pairs {d : Dict α} {k : Str} {v : α} (zero : α) (h : (k, v) ∈ d.pairs) : get d k zero = v := by
  obtain ⟨⟨k', v'⟩, hmem, heq⟩ := List.mem_map.mp h
  cases heq
  exact get_of_mem zero hmem

theorem nodup_pairs (d : Dict α) : (d.pairs.map Prod.fst).Nodup := by
  have hkeys : d.pairs.map Prod.fst = d.entries.map Sigma.fst := by
    unfold pairs
    rw [List.map_map]
    rfl
  rw [hkeys]
  exact d.nodupKeys

theorem has_iff_mem {d : Dict α} {k : Str} : has d k = true ↔ k ∈ d := AList.lookup_isSome

theorem has_insert_of_has {d : Dict α} {k k' : Str} (v : α) (h : has d k = true) : has (d.insert k' v) k = true := by
  unfold has at h ⊢
  by_cases hk : k = k'
  · subst hk
    simp
  · rwa [AList.lookup_insert_ne hk]

theorem has_of_has_erase {d : Dict α} {k k' : Str} (h : has (d.erase k') k = false) (hk : k ≠ k') :
    has d k = false := by
  unfold has at h ⊢
  rwa [AList.lookup_erase_ne hk] at h

theorem mem_pairs_iff {d : Dict α} {k : Str} {v : α} : (k, v) ∈ d.pairs ↔ d.lookup k = some v := by
  rw [← Option.mem_def, AList.mem_lookup_iff, pairs, List.mem_map]
  constructor
  · rintro ⟨⟨k', v'⟩, hmem, heq⟩
    cases heq
    exact hmem
  · exact fun hmem => ⟨⟨k, v⟩, hmem, rfl⟩

/-! ### Entries one after the other -/

/-- One value under the keys of a list. -/
theorem lookup_foldl_insert_const {β : Type} (key : β → Str) (l : List β) (d : Dict α) (v : α) (k : Str) :
    (l.foldl (fun d x => d.insert (key x) v) d).lookup k = if k ∈ l.map key then some v else d.lookup k := by
  induction l generalizing d with
  | nil => rfl
  | cons x l ih =>
    rw [List.foldl_cons, ih, List.map_cons]
    by_cases hmem : k ∈ l.map key
    · rw [if_pos hmem, if_pos (List.mem_cons_of_mem _ hmem)]
    · rw [if_neg hmem]
      by_cases hk : k = key x
      · rw [if_pos (hk ▸ List.mem_cons_self), hk, AList.lookup_insert]
      · rw [if_neg (by rw [List.mem_cons, not_or]; exact ⟨hk, hmem⟩), AList.lookup_insert_ne hk]

/-- Entries with different keys are all there. -/
theorem lookup_foldl_insert_iff {l : List (Str × α)} (hl : (l.map Prod.fst).Nodup) {k : Str} {v : α} :
    (l.foldl (fun d p => d.insert p.1 p.2) (∅ : Dict α)).lookup k = some v ↔ (k, v) ∈ l := by
  induction l using List.reverseRecOn with
  | nil => simp
  | append_singleton l p ih =>
    rw [List.map_append, List.nodup_append] at hl
    obtain ⟨hl, -, hnew⟩ := hl
    obtain ⟨k', v'⟩ := p
    rw [List.foldl_append, List.foldl_cons, List.foldl_nil, List.mem_append, List.mem_singleton]
    by_cases hk : k = k'
    · subst hk
      have hold : (k, v) ∉ l := fun hmem =>
        hnew k (List.mem_map_of_mem (f := Prod.fst) hmem) k (List.mem_singleton_self k) rfl
      rw [AList.lookup_insert, or_iff_right hold]
      simp [eq_comm]
    · rw [AList.lookup_insert_ne hk, ih hl]
      simp [hk]

/-! ### Sums over a map -/

def total (d : Dict Int) : Int := (d.entries.map Sigma.snd).sum

@[simp] theorem total_empty : total ∅ = 0 := rfl

theorem total_erase (d : Dict Int) (k : Str) : total (d.erase k) = total d - get d k 0 := by
  obtain ⟨entries, hnodup⟩ := d
  show ((entries.kerase k).map Sigma.snd).sum = (entries.map Sigma.snd).sum - (entries.dlookup k).getD 0
  induction entries with
  | nil => rfl
  | cons e es ih =>
    obtain ⟨k', v⟩ := e
    have htail := (List.nodupKeys_cons.mp hnodup).2
    by_cases hk : k = k'
    · subst hk
      simp
    · rw [List.kerase_cons_ne hk, List.dlookup_cons_ne _ _ (by simpa using hk), List.map_cons, List.sum_cons,
        ih htail, List.map_cons, List.sum_cons]
      ring

theorem total_insert (d : Dict Int) (k : Str) (v : Int) : total (d.insert k v) = total d - get d k 0 + v := by
  have hsum : total (d.insert k v) = v + total (d.erase k) := by
    obtain ⟨entries, hnodup⟩ := d
    rfl
  rw [hsum, total_erase]
  ring

/-- Setting an entry to 0 leaves the positive entries as they were. -/
theorem get_insert_zero {d : Dict Int} {k k' : Str} (h : 0 < get (d.insert k 0) k' 0) :
    get (d.insert k 0) k' 0 = get d k' 0 := by
  by_cases hk : k' = k
  · rw [hk, get_insert_self] at h
    exact absurd h (lt_irrefl 0)
  · exact get_insert_ne _ _ _ hk

def Nonneg (d : Dict Int) : Prop := ∀ k, 0 ≤ get d k 0

theorem get_le_total {d : Dict Int} (h : Nonneg d) (k : Str) : get d k 0 ≤ total d := by
  have hrest : 0 ≤ total (d.erase k) := by
    apply List.sum_nonneg
    intro x hx
    obtain ⟨⟨k', v⟩, hmem, rfl⟩ := List.mem_map.mp hx
    have hget := get_of_mem 0 hmem
    by_cases hk : k' = k
    · subst hk
      rw [get_erase_self] at hget
      exact hget.le
    · rw [get_erase_ne _ _ hk] at hget
      exact hget ▸ h k'
  rw [total_erase] at hrest
  linarith

theorem nonneg_empty : Nonneg ∅ := fun _ => le_rfl

theorem Nonneg.insert {d : Dict Int} (h : Nonneg d) (k : Str) {v : Int} (hv : 0 ≤ v) : Nonneg (d.insert k v) := by
  intro k'
  by_cases hk : k' = k
  · subst hk
    rwa [get_insert_self]
  · rw [get_insert_ne _ _ _ hk]
    exact h k'

theorem Nonneg.erase {d : Dict Int} (h : Nonneg d) (k : Str) : Nonneg (d.erase k) := by
  intro k'
  by_cases hk : k' = k
  · subst hk
    rw [get_erase_self]
  · rw [get_erase_ne _ _ hk]
    exact h k'

end Dict

end Go
