import ProxyZ.Go.Bytes

/-!
# Addresses as text

`net.IP` values, their text and `net.JoinHostPort`, as Go's `net` and `net/netip` compute them.
-/

namespace Go

/-- A `net.IP` value: 4 or 16 bytes where it is an address. -/
abbrev IP := Bytes

/-- `ip.To4()`: the 4-byte form of an IPv4 address. -/
def to4 (ip : IP) : Option IP :=
  if ip.length = 4 then some ip
  else if ip.length = 16 ∧ ip.take 12 = [0, 0, 0, 0, 0, 0, 0, 0, 0, 0, 255, 255] then some (ip.drop 12)
  else none

/-- Dotted decimal text. -/
def dotted (ip : IP) : Str := (str ".").intercalate (ip.map fun b => itoa b.toNat)

/-- The 16-bit groups of an address. -/
def groups : IP → List Nat
  | hi :: lo :: t => uint16 hi lo :: groups t
  | _ => []

/-- The first longest run of at least two zero groups, `(255, 255)` where there is none. -/
def zeroRun (g : List Nat) : Nat × Nat :=
  (List.range 8).foldl (fun z i =>
    let j := i + ((g.drop i).takeWhile (· == 0)).length
    if 2 ≤ j - i ∧ z.2 - z.1 < j - i then (i, j) else z) (255, 255)

/-- The groups from `i` on in hexadecimal, the run `[zs, ze)` as `::`; `n` bounds the groups left. -/
def groupsText (g : List Nat) (zs ze : Nat) : Nat → Nat → Str
  | 0, _ => []
  | n + 1, i =>
      if 8 ≤ i then []
      else if i = zs then
        if 8 ≤ ze then str "::" else str "::" ++ hex (g.getD ze 0) ++ groupsText g zs ze n (ze + 1)
      else (if 0 < i then str ":" else []) ++ hex (g.getD i 0) ++ groupsText g zs ze n (i + 1)

def ipString (ip : IP) : Str :=
  if ip = [] then str "<nil>"
  else match to4 ip with
    | some v4 => dotted v4
    | none =>
        if ip.length = 16 then
          let z := zeroRun (groups ip)
          groupsText (groups ip) z.1 z.2 8 0
        else str "?" ++ ip.flatMap fun b => hex (b.toNat / 16) ++ hex (b.toNat % 16)

example : ipString [192, 168, 0, 1] = str "192.168.0.1" := by decide
example : ipString [32, 1, 13, 184, 0, 0, 0, 0, 0, 0, 0, 0, 0, 0, 0, 1] = str "2001:db8::1" := by decide

/-- `net.JoinHostPort`: a host with a colon is bracketed. -/
def joinHostPort (host port : Str) : Str :=
  if contains host (str ":") then str "[" ++ host ++ str "]:" ++ port else host ++ str ":" ++ port

theorem isDigit_of_mem_itoa {n : Nat} {c : UInt8} (h : c ∈ itoa n) : isDigit c = true := by
  obtain ⟨d, hd, rfl⟩ := List.mem_map.mp h
  have hdig := Nat.isDigit_of_mem_toDigits (by decide) (by decide) hd
  rw [Char.isDigit, Bool.and_eq_true, decide_eq_true_eq, decide_eq_true_eq, ge_iff_le,
    UInt32.le_iff_toNat_le, UInt32.le_iff_toNat_le] at hdig
  have hlow : 48 ≤ d.toNat := hdig.1
  have hhigh : d.toNat ≤ 57 := hdig.2
  rw [isDigit, Bool.and_eq_true, decide_eq_true_eq, decide_eq_true_eq, UInt8.le_iff_toNat_le,
    UInt8.le_iff_toNat_le, UInt8.toNat_ofNat']
  simp only [UInt8.reduceToNat]
  omega

theorem notMem_itoa {n : Nat} {c : UInt8} (hc : isDigit c = false) : c ∉ itoa n := by
  intro h
  rw [isDigit_of_mem_itoa h] at hc
  cases hc

/-- The four numbers of a dotted address. -/
theorem dotted_four (a b c d : UInt8) : dotted [a, b, c, d] =
    itoa a.toNat ++ str "." ++ itoa b.toNat ++ str "." ++ itoa c.toNat ++ str "." ++ itoa d.toNat := by
  simp [dotted, List.intercalate]

theorem length_of_to4 {ip v4 : IP} (h : to4 ip = some v4) : v4.length = 4 := by
  unfold to4 at h
  split_ifs at h with hfour hmapped
  · cases h
    exact hfour
  · cases h
    rw [List.length_drop, hmapped.1]

/-- A text of an IPv4 address has digits and dots, and nothing else. -/
theorem notMem_dotted {c : UInt8} (hdigit : isDigit c = false) (hdot : c ≠ 46) {ip : IP} (hip : ip.length = 4) :
    c ∉ dotted ip := by
  obtain ⟨a, b, d, e, rfl⟩ := List.length_eq_four.mp hip
  have hdigits : ∀ n, c ∉ itoa n := fun n => notMem_itoa hdigit
  have hdots : c ∉ str "." := by
    rw [show str "." = [46] from rfl, List.mem_singleton]
    exact hdot
  rw [dotted_four]
  simp only [List.mem_append, hdigits, hdots, or_self, not_false_eq_true]

theorem length_dotted_le {ip : IP} (hip : ip.length = 4) : (dotted ip).length ≤ 15 := by
  obtain ⟨a, b, c, d, rfl⟩ := List.length_eq_four.mp hip
  have hdigits : ∀ x : UInt8, (itoa x.toNat).length ≤ 3 := by
    intro x
    have := x.toNat_lt
    exact length_itoa_le (by decide) (by omega)
  have ha := hdigits a
  have hb := hdigits b
  have hc := hdigits c
  have hd := hdigits d
  have hdot : (str ".").length = 1 := rfl
  rw [dotted_four]
  simp only [List.length_append, hdot]
  omega

theorem joinHostPort_of_mem {host : Str} (port : Str) (h : 58 ∈ host) :
    joinHostPort host port = str "[" ++ host ++ str "]:" ++ port := by
  refine if_pos (contains_iff.mpr ?_)
  rw [show str ":" = [58] from rfl, List.singleton_infix_iff]
  exact h

theorem joinHostPort_of_notMem {host : Str} (port : Str) (h : 58 ∉ host) :
    joinHostPort host port = host ++ str ":" ++ port := by
  refine if_neg fun hc => h ?_
  rw [contains_iff, show str ":" = [58] from rfl, List.singleton_infix_iff] at hc
  exact hc

end Go
