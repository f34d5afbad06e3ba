import Mathlib.Algebra.Group.Int.Defs
import Mathlib.Algebra.Group.Nat.Defs
import Mathlib.Data.List.Infix
import Mathlib.Tactic.Common

/-!
# Byte strings

Go strings and `[]byte` values are both lists of bytes here. The functions are those of Go's
`strings`, `strconv` and slice expressions, under their Go names; a slice expression that Go
checks at run time returns `none` where Go panics.
-/

namespace Go

abbrev Bytes := List UInt8

/-- A Go string: its bytes. -/
abbrev Str := List UInt8

/-- The bytes of an ASCII literal. -/
def str (s : String) : Str := s.toList.map fun c => UInt8.ofNat c.toNat

/-- The slice expression `b[lo:hi]`, which panics out of range. -/
def slice? (b : Bytes) (lo hi : Nat) : Option Bytes :=
  if lo ≤ hi ∧ hi ≤ b.length then some ((b.drop lo).take (hi - lo)) else none

def make (size : Nat) : Bytes := List.replicate size 0

/-- `copy(b[lo:], data)` for data that fits: what a read into a sub-slice leaves in the buffer. -/
def overwrite (b : Bytes) (lo : Nat) (data : Bytes) : Bytes :=
  b.take lo ++ data ++ b.drop (lo + data.length)

def hasPrefix (s p : Str) : Bool := p.isPrefixOf s

def hasSuffix (s p : Str) : Bool := p.isSuffixOf s

/-- `strings.Cut`: the parts around the first occurrence of `sep`. -/
def cut (sep : Str) : Str → Option (Str × Str)
  | [] => if sep = [] then some ([], []) else none
  | c :: t =>
      if hasPrefix (c :: t) sep then some ([], (c :: t).drop sep.length)
      else (cut sep t).map fun p => (c :: p.1, p.2)

def contains (s sub : Str) : Bool := (cut sub s).isSome

/-- `strings.Split` with the number of cuts still allowed. -/
def splitUpTo (sep : Str) : Nat → Str → List Str
  | 0, s => [s]
  | n + 1, s =>
      match cut sep s with
      | none => [s]
      | some (a, b) => a :: splitUpTo sep n b

/-- `strings.Split` for a nonempty separator: a string has fewer occurrences than bytes. -/
def split (sep s : Str) : List Str := splitUpTo sep s.length s

def splitN (sep s : Str) (n : Nat) : List Str := splitUpTo sep (n - 1) s

/-- `strings.ReplaceAll` with the number of replacements still allowed. -/
def replaceUpTo (old new : Str) : Nat → Str → Str
  | 0, s => s
  | n + 1, s =>
      match cut old s with
      | none => s
      | some (a, b) => a ++ new ++ replaceUpTo old new n b

def replaceAll (s old new : Str) : Str := replaceUpTo old new s.length s

/-- The bytes `strings.TrimSpace` strips from an ASCII string. -/
def isSpace (c : UInt8) : Bool := c = 32 || (9 ≤ c && c ≤ 13)

def trim (s : Str) : Str := ((s.dropWhile isSpace).reverse.dropWhile isSpace).reverse

/-- `strconv.Itoa` of a non-negative number. -/
def itoa (n : Nat) : Str := (Nat.toDigits 10 n).map fun c => UInt8.ofNat c.toNat

/-- `strconv.FormatUint(n, 16)`. -/
def hex (n : Nat) : Str := (Nat.toDigits 16 n).map fun c => UInt8.ofNat c.toNat

def isDigit (c : UInt8) : Bool := 48 ≤ c && c ≤ 57

/-- `strconv.Atoi`: an optional sign and decimal digits, nothing else. Returns the number and whether it
was accepted; a rejected text gives 0, a number outside `int64` the nearest one inside. -/
def atoi (s : Str) : Int × Bool :=
  let (neg, ds) : Bool × Str := match s with
    | 45 :: t => (true, t)
    | 43 :: t => (false, t)
    | t => (false, t)
  if ds ≠ [] ∧ ds.all isDigit then
    let v : Nat := ds.foldl (fun acc c => acc * 10 + (c.toNat - 48)) 0
    let n : Int := if neg then -(v : Int) else v
    if n < -2 ^ 63 then (-2 ^ 63, false) else if 2 ^ 63 ≤ n then (2 ^ 63 - 1, false) else (n, true)
  else (0, false)

/-- `binary.BigEndian.PutUint16`. -/
def be16 (n : Nat) : Bytes := [UInt8.ofNat (n / 256), UInt8.ofNat n]

/-- The number two bytes spell in big-endian order. -/
def uint16 (hi lo : UInt8) : Nat := 256 * hi.toNat + lo.toNat

/-- `binary.BigEndian.Uint16`, which panics on a slice of fewer than two bytes. -/
def uint16? : Bytes → Option Nat
  | hi :: lo :: _ => some (uint16 hi lo)
  | _ => none

/-- `string(b)` for a byte `b`: the UTF-8 text of the code point `b`. -/
def runeStr (b : UInt8) : Str := if b < 128 then [b] else [192 + b / 64, 128 + b % 64]

/-! ### Prefixes and cuts -/

@[simp] theorem hasPrefix_iff {s p : Str} : hasPrefix s p = true ↔ p <+: s := by
  rw [hasPrefix, List.isPrefixOf_iff_prefix]

theorem hasPrefix_append (p s : Str) : hasPrefix (p ++ s) p = true :=
  hasPrefix_iff.mpr (List.prefix_append p s)

theorem hasPrefix_cons_ne {c d : UInt8} (s p : Str) (h : c ≠ d) : hasPrefix (c :: s) (d :: p) = false := by
  rw [Bool.eq_false_iff, ne_eq, hasPrefix_iff, List.cons_prefix_cons]
  exact fun hp => h hp.1.symm

theorem cut_eq_some {sep s a b : Str} (h : cut sep s = some (a, b)) : s = a ++ sep ++ b := by
  induction s generalizing a b with
  | nil =>
    rw [cut] at h
    split_ifs at h with hsep
    cases h
    simp [hsep]
  | cons c t ih =>
    rw [cut] at h
    split_ifs at h with hp
    · cases h
      obtain ⟨r, hr⟩ := hasPrefix_iff.mp hp
      rw [← hr]
      simp
    · obtain ⟨⟨a', b'⟩, hcut, heq⟩ := Option.map_eq_some_iff.mp h
      cases heq
      rw [ih hcut]
      simp

theorem cut_eq_none_iff {sep s : Str} : cut sep s = none ↔ ¬ sep <:+: s := by
  induction s with
  | nil =>
    rw [cut]
    split_ifs with hsep
    · simp [hsep]
    · simpa using hsep
  | cons c t ih =>
    rw [cut]
    split_ifs with hp
    · simpa using List.infix_cons_iff.mpr (Or.inl (hasPrefix_iff.mp hp))
    · rw [Option.map_eq_none_iff, ih, List.infix_cons_iff, not_or]
      exact ⟨fun h => ⟨fun hpre => hp (hasPrefix_iff.mpr hpre), h⟩, fun h => h.2⟩

theorem contains_iff {s sub : Str} : contains s sub = true ↔ sub <:+: s := by
  rw [contains, ← not_iff_not, Bool.not_eq_true, Option.isSome_eq_false_iff, Option.isNone_iff_eq_none,
    cut_eq_none_iff]

/-- A one-byte separator is found behind a part that does not hold it. -/
theorem cut_singleton {c : UInt8} {a : Str} (b : Str) (ha : c ∉ a) : cut [c] (a ++ c :: b) = some (a, b) := by
  induction a with
  | nil =>
    exact if_pos (hasPrefix_append [c] b)
  | cons d t ih =>
    rw [List.mem_cons, not_or] at ha
    rw [List.cons_append, cut, hasPrefix_cons_ne _ _ (Ne.symm ha.1), if_neg (by simp), ih ha.2]
    rfl

theorem cut_singleton_none {c : UInt8} {s : Str} (hs : c ∉ s) : cut [c] s = none := by
  rw [cut_eq_none_iff, List.singleton_infix_iff]
  exact hs

theorem cut_append_self {sep : Str} (hsep : sep ≠ []) (b : Str) : cut sep (sep ++ b) = some ([], b) := by
  cases sep with
  | nil => exact absurd rfl hsep
  | cons c t =>
    rw [List.cons_append, cut, if_pos (by rw [← List.cons_append]; exact hasPrefix_append _ _)]
    simp

/-! ### Splitting -/

theorem splitUpTo_none {sep s : Str} (n : Nat) (h : cut sep s = none) : splitUpTo sep n s = [s] := by
  cases n with
  | zero => rfl
  | succ n => rw [splitUpTo, h]

theorem cut_length_lt {sep s a b : Str} (hsep : sep ≠ []) (h : cut sep s = some (a, b)) :
    b.length < s.length := by
  have hlen := congrArg List.length (cut_eq_some h)
  have hpos := List.length_pos_of_ne_nil hsep
  simp only [List.length_append] at hlen
  omega

/-- Cuts beyond the length of the string change nothing. -/
theorem splitUpTo_of_length_le {sep : Str} (hsep : sep ≠ []) (n : Nat) (s : Str) (h : s.length ≤ n) :
    splitUpTo sep n s = splitUpTo sep s.length s := by
  induction n using Nat.strong_induction_on generalizing s with
  | _ n ih =>
    rcases hcut : cut sep s with _ | ⟨a, b⟩
    · rw [splitUpTo_none _ hcut, splitUpTo_none _ hcut]
    · have hlt := cut_length_lt hsep hcut
      obtain ⟨m, hm⟩ : ∃ m, s.length = m + 1 := ⟨s.length - 1, by omega⟩
      obtain ⟨k, rfl⟩ : ∃ k, n = k + 1 := ⟨n - 1, by omega⟩
      rw [hm, splitUpTo, splitUpTo, hcut]
      simp only [List.cons.injEq, true_and]
      rw [ih k (by omega) b (by omega)]
      by_cases hkm : m = k
      · subst hkm
        exact (ih m (by omega) b (by omega)).symm
      · exact (ih m (by omega) b (by omega)).symm

theorem split_of_cut_none {sep s : Str} (h : cut sep s = none) : split sep s = [s] :=
  splitUpTo_none _ h

theorem split_of_cut_some {sep s a b : Str} (hsep : sep ≠ []) (h : cut sep s = some (a, b)) :
    split sep s = a :: split sep b := by
  have hlt := cut_length_lt hsep h
  obtain ⟨m, hm⟩ : ∃ m, s.length = m + 1 := ⟨s.length - 1, by omega⟩
  rw [split, hm, splitUpTo, h]
  simp only [List.cons.injEq, true_and]
  exact splitUpTo_of_length_le hsep m b (by omega)

theorem split_singleton {c : UInt8} {a : Str} (b : Str) (ha : c ∉ a) :
    split [c] (a ++ c :: b) = a :: split [c] b :=
  split_of_cut_some (by simp) (cut_singleton b ha)

theorem split_singleton_none {c : UInt8} {s : Str} (hs : c ∉ s) : split [c] s = [s] :=
  split_of_cut_none (cut_singleton_none hs)

theorem exists_split (sep s : Str) : ∃ a rest, split sep s = a :: rest := by
  unfold split
  cases s.length with
  | zero => exact ⟨s, [], rfl⟩
  | succ n =>
    unfold splitUpTo
    cases cut sep s with
    | none => exact ⟨s, [], rfl⟩
    | some parts => exact ⟨parts.1, splitUpTo sep n parts.2, rfl⟩

/-! ### Replacing -/

theorem length_replaceUpTo_le {old new : Str} (hnew : new.length ≤ old.length) (n : Nat) (s : Str) :
    (replaceUpTo old new n s).length ≤ s.length := by
  induction n generalizing s with
  | zero => exact le_rfl
  | succ n ih =>
    rw [replaceUpTo]
    rcases hcut : cut old s with _ | ⟨a, b⟩
    · exact le_rfl
    · have hlen := congrArg List.length (cut_eq_some hcut)
      have hrest := ih b
      simp only [List.length_append] at hlen ⊢
      omega

/-- A shorter text in the place of one that occurs makes the string shorter. -/
theorem length_replaceAll_lt {s old new : Str} (hnew : new.length < old.length) (hs : contains s old = true) :
    (replaceAll s old new).length < s.length := by
  obtain ⟨⟨a, b⟩, hcut⟩ := Option.isSome_iff_exists.mp hs
  have hlen := congrArg List.length (cut_eq_some hcut)
  simp only [List.length_append] at hlen
  obtain ⟨n, hn⟩ : ∃ n, s.length = n + 1 := ⟨s.length - 1, by omega⟩
  have hrest := length_replaceUpTo_le hnew.le n b
  rw [replaceAll, hn, replaceUpTo, hcut]
  simp only [List.length_append]
  omega

/-! ### Buffers -/

/-- A buffer of `size` bytes that holds `data` and then zeros. -/
def filled (size : Nat) (data : Bytes) : Bytes := data ++ make (size - data.length)

theorem length_filled {size : Nat} {data : Bytes} (h : data.length ≤ size) :
    (filled size data).length = size := by
  simp only [filled, make, List.length_append, List.length_replicate]
  omega

theorem overwrite_make {size : Nat} {data : Bytes} : overwrite (make size) 0 data = filled size data := by
  simp [overwrite, make, filled]

/-- Reading on into a buffer appends to what it holds. -/
theorem overwrite_filled {size lo : Nat} {data more : Bytes} (hlo : lo = data.length) :
    overwrite (filled size data) lo more = filled size (data ++ more) := by
  subst hlo
  have hdrop : (filled size data).drop (data.length + more.length) = make (size - (data ++ more).length) := by
    rw [filled, List.drop_append, List.drop_eq_nil_of_le (Nat.le_add_right _ _)]
    simp only [make, List.nil_append, List.drop_replicate, List.length_append]
    congr 1
    omega
  rw [overwrite, hdrop, filled, List.take_left, filled]

theorem getElem?_filled {size i : Nat} {data : Bytes} (h : i < data.length) :
    (filled size data)[i]? = data[i]? :=
  List.getElem?_append_left h

theorem slice?_eq_some {b : Bytes} {lo hi : Nat} (h : lo ≤ hi) (hb : hi ≤ b.length) :
    slice? b lo hi = some ((b.drop lo).take (hi - lo)) :=
  if_pos ⟨h, hb⟩

/-- A slice of what the buffer holds does not see the zeros. -/
theorem slice?_filled {size lo hi : Nat} {data : Bytes} (h : lo ≤ hi) (hb : hi ≤ data.length) :
    slice? (filled size data) lo hi = some ((data.drop lo).take (hi - lo)) := by
  rw [slice?_eq_some h (by rw [filled, List.length_append]; omega), filled,
    List.drop_append_of_le_length (by omega), List.take_append_of_le_length (by rw [List.length_drop]; omega)]

/-! ### Numbers -/

/-- The number decimal digits spell. -/
def decimal (ds : Str) : Nat := ds.foldl (fun acc c => acc * 10 + (c.toNat - 48)) 0

theorem atoi_digits {ds : Str} (hne : ds ≠ []) (hdigits : ds.all isDigit) :
    atoi ds = if 2 ^ 63 ≤ decimal ds then (2 ^ 63 - 1, false) else ((decimal ds : Int), true) := by
  cases ds with
  | nil => exact absurd rfl hne
  | cons d t =>
    have hd : isDigit d = true := List.all_eq_true.mp hdigits d List.mem_cons_self
    have hplus : d ≠ 43 := fun h => absurd (h ▸ hd) (by decide)
    have hminus : d ≠ 45 := fun h => absurd (h ▸ hd) (by decide)
    have hlow : ¬((decimal (d :: t) : Nat) : Int) < -2 ^ 63 := by omega
    have hhigh : (2 ^ 63 : Int) ≤ (decimal (d :: t) : Nat) ↔ 2 ^ 63 ≤ decimal (d :: t) := by omega
    unfold atoi
    split
    next neg ds hsign =>
      split at hsign
      · next h => exact absurd (List.cons.inj h).1 hminus
      · next h => exact absurd (List.cons.inj h).1 hplus
      · cases hsign
        rw [if_pos ⟨hne, hdigits⟩]
        exact (if_neg hlow).trans (if_congr hhigh rfl rfl)

theorem atoi_of_digits {ds : Str} (hne : ds ≠ []) (hdigits : ds.all isDigit) (hsmall : decimal ds < 2 ^ 63) :
    atoi ds = ((decimal ds : Int), true) := by
  rw [atoi_digits hne hdigits, if_neg hsmall.not_ge]

theorem length_itoa_le {n k : Nat} (hk : 0 < k) (hn : n < 10 ^ k) : (itoa n).length ≤ k := by
  rw [itoa, List.length_map]
  exact (Nat.length_toDigits_le_iff (by decide) hk).mpr hn

@[simp] theorem length_be16 (n : Nat) : (be16 n).length = 2 := rfl

theorem uint16?_be16 {n : Nat} (h : n < 65536) : uint16? (be16 n) = some n := by
  simp only [uint16?, be16, uint16, UInt8.toNat_ofNat', Option.some.injEq]
  omega

end Go
