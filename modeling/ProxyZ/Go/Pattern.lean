import ProxyZ.Go.Fmt
import ProxyZ.Go.Text

/-!
# Patterns of texts

A pattern is a row of pieces, each of which stands for one letter, or for any number of letters, that pass a test. It
matches a whole text (`Matches`), or is found in a part of one (`Found`).

`regexp` reads a text as a row of characters (`chars`). A pattern without operators but `.` and `.*` is such a row
of pieces (`pieces?`), and `MatchString` tells whether it is found (`Documented`).
-/

namespace Go

/-- What a piece of a pattern stands for: one letter that passes the test, or any number of such letters. -/
inductive Piece (α : Type)
  | one (test : α → Bool)
  | many (test : α → Bool)

section Pattern

variable {α : Type}

/-- The pattern stands for the whole of the text. -/
inductive Matches : List (Piece α) → List α → Prop
  | nil : Matches [] []
  | one {test : α → Bool} {c : α} {ps : List (Piece α)} {s : List α} (hc : test c = true) :
      Matches ps s → Matches (.one test :: ps) (c :: s)
  | many {test : α → Bool} {t : List α} {ps : List (Piece α)} {s : List α} (ht : ∀ c ∈ t, test c = true) :
      Matches ps s → Matches (.many test :: ps) (t ++ s)

/-- It stands for a part of the text. -/
def Found (ps : List (Piece α)) (s : List α) : Prop := ∃ u, u <:+: s ∧ Matches ps u

theorem Matches.found {ps : List (Piece α)} {s : List α} (h : Matches ps s) : Found ps s := ⟨s, List.infix_rfl, h⟩

/-- Passes the rest of a text to `f` behind any number of letters that pass the test. -/
def skipping (f : List α → Bool) (test : α → Bool) : List α → Bool
  | [] => f []
  | c :: t => f (c :: t) || (test c && skipping f test t)

def isMatch : List (Piece α) → List α → Bool
  | [] => fun s => s.isEmpty
  | .one test :: ps => fun s =>
      match s with
      | [] => false
      | c :: t => test c && isMatch ps t
  | .many test :: ps => skipping (isMatch ps) test

def isFound (ps : List (Piece α)) (s : List α) : Bool := s.tails.any fun t => t.inits.any (isMatch ps)

theorem skipping_iff {f : List α → Bool} {test : α → Bool} {s : List α} :
    skipping f test s = true ↔ ∃ t u, s = t ++ u ∧ (∀ c ∈ t, test c = true) ∧ f u = true := by
  induction s with
  | nil =>
    constructor
    · intro h
      exact ⟨[], [], rfl, fun _ hc => absurd hc List.not_mem_nil, h⟩
    · rintro ⟨t, u, hsplit, -, hu⟩
      rw [(List.append_eq_nil_iff.mp hsplit.symm).2] at hu
      exact hu
  | cons d rest ih =>
    rw [skipping, Bool.or_eq_true, Bool.and_eq_true, ih]
    constructor
    · rintro (h | ⟨hd, t, u, rfl, ht, hu⟩)
      · exact ⟨[], d :: rest, rfl, fun _ hc => absurd hc List.not_mem_nil, h⟩
      · exact ⟨d :: t, u, rfl, List.forall_mem_cons.mpr ⟨hd, ht⟩, hu⟩
    · rintro ⟨t, u, hsplit, ht, hu⟩
      cases t with
      | nil =>
        left
        rw [List.nil_append] at hsplit
        rw [hsplit]
        exact hu
      | cons e t =>
        obtain ⟨rfl, rfl⟩ := List.cons.inj hsplit
        obtain ⟨hd, ht⟩ := List.forall_mem_cons.mp ht
        exact Or.inr ⟨hd, t, u, rfl, ht, hu⟩

theorem isMatch_iff {ps : List (Piece α)} {s : List α} : isMatch ps s = true ↔ Matches ps s := by
  induction ps generalizing s with
  | nil =>
    rw [isMatch, List.isEmpty_iff]
    constructor
    · rintro rfl
      exact .nil
    · intro h
      cases h
      rfl
  | cons p ps ih =>
    cases p with
    | one test =>
      cases s with
      | nil =>
        refine ⟨fun h => absurd h Bool.false_ne_true, fun h => ?_⟩
        cases h
      | cons c t =>
        rw [isMatch, Bool.and_eq_true, ih]
        constructor
        · rintro ⟨hc, ht⟩
          exact .one hc ht
        · intro h
          cases h with
          | one hc ht => exact ⟨hc, ht⟩
    | many test =>
      rw [isMatch, skipping_iff]
      constructor
      · rintro ⟨t, u, rfl, ht, hu⟩
        exact .many ht (ih.mp hu)
      · intro h
        cases h with
        | many ht hu => exact ⟨_, _, rfl, ht, ih.mpr hu⟩

theorem isFound_iff {ps : List (Piece α)} {s : List α} : isFound ps s = true ↔ Found ps s := by
  unfold isFound Found
  simp only [List.any_eq_true, List.mem_tails, List.mem_inits, isMatch_iff, List.infix_iff_prefix_suffix]
  constructor
  · rintro ⟨t, ht, u, hu, hmatches⟩
    exact ⟨u, ⟨t, hu, ht⟩, hmatches⟩
  · rintro ⟨u, ⟨t, hu, ht⟩, hmatches⟩
    exact ⟨t, ht, u, hu, hmatches⟩

instance (ps : List (Piece α)) (s : List α) : Decidable (Matches ps s) := decidable_of_iff _ isMatch_iff

instance (ps : List (Piece α)) (s : List α) : Decidable (Found ps s) := decidable_of_iff _ isFound_iff

end Pattern

/-! ### Characters -/

/-- At most `n` characters of a text, as `utf8.DecodeRune` takes them off. -/
def charsUpTo : Nat → Str → List Str
  | 0, _ => []
  | n + 1, s => if s = [] then [] else (decodeRune s).1 :: charsUpTo n (decodeRune s).2

/-- The characters of a text: there are no more than bytes. -/
def chars (s : Str) : List Str := charsUpTo s.length s

section Characters

variable {c : UInt8} {s t : Str}

theorem charsUpTo_length {n : Nat} (h : s.length ≤ n) : charsUpTo n s = chars s := by
  unfold chars
  induction n using Nat.strong_induction_on generalizing s with
  | _ n ih =>
    cases s with
    | nil => cases n <;> rfl
    | cons d rest =>
      obtain ⟨m, rfl⟩ := Nat.exists_eq_succ_of_ne_zero (Nat.ne_zero_of_lt h)
      have hshorter := (decodeRune_marks d rest).2
      simp only [List.length_cons, Nat.succ_eq_add_one] at h hshorter ⊢
      rw [charsUpTo, charsUpTo, if_neg (List.cons_ne_nil d rest), if_neg (List.cons_ne_nil d rest),
        ih m (by omega) (by omega), ih rest.length (by omega) (by omega)]

theorem chars_cons (c : UInt8) (s : Str) :
    chars (c :: s) = (decodeRune (c :: s)).1 :: chars (decodeRune (c :: s)).2 := by
  have hshorter := (decodeRune_marks c s).2
  rw [List.length_cons] at hshorter
  rw [chars, List.length_cons, charsUpTo, if_neg (List.cons_ne_nil c s), charsUpTo_length (by omega)]

theorem decodeRune_ascii (hc : c < 128) (s : Str) : decodeRune (c :: s) = ([c], s) := by
  unfold decodeRune
  rw [runeLen_pos hc, if_neg Nat.one_ne_zero]
  rfl

theorem isCont_lt {lo up : UInt8} {i : Nat} (h : isCont lo up t i = true) : i < t.length := by
  unfold isCont at h
  split at h
  · next hget => exact (List.getElem?_eq_some_iff.mp hget).1
  · cases h

theorem isCont_append {lo up : UInt8} {i : Nat} (hlo : 128 ≤ lo) (hc : c < 128) (hi : i ≤ t.length) :
    isCont lo up (t ++ c :: s) i = isCont lo up t i := by
  unfold isCont
  rcases hi.lt_or_eq with hlt | rfl
  · rw [List.getElem?_append_left hlt]
  · rw [List.getElem?_append_right le_rfl, Nat.sub_self, List.getElem?_cons_zero, List.getElem?_eq_none le_rfl]
    dsimp only
    have hbelow : ¬lo ≤ c := UInt8.not_le.mpr (UInt8.lt_of_lt_of_le hc hlo)
    rw [decide_eq_false hbelow, Bool.false_and]

/-- The character at the front of a text is part of the text. -/
theorem runeLen_le (ht : t ≠ []) : runeLen t ≤ t.length := by
  obtain ⟨d, rest, rfl⟩ := List.exists_cons_of_ne_nil ht
  have hlength : (d :: rest).length = rest.length + 1 := List.length_cons
  unfold runeLen
  rw [List.head?_cons]
  dsimp only
  generalize (if d = 0xE0 then (160 : UInt8) else 128) = lo
  generalize (if d = 0xED then (159 : UInt8) else 191) = up
  generalize (if d = 0xF0 then (144 : UInt8) else 128) = lo'
  generalize (if d = 0xF4 then (143 : UInt8) else 191) = up'
  split_ifs with hascii htwo hcont hthree hcont hfour hcont
  · omega
  · exact isCont_lt hcont
  · exact Nat.zero_le _
  · exact isCont_lt (Bool.and_eq_true_iff.mp hcont).2
  · exact Nat.zero_le _
  · exact isCont_lt (Bool.and_eq_true_iff.mp hcont).2
  · exact Nat.zero_le _
  · exact Nat.zero_le _

/-- What follows the byte at `i` counts only where there is one. -/
theorem isCont_and_append {lo up : UInt8} {i : Nat} {x y : Bool} (hc : c < 128) (hlo : 128 ≤ lo) (hi : i ≤ t.length)
    (hxy : i < t.length → x = y) : (isCont lo up (t ++ c :: s) i && x) = (isCont lo up t i && y) := by
  rw [isCont_append hlo hc hi]
  rcases hcont : isCont lo up t i with _ | _
  · rfl
  · rw [hxy (isCont_lt hcont)]

/-- An ASCII byte behind a text is no part of the character at its front. -/
theorem runeLen_append (hc : c < 128) (ht : t ≠ []) : runeLen (t ++ c :: s) = runeLen t := by
  obtain ⟨d, rest, rfl⟩ := List.exists_cons_of_ne_nil ht
  have hlength : (d :: rest).length = rest.length + 1 := List.length_cons
  have hthreeLo : (128 : UInt8) ≤ if d = 0xE0 then 160 else 128 := by split_ifs <;> decide
  have hfourLo : (128 : UInt8) ≤ if d = 0xF0 then 144 else 128 := by split_ifs <;> decide
  have hone : isCont 128 191 (d :: rest ++ c :: s) 1 = isCont 128 191 (d :: rest) 1 :=
    isCont_append (by decide) hc (by omega)
  have htwo : ∀ {lo up : UInt8}, 128 ≤ lo →
      (isCont lo up (d :: rest ++ c :: s) 1 && isCont 128 191 (d :: rest ++ c :: s) 2) =
        (isCont lo up (d :: rest) 1 && isCont 128 191 (d :: rest) 2) :=
    fun hlo => isCont_and_append hc hlo (by omega) fun h => isCont_append (by decide) hc h
  have hthree : ∀ {lo up : UInt8}, 128 ≤ lo →
      (isCont lo up (d :: rest ++ c :: s) 1 && isCont 128 191 (d :: rest ++ c :: s) 2 &&
        isCont 128 191 (d :: rest ++ c :: s) 3) =
        (isCont lo up (d :: rest) 1 && isCont 128 191 (d :: rest) 2 && isCont 128 191 (d :: rest) 3) := by
    intro lo up hlo
    rw [Bool.and_assoc, Bool.and_assoc]
    refine isCont_and_append hc hlo (by omega) fun h => ?_
    exact isCont_and_append hc (by decide) h fun h => isCont_append (by decide) hc h
  have hhead : (d :: rest ++ c :: s).head? = (d :: rest).head? := rfl
  unfold runeLen
  rw [hhead, List.head?_cons]
  dsimp only
  rw [hone, htwo hthreeLo, hthree hfourLo]

theorem decodeRune_append (hc : c < 128) (ht : t ≠ []) :
    decodeRune (t ++ c :: s) = ((decodeRune t).1, (decodeRune t).2 ++ c :: s) := by
  have hle := runeLen_le ht
  have hlength : 0 < t.length := List.length_pos_iff.mpr ht
  unfold decodeRune
  rw [runeLen_append hc ht]
  split_ifs
  · rw [List.drop_append_of_le_length hlength]
  · rw [List.take_append_of_le_length hle, List.drop_append_of_le_length hle]

/-- **An ASCII byte is a character**, wherever it stands. -/
theorem chars_append (hc : c < 128) (t s : Str) : chars (t ++ c :: s) = chars t ++ [c] :: chars s := by
  induction hn : t.length using Nat.strong_induction_on generalizing t with
  | _ n ih =>
    cases t with
    | nil =>
      rw [List.nil_append, chars_cons, decodeRune_ascii hc]
      rfl
    | cons d rest =>
      have hshorter := (decodeRune_marks d rest).2
      have hrest := ih _ (hn ▸ hshorter) _ rfl
      rw [List.cons_append, chars_cons, chars_cons, ← List.cons_append, decodeRune_append hc (List.cons_ne_nil d rest),
        hrest, List.cons_append]

/-- A character of one ASCII byte is a byte of the text. -/
theorem mem_of_mem_chars (hc : c < 128) (h : [c] ∈ chars s) : c ∈ s := by
  induction hn : s.length using Nat.strong_induction_on generalizing s with
  | _ n ih =>
    cases s with
    | nil => exact absurd h List.not_mem_nil
    | cons d rest =>
      have hshorter := (decodeRune_marks d rest).2
      rw [chars_cons, List.mem_cons] at h
      have hsuffix : (decodeRune (d :: rest)).2 <:+ d :: rest := by
        unfold decodeRune
        split_ifs
        · exact List.drop_suffix _ _
        · exact List.drop_suffix _ _
      rcases h with h | h
      · unfold decodeRune at h
        split_ifs at h
        · cases h
        · exact (List.take_subset _ _) (h ▸ List.mem_singleton_self c)
      · exact hsuffix.subset (ih _ (hn ▸ hshorter) h rfl)

end Characters

/-! ### Regular expressions -/

/-- The bytes that stand for themselves in a regular expression. -/
def isPlain (c : UInt8) : Bool := c < 128 && !(str "\\.+*?()|[]\x7b\x7d^$").contains c

/-- `.`: any character but a line feed. -/
def dot (c : Str) : Bool := c ≠ [10]

/-- The pieces of a regular expression without operators but `.` and `.*`, and `none` for any other. -/
def pieces? : Str → Option (List (Piece Str))
  | [] => some []
  | 46 :: 42 :: p => (pieces? p).map (.many dot :: ·)
  | c :: p =>
      if c = 46 then (pieces? p).map (.one dot :: ·)
      else if isPlain c then (pieces? p).map (.one (· = [c]) :: ·)
      else none

/-- The documented behaviour of `regexp.Compile` and `MatchString` on these expressions. -/
def Documented (re : Str → Option (Str → Bool)) : Prop :=
  ∀ p ps, pieces? p = some ps → ∃ testC, re p = some testC ∧ ∀ s, testC s = true ↔ Found ps (chars s)

/-- The regular expressions of this kind, and no others. -/
def simpleRegexp (p : Str) : Option (Str → Bool) := (pieces? p).map fun ps s => isFound ps (chars s)

theorem documented_simpleRegexp : Documented simpleRegexp := by
  intro p ps hps
  refine ⟨fun s => isFound ps (chars s), ?_, fun s => isFound_iff⟩
  unfold simpleRegexp
  rw [hps]
  rfl

theorem pieces?_gap (p : Str) : pieces? (46 :: 42 :: p) = (pieces? p).map (.many dot :: ·) := rfl

theorem pieces?_dot {p : Str} (hp : p.head? ≠ some 42) : pieces? (46 :: p) = (pieces? p).map (.one dot :: ·) := by
  cases p with
  | nil => rfl
  | cons c rest =>
    have hc : c ≠ 42 := fun h => hp (congrArg some h)
    rw [pieces?]
    · rw [if_pos rfl]
    · rintro _ _ heq
      exact hc (List.cons.inj heq).1

theorem pieces?_plain {c : UInt8} (hc : isPlain c = true) (p : Str) :
    pieces? (c :: p) = (pieces? p).map (.one (· = [c]) :: ·) := by
  have hdot : c ≠ 46 := by
    rintro rfl
    exact absurd hc (by decide)
  rw [pieces?]
  · rw [if_neg hdot, if_pos hc]
  · rintro _ rfl
    exact absurd rfl hdot

end Go
