import Mathlib.Algebra.Order.Field.Rat
import Mathlib.Tactic.FieldSimp
import Mathlib.Tactic.Ring
import ProxyZ.Go.Text

/-!
# Durations as text

`time.Duration.String`, and `strconv.ParseFloat` of decimal numbers. A duration below a second is a decimal number
and `ns`, `µs` or `ms`; a longer one is hours, minutes and a decimal number of seconds. The decimal numbers are read
back exactly (`parseFloat_decimal`).
-/

namespace Go

/-- A decimal digit. -/
def digit (d : Nat) : UInt8 := UInt8.ofNat (48 + d)

/-- The loop of `fmtFrac`: whether a digit has been written, the text and what is left of the number. -/
def fmtFracLoop : Nat → Bool → Str → Nat → Bool × Str × Nat
  | 0, written, buf, v => (written, buf, v)
  | prec + 1, written, buf, v =>
      let written := written || v % 10 ≠ 0
      fmtFracLoop prec written (if written then digit (v % 10) :: buf else buf) (v / 10)

/-- `fmtFrac`: the fraction of `v / 10 ^ prec` in front of the text, without zeros at its end, and the whole part. -/
def fmtFrac (buf : Str) (v prec : Nat) : Str × Nat :=
  let (written, buf, v) := fmtFracLoop prec false buf v
  (if written then 46 :: buf else buf, v)

/-- A number with a fraction, in front of the text. -/
def fmtDecimal (buf : Str) (v prec : Nat) : Str := itoa (fmtFrac buf v prec).2 ++ (fmtFrac buf v prec).1

/-- `d.String()` of a duration in nanoseconds. -/
def durationString (d : Int) : Str :=
  let u := d.natAbs
  let text :=
    if u < 1000000000 then
      if u = 0 then str "0s"
      else if u < 1000 then fmtDecimal (str "ns") u 0
      else if u < 1000000 then fmtDecimal [0xC2, 0xB5, 115] u 3
      else fmtDecimal (str "ms") u 6
    else
      let (buf, u) := fmtFrac (str "s") u 9
      let buf := itoa (u % 60) ++ buf
      if 0 < u / 60 then
        let buf := itoa (u / 60 % 60) ++ str "m" ++ buf
        if 0 < u / 60 / 60 then itoa (u / 60 / 60) ++ str "h" ++ buf else buf
      else buf
  if d < 0 then str "-" ++ text else text

/-- The exponent of a decimal number. -/
def exponent? : Str → Option Int
  | [] => some 0
  | c :: rest =>
      if c = 101 ∨ c = 69 then
        let (neg, ds) : Bool × Str := match rest with
          | 45 :: ds => (true, ds)
          | 43 :: ds => (false, ds)
          | ds => (false, ds)
        if ds ≠ [] ∧ ds.all isDigit then some (if neg then -(decimal ds : Int) else decimal ds) else none
      else none

/-- The number `mant * 10 ^ exp`. -/
def scale (mant : Nat) (exp : Int) : ℚ := if exp < 0 then mant / 10 ^ exp.natAbs else mant * 10 ^ exp.natAbs

/-- `strconv.ParseFloat` of a decimal number, as the exact rational; `none` is an error. What Go also reads
(hexadecimal numbers, infinities, and a value that is no number) is never the text of a duration. -/
def parseFloat (s : Str) : Option ℚ :=
  let (neg, s) : Bool × Str := match s with
    | 45 :: s => (true, s)
    | 43 :: s => (false, s)
    | s => (false, s)
  let int := s.takeWhile isDigit
  let rest := s.dropWhile isDigit
  let frac := if rest.head? = some 46 then rest.tail.takeWhile isDigit else []
  let rest := if rest.head? = some 46 then rest.tail.dropWhile isDigit else rest
  if int ++ frac = [] then none
  else
    (exponent? rest).map fun e =>
      if neg then -scale (decimal (int ++ frac)) (e - frac.length) else scale (decimal (int ++ frac)) (e - frac.length)

example : durationString 1500000 = str "1.5ms" := by decide
example : durationString 3725000000000 = str "1h2m5s" := by decide
example : parseFloat (str "1.5") = some (3 / 2) := by decide +kernel
example : parseFloat (str "1m2") = none := by decide

section Duration

variable {ds es s : Str} {c : UInt8}

theorem decimal_append (ds es : Str) : decimal (ds ++ es) = decimal ds * 10 ^ es.length + decimal es := by
  induction es using List.reverseRecOn with
  | nil => simp [decimal]
  | append_singleton es c ih =>
    rw [← List.append_assoc, decimal_concat, ih, decimal_concat, List.length_append, List.length_singleton, pow_succ]
    ring

theorem isDigit_digit {d : Nat} (h : d < 10) : isDigit (digit d) = true ∧ (digit d).toNat - 48 = d := by
  have hall : ∀ d < 10, isDigit (digit d) = true ∧ (digit d).toNat - 48 = d := by decide
  exact hall d h

/-- What the loop has written: digits that spell what it has taken off the number. -/
theorem fmtFracLoop_spec (prec : Nat) {written : Bool} {buf : Str} {v : Nat} :
    ∃ ds, ds.all isDigit ∧ fmtFracLoop prec written buf v = (written || ds ≠ [], ds ++ buf, v / 10 ^ prec) ∧
      (written = true → ds.length = prec) ∧ decimal ds * 10 ^ prec = v % 10 ^ prec * 10 ^ ds.length := by
  induction prec generalizing written buf v with
  | zero => exact ⟨[], rfl, by simp [fmtFracLoop], fun _ => rfl, by simp [decimal, Nat.mod_one]⟩
  | succ prec ih =>
    have hdiv : v / 10 / 10 ^ prec = v / 10 ^ (prec + 1) := by rw [Nat.div_div_eq_div_mul, pow_succ, Nat.mul_comm]
    have hmod : v % 10 ^ (prec + 1) = v / 10 % 10 ^ prec * 10 + v % 10 := by
      rw [pow_succ, Nat.mul_comm (10 ^ prec) 10, Nat.mod_mul]
      ring
    obtain ⟨hdigit, hvalue⟩ := isDigit_digit (Nat.mod_lt v (show 0 < 10 by decide))
    rw [fmtFracLoop]
    by_cases hw : (written || decide (v % 10 ≠ 0)) = true
    · obtain ⟨ds, hall, hloop, hlen, hspell⟩ := @ih true (digit (v % 10) :: buf) (v / 10)
      refine ⟨ds ++ [digit (v % 10)], ?_, ?_, fun _ => ?_, ?_⟩
      · rw [List.all_append, hall, List.all_cons, hdigit]
        rfl
      · rw [hw, if_pos rfl, hloop, hdiv]
        simp
      · rw [List.length_append, hlen rfl]
        rfl
      · have hlen := hlen rfl
        rw [hlen] at hspell
        have hspell := Nat.eq_of_mul_eq_mul_right (Nat.pow_pos (by decide)) hspell
        rw [decimal_concat, hvalue, hspell, List.length_append, List.length_singleton, hlen, hmod]
    · rw [Bool.not_eq_true, Bool.or_eq_false_iff, decide_eq_false_iff_not, not_not] at hw
      obtain ⟨ds, hall, hloop, -, hspell⟩ := @ih false buf (v / 10)
      refine ⟨ds, hall, ?_, fun h => ?_, ?_⟩
      · rw [hw.1, hw.2]
        simp only [ne_eq, not_true, decide_false, Bool.or_false, Bool.false_eq_true, if_false]
        rw [hloop, hdiv]
      · rw [hw.1] at h
        cases h
      · rw [hmod, hw.2, Nat.add_zero, pow_succ, ← Nat.mul_assoc, hspell]
        ring

/-- A fraction with its point. -/
def point (ds : Str) : Str := if ds = [] then [] else 46 :: ds

theorem fmtFrac_spec (buf : Str) (v prec : Nat) : ∃ ds, ds.all isDigit ∧
    fmtFrac buf v prec = (point ds ++ buf, v / 10 ^ prec) ∧
      decimal ds * 10 ^ prec = v % 10 ^ prec * 10 ^ ds.length := by
  obtain ⟨ds, hall, hloop, -, hspell⟩ := @fmtFracLoop_spec prec false buf v
  refine ⟨ds, hall, ?_, hspell⟩
  rw [fmtFrac, hloop]
  by_cases hds : ds = []
  · simp [hds, point]
  · simp [hds, point]

/-- Digits end where something else stands. -/
theorem digits_append (hds : ds.all isDigit) (hs : ∀ c ∈ s.head?, isDigit c = false) :
    (ds ++ s).takeWhile isDigit = ds ∧ (ds ++ s).dropWhile isDigit = s := by
  rw [List.takeWhile_append_of_pos (List.all_eq_true.mp hds), List.dropWhile_append_of_pos (List.all_eq_true.mp hds)]
  cases s with
  | nil => exact ⟨List.append_nil _, rfl⟩
  | cons c s =>
    have hc := hs c rfl
    rw [List.takeWhile_cons_of_neg (by rw [hc]; exact Bool.false_ne_true),
      List.dropWhile_cons_of_neg (by rw [hc]; exact Bool.false_ne_true), List.append_nil]
    exact ⟨rfl, rfl⟩

/-- What is read of digits, a fraction and a text behind them that cannot go on with either. -/
theorem parseFloat_parts (hne : ds ≠ []) (hds : ds.all isDigit) (hes : es.all isDigit)
    (hs : ∀ c ∈ s.head?, isDigit c = false ∧ c ≠ 46) :
    parseFloat (ds ++ (point es ++ s)) =
      (exponent? s).map fun e => scale (decimal (ds ++ es)) (e - es.length) := by
  have hbehind : ∀ c ∈ (point es ++ s).head?, isDigit c = false := by
    unfold point
    split_ifs
    · exact fun c hc => (hs c hc).1
    · exact fun c hc => Option.some.inj hc ▸ rfl
  obtain ⟨hint, hrest⟩ := digits_append hds hbehind
  obtain ⟨hfrac, hend⟩ := digits_append hes fun c hc => (hs c hc).1
  obtain ⟨d, t, rfl⟩ := List.exists_cons_of_ne_nil hne
  have hd : isDigit d = true := List.all_eq_true.mp hds d List.mem_cons_self
  have hplus : d ≠ 43 := fun h => absurd (h ▸ hd) (by decide)
  have hminus : d ≠ 45 := fun h => absurd (h ▸ hd) (by decide)
  have hpoint : (if (point es ++ s).head? = some 46 then (point es ++ s).tail.takeWhile isDigit else []) = es ∧
      (if (point es ++ s).head? = some 46 then (point es ++ s).tail.dropWhile isDigit else point es ++ s) = s := by
    unfold point
    by_cases hnil : es = []
    · have hno : s.head? ≠ some 46 := fun h => (hs 46 h).2 rfl
      rw [if_pos hnil, List.nil_append, if_neg hno, if_neg hno]
      exact ⟨hnil.symm, rfl⟩
    · rw [if_neg hnil, List.cons_append, List.head?_cons, if_pos rfl, if_pos rfl, List.tail_cons]
      exact ⟨hfrac, hend⟩
  unfold parseFloat
  split
  next neg text hsign =>
    split at hsign
    · next h => exact absurd (List.cons.inj h).1 hminus
    · next h => exact absurd (List.cons.inj h).1 hplus
    · cases hsign
      dsimp only
      rw [hint, hrest, hpoint.1, hpoint.2, if_neg (by simp)]
      rfl

/-- **A decimal number is read back.** -/
theorem parseFloat_decimal {v prec : Nat} (hds : ds.all isDigit)
    (hspell : decimal ds * 10 ^ prec = v % 10 ^ prec * 10 ^ ds.length) :
    parseFloat (itoa (v / 10 ^ prec) ++ point ds) = some ((v : ℚ) / 10 ^ prec) := by
  rw [← List.append_nil (point ds),
    parseFloat_parts (itoa_ne_nil _) (all_isDigit_itoa _) hds (fun _ h => by cases h), decimal_append, decimal_itoa]
  rw [exponent?, Option.map_some, Option.some.injEq]
  have hscale : ∀ mant len : Nat, scale mant (0 - len) = (mant : ℚ) / 10 ^ len := by
    intro mant len
    unfold scale
    by_cases hlen : len = 0
    · simp [hlen]
    · rw [if_pos (by omega), Int.zero_sub, Int.natAbs_neg, Int.natAbs_natCast]
  have hten : ∀ k : Nat, (10 : ℚ) ^ k ≠ 0 := fun k => pow_ne_zero k (OfNat.ofNat_ne_zero 10)
  rw [hscale, div_eq_div_iff (hten _) (hten _)]
  have hcast : ((v / 10 ^ prec * 10 ^ ds.length + decimal ds) * 10 ^ prec : Nat) = v * 10 ^ ds.length := by
    rw [Nat.add_mul, hspell]
    calc v / 10 ^ prec * 10 ^ ds.length * 10 ^ prec + v % 10 ^ prec * 10 ^ ds.length
        = (10 ^ prec * (v / 10 ^ prec) + v % 10 ^ prec) * 10 ^ ds.length := by ring
      _ = v * 10 ^ ds.length := by rw [Nat.div_add_mod]
  exact_mod_cast hcast

/-- A number with something behind it that is no exponent is not read. -/
theorem parseFloat_behind (n : Nat) (hes : es.all isDigit)
    (hc : isDigit c = false ∧ c ≠ 46 ∧ c ≠ 101 ∧ c ≠ 69) (s : Str) :
    parseFloat (itoa n ++ (point es ++ c :: s)) = none := by
  have hbehind : ∀ d ∈ (c :: s).head?, isDigit d = false ∧ d ≠ 46 := by
    intro d hd
    cases hd
    exact ⟨hc.1, hc.2.1⟩
  have hnone : exponent? (c :: s) = none := if_neg (not_or.mpr hc.2.2)
  rw [parseFloat_parts (itoa_ne_nil n) (all_isDigit_itoa n) hes hbehind, hnone]
  rfl

/-! ### The units -/

/-- The text of a second or more. -/
theorem durationString_seconds {d : Int} {u : Nat} (hd : 1000000000 ≤ d) (hu : u = d.natAbs / 10 ^ 9) :
    durationString d =
      (if 0 < u / 60 then
        (if 0 < u / 60 / 60 then itoa (u / 60 / 60) ++ str "h" else []) ++ (itoa (u / 60 % 60) ++ str "m")
        else []) ++ (itoa (u % 60) ++ (fmtFrac (str "s") d.natAbs 9).1) := by
  obtain ⟨ds, -, hfrac, -⟩ := fmtFrac_spec (str "s") d.natAbs 9
  unfold durationString
  dsimp only
  rw [hfrac, ← hu, if_neg (show ¬d.natAbs < 1000000000 by omega), if_neg (show ¬d < 0 by omega)]
  dsimp only
  split_ifs
  · simp only [List.append_assoc]
  · simp only [List.append_assoc, List.nil_append]
  · rfl

end Duration

end Go
