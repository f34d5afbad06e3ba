import ProxyZ.Go.Bytes

/-!
# A format without operands

`fmt.Sprintf(format)` where no operand follows. Text is copied. A directive is read as far as it goes: flags,
an argument index, a width, a precision, and the verb, and for want of an operand it writes an error text in
its place; `%%` alone writes a percent sign.

The result is the format itself exactly if the format has no percent sign (`sprintf_eq_self_iff`): an error
text begins with `%!`, and a format that had it there already would go on without end.
-/

namespace Go

def isFlag (c : UInt8) : Bool := c = 35 || c = 48 || c = 43 || c = 45 || c = 32

/-- `parsenum`: the number, whether there is one, and what stands behind it. A number that is too large ends
the whole format. -/
def parsenum (num : Nat) (isnum : Bool) : Str → Nat × Bool × Str
  | [] => (num, isnum, [])
  | c :: rest =>
      if isDigit c then
        if 1000000 < num then (0, false, []) else parsenum (num * 10 + (c.toNat - 48)) true rest
      else (num, isnum, c :: rest)

/-- `parseArgNumber` behind the opening bracket: whether it is a number, and what stands behind it. -/
def parseArgNumber (format : Str) : Bool × Str :=
  if format.length < 2 then (false, format)
  else
    match cut [93] format with
    | none => (false, format)
    | some (digits, rest) =>
        let (_, ok, left) := parsenum 0 false digits
        (ok && left = [], rest)

/-- A directive while it is read: what is left of the format, what has been written for it, and whether an
argument index has just been read and all of them were good. -/
structure Scan where
  rest : Str
  out : Str := []
  afterIndex : Bool := false
  goodArgNum : Bool := true

/-- `argNumber`. Without operands no index is good. -/
def argNumber (p : Scan) : Scan :=
  if p.rest.head? = some 91 then
    let (found, rest) := parseArgNumber p.rest.tail
    { p with rest, afterIndex := found, goodArgNum := false }
  else { p with afterIndex := false }

/-- A width that is an operand, for which there is none, or a precision. -/
def missingInt (text : Str) (rest : Str) (p : Scan) : Scan :=
  { p with rest, out := p.out ++ str "%!" ++ text, afterIndex := false }

def width (p : Scan) : Scan :=
  if p.rest.head? = some 42 then missingInt (str "(BADWIDTH)") p.rest.tail p
  else
    let (_, isnum, rest) := parsenum 0 false p.rest
    { p with rest, goodArgNum := p.goodArgNum && !(p.afterIndex && isnum) }

def precision (p : Scan) : Scan :=
  if p.rest.head? = some 46 then
    let p := argNumber { p with rest := p.rest.tail, goodArgNum := p.goodArgNum && !p.afterIndex }
    if p.rest.head? = some 42 then missingInt (str "(BADPREC)") p.rest.tail p
    else { p with rest := (parsenum 0 false p.rest).2.2 }
  else p

/-- A continuation byte of UTF-8, from `lo` to `hi`. -/
def isCont (lo hi : UInt8) (s : Str) (i : Nat) : Bool :=
  match s[i]? with
  | some c => lo ≤ c && c ≤ hi
  | none => false

/-- The length of the rune at the front of a text, 0 where the bytes are none. -/
def runeLen (s : Str) : Nat :=
  match s.head? with
  | none => 0
  | some c =>
      if c < 128 then 1
      else if 0xC2 ≤ c ∧ c ≤ 0xDF then if isCont 128 191 s 1 then 2 else 0
      else if 0xE0 ≤ c ∧ c ≤ 0xEF then
        if isCont (if c = 0xE0 then 160 else 128) (if c = 0xED then 159 else 191) s 1 && isCont 128 191 s 2 then 3
        else 0
      else if 0xF0 ≤ c ∧ c ≤ 0xF4 then
        if isCont (if c = 0xF0 then 144 else 128) (if c = 0xF4 then 143 else 191) s 1 && isCont 128 191 s 2 &&
            isCont 128 191 s 3 then 4
        else 0
      else 0

/-- The verb: the rune at the front of a text as it is written back, and the rest. A byte that is no rune is
written as U+FFFD. -/
def decodeRune (s : Str) : Str × Str :=
  if runeLen s = 0 then ([0xEF, 0xBF, 0xBD], s.drop 1) else (s.take (runeLen s), s.drop (runeLen s))

/-- A directive behind its percent sign, up to its verb. -/
def scanDirective (format : Str) : Scan :=
  let p := precision (width (argNumber { rest := format.dropWhile isFlag }))
  if p.afterIndex then p else argNumber p

/-- What is written for a directive, and the format behind it, if it does not end before the verb. -/
def writeVerb (p : Scan) : Str × Option Str :=
  match p.rest with
  | [] => (p.out ++ str "%!" ++ str "(NOVERB)", none)
  | c :: rest =>
      if c = 37 then (p.out ++ [37], some rest)
      else
        let (verb, rest) := decodeRune (c :: rest)
        (p.out ++ str "%!" ++ (verb ++ if p.goodArgNum then str "(MISSING)" else str "(BADINDEX)"), some rest)

def directive (format : Str) : Str × Option Str := writeVerb (scanDirective format)

/-- `doPrintf` with no operands; every turn takes at least one byte of the format. -/
def doPrintf : Nat → Str → Str
  | 0, _ => []
  | _ + 1, [] => []
  | n + 1, c :: rest =>
      if c = 37 then
        match directive rest with
        | (out, none) => out
        | (out, some rest) => out ++ doPrintf n rest
      else c :: doPrintf n rest

def sprintf (format : Str) : Str := doPrintf format.length format

/-! ### What a directive takes and writes -/

/-- The percent signs and stars of a text. -/
def marks (s : Str) : Nat := s.countP fun c => c = 37 || c = 42

@[simp] theorem marks_append (s t : Str) : marks (s ++ t) = marks s + marks t := List.countP_append

theorem marks_le_of_suffix {s t : Str} (h : s <:+ t) : marks s ≤ marks t := h.sublist.countP_le

/-- An error text has been written, or nothing. -/
def Noted (out : Str) : Prop := out = [] ∨ ∃ t, out = 37 :: 33 :: t

theorem Noted.append {out : Str} (h : Noted out) (t : Str) : Noted (out ++ str "%!" ++ t) := by
  rcases h with rfl | ⟨u, rfl⟩
  · exact Or.inr ⟨t, rfl⟩
  · exact Or.inr ⟨u ++ str "%!" ++ t, rfl⟩

/-- Reading on takes bytes off the front, and writes no more percent signs than it takes percent signs and
stars. -/
structure Advances (p q : Scan) : Prop where
  rest : q.rest <:+ p.rest
  marks : marks q.out + marks q.rest ≤ marks p.out + marks p.rest
  noted : Noted p.out → Noted q.out

theorem Advances.trans {p q r : Scan} (h : Advances p q) (h' : Advances q r) : Advances p r :=
  ⟨h'.rest.trans h.rest, h'.marks.trans h.marks, fun hp => h'.noted (h.noted hp)⟩

theorem Advances.of_suffix {p q : Scan} (hout : q.out = p.out) (hrest : q.rest <:+ p.rest) : Advances p q := by
  refine ⟨hrest, ?_, ?_⟩
  · rw [hout]
    exact Nat.add_le_add_left (marks_le_of_suffix hrest) _
  · intro hp
    rw [hout]
    exact hp

theorem parsenum_suffix (num : Nat) (isnum : Bool) (s : Str) : (parsenum num isnum s).2.2 <:+ s := by
  induction s generalizing num isnum with
  | nil => exact List.suffix_rfl
  | cons c rest ih =>
    unfold parsenum
    split_ifs
    · exact List.nil_suffix
    · exact (ih _ _).trans (List.suffix_cons c rest)
    · exact List.suffix_rfl

theorem parseArgNumber_suffix (format : Str) : (parseArgNumber format).2 <:+ format := by
  unfold parseArgNumber
  split_ifs
  · exact List.suffix_rfl
  · cases hcut : cut [93] format with
    | none => exact List.suffix_rfl
    | some parts =>
      obtain ⟨digits, rest⟩ := parts
      rw [cut_eq_some hcut]
      exact List.suffix_append _ _

theorem argNumber_advances (p : Scan) : Advances p (argNumber p) := by
  unfold argNumber
  split_ifs
  · exact .of_suffix rfl ((parseArgNumber_suffix _).trans (List.tail_suffix _))
  · exact .of_suffix rfl List.suffix_rfl

theorem missingInt_advances {p : Scan} {text : Str} (htext : marks text = 0) (hstar : p.rest.head? = some 42) :
    Advances p (missingInt text p.rest.tail p) := by
  obtain ⟨rest, hrest⟩ := List.head?_eq_some_iff.mp hstar
  have hsign : marks (str "%!") = 1 := by decide
  refine ⟨List.tail_suffix _, ?_, fun hp => hp.append text⟩
  show marks (p.out ++ str "%!" ++ text) + marks p.rest.tail ≤ marks p.out + marks p.rest
  rw [hrest, List.tail_cons, marks_append, marks_append, hsign, htext]
  simp only [marks, List.countP_cons]
  simp
  omega

theorem width_advances (p : Scan) : Advances p (width p) := by
  unfold width
  split_ifs with hstar
  · exact missingInt_advances (by decide) hstar
  · exact .of_suffix rfl (parsenum_suffix 0 false p.rest)

theorem precision_advances (p : Scan) : Advances p (precision p) := by
  unfold precision
  split_ifs with hdot
  · have hdotted : Advances p { p with rest := p.rest.tail, goodArgNum := p.goodArgNum && !p.afterIndex } :=
      .of_suffix rfl (List.tail_suffix p.rest)
    have hindex := hdotted.trans (argNumber_advances _)
    dsimp only
    split_ifs with hstar
    · exact hindex.trans (missingInt_advances (by decide) hstar)
    · exact hindex.trans (.of_suffix rfl (parsenum_suffix 0 false _))
  · exact .of_suffix rfl List.suffix_rfl

theorem runeLen_pos {c : UInt8} (h : c < 128) (rest : Str) : runeLen (c :: rest) = 1 := by
  unfold runeLen
  exact if_pos h

theorem decodeRune_marks (c : UInt8) (rest : Str) :
    marks (decodeRune (c :: rest)).1 + marks (decodeRune (c :: rest)).2 ≤ marks (c :: rest) ∧
      (decodeRune (c :: rest)).2.length < (c :: rest).length := by
  unfold decodeRune
  split_ifs with hlen
  · refine ⟨?_, by simp⟩
    rw [show marks [0xEF, 0xBF, 0xBD] = 0 from by decide, Nat.zero_add]
    exact marks_le_of_suffix (List.drop_suffix _ _)
  · refine ⟨?_, ?_⟩
    · rw [← marks_append, List.take_append_drop]
    · rw [List.length_drop]
      simp only [List.length_cons]
      omega

theorem scanDirective_advances (format : Str) : Advances { rest := format } (scanDirective format) := by
  have hflags : Advances { rest := format } { rest := format.dropWhile isFlag } :=
    .of_suffix rfl (List.dropWhile_suffix _)
  have hprecision := ((hflags.trans (argNumber_advances _)).trans (width_advances _)).trans (precision_advances _)
  unfold scanDirective
  dsimp only
  split_ifs
  · exact hprecision
  · exact hprecision.trans (argNumber_advances _)

/-- **What a directive writes.** An error text for a missing verb; or a percent sign, for another one that is
taken; or an error text for the verb. -/
theorem directive_cases (format : Str) :
    (∃ out, Noted out ∧ directive format = (out ++ str "%!" ++ str "(NOVERB)", none) ∧ marks out ≤ marks format) ∨
    (∃ out rest, Noted out ∧ directive format = (out ++ [37], some rest) ∧ rest.length < format.length ∧
      marks out + 1 + marks rest ≤ marks format) ∨
    ∃ out text rest, Noted out ∧ directive format = (out ++ str "%!" ++ text, some rest) ∧
      rest.length < format.length ∧ marks out + marks text + marks rest ≤ marks format := by
  have hadvances := scanDirective_advances format
  unfold directive writeVerb
  generalize scanDirective format = p at hadvances ⊢
  have hnoted := hadvances.noted (Or.inl rfl)
  have hmarks : marks p.out + marks p.rest ≤ marks format := by simpa [marks] using hadvances.marks
  have hlength : p.rest.length ≤ format.length := hadvances.rest.length_le
  cases hrest : p.rest with
  | nil => exact Or.inl ⟨p.out, hnoted, rfl, by omega⟩
  | cons c rest =>
    rw [hrest] at hmarks hlength
    dsimp only
    by_cases hc : c = 37
    · rw [if_pos hc]
      subst hc
      have hsign : marks (37 :: rest) = 1 + marks rest := marks_append [37] rest
      exact Or.inr (Or.inl ⟨p.out, rest, hnoted, rfl, hlength, by omega⟩)
    · rw [if_neg hc]
      obtain ⟨hverb, hshorter⟩ := decodeRune_marks c rest
      have hnote : marks (if p.goodArgNum = true then str "(MISSING)" else str "(BADINDEX)") = 0 := by
        split_ifs <;> decide
      refine Or.inr (Or.inr ⟨p.out, _, (decodeRune (c :: rest)).2, hnoted, rfl, by omega, ?_⟩)
      rw [marks_append, hnote]
      omega

/-! ### The format as a whole -/

theorem doPrintf_eq_sprintf (n : Nat) : ∀ {format : Str}, format.length ≤ n → doPrintf n format = sprintf format := by
  induction n using Nat.strong_induction_on with
  | _ n ih =>
    intro format hlen
    cases format with
    | nil => cases n <;> rfl
    | cons c rest =>
      cases n with
      | zero => simp at hlen
      | succ n =>
        rw [List.length_cons] at hlen
        unfold sprintf
        rw [List.length_cons]
        unfold doPrintf
        split_ifs with hc
        · obtain ⟨out, -, hdir, -⟩ | ⟨out, rest', -, hdir, hshorter, -⟩ | ⟨out, text, rest', -, hdir, hshorter, -⟩ :=
            directive_cases rest
          · rw [hdir]
          · rw [hdir]
            dsimp only
            rw [ih n (by omega) (by omega), ih rest.length (by omega) (by omega)]
          · rw [hdir]
            dsimp only
            rw [ih n (by omega) (by omega), ih rest.length (by omega) (by omega)]
        · rw [ih n (by omega) (by omega), ih rest.length (by omega) (by omega)]

theorem sprintf_cons_of_ne {c : UInt8} (hc : c ≠ 37) (rest : Str) : sprintf (c :: rest) = c :: sprintf rest := by
  unfold sprintf
  rw [List.length_cons]
  exact if_neg hc

theorem sprintf_append {text : Str} (htext : (37 : UInt8) ∉ text) (rest : Str) :
    sprintf (text ++ rest) = text ++ sprintf rest := by
  induction text with
  | nil => rfl
  | cons c text ih =>
    rw [List.mem_cons, not_or] at htext
    rw [List.cons_append, sprintf_cons_of_ne (Ne.symm htext.1), ih htext.2, List.cons_append]

theorem sprintf_directive_none {format out : Str} (hdir : directive format = (out, none)) :
    sprintf (37 :: format) = out := by
  unfold sprintf
  rw [List.length_cons, doPrintf, if_pos rfl, hdir]

theorem sprintf_directive_some {format out rest : Str} (hdir : directive format = (out, some rest))
    (hlen : rest.length < format.length) : sprintf (37 :: format) = out ++ sprintf rest := by
  rw [← doPrintf_eq_sprintf format.length hlen.le]
  unfold sprintf
  rw [List.length_cons, doPrintf, if_pos rfl, hdir]

/-- Formatting adds no percent signs beyond the percent signs and stars there are. -/
theorem marks_sprintf_le (format : Str) : marks (sprintf format) ≤ marks format := by
  induction hn : format.length using Nat.strong_induction_on generalizing format with
  | _ n ih =>
    have hsign : marks (str "%!") = 1 := by decide
    cases format with
    | nil => exact le_rfl
    | cons c rest =>
      rw [List.length_cons] at hn
      by_cases hc : c = 37
      · subst hc
        have hhead : marks (37 :: rest) = 1 + marks rest := marks_append [37] rest
        obtain ⟨out, -, hdir, hle⟩ | ⟨out, rest', -, hdir, hshorter, hle⟩ |
          ⟨out, text, rest', -, hdir, hshorter, hle⟩ := directive_cases rest
        · have hnoverb : marks (str "(NOVERB)") = 0 := by decide
          rw [sprintf_directive_none hdir, marks_append, marks_append]
          omega
        · have hrest := ih rest'.length (by omega) rest' rfl
          have hone : marks [37] = 1 := rfl
          rw [sprintf_directive_some hdir hshorter, marks_append, marks_append]
          omega
        · have hrest := ih rest'.length (by omega) rest' rfl
          rw [sprintf_directive_some hdir hshorter, marks_append, marks_append, marks_append]
          omega
      · have hrest := ih rest.length (by omega) rest rfl
        have hhead : ∀ t, marks (c :: t) = marks [c] + marks t := fun t => marks_append [c] t
        rw [sprintf_cons_of_ne hc, hhead (sprintf rest), hhead rest]
        omega

/-- No format has its own result behind an error text. -/
theorem ne_missing_append_sprintf (format : Str) : format ≠ str "!(MISSING)" ++ sprintf format := by
  induction hn : format.length using Nat.strong_induction_on generalizing format with
  | _ n ih =>
    intro heq
    have hlen := congrArg List.length heq
    have hten : (str "!(MISSING)").length = 10 := rfl
    rw [List.length_append] at hlen
    apply ih (sprintf format).length (by omega) (sprintf format) rfl
    have hcopy := congrArg sprintf heq
    rw [sprintf_append (by decide)] at hcopy
    exact hcopy

theorem directive_bang (rest : Str) : directive (33 :: rest) = (str "%!" ++ str "!(MISSING)", some rest) := by
  have hdigit : isDigit 33 = false := by decide
  have hflags : (33 :: rest).dropWhile isFlag = 33 :: rest := by
    rw [List.dropWhile_cons_of_neg (by decide)]
  have hindex : argNumber { rest := 33 :: rest } = { rest := 33 :: rest } := by simp [argNumber]
  have hwidth : width { rest := 33 :: rest } = { rest := 33 :: rest } := by simp [width, parsenum, hdigit]
  have hprecision : precision { rest := 33 :: rest } = { rest := 33 :: rest } := by simp [precision]
  have hrune : decodeRune (33 :: rest) = ([33], rest) := by
    unfold decodeRune
    rw [runeLen_pos (by decide), if_neg (by decide)]
    rfl
  have hscan : scanDirective (33 :: rest) = { rest := 33 :: rest } := by
    unfold scanDirective
    rw [hflags, hindex, hwidth, hprecision]
    exact hindex
  unfold directive writeVerb
  rw [hscan]
  dsimp only
  rw [if_neg (by decide), hrune]
  rfl

/-- A directive is never written as it stands. -/
theorem sprintf_percent_ne (format : Str) : sprintf (37 :: format) ≠ 37 :: format := by
  -- an error text is only there already if the format goes on with one, and that one is then written again
  have hbang : ∀ rest, sprintf (37 :: 33 :: rest) ≠ 37 :: 33 :: rest := by
    intro rest heq
    rw [sprintf_directive_some (directive_bang rest) (Nat.lt_succ_self _), List.append_assoc] at heq
    have htail : str "%!" ++ (str "!(MISSING)" ++ sprintf rest) = str "%!" ++ rest := heq
    exact ne_missing_append_sprintf rest (List.append_cancel_left htail).symm
  have hnote : ∀ out t u, Noted out → sprintf (37 :: format) = out ++ str "%!" ++ t ++ u →
      sprintf (37 :: format) ≠ 37 :: format := by
    intro out t u hnoted hout heq
    obtain hnil | ⟨v, hv⟩ := hnoted.append t
    · simp [str] at hnil
    · rw [heq, hv] at hout
      obtain rfl : format = 33 :: (v ++ u) := (List.cons.inj hout).2
      exact hbang _ heq
  obtain ⟨out, hnoted, hdir, -⟩ | ⟨out, rest, hnoted, hdir, hshorter, hmarks⟩ |
    ⟨out, text, rest, hnoted, hdir, hshorter, -⟩ := directive_cases format
  · apply hnote out (str "(NOVERB)") [] hnoted
    rw [sprintf_directive_none hdir, List.append_nil]
  · intro heq
    have hfull := sprintf_directive_some hdir hshorter
    have hcount := congrArg marks (hfull.symm.trans heq)
    have hrest := marks_sprintf_le rest
    have hsign : marks (37 :: format) = 1 + marks format := marks_append [37] format
    have hone : marks [37] = 1 := rfl
    rw [marks_append, marks_append] at hcount
    omega
  · exact hnote out text (sprintf rest) hnoted (sprintf_directive_some hdir hshorter)

/-- **A format without operands is written as it stands exactly if it has no percent sign.** -/
theorem sprintf_eq_self_iff (format : Str) : sprintf format = format ↔ (37 : UInt8) ∉ format := by
  constructor
  · intro heq hmem
    obtain ⟨text, rest, rfl, htext⟩ := List.eq_append_cons_of_mem hmem
    rw [sprintf_append htext] at heq
    exact sprintf_percent_ne rest (List.append_cancel_left heq)
  · intro hno
    have happ := sprintf_append hno []
    rw [List.append_nil] at happ
    exact happ.trans (List.append_nil format)

example : sprintf (str "\"50%\"") = str "\"50%!\"(MISSING)" := by decide

example : sprintf (str "%d %[1]x %*.3f 100%%") = str "%!d(MISSING) %!x(BADINDEX) %!(BADWIDTH)%!f(MISSING) 100%" := by decide

end Go
