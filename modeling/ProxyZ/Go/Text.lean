import ProxyZ.Go.Net

/-!
# Text made of parts

Texts that a program has put together from parts, or that come to it that way: parts with a separator between
them (`split_intercalate`), a word with blanks around it (`trim_padded`), a number in decimal digits
(`atoi?_digits`, `atoi?_itoa`).
-/

namespace Go

/-! ### Separators -/

theorem contains_singleton {c : UInt8} {s : Str} : contains s [c] = true ↔ c ∈ s := by
  rw [contains_iff, List.singleton_infix_iff]

/-- A part has no separator in it, and is a part of the text. -/
theorem mem_split {c : UInt8} {s p : Str} (hp : p ∈ split [c] s) : c ∉ p ∧ p <:+: s := by
  induction hlen : s.length using Nat.strong_induction_on generalizing s with
  | _ n ih =>
    by_cases hc : c ∈ s
    · obtain ⟨a, b, rfl, ha⟩ := List.eq_append_cons_of_mem hc
      rw [split_singleton b ha] at hp
      rcases List.mem_cons.mp hp with rfl | hp
      · exact ⟨ha, (List.prefix_append _ _).isInfix⟩
      · have hlt : b.length < n := by
          rw [← hlen, List.length_append, List.length_cons]
          omega
        obtain ⟨hsep, hinfix⟩ := ih b.length hlt hp rfl
        exact ⟨hsep, hinfix.trans ((List.suffix_cons c b).trans (List.suffix_append a _)).isInfix⟩
    · rw [split_singleton_none hc, List.mem_singleton] at hp
      rw [hp]
      exact ⟨hc, List.infix_rfl⟩

/-- A byte that does not separate is in one of the parts. -/
theorem exists_mem_split {c d : UInt8} (hne : d ≠ c) {s : Str} (hd : d ∈ s) : ∃ p ∈ split [c] s, d ∈ p := by
  induction hlen : s.length using Nat.strong_induction_on generalizing s with
  | _ n ih =>
    by_cases hc : c ∈ s
    · obtain ⟨a, b, rfl, ha⟩ := List.eq_append_cons_of_mem hc
      rw [split_singleton b ha]
      rcases List.mem_append.mp hd with hmem | hmem
      · exact ⟨a, List.mem_cons_self, hmem⟩
      · have hb : d ∈ b := (List.mem_cons.mp hmem).resolve_left hne
        obtain ⟨p, hp, hdp⟩ := ih b.length (by simp at hlen; omega) hb rfl
        exact ⟨p, List.mem_cons_of_mem a hp, hdp⟩
    · exact ⟨s, by rw [split_singleton_none hc]; exact List.mem_singleton_self s, hd⟩

theorem cut_singleton_eq_some_iff {c : UInt8} {s a b : Str} : cut [c] s = some (a, b) ↔ s = a ++ c :: b ∧ c ∉ a := by
  constructor
  · intro h
    by_cases hc : c ∈ s
    · obtain ⟨a', b', rfl, ha'⟩ := List.eq_append_cons_of_mem hc
      rw [cut_singleton b' ha'] at h
      cases h
      exact ⟨rfl, ha'⟩
    · rw [cut_singleton_none hc] at h
      cases h
  · rintro ⟨rfl, ha⟩
    exact cut_singleton b ha

/-- Two parts, of which the second may have the separator. -/
theorem splitN_eq_pair_iff {c : UInt8} {s a b : Str} : splitN [c] s 2 = [a, b] ↔ s = a ++ c :: b ∧ c ∉ a := by
  rw [← cut_singleton_eq_some_iff]
  show splitUpTo [c] 1 s = [a, b] ↔ _
  unfold splitUpTo
  rcases cut [c] s with _ | ⟨a', b'⟩
  · simp
  · show [a', b'] = [a, b] ↔ _
    simp

/-- Two parts, and no separator in them. -/
theorem split_eq_pair_iff {c : UInt8} {s a b : Str} : split [c] s = [a, b] ↔ s = a ++ c :: b ∧ c ∉ a ∧ c ∉ b := by
  constructor
  · intro h
    have hparts : ∀ p ∈ [a, b], c ∉ p := fun p hp => (mem_split (h ▸ hp)).1
    by_cases hc : c ∈ s
    · obtain ⟨a', b', rfl, ha'⟩ := List.eq_append_cons_of_mem hc
      rw [split_singleton b' ha'] at h
      obtain ⟨rfl, hrest⟩ := List.cons.inj h
      by_cases hb' : c ∈ b'
      · obtain ⟨a'', b'', rfl, ha''⟩ := List.eq_append_cons_of_mem hb'
        obtain ⟨x, rest, hx⟩ := exists_split [c] b''
        rw [split_singleton b'' ha'', hx] at hrest
        cases hrest
      · rw [split_singleton_none hb'] at hrest
        cases hrest
        exact ⟨rfl, ha', hb'⟩
    · rw [split_singleton_none hc] at h
      cases h
  · rintro ⟨rfl, ha, hb⟩
    rw [split_singleton b ha, split_singleton_none hb]

/-- Splitting at the separator gives the parts back. -/
theorem split_intercalate {c : UInt8} {parts : List Str} (hne : parts ≠ []) (hparts : ∀ a ∈ parts, c ∉ a) :
    split [c] ([c].intercalate parts) = parts := by
  induction parts with
  | nil => exact absurd rfl hne
  | cons a rest ih =>
    have ha := hparts a List.mem_cons_self
    cases rest with
    | nil => rw [List.intercalate_singleton, split_singleton_none ha]
    | cons b rest =>
      rw [List.intercalate_cons_cons, List.append_assoc, List.singleton_append, split_singleton _ ha,
        ih (List.cons_ne_nil b rest) fun x hx => hparts x (List.mem_cons_of_mem a hx)]

theorem forall_mem_intercalate {α : Type} {p : α → Prop} {sep : List α} {parts : List (List α)} (hsep : ∀ x ∈ sep, p x)
    (hparts : ∀ a ∈ parts, ∀ x ∈ a, p x) : ∀ x ∈ sep.intercalate parts, p x := by
  induction parts with
  | nil => exact nofun
  | cons a rest ih =>
    cases rest with
    | nil =>
      rw [List.intercalate_singleton]
      exact hparts a List.mem_cons_self
    | cons b rest =>
      rw [List.intercalate_cons_cons]
      refine List.forall_mem_append.mpr ⟨List.forall_mem_append.mpr ⟨hparts a List.mem_cons_self, hsep⟩, ih ?_⟩
      exact fun x hx => hparts x (List.mem_cons_of_mem a hx)

/-- The bytes of the joined text, but for the separators. -/
theorem mem_intercalate_of_ne {c d : UInt8} (hd : d ≠ c) {parts : List Str} :
    d ∈ [c].intercalate parts ↔ ∃ a ∈ parts, d ∈ a := by
  induction parts with
  | nil => simp [List.intercalate]
  | cons a rest ih =>
    cases rest with
    | nil => simp
    | cons b rest =>
      rw [List.intercalate_cons_cons, List.mem_append, List.mem_append, List.mem_singleton, or_iff_left hd, ih]
      simp

/-- Replacing a byte goes byte by byte. -/
theorem replaceAll_singleton (c : UInt8) (new s : Str) :
    replaceAll s [c] new = s.flatMap fun d => if d = c then new else [d] := by
  have hkeep : ∀ {a : Str}, c ∉ a → (a.flatMap fun d => if d = c then new else [d]) = a := by
    intro a ha
    rw [List.flatMap_congr fun d hd => if_neg (ne_of_mem_of_not_mem hd ha), List.flatMap_singleton']
  have hupTo : ∀ n s, s.length ≤ n → replaceUpTo [c] new n s = s.flatMap fun d => if d = c then new else [d] := by
    intro n
    induction n with
    | zero =>
      intro s hs
      rw [List.eq_nil_of_length_eq_zero (Nat.le_zero.mp hs)]
      rfl
    | succ n ih =>
      intro s hs
      rw [replaceUpTo]
      by_cases hmem : c ∈ s
      · obtain ⟨a, b, rfl, ha⟩ := List.eq_append_cons_of_mem hmem
        rw [List.length_append, List.length_cons] at hs
        rw [cut_singleton b ha]
        dsimp only
        rw [ih b (by omega), List.flatMap_append, List.flatMap_cons, hkeep ha, if_pos rfl, List.append_assoc]
      · rw [cut_singleton_none hmem, hkeep hmem]
  exact hupTo _ s le_rfl

/-- A separator is found behind a part that does not hold its first byte. -/
theorem cut_cons_of_notMem {c : UInt8} {a : Str} (sep b : Str) (ha : c ∉ a) :
    cut (c :: sep) (a ++ (c :: sep ++ b)) = some (a, b) := by
  induction a with
  | nil => exact cut_append_self (List.cons_ne_nil c sep) b
  | cons d t ih =>
    rw [List.mem_cons, not_or] at ha
    rw [List.cons_append, cut, hasPrefix_cons_ne _ _ (Ne.symm ha.1), if_neg Bool.false_ne_true, ih ha.2]
    rfl

/-- What is replaced at the end alone. -/
theorem replaceAll_end {c : UInt8} {a : Str} (old new : Str) (ha : c ∉ a) :
    replaceAll (a ++ c :: old) (c :: old) new = a ++ new := by
  obtain ⟨n, hn⟩ : ∃ n, (a ++ c :: old).length = n + 1 := ⟨a.length + old.length, by simp; omega⟩
  have hcut := cut_cons_of_notMem old [] ha
  rw [List.append_nil] at hcut
  have hnil : replaceUpTo (c :: old) new n [] = [] := by
    cases n with
    | zero => rfl
    | succ n => rfl
  rw [replaceAll, hn, replaceUpTo, hcut]
  dsimp only
  rw [hnil, List.append_nil]

/-- Two parts have a separator between them. -/
theorem mem_intercalate_self {c : UInt8} (a b : Str) (rest : List Str) : c ∈ [c].intercalate (a :: b :: rest) := by
  rw [List.intercalate_cons_cons]
  exact List.mem_append_left _ (List.mem_append_right _ (List.mem_singleton_self c))

theorem intercalate_ne_nil {sep a : Str} (ha : a ≠ []) (rest : List Str) : sep.intercalate (a :: rest) ≠ [] := by
  cases rest with
  | nil =>
    rw [List.intercalate_singleton]
    exact ha
  | cons b rest =>
    rw [List.intercalate_cons_cons, List.append_assoc]
    exact List.append_ne_nil_of_left_ne_nil ha _

/-- The text begins as its first part does and ends as its last one. -/
theorem head_intercalate {sep : Str} {parts : List Str} (hparts : ∀ a ∈ parts, a ≠ []) {c : UInt8}
    (hc : c ∈ (sep.intercalate parts).head?) : ∃ a ∈ parts, c ∈ a.head? := by
  cases parts with
  | nil => cases hc
  | cons a rest =>
    refine ⟨a, List.mem_cons_self, ?_⟩
    cases rest with
    | nil => rwa [List.intercalate_singleton] at hc
    | cons b rest =>
      rwa [List.intercalate_cons_cons, List.append_assoc,
        List.head?_append_of_ne_nil _ (hparts a List.mem_cons_self)] at hc

theorem last_intercalate {sep : Str} {parts : List Str} (hparts : ∀ a ∈ parts, a ≠ []) {c : UInt8}
    (hc : c ∈ (sep.intercalate parts).getLast?) : ∃ a ∈ parts, c ∈ a.getLast? := by
  induction parts with
  | nil => cases hc
  | cons a rest ih =>
    cases rest with
    | nil =>
      rw [List.intercalate_singleton] at hc
      exact ⟨a, List.mem_cons_self, hc⟩
    | cons b rest =>
      have htail : ∀ x ∈ b :: rest, x ≠ [] := fun x hx => hparts x (List.mem_cons_of_mem a hx)
      have hne : sep.intercalate (b :: rest) ≠ [] := intercalate_ne_nil (htail b List.mem_cons_self) rest
      rw [List.intercalate_cons_cons, List.getLast?_append_of_ne_nil _ hne] at hc
      obtain ⟨x, hx, hcx⟩ := ih htail hc
      exact ⟨x, List.mem_cons_of_mem a hx, hcx⟩

/-- Ending each part with the separator puts one between them and one behind them. -/
theorem flatMap_terminated (c : UInt8) (a : Str) (rest : List Str) :
    (a :: rest).flatMap (· ++ [c]) = [c].intercalate (a :: rest) ++ [c] := by
  induction rest generalizing a with
  | nil => rw [List.intercalate_singleton, List.flatMap_singleton]
  | cons b rest ih =>
    rw [List.flatMap_cons, ih b, List.intercalate_cons_cons, List.append_assoc (a ++ [c])]

/-- What ends with `c` does not reach into a text without it. -/
theorem infix_append_iff_of_notMem {w a b : Str} {c : UInt8} (hc : c ∉ b) :
    w ++ [c] <:+: a ++ b ↔ w ++ [c] <:+: a := by
  constructor
  · rintro ⟨s, t, heq⟩
    rcases List.append_eq_append_iff.mp heq with ⟨more, ha, -⟩ | ⟨extra, hleft, hb⟩
    · exact ⟨s, more, ha.symm⟩
    · rcases List.eq_nil_or_concat extra with rfl | ⟨extra, d, rfl⟩
      · rw [List.append_nil] at hleft
        exact ⟨s, [], by rw [List.append_nil]; exact hleft⟩
      · rw [List.concat_eq_append, ← List.append_assoc, ← List.append_assoc] at hleft
        have hlast := (List.append_inj' hleft rfl).2
        cases hlast
        exact absurd (by rw [hb]; simp) hc
  · exact fun h => h.trans (List.prefix_append a b).isInfix

/-! ### Blanks -/

theorem dropWhile_padding {before word : Str} (hbefore : ∀ c ∈ before, isSpace c = true)
    (hword : ∀ c ∈ word.head?, isSpace c = false) : (before ++ word).dropWhile isSpace = word := by
  rw [List.dropWhile_append_of_pos hbefore]
  cases word with
  | nil => rfl
  | cons c rest =>
    exact List.dropWhile_cons_of_neg (by rw [hword c rfl]; exact Bool.false_ne_true)

/-- The blanks around a word go. -/
theorem trim_padded (before : Str) {word : Str} (after : Str) (hne : word ≠ []) (hbefore : ∀ c ∈ before, isSpace c = true)
    (hafter : ∀ c ∈ after, isSpace c = true) (hhead : ∀ c ∈ word.head?, isSpace c = false)
    (hlast : ∀ c ∈ word.getLast?, isSpace c = false) : trim (before ++ word ++ after) = word := by
  unfold trim
  rw [List.append_assoc, dropWhile_padding hbefore, List.reverse_append, dropWhile_padding, List.reverse_reverse]
  · intro c hc
    exact hafter c (List.mem_reverse.mp hc)
  · rw [List.head?_reverse]
    exact hlast
  · rw [List.head?_append_of_ne_nil _ hne]
    exact hhead

/-- A word without blanks in it. -/
theorem trim_word (before : Str) {word : Str} (after : Str) (hne : word ≠ []) (hbefore : ∀ c ∈ before, isSpace c = true)
    (hafter : ∀ c ∈ after, isSpace c = true) (hword : ∀ c ∈ word, isSpace c = false) :
    trim (before ++ word ++ after) = word :=
  trim_padded before after hne hbefore hafter (fun c hc => hword c (List.mem_of_mem_head? hc))
    fun c hc => hword c (List.mem_of_mem_getLast? hc)

/-- A text that has been trimmed begins and ends with no blank. -/
theorem not_isSpace_head_of_trim {s : Str} (h : trim s = s) : ∀ c ∈ s.head?, isSpace c = false := by
  intro c hc
  by_contra hspace
  rw [Bool.not_eq_false] at hspace
  obtain ⟨rest, rfl⟩ : ∃ rest, s = c :: rest := ⟨s.tail, (List.cons_head?_tail hc).symm⟩
  have hlen := congrArg List.length h
  rw [trim, List.dropWhile_cons_of_pos hspace, List.length_reverse, List.length_cons] at hlen
  have hle := ((rest.dropWhile isSpace).reverse.dropWhile_sublist isSpace).length_le
  have hle' := (rest.dropWhile_sublist isSpace).length_le
  rw [List.length_reverse] at hle
  omega

theorem not_isSpace_last_of_trim {s : Str} (h : trim s = s) : ∀ c ∈ s.getLast?, isSpace c = false := by
  intro c hc
  have hlast : c ∈ ((s.dropWhile isSpace).reverse.dropWhile isSpace).head? := by
    rw [← h, trim, List.getLast?_reverse] at hc
    exact hc
  have hnot := List.head?_dropWhile_not isSpace (s.dropWhile isSpace).reverse
  rw [Option.mem_def.mp hlast] at hnot
  exact hnot

/-- A text of lines that begin and end with no blank, each with a blank behind it. -/
theorem trim_terminated {c : UInt8} (hc : isSpace c = true) {a : Str} {rest : List Str}
    (hparts : ∀ s ∈ a :: rest, s ≠ [] ∧ (∀ d ∈ s.head?, isSpace d = false) ∧ ∀ d ∈ s.getLast?, isSpace d = false) :
    trim ((a :: rest).flatMap (· ++ [c])) = [c].intercalate (a :: rest) := by
  have hjoined : [c].intercalate (a :: rest) ≠ [] := intercalate_ne_nil (hparts a List.mem_cons_self).1 rest
  rw [flatMap_terminated, ← List.nil_append ([c].intercalate (a :: rest))]
  refine (trim_padded [] [c] hjoined nofun (List.forall_mem_singleton.mpr hc) (fun d hd => ?_) fun d hd => ?_)
  · obtain ⟨s, hs, hds⟩ := head_intercalate (fun s hs => (hparts s hs).1) hd
    exact (hparts s hs).2.1 d hds
  · obtain ⟨s, hs, hds⟩ := last_intercalate (fun s hs => (hparts s hs).1) hd
    exact (hparts s hs).2.2 d hds

theorem mem_dropWhile_of_not {p : UInt8 → Bool} {s : Str} {c : UInt8} (hc : c ∈ s) (hp : p c = false) :
    c ∈ s.dropWhile p := by
  rw [← List.takeWhile_append_dropWhile (p := p) (l := s)] at hc
  rcases List.mem_append.mp hc with htake | hdrop
  · rw [List.all_eq_true.mp List.all_takeWhile c htake] at hp
    cases hp
  · exact hdrop

/-- What is no blank stays. -/
theorem mem_trim {s : Str} {c : UInt8} (hc : c ∈ s) (hspace : isSpace c = false) : c ∈ trim s := by
  unfold trim
  rw [List.mem_reverse]
  apply mem_dropWhile_of_not _ hspace
  rw [List.mem_reverse]
  exact mem_dropWhile_of_not hc hspace

theorem not_isSpace_of_isDigit {c : UInt8} (h : isDigit c = true) : isSpace c = false := by
  rw [isDigit, Bool.and_eq_true, decide_eq_true_eq, decide_eq_true_eq, UInt8.le_iff_toNat_le,
    UInt8.le_iff_toNat_le] at h
  simp only [UInt8.reduceToNat] at h
  rw [isSpace, Bool.or_eq_false_iff, decide_eq_false_iff_not, Bool.and_eq_false_iff, decide_eq_false_iff_not,
    decide_eq_false_iff_not, UInt8.le_iff_toNat_le, UInt8.le_iff_toNat_le]
  simp only [UInt8.reduceToNat]
  refine ⟨fun heq => ?_, Or.inr (by omega)⟩
  rw [heq] at h
  exact absurd h.1 (by decide)

/-! ### Numbers -/

/-- `strconv.Atoi` with its error as `none`. -/
def atoi? (s : Str) : Option Int := if (atoi s).2 then some (atoi s).1 else none

/-- Decimal digits are read where the number fits. -/
theorem atoi?_digits {ds : Str} (hne : ds ≠ []) (hdigits : ds.all isDigit) :
    atoi? ds = if decimal ds < 2 ^ 63 then some (decimal ds : Int) else none := by
  rw [atoi?, atoi_digits hne hdigits]
  rcases lt_or_ge (decimal ds) (2 ^ 63) with hsmall | hlarge
  · rw [if_neg hsmall.not_ge, if_pos hsmall]
    rfl
  · rw [if_pos hlarge, if_neg hlarge.not_gt]
    rfl

/-- A text with a byte that is no digit and no sign is not read. -/
theorem atoi?_of_mem {s : Str} {c : UInt8} (hc : c ∈ s) (hdigit : isDigit c = false) (hplus : c ≠ 43)
    (hminus : c ≠ 45) : atoi? s = none := by
  have hrejected : (atoi s).2 = false := by
    unfold atoi
    split
    next neg ds hsign =>
      have hmem : c ∈ ds := by
        split at hsign
        · cases hsign
          exact (List.mem_cons.mp hc).resolve_left hminus
        · cases hsign
          exact (List.mem_cons.mp hc).resolve_left hplus
        · cases hsign
          exact hc
      rw [if_neg]
      rintro ⟨-, hall⟩
      rw [List.all_eq_true.mp hall c hmem] at hdigit
      cases hdigit
  rw [atoi?, hrejected]
  rfl

theorem decimal_concat (ds : Str) (c : UInt8) : decimal (ds ++ [c]) = decimal ds * 10 + (c.toNat - 48) := by
  unfold decimal
  rw [List.foldl_append, List.foldl_cons, List.foldl_nil]

/-- The digits of a number spell it. -/
theorem decimal_itoa (n : Nat) : decimal (itoa n) = n := by
  have hdigit : ∀ d < 10, (UInt8.ofNat (Nat.digitChar d).toNat).toNat - 48 = d := by decide
  induction n using Nat.strong_induction_on with
  | _ n ih =>
    unfold itoa at ih ⊢
    rw [Nat.toDigits_eq_if (by decide)]
    split_ifs with hsmall
    · rw [List.map_singleton, ← List.nil_append [_], decimal_concat, hdigit n hsmall]
      exact Nat.zero_add n
    · rw [List.map_append, List.map_singleton, decimal_concat, ih (n / 10) (by omega), hdigit _ (Nat.mod_lt _ (by decide))]
      omega

theorem itoa_ne_nil (n : Nat) : itoa n ≠ [] := by
  unfold itoa
  rw [ne_eq, List.map_eq_nil_iff]
  exact Nat.toDigits_ne_nil

theorem all_isDigit_itoa (n : Nat) : (itoa n).all isDigit := List.all_eq_true.mpr fun _ hc => isDigit_of_mem_itoa hc

/-- A number is read back where it fits. -/
theorem atoi?_itoa (n : Nat) : atoi? (itoa n) = if n < 2 ^ 63 then some (n : Int) else none := by
  rw [atoi?_digits (itoa_ne_nil n) (all_isDigit_itoa n), decimal_itoa]

theorem itoa_injective : Function.Injective itoa := fun m n h => by
  rw [← decimal_itoa m, h, decimal_itoa]

/-- The texts of different IPv4 addresses are different. -/
theorem dotted_inj {ip ip' : IP} (hip : ip.length = 4) (hip' : ip'.length = 4) (h : dotted ip = dotted ip') :
    ip = ip' := by
  have hsplit : ∀ ip : IP, ip.length = 4 → split [46] (dotted ip) = ip.map fun b => itoa b.toNat := by
    intro ip hip
    have hne : (ip.map fun b => itoa b.toNat) ≠ [] := by
      rw [ne_eq, List.map_eq_nil_iff]
      rintro rfl
      cases hip
    refine split_intercalate hne fun a ha => ?_
    obtain ⟨b, -, rfl⟩ := List.mem_map.mp ha
    exact notMem_itoa (by decide)
  have hmap : (ip.map fun b => itoa b.toNat) = ip'.map fun b => itoa b.toNat := by
    rw [← hsplit ip hip, h, hsplit ip' hip']
  exact List.map_injective_iff.mpr (fun b b' hb => UInt8.toNat_inj.mp (itoa_injective hb)) hmap

end Go
