import Mathlib.Data.List.Find
import ProxyZ.Go.Text

/-!
# Words of a text

`strings.Fields` cuts a text into words at white space, which is white space of Unicode: the bytes of `isSpace`, and
some longer characters, each recognised by its bytes in UTF-8.

A word that a blank follows is the first one (`fields_word`), and blanks before and behind a text, which `TrimSpace`
strips, change no word (`fields_trim`).
-/

namespace Go

/-- The white space characters that are longer than a byte: U+0085, U+00A0, U+1680, U+2000 to U+200A, U+2028, U+2029,
U+202F, U+205F and U+3000. -/
def wideSpaces : List Str :=
  [[194, 133], [194, 160], [225, 154, 128]] ++ (List.range 11).map (fun i => [226, 128, 128 + UInt8.ofNat i]) ++
    [[226, 128, 168], [226, 128, 169], [226, 128, 175], [226, 129, 159], [227, 128, 128]]

/-- The bytes of the white space character that a text begins with, 0 where it begins with none. -/
def spaceLen : Str → Nat
  | [] => 0
  | c :: rest =>
      if isSpace c then 1 else ((wideSpaces.find? fun w => hasPrefix (c :: rest) w).map List.length).getD 0

/-- A word that has been read, unless there is none. -/
def flush (word : Str) : List Str := if word = [] then [] else [word]

/-- `strings.Fields` within a text: `skip` bytes of a white space character are still to come, or `word` has been read
of the word at hand. -/
def fieldsFrom : Nat → Str → Str → List Str
  | _, word, [] => flush word
  | skip + 1, word, _ :: rest => fieldsFrom skip word rest
  | 0, word, c :: rest =>
      match spaceLen (c :: rest) with
      | 0 => fieldsFrom 0 (word ++ [c]) rest
      | n + 1 => flush word ++ fieldsFrom n [] rest

/-- `strings.Fields`. -/
def fields (s : Str) : List Str := fieldsFrom 0 [] s

/-- One word: not empty, and without white space. -/
structure IsWord (w : Str) : Prop where
  nonempty : w ≠ []
  solid : ∀ t, t <:+ w → spaceLen t = 0

section Fields

variable {c : UInt8} {s t v w : Str}

/-! ### White space -/

theorem lt_of_isSpace (hc : isSpace c = true) : c < 128 := by
  simp only [isSpace, Bool.or_eq_true, Bool.and_eq_true, decide_eq_true_eq] at hc
  rcases hc with rfl | ⟨-, hc⟩
  · decide
  · rw [UInt8.le_iff_toNat_le] at hc
    rw [UInt8.lt_iff_toNat_lt]
    exact Nat.lt_of_le_of_lt hc (by decide)

theorem ascii_of_isDigit (hc : isDigit c = true) : c < 128 ∧ isSpace c = false := by
  refine ⟨?_, not_isSpace_of_isDigit hc⟩
  simp only [isDigit, Bool.and_eq_true, decide_eq_true_eq, UInt8.le_iff_toNat_le] at hc
  rw [UInt8.lt_iff_toNat_lt]
  exact Nat.lt_of_le_of_lt hc.2 (by decide)

theorem wideSpaces_spec : ∀ w ∈ wideSpaces, w ≠ [] ∧ ∀ c ∈ w, ¬c < 128 := by decide +kernel

theorem spaceLen_of_isSpace (hc : isSpace c = true) : spaceLen (c :: s) = 1 := if_pos hc

/-- An ASCII byte is in no longer white space character. -/
theorem hasPrefix_append_ascii (hc : c < 128) (hw : w ∈ wideSpaces) : hasPrefix (s ++ c :: t) w = hasPrefix s w := by
  have hnot : c ∉ w := fun hmem => (wideSpaces_spec w hw).2 c hmem hc
  rw [Bool.eq_iff_iff, hasPrefix_iff, hasPrefix_iff]
  refine ⟨fun h => ?_, fun h => h.trans (List.prefix_append s _)⟩
  rcases List.prefix_or_prefix_of_prefix h (List.prefix_append s (c :: t)) with hshort | ⟨u, rfl⟩
  · exact hshort
  · have hu := (List.prefix_append_right_inj s).mp h
    cases u with
    | nil => rw [List.append_nil]
    | cons d u =>
      obtain rfl := (List.cons_prefix_cons.mp hu).1
      exact absurd (List.mem_append_right s List.mem_cons_self) hnot

theorem spaceLen_append_ascii (hc : c < 128) (hs : s ≠ []) : spaceLen (s ++ c :: t) = spaceLen s := by
  cases s with
  | nil => exact absurd rfl hs
  | cons d s =>
    have hfind : wideSpaces.find? (fun w => hasPrefix (d :: (s ++ c :: t)) w) =
        wideSpaces.find? fun w => hasPrefix (d :: s) w :=
      List.find?_congr fun w hw => hasPrefix_append_ascii (s := d :: s) hc hw
    rw [List.cons_append, spaceLen, spaceLen, hfind]

theorem spaceLen_of_ascii (hc : c < 128) (hspace : isSpace c = false) : spaceLen (c :: s) = 0 := by
  have hnone : wideSpaces.find? (fun w => hasPrefix (c :: s) w) = none := by
    refine List.find?_eq_none.mpr fun w hw hpre => ?_
    obtain ⟨hne, hwide⟩ := wideSpaces_spec w hw
    obtain ⟨d, w, rfl⟩ := List.exists_cons_of_ne_nil hne
    obtain rfl := (List.cons_prefix_cons.mp (hasPrefix_iff.mp hpre)).1
    exact hwide d List.mem_cons_self hc
  show (if isSpace c then 1 else _) = 0
  rw [if_neg (by rw [hspace]; decide), hnone]
  rfl

/-! ### Words -/

theorem isWord_of_ascii (hne : w ≠ []) (hw : ∀ c ∈ w, c < 128 ∧ isSpace c = false) : IsWord w := by
  refine ⟨hne, fun t hsuffix => ?_⟩
  cases t with
  | nil => rfl
  | cons c t =>
    obtain ⟨hc, hspace⟩ := hw c (hsuffix.subset List.mem_cons_self)
    exact spaceLen_of_ascii hc hspace

/-- An ASCII character may be put behind a word. -/
theorem IsWord.concat (h : IsWord w) (hc : c < 128) (hspace : isSpace c = false) : IsWord (w ++ [c]) := by
  refine ⟨List.append_ne_nil_of_left_ne_nil h.nonempty [c], fun t ht => ?_⟩
  rcases List.suffix_concat_iff.mp ht with rfl | ⟨u, rfl, hu⟩
  · rfl
  · by_cases hne : u = []
    · rw [hne]
      exact spaceLen_of_ascii hc hspace
    · rw [spaceLen_append_ascii hc hne]
      exact h.solid u hu

theorem IsWord.notMem (h : IsWord w) (hc : isSpace c = true) : c ∉ w := by
  intro hmem
  obtain ⟨a, b, rfl⟩ := List.append_of_mem hmem
  have hsolid := h.solid (c :: b) (List.suffix_append a (c :: b))
  rw [spaceLen_of_isSpace hc] at hsolid
  cases hsolid

/-- A word is read up to the blank behind it. -/
theorem fieldsFrom_solid (hc : isSpace c = true) (hv : ∀ t, t <:+ v → spaceLen t = 0) :
    fieldsFrom 0 w (v ++ c :: s) = fieldsFrom 0 (w ++ v) (c :: s) := by
  induction v generalizing w with
  | nil => rw [List.append_nil, List.nil_append]
  | cons d v ih =>
    have hd : spaceLen (d :: (v ++ c :: s)) = 0 := by
      have happend := spaceLen_append_ascii (t := s) (lt_of_isSpace hc) (List.cons_ne_nil d v)
      exact happend.trans (hv (d :: v) List.suffix_rfl)
    have hrest : ∀ t, t <:+ v → spaceLen t = 0 := fun t ht => hv t (ht.trans (List.suffix_cons d v))
    rw [List.cons_append, fieldsFrom, hd]
    dsimp only
    rw [ih hrest, List.append_assoc, List.singleton_append]

theorem fieldsFrom_blank (hc : isSpace c = true) : fieldsFrom 0 w (c :: s) = flush w ++ fields s := by
  rw [fieldsFrom, spaceLen_of_isSpace hc]
  rfl

theorem fields_blank (hc : isSpace c = true) : fields (c :: s) = fields s := fieldsFrom_blank hc

theorem fields_word (hw : IsWord w) (hc : isSpace c = true) : fields (w ++ c :: s) = w :: fields s := by
  rw [fields, fieldsFrom_solid hc hw.solid, fieldsFrom_blank hc, List.nil_append, flush, if_neg hw.nonempty,
    List.singleton_append]

/-! ### Blanks behind a text -/

theorem fieldsFrom_concat (hc : isSpace c = true) (skip : Nat) :
    fieldsFrom skip w (s ++ [c]) = fieldsFrom skip w s := by
  induction s generalizing skip w with
  | nil =>
    cases skip with
    | zero =>
      show fieldsFrom 0 w [c] = flush w
      rw [fieldsFrom_blank hc]
      exact List.append_nil (flush w)
    | succ skip =>
      cases skip with
      | zero => rfl
      | succ skip => rfl
  | cons d s ih =>
    cases skip with
    | zero =>
      have hd : spaceLen (d :: (s ++ [c])) = spaceLen (d :: s) :=
        spaceLen_append_ascii (lt_of_isSpace hc) (List.cons_ne_nil d s)
      rw [List.cons_append, fieldsFrom, fieldsFrom, hd]
      split
      · exact ih 0
      · rw [ih]
    | succ skip => exact ih skip

theorem fields_concat (hc : isSpace c = true) : fields (s ++ [c]) = fields s := fieldsFrom_concat hc 0

/-- The last word of a text. -/
theorem fields_of_isWord (hw : IsWord w) : fields w = [w] := by
  have hblank : isSpace 32 = true := by decide
  rw [← fields_concat hblank, fields_word hw hblank]
  rfl

/-- Words with blanks between them, in front of a blank. -/
theorem fields_intercalate_append (hc : isSpace c = true) {words : List Str} (hwords : ∀ w ∈ words, IsWord w) :
    fields ([c].intercalate words ++ c :: s) = words ++ fields s := by
  induction words with
  | nil => exact fields_blank hc
  | cons w words ih =>
    have hw := hwords w List.mem_cons_self
    cases words with
    | nil => rw [List.intercalate_singleton, fields_word hw hc, List.singleton_append]
    | cons v words =>
      have hrest := ih fun u hu => hwords u (List.mem_cons_of_mem w hu)
      rw [List.intercalate_cons_cons, List.append_assoc, List.append_assoc, List.singleton_append, fields_word hw hc,
        hrest]
      rfl

/-- Words with blanks between them. -/
theorem fields_intercalate (hc : isSpace c = true) {words : List Str} (hwords : ∀ w ∈ words, IsWord w) :
    fields ([c].intercalate words) = words := by
  induction words with
  | nil => rfl
  | cons w words ih =>
    have hw := hwords w List.mem_cons_self
    cases words with
    | nil => rw [List.intercalate_singleton, fields_of_isWord hw]
    | cons v words =>
      have hrest := ih fun u hu => hwords u (List.mem_cons_of_mem w hu)
      rw [List.intercalate_cons_cons, List.append_assoc, List.singleton_append, fields_word hw hc, hrest]

theorem fields_trim (s : Str) : fields (trim s) = fields s := by
  have hfront : ∀ s : Str, fields (s.dropWhile isSpace) = fields s := by
    intro s
    induction s with
    | nil => rfl
    | cons c s ih =>
      cases hc : isSpace c with
      | true => rw [List.dropWhile_cons_of_pos hc, ih, fields_blank hc]
      | false => rw [List.dropWhile_cons_of_neg (by rw [hc]; decide)]
  have hback : ∀ r : Str, fields (r.dropWhile isSpace).reverse = fields r.reverse := by
    intro r
    induction r with
    | nil => rfl
    | cons c r ih =>
      cases hc : isSpace c with
      | true => rw [List.dropWhile_cons_of_pos hc, ih, List.reverse_cons, fields_concat hc]
      | false => rw [List.dropWhile_cons_of_neg (by rw [hc]; decide)]
  rw [trim, hback, List.reverse_reverse, hfront]

end Fields

end Go
