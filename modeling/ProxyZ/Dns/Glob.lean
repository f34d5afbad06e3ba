import ProxyZ.Dns.Rules
import ProxyZ.Go.Pattern

/-!
# What a pattern of hosts means

In a rule an asterisk is to stand for any characters, and every other character for itself. `IsLocal` replaces each
asterisk by `.*`, takes the result for a regular expression, and looks for it in the name. So a rule that is found
in a part of the name makes the name local, a dot in a rule stands for any character, and other characters can be
operators.

A rule of plain characters that matches a name of one line is found in it (`occurs_of_glob`), so what goes wrong with
such rules is that they are found in names that no rule matches. `isLocal` is right about a name exactly if that
does not happen, and if, where the rules that match are not of this kind, some rule is found (`meant_iff`).
-/

namespace ProxyZ.Dns

open Go

/-- A character of a rule, as it is meant. -/
def globPiece (c : UInt8) : Piece UInt8 := if c = 42 then .many fun _ => true else .one fun d => d = c

/-- The rule matches the whole of the text. -/
def Glob (r s : Str) : Prop := Matches (r.map globPiece) s

instance (r s : Str) : Decidable (Glob r s) := inferInstanceAs (Decidable (Matches (r.map globPiece) s))

/-- A character of a rule, as the regular expression takes it. -/
def rulePiece (c : UInt8) : Piece Str := if c = 42 then .many dot else if c = 46 then .one dot else .one fun d => d = [c]

/-- A rule with no operator among its characters but dots and asterisks. -/
def plainRule (r : Str) : Bool := r.all fun c => c = 42 || c = 46 || isPlain c

/-- The rule stands for a part of the text, with a dot for any character. -/
def Occurs (r s : Str) : Prop := Found (r.map rulePiece) (chars s)

instance (r s : Str) : Decidable (Occurs r s) := inferInstanceAs (Decidable (Found (r.map rulePiece) (chars s)))

/-- The rule is found in the text. With operators among its characters, it is the expression they make. -/
def FoundIn (re : Regexp) (s r : Str) : Prop :=
  if plainRule r then Occurs r s else ∃ testC, re (replaceAll r (str "*") (str ".*")) = some testC ∧ testC s = true

/-- **The rules mean what they say** about `s`. -/
def Meant (re : Regexp) (t : Rules) (s : Str) : Prop := isLocal re t s = true ↔ ∃ r ∈ t.fuzzyHost, Glob r s

/-- A rule that is found in the text is one only if a rule matches; and where rules match, a plain one does so
on one line, or a rule is found. -/
structure NotMisread (re : Regexp) (t : Rules) (s : Str) : Prop where
  found : (∃ r ∈ t.fuzzyHost, FoundIn re s r) → ∃ r ∈ t.fuzzyHost, Glob r s
  matched : (∃ r ∈ t.fuzzyHost, Glob r s) →
    (10 ∉ s ∧ ∃ r ∈ t.fuzzyHost, plainRule r = true ∧ Glob r s) ∨ ∃ r ∈ t.fuzzyHost, FoundIn re s r

section Glob

variable {re : Regexp} {t : Rules} {r s : Str}

/-! ### The expression of a rule -/

theorem plainRule_cons {c : UInt8} :
    plainRule (c :: r) = true ↔ (c = 42 ∨ c = 46 ∨ isPlain c = true) ∧ plainRule r = true := by
  unfold plainRule
  rw [List.all_cons, Bool.and_eq_true, Bool.or_eq_true, Bool.or_eq_true, decide_eq_true_eq, decide_eq_true_eq, or_assoc]

theorem pieces?_rule (h : plainRule r = true) :
    pieces? (replaceAll r (str "*") (str ".*")) = some (r.map rulePiece) := by
  rw [show str "*" = [42] from rfl, show str ".*" = [46, 42] from rfl, replaceAll_singleton]
  induction r with
  | nil => rfl
  | cons c rest ih =>
    obtain ⟨hc, hrest⟩ := plainRule_cons.mp h
    have ih := ih hrest
    rw [List.flatMap_cons, List.map_cons]
    rcases hc with rfl | rfl | hc
    · rw [if_pos rfl, List.cons_append, List.singleton_append, pieces?_gap, ih]
      rfl
    · have hnext : (rest.flatMap fun d => if d = 42 then ([46, 42] : Str) else [d]).head? ≠ some 42 := by
        cases rest with
        | nil => exact fun h => absurd h (Option.some_ne_none _).symm
        | cons d rest =>
          rw [List.flatMap_cons]
          split_ifs with hd
          · exact fun h => absurd (Option.some.inj h) (by decide)
          · exact fun h => hd (Option.some.inj h)
      rw [if_neg (by decide), List.singleton_append, pieces?_dot hnext, ih]
      rfl
    · have hstar : c ≠ 42 := by
        rintro rfl
        exact absurd hc (by decide)
      have hdot : c ≠ 46 := by
        rintro rfl
        exact absurd hc (by decide)
      rw [if_neg hstar, List.singleton_append, pieces?_plain hc, ih, rulePiece, if_neg hstar, if_neg hdot]
      rfl

theorem fuzzyMatches_iff (hstar : 42 ∈ r) :
    fuzzyMatches re s r = true ↔ ∃ testC, re (replaceAll r (str "*") (str ".*")) = some testC ∧ testC s = true := by
  have hcontains : contains r (str "*") = true := contains_singleton.mpr hstar
  unfold fuzzyMatches
  rw [if_pos hcontains]
  rcases re (replaceAll r (str "*") (str ".*")) with _ | testC
  · exact ⟨fun h => absurd h Bool.false_ne_true, fun ⟨_, h, _⟩ => absurd h (Option.some_ne_none _).symm⟩
  · exact ⟨fun h => ⟨testC, rfl, h⟩, fun ⟨_, h, htest⟩ => Option.some.inj h ▸ htest⟩

theorem foundIn_iff (hre : Documented re) (hstar : 42 ∈ r) : FoundIn re s r ↔ fuzzyMatches re s r = true := by
  rw [fuzzyMatches_iff hstar, FoundIn]
  split_ifs with h
  · obtain ⟨testC, hcompile, htest⟩ := hre _ _ (pieces?_rule h)
    rw [hcompile, Occurs, ← htest]
    exact ⟨fun hfound => ⟨testC, rfl, hfound⟩, fun ⟨_, h, hfound⟩ => Option.some.inj h ▸ hfound⟩
  · rfl

/-! ### A rule that matches is found -/

theorem dot_of_mem_chars (hs : 10 ∉ s) : ∀ c ∈ chars s, dot c = true := by
  intro c hc
  unfold dot
  rw [decide_eq_true_eq]
  rintro rfl
  exact hs (mem_of_mem_chars (by decide) hc)

/-- A byte of a rule that is no asterisk is one character, and its piece takes that. -/
theorem rulePiece_char {c : UInt8} (hc : c = 42 ∨ c = 46 ∨ isPlain c = true) (hstar : c ≠ 42) :
    c < 128 ∧ ∃ test, rulePiece c = .one test ∧ test [c] = true := by
  unfold rulePiece
  rw [if_neg hstar]
  rcases hc with rfl | rfl | hc
  · exact absurd rfl hstar
  · exact ⟨by decide, dot, if_pos rfl, by decide⟩
  · have hdot : c ≠ 46 := by
      rintro rfl
      exact absurd hc (by decide)
    exact ⟨of_decide_eq_true (Bool.and_eq_true_iff.mp hc).1, _, if_neg hdot, decide_eq_true rfl⟩

/-- The characters of a text that the rule matches are what its pieces stand for, also behind an asterisk and a
text that it stands for. -/
theorem matches_chars (hr : plainRule r = true) (h : Glob r s) :
    10 ∉ s → Matches (r.map rulePiece) (chars s) ∧
      ∀ t, 10 ∉ t → Matches (.many dot :: r.map rulePiece) (chars (t ++ s)) := by
  induction r generalizing s with
  | nil =>
    intro _
    cases h
    refine ⟨.nil, fun t ht => ?_⟩
    rw [List.append_nil, ← List.append_nil (chars t)]
    exact .many (dot_of_mem_chars ht) .nil
  | cons c r ih =>
    intro hs
    obtain ⟨hc, hplain⟩ := plainRule_cons.mp hr
    have hmatches : Matches (globPiece c :: r.map globPiece) s := h
    unfold globPiece at hmatches
    rw [List.map_cons]
    by_cases hstar : c = 42
    · rw [if_pos hstar] at hmatches
      cases hmatches with
      | @many _ u _ s hu hrest =>
        rw [List.mem_append, not_or] at hs
        obtain ⟨-, hbehind⟩ := ih hplain hrest hs.2
        rw [rulePiece, if_pos hstar]
        refine ⟨hbehind u hs.1, fun t ht => ?_⟩
        rw [← List.append_assoc]
        have hnone := hbehind (t ++ u) (List.not_mem_append ht hs.1)
        exact .many (t := []) (fun _ hc => absurd hc List.not_mem_nil) hnone
    · rw [if_neg hstar] at hmatches
      cases hmatches with
      | @one _ d _ s hd hrest =>
        obtain rfl : d = c := of_decide_eq_true hd
        rw [List.mem_cons, not_or] at hs
        obtain ⟨hascii, test, hpiece, htest⟩ := rulePiece_char hc hstar
        have htail := (ih hplain hrest hs.2).1
        have hwhole : Matches (rulePiece d :: r.map rulePiece) ([d] :: chars s) := by
          rw [hpiece]
          exact .one htest htail
        refine ⟨?_, fun t ht => ?_⟩
        · have happend := chars_append hascii [] s
          rw [List.nil_append] at happend
          rw [happend]
          exact hwhole
        · rw [chars_append hascii]
          exact .many (dot_of_mem_chars ht) hwhole

theorem occurs_of_glob (hr : plainRule r = true) (hs : 10 ∉ s) (h : Glob r s) : Occurs r s :=
  (matches_chars hr h hs).1.found

/-! ### The loaded rules -/

theorem mem_wildcards {lines : List Str} (h : r ∈ wildcards lines) : 42 ∈ r := by
  obtain ⟨l, hl, rfl⟩ := List.mem_map.mp h
  obtain ⟨-, hrule⟩ := List.mem_filter.mp hl
  exact mem_trim (contains_singleton.mp (Bool.and_eq_true_iff.mp hrule).2) (by decide)

/-- What has been loaded has an asterisk. -/
theorem mem_fuzzyHost_loadAll {files : List (Option (List Str))} (h : r ∈ (loadAll files {}).fuzzyHost) : 42 ∈ r := by
  rw [fuzzyHost_loadAll] at h
  obtain ⟨lines, -, hr⟩ := List.mem_flatMap.mp h
  exact mem_wildcards hr

end Glob

/-- **The loaded rules mean what they say about a text exactly if it is not misread.** -/
theorem meant_iff {re : Regexp} (hre : Documented re) (files : List (Option (List Str))) {s : Str}
    (hs : s ∉ (loadAll files {}).local2host) :
    Meant re (loadAll files {}) s ↔ NotMisread re (loadAll files {}) s := by
  have hlocal : isLocal re (loadAll files {}) s = true ↔ ∃ r ∈ (loadAll files {}).fuzzyHost, FoundIn re s r := by
    rw [isLocal_iff, or_iff_right hs]
    exact exists_congr fun r => and_congr_right fun hr => (foundIn_iff hre (mem_fuzzyHost_loadAll hr)).symm
  rw [Meant, hlocal]
  constructor
  · intro h
    exact ⟨h.mp, fun hglob => Or.inr (h.mpr hglob)⟩
  · rintro ⟨hfound, hmatched⟩
    refine ⟨hfound, fun hglob => ?_⟩
    rcases hmatched hglob with ⟨hline, r, hr, hplain, hrglob⟩ | h
    · refine ⟨r, hr, ?_⟩
      rw [FoundIn, if_pos hplain]
      exact occurs_of_glob hplain hline hrglob
    · exact h

/-- A name under the domain of the rule. -/
theorem meant_iff_subdomain :
    Meant simpleRegexp (loadAll [some [str "*.a.com"]] {}) (str "x.a.com") :=
  (meant_iff documented_simpleRegexp [some [str "*.a.com"]] (by decide)).mpr
    ⟨fun _ => ⟨str "*.a.com", by decide, by decide +kernel⟩,
      fun _ => Or.inl ⟨by decide, str "*.a.com", by decide, by decide, by decide +kernel⟩⟩

/-- A name under a foreign domain, with the rule found in its front. -/
theorem not_meant_foreign :
    str "x.a.com.evil.org" ∉ (loadAll [some [str "*.a.com"]] {}).local2host ∧
      ¬Meant simpleRegexp (loadAll [some [str "*.a.com"]] {}) (str "x.a.com.evil.org") := by
  refine ⟨by decide, fun h => ?_⟩
  have hlocal : isLocal simpleRegexp (loadAll [some [str "*.a.com"]] {}) (str "x.a.com.evil.org") = true := by
    decide +kernel
  obtain ⟨r, hr, hglob⟩ := h.mp hlocal
  have hrule : r = str "*.a.com" := List.mem_singleton.mp hr
  rw [hrule] at hglob
  exact absurd hglob (by decide +kernel)

end ProxyZ.Dns
