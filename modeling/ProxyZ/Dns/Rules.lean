import Mathlib.Data.List.ReduceOption
import ProxyZ.Go.Dict

/-!
# The bypass rules

A rule file names a host on each line, or with an asterisk a pattern of hosts. `LoadLocalRule` puts the names into
a new map, and adds the patterns to a list that is never emptied. So the names are those of the last file, and the
patterns those of all files so far.

After some loads and one of `lines` a host has the answer that `lines` alone gives if and only if no earlier
pattern matches it, or a rule of `lines` does (`current_iff`).
-/

namespace ProxyZ.Dns

open Go

/-- `regexp.Compile` with `MatchString`: the texts a pattern matches, `none` for a text that is no pattern. -/
abbrev Regexp := Str → Option (Str → Bool)

/-- The tables of the rules. -/
structure Rules where
  local2host : Dict Str := ∅
  fuzzyHost : List Str := []

/-- What `LoadLocalRule` does with a line. -/
def loadLine (t : Rules) (line : Str) : Rules :=
  if hasPrefix (trim line) (str "#") then t
  else if trim line = [] then t
  else if contains (trim line) (str " ") then t
  else if contains line (str "*") then { t with fuzzyHost := t.fuzzyHost ++ [trim line] }
  else { t with local2host := t.local2host.insert (trim line) (str "local") }

/-- `LoadLocalRule`, given the lines of the file, or `none` where there is no such file. -/
def loadLocalRule (file : Option (List Str)) (t : Rules) : Rules :=
  match file with
  | none => t
  | some lines => lines.foldl loadLine { t with local2host := ∅ }

/-- The test of `IsLocal` on an entry of `fuzzyHost`. -/
def fuzzyMatches (re : Regexp) (ip i : Str) : Bool :=
  if contains i (str "*") then
    match re (replaceAll i (str "*") (str ".*")) with
    | some testC => testC ip
    | none => false
  else i = ip

def isLocal (re : Regexp) (t : Rules) (ip : Str) : Bool := t.local2host.has ip || t.fuzzyHost.any (fuzzyMatches re ip)

/-- A sequence of calls of `LoadLocalRule`. -/
def loadAll (files : List (Option (List Str))) (t : Rules) : Rules := files.foldl (fun t file => loadLocalRule file t) t

/-! ### The rules of a file -/

/-- A line that is neither a comment nor empty, and has no blank inside. -/
def isRule (line : Str) : Bool :=
  !hasPrefix (trim line) (str "#") && trim line ≠ [] && !contains (trim line) (str " ")

/-- The names a file lists. -/
def names (lines : List Str) : List Str := (lines.filter fun l => isRule l && !contains l (str "*")).map trim

/-- The patterns a file lists. -/
def wildcards (lines : List Str) : List Str := (lines.filter fun l => isRule l && contains l (str "*")).map trim

/-- A rule of the file matches the host. -/
def Matched (re : Regexp) (lines : List Str) (s : Str) : Prop :=
  s ∈ names lines ∨ ∃ i ∈ wildcards lines, fuzzyMatches re s i = true

section Load

variable {re : Regexp} {t : Rules} {s : Str}

theorem loadLine_of_not_isRule {line : Str} (h : isRule line = false) : loadLine t line = t := by
  unfold isRule at h
  unfold loadLine
  split_ifs with hcomment hempty hblank
  · rfl
  · rfl
  · rfl
  all_goals
    rw [Bool.eq_false_iff.mpr hcomment, Bool.eq_false_iff.mpr hblank, decide_eq_true hempty] at h
    cases h

theorem loadLine_of_isRule {line : Str} (h : isRule line = true) :
    loadLine t line = if contains line (str "*") then { t with fuzzyHost := t.fuzzyHost ++ [trim line] }
      else { t with local2host := t.local2host.insert (trim line) (str "local") } := by
  simp only [isRule, Bool.and_eq_true, Bool.not_eq_true', decide_eq_true_eq] at h
  obtain ⟨⟨hcomment, hempty⟩, hblank⟩ := h
  unfold loadLine
  rw [if_neg (by rw [hcomment]; exact Bool.false_ne_true), if_neg hempty,
    if_neg (by rw [hblank]; exact Bool.false_ne_true)]

theorem wildcards_cons (line : Str) (rest : List Str) :
    wildcards (line :: rest) =
      (if isRule line && contains line (str "*") then [trim line] else []) ++ wildcards rest := by
  unfold wildcards
  rw [List.filter_cons]
  split_ifs <;> rfl

theorem names_cons (line : Str) (rest : List Str) :
    names (line :: rest) = (if isRule line && !contains line (str "*") then [trim line] else []) ++ names rest := by
  unfold names
  rw [List.filter_cons]
  split_ifs <;> rfl

/-- **Loading the lines** adds their patterns and their names. -/
theorem foldl_loadLine (lines : List Str) (t : Rules) :
    (lines.foldl loadLine t).fuzzyHost = t.fuzzyHost ++ wildcards lines ∧
      ∀ s, s ∈ (lines.foldl loadLine t).local2host ↔ s ∈ names lines ∨ s ∈ t.local2host := by
  induction lines generalizing t with
  | nil => exact ⟨(List.append_nil _).symm, fun s => ⟨Or.inr, fun h => h.resolve_left List.not_mem_nil⟩⟩
  | cons line rest ih =>
    obtain ⟨hfuzzy, hnames⟩ := ih (loadLine t line)
    rw [List.foldl_cons, wildcards_cons, names_cons]
    rcases hrule : isRule line with _ | _
    · rw [loadLine_of_not_isRule hrule] at hfuzzy hnames ⊢
      exact ⟨hfuzzy, hnames⟩
    · rw [loadLine_of_isRule hrule] at hfuzzy hnames ⊢
      rcases hstar : contains line (str "*") with _ | _
      · rw [hstar] at hfuzzy hnames
        refine ⟨hfuzzy, fun s => (hnames s).trans ?_⟩
        show s ∈ names rest ∨ s ∈ t.local2host.insert (trim line) (str "local") ↔ s ∈ [trim line] ++ names rest ∨ _
        rw [AList.mem_insert, List.mem_append, List.mem_singleton, or_left_comm, or_assoc]
      · rw [hstar] at hfuzzy hnames
        exact ⟨hfuzzy.trans (List.append_assoc _ _ _), hnames⟩

theorem isLocal_iff : isLocal re t s = true ↔ s ∈ t.local2host ∨ ∃ i ∈ t.fuzzyHost, fuzzyMatches re s i = true := by
  rw [isLocal, Bool.or_eq_true, Dict.has_iff_mem, List.any_eq_true]

/-- **What is local after a load**: what a rule of the file or an earlier pattern matches. -/
theorem isLocal_load_iff (lines : List Str) :
    isLocal re (loadLocalRule (some lines) t) s = true ↔
      Matched re lines s ∨ ∃ i ∈ t.fuzzyHost, fuzzyMatches re s i = true := by
  obtain ⟨hfuzzy, hnames⟩ := foldl_loadLine lines { t with local2host := ∅ }
  have hnone : ¬s ∈ (∅ : Dict Str) := AList.notMem_empty s
  rw [isLocal_iff]
  show s ∈ (lines.foldl loadLine { t with local2host := ∅ }).local2host ∨
    (∃ i ∈ (lines.foldl loadLine { t with local2host := ∅ }).fuzzyHost, fuzzyMatches re s i = true) ↔ _
  rw [hfuzzy, hnames, or_iff_left hnone, Matched]
  simp only [List.mem_append, or_and_right, exists_or]
  rw [or_comm (a := ∃ i, i ∈ t.fuzzyHost ∧ fuzzyMatches re s i = true), ← or_assoc]

theorem fuzzyHost_loadAll (files : List (Option (List Str))) :
    (loadAll files t).fuzzyHost = t.fuzzyHost ++ files.reduceOption.flatMap wildcards := by
  induction files generalizing t with
  | nil => exact (List.append_nil _).symm
  | cons file rest ih =>
    show (loadAll rest (loadLocalRule file t)).fuzzyHost = _
    rw [ih]
    cases file with
    | none => rfl
    | some lines =>
      rw [loadLocalRule, (foldl_loadLine lines { t with local2host := ∅ }).1, List.reduceOption_cons_of_some,
        List.flatMap_cons, List.append_assoc]

/-- The rules of a file loaded twice in a row are those of the file loaded once. -/
theorem isLocal_load_twice (lines : List Str) :
    isLocal re (loadLocalRule (some lines) (loadLocalRule (some lines) {})) s =
      isLocal re (loadLocalRule (some lines) {}) s := by
  have hfirst : (loadLocalRule (some lines) {}).fuzzyHost = wildcards lines :=
    (foldl_loadLine lines { local2host := ∅ }).1
  rw [Bool.eq_iff_iff, isLocal_load_iff, isLocal_load_iff, hfirst]
  constructor
  · rintro (h | h)
    · exact Or.inl h
    · exact Or.inl (Or.inr h)
  · rintro (h | ⟨i, hi, -⟩)
    · exact Or.inl h
    · exact absurd hi List.not_mem_nil

end Load

/-! ### The current file -/

/-- **The rules are those of the current file** for a host: after loads of any files from any tables, the last one
of `lines`, the answer is that of a single load of `lines`. -/
def Current (re : Regexp) (t : Rules) (files : List (Option (List Str))) (lines : List Str) (s : Str) : Prop :=
  isLocal re (loadAll (files ++ [some lines]) t) s = isLocal re (loadLocalRule (some lines) {}) s

theorem current_iff (re : Regexp) (t : Rules) (files : List (Option (List Str))) (lines : List Str) (s : Str) :
    Current re t files lines s ↔
      ((∃ i ∈ t.fuzzyHost ++ files.reduceOption.flatMap wildcards, fuzzyMatches re s i = true) →
        Matched re lines s) := by
  have hlast : loadAll (files ++ [some lines]) t = loadLocalRule (some lines) (loadAll files t) := by
    unfold loadAll
    rw [List.foldl_append]
    rfl
  have hnone : ¬∃ i ∈ ([] : List Str), fuzzyMatches re s i = true := fun ⟨_, hi, _⟩ => List.not_mem_nil hi
  rw [Current, hlast, Bool.eq_iff_iff, isLocal_load_iff, isLocal_load_iff, or_iff_left hnone, fuzzyHost_loadAll,
    or_iff_left_iff_imp]

/-- Whether a pattern of literal bytes, `.` and `.*` matches at the front of a text of one line. -/
def matchHere : Str → Str → Bool
  | [] => fun _ => true
  | 46 :: 42 :: p => fun s => s.tails.any (matchHere p)
  | c :: p => fun s =>
      match s with
      | [] => false
      | d :: t => (c = 46 || c = d) && matchHere p t

/-- The regular expressions that come from patterns of hosts: letters, digits, hyphens, dots and asterisks. -/
def hostRegexp : Regexp := fun pattern =>
  if pattern.all fun c => c = 42 || c = 45 || c = 46 || isDigit c || (97 ≤ c && c ≤ 122) then
    some fun s => s.tails.any (matchHere pattern)
  else none

example : (hostRegexp (str ".*.a.com")).map (· (str "x.a.com")) = some true := by decide +kernel
example : (hostRegexp (str ".*.a.com")).map (· (str "b.com")) = some false := by decide +kernel

/-- The pattern of a first file is still there behind a second one. -/
theorem not_current_wildcard : ¬Current hostRegexp {} [some [str "*.a.com"]] [str "b.com"] (str "x.a.com") := by
  unfold Current
  decide +kernel

end ProxyZ.Dns
