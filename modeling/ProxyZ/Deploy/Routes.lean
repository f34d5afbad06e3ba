import ProxyZ.Go.Text

/-!
# The published routes

`SyncToGit` writes a list of routes as lines `Location|Host` and publishes them encrypted; `GitGetAccount` decrypts
the text and reads the lines again. It takes the decryption for good where the result has a dot in it. So a list is
read back exactly if some location or host has a dot (`readBack_iff`), and of any other list nothing is read.
-/

namespace ProxyZ.Deploy

open Go

/-- A route, with the fields that the functions below look at; `connectedQuality` is in nanoseconds. -/
structure Onevps where
  host : Str
  location : Str := []
  speed : Str := []
  connectedQuality : Int := 0
  deriving DecidableEq

/-- `Enrypt` and `Derypt`. A text that is not empty is not encrypted to an empty one. -/
structure Cipher where
  enrypt : Str → Str → Str
  derypt : Str → Str → Str
  derypt_enrypt : ∀ text pwd, derypt (enrypt text pwd) pwd = text
  nonempty : ∀ text pwd, text ≠ [] → enrypt text pwd ≠ []

/-- The file that `SyncToGit` publishes. -/
def syncToGit (c : Cipher) (loginPwd : Str) (vpss : List Onevps) : Str :=
  let text := vpss.foldl (fun text i => text ++ (i.location ++ str "|" ++ i.host ++ str "\n")) []
  c.enrypt (trim text) loginPwd

/-- A line as `GitGetAccount` reads it. -/
def readRoute (line : Str) : Onevps :=
  if contains line (str "|") then
    { location := trim ((split (str "|") line).getD 0 []), host := trim ((split (str "|") line).getD 1 []) }
  else { host := trim line }

/-- The routes that `GitGetAccount` finds in the file. -/
def gitGetAccount (c : Cipher) (encrpytedBuf pwd : Str) : List Onevps :=
  if encrpytedBuf ≠ [] then
    let plain := c.derypt encrpytedBuf pwd
    if contains plain (str ".") then (split (str "\n") plain).map readRoute else []
  else []

/-- A route that can be written on a line: without a bar and a line break, and without blanks around its fields. -/
structure OnLine (i : Onevps) : Prop where
  location : (124 : UInt8) ∉ i.location ∧ (10 : UInt8) ∉ i.location ∧ trim i.location = i.location
  host : (124 : UInt8) ∉ i.host ∧ (10 : UInt8) ∉ i.host ∧ trim i.host = i.host
  named : i.host ≠ []

/-- **The published routes are read back**, with their locations and hosts and in their order. -/
def ReadBack (c : Cipher) (pwd : Str) (vpss : List Onevps) : Prop :=
  (gitGetAccount c (syncToGit c pwd vpss) pwd).map (fun i => (i.location, i.host)) =
    vpss.map fun i => (i.location, i.host)

section Routes

variable {c : Cipher} {pwd : Str} {i : Onevps} {vpss : List Onevps}

/-- The line of a route. -/
def line (i : Onevps) : Str := i.location ++ str "|" ++ i.host

theorem OnLine.line_spec (h : OnLine i) :
    line i ≠ [] ∧ (∀ d ∈ (line i).head?, isSpace d = false) ∧ ∀ d ∈ (line i).getLast?, isSpace d = false := by
  refine ⟨by simp [line, str], fun d hd => ?_, fun d hd => ?_⟩
  · rw [line, List.append_assoc] at hd
    by_cases hloc : i.location = []
    · rw [hloc] at hd
      cases hd
      rfl
    · rw [List.head?_append_of_ne_nil _ hloc] at hd
      exact not_isSpace_head_of_trim h.location.2.2 d hd
  · rw [line, List.getLast?_append_of_ne_nil _ h.named] at hd
    exact not_isSpace_last_of_trim h.host.2.2 d hd

theorem OnLine.notMem_line (h : OnLine i) : (10 : UInt8) ∉ line i := by
  have hbar : (10 : UInt8) ∉ str "|" := by decide
  simp only [line, List.mem_append, h.location.2.1, h.host.2.1, hbar, or_self, not_false_eq_true]

/-- The line of a route is read as the route. -/
theorem OnLine.readRoute_line (h : OnLine i) : readRoute (line i) = { location := i.location, host := i.host } := by
  have hline : line i = i.location ++ 124 :: i.host := List.append_assoc _ _ _
  have hbar : contains (line i) (str "|") = true := by
    rw [show str "|" = [124] from rfl, contains_singleton, hline]
    simp
  have hsplit : split (str "|") (line i) = [i.location, i.host] := by
    rw [hline, show str "|" = [124] from rfl, split_singleton _ h.location.1, split_singleton_none h.host.1]
  rw [readRoute, if_pos hbar, hsplit]
  show ({ location := trim i.location, host := trim i.host } : Onevps) = _
  rw [h.location.2.2, h.host.2.2]

/-- The text that is encrypted. -/
theorem plain_eq (hne : vpss ≠ []) (hvpss : ∀ i ∈ vpss, OnLine i) :
    trim (vpss.foldl (fun text i => text ++ (i.location ++ str "|" ++ i.host ++ str "\n")) []) =
      (str "\n").intercalate (vpss.map line) := by
  have hfold : ∀ text : Str, vpss.foldl (fun text i => text ++ (i.location ++ str "|" ++ i.host ++ str "\n")) text =
      text ++ (vpss.map line).flatMap (· ++ [10]) := by
    intro text
    induction vpss generalizing text with
    | nil => exact (List.append_nil text).symm
    | cons i rest ih =>
      by_cases hrest : rest = []
      · subst hrest
        simp [line, str]
      · rw [List.foldl_cons, ih hrest fun j hj => hvpss j (List.mem_cons_of_mem i hj), List.map_cons,
          List.flatMap_cons, List.append_assoc]
        rfl
  obtain ⟨i, rest, rfl⟩ := List.exists_cons_of_ne_nil hne
  rw [hfold, List.nil_append, List.map_cons]
  refine trim_terminated rfl fun s hs => ?_
  obtain ⟨j, hj, rfl⟩ := List.mem_map.mp (List.map_cons ▸ hs)
  exact (hvpss j hj).line_spec

/-- **A list of routes is read back exactly if a location or a host has a dot.** -/
theorem readBack_iff (c : Cipher) (pwd : Str) (hne : vpss ≠ []) (hvpss : ∀ i ∈ vpss, OnLine i) :
    ReadBack c pwd vpss ↔ ∃ i ∈ vpss, (46 : UInt8) ∈ i.location ∨ (46 : UInt8) ∈ i.host := by
  have hlines : (∀ s ∈ vpss.map line, (10 : UInt8) ∉ s) := by
    intro s hs
    obtain ⟨i, hi, rfl⟩ := List.mem_map.mp hs
    exact (hvpss i hi).notMem_line
  have hplain : (str "\n").intercalate (vpss.map line) ≠ [] := by
    obtain ⟨i, rest, rfl⟩ := List.exists_cons_of_ne_nil hne
    exact intercalate_ne_nil (hvpss i List.mem_cons_self).line_spec.1 _
  have hdot : contains ((str "\n").intercalate (vpss.map line)) (str ".") = true ↔
      ∃ i ∈ vpss, (46 : UInt8) ∈ i.location ∨ (46 : UInt8) ∈ i.host := by
    rw [show str "." = [46] from rfl, contains_singleton, show str "\n" = [10] from rfl,
      mem_intercalate_of_ne (by decide)]
    simp only [List.mem_map, exists_exists_and_eq_and, line, List.mem_append, show (46 : UInt8) ∈ str "|" ↔ False by decide,
      or_false]
  have hread : gitGetAccount c (syncToGit c pwd vpss) pwd =
      if contains ((str "\n").intercalate (vpss.map line)) (str ".") then
        vpss.map fun i => { location := i.location, host := i.host } else [] := by
    have hfile : syncToGit c pwd vpss = c.enrypt ((str "\n").intercalate (vpss.map line)) pwd :=
      congrArg (c.enrypt · pwd) (plain_eq hne hvpss)
    rw [hfile, gitGetAccount, if_pos (c.nonempty _ _ hplain), c.derypt_enrypt]
    refine if_congr Iff.rfl ?_ rfl
    rw [show str "\n" = [10] from rfl, split_intercalate (by simpa using hne) hlines, List.map_map]
    exact List.map_congr_left fun i hi => (hvpss i hi).readRoute_line
  rw [← hdot, ReadBack, hread]
  split_ifs with h
  · refine iff_of_true ?_ h
    rw [List.map_map]
    rfl
  · refine iff_of_false (fun hnil => hne (List.map_eq_nil_iff.mp hnil.symm)) h

end Routes

/-- A cipher that puts a byte in front of the text. -/
def sampleCipher : Cipher where
  enrypt text _ := 1 :: text
  derypt text _ := text.tail
  derypt_enrypt _ _ := rfl
  nonempty _ _ _ := List.cons_ne_nil _ _

theorem readBack_iff_tokyo :
    ReadBack sampleCipher (str "pw") [{ location := str "Tokyo", host := str "10.0.0.1" }, { host := str "localhost" }] :=
  (readBack_iff sampleCipher (str "pw") (by decide)
    (List.forall_mem_cons.mpr ⟨⟨by decide, by decide, by decide⟩,
      List.forall_mem_singleton.mpr ⟨by decide, by decide, by decide⟩⟩)).mpr
    ⟨_, List.mem_cons_self, Or.inr (by decide)⟩

/-- A route with an IPv6 address. -/
theorem not_readBack_ipv6 : OnLine { location := str "Tokyo", host := str "2001:db8::1" } ∧
    gitGetAccount sampleCipher (syncToGit sampleCipher (str "pw") [{ location := str "Tokyo", host := str "2001:db8::1" }])
      (str "pw") = [] ∧
    ¬ReadBack sampleCipher (str "pw") [{ location := str "Tokyo", host := str "2001:db8::1" }] := by
  have hread : gitGetAccount sampleCipher
      (syncToGit sampleCipher (str "pw") [{ location := str "Tokyo", host := str "2001:db8::1" }]) (str "pw") = [] := by
    decide
  refine ⟨⟨by decide, by decide, by decide⟩, hread, fun h => ?_⟩
  rw [ReadBack, hread] at h
  cases h

end ProxyZ.Deploy
