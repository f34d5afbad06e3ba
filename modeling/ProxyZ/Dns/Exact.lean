import ProxyZ.Dns.Lan
import ProxyZ.Dns.Rules
import ProxyZ.Go.Text

/-!
# Queries for the names of a rule file

`LoadLocalRule` keeps a name as it stands on its line. A query asks for the name with a dot behind it, and
`ServeDNS` looks for that. So the line of a name does nothing for queries: a query is local exactly if it is so by
the other rules, a line with the dot or a pattern (`applies_iff`).
-/

namespace ProxyZ.Dns

open Go Method

variable {ρ : Type}

/-- The name a query for a host asks for. -/
def fqdn (host : Str) : Str := host ++ str "."

/-- What a router does for a local name: the cache, the local resolver, and the tunnels. -/
def resolveLocalFirst (w : World ρ) (msg : Msg ρ) : Method (Resolver ρ) PUnit := do
  if ← resolveCache w msg then return
  else do
    addQueryWait 1
    if ← resolveLocal w msg then addQueryWait (-1)
    else do
      let (answered, msg) ← attempts w 3 0 msg
      if answered then addQueryWait (-1) else writeMsg msg

/-- What `ServeDNS` does on a router for a local name. -/
def serveLocalFirst (w : World ρ) (r : Msg ρ) : Method (Resolver ρ) PUnit := do
  resolveLocalFirst w (addressReply w r)
  modifyThe (Resolver ρ) fun s => { s with closed := true }

/-- A query for the address of `host`, on a router with the rules `t`. -/
structure QueryFor (re : Regexp) (t : Rules) (w : World ρ) (host : Str) (r : Msg ρ) : Prop where
  question : ∃ qclass rest, r.question = ⟨fqdn host, typeA, qclass⟩ :: rest
  router : w.isRouter = true
  rules : w.isLocal = isLocal re t

/-- The query is local, and the local resolver is tried before the tunnels. -/
def Applies (re : Regexp) (t : Rules) (w : World ρ) (host : Str) (r : Msg ρ) : Prop :=
  isLocal re t (fqdn host) = true ∧ serveDNS w r = serveLocalFirst w r

/-- The lines of the file but those of the name `host`. -/
def without (host : Str) (lines : List Str) : List Str := lines.filter fun l => trim l ≠ host

section Exact

variable {re : Regexp} {t : Rules} {w : World ρ} {host : Str} {r : Msg ρ} {lines : List Str}

theorem fqdn_ne (host : Str) : fqdn host ≠ host := by
  intro heq
  have hlength := congrArg List.length heq
  rw [fqdn, List.length_append] at hlength
  have hdot : (str ".").length = 1 := rfl
  omega

theorem resolveIfLocal_eq {msg : Msg ρ} {q : Question} {rest : List Question} (hq : msg.question = q :: rest)
    (hlocal : w.isLocal q.name = true) : resolveIfLocal w msg = resolveLocal w msg := by
  funext s
  unfold resolveIfLocal
  rw [bind_apply_ok _ (firstQuestion_eq hq s), if_pos hlocal]

/-- A local name is tried with the local resolver first. -/
theorem serveDNS_local (hr : QueryFor re t w host r) (hlocal : isLocal re t (fqdn host) = true) :
    serveDNS w r = serveLocalFirst w r := by
  obtain ⟨qclass, rest, hquestion⟩ := hr.question
  have hfirst : resolveIfLocal w (addressReply w r) = resolveLocal w (addressReply w r) :=
    resolveIfLocal_eq (question_addressReply hquestion) (by rw [hr.rules]; exact hlocal)
  have hserve : serveQuestion w r = resolveA w (addressReply w r) := by
    unfold serveQuestion
    rw [hquestion]
    rfl
  unfold serveDNS
  rw [hserve]
  unfold resolveA
  rw [hr.router, if_pos rfl]
  unfold resolveRouter
  rw [hfirst]
  rfl

theorem applies_iff_isLocal (hr : QueryFor re t w host r) : Applies re t w host r ↔ isLocal re t (fqdn host) = true :=
  and_iff_left_of_imp fun hlocal => serveDNS_local hr hlocal

theorem mem_names {s : Str} : s ∈ names lines ↔ ∃ l ∈ lines, isRule l = true ∧ contains l (str "*") = false ∧ trim l = s := by
  unfold names
  rw [List.mem_map]
  simp only [List.mem_filter, Bool.and_eq_true, Bool.not_eq_true', and_assoc]

/-- The lines of a name have no pattern among them. -/
theorem wildcards_without (hname : host ∈ names lines) : wildcards (without host lines) = wildcards lines := by
  obtain ⟨l, -, -, hstar, rfl⟩ := mem_names.mp hname
  have hnostar : (42 : UInt8) ∉ trim l := by
    intro hmem
    have hline : (42 : UInt8) ∈ l := by
      unfold trim at hmem
      rw [List.mem_reverse] at hmem
      exact List.dropWhile_sublist _ |>.subset (List.mem_reverse.mp (List.dropWhile_sublist _ |>.subset hmem))
    rw [show contains l (str "*") = true from contains_singleton.mpr hline] at hstar
    cases hstar
  unfold wildcards without
  rw [List.filter_filter]
  congr 1
  apply List.filter_congr
  intro l' _
  by_cases hsame : trim l' = trim l
  · have hplain : contains l' (str "*") = false := by
      rw [Bool.eq_false_iff]
      intro hcontains
      refine hnostar (hsame ▸ mem_trim (contains_singleton.mp hcontains) (by decide))
    rw [hplain, Bool.and_false, Bool.false_and]
  · rw [decide_eq_true hsame, Bool.and_true]

theorem names_without {s : Str} (hs : s ≠ host) : s ∈ names (without host lines) ↔ s ∈ names lines := by
  rw [mem_names, mem_names]
  unfold without
  simp only [List.mem_filter, decide_eq_true_eq]
  constructor
  · rintro ⟨l, ⟨hl, -⟩, hrest⟩
    exact ⟨l, hl, hrest⟩
  · rintro ⟨l, hl, hrule, hstar, heq⟩
    exact ⟨l, ⟨hl, heq ▸ hs⟩, hrule, hstar, heq⟩

/-- **A query for a name of the file is local, and tried with the local resolver first, exactly if another rule of
the file or an earlier pattern matches the name with its dot.** -/
theorem applies_iff (hname : host ∈ names lines) (hr : QueryFor re (loadLocalRule (some lines) t) w host r) :
    Applies re (loadLocalRule (some lines) t) w host r ↔
      Matched re (without host lines) (fqdn host) ∨ ∃ i ∈ t.fuzzyHost, fuzzyMatches re (fqdn host) i = true := by
  rw [applies_iff_isLocal hr, isLocal_load_iff]
  unfold Matched
  rw [wildcards_without hname, names_without (fqdn_ne host)]

end Exact

/-- A query for the address of `a.com`. -/
def exactQuery : Msg (Nat × Nat) := ⟨[⟨str "a.com.", 1, 1⟩], [], (0x1234, 0x100)⟩

/-- A router with the rules of a file. -/
def ruledWorld (lines : List Str) : World (Nat × Nat) :=
  { echoWorld with isLocal := isLocal hostRegexp (loadLocalRule (some lines) {}) }

theorem queryFor_exactQuery (lines : List Str) :
    QueryFor hostRegexp (loadLocalRule (some lines) {}) (ruledWorld lines) (str "a.com") exactQuery :=
  ⟨⟨1, [], rfl⟩, rfl, rfl⟩

/-- With a line for the name and its dot the query is local. -/
theorem applies_iff_dotted :
    Applies hostRegexp (loadLocalRule (some [str "a.com", str "a.com."]) {}) (ruledWorld [str "a.com", str "a.com."])
      (str "a.com") exactQuery := by
  refine (applies_iff (by decide) (queryFor_exactQuery _)).mpr (Or.inl (Or.inl ?_))
  decide

/-- The line of the name alone does nothing. -/
theorem not_applies_exact : str "a.com" ∈ names [str "a.com"] ∧ hasSuffix (str "a.com") (str ".") = false ∧
    QueryFor hostRegexp (loadLocalRule (some [str "a.com"]) {}) (ruledWorld [str "a.com"]) (str "a.com") exactQuery ∧
    ¬Applies hostRegexp (loadLocalRule (some [str "a.com"]) {}) (ruledWorld [str "a.com"]) (str "a.com") exactQuery := by
  refine ⟨by decide, by decide, queryFor_exactQuery _, fun happlies => ?_⟩
  exact absurd happlies.1 (by decide)

end ProxyZ.Dns
