import ProxyZ.Go.Scan
import ProxyZ.Go.Text

/-!
# The target of a deployment over SSH

`DepBySSH` and `SSHCli` take a target `user@host:port/pwd` apart with `Split`: the part before the first `@` is the
user, and of each part behind it what stands before the first `/` is the host, and the last of what stands behind it
the password.

So a password with one of these characters is never read: each part is free of them (`Target.Plain`). A target is
read as it was written exactly if its password is free of them and the rest is given as the two functions want it
(`readsTarget_iff`).
-/

namespace ProxyZ.Deploy

open Go

/-- The call behind the target. -/
inductive HostCall
  | depOneHost (user host pwd : Str)
  | cliOneHost (user host pwd : Str)
  deriving DecidableEq

/-- The variables of both functions. -/
structure Target where
  user : Str := str "root"
  host : Str := []
  pwd : Str := []

/-- The part behind the user. -/
def Target.visit (t : Target) (i : Str) : Target :=
  if contains i (str "/") then
    (split (str "/") i).zipIdx.foldl
      (fun t p => if p.2 = 0 then { t with host := p.1 } else { t with pwd := p.1 }) t
  else { t with host := i }

def parseTarget (sshStr : Str) : Target :=
  let t :=
    if contains sshStr (str "@") then
      (split (str "@") sshStr).zipIdx.foldl
        (fun t p => if p.2 = 0 then { t with user := p.1 } else t.visit p.1) {}
    else Target.visit {} sshStr
  if contains t.host (str ":") then t else { t with host := t.host ++ str ":22" }

def bySSH (call : Str → Str → Str → HostCall) (sshStr : Str) : Option HostCall :=
  let t := parseTarget sshStr
  if t.user ≠ [] ∧ t.host ≠ [] then some (call t.user t.host t.pwd) else none

def depBySSH : Str → Option HostCall := bySSH .depOneHost

def sshCli : Str → Option HostCall := bySSH .cliOneHost

/-- A target as the flags describe it: `user@host/pwd` or `user@host:port/pwd`. -/
structure SshTarget where
  user : Str
  host : Str
  port : Option Str := none
  password : Str
  user_at : (64 : UInt8) ∉ user
  host_plain : (64 : UInt8) ∉ host ∧ (47 : UInt8) ∉ host
  port_plain : ∀ p ∈ port, (64 : UInt8) ∉ p ∧ (47 : UInt8) ∉ p

/-- The host, with the port if one is given. -/
def SshTarget.address (a : SshTarget) : Str :=
  match a.port with
  | some p => a.host ++ str ":" ++ p
  | none => a.host

def SshTarget.text (a : SshTarget) : Str := a.user ++ str "@" ++ a.address ++ str "/" ++ a.password

/-- The address that is to be called. -/
def SshTarget.dialed (a : SshTarget) : Str := if a.port.isSome then a.address else a.host ++ str ":22"

/-- **Both functions read the target as it was written.** -/
def ReadsTarget (a : SshTarget) : Prop :=
  depBySSH a.text = some (.depOneHost a.user a.dialed a.password) ∧
    sshCli a.text = some (.cliOneHost a.user a.dialed a.password)

/-! ### The parts -/

/-- The password of a part is free of the characters at which the target is split. -/
def Target.Plain (t : Target) : Prop := (64 : UInt8) ∉ t.pwd ∧ (47 : UInt8) ∉ t.pwd

section Parts

variable {t : Target} {i : Str}

theorem foldl_pwd (rest : List Str) (t : Target) :
    rest.foldl (fun t i => { t with pwd := i }) t = { t with pwd := rest.getLast?.getD t.pwd } := by
  induction rest generalizing t with
  | nil => rfl
  | cons i rest ih =>
    rw [List.foldl_cons, ih, List.getLast?_cons]
    rfl

/-- A part with a slash. -/
theorem Target.visit_slash {host rest : Str} (hhost : (47 : UInt8) ∉ host) :
    t.visit (host ++ 47 :: rest) = { t with host, pwd := ((split [47] rest).getLast?).getD t.pwd } := by
  have hcontains : contains (host ++ 47 :: rest) [47] = true := contains_singleton.mpr (by simp)
  unfold Target.visit
  rw [show str "/" = [47] from rfl, if_pos hcontains, split_singleton rest hhost]
  refine (foldl_zipIdx_cons (fun t i => { t with host := i }) (fun t i => { t with pwd := i }) t host _).trans ?_
  rw [foldl_pwd]

theorem Target.visit_plain (hi : (47 : UInt8) ∉ i) : t.visit i = { t with host := i } := by
  unfold Target.visit
  rw [show str "/" = [47] from rfl, if_neg (by rw [contains_singleton]; exact hi)]

/-- A part that has been split off keeps the password plain. -/
theorem Target.Plain.visit (h : t.Plain) (hi : (64 : UInt8) ∉ i) : (t.visit i).Plain := by
  by_cases hslash : (47 : UInt8) ∈ i
  · obtain ⟨host, rest, rfl, hhost⟩ := List.eq_append_cons_of_mem hslash
    rw [Target.visit_slash hhost]
    rcases hlast : (split [47] rest).getLast? with _ | last
    · exact h
    · obtain ⟨hsep, hinside⟩ := mem_split (List.mem_of_getLast? hlast)
      exact ⟨fun hmem => hi (by simp [hinside.subset hmem]), hsep⟩
  · rw [Target.visit_plain hslash]
    exact h

theorem Target.Plain.foldl {parts : List Str} (h : t.Plain) (hparts : ∀ i ∈ parts, (64 : UInt8) ∉ i) :
    (parts.foldl Target.visit t).Plain := by
  induction parts generalizing t with
  | nil => exact h
  | cons i parts ih =>
    exact ih (h.visit (hparts i List.mem_cons_self)) fun j hj => hparts j (List.mem_cons_of_mem i hj)

/-- With its port a host is not empty. -/
theorem parseTarget_host_ne_nil (sshStr : Str) : (parseTarget sshStr).host ≠ [] := by
  unfold parseTarget
  dsimp only
  split_ifs with hat hcolon hcolon
  · rintro hnil
    rw [hnil] at hcolon
    cases hcolon
  · simp [str]
  · rintro hnil
    rw [hnil] at hcolon
    cases hcolon
  · simp [str]

/-- What is called with is what has been parsed, if there is a user. -/
theorem bySSH_eq_some_iff {call : Str → Str → Str → HostCall} {user host pwd sshStr : Str}
    (hinj : ∀ u h p, call u h p = call user host pwd → u = user ∧ h = host ∧ p = pwd) :
    bySSH call sshStr = some (call user host pwd) ↔ parseTarget sshStr = ⟨user, host, pwd⟩ ∧ user ≠ [] := by
  have hhost := parseTarget_host_ne_nil sshStr
  unfold bySSH
  generalize parseTarget sshStr = t at hhost ⊢
  obtain ⟨u, h, p⟩ := t
  dsimp only at hhost ⊢
  constructor
  · intro hcall
    split_ifs at hcall with hne
    obtain ⟨rfl, rfl, rfl⟩ := hinj _ _ _ (Option.some.inj hcall)
    exact ⟨rfl, hne.1⟩
  · rintro ⟨ht, huser⟩
    cases ht
    rw [if_pos ⟨huser, hhost⟩]

/-- The whole target: the part before the first `@` is the user, the others are taken in order. -/
theorem parseTarget_at {user rest : Str} (huser : (64 : UInt8) ∉ user) :
    parseTarget (user ++ 64 :: rest) =
      let t := (split [64] rest).foldl Target.visit { user }
      if contains t.host (str ":") then t else { t with host := t.host ++ str ":22" } := by
  have hcontains : contains (user ++ 64 :: rest) [64] = true := contains_singleton.mpr (by simp)
  unfold parseTarget
  rw [show str "@" = [64] from rfl, if_pos hcontains, split_singleton rest huser]
  rw [foldl_zipIdx_cons (fun t i => { t with user := i }) Target.visit {} user]

/-- A part that has been split off has no `@` in it, so the password is plain behind them all. -/
theorem parseTarget_plain {user rest : Str} (huser : (64 : UInt8) ∉ user) :
    (parseTarget (user ++ 64 :: rest)).Plain := by
  have hplain : Target.Plain { user } := ⟨List.not_mem_nil, List.not_mem_nil⟩
  have hparts : ((split [64] rest).foldl Target.visit { user }).Plain := hplain.foldl fun i hi => (mem_split hi).1
  rw [parseTarget_at huser]
  dsimp only
  split_ifs
  · exact hparts
  · exact hparts

end Parts

section Reads

variable {a : SshTarget}

theorem SshTarget.text_eq (a : SshTarget) : a.text = a.user ++ 64 :: (a.address ++ 47 :: a.password) := by
  simp [SshTarget.text, str]

theorem SshTarget.address_plain (a : SshTarget) : (64 : UInt8) ∉ a.address ∧ (47 : UInt8) ∉ a.address := by
  unfold SshTarget.address
  rcases hport : a.port with _ | p
  · exact a.host_plain
  · obtain ⟨hat, hslash⟩ := a.port_plain p hport
    simp only [List.mem_append, a.host_plain.1, a.host_plain.2, hat, hslash, or_false, false_or]
    exact ⟨by decide, by decide⟩

/-- A target with a plain password. -/
theorem parseTarget_text (hat : (64 : UInt8) ∉ a.password) (hslash : (47 : UInt8) ∉ a.password) :
    parseTarget a.text =
      ⟨a.user, if contains a.address (str ":") then a.address else a.address ++ str ":22", a.password⟩ := by
  obtain ⟨haddr, haddr'⟩ := a.address_plain
  have hrest : (64 : UInt8) ∉ a.address ++ 47 :: a.password := by
    simp only [List.mem_append, List.mem_cons, haddr, hat, or_false, false_or]
    decide
  rw [a.text_eq, parseTarget_at a.user_at, split_singleton_none hrest, List.foldl_cons, List.foldl_nil,
    Target.visit_slash haddr', split_singleton_none hslash]
  dsimp only
  split_ifs <;> rfl

/-- The address is the one to be called exactly if a port is given or the host has no colon. -/
theorem dialed_iff : (if contains a.address (str ":") then a.address else a.address ++ str ":22") = a.dialed ↔
    a.port.isSome ∨ (58 : UInt8) ∉ a.host := by
  unfold SshTarget.dialed SshTarget.address
  rcases hport : a.port with _ | p
  · by_cases hcolon : (58 : UInt8) ∈ a.host
    · rw [if_pos (by exact contains_singleton.mpr hcolon), if_neg (by simp)]
      simp [hcolon, str]
    · rw [if_neg (by rw [show str ":" = [58] from rfl, contains_singleton]; exact hcolon), if_neg (by simp)]
      simp [hcolon]
  · have hcolon : contains (a.host ++ str ":" ++ p) (str ":") = true := by
      rw [show str ":" = [58] from rfl, contains_singleton]
      simp
    dsimp only
    rw [if_pos hcolon, if_pos (by simp)]
    simp

/-- **A target is read as it was written exactly if its password has neither `@` nor `/`**, where it has a user and
either a port or a host without a colon. -/
theorem readsTarget_iff (a : SshTarget) : ReadsTarget a ↔
    a.user ≠ [] ∧ (a.port.isSome ∨ (58 : UInt8) ∉ a.host) ∧ (64 : UInt8) ∉ a.password ∧ (47 : UInt8) ∉ a.password := by
  have hreads : ReadsTarget a ↔ parseTarget a.text = ⟨a.user, a.dialed, a.password⟩ ∧ a.user ≠ [] := by
    unfold ReadsTarget depBySSH sshCli
    rw [bySSH_eq_some_iff (by rintro u h p ⟨⟩; exact ⟨rfl, rfl, rfl⟩),
      bySSH_eq_some_iff (by rintro u h p ⟨⟩; exact ⟨rfl, rfl, rfl⟩), and_self]
  rw [hreads]
  constructor
  · rintro ⟨hparse, huser⟩
    have hplain : (parseTarget a.text).Plain := by
      rw [a.text_eq]
      exact parseTarget_plain a.user_at
    rw [hparse] at hplain
    obtain ⟨hat, hslash⟩ := hplain
    rw [parseTarget_text hat hslash] at hparse
    exact ⟨huser, dialed_iff.mp (congrArg Target.host hparse), hat, hslash⟩
  · rintro ⟨huser, hport, hat, hslash⟩
    rw [parseTarget_text hat hslash, dialed_iff.mpr hport]
    exact ⟨rfl, huser⟩

end Reads

/-- A password with an `@`: the client goes to what stands behind it. -/
def atPassword : SshTarget :=
  { user := str "root", host := str "10.0.0.1", password := str "p@ss", user_at := by decide, host_plain := by decide
    port_plain := fun p hp => absurd hp (Option.not_mem_none p) }

theorem not_readsTarget_atPassword :
    depBySSH (str "root@10.0.0.1/p@ss") = some (.depOneHost (str "root") (str "ss:22") (str "p")) ∧
      ¬ReadsTarget atPassword := by
  have hcall : depBySSH (str "root@10.0.0.1/p@ss") = some (.depOneHost (str "root") (str "ss:22") (str "p")) := by
    decide
  refine ⟨hcall, fun hreads => ?_⟩
  have hsame := hcall.symm.trans hreads.1
  exact absurd hsame (by decide)

end ProxyZ.Deploy
