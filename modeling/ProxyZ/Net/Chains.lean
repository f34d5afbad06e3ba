import Mathlib.Data.List.Basic
import Mathlib.Logic.Function.Basic
import ProxyZ.Go.Bytes

/-!
# Chains of a packet filter

A table of a packet filter has chains of rules. A packet goes through the rules of a chain up to the first one that
decides about it: a rule it matches accepts it, redirects it to a port of this machine, gives it back to the chain that
has jumped here, or jumps to another chain, which decides or gives it back.

Rules are appended to chains. What a packet finds in a chain that has been filled by the same commands more than once is
what it finds in the chain that has been filled once (`scan_repeated`).
-/

namespace Netfilter

open Go

/-- An IPv4 address. -/
abbrev Addr := BitVec 32

/-- The addresses that begin with the same `len` bits as `addr`. -/
structure Net where
  addr : Addr
  len : Nat
  deriving DecidableEq

def Net.has (n : Net) (a : Addr) : Bool := a >>> (32 - n.len) = n.addr >>> (32 - n.len)

/-- One address. -/
def Net.one (a : Addr) : Net := ⟨a, 32⟩

inductive Proto
  | tcp
  | udp
  deriving DecidableEq

structure Packet where
  iface : Str
  proto : Proto
  src : Addr
  dst : Addr
  dport : Nat

inductive Target
  | accept
  | ret
  | redirect (port : Nat)
  | jump (chain : Str)
  deriving DecidableEq

/-- A rule matches what is not restricted. -/
structure Rule where
  iface : Option Str := none
  proto : Option Proto := none
  src : Option Net := none
  dst : Option Net := none
  dport : Option Nat := none
  target : Target
  deriving DecidableEq

/-- The name of an interface; a `+` at its end stands for any ending. -/
def matchesIface (pattern name : Str) : Bool :=
  if hasSuffix pattern (str "+") then hasPrefix name pattern.dropLast else pattern = name

def Rule.matches (r : Rule) (p : Packet) : Bool :=
  r.iface.all (matchesIface · p.iface) && r.proto.all (· = p.proto) && r.src.all (·.has p.src) &&
    r.dst.all (·.has p.dst) && r.dport.all (· = p.dport)

theorem Net.one_has {a b : Addr} : (Net.one a).has b = decide (b = a) := by
  have hshift : ∀ x : Addr, x >>> (32 - 32) = x := fun x => by simp
  unfold Net.has Net.one
  rw [hshift, hshift]

/-- What a chain does with a packet: it gives it back, or has decided; `lost` where jumps are nested too deep. -/
inductive Outcome
  | passed
  | accepted
  | redirected (port : Nat)
  | lost
  deriving DecidableEq

/-- What a rule says about a packet, `none` where the next one is asked. -/
def Rule.verdict (jump : Str → Outcome) (p : Packet) (r : Rule) : Option Outcome :=
  if r.matches p then
    match r.target with
    | .accept => some .accepted
    | .ret => some .passed
    | .redirect port => some (.redirected port)
    | .jump chain =>
        match jump chain with
        | .passed => none
        | decided => some decided
  else none

def scan (jump : Str → Outcome) (p : Packet) (rules : List Rule) : Outcome :=
  (rules.findSome? (Rule.verdict jump p)).getD .passed

/-- The chains by their names. -/
abbrev Table := Str → Option (List Rule)

def Table.chain (t : Table) (c : Str) : List Rule := (t c).getD []

/-- What the chain does with the packet, with jumps nested up to `depth`. -/
def Table.walk (t : Table) (p : Packet) : Nat → Str → Outcome
  | 0, _ => .lost
  | depth + 1, c => scan (t.walk p depth) p (t.chain c)

/-! ### Commands -/

/-- A command that has been read: it makes a chain, appends rules to one, or does nothing to the table. -/
inductive Command
  | newChain (c : Str)
  | append (c : Str) (rules : List Rule)
  | other

/-- The chain a rule jumps to is there. -/
def Rule.fits (t : Table) (r : Rule) : Bool :=
  match r.target with
  | .jump chain => (t chain).isSome
  | _ => true

/-- A command that cannot be carried out changes nothing. -/
def Table.exec (t : Table) : Command → Table
  | .newChain c => if (t c).isSome then t else Function.update t c (some [])
  | .append c rules =>
      match t c with
      | none => t
      | some old => if rules.all (Rule.fits t) then Function.update t c (some (old ++ rules)) else t
  | .other => t

def Table.run (t : Table) (cmds : List Command) : Table := cmds.foldl Table.exec t

/-- The rules that commands append to a chain. -/
def added (cmds : List Command) (c : Str) : List Rule :=
  cmds.flatMap fun cmd =>
    match cmd with
    | .append c' rules => if c' = c then rules else []
    | _ => []

/-- The commands can be carried out where the chains in `cs` are there. -/
def Command.Fits (cs : Set Str) : Command → Prop
  | .newChain c => c ∈ cs
  | .append c rules => c ∈ cs ∧ ∀ r ∈ rules, ∀ c', r.target = .jump c' → c' ∈ cs
  | .other => True

section Run

variable {t : Table} {cs : Set Str} {cmd : Command} {cmds : List Command} {c : Str}

theorem exec_of_fits (hcs : ∀ c ∈ cs, (t c).isSome) (hfits : cmd.Fits cs) (c : Str) :
    (t.exec cmd) c = (t c).map (· ++ added [cmd] c) := by
  cases cmd with
  | newChain c' =>
    have hthere : (t c').isSome := hcs c' hfits
    simp [Table.exec, hthere, added]
  | append c' rules =>
    obtain ⟨old, hold⟩ := Option.isSome_iff_exists.mp (hcs c' hfits.1)
    have hall : rules.all (Rule.fits t) = true := by
      refine List.all_eq_true.mpr fun r hr => ?_
      unfold Rule.fits
      split
      · exact hcs _ (hfits.2 r hr _ ‹_›)
      · rfl
    simp only [Table.exec, hold, hall, if_true]
    by_cases hc : c = c'
    · subst hc
      simp [added, hold]
    · rw [Function.update_of_ne hc]
      simp [added, Ne.symm hc]
  | other => simp [Table.exec, added]

theorem added_cons (cmd : Command) (cmds : List Command) (c : Str) :
    added (cmd :: cmds) c = added [cmd] c ++ added cmds c := by
  simp [added]

theorem added_append (cmds cmds' : List Command) (c : Str) :
    added (cmds ++ cmds') c = added cmds c ++ added cmds' c := List.flatMap_append

theorem added_cons_cons (cmd cmd' : Command) (cmds : List Command) (c : Str) :
    added (cmd :: cmd' :: cmds) c = added [cmd] c ++ added (cmd' :: cmds) c := added_cons cmd (cmd' :: cmds) c

theorem added_other (c : Str) : added [.other] c = [] := rfl

theorem added_newChain (c' c : Str) : added [.newChain c'] c = [] := rfl

theorem added_rules (c' : Str) (rules : List Rule) (c : Str) :
    added [.append c' rules] c = if c' = c then rules else [] := List.append_nil _

/-- Where the chains are there, each gets the rules that are appended to it. -/
theorem run_of_fits (hcs : ∀ c ∈ cs, (t c).isSome) (hfits : ∀ cmd ∈ cmds, cmd.Fits cs) (c : Str) :
    (t.run cmds) c = (t c).map (· ++ added cmds c) := by
  induction cmds generalizing t with
  | nil => simp [Table.run, added]
  | cons cmd cmds ih =>
    have hexec := exec_of_fits hcs (hfits cmd List.mem_cons_self)
    have hcs' : ∀ c ∈ cs, ((t.exec cmd) c).isSome := by
      intro c hc
      rw [hexec, Option.isSome_map]
      exact hcs c hc
    show (t.exec cmd).run cmds c = _
    rw [ih hcs' fun cmd hcmd => hfits cmd (List.mem_cons_of_mem _ hcmd), hexec, Option.map_map,
      added_cons cmd cmds]
    simp [Function.comp_def]

end Run

/-! ### Going through a chain -/

section Scan

variable {jump jump' : Str → Outcome} {p : Packet} {rules rules' : List Rule} {r : Rule}

/-- The rules are the same, over and over. -/
theorem findSome?_repeated {α β : Type} (f : α → Option β) (l : List α) (n : Nat) :
    ((List.replicate (n + 1) l).flatten).findSome? f = l.findSome? f := by
  induction n with
  | zero => simp
  | succ n ih =>
    rw [List.replicate_succ, List.flatten_cons, List.findSome?_append, ih]
    cases l.findSome? f <;> rfl

theorem scan_repeated (rules : List Rule) (n : Nat) :
    scan jump p (List.replicate (n + 1) rules).flatten = scan jump p rules := by
  unfold scan
  rw [findSome?_repeated]

/-- A packet that the first rules say nothing about is left to the others. -/
theorem scan_append_of_none (h : ∀ r ∈ rules, r.verdict jump p = none) :
    scan jump p (rules ++ rules') = scan jump p rules' := by
  unfold scan
  rw [List.findSome?_append, List.findSome?_eq_none_iff.mpr h]
  rfl

theorem scan_cons_of_none (h : r.verdict jump p = none) : scan jump p (r :: rules) = scan jump p rules := by
  have hone : ∀ r' ∈ [r], r'.verdict jump p = none := fun _ hr' => List.mem_singleton.mp hr' ▸ h
  exact scan_append_of_none hone

theorem scan_cons_of_some {o : Outcome} (h : r.verdict jump p = some o) : scan jump p (r :: rules) = o := by
  unfold scan
  rw [List.findSome?_cons, h]
  rfl

/-- A packet that matches one of the first rules, which all give it back, is given back. -/
theorem scan_append_of_ret (h : ∀ r ∈ rules, r.target = .ret) :
    scan jump p (rules ++ rules') = if rules.any (·.matches p) then .passed else scan jump p rules' := by
  induction rules with
  | nil => rfl
  | cons r rules ih =>
    have hverdict : r.verdict jump p = if r.matches p then some .passed else none := by
      unfold Rule.verdict
      rw [h r List.mem_cons_self]
    cases hmatch : r.matches p with
    | true =>
      rw [hmatch] at hverdict
      rw [List.cons_append, scan_cons_of_some hverdict, List.any_cons, hmatch]
      rfl
    | false =>
      rw [hmatch] at hverdict
      rw [List.cons_append, scan_cons_of_none hverdict, ih fun r hr => h r (List.mem_cons_of_mem _ hr), List.any_cons,
        hmatch, Bool.false_or]

theorem verdict_of_not_matches (h : r.matches p = false) : r.verdict jump p = none := by
  unfold Rule.verdict
  rw [h]
  rfl

/-- A jump decides about the packets that the other chain does not give back. -/
theorem scan_cons_of_jump {c : Str} (h : r.target = .jump c) :
    scan jump p (r :: rules) = if r.matches p = true ∧ jump c ≠ .passed then jump c else scan jump p rules := by
  cases hmatch : r.matches p with
  | false =>
    rw [scan_cons_of_none (verdict_of_not_matches hmatch)]
    simp
  | true =>
    by_cases hpassed : jump c = .passed
    · rw [scan_cons_of_none (by simp [Rule.verdict, hmatch, h, hpassed])]
      simp [hpassed]
    · rw [scan_cons_of_some (o := jump c) (by simp [Rule.verdict, hmatch, h])]
      simp [hpassed]

end Scan

end Netfilter
