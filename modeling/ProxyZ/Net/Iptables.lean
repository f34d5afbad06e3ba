import ProxyZ.Go.Fields
import ProxyZ.Go.Url
import ProxyZ.Net.Chains

/-!
# The commands of iptables

A shell reads a script line by line and takes the words of a line as a command; `iptables` reads its arguments from the
left to the right. As far as they are modelled, these are `-P`, `-N`, `-A` and `-t`, and of a rule `-i`, `-p`, `-s`,
`-d`, `--dport`, `-j` and `--to-ports`. A name in place of an address stands for all of its addresses, with a rule for
each of them, and a command with a name that has none fails, as one does whose arguments make no sense.
-/

namespace Netfilter

open Go

/-! ### Arguments -/

/-- A decimal number below a bound. -/
def number? (bound : Nat) (s : Str) : Option Nat :=
  if s ≠ [] ∧ s.all isDigit ∧ decimal s < bound then some (decimal s) else none

/-- An address in dotted decimal. -/
def ipv4? (s : Str) : Option Addr :=
  match (split (str ".") s).map (number? 256) with
  | [some a, some b, some c, some d] => some (BitVec.ofNat 32 (((a * 256 + b) * 256 + c) * 256 + d))
  | _ => none

/-- The addresses that are meant, by the text of an address or by a name. -/
def hostAddrs (lookup : Str → List Addr) (s : Str) : List Addr :=
  match ipv4? s with
  | some a => [a]
  | none => lookup s

/-- The argument of `-s` and `-d`. -/
def nets (lookup : Str → List Addr) (s : Str) : List Net :=
  match cut (str "/") s with
  | none => (hostAddrs lookup s).map Net.one
  | some (host, len) =>
      match number? 33 len with
      | none => []
      | some len => (hostAddrs lookup host).map fun a => ⟨a, len⟩

def proto? (s : Str) : Option Proto :=
  if s = str "tcp" then some .tcp else if s = str "udp" then some .udp else none

/-- The arguments that have been read. -/
structure Args where
  table : Str := str "filter"
  op : Option (Str × Str) := none
  iface : Option Str := none
  proto : Option Proto := none
  srcs : List (Option Net) := [none]
  dsts : List (Option Net) := [none]
  dport : Option Nat := none
  target : Option Str := none
  toPorts : Option Nat := none

/-- One flag with its argument. -/
def Args.read (lookup : Str → List Addr) (x : Args) (flag arg : Str) : Option Args :=
  if flag = str "-t" then some { x with table := arg }
  else if flag = str "-N" ∨ flag = str "-A" ∨ flag = str "-P" then
    if x.op.isSome then none else some { x with op := some (flag, arg) }
  else if flag = str "-i" then some { x with iface := some arg }
  else if flag = str "-p" then (proto? arg).map fun proto => { x with proto := some proto }
  else if flag = str "-s" then if nets lookup arg = [] then none else some { x with srcs := (nets lookup arg).map some }
  else if flag = str "-d" then if nets lookup arg = [] then none else some { x with dsts := (nets lookup arg).map some }
  else if flag = str "--dport" then
    if x.proto.isSome then (number? 65536 arg).map fun dport => { x with dport := some dport } else none
  else if flag = str "-j" then some { x with target := some arg }
  else if flag = str "--to-ports" then
    if x.target = some (str "REDIRECT") then (number? 65536 arg).map fun port => { x with toPorts := some port }
    else none
  else none

/-- All arguments; `-P` has two, and `none` where they make no sense. -/
def Args.readAll (lookup : Str → List Addr) : List Str → Args → Option Args
  | [], x => some x
  | [_], _ => none
  | flag :: arg :: rest, x =>
      match rest with
      | [policy] => if flag = str "-P" ∧ policy.head? ≠ some 45 then x.read lookup flag arg else none
      | _ => (x.read lookup flag arg).bind (readAll lookup rest)

def Args.targetOf (x : Args) : Option Target :=
  match x.target with
  | none => none
  | some name =>
      if name = str "ACCEPT" then some .accept
      else if name = str "RETURN" then some .ret
      else if name = str "REDIRECT" then x.toPorts.map .redirect
      else some (.jump name)

/-- A rule for each pair of a source and a destination. -/
def Args.rules (x : Args) (target : Target) : List Rule :=
  x.srcs.flatMap fun src =>
    x.dsts.map fun dst => { iface := x.iface, proto := x.proto, src, dst, dport := x.dport, target }

/-- What a call of `iptables` does to the table `nat`. -/
def command (lookup : Str → List Addr) (args : List Str) : Command :=
  match Args.readAll lookup args {} with
  | none => .other
  | some x =>
      if x.table ≠ str "nat" then .other
      else
        match x.op with
        | none => .other
        | some (flag, c) =>
            if flag = str "-N" then .newChain c
            else if flag = str "-A" then
              match x.targetOf with
              | none => .other
              | some target => .append c (x.rules target)
            else .other

/-! ### Scripts -/

/-- The characters that mean themselves to a shell. -/
def isWordByte (c : UInt8) : Bool :=
  isDigit c || (65 ≤ c && c ≤ 90) || (97 ≤ c && c ≤ 122) || c = 45 || c = 46 || c = 47 || c = 95 || c = 58

/-- The words of a line, none for a comment, and `none` where the shell does more than to take words. -/
def simpleWords (line : Str) : Option (List Str) :=
  match fields line with
  | [] => some []
  | word :: words =>
      if word.head? = some 35 then some []
      else if (word :: words).flatten.all isWordByte then some (word :: words)
      else none

/-- What a line does to the table `nat`, `none` where it is more than a call of `iptables`. -/
def lineCommand (lookup : Str → List Addr) (line : Str) : Option Command :=
  match simpleWords line with
  | none => none
  | some [] => some .other
  | some (name :: args) => if name = str "iptables" then some (command lookup args) else none

def scriptCommands (lookup : Str → List Addr) (script : Str) : Option (List Command) :=
  (split (str "\n") script).mapM (lineCommand lookup)

/-- `sh`. -/
def sh (lookup : Str → List Addr) (script : Str) (t : Table) : Option Table :=
  (scriptCommands lookup script).map t.run

/-! ### What lines say -/

section Lines

variable {lookup : Str → List Addr} {words : List Str} {c d port : Str}

/-! A script in parts. -/

theorem mapM_append_some {α β : Type} {f : α → Option β} {l l' : List α} {a b : List β} (h : l.mapM f = some a)
    (h' : l'.mapM f = some b) : (l ++ l').mapM f = some (a ++ b) := by
  rw [List.mapM_append, h, h']
  rfl

theorem mapM_map_some {α β γ : Type} {f : β → Option γ} {k : α → β} {g : α → γ} {l : List α}
    (h : ∀ x ∈ l, f (k x) = some (g x)) : (l.map k).mapM f = some (l.map g) := by
  induction l with
  | nil => rfl
  | cons x l ih =>
    rw [List.map_cons, List.mapM_cons, h x List.mem_cons_self, ih fun y hy => h y (List.mem_cons_of_mem x hy)]
    rfl

theorem mapM_cons_some {α β : Type} {f : α → Option β} {x : α} {l : List α} {y : β} {ys : List β} (h : f x = some y)
    (hl : l.mapM f = some ys) : (x :: l).mapM f = some (y :: ys) := by
  rw [List.mapM_cons, h, hl]
  rfl

theorem isWordByte_ascii : ∀ b, isWordByte b = true → b < 128 ∧ isSpace b = false ∧ b ≠ 35 ∧ b ≠ 10 :=
  forall_byte (by decide +kernel)

/-- A word without characters that mean more to a shell. -/
structure PlainWord (w : Str) : Prop where
  nonempty : w ≠ []
  bytes : ∀ b ∈ w, isWordByte b = true

theorem plainWord_iff {w : Str} : (!w.isEmpty && w.all isWordByte) = true ↔ PlainWord w := by
  rw [Bool.and_eq_true, Bool.not_eq_true', List.isEmpty_eq_false_iff, List.all_eq_true]
  exact ⟨fun h => ⟨h.1, h.2⟩, fun h => ⟨h.nonempty, h.bytes⟩⟩

instance (w : Str) : Decidable (PlainWord w) := decidable_of_iff _ plainWord_iff

theorem PlainWord.isWord {w : Str} (h : PlainWord w) : IsWord w :=
  isWord_of_ascii h.nonempty fun b hb =>
    ⟨(isWordByte_ascii b (h.bytes b hb)).1, (isWordByte_ascii b (h.bytes b hb)).2.1⟩

/-- A word among others. -/
theorem PlainWord.among {w : Str} (h : PlainWord w) {before behind : List Str} (hbefore : ∀ x ∈ before, PlainWord x)
    (hbehind : ∀ x ∈ behind, PlainWord x) : ∀ x ∈ before ++ w :: behind, PlainWord x :=
  List.forall_mem_append.mpr ⟨hbefore, List.forall_mem_cons.mpr ⟨h, hbehind⟩⟩

theorem simpleWords_of_fields {line : Str} (hfields : fields line = words) (hwords : ∀ w ∈ words, PlainWord w) :
    simpleWords line = some words := by
  unfold simpleWords
  rw [hfields]
  cases words with
  | nil => rfl
  | cons word words =>
    have hword := hwords word List.mem_cons_self
    obtain ⟨b, rest, rfl⟩ := List.exists_cons_of_ne_nil hword.nonempty
    have hhash : ¬(b :: rest).head? = some 35 := by
      rw [List.head?_cons, Option.some.injEq]
      exact (isWordByte_ascii b (hword.bytes b List.mem_cons_self)).2.2.1
    have hall : ((b :: rest) :: words).flatten.all isWordByte = true := by
      refine List.all_eq_true.mpr fun x hx => ?_
      obtain ⟨w, hw, hmem⟩ := List.mem_flatten.mp hx
      exact (hwords w hw).bytes x hmem
    dsimp only
    rw [if_neg hhash, if_pos hall]

theorem simpleWords_intercalate (hwords : ∀ w ∈ words, PlainWord w) :
    simpleWords ([32].intercalate words) = some words :=
  simpleWords_of_fields (fields_intercalate rfl fun w hw => (hwords w hw).isWord) hwords

theorem isDigit_of_number? {bound n : Nat} {s : Str} (h : number? bound s = some n) :
    s ≠ [] ∧ ∀ b ∈ s, isDigit b = true := by
  unfold number? at h
  split_ifs at h with hs
  exact ⟨hs.1, fun b hb => List.all_eq_true.mp hs.2.1 b hb⟩

theorem ipv4?_bytes {s : Str} {a : Addr} (h : ipv4? s = some a) : s ≠ [] ∧ ∀ b ∈ s, isDigit b = true ∨ b = 46 := by
  unfold ipv4? at h
  split at h
  · rename_i hparts
    have hdigits : ∀ p ∈ split (str ".") s, ∀ b ∈ p, isDigit b = true := by
      intro p hp
      have hnum : number? 256 p ∈ (split (str ".") s).map (number? 256) := List.mem_map_of_mem hp
      rw [hparts] at hnum
      simp only [List.mem_cons, List.not_mem_nil, or_false] at hnum
      rcases hnum with hnum | hnum | hnum | hnum
      all_goals exact (isDigit_of_number? hnum).2
    refine ⟨?_, fun b hb => ?_⟩
    · rintro rfl
      cases hparts
    · by_cases hdot : b = 46
      · exact Or.inr hdot
      · obtain ⟨p, hp, hbp⟩ := exists_mem_split hdot hb
        exact Or.inl (hdigits p hp b hbp)
  · cases h

theorem isWordByte_of_isDigit {b : UInt8} (h : isDigit b = true) : isWordByte b = true := by
  simp [isWordByte, h]

theorem plainWord_of_ipv4? {s : Str} {a : Addr} (h : ipv4? s = some a) : PlainWord s := by
  obtain ⟨hne, hbytes⟩ := ipv4?_bytes h
  refine ⟨hne, fun b hb => ?_⟩
  rcases hbytes b hb with hdigit | rfl
  · exact isWordByte_of_isDigit hdigit
  · rfl

theorem plainWord_of_number? {bound n : Nat} {s : Str} (h : number? bound s = some n) : PlainWord s :=
  ⟨(isDigit_of_number? h).1, fun b hb => isWordByte_of_isDigit ((isDigit_of_number? h).2 b hb)⟩

/-- A host stands for its addresses. -/
theorem nets_of_notMem (lookup : Str → List Addr) {s : Str} (h : (47 : UInt8) ∉ s) :
    nets lookup s = (hostAddrs lookup s).map Net.one := by
  have hcut : cut (str "/") s = none := cut_singleton_none h
  unfold nets
  rw [hcut]

theorem nets_of_ipv4? (lookup : Str → List Addr) {s : Str} {a : Addr} (h : ipv4? s = some a) :
    nets lookup s = [Net.one a] := by
  have hslash : (47 : UInt8) ∉ s := by
    intro hmem
    rcases (ipv4?_bytes h).2 47 hmem with hdigit | hdot
    · cases hdigit
    · cases hdot
  have haddrs : hostAddrs lookup s = [a] := by
    unfold hostAddrs
    rw [h]
  rw [nets_of_notMem lookup hslash, haddrs]
  rfl

/-- The text of a network, by numbers. -/
def netText? (s : Str) : Option Net := do
  let (host, len) ← cut (str "/") s
  let a ← ipv4? host
  let len ← number? 33 len
  pure ⟨a, len⟩

theorem nets_of_netText? (lookup : Str → List Addr) {s : Str} {n : Net} (h : netText? s = some n) :
    nets lookup s = [n] := by
  obtain ⟨⟨host, len⟩, hcut, h⟩ := Option.bind_eq_some_iff.mp h
  obtain ⟨a, ha, h⟩ := Option.bind_eq_some_iff.mp h
  obtain ⟨l, hl, h⟩ := Option.bind_eq_some_iff.mp h
  cases h
  have haddrs : hostAddrs lookup host = [a] := by
    unfold hostAddrs
    rw [ha]
  unfold nets
  rw [hcut]
  dsimp only
  rw [hl, haddrs]
  rfl

/-- Packets to some addresses are given back. -/
def returnTo (n : Net) : Rule := { dst := some n, target := .ret }

/-- The rules that a line appends. -/
def adds (c : Str) : List Rule → Command
  | [] => .other
  | rules => .append c rules

theorem added_adds (c : Str) (rules : List Rule) (c' : Str) :
    added [adds c rules] c' = if c = c' then rules else [] := by
  cases rules with
  | nil => simp [added, adds]
  | cons r rules => simp [added, adds]

theorem added_map_adds {α : Type} (f : α → List Rule) (l : List α) (c c' : Str) :
    added (l.map fun x => adds c (f x)) c' = if c = c' then l.flatMap f else [] := by
  induction l with
  | nil => simp [added]
  | cons x l ih =>
    rw [List.map_cons, added_cons, added_adds, ih, List.flatMap_cons]
    split_ifs <;> rfl

theorem fits_adds {cs : Set Str} {rules : List Rule} (hc : c ∈ cs) (hrules : ∀ r ∈ rules, r.target = .ret) :
    (adds c rules).Fits cs := by
  cases rules with
  | nil => trivial
  | cons r rules =>
    refine ⟨hc, fun r' hr' c' hjump => ?_⟩
    rw [hrules r' hr'] at hjump
    cases hjump

theorem command_returnTo (lookup : Str → List Addr) (c d : Str) :
    command lookup [str "-t", str "nat", str "-A", c, str "-d", d, str "-j", str "RETURN"] =
      adds c ((nets lookup d).map returnTo) := by
  have hread : Args.readAll lookup [str "-t", str "nat", str "-A", c, str "-d", d, str "-j", str "RETURN"] {} =
      (if nets lookup d = [] then none
        else some ({ table := str "nat", op := some (str "-A", c), dsts := (nets lookup d).map some } : Args)).bind
          fun x => some { x with target := some (str "RETURN") } := rfl
  unfold command
  rw [hread]
  rcases nets lookup d with _ | ⟨n, ns⟩
  · rfl
  · show Command.append c (Args.rules _ _) = .append c _
    simp [Args.rules, returnTo]

/-- A command whose flag has a flag as its argument. -/
theorem command_returnTo_nothing (lookup : Str → List Addr) (c : Str) :
    command lookup [str "-t", str "nat", str "-A", c, str "-d", str "-j", str "RETURN"] = .other := by
  have hread : Args.readAll lookup [str "-t", str "nat", str "-A", c, str "-d", str "-j", str "RETURN"] {} = none := rfl
  unfold command
  rw [hread]

/-- TCP packets from some addresses to a port are given back. -/
def returnFrom (port : Nat) (n : Net) : Rule :=
  { proto := some .tcp, src := some n, dport := some port, target := .ret }

theorem command_returnFrom (lookup : Str → List Addr) (c d : Str) {text : Str} {port : Nat}
    (hport : number? 65536 text = some port) :
    command lookup [str "-t", str "nat", str "-A", c, str "-p", str "tcp", str "-s", d, str "--dport", text, str "-j",
      str "RETURN"] = adds c ((nets lookup d).map (returnFrom port)) := by
  have hread : Args.readAll lookup [str "-t", str "nat", str "-A", c, str "-p", str "tcp", str "-s", d, str "--dport",
      text, str "-j", str "RETURN"] {} =
        (if nets lookup d = [] then none
          else some ({
            table := str "nat", op := some (str "-A", c), proto := some .tcp,
            srcs := (nets lookup d).map some } : Args)).bind
              fun x =>
              (if x.proto.isSome then (number? 65536 text).map (fun n => ({ x with dport := some n } : Args))
                else none).bind fun x => some { x with target := some (str "RETURN") } := rfl
  unfold command
  rw [hread, hport]
  rcases nets lookup d with _ | ⟨n, ns⟩
  · rfl
  · show Command.append c (((n :: ns).map some).flatMap fun src => [_]) = .append c _
    rw [List.flatMap_map]
    exact congrArg _ List.map_eq_flatMap.symm

end Lines

end Netfilter
