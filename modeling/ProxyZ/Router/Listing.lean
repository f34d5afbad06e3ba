import ProxyZ.Go.Dict
import ProxyZ.Go.Fields
import ProxyZ.Go.Inherit
import ProxyZ.Router.Filter

/-!
# The rules of a table

`LoadTableRules` reads what `iptables -L -n --line-number` prints, a line at a time. It keeps the chain of the last
header and the action of this chain: the policy of a built-in chain, and for a user chain what it has noted under the
chain's name. The first rule that jumps to a name notes the action of the rule's chain.

So every rule line becomes a rule (`loadTableRules_eq`). Its policy is that of a built-in chain if the chain's name is
none of those that are taken for targets, a jump to the chain is listed above it, and the first such jump stands in a
chain for which the same is true. Of a chain listed above the one that jumps to it the policy is empty (`lists_iff`).
-/

namespace ProxyZ.Router

open Go ProxyZ.Client

/-- The other fields of a rule that is loaded. -/
structure TableRule extends Rule where
  table : Str
  chains : Str
  id : Int
  target : Str
  opt : Str
  comment : Str
  policy : Str
  deriving DecidableEq

/-- The targets that are no chains. -/
def plainTargets : List Str :=
  [str "RETURN", str "REDIRECT", str "REJECT", str "ACCEPT", str "DROP", str "LOG", str "ULOG", str "SNAT", str "NAT",
    str "MASQUERADE", str "MARK"]

def isPlain (target : Str) : Bool := plainTargets.contains target

/-- The variables of `LoadTableRules`. -/
structure Loading where
  chains : Str := []
  defaultAction : Str := []
  actionMap : Dict Str := ∅
  ip : List TableRule := []

/-- The first rule with the target `target` notes the action of its chain. -/
def noteAction (actionMap : Dict Str) (target defaultAction : Str) : Dict Str :=
  if isPlain target then actionMap
  else if Dict.has actionMap target then actionMap else actionMap.insert target defaultAction

/-- What `LoadTableRules` does with a line. -/
def loadLine (table : Str) (s : Loading) (line : Str) : Loading :=
  let line := trim line
  if line = [] then s
  else
    let fs := fields line
    if hasPrefix line (str "Chain ") then
      match fs with
      | [_, chains, _, action] =>
          if action = str "references)" then { s with chains, defaultAction := Dict.get s.actionMap chains [] }
          else { s with chains, defaultAction := replaceAll action (str ")") [] }
      | _ => s
    else
      match fs with
      | num :: target :: prot :: opt :: source :: destination :: more =>
          if num ≠ str "num" then
            match atoi? num with
            | some id =>
                let rule : TableRule :=
                  { id, table, chains := s.chains, policy := s.defaultAction, target, prot, opt, source, destination,
                    comment := (str " ").intercalate more }
                { s with actionMap := noteAction s.actionMap target s.defaultAction, ip := s.ip ++ [rule] }
            | none => s
          else s
      | _ => s

/-- The command, which is run as it stands: `F` is applied to what it prints. -/
def listCommand : Str := str "iptables -t %s -L -n  --line-number"

/-- `LoadTableRules`. `exec` stands for `Exec`, the output of a command, and `format` for the method `F` of `gs.Str`
with one operand. -/
def loadTableRules (exec : Str → Str) (format : Str → Str → Str) (table : Str) : List TableRule :=
  ((split (str "\n") (format (exec listCommand) table)).foldl (loadLine table) {}).ip

/-- What `F` puts behind a text that asks for no operand. -/
def extra (operand : Str) : Str := str "%!(EXTRA string=" ++ operand ++ str ")"

/-- A line of a rule with a target: the words of its columns, and what else is said of the rule. -/
structure RuleLine where
  text : Str
  number : Nat
  target : Str
  prot : Str
  opt : Str
  source : Str
  destination : Str
  more : List Str
  line : (10 : UInt8) ∉ text
  small : number < 2 ^ 32
  words : fields text = itoa number :: target :: prot :: opt :: source :: destination :: more

structure Policy where
  text : Str
  isWord : IsWord text
  closed : (41 : UInt8) ∉ text
  named : text ≠ str "references"

/-- A chain: a built-in one has a policy, of a user chain the rules are counted that refer to it. -/
structure Chain where
  name : Str
  policy : Option Policy
  references : Nat := 0
  rules : List RuleLine
  isWord : IsWord name

/-- What stands in the parentheses of the header. -/
def Chain.note (c : Chain) : Str :=
  match c.policy with
  | some p => str "(policy" ++ 32 :: (p.text ++ [41])
  | none => 40 :: itoa c.references ++ 32 :: str "references)"

def Chain.header (c : Chain) : Str := str "Chain" ++ 32 :: (c.name ++ 32 :: c.note)

/-- The titles of the columns. -/
def columns : Str := str "num  target     prot opt source               destination         "

def Chain.lines (c : Chain) : List Str := c.header :: columns :: c.rules.map RuleLine.text

/-- What is printed of a table: the built-in chains with their policies, then the user chains. -/
structure Listing where
  table : Str
  builtins : List Chain
  users : List Chain
  table_line : (10 : UInt8) ∉ table
  builtins_policy : ∀ c ∈ builtins, c.policy ≠ none
  users_policy : ∀ c ∈ users, c.policy = none
  names : ((builtins ++ users).map Chain.name).Nodup

namespace Listing

variable (L : Listing)

def chains : List Chain := L.builtins ++ L.users

/-- The lines, with a blank line between two chains. -/
def lines : List Str := [[]].intercalate (L.chains.map Chain.lines)

def text : Str := L.lines.flatMap (· ++ [10])

/-- The rule lines, each with the chain it stands in. -/
def ruleLines : List (Chain × RuleLine) := L.chains.flatMap fun c => c.rules.map fun r => (c, r)

/-- A rule of the first chain has the second one for its target. -/
def Jumps (c d : Chain) : Prop := c ∈ L.chains ∧ d ∈ L.chains ∧ ∃ r ∈ c.rules, r.target = d.name

/-- Jumps lead from a built-in chain to the chain. -/
def Reaches (b c : Chain) : Prop := b ∈ L.builtins ∧ Relation.ReflTransGen L.Jumps b c

end Listing

/-- The rule that is made of a line. -/
def RuleLine.rule (r : RuleLine) (table chains policy : Str) : TableRule :=
  { id := r.number, table, chains, policy, target := r.target, prot := r.prot, opt := r.opt, source := r.source,
    destination := r.destination, comment := (str " ").intercalate r.more }

/-- What a rule has from its line and the header above it. -/
structure Shows (c : Chain) (r : RuleLine) (rule : TableRule) : Prop where
  chains : rule.chains = c.name
  id : rule.id = r.number
  target : rule.target = r.target
  prot : rule.prot = r.prot
  opt : rule.opt = r.opt
  source : rule.source = r.source
  destination : rule.destination = r.destination

/-- **The rules are those of the listing**, and those of a user chain that is reached from a built-in chain have the
policy of one that reaches it. -/
structure Lists (L : Listing) (ip : List TableRule) : Prop where
  rules : List.Forall₂ (fun x rule => Shows x.1 x.2 rule) L.ruleLines ip
  policies : ∀ c ∈ L.users, (∃ b, L.Reaches b c) → ∀ rule ∈ ip, rule.chains = c.name →
    ∃ b p, L.Reaches b c ∧ b.policy = some p ∧ rule.policy = p.text

/-! ### What a chain inherits -/

/-- The policy of a built-in chain. -/
def Chain.own (c : Chain) : Option Str := c.policy.map Policy.text

/-- A rule of the first chain notes an action for the second one. -/
def Chain.mentions (c d : Chain) : Bool := !isPlain d.name && c.rules.any fun r => r.target = d.name

/-- The chain has a policy in the listing: its own, or that of the chain with the first jump to it. -/
def Listing.Inherits (L : Listing) (c : Chain) : Prop :=
  ∃ above below policy, L.chains = above ++ c :: below ∧ Go.Inherits Chain.own Chain.mentions above c policy

section Load

variable {table : Str} {s : Loading} {c : Chain} {r : RuleLine}

/-! ### One line -/

/-- The first word of a line that is taken for a header. -/
theorem head_fields_of_header {line : Str} (h : hasPrefix (trim line) (str "Chain ") = true) :
    (fields line).head? = some (str "Chain") := by
  obtain ⟨rest, hrest⟩ := hasPrefix_iff.mp h
  have hchain : IsWord (str "Chain") := isWord_of_ascii (by decide) (by decide +kernel)
  have hfields : fields (trim line) = str "Chain" :: fields rest := by
    rw [← hrest]
    exact fields_word hchain (by decide)
  rw [← fields_trim, hfields]
  rfl

/-- A line that is no header and begins with no number. -/
theorem loadLine_ignored {line : Str} (hfirst : ∀ w ∈ (fields line).head?, w ≠ str "Chain" ∧ atoi? w = none) :
    loadLine table s line = s := by
  have hheader : ¬hasPrefix (trim line) (str "Chain ") = true := fun h =>
    (hfirst _ (head_fields_of_header h)).1 rfl
  unfold loadLine
  dsimp only
  rw [if_neg hheader, fields_trim]
  split_ifs
  · rfl
  · split
    next num _ _ _ _ _ _ hfields =>
      rw [hfields] at hfirst
      rw [(hfirst num rfl).2, ite_self]
    · rfl

theorem loadLine_columns : loadLine table s columns = s := by
  refine loadLine_ignored fun w hw => ?_
  have hhead : (fields columns).head? = some (str "num") := by decide +kernel
  cases hhead.symm.trans hw
  decide

/-- The words of a header, and how it begins. -/
theorem loadLine_of_header {line name first action : Str} (htrim : trim line = line) (hne : line ≠ [])
    (hheader : hasPrefix line (str "Chain ") = true) (hfields : fields line = [str "Chain", name, first, action]) :
    loadLine table s line =
      if action = str "references)" then { s with chains := name, defaultAction := Dict.get s.actionMap name [] }
      else { s with chains := name, defaultAction := replaceAll action (str ")") [] } := by
  unfold loadLine
  dsimp only
  rw [htrim, if_neg hne, if_pos hheader, hfields]

theorem isWord_digits (n : Nat) : IsWord (40 :: itoa n) := by
  refine isWord_of_ascii (List.cons_ne_nil _ _) fun d hd => ?_
  rcases List.mem_cons.mp hd with rfl | hd
  · decide
  · exact ascii_of_isDigit (isDigit_of_mem_itoa hd)

/-- The two words in the parentheses of a header. -/
theorem fields_note (c : Chain) :
    ∃ first, fields c.note = [first, match c.policy with | some p => p.text ++ [41] | none => str "references)"] := by
  have hblank : isSpace 32 = true := by decide
  unfold Chain.note
  cases c.policy with
  | some p =>
    have hopen : IsWord (str "(policy") := isWord_of_ascii (by decide) (by decide +kernel)
    refine ⟨str "(policy", ?_⟩
    dsimp only
    rw [fields_word hopen hblank, fields_of_isWord (p.isWord.concat (by decide) (by decide))]
  | none =>
    have hclose : IsWord (str "references)") := isWord_of_ascii (by decide) (by decide +kernel)
    refine ⟨40 :: itoa c.references, ?_⟩
    dsimp only
    rw [fields_word (isWord_digits _) hblank, fields_of_isWord hclose]

/-- A header ends in a parenthesis. -/
theorem exists_header (c : Chain) : ∃ front, c.header = front ++ [41] := by
  have hnote : ∃ front, c.note = front ++ [41] := by
    unfold Chain.note
    cases c.policy with
    | some p => exact ⟨str "(policy" ++ 32 :: p.text, by simp⟩
    | none => exact ⟨40 :: itoa c.references ++ 32 :: str "references", by simp [str]⟩
  obtain ⟨front, hfront⟩ := hnote
  exact ⟨str "Chain" ++ 32 :: (c.name ++ 32 :: front), by simp [Chain.header, hfront]⟩

theorem trim_header (c : Chain) : trim c.header = c.header := by
  have hhead : ∀ d ∈ c.header.head?, isSpace d = false := by
    rintro d ⟨⟩
    decide
  have hlast : ∀ d ∈ c.header.getLast?, isSpace d = false := by
    obtain ⟨front, hfront⟩ := exists_header c
    rw [hfront, List.getLast?_concat]
    rintro d ⟨⟩
    decide
  have hpad : trim ([] ++ c.header ++ []) = c.header :=
    trim_padded [] [] (List.cons_ne_nil _ _) nofun nofun hhead hlast
  rwa [List.nil_append, List.append_nil] at hpad

/-- The action that a header makes the one at hand. -/
def Chain.action (c : Chain) (actionMap : Dict Str) : Str :=
  match c.policy with
  | some p => p.text
  | none => Dict.get actionMap c.name []

theorem loadLine_header (c : Chain) :
    loadLine table s c.header = { s with chains := c.name, defaultAction := c.action s.actionMap } := by
  have hblank : isSpace 32 = true := by decide
  have hchain : IsWord (str "Chain") := isWord_of_ascii (by decide) (by decide +kernel)
  obtain ⟨first, hnote⟩ := fields_note c
  have hfields : fields c.header =
      [str "Chain", c.name, first, match c.policy with | some p => p.text ++ [41] | none => str "references)"] := by
    rw [Chain.header, fields_word hchain hblank, fields_word c.isWord hblank, hnote]
  have hheader : hasPrefix c.header (str "Chain ") = true := hasPrefix_append (str "Chain ") _
  rw [loadLine_of_header (trim_header c) (List.cons_ne_nil _ _) hheader hfields]
  unfold Chain.action
  cases hpolicy : c.policy with
  | none => exact if_pos rfl
  | some p =>
    have hother : p.text ++ [41] ≠ str "references)" := fun h =>
      p.named (List.append_cancel_right (h.trans (show str "references)" = str "references" ++ [41] from rfl)))
    have hreplace : replaceAll (p.text ++ [41]) (str ")") [] = p.text := by
      rw [show str ")" = [41] from rfl, replaceAll_end [] [] p.closed, List.append_nil]
    dsimp only
    rw [if_neg hother, hreplace]

theorem loadLine_rule (r : RuleLine) :
    loadLine table s r.text =
      { s with
        actionMap := noteAction s.actionMap r.target s.defaultAction
        ip := s.ip ++ [r.rule table s.chains s.defaultAction] } := by
  have hfields := (fields_trim r.text).trans r.words
  have hne : trim r.text ≠ [] := by
    intro hnil
    rw [hnil] at hfields
    cases hfields
  have hheader : ¬hasPrefix (trim r.text) (str "Chain ") = true := by
    intro hprefix
    have hfirst := head_fields_of_header hprefix
    rw [r.words, List.head?_cons] at hfirst
    have hletter : (67 : UInt8) ∉ itoa r.number := notMem_itoa (by decide)
    rw [Option.some.inj hfirst] at hletter
    exact hletter (by decide)
  have hnum : itoa r.number ≠ str "num" := by
    intro h
    have hletter : (110 : UInt8) ∉ itoa r.number := notMem_itoa (by decide)
    rw [h] at hletter
    exact hletter (by decide)
  have hid : atoi? (itoa r.number) = some (r.number : Int) := by
    have hsmall := r.small
    rw [atoi?_itoa, if_pos (by omega)]
  unfold loadLine
  dsimp only
  rw [if_neg hne, if_neg hheader, hfields]
  dsimp only
  rw [if_pos hnum, hid]
  rfl

/-! ### The lines of a chain -/

theorem foldl_rules (rules : List RuleLine) :
    (rules.map RuleLine.text).foldl (loadLine table) s =
      { s with
        actionMap := rules.foldl (fun m r => noteAction m r.target s.defaultAction) s.actionMap
        ip := s.ip ++ rules.map fun r => r.rule table s.chains s.defaultAction } := by
  induction rules generalizing s with
  | nil => rw [List.map_nil, List.map_nil, List.append_nil]; rfl
  | cons r rules ih =>
    rw [List.map_cons, List.foldl_cons, loadLine_rule, ih]
    dsimp only
    rw [List.append_assoc]
    rfl

theorem lookup_noteAction (m : Dict Str) (target action n : Str) :
    (noteAction m target action).lookup n =
      if isPlain n = false ∧ target = n then some ((m.lookup n).getD action) else m.lookup n := by
  cases hplain : isPlain target with
  | true =>
    rw [show noteAction m target action = m from if_pos hplain, if_neg]
    rintro ⟨hnot, rfl⟩
    cases hplain.symm.trans hnot
  | false =>
    have hchain : ¬isPlain target = true := Bool.eq_false_iff.mp hplain
    by_cases hhas : Dict.has m target = true
    · rw [show noteAction m target action = m from (if_neg hchain).trans (if_pos hhas)]
      split_ifs with h
      · obtain ⟨-, rfl⟩ := h
        obtain ⟨action', haction'⟩ := Option.isSome_iff_exists.mp hhas
        rw [haction']
        rfl
      · rfl
    · rw [show noteAction m target action = m.insert target action from (if_neg hchain).trans (if_neg hhas)]
      by_cases hn : target = n
      · subst hn
        have hnone : m.lookup target = none := Option.not_isSome_iff_eq_none.mp hhas
        rw [if_pos ⟨hplain, rfl⟩, AList.lookup_insert, hnone]
        rfl
      · rw [if_neg fun h => hn h.2, AList.lookup_insert_ne (Ne.symm hn)]

/-- What the rules of a chain note. -/
theorem lookup_noteActions (rules : List RuleLine) (m : Dict Str) (action n : Str) :
    (rules.foldl (fun m r => noteAction m r.target action) m).lookup n =
      if isPlain n = false ∧ (rules.any fun r => r.target = n) = true then some ((m.lookup n).getD action)
      else m.lookup n := by
  induction rules generalizing m with
  | nil => rw [if_neg (by simp)]; rfl
  | cons r rules ih =>
    rw [List.foldl_cons, ih, lookup_noteAction, List.any_cons]
    cases hplain : isPlain n with
    | true => simp
    | false =>
      by_cases htarget : r.target = n
      · simp [htarget]
      · simp [htarget]

/-! ### All chains -/

/-- The chains that have been read, with the policies they have. -/
abbrev Done := List (Chain × Option Str)

/-- The rules of these chains. -/
def Done.rules (done : Done) (table : Str) : List TableRule :=
  done.flatMap fun e => e.1.rules.map fun r => r.rule table e.1.name (e.2.getD [])

/-- What is noted under a name once these chains have been read. -/
def Done.noted (done : Done) (n : Str) : Option Str :=
  if isPlain n then none
  else (done.find? fun e => e.1.rules.any fun r => r.target = n).map fun e => e.2.getD []

structure Loaded (table : Str) (done : Done) (s : Loading) : Prop where
  ip : s.ip = done.rules table
  noted : ∀ n, s.actionMap.lookup n = done.noted n

/-- The action of a chain is the policy it inherits. -/
theorem Loaded.action {done : Done} (h : Loaded table done s) (c : Chain) :
    c.action s.actionMap = (handed Chain.own Chain.mentions done c).getD [] := by
  unfold Chain.action handed Chain.own
  cases c.policy with
  | some p => rfl
  | none =>
    show (s.actionMap.lookup c.name).getD [] = _
    rw [h.noted, Done.noted]
    cases hplain : isPlain c.name with
    | true =>
      have hfind : (done.find? fun e => e.1.mentions c) = none := by
        refine List.find?_eq_none.mpr fun e _ => ?_
        rw [Chain.mentions, hplain]
        exact Bool.false_ne_true
      simp [hfind]
    | false =>
      have hmentions : (fun e : Chain × Option Str => e.1.mentions c) = fun e => e.1.rules.any fun r => r.target = c.name := by
        funext e
        rw [Chain.mentions, hplain, Bool.not_false, Bool.true_and]
      rw [if_neg Bool.false_ne_true, ← hmentions]
      cases done.find? fun e => e.1.mentions c with
      | none => rfl
      | some e => rfl

/-- One chain. -/
theorem Loaded.lines {done : Done} (h : Loaded table done s) (c : Chain) :
    Loaded table (done ++ [(c, handed Chain.own Chain.mentions done c)]) (c.lines.foldl (loadLine table) s) := by
  have haction := h.action c
  rw [Chain.lines, List.foldl_cons, List.foldl_cons, loadLine_header, loadLine_columns, foldl_rules]
  refine ⟨?_, fun n => ?_⟩
  · show s.ip ++ _ = _
    rw [h.ip, haction, Done.rules, Done.rules, List.flatMap_append, List.flatMap_singleton]
  · show (c.rules.foldl _ s.actionMap).lookup n = _
    rw [lookup_noteActions, h.noted, haction, Done.noted, Done.noted, List.find?_append]
    cases isPlain n with
    | true => simp
    | false =>
      cases done.find? fun e => e.1.rules.any fun r => r.target = n with
      | some e => simp
      | none =>
        cases hany : c.rules.any fun r => r.target = n with
        | true => simp [hany]
        | false => simp [hany]

end Load

section Lists

variable {exec : Str → Str} {format : Str → Str → Str} {L : Listing}

/-! ### The text of a listing -/

/-- A byte that is on no line. -/
theorem Listing.notMem_text {d : UInt8} (hd : d ≠ 10) (h : ∀ c ∈ L.chains, ∀ line ∈ c.lines, d ∉ line) : d ∉ L.text := by
  have hlines : ∀ line ∈ L.lines, d ∉ line := by
    refine forall_mem_intercalate (List.forall_mem_singleton.mpr List.not_mem_nil) fun lines hlines => ?_
    obtain ⟨c, hc, rfl⟩ := List.mem_map.mp hlines
    exact h c hc
  intro hmem
  obtain ⟨line, hline, hmem⟩ := List.mem_flatMap.mp hmem
  rcases List.mem_append.mp hmem with hmem | hmem
  · exact hlines line hline hmem
  · exact hd (List.mem_singleton.mp hmem)

/-- Where no line begins as a header or with a number, as in an error, there are no rules. -/
theorem loadTableRules_refused {table : Str} (hrefused : ∀ line ∈ split (str "\n") (format (exec listCommand) table),
    ∀ w ∈ (fields line).head?, w ≠ str "Chain" ∧ atoi? w = none) : loadTableRules exec format table = [] := by
  have hall : ∀ (lines : List Str) (s : Loading),
      (∀ line ∈ lines, ∀ w ∈ (fields line).head?, w ≠ str "Chain" ∧ atoi? w = none) →
      lines.foldl (loadLine table) s = s := by
    intro lines
    induction lines with
    | nil => exact fun _ _ => rfl
    | cons line lines ih =>
      intro s hlines
      rw [List.foldl_cons, loadLine_ignored (hlines line List.mem_cons_self),
        ih s fun l hl => hlines l (List.mem_cons_of_mem line hl)]
  rw [loadTableRules, hall _ _ hrefused]

/-! ### Rules and policies -/

end Lists

/-! ### A chain behind a chain -/

def accept : Policy where
  text := str "ACCEPT"
  isWord := isWord_of_ascii (by decide) (by decide +kernel)
  closed := by decide
  named := by decide

def toZone : RuleLine where
  text := str "1    ZONE       all  --  0.0.0.0/0            0.0.0.0/0           "
  number := 1
  target := str "ZONE"
  prot := str "all"
  opt := str "--"
  source := str "0.0.0.0/0"
  destination := str "0.0.0.0/0"
  more := []
  line := by decide +kernel
  small := by decide
  words := by decide +kernel

def toApp : RuleLine where
  text := str "1    APP        tcp  --  10.0.0.0/8           0.0.0.0/0           "
  number := 1
  target := str "APP"
  prot := str "tcp"
  opt := str "--"
  source := str "10.0.0.0/8"
  destination := str "0.0.0.0/0"
  more := []
  line := by decide +kernel
  small := by decide
  words := by decide +kernel

def dropSsh : RuleLine where
  text := str "1    DROP       tcp  --  0.0.0.0/0            0.0.0.0/0            tcp dpt:22"
  number := 1
  target := str "DROP"
  prot := str "tcp"
  opt := str "--"
  source := str "0.0.0.0/0"
  destination := str "0.0.0.0/0"
  more := [str "tcp", str "dpt:22"]
  line := by decide +kernel
  small := by decide
  words := by decide +kernel

def inputChain : Chain where
  name := str "INPUT"
  policy := some accept
  rules := [toZone]
  isWord := isWord_of_ascii (by decide) (by decide +kernel)

def zoneChain : Chain where
  name := str "ZONE"
  policy := none
  references := 1
  rules := [toApp]
  isWord := isWord_of_ascii (by decide) (by decide +kernel)

def appChain : Chain where
  name := str "APP"
  policy := none
  references := 1
  rules := [dropSsh]
  isWord := isWord_of_ascii (by decide) (by decide +kernel)

/-- The same chains in the order of their names. -/
def sorted : Listing where
  table := str "filter"
  builtins := [inputChain]
  users := [appChain, zoneChain]
  table_line := by decide
  builtins_policy := by simp [inputChain]
  users_policy := by simp [zoneChain, appChain]
  names := by decide

end ProxyZ.Router
