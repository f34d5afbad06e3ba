import ProxyZ.Client.Decoders
import ProxyZ.Go.Options

/-!
# The filter of a firewall rule

`FilterCommand` writes the restrictions of a rule as options of `iptables`. It asks for both ports whether the address
is any, `IsFromAny` and `IsToAny` in the place of `IsFromAnyPort` and `IsToAnyPort`, and it never writes the
destination.

So the text determines the interface, the protocol and the source, but a port only where the address is not any, and
of the destination only whether it is any (`keepsFilters_iff`).
-/

namespace ProxyZ.Router

open Go ProxyZ.Client

/-- The fields of a rule that are made into its filter. -/
@[ext] structure Rule where
  interface : Str := []
  prot : Str := str "all"
  source : Str := str "0.0.0.0/0"
  sourcePort : Int := 0
  destination : Str := str "0.0.0.0/0"
  destinationPort : Int := 0
  deriving DecidableEq

namespace Rule

variable (rule : Rule)

/-! The predicates, called without an argument. -/

def isFromAny : Bool := rule.source = str "0.0.0.0/0"

def isFromAnyPort : Bool := rule.sourcePort = 0

def isToAnyPort : Bool := rule.destinationPort = 0

def isToAny : Bool := rule.destination = str "0.0.0.0/0"

def isAnyProtocol : Bool := rule.prot = str "all"

def isAnyInterface : Bool := rule.interface = []

/-- `cmds.Add`, unless the command is empty. -/
def addCommand (cmds : List Str) (cmd : Str) : List Str := if cmd ≠ [] then cmds ++ [cmd] else cmds

def filterCommand : Str :=
  let cmds := addCommand [] (if !rule.isAnyInterface then str "-i " ++ rule.interface else [])
  let cmds := addCommand cmds (if !rule.isAnyProtocol then str "-p " ++ rule.prot else [])
  let cmds := addCommand cmds (if !rule.isFromAny then str "-s " ++ rule.source else [])
  let cmds := addCommand cmds (if !rule.isFromAny then str "-sport " ++ decimal rule.sourcePort else [])
  let cmds := addCommand cmds (if !rule.isToAny then str "-dport " ++ decimal rule.destinationPort else [])
  (str " ").intercalate cmds

end Rule

/-- What a rule restricts, `none` where it is any. -/
structure Restrictions where
  interface : Option Str := none
  prot : Option Str := none
  source : Option Str := none
  sourcePort : Option Int := none
  destination : Option Str := none
  destinationPort : Option Int := none
  deriving DecidableEq

def Rule.restrictions (rule : Rule) : Restrictions where
  interface := if rule.isAnyInterface then none else some rule.interface
  prot := if rule.isAnyProtocol then none else some rule.prot
  source := if rule.isFromAny then none else some rule.source
  sourcePort := if rule.isFromAnyPort then none else some rule.sourcePort
  destination := if rule.isToAny then none else some rule.destination
  destinationPort := if rule.isToAnyPort then none else some rule.destinationPort

/-- The names and addresses are single tokens. -/
structure Rule.Plain (rule : Rule) : Prop where
  interface : (32 : UInt8) ∉ rule.interface
  prot : (32 : UInt8) ∉ rule.prot
  source : (32 : UInt8) ∉ rule.source
  destination : (32 : UInt8) ∉ rule.destination

/-- **The filter keeps the restrictions** of these two rules apart. -/
def KeepsFilters (r r' : Rule) : Prop := r.filterCommand = r'.filterCommand → r.restrictions = r'.restrictions

/-- The rules agree in what is written. -/
structure SameWritten (r r' : Rule) : Prop where
  interface : r.interface = r'.interface
  prot : r.prot = r'.prot
  source : r.source = r'.source
  sourcePort : r.isFromAny = false → r.sourcePort = r'.sourcePort
  toAny : r.isToAny = r'.isToAny
  destinationPort : r.isToAny = false → r.destinationPort = r'.destinationPort

/-- They agree in the rest: the destination, and the ports of an address that is any. -/
structure SameUnwritten (r r' : Rule) : Prop where
  destination : r.destination = r'.destination
  sourcePort : r.isFromAny = true → r.sourcePort = r'.sourcePort
  destinationPort : r.isToAny = true → r.destinationPort = r'.destinationPort

/-! ### The options of the text -/

def flags : List Str := [str "-i", str "-p", str "-s", str "-sport", str "-dport"]

def Rule.options (r : Rule) : Options :=
  [(str "-i", if r.isAnyInterface then none else some r.interface),
   (str "-p", if r.isAnyProtocol then none else some r.prot),
   (str "-s", if r.isFromAny then none else some r.source),
   (str "-sport", if r.isFromAny then none else some (decimal r.sourcePort)),
   (str "-dport", if r.isToAny then none else some (decimal r.destinationPort))]

section Filter

variable {r r' : Rule}

/-- A command that is there or not. -/
theorem addCommand_option (cmds : List Str) (any : Bool) (flag value : Str) :
    Rule.addCommand cmds (if !any then flag ++ str " " ++ value else []) =
      cmds ++ [(flag, if any then none else some value)].filterMap optionPart := by
  cases any with
  | true => exact (List.append_nil cmds).symm
  | false => simp [Rule.addCommand, optionPart, str]

theorem filterCommand_eq (r : Rule) : r.filterCommand = optionText r.options := by
  unfold Rule.filterCommand
  rw [show str "-i " = str "-i" ++ str " " from rfl, show str "-p " = str "-p" ++ str " " from rfl,
    show str "-s " = str "-s" ++ str " " from rfl, show str "-sport " = str "-sport" ++ str " " from rfl,
    show str "-dport " = str "-dport" ++ str " " from rfl]
  simp only [addCommand_option, ← List.filterMap_append, List.nil_append, List.cons_append]
  rfl

theorem decimal_injective : Function.Injective Client.decimal := by
  have hminus : ∀ n : Nat, (45 : UInt8) ∉ itoa n := fun n => notMem_itoa (by decide)
  intro m n h
  unfold Client.decimal at h
  split_ifs at h with hm hn hn
  · have hdigits := itoa_injective (List.append_cancel_left h)
    omega
  · exact absurd (h ▸ List.mem_cons_self : (45 : UInt8) ∈ itoa n.toNat) (hminus _)
  · exact absurd (h.symm ▸ List.mem_cons_self : (45 : UInt8) ∈ itoa m.toNat) (hminus _)
  · have hdigits := itoa_injective h
    omega

theorem blank_notMem_decimal (n : Int) : (32 : UInt8) ∉ Client.decimal n := by
  have hdigits : ∀ n : Nat, (32 : UInt8) ∉ itoa n := fun n => notMem_itoa (by decide)
  unfold Client.decimal
  split_ifs
  · rw [List.mem_append, not_or]
    exact ⟨by decide, hdigits _⟩
  · exact hdigits _

theorem Rule.Plain.options (h : r.Plain) : r.options.Plain := by
  have hflags : ∀ flag ∈ flags, (32 : UInt8) ∉ flag := by decide
  have hvalue : ∀ {any : Bool} {value : Str}, (32 : UInt8) ∉ value →
      ∀ v ∈ (if any then none else some value), (32 : UInt8) ∉ v := by
    intro any value hplain v hv
    cases any with
    | true => cases hv
    | false =>
      cases hv
      exact hplain
  intro o ho
  simp only [Rule.options, List.mem_cons, List.not_mem_nil, or_false] at ho
  rcases ho with rfl | rfl | rfl | rfl | rfl
  · exact ⟨hflags _ (by simp [flags]), hvalue h.interface⟩
  · exact ⟨hflags _ (by simp [flags]), hvalue h.prot⟩
  · exact ⟨hflags _ (by simp [flags]), hvalue h.source⟩
  · exact ⟨hflags _ (by simp [flags]), hvalue (blank_notMem_decimal _)⟩
  · exact ⟨hflags _ (by simp [flags]), hvalue (blank_notMem_decimal _)⟩

/-- A value that is left out where it is any is known, if it is any for one value only. -/
theorem restriction_inj {α : Type} [DecidableEq α] {a v v' : α}
    (h : (if decide (v = a) then none else some v) = if decide (v' = a) then none else some v') : v = v' := by
  simp only [decide_eq_true_eq] at h
  split_ifs at h with hv hv'
  · rw [hv, hv']
  · exact Option.some.inj h

theorem restrictions_inj (h : r.restrictions = r'.restrictions) : r = r' := by
  obtain ⟨hinterface, hprot, hsource, hsport, hdestination, hdport⟩ := Restrictions.mk.inj h
  exact Rule.ext (restriction_inj hinterface) (restriction_inj hprot) (restriction_inj hsource) (restriction_inj hsport)
    (restriction_inj hdestination) (restriction_inj hdport)

/-- The text of two rules is the same exactly if they agree in what is written. -/
theorem filterCommand_eq_iff (h : r.Plain) (h' : r'.Plain) :
    r.filterCommand = r'.filterCommand ↔ SameWritten r r' := by
  have hnodup : flags.Nodup := by decide
  rw [filterCommand_eq, filterCommand_eq]
  constructor
  · intro htext
    have hoptions := optionText_inj h.options h'.options rfl hnodup htext
    simp only [Rule.options, List.cons.injEq, Prod.mk.injEq, true_and, and_true] at hoptions
    obtain ⟨hinterface, hprot, hsource, hsport, hdport⟩ := hoptions
    have hsame : r.source = r'.source := restriction_inj hsource
    have hfrom : r.isFromAny = r'.isFromAny := congrArg (fun s => decide (s = str "0.0.0.0/0")) hsame
    refine ⟨restriction_inj hinterface, restriction_inj hprot, hsame, fun hany => ?_, ?_, fun hany => ?_⟩
    · rw [← hfrom, hany] at hsport
      exact decimal_injective (Option.some.inj hsport)
    · rcases hto : r.isToAny <;> rcases hto' : r'.isToAny <;> rw [hto, hto'] at hdport
      · cases hdport
      · cases hdport
    · rcases hto' : r'.isToAny <;> rw [hany, hto'] at hdport
      · exact decimal_injective (Option.some.inj hdport)
      · cases hdport
  · rintro ⟨hinterface, hprot, hsource, hsport, hto, hdport⟩
    have hfrom : r.isFromAny = r'.isFromAny := congrArg (fun s => decide (s = str "0.0.0.0/0")) hsource
    have hoptions : r.options = r'.options := by
      unfold Rule.options Rule.isAnyInterface Rule.isAnyProtocol
      rw [hinterface, hprot, hsource, ← hfrom, ← hto]
      rcases hany : r.isFromAny <;> rcases hany' : r.isToAny
      · rw [hsport hany, hdport hany']
      · rw [hsport hany]
        rfl
      · rw [hdport hany']
        rfl
      · rfl
    rw [hoptions]

/-- **The filters of two rules are kept exactly if they do not agree in what is written and differ in the rest**: in a
destination that is not any, or in the port of an address that is. A rule without restrictions has the empty filter. -/
theorem keepsFilters_iff {r r' : Rule} (h : r.Plain) (h' : r'.Plain) :
    (KeepsFilters r r' ↔ (SameWritten r r' → SameUnwritten r r')) ∧
      ∀ rule : Rule, rule.restrictions = {} → rule.filterCommand = [] := by
  refine ⟨?_, fun rule hnone => ?_⟩
  · unfold KeepsFilters
    rw [filterCommand_eq_iff h h']
    refine forall_congr' fun hwritten => ⟨fun hsame => ?_, fun hrest => ?_⟩
    · obtain rfl := restrictions_inj hsame
      exact ⟨rfl, fun _ => rfl, fun _ => rfl⟩
    · have hsport : r.sourcePort = r'.sourcePort := by
        cases hany : r.isFromAny with
        | true => exact hrest.sourcePort hany
        | false => exact hwritten.sourcePort hany
      have hdport : r.destinationPort = r'.destinationPort := by
        cases hany : r.isToAny with
        | true => exact hrest.destinationPort hany
        | false => exact hwritten.destinationPort hany
      have hsame : r = r' :=
        Rule.ext hwritten.interface hwritten.prot hwritten.source hsport hrest.destination hdport
      rw [hsame]
  · have hany : rule = {} := restrictions_inj hnone
    rw [hany]
    rfl

end Filter

/-- Two rules for one source. -/
theorem keepsFilters_iff_sports :
    KeepsFilters { source := str "10.0.0.0/8", sourcePort := 80 } { source := str "10.0.0.0/8", sourcePort := 443 } := by
  have hplain : ∀ sourcePort, Rule.Plain { source := str "10.0.0.0/8", sourcePort } := by
    intro sourcePort
    have hblank : ∀ s ∈ [[], str "all", str "10.0.0.0/8", str "0.0.0.0/0"], (32 : UInt8) ∉ s := by decide
    exact ⟨hblank _ (by simp), hblank _ (by simp), hblank _ (by simp), hblank _ (by simp)⟩
  apply (keepsFilters_iff (hplain 80) (hplain 443)).1.mpr
  exact fun hwritten => absurd (hwritten.sourcePort rfl) (by decide)

/-- Two rules for different destinations, and two for different source ports. -/
theorem not_keepsFilters_destination :
    Rule.filterCommand { destination := str "10.0.0.1/32", destinationPort := 22 } = str "-dport 22" ∧
      ¬KeepsFilters { destination := str "10.0.0.1/32", destinationPort := 22 }
        { destination := str "10.0.0.2/32", destinationPort := 22 } ∧
      ¬KeepsFilters { sourcePort := 80 } { sourcePort := 443 } := by
  refine ⟨by decide, fun hkeeps => ?_, fun hkeeps => ?_⟩
  · exact absurd (hkeeps (by decide)) (by decide)
  · exact absurd (hkeeps (by decide)) (by decide)

end ProxyZ.Router
