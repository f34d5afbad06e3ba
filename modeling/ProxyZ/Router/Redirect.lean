import ProxyZ.Deploy.Routes
import ProxyZ.Net.Iptables

/-!
# Routing a network

On a router `StartFireWall` makes a script of `iptables` commands from the routes, as the local API answers them or as
they have been saved, and runs it: TCP connections of the network are redirected to redsocks, which asks the client for
them, and DNS queries to the port of the client's resolver.

What the script does to a packet (`startFireWall_routes`): a query goes to the resolver, and a connection to redsocks
unless it is to one of the reserved networks, to the address of a route or of the router itself. So the client's own
connections to its servers are not sent back to it. It makes no difference that the script is run once more where the
first run does not show in the listing.
-/

namespace ProxyZ.Router

open Go Netfilter

/-! ### The script -/

/-- What the machine tells, and what its commands do. `interfaces` are the names with the texts of the addresses, `api`
what the local API answers to the operation `test`, `restart` the script of the system's firewall, with the contents of
`/etc/firewall.user`, and `listed` what `iptables -t nat -L` prints. -/
structure Gateway where
  interfaces : Option (List (Str × Option (List Str)))
  api : Option (List Deploy.Onevps)
  hostFile : Option (List Deploy.Onevps)
  lookup : Str → List Addr
  restart : Str → Table → Table
  listed : Table → Str

/-- An address of an interface that `GetIface` takes. -/
def ifaceOf (name ip : Str) : Option (Str × Str) :=
  if contains ip (str "127.0.0.1") then none
  else if contains ip (str ".1/") then
    if contains name (str "Guest") ∨ contains name (str "guest") then none
    else some (name, (split (str "/") ip).headD [])
  else if hasSuffix ip (str ".1") then
    if contains name (str "Guest") ∨ contains name (str "guest") then none else some (name, ip)
  else none

/-- `GetIface`: the interface of the network, and the address of the router in it. -/
def getIface : Option (List (Str × Option (List Str))) → Str × Str
  | none => (str "wlan", [])
  | some is => (is.findSome? fun i => (i.2.getD []).findSome? (ifaceOf i.1)).getD ([], [])

def returnLine (dst : Str) : Str := str "iptables -t nat -A REDSOCKS -d " ++ dst ++ str " -j RETURN"

/-- The lines of the script, with the values in their places. -/
def scriptLines (pre iface ip port : Str) (hosts : List Str) : List Str :=
  [str "iptables -P INPUT ACCEPT",
    str "iptables -P FORWARD ACCEPT",
    str "iptables -P OUTPUT ACCEPT",
    str "iptables -t nat -N REDSOCKS",
    str "iptables -t nat -A " ++ pre ++ str " -i " ++ iface ++ str " -p tcp -j REDSOCKS",
    str "# redirct dns",
    str "iptables -t nat -A " ++ pre ++ str " -p udp --dport  53 -j REDIRECT --to-ports 60053"] ++
  hosts.map returnLine ++
  [[],
    str "iptables -t nat -A REDSOCKS -d 0.0.0.0/8 -j RETURN",
    str "iptables -t nat -A REDSOCKS -d 10.0.0.0/8 -j RETURN",
    str "iptables -t nat -A REDSOCKS -d 127.0.0.0/8 -j RETURN",
    str "iptables -t nat -A REDSOCKS -d 192.168.0.0/16 -j RETURN",
    str "iptables -t nat -A REDSOCKS -d 169.254.0.0/16 -j RETURN",
    str "iptables -t nat -A REDSOCKS -d 172.16.0.0/12 -j RETURN",
    str "iptables -t nat -A REDSOCKS -d 224.0.0.0/4 -j RETURN",
    str "iptables -t nat -A REDSOCKS -d 240.0.0.0/4 -j RETURN",
    [],
    [],
    str "iptables -t nat -A REDSOCKS -p tcp -s " ++ ip ++ str " --dport " ++ port ++ str " -j RETURN",
    str "iptables -t nat -A REDSOCKS -d " ++ ip ++ str " -j RETURN",
    str "iptables -t nat -A REDSOCKS -p tcp -j REDIRECT --to-ports 1081",
    str "iptables -t nat -A " ++ pre ++ str " -p tcp -j REDSOCKS"]

/-- `IPTahbleRouteSet`, with the port that `StartFireWall` puts in. -/
def Gateway.ipTahbleRouteSet (m : Gateway) (pre port : Str) : Str :=
  let (iface, gatewayip) := getIface m.interfaces
  match m.api with
  | some routes => (str "\n") ++ (str "\n").intercalate (scriptLines pre iface gatewayip port (routes.map (·.host)))
  | none =>
      match m.hostFile with
      | some routes => (str "\n").intercalate (scriptLines pre iface gatewayip port (routes.map (·.host)))
      | none => []

/-- The port of the client, `1091` where the text has none. -/
def portOf (proxyAddr : Str) : Str :=
  match split (str ":") proxyAddr with
  | _ :: port :: _ => trim port
  | _ => str "1091"

/-- The chain the packets of the network come to first. -/
def Gateway.pre (m : Gateway) (t : Table) : Str :=
  if contains (m.listed t) (str "prerouting_rule") then str "prerouting_rule" else str "PREROUTING"

/-- `StartFireWall` on Linux, from the table `nat` to the table it leaves. -/
def Gateway.startFireWall (m : Gateway) (proxyAddr : Str) (t : Table) : Option Table :=
  let script := m.ipTahbleRouteSet (m.pre t) (portOf proxyAddr)
  let restarted := m.restart script t
  if contains (m.listed restarted) (str "1091") then some restarted else sh m.lookup script restarted

/-! ### What its lines say -/

def redsocks : Str := str "REDSOCKS"

/-- The reserved networks. -/
def reserved : List Net :=
  [⟨0, 8⟩, ⟨0x0a000000, 8⟩, ⟨0x7f000000, 8⟩, ⟨0xc0a80000, 16⟩, ⟨0xa9fe0000, 16⟩, ⟨0xac100000, 12⟩, ⟨0xe0000000, 4⟩,
    ⟨0xf0000000, 4⟩]

/-- The rules the script is made of. -/
def toChain : Netfilter.Rule := { proto := some .tcp, target := .jump redsocks }

def toChainFrom (iface : Str) : Netfilter.Rule := { iface := some iface, proto := some .tcp, target := .jump redsocks }

def toResolver : Netfilter.Rule := { proto := some .udp, dport := some 53, target := .redirect 60053 }

def toRedsocks : Netfilter.Rule := { proto := some .tcp, target := .redirect 1081 }

section Lines

variable {lookup : Str → List Addr} {pre iface ip port dst line : Str} {args hosts : List Str}

theorem lineCommand_of_words (h : simpleWords line = some (str "iptables" :: args)) :
    lineCommand lookup line = some (command lookup args) := by
  unfold lineCommand
  rw [h]
  exact if_pos rfl

theorem lineCommand_nothing (h : simpleWords line = some []) : lineCommand lookup line = some .other := by
  unfold lineCommand
  rw [h]

theorem lineCommand_returnLine (h : PlainWord dst) :
    lineCommand lookup (returnLine dst) = some (adds redsocks ((nets lookup dst).map returnTo)) := by
  have hbefore : ∀ w ∈ [str "iptables", str "-t", str "nat", str "-A", redsocks, str "-d"], PlainWord w := by
    decide +kernel
  have hbehind : ∀ w ∈ [str "-j", str "RETURN"], PlainWord w := by decide +kernel
  have hplain : ∀ w ∈ [str "iptables", str "-t", str "nat", str "-A", redsocks, str "-d", dst, str "-j", str "RETURN"],
      PlainWord w := h.among hbefore hbehind
  have hwords : simpleWords (returnLine dst) = _ := simpleWords_intercalate hplain
  rw [lineCommand_of_words hwords, command_returnTo]

/-- The line of a router whose address is not known. -/
theorem lineCommand_returnLine_nil : lineCommand lookup (returnLine []) = some .other := by
  have hwords : simpleWords (returnLine []) = some (str "iptables" ::
      [str "-t", str "nat", str "-A", redsocks, str "-d", str "-j", str "RETURN"]) := by decide +kernel
  rw [lineCommand_of_words hwords, command_returnTo_nothing]

/-- The words in front of the router's address in the line for the client, and those behind it. -/
theorem own_before : ∀ w ∈ [str "iptables", str "-t", str "nat", str "-A", redsocks, str "-p", str "tcp", str "-s"],
    PlainWord w := by decide +kernel

theorem own_behind (hport : PlainWord port) : ∀ w ∈ [str "--dport", port, str "-j", str "RETURN"], PlainWord w := by
  have hbefore : ∀ w ∈ [str "--dport"], PlainWord w := by decide +kernel
  have hbehind : ∀ w ∈ [str "-j", str "RETURN"], PlainWord w := by decide +kernel
  exact hport.among hbefore hbehind

theorem own_line (hip : PlainWord ip) (hport : PlainWord port) {n : Nat} (hn : number? 65536 port = some n) :
    lineCommand lookup
        (str "iptables -t nat -A REDSOCKS -p tcp -s " ++ ip ++ str " --dport " ++ port ++ str " -j RETURN") =
      some (adds redsocks ((nets lookup ip).map (returnFrom n))) := by
  have hline : str "iptables -t nat -A REDSOCKS -p tcp -s " ++ ip ++ str " --dport " ++ port ++ str " -j RETURN" =
      [32].intercalate [str "iptables", str "-t", str "nat", str "-A", redsocks, str "-p", str "tcp", str "-s", ip,
        str "--dport", port, str "-j", str "RETURN"] := by
    simp [List.intercalate, str, redsocks]
  have hplain : ∀ w ∈ [str "iptables", str "-t", str "nat", str "-A", redsocks, str "-p", str "tcp", str "-s", ip,
      str "--dport", port, str "-j", str "RETURN"], PlainWord w := hip.among own_before (own_behind hport)
  have hwords := hline ▸ simpleWords_intercalate hplain
  rw [lineCommand_of_words hwords, command_returnFrom lookup redsocks ip hn]

/-- The port stands where an address should, and the rest makes no sense. -/
theorem own_line_nil (hport : PlainWord port) {n : Nat} (hn : number? 65536 port = some n) :
    lineCommand lookup
        (str "iptables -t nat -A REDSOCKS -p tcp -s " ++ [] ++ str " --dport " ++ port ++ str " -j RETURN") =
      some .other := by
  have hback := own_behind hport
  have hline : str "iptables -t nat -A REDSOCKS -p tcp -s " ++ [] ++ str " --dport " ++ port ++ str " -j RETURN" =
      [32].intercalate [str "iptables", str "-t", str "nat", str "-A", redsocks, str "-p", str "tcp", str "-s"] ++
        32 :: (32 :: [32].intercalate [str "--dport", port, str "-j", str "RETURN"]) := by
    simp [List.intercalate, str, redsocks]
  have hfields := fields_intercalate_append (c := 32)
    (s := 32 :: [32].intercalate [str "--dport", port, str "-j", str "RETURN"]) rfl fun w hw => (own_before w hw).isWord
  rw [← hline, fields_blank rfl, fields_intercalate rfl fun w hw => (hback w hw).isWord] at hfields
  have hwords : simpleWords _ = some (str "iptables" :: [str "-t", str "nat", str "-A", redsocks, str "-p", str "tcp",
      str "-s", str "--dport", port, str "-j", str "RETURN"]) :=
    simpleWords_of_fields hfields (List.forall_mem_append.mpr ⟨own_before, hback⟩)
  have hread : Args.readAll lookup [str "-t", str "nat", str "-A", redsocks, str "-p", str "tcp", str "-s",
      str "--dport", port, str "-j", str "RETURN"] {} =
        (if nets lookup (str "--dport") = [] then none
          else some ({
            table := str "nat", op := some (str "-A", redsocks), proto := some .tcp,
            srcs := (nets lookup (str "--dport")).map some } : Args)).bind fun x =>
          if port = str "-P" ∧ (str "RETURN").head? ≠ some 45 then x.read lookup port (str "-j") else none := rfl
  have hflag : ¬(port = str "-P" ∧ (str "RETURN").head? ≠ some 45) := by
    rintro ⟨rfl, -⟩
    have hno : number? 65536 (str "-P") = none := by decide
    rw [hno] at hn
    cases hn
  rw [lineCommand_of_words hwords]
  unfold command
  rw [hread]
  simp only [if_neg hflag, Option.bind_fun_none]

theorem policy_lines : ∀ chain ∈ [str "INPUT", str "FORWARD", str "OUTPUT"],
    lineCommand lookup (str "iptables -P " ++ chain ++ str " ACCEPT") = some .other := by
  intro chain hchain
  have hwords : ∀ chain ∈ [str "INPUT", str "FORWARD", str "OUTPUT"],
      simpleWords (str "iptables -P " ++ chain ++ str " ACCEPT") =
        some (str "iptables" :: [str "-P", chain, str "ACCEPT"]) := by decide +kernel
  rw [lineCommand_of_words (hwords chain hchain)]
  rfl

theorem newChain_line : lineCommand lookup (str "iptables -t nat -N REDSOCKS") = some (.newChain redsocks) := by
  have hwords : simpleWords (str "iptables -t nat -N REDSOCKS") =
      some (str "iptables" :: [str "-t", str "nat", str "-N", str "REDSOCKS"]) := by decide +kernel
  rw [lineCommand_of_words hwords]
  rfl

theorem redirect_line : lineCommand lookup (str "iptables -t nat -A REDSOCKS -p tcp -j REDIRECT --to-ports 1081") =
    some (.append redsocks [toRedsocks]) := by
  have hwords : simpleWords (str "iptables -t nat -A REDSOCKS -p tcp -j REDIRECT --to-ports 1081") =
      some (str "iptables" :: [str "-t", str "nat", str "-A", str "REDSOCKS", str "-p", str "tcp", str "-j",
        str "REDIRECT", str "--to-ports", str "1081"]) := by decide +kernel
  rw [lineCommand_of_words hwords]
  rfl

/-- The two names of the first chain. -/
def IsPre (pre : Str) : Prop := pre ∈ [str "prerouting_rule", str "PREROUTING"]

theorem resolver_line (hpre : IsPre pre) :
    lineCommand lookup (str "iptables -t nat -A " ++ pre ++ str " -p udp --dport  53 -j REDIRECT --to-ports 60053") =
      some (.append pre [toResolver]) := by
  have hwords : ∀ pre ∈ [str "prerouting_rule", str "PREROUTING"],
      simpleWords (str "iptables -t nat -A " ++ pre ++ str " -p udp --dport  53 -j REDIRECT --to-ports 60053") =
        some (str "iptables" :: [str "-t", str "nat", str "-A", pre, str "-p", str "udp", str "--dport", str "53",
          str "-j", str "REDIRECT", str "--to-ports", str "60053"]) := by decide +kernel
  rw [lineCommand_of_words (hwords pre hpre)]
  rfl

theorem chain_line (hpre : IsPre pre) :
    lineCommand lookup (str "iptables -t nat -A " ++ pre ++ str " -p tcp -j REDSOCKS") =
      some (.append pre [toChain]) := by
  have hwords : ∀ pre ∈ [str "prerouting_rule", str "PREROUTING"],
      simpleWords (str "iptables -t nat -A " ++ pre ++ str " -p tcp -j REDSOCKS") =
        some (str "iptables" ::
          [str "-t", str "nat", str "-A", pre, str "-p", str "tcp", str "-j", str "REDSOCKS"]) := by
    decide +kernel
  rw [lineCommand_of_words (hwords pre hpre)]
  rfl

/-- The line for the interface: it jumps to the chain, or fails where there is no interface. -/
theorem iface_line (hpre : IsPre pre) (hiface : ∀ b ∈ iface, isWordByte b = true) :
    lineCommand lookup (str "iptables -t nat -A " ++ pre ++ str " -i " ++ iface ++ str " -p tcp -j REDSOCKS") =
      some (if iface = [] then .other else .append pre [toChainFrom iface]) := by
  by_cases hnone : iface = []
  · subst hnone
    have hwords : ∀ pre ∈ [str "prerouting_rule", str "PREROUTING"],
        simpleWords (str "iptables -t nat -A " ++ pre ++ str " -i " ++ [] ++ str " -p tcp -j REDSOCKS") =
          some (str "iptables" ::
            [str "-t", str "nat", str "-A", pre, str "-i", str "-p", str "tcp", str "-j", str "REDSOCKS"]) := by
      decide +kernel
    rw [lineCommand_of_words (hwords pre hpre)]
    rfl
  · have hbefore : ∀ pre ∈ [str "prerouting_rule", str "PREROUTING"],
        ∀ w ∈ [str "iptables", str "-t", str "nat", str "-A", pre, str "-i"], PlainWord w := by decide +kernel
    have hbehind : ∀ w ∈ [str "-p", str "tcp", str "-j", str "REDSOCKS"], PlainWord w := by decide +kernel
    have hword : PlainWord iface := ⟨hnone, hiface⟩
    have hplain : ∀ w ∈ [str "iptables", str "-t", str "nat", str "-A", pre, str "-i", iface, str "-p", str "tcp",
        str "-j", str "REDSOCKS"], PlainWord w := hword.among (hbefore pre hpre) hbehind
    have hline : str "iptables -t nat -A " ++ pre ++ str " -i " ++ iface ++ str " -p tcp -j REDSOCKS" =
        [32].intercalate [str "iptables", str "-t", str "nat", str "-A", pre, str "-i", iface, str "-p", str "tcp",
          str "-j", str "REDSOCKS"] := by
      simp [List.intercalate, str]
    have hwords := hline ▸ simpleWords_intercalate hplain
    rw [lineCommand_of_words hwords, if_neg hnone]
    rfl

end Lines

/-! ### The commands -/

/-- The address of the router, where it is known. -/
def Known (ip : Str) (gateway : Option Addr) : Prop :=
  ip = [] ∧ gateway = none ∨ ∃ a, gateway = some a ∧ ipv4? ip = some a

/-- The rules that the script appends to the first chain, and to its own. -/
def preRules (iface : Str) : List Netfilter.Rule :=
  (if iface = [] then [] else [toChainFrom iface]) ++ [toResolver, toChain]

def returns (lookup : Str → List Addr) (hosts : List Str) (gateway : Option Addr) (port : Nat) : List Netfilter.Rule :=
  hosts.flatMap (fun h => (nets lookup h).map returnTo) ++ reserved.map returnTo ++
    gateway.toList.map (fun a => returnFrom port (Net.one a)) ++ gateway.toList.map fun a => returnTo (Net.one a)

/-- The commands of the script. -/
def scriptCmds (lookup : Str → List Addr) (pre iface : Str) (hosts : List Str) (gateway : Option Addr) (port : Nat) :
    List Command :=
  [.other, .other, .other, .newChain redsocks, if iface = [] then .other else .append pre [toChainFrom iface], .other,
    .append pre [toResolver]] ++
  hosts.map (fun h => adds redsocks ((nets lookup h).map returnTo)) ++
  [.other] ++ reserved.map (fun n => adds redsocks [returnTo n]) ++
  [.other, .other, adds redsocks (gateway.toList.map fun a => returnFrom port (Net.one a)),
    adds redsocks (gateway.toList.map fun a => returnTo (Net.one a)), .append redsocks [toRedsocks],
    .append pre [toChain]]

section Commands

variable {lookup : Str → List Addr} {pre iface ip port dst : Str} {hosts : List Str} {gateway : Option Addr} {n : Nat}

/-- The lines for the router itself. -/
theorem gateway_lines (hip : Known ip gateway) (hn : number? 65536 port = some n) :
    [str "iptables -t nat -A REDSOCKS -p tcp -s " ++ ip ++ str " --dport " ++ port ++ str " -j RETURN",
      returnLine ip].mapM (lineCommand lookup) =
        some [adds redsocks (gateway.toList.map fun a => returnFrom n (Net.one a)),
          adds redsocks (gateway.toList.map fun a => returnTo (Net.one a))] := by
  have hport := plainWord_of_number? hn
  rcases hip with ⟨rfl, rfl⟩ | ⟨a, rfl, ha⟩
  · exact mapM_cons_some (own_line_nil hport hn) (mapM_cons_some lineCommand_returnLine_nil rfl)
  · have hword := plainWord_of_ipv4? ha
    refine mapM_cons_some ?_ (mapM_cons_some ?_ rfl)
    · rw [own_line hword hport hn, nets_of_ipv4? lookup ha]
      rfl
    · rw [lineCommand_returnLine hword, nets_of_ipv4? lookup ha]
      rfl

/-- The reserved networks as they are written. -/
def reservedTexts : List Str :=
  [str "0.0.0.0/8", str "10.0.0.0/8", str "127.0.0.0/8", str "192.168.0.0/16", str "169.254.0.0/16",
    str "172.16.0.0/12", str "224.0.0.0/4", str "240.0.0.0/4"]

theorem reservedTexts_read : reservedTexts.map netText? = reserved.map some := by decide +kernel

theorem adds_reservedTexts (lookup : Str → List Addr) :
    reservedTexts.map (fun w => adds redsocks ((nets lookup w).map returnTo)) =
      reserved.map fun n => adds redsocks [returnTo n] := by
  have hall : ∀ {texts : List Str} {ns : List Net}, texts.map netText? = ns.map some →
      texts.map (fun w => adds redsocks ((nets lookup w).map returnTo)) =
        ns.map fun n => adds redsocks [returnTo n] := by
    intro texts
    induction texts with
    | nil =>
      intro ns h
      obtain rfl := List.map_eq_nil_iff.mp h.symm
      rfl
    | cons w texts ih =>
      intro ns h
      cases ns with
      | nil => cases h
      | cons n ns =>
        obtain ⟨hw, htexts⟩ := List.cons.inj h
        rw [List.map_cons, List.map_cons, nets_of_netText? lookup hw, ih htexts]
        rfl
  exact hall reservedTexts_read

theorem reserved_lines :
    [str "iptables -t nat -A REDSOCKS -d 0.0.0.0/8 -j RETURN",
      str "iptables -t nat -A REDSOCKS -d 10.0.0.0/8 -j RETURN",
      str "iptables -t nat -A REDSOCKS -d 127.0.0.0/8 -j RETURN",
      str "iptables -t nat -A REDSOCKS -d 192.168.0.0/16 -j RETURN",
      str "iptables -t nat -A REDSOCKS -d 169.254.0.0/16 -j RETURN",
      str "iptables -t nat -A REDSOCKS -d 172.16.0.0/12 -j RETURN",
      str "iptables -t nat -A REDSOCKS -d 224.0.0.0/4 -j RETURN",
      str "iptables -t nat -A REDSOCKS -d 240.0.0.0/4 -j RETURN"].mapM (lineCommand lookup) =
        some (reserved.map fun n => adds redsocks [returnTo n]) := by
  have hlines : [str "iptables -t nat -A REDSOCKS -d 0.0.0.0/8 -j RETURN",
      str "iptables -t nat -A REDSOCKS -d 10.0.0.0/8 -j RETURN",
      str "iptables -t nat -A REDSOCKS -d 127.0.0.0/8 -j RETURN",
      str "iptables -t nat -A REDSOCKS -d 192.168.0.0/16 -j RETURN",
      str "iptables -t nat -A REDSOCKS -d 169.254.0.0/16 -j RETURN",
      str "iptables -t nat -A REDSOCKS -d 172.16.0.0/12 -j RETURN",
      str "iptables -t nat -A REDSOCKS -d 224.0.0.0/4 -j RETURN",
      str "iptables -t nat -A REDSOCKS -d 240.0.0.0/4 -j RETURN"] = reservedTexts.map returnLine := by
    simp [reservedTexts, returnLine, str]
  have hplain : ∀ w ∈ reservedTexts, PlainWord w := by decide +kernel
  rw [hlines, mapM_map_some fun w hw => lineCommand_returnLine (hplain w hw), adds_reservedTexts]

theorem hostLine (h : IsHostName dst) :
    lineCommand lookup (returnLine dst) = some (adds redsocks ((nets lookup dst).map returnTo)) := by
  have hbyte : ∀ b, isHostByte b = true → isWordByte b = true := forall_byte (by decide +kernel)
  exact lineCommand_returnLine ⟨h.nonempty, fun b hb => hbyte b (h.bytes b hb)⟩

theorem scriptLines_commands (hpre : IsPre pre) (hiface : ∀ b ∈ iface, isWordByte b = true)
    (hip : Known ip gateway) (hn : number? 65536 port = some n) (hhosts : ∀ h ∈ hosts, IsHostName h) :
    (scriptLines pre iface ip port hosts).mapM (lineCommand lookup) =
      some (scriptCmds lookup pre iface hosts gateway n) := by
  have hpolicy : ∀ chain ∈ [str "INPUT", str "FORWARD", str "OUTPUT"],
      lineCommand lookup (str "iptables -P " ++ chain ++ str " ACCEPT") = some .other := policy_lines
  have hfront : [str "iptables -P INPUT ACCEPT", str "iptables -P FORWARD ACCEPT", str "iptables -P OUTPUT ACCEPT",
      str "iptables -t nat -N REDSOCKS",
      str "iptables -t nat -A " ++ pre ++ str " -i " ++ iface ++ str " -p tcp -j REDSOCKS", str "# redirct dns",
      str "iptables -t nat -A " ++ pre ++ str " -p udp --dport  53 -j REDIRECT --to-ports 60053"].mapM
        (lineCommand lookup) = some [.other, .other, .other, .newChain redsocks,
          if iface = [] then .other else .append pre [toChainFrom iface], .other, .append pre [toResolver]] := by
    refine mapM_cons_some (hpolicy (str "INPUT") (by decide)) (mapM_cons_some (hpolicy (str "FORWARD") (by decide))
      (mapM_cons_some (hpolicy (str "OUTPUT") (by decide)) (mapM_cons_some newChain_line
        (mapM_cons_some (iface_line hpre hiface) (mapM_cons_some ?_ (mapM_cons_some (resolver_line hpre) rfl))))))
    exact lineCommand_nothing (by decide +kernel)
  have hnothing : lineCommand lookup [] = some .other := rfl
  have hback : [str "iptables -t nat -A REDSOCKS -p tcp -j REDIRECT --to-ports 1081",
      str "iptables -t nat -A " ++ pre ++ str " -p tcp -j REDSOCKS"].mapM (lineCommand lookup) =
        some [.append redsocks [toRedsocks], .append pre [toChain]] :=
    mapM_cons_some redirect_line (mapM_cons_some (chain_line hpre) rfl)
  have hrest := mapM_append_some reserved_lines
    (mapM_cons_some hnothing (mapM_cons_some hnothing (mapM_append_some (gateway_lines hip hn) hback)))
  have hlines := mapM_append_some (mapM_append_some hfront (mapM_map_some fun h hh => hostLine (hhosts h hh)))
    (mapM_cons_some hnothing hrest)
  refine hlines.trans ?_
  unfold scriptCmds
  simp only [List.append_assoc, List.cons_append, List.nil_append]

theorem pre_ne_redsocks (hpre : IsPre pre) : pre ≠ redsocks := by
  have hall : ∀ pre ∈ [str "prerouting_rule", str "PREROUTING"], pre ≠ redsocks := by decide +kernel
  exact hall pre hpre

/-- What is added to a chain by the commands. -/
theorem added_scriptCmds (c : Str) : added (scriptCmds lookup pre iface hosts gateway n) c =
    (if pre = c then if iface = [] then [] else [toChainFrom iface] else []) ++
      (if pre = c then [toResolver] else []) ++
        (if redsocks = c then returns lookup hosts gateway n ++ [toRedsocks] else []) ++
          (if pre = c then [toChain] else []) := by
  have hfirst : added [if iface = [] then .other else .append pre [toChainFrom iface]] c =
      if pre = c then if iface = [] then [] else [toChainFrom iface] else [] := by
    by_cases hiface : iface = []
    · rw [if_pos hiface, if_pos hiface, added_other, ite_self]
    · rw [if_neg hiface, if_neg hiface, added_rules]
  unfold scriptCmds returns
  have hreserved : reserved.flatMap (fun n => [returnTo n]) = reserved.map returnTo := List.map_eq_flatMap.symm
  simp only [added_append, added_cons_cons, added_other, added_newChain, added_rules, added_map_adds, added_adds,
    hfirst, hreserved, List.nil_append]
  by_cases hredsocks : redsocks = c
  · simp only [if_pos hredsocks, List.append_assoc, List.nil_append]
  · simp only [if_neg hredsocks, List.append_nil, List.nil_append]

/-- The commands can be carried out once the chain of redsocks is there. -/
theorem fits_scriptCmds : ∀ cmd ∈ scriptCmds lookup pre iface hosts gateway n, cmd.Fits {redsocks, pre} := by
  have hredsocks : redsocks ∈ ({redsocks, pre} : Set Str) := Set.mem_insert _ _
  have hpre : pre ∈ ({redsocks, pre} : Set Str) := Set.mem_insert_of_mem _ rfl
  have hreturns : ∀ {α : Type} (l : List α) (f : α → Netfilter.Rule), (∀ x, (f x).target = .ret) →
      (adds redsocks (l.map f)).Fits {redsocks, pre} := by
    intro α l f hf
    refine fits_adds hredsocks fun r hr => ?_
    obtain ⟨x, -, rfl⟩ := List.mem_map.mp hr
    exact hf x
  have hjump : ∀ r : Netfilter.Rule, r.target = .jump redsocks → (Command.append pre [r]).Fits {redsocks, pre} := by
    intro r hr
    refine ⟨hpre, fun r' hr' c hc => ?_⟩
    rw [List.mem_singleton.mp hr', hr] at hc
    cases hc
    exact hredsocks
  have hredirect : ∀ c ∈ ({redsocks, pre} : Set Str), ∀ r : Netfilter.Rule, (∀ c', r.target ≠ .jump c') →
      (Command.append c [r]).Fits {redsocks, pre} := by
    intro c hc r hr
    refine ⟨hc, fun r' hr' c' hc' => ?_⟩
    rw [List.mem_singleton.mp hr'] at hc'
    exact absurd hc' (hr c')
  have hiface : (if iface = [] then Command.other else .append pre [toChainFrom iface]).Fits {redsocks, pre} := by
    split_ifs
    · trivial
    · exact hjump _ rfl
  unfold scriptCmds
  simp only [List.forall_mem_append, List.forall_mem_cons, List.forall_mem_map]
  refine ⟨⟨⟨⟨⟨trivial, trivial, trivial, hredsocks, hiface, trivial, hredirect _ hpre _ nofun, nofun⟩,
    fun h _ => hreturns _ _ fun _ => rfl⟩, trivial, nofun⟩, fun n _ => hreturns [n] _ fun _ => rfl⟩,
    trivial, trivial, hreturns _ _ fun _ => rfl, hreturns _ _ fun _ => rfl, hredirect _ hredsocks _ nofun,
    hjump _ rfl, nofun⟩

/-- The two chains after the script has been run `k` times where the one of redsocks was not there. -/
structure Filled (fresh t : Table) (pre : Str) (block rules : List Netfilter.Rule) (k : Nat) : Prop where
  pre : ∀ old, fresh pre = some old → t pre = some (old ++ (List.replicate k block).flatten)
  redsocks : t.chain redsocks = (List.replicate k rules).flatten

theorem filled_fresh {fresh : Table} {block rules : List Netfilter.Rule} (hnone : fresh redsocks = none) :
    Filled fresh fresh pre block rules 0 where
  pre := fun old hold => by simpa using hold
  redsocks := by simp [Table.chain, hnone]

/-- The rules of a run stand behind those that are there. -/
theorem run_scriptCmds (hpre : IsPre pre) {t : Table} (hthere : (t pre).isSome) :
    (t.run (scriptCmds lookup pre iface hosts gateway n)) pre = (t pre).map (· ++ preRules iface) ∧
      (t.run (scriptCmds lookup pre iface hosts gateway n)) redsocks =
        some (t.chain redsocks ++ (returns lookup hosts gateway n ++ [toRedsocks])) := by
  have hne := pre_ne_redsocks hpre
  have hmade : ∀ c, (t.exec (.newChain redsocks)) c = if c = redsocks then some (t.chain redsocks) else t c := by
    intro c
    cases hold : t redsocks with
    | none => simp [Table.exec, hold, Table.chain, Function.update_apply]
    | some rules =>
      by_cases hc : c = redsocks
      · simp [Table.exec, hold, Table.chain, hc]
      · simp [Table.exec, hold, hc]
  have hthere' : ∀ c ∈ ({redsocks, pre} : Set Str), ((t.exec (.newChain redsocks)) c).isSome := by
    rintro c (rfl | rfl)
    · simp [hmade]
    · simp [hmade, hne, hthere]
  -- the chain is made by the first commands; to make it once more changes nothing
  have hagain : t.run (scriptCmds lookup pre iface hosts gateway n) =
      (t.exec (.newChain redsocks)).run (scriptCmds lookup pre iface hosts gateway n) := by
    have htwice : (t.exec (.newChain redsocks)).exec (.newChain redsocks) = t.exec (.newChain redsocks) :=
      if_pos (hthere' redsocks (Set.mem_insert _ _))
    obtain ⟨rest, hrest⟩ : ∃ rest, scriptCmds lookup pre iface hosts gateway n =
        .other :: .other :: .other :: .newChain redsocks :: rest := ⟨_, rfl⟩
    rw [hrest]
    show (t.exec (.newChain redsocks)).run rest = ((t.exec (.newChain redsocks)).exec (.newChain redsocks)).run rest
    rw [htwice]
  rw [hagain, run_of_fits hthere' fits_scriptCmds, run_of_fits hthere' fits_scriptCmds, added_scriptCmds,
    added_scriptCmds, hmade, hmade]
  constructor
  · simp [hne, hne.symm, preRules]
  · simp [hne]

/-- One more run. -/
theorem Filled.run (hpre : IsPre pre) {fresh t : Table} {k : Nat} (hthere : (fresh pre).isSome)
    (h : Filled fresh t pre (preRules iface) (returns lookup hosts gateway n ++ [toRedsocks]) k) :
    Filled fresh (t.run (scriptCmds lookup pre iface hosts gateway n)) pre (preRules iface)
      (returns lookup hosts gateway n ++ [toRedsocks]) (k + 1) := by
  obtain ⟨old, hold⟩ := Option.isSome_iff_exists.mp hthere
  have hthere' : (t pre).isSome := by rw [h.pre old hold, Option.isSome_some]
  obtain ⟨hrunPre, hrunRedsocks⟩ := @run_scriptCmds lookup pre iface hosts gateway n hpre t hthere'
  constructor
  · intro old' hold'
    rw [hrunPre, h.pre old' hold', List.replicate_succ', List.flatten_append]
    simp
  · unfold Table.chain
    rw [hrunRedsocks, h.redsocks, List.replicate_succ', List.flatten_append]
    simp

/-! ### What a packet finds -/

/-- What the script lets pass: TCP connections to the reserved networks, to the addresses of the hosts and to the
router, and those from the router to the client's port. -/
def goesDirect (lookup : Str → List Addr) (hosts : List Str) (gateway : Option Addr) (port : Nat) (p : Packet) : Bool :=
  reserved.any (·.has p.dst) || hosts.any (fun h => p.dst ∈ hostAddrs lookup h) || gateway = some p.dst ||
    (gateway = some p.src && p.dport = port)

/-- Where a packet goes: a query to the resolver, a connection to redsocks, and what passes stays as it is. -/
def routed (lookup : Str → List Addr) (hosts : List Str) (gateway : Option Addr) (port : Nat) (p : Packet) : Outcome :=
  match p.proto with
  | .udp => if p.dport = 53 then .redirected 60053 else .passed
  | .tcp => if goesDirect lookup hosts gateway port p then .passed else .redirected 1081

theorem any_returns {p : Packet} (hhosts : ∀ h ∈ hosts, IsHostName h) (hp : p.proto = .tcp) :
    (returns lookup hosts gateway n).any (·.matches p) = goesDirect lookup hosts gateway n p := by
  have hreturnTo : ∀ net : Net, (returnTo net).matches p = net.has p.dst := by
    intro net
    simp [Netfilter.Rule.matches, returnTo]
  have hreturnFrom : ∀ net : Net, (returnFrom n net).matches p = (net.has p.src && decide (p.dport = n)) := by
    intro net
    simp [Netfilter.Rule.matches, returnFrom, hp, eq_comm]
  have hhost : ∀ h ∈ hosts, ((nets lookup h).map returnTo).any (·.matches p) = decide (p.dst ∈ hostAddrs lookup h) := by
    intro h hh
    rw [nets_of_notMem lookup ((hhosts h hh).notMem rfl), Bool.eq_iff_iff]
    simp [hreturnTo, Net.one_has]
  have hall : (hosts.flatMap fun h => (nets lookup h).map returnTo).any (·.matches p) =
      hosts.any fun h => decide (p.dst ∈ hostAddrs lookup h) := by
    rw [List.any_flatMap, Bool.eq_iff_iff, List.any_eq_true, List.any_eq_true]
    exact exists_congr fun h => and_congr_right fun hh => by rw [hhost h hh]
  have hreserved : (reserved.map returnTo).any (·.matches p) = reserved.any (·.has p.dst) := by
    simp only [List.any_map, Function.comp_def, hreturnTo]
  have hgateway : (gateway.toList.map fun a => returnTo (Net.one a)).any (·.matches p) =
      decide (gateway = some p.dst) := by
    cases gateway <;> simp [hreturnTo, Net.one_has, eq_comm]
  have hclient : (gateway.toList.map fun a => returnFrom n (Net.one a)).any (·.matches p) =
      (decide (gateway = some p.src) && decide (p.dport = n)) := by
    cases gateway <;> simp [hreturnFrom, Net.one_has, eq_comm]
  unfold returns goesDirect
  rw [List.any_append, List.any_append, List.any_append, hall, hreserved, hgateway, hclient, Bool.or_assoc,
    Bool.or_comm (decide (gateway = some p.src) && _), ← Bool.or_assoc,
    Bool.or_comm (hosts.any _) (reserved.any _)]

theorem scan_returns {p : Packet} {jump : Str → Outcome} (hhosts : ∀ h ∈ hosts, IsHostName h) (hp : p.proto = .tcp) :
    scan jump p (returns lookup hosts gateway n ++ [toRedsocks]) =
      if goesDirect lookup hosts gateway n p then .passed else .redirected 1081 := by
  have hret : ∀ r ∈ returns lookup hosts gateway n, r.target = .ret := by
    intro r hr
    simp only [returns, List.mem_append, List.mem_flatMap, List.mem_map] at hr
    rcases hr with ((⟨_, _, _, _, rfl⟩ | ⟨_, _, rfl⟩) | ⟨_, _, rfl⟩) | ⟨_, _, rfl⟩
    all_goals rfl
  have hlast : toRedsocks.verdict jump p = some (.redirected 1081) := by
    simp [Netfilter.Rule.verdict, Netfilter.Rule.matches, toRedsocks, hp]
  rw [scan_append_of_ret hret, any_returns hhosts hp, scan_cons_of_some hlast]

/-- The rules of the first chain, where `o` is what the chain of redsocks does. -/
theorem scan_preRules {p : Packet} {jump : Str → Outcome} :
    scan jump p (preRules iface) =
      match p.proto with
      | .udp => if p.dport = 53 then .redirected 60053 else .passed
      | .tcp => jump redsocks := by
  have hchain : scan jump p [toResolver, toChain] =
      match p.proto with
      | .udp => if p.dport = 53 then .redirected 60053 else .passed
      | .tcp => jump redsocks := by
    cases hp : p.proto with
    | udp =>
      have hresolver : toResolver.verdict jump p = if p.dport = 53 then some (.redirected 60053) else none := by
        simp [Netfilter.Rule.verdict, Netfilter.Rule.matches, toResolver, hp, eq_comm]
      have hno : toChain.matches p = false := by simp [Netfilter.Rule.matches, toChain, hp]
      by_cases hquery : p.dport = 53
      · rw [if_pos hquery] at hresolver
        rw [scan_cons_of_some hresolver]
        exact (if_pos hquery).symm
      · rw [if_neg hquery] at hresolver
        rw [scan_cons_of_none hresolver, scan_cons_of_none (verdict_of_not_matches hno)]
        exact (if_neg hquery).symm
    | tcp =>
      have hno : toResolver.matches p = false := by simp [Netfilter.Rule.matches, toResolver, hp]
      have hyes : toChain.matches p = true := by simp [Netfilter.Rule.matches, toChain, hp]
      rw [scan_cons_of_none (verdict_of_not_matches hno), scan_cons_of_jump (c := redsocks) rfl]
      by_cases hpassed : jump redsocks = .passed
      · rw [if_neg fun h => h.2 hpassed, hpassed]
        rfl
      · rw [if_pos ⟨hyes, hpassed⟩]
  unfold preRules
  by_cases hiface : iface = []
  · rw [if_pos hiface, List.nil_append, hchain]
  · rw [if_neg hiface, List.singleton_append, scan_cons_of_jump (c := redsocks) rfl, hchain]
    by_cases hmatch : (toChainFrom iface).matches p = true ∧ jump redsocks ≠ .passed
    · have hp : p.proto = .tcp := by
        have h := hmatch.1
        simp only [Netfilter.Rule.matches, toChainFrom, Option.all_some, Option.all_none, Bool.and_true,
          Bool.and_eq_true, decide_eq_true_eq] at h
        exact h.2.symm
      rw [if_pos hmatch, hp]
    · rw [if_neg hmatch]

theorem walk_filled {fresh t : Table} {k : Nat} {old : List Netfilter.Rule} {p : Packet} (hold : fresh pre = some old)
    (hsilent : ∀ r ∈ old, r.matches p = false) (hhosts : ∀ h ∈ hosts, IsHostName h)
    (h : Filled fresh t pre (preRules iface) (returns lookup hosts gateway n ++ [toRedsocks]) (k + 1)) (depth : Nat) :
    t.walk p (depth + 2) pre = routed lookup hosts gateway n p := by
  have hpre : t.chain pre = old ++ (List.replicate (k + 1) (preRules iface)).flatten := by
    unfold Table.chain
    rw [h.pre old hold]
    rfl
  have hredsocks : t.walk p (depth + 1) redsocks =
      scan (t.walk p depth) p (returns lookup hosts gateway n ++ [toRedsocks]) := by
    show scan _ p (t.chain redsocks) = _
    rw [h.redsocks, scan_repeated]
  show scan (t.walk p (depth + 1)) p (t.chain pre) = _
  rw [hpre, scan_append_of_none fun r hr => verdict_of_not_matches (hsilent r hr), scan_repeated, scan_preRules]
  unfold routed
  cases hp : p.proto with
  | udp => rfl
  | tcp => exact hredsocks.trans (scan_returns hhosts hp)

end Commands

section Routes

variable {m : Gateway} {routes : List Deploy.Onevps} {pre ip iface port : Str} {hosts : List Str}
  {gateway : Option Addr} {n : Nat}

theorem notMem_scriptLines (hpre : (10 : UInt8) ∉ pre) (hiface : (10 : UInt8) ∉ iface) (hip : (10 : UInt8) ∉ ip)
    (hport : (10 : UInt8) ∉ port) (hhosts : ∀ h ∈ hosts, (10 : UInt8) ∉ h) :
    ∀ line ∈ scriptLines pre iface ip port hosts, (10 : UInt8) ∉ line := by
  have hreturnLine : ∀ {dst : Str}, (10 : UInt8) ∉ dst → (10 : UInt8) ∉ returnLine dst := by
    intro dst hdst
    simp only [returnLine, List.mem_append, not_or]
    exact ⟨⟨by decide, hdst⟩, by decide⟩
  unfold scriptLines
  simp only [List.forall_mem_append, List.forall_mem_cons, List.forall_mem_map]
  refine ⟨⟨?_, fun h hh => hreturnLine (hhosts h hh)⟩, ?_⟩
  · simp only [List.mem_append, not_or]
    and_intros
    all_goals first | assumption | decide +kernel
  · simp only [List.mem_append, not_or]
    and_intros
    all_goals first | assumption | decide +kernel

/-- The routes the script is made from. -/
def Gateway.Knows (m : Gateway) (routes : List Deploy.Onevps) : Prop :=
  m.api = some routes ∨ m.api = none ∧ m.hostFile = some routes

/-- The values that are put into the script are words without characters that mean more to a shell. -/
structure Gateway.Plain (m : Gateway) (routes : List Deploy.Onevps) (gateway : Option Addr) : Prop where
  knows : m.Knows routes
  hosts : ∀ i ∈ routes, IsHostName i.host
  iface : ∀ b ∈ (getIface m.interfaces).1, isWordByte b = true
  ip : Known (getIface m.interfaces).2 gateway

/-- The script does what its commands do. -/
theorem Gateway.Plain.sh (h : m.Plain routes gateway) (hpre : IsPre pre) (hn : number? 65536 port = some n)
    (t : Table) : sh m.lookup (m.ipTahbleRouteSet pre port) t =
      some (t.run (scriptCmds m.lookup pre (getIface m.interfaces).1 (routes.map (·.host)) gateway n)) := by
  have hpre10 : (10 : UInt8) ∉ pre := by
    have hall : ∀ pre ∈ [str "prerouting_rule", str "PREROUTING"], (10 : UInt8) ∉ pre := by decide
    exact hall pre hpre
  have hword : ∀ {w : Str}, (∀ b ∈ w, isWordByte b = true) → (10 : UInt8) ∉ w := fun hw hmem =>
    (isWordByte_ascii 10 (hw 10 hmem)).2.2.2 rfl
  have hip10 : (10 : UInt8) ∉ (getIface m.interfaces).2 := by
    rcases h.ip with ⟨hnone, -⟩ | ⟨a, -, ha⟩
    · rw [hnone]
      exact List.not_mem_nil
    · exact hword (plainWord_of_ipv4? ha).bytes
  have hhosts : ∀ host ∈ routes.map (·.host), IsHostName host := List.forall_mem_map.mpr h.hosts
  have hlines := notMem_scriptLines hpre10 (hword h.iface) hip10 (hword (plainWord_of_number? hn).bytes)
    fun host hhost => (hhosts host hhost).notMem rfl
  have hcommands : List.mapM (lineCommand m.lookup) _ = some _ := scriptLines_commands hpre h.iface h.ip hn hhosts
  have hsplit : split (str "\n") ((str "\n").intercalate _) = _ :=
    split_intercalate (c := 10) (by simp [scriptLines]) hlines
  unfold Netfilter.sh scriptCommands Gateway.ipTahbleRouteSet
  rcases h.knows with hapi | ⟨hapi, hfile⟩
  · -- the text made from the API's routes begins with an empty line
    have hempty : ∀ text, split (str "\n") (str "\n" ++ text) = [] :: split (str "\n") text := fun text =>
      split_singleton (c := 10) (a := []) text List.not_mem_nil
    have hnothing : lineCommand m.lookup [] = some .other := rfl
    rw [hapi]
    dsimp only
    rw [hempty, hsplit, mapM_cons_some hnothing hcommands]
    rfl
  · rw [hapi, hfile]
    dsimp only
    rw [hsplit, hcommands]
    rfl

/-- The service of the system's firewall makes the table anew, and then runs `/etc/firewall.user`, or does not. -/
structure Gateway.Renews (m : Gateway) (fresh : Table) : Prop where
  empty : fresh redsocks = none
  unlisted : contains (m.listed fresh) (str "1091") = false
  restarted : ∀ script t, m.restart script t = fresh ∨
    ∀ t', Netfilter.sh m.lookup script fresh = some t' → m.restart script t = t'

/-- **Behind `StartFireWall` the packets of the network go where the script says**: once it has been run, by the service
or behind it, or by both. -/
theorem startFireWall_routes (h : m.Plain routes gateway) {proxyAddr : Str}
    (hn : number? 65536 (portOf proxyAddr) = some n) {fresh : Table} (hrenews : m.Renews fresh) (t : Table)
    (hthere : (fresh (m.pre t)).isSome) :
    ∃ t', m.startFireWall proxyAddr t = some t' ∧
      ∀ p, (∀ r ∈ fresh.chain (m.pre t), r.matches p = false) →
        ∀ depth, t'.walk p (depth + 2) (m.pre t) = routed m.lookup (routes.map (·.host)) gateway n p := by
  have hpre : IsPre (m.pre t) := by
    unfold Gateway.pre IsPre
    split_ifs <;> simp
  have hscript := h.sh hpre hn
  set iface := (getIface m.interfaces).1
  set cmds := scriptCmds m.lookup (m.pre t) iface (routes.map (·.host)) gateway n
  set rules := returns m.lookup (routes.map (·.host)) gateway n ++ [toRedsocks] with hrules
  have hrun : ∀ {t' : Table} {k : Nat}, Filled fresh t' (m.pre t) (preRules iface) rules k →
      Filled fresh (t'.run cmds) (m.pre t) (preRules iface) rules (k + 1) := fun hfilled => hfilled.run hpre hthere
  have honce := hrun (filled_fresh hrenews.empty)
  obtain ⟨k, t', hstart, hfilled⟩ : ∃ k t', m.startFireWall proxyAddr t = some t' ∧
      Filled fresh t' (m.pre t) (preRules iface) rules (k + 1) := by
    unfold Gateway.startFireWall
    dsimp only
    rcases hrenews.restarted (m.ipTahbleRouteSet (m.pre t) (portOf proxyAddr)) t with hfresh | hruns
    · rw [hfresh, hrenews.unlisted, hscript]
      exact ⟨0, _, rfl, honce⟩
    · rw [hruns _ (hscript fresh), hscript]
      split_ifs
      · exact ⟨0, _, rfl, honce⟩
      · exact ⟨1, _, rfl, hrun honce⟩
  refine ⟨t', hstart, fun p hsilent depth => ?_⟩
  obtain ⟨old, hold⟩ := Option.isSome_iff_exists.mp hthere
  have hchain : fresh.chain (m.pre t) = old := by
    unfold Table.chain
    rw [hold]
    rfl
  exact walk_filled hold (hchain ▸ hsilent) (List.forall_mem_map.mpr h.hosts) hfilled depth

/-! A router with one saved route, whose service runs `/etc/firewall.user`. -/

/-- The table as the service makes it. -/
def madeAnew : Table :=
  Function.update (Function.update (fun _ => none) (str "prerouting_rule") (some [])) (str "PREROUTING")
    (some [{ target := .jump (str "prerouting_rule") }])

def homeRoutes : List Deploy.Onevps := [{ host := str "198.51.100.7" }]

def homeRouter : Gateway where
  interfaces := some [(str "lo", some [str "127.0.0.1/8"]), (str "br-lan", some [str "192.168.8.1/24"])]
  api := none
  hostFile := some homeRoutes
  lookup := fun _ => []
  restart := fun script _ => (sh (fun _ => []) script madeAnew).getD madeAnew
  listed := fun t =>
    (if (t (str "prerouting_rule")).isSome then str "prerouting_rule " else []) ++
      if (t.chain redsocks).any (·.dport = some 1091) then str "dpt:1091" else []

/-- A connection of the network to `addr`. -/
def homePacket (addr : Addr) : Packet :=
  { iface := str "br-lan", proto := .tcp, src := 0xc0a80864, dst := addr, dport := 443 }

theorem homeRouter_routes : ∃ t', homeRouter.startFireWall (str "127.0.0.1:1091") madeAnew = some t' ∧
    t'.walk (homePacket 0xcb007105) 2 (str "prerouting_rule") = .redirected 1081 ∧
      t'.walk (homePacket 0xc6336407) 2 (str "prerouting_rule") = .passed := by
  have hhost : IsHostName (str "198.51.100.7") := ⟨by decide +kernel, by decide +kernel⟩
  have hplain : homeRouter.Plain homeRoutes (some 0xc0a80801) :=
    ⟨Or.inr ⟨rfl, rfl⟩, List.forall_mem_singleton.mpr hhost, by decide +kernel, Or.inr ⟨_, rfl, by decide +kernel⟩⟩
  have hport : number? 65536 (portOf (str "127.0.0.1:1091")) = some 1091 := by decide +kernel
  have hrenews : homeRouter.Renews madeAnew := by
    refine ⟨by decide +kernel, by decide +kernel, fun script t => Or.inr fun t' ht' => ?_⟩
    show (sh (fun _ => []) script madeAnew).getD madeAnew = t'
    rw [show sh (fun _ => []) script madeAnew = some t' from ht']
    rfl
  have hpre : homeRouter.pre madeAnew = str "prerouting_rule" := by decide +kernel
  obtain ⟨t', hstart, hwalk⟩ := startFireWall_routes hplain hport hrenews madeAnew (by rw [hpre]; rfl)
  rw [hpre] at hwalk
  have hsilent : ∀ p, ∀ r ∈ madeAnew.chain (str "prerouting_rule"), r.matches p = false := nofun
  have hweb : t'.walk (homePacket 0xcb007105) 2 (str "prerouting_rule") = .redirected 1081 :=
    (hwalk _ (hsilent _) 0).trans (by decide +kernel)
  have hserver : t'.walk (homePacket 0xc6336407) 2 (str "prerouting_rule") = .passed :=
    (hwalk _ (hsilent _) 0).trans (by decide +kernel)
  exact ⟨t', hstart, hweb, hserver⟩

end Routes

end ProxyZ.Router
