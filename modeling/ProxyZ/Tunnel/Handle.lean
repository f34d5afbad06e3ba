import ProxyZ.Dns.Message
import ProxyZ.Socks5.Frame

/-!
# Serving a stream

`HandleConnAsync` reads the request at the front of a stream and serves its host: a controll host, a DNS query
in brackets, or an address to dial. `route` is the choice among the three.

A call is followed on a `Conn`: what it does to the tunnel's counters and to the connection, and whether it
panics. `defer` runs in either case. The pipe is taken to copy both directions to their end and to return.
-/

namespace ProxyZ.Tunnel

open Go ProxyZ.Socks5 ProxyZ.Dns

/-- What the server finds outside: the DNS library and the resolver, what `Dial` and the write of the
confirmation return, what a dialed host sends, and the tunnel's `ControllFunc`, of which it is known how often
it calls `DelCon`. -/
structure World (ρ : Type) where
  codec : Codec ρ
  lookupIP : Str → Except Err (List IP)
  dial : Str → Option Err
  confirmWrite : Option Err
  remote : Str → Bytes
  controllFunc : Option (Str → Nat)

/-- The tunnel's counters, and the connection that is served. -/
structure Conn where
  alive : Int
  cons : Nat
  delCons : Nat := 0
  dialed : List Str := []
  sent : Bytes := []
  written : Bytes := []
  panicked : Bool := false
  deriving DecidableEq, Repr

def delCon (s : Conn) : Conn := { s with delCons := s.delCons + 1 }

def panics (s : Conn) : Conn := { s with panicked := true }

variable {ρ : Type} (w : World ρ)

/-- `DnsNormal`. A reply without a text is taken for an error, and its `Error()` is called. -/
def dnsNormal (host : Str) (s : Conn) : Conn :=
  delCon <|
    match replyDNS w.codec w.lookupIP host with
    | none => panics s
    | some (_, some _) => s
    | some (msg, none) =>
        if msg = [] then panics s
        else
          let s := { s with written := s.written ++ msg }
          match unpackDNS w.codec msg with
          | none => panics s
          | some _ => s

def tcpNormal (host : Str) (con : Reader) (s : Conn) : Conn :=
  delCon <|
    match w.dial host with
    | some _ => s
    | none =>
        match w.confirmWrite with
        | some _ => { s with dialed := s.dialed ++ [host] }
        | none =>
            { s with
              dialed := s.dialed ++ [host]
              sent := s.sent ++ con.bytes
              written := s.written ++ socks5Confirm ++ w.remote host }

/-- How a host is served. -/
inductive Route
  | controll
  | dns (query : Str)
  | tcp
  deriving DecidableEq, Repr

/-- A host that is a DNS query. -/
def isDns (host : Str) : Bool := hasPrefix host (str "dns://") || hasPrefix host (str "[dns://")

/-- `gs.Str(host).Split("[")[1].Split("]")[0]`. -/
def bracketed (host : Str) : Option Str := do
  let part ← (split (str "[") host)[1]?
  (split (str "]") part)[0]?

/-- The branch `HandleConnAsync` takes for a host, `none` where an index is out of range. -/
def route (host : Str) : Option Route :=
  if hasPrefix host (str "R://") then some .controll
  else if isDns host then (bracketed host).map .dns
  else some .tcp

/-- `HandleConnAsync` behind the request. -/
def serveHost (host : Str) (con : Reader) (s : Conn) : Conn :=
  match route host with
  | none => panics s
  | some .controll =>
      match w.controllFunc with
      | none => s
      | some f => { s with delCons := s.delCons + f host }
  | some (.dns query) => dnsNormal w query s
  | some .tcp => tcpNormal w host con s

def handleConnAsync (con : Reader) (s : Conn) : Conn :=
  match getServerRequest con with
  | none => panics s
  | some ({ err := some _, .. }, _) => delCon s
  | some ({ host, err := none, .. }, con) =>
      let s := serveHost w host con { s with cons := s.cons + 1, alive := s.alive + 1 }
      { s with alive := s.alive - 1 }

/-! ### Splitting at the brackets -/

/-- The text behind the first `[` and before the next `]`. -/
theorem bracketed_append {pre q : Str} (post : Str) (hpre : (91 : UInt8) ∉ pre) (hopen : (91 : UInt8) ∉ q)
    (hclose : (93 : UInt8) ∉ q) (hpost : (91 : UInt8) ∉ post) :
    bracketed (pre ++ 91 :: (q ++ 93 :: post)) = some q := by
  have hinner : (91 : UInt8) ∉ q ++ 93 :: post := by
    simp only [List.mem_append, List.mem_cons]
    rintro (h | h | h)
    · exact hopen h
    · exact absurd h (by decide)
    · exact hpost h
  unfold bracketed
  rw [show str "[" = [91] from rfl, show str "]" = [93] from rfl, split_singleton _ hpre,
    split_singleton_none hinner]
  simp only [List.getElem?_cons_succ, List.getElem?_cons_zero, Option.bind_eq_bind, Option.bind_some]
  rw [split_singleton _ hclose, List.getElem?_cons_zero]

theorem bracketed_eq_none {host : Str} : bracketed host = none ↔ (91 : UInt8) ∉ host := by
  unfold bracketed
  rw [show str "[" = [91] from rfl]
  constructor
  · intro hnone hmem
    obtain ⟨pre, post, rfl, hpre⟩ := List.eq_append_cons_of_mem hmem
    obtain ⟨part, rest, hpart⟩ := exists_split [91] post
    obtain ⟨q, rest', hq⟩ := exists_split (str "]") part
    rw [split_singleton _ hpre, hpart] at hnone
    simp only [List.getElem?_cons_succ, List.getElem?_cons_zero, Option.bind_eq_bind, Option.bind_some, hq] at hnone
    cases hnone
  · intro hmem
    rw [split_singleton_none hmem]
    rfl

/-! ### The branches -/

theorem route_controll {host : Str} (hR : hasPrefix host (str "R://") = true) : route host = some .controll :=
  if_pos hR

theorem route_dns {host : Str} (hR : hasPrefix host (str "R://") ≠ true) (hdns : isDns host = true) :
    route host = (bracketed host).map .dns := by
  unfold route
  rw [if_neg hR, if_pos hdns]

theorem route_tcp {host : Str} (hR : hasPrefix host (str "R://") ≠ true) (hdns : isDns host ≠ true) :
    route host = some .tcp := by
  unfold route
  rw [if_neg hR, if_neg hdns]

end ProxyZ.Tunnel
