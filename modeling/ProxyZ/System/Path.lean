import ProxyZ.Client.Counted
import ProxyZ.Client.Listen
import ProxyZ.Socks5.Segments
import ProxyZ.Socks5.WireFormat
import ProxyZ.Tunnel.Robust

/-!
# The way of a connection

An application speaks SOCKS5 to the client. The client takes the request off its connection and dials the host
itself, answers in the place of the host, or sends the request down a stream of the tunnel, where the server reads
it again, dials the host and copies both ways.

`socks5Con` is the function that `Socks5Listen` starts for a connection, with both ends of the tunnel: what the
application reads, and what becomes of the stream at the server. The bytes between the two are cut by a `Transport`.
The stream takes what is written to it, and the pipes copy to the end.
-/

namespace ProxyZ.System

open Go Method ProxyZ.Client ProxyZ.Socks5 ProxyZ.Dns
open ProxyZ.Tunnel (handleConnAsync tcpNormal serveHost route isDns)

/-- What is written at one end comes to the other in chunks. -/
structure Transport where
  carry : Bytes → Reader
  bytes_carry : ∀ b, (carry b).bytes = b
  nonempty : ∀ b, ∀ chunk ∈ (carry b).chunks, chunk ≠ []

/-- What the client and the server find outside. -/
structure Outside (ρ : Type) where
  client : Client.World
  server : Tunnel.World ρ
  /-- to the server, and back -/
  up : Transport
  down : Transport
  /-- the rules of the client -/
  re : Regexp
  rules : Rules
  /-- `net.Dial` on the client, and what such a host sends -/
  dial : Str → Option Err
  host : Str → Bytes
  gatewayIP : Str
  /-- the counters of the tunnel at the server -/
  tunnel : Tunnel.Conn

/-- What comes of a connection: what the application reads, the host that the client has dialed itself with what
has been sent there, and the stream at the server. -/
structure Trip where
  app : Bytes := []
  dialed : Option (Str × Bytes) := none
  stream : Option Tunnel.Conn := none

section Functions

variable {ρ : Type} (o : Outside ρ)

/-- The server's end of a stream that the client has opened with `raw`. What the application sends behind its
request comes when the client is copying, and that is behind the confirmation. -/
def serveStream (raw payload : Bytes) : Tunnel.Conn :=
  let s := handleConnAsync o.server (o.up.carry raw) o.tunnel
  if s.written = o.tunnel.written then s else handleConnAsync o.server (o.up.carry (raw ++ payload)) o.tunnel

/-- What the server writes to the stream. -/
def reply (s : Tunnel.Conn) : Bytes := s.written.drop o.tunnel.written.length

def onBodyBeforeGetRemote (isSocks5 : Bool) (raw : Bytes) (host : Str) (payload : Bytes) : Call Trip :=
  if hasPrefix host (str "c://") then do
    controllCode o.client host
    return { app := str "END Controll :" ++ host }
  else do
    let s ← connectRemote o.client
    -- `LogTest`
    if host = [] ∧ raw.length < 4 then throw .panic
    else if s.err.isSome then do
      errRecord s.id 1
      routeErr
      return {}
    else do
      let stream := serveStream o raw payload
      let r ← onBodyDo none none (o.down.carry (reply o stream)) s.id isSocks5 raw
      modify fun c => if r.err.isSome then { c with errCon := c.errCon + 1 } else c
      return { app := r.out, stream := some stream }

def tcppipe (host : Str) (payload : Bytes) : Trip :=
  match o.dial host with
  | some _ => {}
  | none => { app := socks5Confirm ++ o.host host, dialed := some (host, payload) }

def redirectConfig : Trip :=
  { app := socks5Confirm ++ (str "HTTP/1.1 302 Found\nLocation: http://" ++ o.gatewayIP ++ str ":35555" ++ str "\r\n\r\n") }

/-- Behind the request. -/
def bypass (raw : Bytes) (host : Str) (payload : Bytes) : Call Trip :=
  match socks5Dial o.re o.rules raw with
  | .direct addr => do
      modify fun c => { c with aliveCount := c.aliveCount - 1 }
      return tcppipe o addr payload
  | .config => do
      modify fun c => { c with aliveCount := c.aliveCount - 1 }
      return redirectConfig o
  | .remote => onBodyBeforeGetRemote o true raw host payload

/-- The handshake, the request and what is behind them. -/
def socks5Serve (conn : Conn) (payload : Bytes) : Call Trip :=
  match socks5HandShake conn with
  | none => throw .panic
  | some (some _, conn) => do
      modify fun c => { c with aliveCount := c.aliveCount - 1 }
      return { app := conn.written }
  | some (none, conn) =>
      match getLocalRequest conn.reader with
      | none => throw .panic
      | some (q, _) =>
          if q.err.isSome then return { app := conn.written }
          else do
            let trip ← bypass o q.rawaddr q.host payload
            return { trip with app := conn.written ++ trip.app }

/-- What `Socks5Listen` starts behind an `Accept`. `payload` is what the application sends when it is confirmed. -/
def socks5Con (conn : Conn) (payload : Bytes) : Call Trip := do
  let trip ← socks5Serve o conn payload
  modify fun c => { c with acceptCount := c.acceptCount - 1 }
  return trip

/-- **The steps of a connection**, one by one, end with the client as the call leaves it. -/
theorem connStep_onBodyBeforeGetRemote {isSocks5 : Bool} {raw payload : Bytes} {host : Str} {c c₁ : ClientControl}
    {t : Trip} (h : onBodyBeforeGetRemote o isSocks5 raw host payload c = .ok (t, c₁)) :
    connStep o.client o.re c (.body isSocks5 raw host) {} = some (c₁, leave isSocks5) ∨
      ∃ c' eid s, connStep o.client o.re c (.body isSocks5 raw host) {} = some (c', .relaying isSocks5 eid raw) ∧
        t.stream = some s ∧
        connStep o.client o.re c' (.relaying isSocks5 eid raw) { remotecon := o.down.carry (reply o s) } =
          some (c₁, leave isSocks5) := by
  unfold onBodyBeforeGetRemote at h
  simp only [connStep]
  by_cases hcode : hasPrefix host (str "c://") = true
  · rw [if_pos hcode] at h ⊢
    obtain ⟨_, c', hcall, h⟩ := bind_eq_ok h
    cases h
    rw [hcall]
    exact Or.inl rfl
  rw [if_neg hcode] at h ⊢
  obtain ⟨s, c', hcall, h⟩ := bind_eq_ok h
  rw [hcall]
  dsimp only
  split_ifs at h ⊢ with hlog herr
  · cases h
  · cases h
    exact Or.inl rfl
  · obtain ⟨r, c₂, hrelay, h⟩ := bind_eq_ok h
    cases h
    refine Or.inr ⟨c', s.id, serveStream o raw payload, rfl, rfl, ?_⟩
    rw [hrelay]

end Functions

/-! ### The stream at the server -/

section Stream

variable {ρ : Type} {o : Outside ρ} {raw host : Bytes}

/-- `Dial` connects, and the confirmation can be written. -/
def Reaches (w : Tunnel.World ρ) (host : Str) : Prop := w.dial host = none ∧ w.confirmWrite = none

/-- A stream whose host has been reached, with the payload passed on and the stream given back. -/
structure Piped (o : Outside ρ) (host : Str) (payload : Bytes) (s : Tunnel.Conn) : Prop where
  dialed : s.dialed = o.tunnel.dialed ++ [host]
  sent : s.sent = o.tunnel.sent ++ payload
  written : s.written = o.tunnel.written ++ (socks5Confirm ++ o.server.remote host)
  delCons : s.delCons = o.tunnel.delCons + 1
  alive : s.alive = o.tunnel.alive
  panicked : s.panicked = o.tunnel.panicked

/-- A stream on which nothing has been written, and nothing passed on. -/
structure Unserved (o : Outside ρ) (s : Tunnel.Conn) : Prop where
  sent : s.sent = o.tunnel.sent
  written : s.written = o.tunnel.written
  delCons : s.delCons = o.tunnel.delCons + 1
  alive : s.alive = o.tunnel.alive
  panicked : s.panicked = o.tunnel.panicked

/-- **A request for an address** is dialed as it is read, and with the host reached the payload goes there. -/
theorem handleConnAsync_tcp {con : Reader} {payload : Bytes} (hreads : Reads (raw ++ payload) host raw.length)
    (htcp : route host = some .tcp) (hcon : con.bytes = raw ++ payload) :
    (Reaches o.server host → Piped o host payload (handleConnAsync o.server con o.tunnel)) ∧
      (¬Reaches o.server host → Unserved o (handleConnAsync o.server con o.tunnel)) := by
  obtain ⟨raw', rest, isUdp, con', hsplit, hlen, hreq, hrest⟩ := getServerRequest_of_reads hreads hcon
  obtain ⟨rfl, rfl⟩ := List.append_inj hsplit hlen.symm
  unfold handleConnAsync
  rw [hreq]
  dsimp only
  unfold serveHost
  rw [htcp]
  dsimp only
  unfold tcpNormal Tunnel.delCon
  constructor
  · rintro ⟨hdial, hconfirm⟩
    rw [hdial, hconfirm]
    constructor <;> simp [hrest]
  · intro hno
    rcases hdial : o.server.dial host with _ | err
    · rcases hconfirm : o.server.confirmWrite with _ | err
      · exact absurd ⟨hdial, hconfirm⟩ hno
      · constructor <;> simp
    · constructor <;> simp

/-- A stream that ends inside its request. -/
theorem handleConnAsync_cut {con : Reader} (hreads : ∀ host n, ¬Reads con.bytes host n) :
    Unserved o (handleConnAsync o.server con o.tunnel) := by
  obtain ⟨host, n, h⟩ | ⟨q, con', hreq, herr⟩ := decided con
  · exact absurd h (hreads host n)
  · obtain ⟨host, raw, isUdp, err⟩ := q
    obtain ⟨err, rfl⟩ := Option.ne_none_iff_exists'.mp herr
    unfold handleConnAsync
    rw [hreq]
    constructor <;> simp [Tunnel.delCon]

theorem Piped.written_ne {s : Tunnel.Conn} {payload : Bytes} (h : Piped o host payload s) :
    s.written ≠ o.tunnel.written := by
  rw [h.written]
  simp [socks5Confirm]

theorem serveStream_tcp (payload : Bytes) (hreads : ∀ payload, Reads (raw ++ payload) host raw.length)
    (htcp : route host = some .tcp) :
    (Reaches o.server host → Piped o host payload (serveStream o raw payload)) ∧
      (¬Reaches o.server host → Unserved o (serveStream o raw payload)) := by
  have hwait := handleConnAsync_tcp (o := o) (hreads []) htcp
    (show (o.up.carry raw).bytes = raw ++ [] by rw [o.up.bytes_carry, List.append_nil])
  have hpipe := handleConnAsync_tcp (o := o) (hreads payload) htcp (o.up.bytes_carry _)
  unfold serveStream
  constructor
  · intro hreach
    dsimp only
    rw [if_neg (hwait.1 hreach).written_ne]
    exact hpipe.1 hreach
  · intro hno
    dsimp only
    rw [if_pos (hwait.2 hno).written]
    exact hwait.2 hno

theorem serveStream_cut (payload : Bytes) (hreads : ∀ host n, ¬Reads raw host n) :
    Unserved o (serveStream o raw payload) := by
  have h : Unserved o (handleConnAsync o.server (o.up.carry raw) o.tunnel) := by
    apply handleConnAsync_cut
    rwa [o.up.bytes_carry]
  unfold serveStream
  dsimp only
  rw [if_pos h.written]
  exact h

end Stream

/-! ### The relay -/

section Relay

variable {ρ : Type} {o : Outside ρ} {raw target host : Bytes}

/-- The first chunk of the server's bytes has the whole confirmation. -/
def KeepsConfirm (o : Outside ρ) (target : Str) : Prop :=
  socks5Confirm.length ≤ ((o.down.carry (socks5Confirm ++ o.server.remote target)).chunks.headD []).length

/-- What is meant for an application: the confirmation if it speaks SOCKS5, and what the host sends. -/
def meant (isSocks5 : Bool) (answer : Bytes) : Bytes := (if isSocks5 then socks5Confirm else []) ++ answer

def confirmedBy (o : Outside ρ) (answer : Bytes) : ConfirmedStream where
  conn := o.down.carry (socks5Confirm ++ answer)
  nonempty := o.down.nonempty _
  confirmed := by
    rw [o.down.bytes_carry]
    exact List.prefix_append _ _

/-- **What is meant for the application comes exactly if the first chunk has the whole confirmation.** -/
theorem onBodyDo_meant (answer : Bytes) (eid : Str) (isSocks5 : Bool) (raw : Bytes) (c : ClientControl) :
    ∃ r c', onBodyDo none none (o.down.carry (socks5Confirm ++ answer)) eid isSocks5 raw c = .ok (r, c') ∧
      (r.out = meant isSocks5 answer ↔
        socks5Confirm.length ≤ ((o.down.carry (socks5Confirm ++ answer)).chunks.headD []).length) := by
  obtain ⟨first, rest, -, hchunks, hne, -, -⟩ := (confirmedBy o answer).read
  obtain ⟨r, c', hcall, hout⟩ := onBodyDo_out hchunks isSocks5 c eid raw
  have hbytes : (confirmedBy o answer).conn.bytes = socks5Confirm ++ answer := o.down.bytes_carry _
  have hfirst : (o.down.carry (socks5Confirm ++ answer)).chunks.headD [] = first := by
    show (confirmedBy o answer).conn.chunks.headD [] = first
    rw [hchunks, List.headD_cons]
  refine ⟨r, c', hcall, ?_⟩
  rw [hout, hbytes, hfirst]
  constructor
  · intro heq
    by_contra hshort
    have hpos := List.length_pos_iff.mpr hne
    have hlen := congrArg List.length heq
    rw [if_neg fun h => hshort h.1, Nat.min_eq_left (Nat.le_of_not_le hshort), List.nil_append, List.length_drop,
      meant] at hlen
    simp only [List.length_append] at hlen
    split_ifs at hlen
    · omega
    · simp only [List.length_nil] at hlen
      omega
  · intro hle
    rw [Nat.min_eq_right hle, List.drop_left]
    simp [meant, hle]

/-- The server has written nothing. -/
theorem onBodyDo_nothing (eid : Str) (isSocks5 : Bool) (raw : Bytes) (c : ClientControl) :
    ∃ r c', onBodyDo none none (o.down.carry []) eid isSocks5 raw c = .ok (r, c') ∧ r.out = [] := by
  have hchunks : (o.down.carry []).chunks = [] := by
    cases hc : (o.down.carry []).chunks with
    | nil => rfl
    | cons first rest =>
      have hne := o.down.nonempty [] first (by simp [hc])
      have hbytes := o.down.bytes_carry []
      rw [Reader.bytes, hc, List.flatten_cons] at hbytes
      exact absurd (List.append_eq_nil_iff.mp hbytes).1 hne
  unfold onBodyDo Go.read
  rw [hchunks]
  exact ⟨_, _, rfl, rfl⟩

/-- What comes of a request that goes down the tunnel. -/
theorem onBodyBeforeGetRemote_session {c c' : ClientControl} {s : Session} (isSocks5 : Bool) (payload : Bytes)
    (hcode : hasPrefix host (str "c://") = false) (hraw : 4 ≤ raw.length)
    (hsession : connectRemote o.client c = .ok (s, c')) (herr : s.err = none) {r : Relay} {c₁ : ClientControl}
    (hcall : onBodyDo none none (o.down.carry (reply o (serveStream o raw payload))) s.id isSocks5 raw c' = .ok (r, c₁)) :
    ∃ c₂, onBodyBeforeGetRemote o isSocks5 raw host payload c =
      .ok ({ app := r.out, stream := some (serveStream o raw payload) }, c₂) := by
  have hlog : ¬(host = [] ∧ raw.length < 4) := fun h => absurd h.2 (Nat.not_lt.mpr hraw)
  unfold onBodyBeforeGetRemote
  rw [hcode, if_neg Bool.false_ne_true, bind_apply_ok _ hsession, if_neg hlog, herr, if_neg (by simp)]
  rw [bind_apply_ok _ hcall]
  exact ⟨_, rfl⟩

/-- **A connection is served**: the application reads what is meant for it, the host gets what the application
sends, and the stream is given back. -/
def Serves (o : Outside ρ) (target : Str) (payload app : Bytes) (t : Trip) : Prop :=
  t.app = app ∧ t.dialed = none ∧ ∃ s, t.stream = some s ∧ Piped o target payload s

/-- **A request for an address is served, for this address alone, exactly if the server reaches the host and its
confirmation comes in one piece.** -/
theorem onBodyBeforeGetRemote_serves {c c' : ClientControl} {s : Session} (isSocks5 : Bool) (payload : Bytes)
    (hreads : ∀ payload, Reads (raw ++ payload) target raw.length) (htcp : route target = some .tcp)
    (hcode : hasPrefix host (str "c://") = false) (hraw : 4 ≤ raw.length)
    (hsession : connectRemote o.client c = .ok (s, c')) (herr : s.err = none) :
    ∃ t c₁, onBodyBeforeGetRemote o isSocks5 raw host payload c = .ok (t, c₁) ∧
      ∀ target', Serves o target' payload (meant isSocks5 (o.server.remote target')) t ↔
        target = target' ∧ Reaches o.server target' ∧ KeepsConfirm o target' := by
  obtain ⟨hpiped, hunserved⟩ := serveStream_tcp payload hreads htcp
  by_cases hreach : Reaches o.server target
  · have hs := hpiped hreach
    have hreply : reply o (serveStream o raw payload) = socks5Confirm ++ o.server.remote target := by
      rw [reply, hs.written, List.drop_left]
    obtain ⟨r, c₁, hcall, hout⟩ := onBodyDo_meant (o := o) (o.server.remote target) s.id isSocks5 raw c'
    rw [← hreply] at hcall
    obtain ⟨c₂, hres⟩ := onBodyBeforeGetRemote_session isSocks5 payload hcode hraw hsession herr hcall
    refine ⟨_, c₂, hres, fun target' => ⟨?_, ?_⟩⟩
    · rintro ⟨happ, -, _, hstream, hpipe⟩
      obtain rfl := Option.some.inj hstream
      have hdialed := hs.dialed.symm.trans hpipe.dialed
      obtain rfl : target = target' := List.singleton_inj.mp (List.append_cancel_left hdialed)
      exact ⟨rfl, hreach, hout.mp happ⟩
    · rintro ⟨rfl, -, hkeeps⟩
      exact ⟨hout.mpr hkeeps, rfl, _, rfl, hs⟩
  · have hs := hunserved hreach
    have hreply : reply o (serveStream o raw payload) = [] := by
      rw [reply, hs.written, List.drop_length]
    obtain ⟨r, c₁, hcall, -⟩ := onBodyDo_nothing (o := o) s.id isSocks5 raw c'
    rw [← hreply] at hcall
    obtain ⟨c₂, hres⟩ := onBodyBeforeGetRemote_session isSocks5 payload hcode hraw hsession herr hcall
    refine ⟨_, c₂, hres, fun target' => iff_of_false ?_ ?_⟩
    · rintro ⟨-, -, _, hstream, hpipe⟩
      obtain rfl := Option.some.inj hstream
      exact hpipe.written_ne hs.written
    · rintro ⟨rfl, hreach', -⟩
      exact hreach hreach'

end Relay

/-! ### The request at the client -/

section Request

/-- A text without a zero begins the host that the client takes exactly if it begins the name and has come with the
first read. -/
theorem prefix_hostPart_iff {p name rest more : Bytes} (hzero : (0 : UInt8) ∉ p) (hmore : more <+: name ++ rest) :
    p <+: hostPart name.length more ↔ p <+: name ∧ p.length ≤ more.length := by
  have hname : name <+: name ++ rest := List.prefix_append _ _
  unfold hostPart filled
  constructor
  · intro h
    have hlen := h.length_le
    rw [List.length_take] at hlen
    have hp := h.trans (List.take_prefix _ _)
    have hle : p.length ≤ more.length := by
      by_contra hgt
      have hzeros : p.drop more.length <+: make (name.length - more.length) := by
        have := hp.drop more.length
        rwa [List.drop_left] at this
      obtain ⟨b, hb⟩ := List.exists_mem_of_length_pos (l := p.drop more.length) (by rw [List.length_drop]; omega)
      obtain rfl : b = 0 := List.eq_of_mem_replicate (hzeros.subset hb)
      exact hzero (List.drop_subset _ _ hb)
    have hpm : p <+: more := List.prefix_of_prefix_length_le hp (List.prefix_append _ _) hle
    exact ⟨List.prefix_of_prefix_length_le (hpm.trans hmore) hname (by omega), hle⟩
  · rintro ⟨hp, hle⟩
    have hpm : p <+: more := List.prefix_of_prefix_length_le (hp.trans hname) hmore hle
    rw [List.prefix_take_iff]
    exact ⟨hpm.trans (List.prefix_append _ _), hp.length_le⟩

variable {c : Reader}

/-- The host that the client takes from a request, of which the first read has brought `more` behind five bytes. -/
def takenHost (a : Addr) (more : Bytes) : Str :=
  match a with
  | .domain name _ => hostPart name.length more
  | _ => []

/-- The bytes of a name that fit into the client's arithmetic. -/
def ShortName (a : Addr) : Prop :=
  match a with
  | .domain name _ => name.length ≤ 250
  | _ => True

/-- **The client reads a request on its own** as it is. -/
theorem getLocalRequest_connect (m : Connect) (hshort : ShortName m.addr) (hbytes : c.bytes = m.encode) :
    ∃ more c', getLocalRequest c = some ({ rawaddr := m.encode, host := takenHost m.addr more }, c') ∧
      more = (m.encode.drop 5).take (reached 5 c.chunks - 5) := by
  have hok : HeaderOk 5 1 := ⟨Or.inl rfl, Or.inl rfl⟩
  obtain ⟨addr, port⟩ := m
  have hport : (be16 port.toNat).length = 2 := length_be16 _
  cases addr with
  | ipv4 ip len =>
    obtain ⟨b, t, rfl⟩ := List.exists_cons_of_length_pos (show 0 < ip.length by omega)
    have hcut : c.bytes = [5, 1, 0, typeIPv4, b] ++ (t ++ be16 port.toNat) := hbytes
    have hlen : 5 + (t ++ be16 port.toNat).length = lenIPv4 := by
      rw [List.length_append, hport, lenIPv4]
      rw [List.length_cons] at len
      omega
    have hreq : ∀ more, localReqLen (filled 263 ([5, 1, 0, typeIPv4, b] ++ more)) =
        some (some (5 + (t ++ be16 port.toNat).length, [])) := fun more => by
      rw [localReqLen_eq, if_pos rfl, hlen]
    obtain ⟨c', hres⟩ := getLocalRequest_whole hcut hok hreq (by rw [hlen]; decide)
    rw [hbytes] at hres
    exact ⟨_, c', hres, rfl⟩
  | ipv6 ip len =>
    obtain ⟨b, t, rfl⟩ := List.exists_cons_of_length_pos (show 0 < ip.length by omega)
    have hcut : c.bytes = [5, 1, 0, typeIPv6, b] ++ (t ++ be16 port.toNat) := hbytes
    have hlen : 5 + (t ++ be16 port.toNat).length = lenIPv6 := by
      rw [List.length_append, hport, lenIPv6]
      rw [List.length_cons] at len
      omega
    have hreq : ∀ more, localReqLen (filled 263 ([5, 1, 0, typeIPv6, b] ++ more)) =
        some (some (5 + (t ++ be16 port.toNat).length, [])) := fun more => by
      rw [localReqLen_eq, if_neg (by decide), if_pos rfl, hlen]
    obtain ⟨c', hres⟩ := getLocalRequest_whole hcut hok hreq (by rw [hlen]; decide)
    rw [hbytes] at hres
    exact ⟨_, c', hres, rfl⟩
  | domain name len =>
    have hcut : c.bytes = [5, 1, 0, typeDm, UInt8.ofNat name.length] ++ (name ++ be16 port.toNat) := hbytes
    have hcount : (UInt8.ofNat name.length).toNat = name.length := by
      rw [UInt8.toNat_ofNat', Nat.mod_eq_of_lt (by omega)]
    have hle : name.length ≤ 250 := hshort
    have hlen : 5 + (name ++ be16 port.toNat).length = name.length + lenDmBase := by
      rw [List.length_append, hport, lenDmBase]
      omega
    have hreq : ∀ more, localReqLen (filled 263 ([5, 1, 0, typeDm, UInt8.ofNat name.length] ++ more)) =
        some (some (5 + (name ++ be16 port.toNat).length, hostPart name.length more)) := fun more => by
      rw [localReqLen_eq, hcount, if_neg (by decide), if_neg (by decide), if_pos (Or.inl rfl), if_pos hle, if_pos rfl,
        hlen]
    obtain ⟨c', hres⟩ := getLocalRequest_whole hcut hok hreq (by rw [hlen, lenDmBase]; omega)
    rw [hbytes] at hres
    exact ⟨_, c', hres, rfl⟩

/-- An application that waits for the reply to its greeting. -/
structure Polite (conn : Conn) (g : Greeting) (m : Connect) : Prop where
  bytes : conn.reader.bytes = g.bytes ++ m.encode
  waits : reached 2 conn.reader.chunks ≤ g.bytes.length
  writable : conn.broken = none
  fresh : conn.written = []

/-- Its greeting is answered, and the request is what is left. -/
theorem Polite.greeted {conn : Conn} {g : Greeting} {m : Connect} (h : Polite conn g m) :
    ∃ reader, socks5HandShake conn = some (none, { conn with reader, written := [5, 0] }) ∧ reader.bytes = m.encode := by
  have hbytes : conn.reader.bytes = [g.ver, UInt8.ofNat g.methods.length] ++ (g.methods ++ m.encode) := by
    rw [h.bytes, Greeting.bytes, List.append_assoc]
  have hwaits : reached 2 conn.reader.chunks ≤ g.methods.length + 2 := h.waits.trans (by simp [Greeting.bytes])
  obtain ⟨hgt, -⟩ | ⟨-, hlt, -⟩ | ⟨-, -, reader, hres, hrest⟩ := handShake_read_methods hbytes g.version
  · rw [g.count] at hgt
    omega
  · rw [g.count, List.length_append] at hlt
    omega
  · rw [g.count, List.drop_left] at hrest
    refine ⟨reader, ?_, hrest⟩
    rw [hres, Conn.write, h.writable, h.fresh]
    rfl

end Request

/-! ### An application that speaks SOCKS5 -/

section Socks

variable {ρ : Type} {o : Outside ρ}

/-- An address with its port is dialed, unless the address begins as a DNS query does. -/
theorem route_joinHostPort {text : Str} (n : Nat) (hdns : hasPrefix text (str "dns://") = false) :
    route (joinHostPort text (itoa n)) = some .tcp := by
  have hR : hasPrefix (joinHostPort text (itoa n)) (str "R" ++ str "://") = false :=
    Tunnel.hasPrefix_joinHostPort text n (by decide) (by decide) (by decide)
  have hquery : hasPrefix (joinHostPort text (itoa n)) (str "dns" ++ str "://") = false :=
    Tunnel.hasPrefix_joinHostPort text n (by decide) (by decide) (by decide)
  apply Tunnel.route_tcp (ne_true_of_eq_false hR)
  rw [isDns, ne_eq, Bool.not_eq_true, Bool.or_eq_false_iff]
  refine ⟨hquery, Bool.eq_false_iff.mpr fun hpre => ?_⟩
  rw [hasPrefix_iff] at hpre
  by_cases hcolon : (58 : UInt8) ∈ text
  · -- a bracket, and the query behind it
    rw [joinHostPort_of_mem _ hcolon, List.append_assoc, List.append_assoc] at hpre
    have hpre : str "dns://" <+: text ++ (str "]:" ++ itoa n) := (List.prefix_append_right_inj (str "[")).mp hpre
    have hno : ¬str "dns://" <+: text := by
      rw [← hasPrefix_iff, hdns]
      exact Bool.false_ne_true
    have hshort : text.length < 6 := by
      by_contra hlong
      exact hno (List.prefix_of_prefix_length_le hpre (List.prefix_append _ _) (Nat.le_of_not_lt hlong))
    have htext : text <+: str "dns://" := List.prefix_of_prefix_length_le (List.prefix_append _ _) hpre hshort.le
    obtain ⟨rest, hrest⟩ := htext
    rw [← hrest, List.prefix_append_right_inj] at hpre
    cases rest with
    | nil =>
      rw [List.append_nil] at hrest
      exact hno (hrest ▸ List.prefix_rfl)
    | cons b rest =>
      obtain ⟨t, ht⟩ := hpre
      have hb : b = 93 := (List.cons.inj ht).1
      have hmem : (93 : UInt8) ∈ str "dns://" := by
        rw [← hrest, hb]
        simp
      exact absurd hmem (by decide)
  · -- no colon but the one before the port
    rw [joinHostPort_of_notMem _ hcolon] at hpre
    obtain ⟨t, ht⟩ := hpre
    have hcut := congrArg (cut [58]) ht
    have hleft : str "[dns://" ++ t = str "[dns" ++ 58 :: (str "//" ++ t) := rfl
    have hright : text ++ str ":" ++ itoa n = text ++ 58 :: itoa n := by
      rw [List.append_assoc]
      rfl
    rw [hleft, hright, cut_singleton _ (by decide), cut_singleton _ hcolon] at hcut
    have hport : str "//" ++ t = itoa n := (Prod.mk.inj (Option.some.inj hcut)).2
    have hslash : (47 : UInt8) ∈ itoa n := by
      rw [← hport]
      exact List.mem_cons_self
    exact absurd (isDigit_of_mem_itoa hslash) (by decide)

/-- The client sends the request down the tunnel, as one for an address: the name is no control code, no DNS query
and not too long, and the address is not local. -/
def ForTunnel (o : Outside ρ) (m : Connect) : Prop :=
  match m.addr with
  | .domain name _ =>
      name.length ≤ 250 ∧ hasPrefix name (str "c://") = false ∧ hasPrefix name (str "dns://") = false
  | .ipv4 ip _ => isLocal o.re o.rules (ipString ip) = false ∧ ipString ip ≠ str "99.254.254.254"
  | .ipv6 _ _ => True

theorem ForTunnel.shortName {m : Connect} (h : ForTunnel o m) : ShortName m.addr := by
  obtain ⟨addr, port⟩ := m
  cases addr with
  | domain name len => exact h.1
  | ipv4 ip len => trivial
  | ipv6 ip len => trivial

theorem ForTunnel.socks5Dial {m : Connect} (h : ForTunnel o m) : socks5Dial o.re o.rules m.encode = .remote := by
  obtain ⟨addr, port⟩ := m
  unfold Dns.socks5Dial
  cases addr with
  | domain name len => exact if_neg fun h => absurd (Option.some.inj h.2.2) (show typeDm ≠ 1 by decide)
  | ipv6 ip len => exact if_neg fun h => absurd (Option.some.inj h.2.2) (show typeIPv6 ≠ 1 by decide)
  | ipv4 ip len =>
    have hip : ((Connect.encode ⟨.ipv4 ip len, port⟩).drop 4).take 4 = ip := by
      show (ip ++ be16 port.toNat).take 4 = ip
      rw [← len, List.take_left]
    split_ifs with hraw
    · simp only [hip]
      rw [if_neg (by simp [h.1]), if_neg h.2]
    · rfl

theorem ForTunnel.code {m : Connect} (h : ForTunnel o m) {more : Bytes} (hmore : more <+: m.encode.drop 5) :
    hasPrefix (takenHost m.addr more) (str "c://") = false := by
  obtain ⟨addr, port⟩ := m
  cases addr with
  | domain name len =>
    rw [← Bool.not_eq_true, hasPrefix_iff]
    intro hpre
    have hname : str "c://" <+: name :=
      ((prefix_hostPart_iff (by decide) (show more <+: name ++ be16 port.toNat from hmore)).mp hpre).1
    rw [← hasPrefix_iff, h.2.1] at hname
    exact Bool.false_ne_true hname
  | ipv4 ip len => rfl
  | ipv6 ip len => rfl

theorem ForTunnel.route {m : Connect} (h : ForTunnel o m) (h6 : m.addr.atyp ≠ typeIPv6) :
    Tunnel.route m.target = some .tcp := by
  obtain ⟨addr, port⟩ := m
  cases addr with
  | domain name len => exact route_joinHostPort _ h.2.2
  | ipv6 ip len => exact absurd rfl h6
  | ipv4 ip len =>
    apply route_joinHostPort
    have hdotted : ipString ip = dotted ip := by
      unfold ipString to4
      rw [if_neg (by rintro rfl; cases len), if_pos len]
    rw [← Bool.not_eq_true, hasPrefix_iff]
    intro hpre
    have hmem : (58 : UInt8) ∈ ipString ip := hpre.subset (by decide)
    rw [hdotted] at hmem
    exact notMem_dotted (by decide) (by decide) len hmem

/-- Behind the handshake and the request. -/
theorem Polite.socks5Con {conn : Conn} {g : Greeting} {m : Connect} (h : Polite conn g m)
    (hshort : ShortName m.addr) (payload : Bytes) :
    ∃ more, more <+: m.encode.drop 5 ∧ ∀ c t c',
      bypass o m.encode (takenHost m.addr more) payload c = .ok (t, c') →
        socks5Con o conn payload c =
          .ok ({ t with app := [5, 0] ++ t.app }, { c' with acceptCount := c'.acceptCount - 1 }) := by
  obtain ⟨reader, hgreet, hreader⟩ := h.greeted
  obtain ⟨more, c₁, hreq, hmore⟩ := getLocalRequest_connect m hshort hreader
  refine ⟨more, hmore ▸ List.take_prefix _ _, fun c t c' hbypass => ?_⟩
  have hserve : socks5Serve o conn payload c = .ok ({ t with app := [5, 0] ++ t.app }, c') := by
    unfold socks5Serve
    rw [hgreet]
    dsimp only
    rw [hreq]
    dsimp only
    rw [if_neg (by simp), bind_apply_ok _ hbypass]
    rfl
  unfold System.socks5Con
  rw [bind_apply_ok _ hserve]
  rfl

/-- The server never gets to a host behind an IPv6 request: it waits for four bytes more than the client sends. -/
theorem not_reads_ipv6 {m : Connect} (h6 : m.addr.atyp = typeIPv6) (host : Str) (n : Nat) :
    ¬Reads m.encode host n := by
  intro hreads
  obtain ⟨addr, port⟩ := m
  cases addr with
  | domain name len => exact absurd h6 (show typeDm ≠ typeIPv6 by decide)
  | ipv4 ip len => exact absurd h6 (show typeIPv4 ≠ typeIPv6 by decide)
  | ipv6 ip len =>
    have hn := hreads.length_ipv6 (show _ = 5 :: 1 :: 0 :: typeIPv6 :: (ip ++ be16 port.toNat) from rfl)
    obtain ⟨raw, rest, _, _, hsplit, hlen, -⟩ := getServerRequest_of_reads hreads (s := ⟨[_], .eof⟩)
      (List.append_nil _)
    have hlens := congrArg List.length hsplit
    simp only [Connect.encode, Addr.body, List.length_append, List.length_cons, List.length_nil, length_be16,
      len] at hlens
    omega

/-- **An application is served through the tunnel exactly if its request is not for an IPv6 address, the server
reaches the host, and the confirmation comes in one piece.** -/
theorem socks5Con_serves_iff {conn : Conn} {g : Greeting} {m : Connect} (hpolite : Polite conn g m)
    (htunnel : ForTunnel o m) (payload : Bytes) {c c' : ClientControl} {s : Session}
    (hsession : connectRemote o.client c = .ok (s, c')) (herr : s.err = none) :
    ∃ t c₁, socks5Con o conn payload c = .ok (t, c₁) ∧
      (Serves o m.target payload ([5, 0] ++ (socks5Confirm ++ o.server.remote m.target)) t ↔
        m.addr.atyp ≠ typeIPv6 ∧ Reaches o.server m.target ∧ KeepsConfirm o m.target) := by
  obtain ⟨more, hmore, hfront⟩ := hpolite.socks5Con (o := o) htunnel.shortName payload
  have hcode := htunnel.code hmore
  have hraw : 4 ≤ m.encode.length := by simp [Connect.encode]
  have hbypass : ∀ host, bypass o m.encode host payload = onBodyBeforeGetRemote o true m.encode host payload := by
    intro host
    unfold bypass
    rw [htunnel.socks5Dial]
  rw [hbypass] at hfront
  by_cases h6 : m.addr.atyp = typeIPv6
  · have hs := serveStream_cut (o := o) payload (not_reads_ipv6 h6)
    have hreply : reply o (serveStream o m.encode payload) = [] := by
      rw [reply, hs.written, List.drop_length]
    obtain ⟨r, c₁, hcall, -⟩ := onBodyDo_nothing (o := o) s.id true m.encode c'
    rw [← hreply] at hcall
    obtain ⟨c₂, hres⟩ := onBodyBeforeGetRemote_session true payload hcode hraw hsession herr hcall
    refine ⟨_, _, hfront c _ _ hres, iff_of_false ?_ fun h => h.1 h6⟩
    rintro ⟨-, -, _, hstream, hpipe⟩
    obtain rfl := Option.some.inj hstream
    exact hpipe.written_ne hs.written
  · have hreads : ∀ payload, Reads (m.encode ++ payload) m.target m.encode.length := reads_encode h6
    obtain ⟨t, c₁, hres, hserves⟩ :=
      onBodyBeforeGetRemote_serves true payload hreads (htunnel.route h6) hcode hraw hsession herr
    refine ⟨_, _, hfront c t c₁ hres, ?_⟩
    have hserves := hserves m.target
    rw [and_iff_right rfl] at hserves
    rw [and_iff_right h6, ← hserves]
    unfold Serves meant
    simp

/-- A transport that keeps together what is written. -/
def whole : Transport where
  carry b := ⟨if b = [] then [] else [b], .eof⟩
  bytes_carry b := by
    by_cases hb : b = []
    · simp [Reader.bytes, hb]
    · simp [Reader.bytes, hb]
  nonempty b chunk hchunk := by
    by_cases hb : b = []
    · simp [hb] at hchunk
    · simp only [if_neg hb, List.mem_singleton] at hchunk
      rwa [hchunk]

/-- A server that reaches every host. -/
def plainOutside : Outside Unit where
  client := handsOut
  server := { Tunnel.plainWorld with remote := fun _ => str "200 OK" }
  up := whole
  down := whole
  re _ := none
  rules := {}
  dial _ := none
  host _ := []
  gatewayIP := str "192.168.1.1"
  tunnel := { alive := 0, cons := 0 }

/-- A request for port 80 of `a.io`. -/
def plainConnect : Connect := ⟨.domain (str "a.io") (by decide), 80⟩

/-- An application that greets with one method. -/
def plainApp : Conn := ⟨⟨[[5, 1, 0], plainConnect.encode], .eof⟩, [], none⟩

theorem polite_plainApp : Polite plainApp ⟨5, [0], Or.inl rfl, by decide⟩ plainConnect where
  bytes := rfl
  waits := by decide
  writable := rfl
  fresh := rfl

theorem socks5Con_serves_iff_plain : ∃ t c₁, socks5Con plainOutside plainApp (str "GET /") plainClient = .ok (t, c₁) ∧
    (Serves plainOutside plainConnect.target (str "GET /")
        ([5, 0] ++ (socks5Confirm ++ plainOutside.server.remote plainConnect.target)) t ↔
      plainConnect.addr.atyp ≠ typeIPv6 ∧ Reaches plainOutside.server plainConnect.target ∧
        KeepsConfirm plainOutside plainConnect.target) :=
  socks5Con_serves_iff polite_plainApp (by refine ⟨?_, ?_, ?_⟩ <;> decide) (str "GET /") rfl rfl

end Socks

end ProxyZ.System
