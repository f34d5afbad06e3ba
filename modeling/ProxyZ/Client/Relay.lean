import ProxyZ.Client.Contract
import ProxyZ.Socks5.Request

/-!
# Relaying a connection

`OnBodyDo` sends an application's request down the tunnel, reads the ten bytes the server confirms it with
and pipes the rest of the stream to the application. The confirmation itself goes to an application that
speaks SOCKS5 and to no other.

The confirmation is taken with a single `Read` whose length is not looked at, so what the application gets
depends on the first chunk: with ten bytes or more in it the relay is transparent, with fewer the bytes of
that chunk are dropped and the rest of the confirmation is piped on as payload (`relays_iff`).
-/

namespace ProxyZ.Client

open Go ProxyZ.Socks5

/-- What a call of `OnBodyDo` sends to the server and delivers to the application, and what it returns. -/
structure Relay where
  sent : Bytes := []
  out : Bytes := []
  continued : Bool := false
  err : Option Err := none
  deriving DecidableEq

/-- An error on the way to the pipe. -/
def relayErr (eid : Str) (r : Relay) : Call Relay := do
  errRecord eid 1
  modify fun c => { c with aliveCount := c.aliveCount - 1 }
  return r

/-- The pipe, which copies the rest of the stream to the application, and the counters behind it. -/
def pipeRest (remotecon : Reader) (eid : Str) (raw written : Bytes) : Call Relay := do
  errVanish eid
  modify fun c =>
    { c with
      aliveCount := c.aliveCount - 1
      acceptCount := if 655300 < c.acceptCount then 1 else c.acceptCount
      errCon := if 655300 < c.acceptCount then 0 else c.errCon }
  return { sent := raw, out := written ++ remotecon.bytes }

/-- `OnBodyDo`, with what the write to the server and the write to the application return. -/
def onBodyDo (remoteWrite localWrite : Option Err) (remotecon : Reader) (eid : Str) (isSocks5 : Bool)
    (raw : Bytes) : Call Relay :=
  match remoteWrite with
  | some e => do
      routeErr
      return { continued := true, err := some e }
  | none =>
      match read socks5Confirm.length remotecon with
      | (_, some e, _) => relayErr eid { sent := raw, err := some e }
      | (data, none, remotecon) =>
          let buf := overwrite (make socks5Confirm.length) 0 data
          if buf = socks5Confirm ∧ isSocks5 = true then
            match localWrite with
            | some e => relayErr eid { sent := raw, err := some e }
            | none => pipeRest remotecon eid raw buf
          else pipeRest remotecon eid raw []

/-- A stream from the server that begins with the confirmation, cut into chunks that are not empty. -/
structure ConfirmedStream where
  conn : Reader
  nonempty : ∀ chunk ∈ conn.chunks, chunk ≠ []
  confirmed : socks5Confirm <+: conn.bytes

/-- The relay is transparent: an application that speaks SOCKS5 gets the stream, any other the stream behind
the confirmation. -/
def Relays (s : ConfirmedStream) (isSocks5 : Bool) : Prop :=
  ∀ (c : ClientControl) (eid : Str) (raw : Bytes),
    ∃ r c', onBodyDo none none s.conn eid isSocks5 raw c = .ok (r, c') ∧
      r.out = if isSocks5 then s.conn.bytes else s.conn.bytes.drop socks5Confirm.length

theorem ConfirmedStream.read (s : ConfirmedStream) :
    ∃ first rest conn', s.conn.chunks = first :: rest ∧ first ≠ [] ∧
      Go.read socks5Confirm.length s.conn = (first.take socks5Confirm.length, none, conn') ∧
      conn'.bytes = s.conn.bytes.drop (min first.length socks5Confirm.length) := by
  obtain ⟨⟨chunks, last⟩, hnonempty, hconfirmed⟩ := s
  cases chunks with
  | nil => exact absurd hconfirmed.length_le (by simp [Reader.bytes, socks5Confirm])
  | cons first rest =>
    have hne : first ≠ [] := hnonempty first List.mem_cons_self
    unfold Go.read
    dsimp only
    by_cases hlen : first.length ≤ socks5Confirm.length
    · refine ⟨first, rest, ⟨rest, last⟩, rfl, hne, ?_, ?_⟩
      · rw [if_pos hlen, List.take_of_length_le hlen]
      · rw [Nat.min_eq_left hlen, Reader.bytes, Reader.bytes, List.flatten_cons, List.drop_left]
    · have hle := Nat.le_of_not_le hlen
      refine ⟨first, rest, ⟨first.drop socks5Confirm.length :: rest, last⟩, rfl, hne, ?_, ?_⟩
      · rw [if_neg hlen]
      · rw [Nat.min_eq_right hle, Reader.bytes, Reader.bytes, List.flatten_cons, List.flatten_cons,
          List.drop_append_of_le_length hle]

/-- The buffer holds the confirmation exactly where the first chunk has all of it: what a shorter one leaves
at its end is zero. -/
theorem ConfirmedStream.buffer_eq_iff {s : ConfirmedStream} {first : Bytes} {rest : List Bytes}
    (hchunks : s.conn.chunks = first :: rest) :
    overwrite (make socks5Confirm.length) 0 (first.take socks5Confirm.length) = socks5Confirm ↔
      socks5Confirm.length ≤ first.length := by
  have hprefix : first.take socks5Confirm.length <+: socks5Confirm := by
    have hfirst : first.take socks5Confirm.length <+: s.conn.bytes := by
      refine (List.take_prefix _ _).trans ?_
      rw [Reader.bytes, hchunks, List.flatten_cons]
      exact List.prefix_append _ _
    exact List.prefix_of_prefix_length_le hfirst s.confirmed (List.length_take_le _ _)
  rw [overwrite_make]
  constructor
  · intro heq
    by_contra hlt
    have hlen : (first.take socks5Confirm.length).length ≤ 9 := by
      rw [List.length_take]
      have : socks5Confirm.length = 10 := rfl
      omega
    have hlast := congrArg (fun b : Bytes => b[9]?) heq
    have hzero : (filled socks5Confirm.length (first.take socks5Confirm.length))[9]? = some 0 := by
      rw [filled, List.getElem?_append_right hlen, make, List.getElem?_replicate, if_pos]
      have : socks5Confirm.length = 10 := rfl
      omega
    rw [hzero] at hlast
    exact absurd hlast (by decide)
  · intro hle
    have hfull : first.take socks5Confirm.length = socks5Confirm :=
      hprefix.eq_of_length (by rw [List.length_take, Nat.min_eq_left hle])
    rw [hfull, filled, Nat.sub_self]
    exact List.append_nil _

theorem onBodyDo_out {s : ConfirmedStream} {first : Bytes} {rest : List Bytes} (hchunks : s.conn.chunks = first :: rest)
    (isSocks5 : Bool) (c : ClientControl) (eid : Str) (raw : Bytes) :
    ∃ r c', onBodyDo none none s.conn eid isSocks5 raw c = .ok (r, c') ∧
      r.out = (if socks5Confirm.length ≤ first.length ∧ isSocks5 = true then socks5Confirm else []) ++
        s.conn.bytes.drop (min first.length socks5Confirm.length) := by
  obtain ⟨first', rest', conn', hchunks', hne, hread, hbytes⟩ := s.read
  rw [hchunks] at hchunks'
  obtain ⟨rfl, rfl⟩ := List.cons.inj hchunks'
  have hbuf := s.buffer_eq_iff hchunks
  unfold onBodyDo
  dsimp only
  rw [hread]
  dsimp only
  by_cases hsocks : socks5Confirm.length ≤ first.length ∧ isSocks5 = true
  · rw [if_pos ⟨hbuf.mpr hsocks.1, hsocks.2⟩, if_pos hsocks, hbuf.mpr hsocks.1]
    exact ⟨_, _, rfl, by rw [hbytes]⟩
  · rw [if_neg (fun h => hsocks ⟨hbuf.mp h.1, h.2⟩), if_neg hsocks]
    exact ⟨_, _, rfl, by rw [hbytes]⟩

/-- **The relay is transparent exactly where the first chunk holds the whole confirmation.** -/
theorem relays_iff (s : ConfirmedStream) (isSocks5 : Bool) :
    Relays s isSocks5 ↔ socks5Confirm.length ≤ (s.conn.chunks.headD []).length := by
  obtain ⟨first, rest, -, hchunks, hne, -, -⟩ := s.read
  have hlength := s.confirmed.length_le
  rw [hchunks, List.headD_cons]
  constructor
  · intro hrelays
    by_contra hshort
    have hlt : first.length < socks5Confirm.length := Nat.lt_of_not_le hshort
    obtain ⟨r, c', hcall, hout⟩ := hrelays (newClientControll handsOut [] 0 false) [] []
    obtain ⟨r', c'', hcall', hout'⟩ := onBodyDo_out hchunks isSocks5 (newClientControll handsOut [] 0 false) [] []
    obtain ⟨rfl, rfl⟩ := Prod.mk.inj (Except.ok.inj (hcall.symm.trans hcall'))
    -- the first chunk is lost, and nothing else is
    rw [if_neg (fun h => hshort h.1), List.nil_append, Nat.min_eq_left hlt.le] at hout'
    have hlen := congrArg List.length (hout.symm.trans hout')
    have hpos := List.length_pos_iff.mpr hne
    rw [List.length_drop] at hlen
    split_ifs at hlen with hsocks
    · omega
    · rw [List.length_drop] at hlen
      omega
  · intro hfirst c eid raw
    obtain ⟨r, c', hcall, hout⟩ := onBodyDo_out hchunks isSocks5 c eid raw
    refine ⟨r, c', hcall, ?_⟩
    rw [hout, Nat.min_eq_right hfirst]
    cases isSocks5 with
    | true =>
      obtain ⟨t, ht⟩ := s.confirmed
      rw [if_pos ⟨hfirst, rfl⟩, if_pos rfl, ← ht, List.drop_left]
    | false => rw [if_neg (by simp), if_neg (by simp), List.nil_append]

/-- The confirmation in two chunks, and a payload. -/
def splitConfirm : ConfirmedStream where
  conn := ⟨[[5, 0, 0, 1], [0, 0, 0, 0, 8, 0x43], str "hello"], .eof⟩
  nonempty := by decide
  confirmed := ⟨str "hello", by decide⟩

/-- The application gets the last six bytes of the confirmation before the payload. -/
theorem not_relays_splitConfirm : ¬Relays splitConfirm true ∧ ¬Relays splitConfirm false := by
  have hcall : ∀ isSocks5, ∃ c', onBodyDo none none splitConfirm.conn [] isSocks5 []
      (newClientControll handsOut [] 0 false) =
        .ok ({ sent := [], out := [0, 0, 0, 0, 8, 0x43] ++ str "hello" }, c') := fun isSocks5 => ⟨_, rfl⟩
  constructor
  · intro h
    obtain ⟨c', hc⟩ := hcall true
    obtain ⟨r, c'', hr, hout⟩ := h (newClientControll handsOut [] 0 false) [] []
    obtain ⟨rfl, rfl⟩ := Prod.mk.inj (Except.ok.inj (hc.symm.trans hr))
    exact absurd hout (by decide)
  · intro h
    obtain ⟨c', hc⟩ := hcall false
    obtain ⟨r, c'', hr, hout⟩ := h (newClientControll handsOut [] 0 false) [] []
    obtain ⟨rfl, rfl⟩ := Prod.mk.inj (Except.ok.inj (hc.symm.trans hr))
    exact absurd hout (by decide)

end ProxyZ.Client
