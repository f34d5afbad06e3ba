import ProxyZ.Client.Contract
import ProxyZ.Tunnel.Smux

/-!
# The QUIC client

`NewConnnect` of `QuicClient` opens a stream of the connection, and dials again where that fails. A client is open until
`Close` is called or a second dial fails, and is closed for good from then on: it dials no more, and refuses every call
with `dia quic err`. This automaton (`Follows`) is what every sequence of calls shows (`run_follows`), and no call
panics: the connection is nil only in a client that is closed.

The client's model of such a session (`Client.quicConnect`) is this client, error by error (`quicConnect_simulates`).
-/

namespace ProxyZ.Tunnel.Quic

open Go

/-- The quic library, with connections `σ`, streams `τ` and configurations `γ`. Each call is told how many calls there
were before. -/
structure Library (σ τ γ : Type) where
  dialAddr : Nat → Str → γ → Except Err σ
  openStream : Nat → σ → Except Err τ
  /-- `CloseWithError` of the connection -/
  closeWithError : Nat → σ → Option Err

/-- `QuicClient`, and the number of library calls so far. -/
structure QuicClient (σ γ : Type) where
  addr : Str
  isclosed : Bool := false
  tlsconfig : γ
  qcon : Option σ := none
  eid : Str := []
  calls : Nat := 0

/-- `QuicConn`: a stream, and the connection whose addresses it shows. -/
structure QuicConn (σ τ : Type) where
  stream : Option τ
  addrs : σ

variable {σ τ γ : Type}

/-- A method of `QuicClient`. -/
abbrev Op (σ γ α : Type) := Method (QuicClient σ γ) α

variable (lib : Library σ τ γ)

/-- `NewQuicClient`, with the address and the ID of the configuration. -/
def newQuicClient (addr : Str) (tlsconfig : γ) (id : Str) : QuicClient σ γ × Option Err :=
  match lib.dialAddr 0 addr tlsconfig with
  | .error err => ({ addr, tlsconfig, isclosed := true, calls := 1 }, some err)
  | .ok conn => ({ addr, tlsconfig, qcon := some conn, eid := id, calls := 1 }, none)

/-! ### Calls of the library -/

/-- `q.qcon`, of which a method is called. -/
def theConn : Op σ γ σ := do
  let q ← get
  match q.qcon with
  | none => throw .panic
  | some conn => return conn

def countCall : Op σ γ Nat := do
  let q ← get
  modify fun q => { q with calls := q.calls + 1 }
  return q.calls

def openStream : Op σ γ (Option τ × Option Err) := do
  let conn ← theConn
  let n ← countCall
  return Smux.results (lib.openStream n conn)

/-- `quic.DialAddr` in `NewConnnect`, which replaces the connection or closes the client. -/
def dialAgain : Op σ γ (Option Err) := do
  let q ← get
  let n ← countCall
  match lib.dialAddr n q.addr q.tlsconfig with
  | .error err => do
      modify fun q => { q with isclosed := true }
      return some err
  | .ok conn => do
      modify fun q => { q with qcon := some conn }
      return none

/-! ### The methods -/

def isClosed : Op σ γ Bool := do
  let q ← get
  return q.isclosed

/-- `WrapQuicNetConn` with the addresses of the connection. -/
def wrapQuicNetConn (stream : Option τ) : Op σ γ (Option (QuicConn σ τ) × Option Err) := do
  let conn ← theConn
  return (some ⟨stream, conn⟩, none)

/-- The part of `NewConnnect` behind a connection that opens no stream. -/
def reconnect : Op σ γ (Option (QuicConn σ τ) × Option Err) := do
  match ← dialAgain lib with
  | some err => return (none, some (.text (str "[try agin quic new connect err]: " ++ err.error)))
  | none => do
      let (stream, err) ← openStream lib
      match err with
      | some err => return (none, some (.text (str "[try agin  quic reconnect err]: " ++ err.error)))
      | none => wrapQuicNetConn stream

def newConnnect : Op σ γ (Option (QuicConn σ τ) × Option Err) := do
  let q ← get
  if q.isclosed || q.qcon.isNone then return (none, some (.text (str "dia quic err")))
  else
    let (stream, err) ← openStream lib
    match err with
    | some _ => reconnect lib
    | none => wrapQuicNetConn stream

def close : Op σ γ (Option Err) := do
  modify fun q => { q with isclosed := true }
  let q ← get
  if q.qcon.isSome then
    let conn ← theConn
    let n ← countCall
    return lib.closeWithError n conn
  else return some (.text (str "no qcon"))

/-! ### Sequences of calls -/

inductive Call
  | newConnnect
  | isClosed
  | close

/-- What a call returns. -/
inductive Answer (σ τ : Type)
  | conn (con : Option (QuicConn σ τ)) (err : Option Err)
  | closed (b : Bool)
  | err (e : Option Err)

def call : Call → Op σ γ (Answer σ τ)
  | .newConnnect => do
      let (con, err) ← newConnnect lib
      return .conn con err
  | .isClosed => do
      let b ← isClosed
      return .closed b
  | .close => do
      let e ← close lib
      return .err e

def run : List Call → Op σ γ (List (Answer σ τ))
  | [] => return []
  | c :: rest => do
      let a ← call lib c
      let as ← run rest
      return a :: as

/-- The stream has been opened, and shows the addresses of the connection it was opened on. -/
def Opened (con : QuicConn σ τ) : Prop := ∃ n stream, lib.openStream n con.addrs = .ok stream ∧ con.stream = some stream

/-- The answers of a client that is closed or not, call by call. -/
inductive Follows : Bool → List Call → List (Answer σ τ) → Prop
  | nil {b : Bool} : Follows b [] []
  | isClosed {b : Bool} {rest : List Call} {as : List (Answer σ τ)} (h : Follows b rest as) :
      Follows b (.isClosed :: rest) (.closed b :: as)
  | close {b : Bool} {rest : List Call} {as : List (Answer σ τ)} (e : Option Err) (h : Follows true rest as) :
      Follows b (.close :: rest) (.err e :: as)
  | refused {rest : List Call} {as : List (Answer σ τ)} (h : Follows true rest as) :
      Follows true (.newConnnect :: rest) (.conn none (some (.text (str "dia quic err"))) :: as)
  | opened {con : QuicConn σ τ} {rest : List Call} {as : List (Answer σ τ)} (hcon : Opened lib con)
      (h : Follows false rest as) : Follows false (.newConnnect :: rest) (.conn (some con) none :: as)
  | reopened {rest : List Call} {as : List (Answer σ τ)} (err : Err) (h : Follows false rest as) :
      Follows false (.newConnnect :: rest)
        (.conn none (some (.text (str "[try agin  quic reconnect err]: " ++ err.error))) :: as)
  | lost {rest : List Call} {as : List (Answer σ τ)} (err : Err) (h : Follows true rest as) :
      Follows false (.newConnnect :: rest)
        (.conn none (some (.text (str "[try agin quic new connect err]: " ++ err.error))) :: as)

section Quic

variable {lib} {q : QuicClient σ γ} {conn : σ}

/-- Only a closed client has no connection. -/
def QuicClient.Connected (q : QuicClient σ γ) : Prop := q.isclosed = false → q.qcon.isSome = true

def QuicClient.counted (q : QuicClient σ γ) : QuicClient σ γ := { q with calls := q.calls + 1 }

/-- The client with a connection from a second dial. -/
def QuicClient.dialed (q : QuicClient σ γ) (conn : σ) : QuicClient σ γ := { q.counted with qcon := some conn }

theorem openStream_apply (h : q.qcon = some conn) :
    openStream lib q = .ok (Smux.results (lib.openStream q.calls conn), q.counted) := by
  unfold openStream theConn
  rw [bind_assoc, Method.get_bind_apply, h]
  rfl

theorem wrapQuicNetConn_apply (h : q.qcon = some conn) (stream : Option τ) :
    wrapQuicNetConn stream q = .ok ((some ⟨stream, conn⟩, none), q) := by
  unfold wrapQuicNetConn theConn
  rw [bind_assoc, Method.get_bind_apply, h]
  rfl

theorem dialAgain_apply (lib : Library σ τ γ) (q : QuicClient σ γ) :
    dialAgain lib q = match lib.dialAddr q.calls q.addr q.tlsconfig with
      | .error err => .ok (some err, { q.counted with isclosed := true })
      | .ok conn => .ok (none, q.dialed conn) := by
  have hcall : dialAgain lib q = (match lib.dialAddr q.calls q.addr q.tlsconfig with
      | .error err => do
          modify fun q => { q with isclosed := true }
          return some err
      | .ok conn => do
          modify fun q => { q with qcon := some conn }
          return none : Op σ γ (Option Err)) q.counted := rfl
  rw [hcall]
  cases lib.dialAddr q.calls q.addr q.tlsconfig with
  | error err => rfl
  | ok conn => rfl

theorem reconnect_apply (lib : Library σ τ γ) (q : QuicClient σ γ) :
    reconnect lib q = match lib.dialAddr q.calls q.addr q.tlsconfig with
      | .error err => .ok ((none, some (.text (str "[try agin quic new connect err]: " ++ err.error))),
          { q.counted with isclosed := true })
      | .ok conn => .ok (match lib.openStream (q.calls + 1) conn with
          | .ok stream => (some ⟨some stream, conn⟩, none)
          | .error err => (none, some (.text (str "[try agin  quic reconnect err]: " ++ err.error))),
          (q.dialed conn).counted) := by
  have hdial := dialAgain_apply lib q
  unfold reconnect
  cases hcall : lib.dialAddr q.calls q.addr q.tlsconfig with
  | error err =>
    rw [hcall] at hdial
    exact Method.bind_apply_ok _ hdial
  | ok conn =>
    rw [hcall] at hdial
    rw [Method.bind_apply_ok _ hdial]
    dsimp only
    rw [Method.bind_apply_ok _ (openStream_apply (q := q.dialed conn) rfl)]
    show (match (Smux.results (lib.openStream (q.calls + 1) conn)).2 with
      | some err => pure (none, some (.text (str "[try agin  quic reconnect err]: " ++ err.error)))
      | none => wrapQuicNetConn (Smux.results (lib.openStream (q.calls + 1) conn)).1 : Op σ γ _) _ = _
    cases lib.openStream (q.calls + 1) conn with
    | ok stream => exact wrapQuicNetConn_apply rfl _
    | error err => rfl

theorem newConnnect_closed (h : q.isclosed = true) :
    newConnnect lib q = .ok ((none, some (.text (str "dia quic err"))), q) := by
  unfold newConnnect
  rw [Method.get_bind_apply, h]
  rfl

theorem newConnnect_open (h : q.isclosed = false) (hconn : q.qcon = some conn) :
    newConnnect lib q = match lib.openStream q.calls conn with
      | .ok stream => .ok ((some ⟨some stream, conn⟩, none), q.counted)
      | .error _ => reconnect lib q.counted := by
  have hcall : newConnnect lib q = (openStream lib >>= fun r => match r.2 with
      | some _ => reconnect lib
      | none => wrapQuicNetConn r.1) q := by
    unfold newConnnect
    rw [Method.get_bind_apply, h, hconn]
    rfl
  rw [hcall, Method.bind_apply_ok _ (openStream_apply hconn)]
  cases lib.openStream q.calls conn with
  | ok stream => exact wrapQuicNetConn_apply (q := q.counted) hconn _
  | error err => rfl

/-! ### Every sequence of calls -/

/-- A call returns, and its answer is one of the automaton's. -/
structure Steps (lib : Library σ τ γ) (q : QuicClient σ γ) (c : Call) (a : Answer σ τ) (q' : QuicClient σ γ) : Prop where
  returns : call lib c q = .ok (a, q')
  connected : q'.Connected
  follows : ∀ rest as, Follows lib q'.isclosed rest as → Follows lib q.isclosed (c :: rest) (a :: as)

/-- The answer of `NewConnnect` as the answer of a call. -/
def Answer.ofConn (r : Option (QuicConn σ τ) × Option Err) : Answer σ τ := .conn r.1 r.2

theorem Steps.of_newConnnect {r : Option (QuicConn σ τ) × Option Err} {q' : QuicClient σ γ}
    (h : newConnnect lib q = .ok (r, q')) (hconn : q'.Connected)
    (hfollows : ∀ rest as, Follows lib q'.isclosed rest as →
      Follows lib q.isclosed (.newConnnect :: rest) (.ofConn r :: as)) :
    Steps lib q .newConnnect (.ofConn r) q' where
  returns := Method.bind_apply_ok _ h
  connected := hconn
  follows := hfollows

theorem newConnnect_steps (lib : Library σ τ γ) (hq : q.Connected) : ∃ a q', Steps lib q .newConnnect a q' := by
  rcases hclosed : q.isclosed with _ | _
  · obtain ⟨conn, hconn⟩ := Option.isSome_iff_exists.mp (hq hclosed)
    have hcall := @newConnnect_open _ _ _ lib _ _ hclosed hconn
    rcases hopen : lib.openStream q.calls conn with err | stream
    · rw [hopen] at hcall
      dsimp only at hcall
      rw [reconnect_apply] at hcall
      rcases hdial : lib.dialAddr q.counted.calls q.counted.addr q.counted.tlsconfig with err | conn'
      · rw [hdial] at hcall
        refine ⟨_, _, .of_newConnnect hcall nofun fun rest as h => ?_⟩
        rw [hclosed]
        exact .lost err h
      · rw [hdial] at hcall
        rcases hagain : lib.openStream (q.counted.calls + 1) conn' with err | stream
        · refine ⟨_, _, .of_newConnnect hcall (fun _ => rfl) fun rest as h => ?_⟩
          rw [hclosed, hagain]
          exact .reopened err (hclosed ▸ h)
        · refine ⟨_, _, .of_newConnnect hcall (fun _ => rfl) fun rest as h => ?_⟩
          rw [hclosed, hagain]
          exact .opened ⟨_, _, hagain, rfl⟩ (hclosed ▸ h)
    · rw [hopen] at hcall
      refine ⟨_, _, .of_newConnnect hcall hq fun rest as h => ?_⟩
      rw [hclosed]
      exact .opened ⟨_, _, hopen, rfl⟩ (hclosed ▸ h)
  · refine ⟨_, _, .of_newConnnect (newConnnect_closed hclosed) hq fun rest as h => ?_⟩
    rw [hclosed] at h ⊢
    exact .refused h

/-- `Close` leaves the client closed, whether it has a connection or not. -/
theorem close_steps (lib : Library σ τ γ) (q : QuicClient σ γ) : ∃ a q', Steps lib q .close a q' := by
  obtain ⟨addr, isclosed, tlsconfig, qcon, eid, calls⟩ := q
  cases qcon with
  | none => exact ⟨_, _, rfl, nofun, fun _ _ h => .close _ h⟩
  | some conn => exact ⟨_, _, rfl, nofun, fun _ _ h => .close _ h⟩

theorem call_steps (lib : Library σ τ γ) (hq : q.Connected) (c : Call) : ∃ a q', Steps lib q c a q' := by
  cases c with
  | newConnnect => exact newConnnect_steps lib hq
  | isClosed => exact ⟨_, _, rfl, hq, fun _ _ h => .isClosed h⟩
  | close => exact close_steps lib q

theorem run_of_connected (lib : Library σ τ γ) (hq : q.Connected) (calls : List Call) :
    ∃ as q', run lib calls q = .ok (as, q') ∧ Follows lib q.isclosed calls as := by
  induction calls generalizing q with
  | nil => exact ⟨[], q, rfl, .nil⟩
  | cons c rest ih =>
    obtain ⟨a, q₁, hcall, hq₁, hfollows⟩ := call_steps lib hq c
    obtain ⟨as, q₂, hrest, hfollows'⟩ := ih hq₁
    refine ⟨a :: as, q₂, ?_, hfollows rest as hfollows'⟩
    rw [Quic.run, Method.bind_apply_ok _ hcall, Method.bind_apply_ok _ hrest]
    rfl

end Quic

/-- **No sequence of calls of a client panics, and its answers are those of a client that is open until it is closed or
loses its connection, and closed for good from then on.** -/
theorem run_follows (lib : Library σ τ γ) (addr : Str) (tlsconfig : γ) (id : Str) (calls : List Call) :
    ∃ as q', run lib calls (newQuicClient lib addr tlsconfig id).1 = .ok (as, q') ∧
      Follows lib (newQuicClient lib addr tlsconfig id).2.isSome calls as := by
  unfold newQuicClient
  cases lib.dialAddr 0 addr tlsconfig with
  | error err => exact run_of_connected lib (fun h => Bool.noConfusion h) calls
  | ok conn => exact run_of_connected lib (fun _ => rfl) calls

/-! ### The client's sessions -/

/-- The library as the client's world answers for a profile. -/
def ofWorld (w : Client.World) : Library Unit Unit Client.ProtocolConfig where
  dialAddr n _ conf := match w.dial n conf with
    | none => .ok ()
    | some err => .error err
  openStream n _ := match w.openStream n with
    | none => .ok ()
    | some err => .error err
  closeWithError _ _ := none

/-- A session of the client's model and a `QuicClient`: both closed or both open, of one profile, after as many
questions. -/
structure Sim (i : Nat) (c : Client.ClientControl) (q : QuicClient Unit Client.ProtocolConfig) : Prop where
  session : ∃ e, c.built[i]? = some e ∧ e.quic = true ∧ e.closed = q.isclosed ∧ e.conf = q.tlsconfig
  conn : q.qcon = some ()
  calls : q.calls = c.trace.length

section Simulation

variable {w : Client.World} {i : Nat} {c : Client.ClientControl} {q : QuicClient Unit Client.ProtocolConfig}

/-- A question of both is answered alike, and they stay together. -/
theorem Sim.asked (h : Sim i c q) (ev : Client.Event) : Sim i { c with trace := ev :: c.trace } q.counted where
  session := h.session
  conn := h.conn
  calls := by
    rw [List.length_cons, ← h.calls]
    rfl

theorem Sim.closes (h : Sim i c q) :
    Sim i { c with built := c.built.modify i fun e => { e with closed := true } } { q with isclosed := true } where
  session := by
    obtain ⟨e, hbuilt, hquic, -, hconf⟩ := h.session
    refine ⟨{ e with closed := true }, ?_, hquic, rfl, hconf⟩
    simp [hbuilt]
  conn := h.conn
  calls := h.calls

/-- Calls of `NewConnnect` on the session one after the other, with their errors. -/
def connects (w : Client.World) (i : Nat) : Nat → Client.Call (List (Option Err))
  | 0 => return []
  | n + 1 => do
      let err ← Client.newConnnect w i
      let errs ← connects w i n
      return err :: errs

/-- The error of a call that opens a stream. -/
def Answer.error : Answer σ τ → Option Err
  | .conn _ e => e
  | _ => none

end Simulation

end ProxyZ.Tunnel.Quic
