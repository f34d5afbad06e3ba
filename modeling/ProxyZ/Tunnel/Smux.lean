import ProxyZ.Client.Control

/-!
# Opening a stream

`NewConnnect` of `SmuxConfig` opens a stream of the session. Where that fails it makes a new session of the same
connection, and gives the error of this as a reason where there is one or the new session is closed. A new session that
is closed already comes with no error, and then `Error()` is called on nil.

So a sequence of calls never panics, and each call returns a stream or an error, exactly if in none of them the new
session is closed at once (`serves_iff`). What fails in other ways is left as a nil session or a closed one, with which
the calls behind it return an error.

The calls of the smux library are answered by a `Library`, which is told how many calls there were before.
-/

namespace ProxyZ.Tunnel.Smux

open Go

/-- The smux library, with sessions `σ`, streams `τ`, connections `κ` and configurations `γ`. -/
structure Library (σ τ κ γ : Type) where
  isClosed : Nat → σ → Bool
  openStream : Nat → σ → Except Err τ
  /-- `smux.Client` -/
  client : Nat → Option κ → Option γ → Except Err σ
  /-- `Close` of the connection -/
  closeConn : Nat → κ → Option Err

/-- The fields of `SmuxConfig` that the methods below look at, and the number of library calls so far. -/
structure SmuxConfig (σ κ γ : Type) where
  session : Option σ
  clientConn : Option κ
  clienConf : Option γ
  calls : Nat := 0

variable {σ τ κ γ : Type}

/-- A method of `SmuxConfig`. -/
abbrev Op (σ κ γ α : Type) := Method (SmuxConfig σ κ γ) α

/-! ### Calls of the library -/

/-- The session of which a method is called. -/
def theSession : Op σ κ γ σ := do
  let s ← get
  match s.session with
  | none => throw .panic
  | some p => return p

def countCall : Op σ κ γ Nat := do
  let s ← get
  modify fun s => { s with calls := s.calls + 1 }
  return s.calls

/-- What a function returns: a value or an error, and nil for the other one. -/
def results {α : Type} : Except Err α → Option α × Option Err
  | .ok a => (some a, none)
  | .error e => (none, some e)

variable (lib : Library σ τ κ γ)

/-- `s.Session.IsClosed()`. -/
def sessionIsClosed : Op σ κ γ Bool := do
  let p ← theSession
  let n ← countCall
  return lib.isClosed n p

/-- `s.Session.OpenStream()`. -/
def openStream : Op σ κ γ (Option τ × Option Err) := do
  let p ← theSession
  let n ← countCall
  return results (lib.openStream n p)

/-- `s.Session, err2 = smux.Client(s.ClientConn, s.clienConf)`. -/
def client : Op σ κ γ (Option Err) := do
  let s ← get
  let n ← countCall
  let (session, err2) := results (lib.client n s.clientConn s.clienConf)
  modify fun s => { s with session }
  return err2

/-- `err.Error()`. -/
def errorText : Option Err → Op σ κ γ Str
  | none => throw .panic
  | some e => return e.error

/-! ### The methods -/

def isClosed : Op σ κ γ Bool := do
  let s ← get
  if s.session.isNone then return false else sessionIsClosed lib

/-- The part of `NewConnnect` behind a session that opens no stream. -/
def reclient : Op σ κ γ (Option τ × Option Err) := do
  let err2 ← client lib
  -- the new session is asked only where there is one
  let isBreak ← if err2.isSome then pure true else sessionIsClosed lib
  if isBreak then
    let text ← errorText err2
    return (none, some (.text (str "[reclient smux err conn is break]: " ++ text)))
  else
    let (stream, err) ← openStream lib
    if err.isSome then
      let text ← errorText err
      return (none, some (.text (str "[re open smux session err]: " ++ text)))
    else return (stream, none)

def newConnnect : Op σ κ γ (Option τ × Option Err) := do
  let s ← get
  if s.session.isNone then return (none, some (.text (str "session closed")))
  else
    let closed ← sessionIsClosed lib
    if !closed then
      let (stream, err2) ← openStream lib
      if err2.isSome then reclient lib else return (stream, none)
    else return (none, some (.text (str "session closed")))

/-- `Close`. What the session's own `Close` returns is dropped. -/
def close : Op σ κ γ (Option Err) := do
  let s ← get
  if s.session.isSome then
    let _ ← countCall
    match s.clientConn with
    | some conn => do
        let n ← countCall
        return lib.closeConn n conn
    | none => return none
  else return none

/-- Calls of `NewConnnect` one after the other, with what they return. -/
def connects : Nat → Op σ κ γ (List (Option τ × Option Err))
  | 0 => return []
  | n + 1 => do
      let rs ← connects n
      let r ← newConnnect lib
      return rs ++ [r]

/-- A stream without an error, or an error. -/
def Sound (r : Option τ × Option Err) : Prop := (r.1.isSome = true ∧ r.2 = none) ∨ r.2.isSome = true

/-- **The calls open streams safely**: none of them panics, and each returns a stream or an error. -/
def Serves (n : Nat) (s : SmuxConfig σ κ γ) : Prop :=
  ∃ rs s', connects lib n s = .ok (rs, s') ∧ ∀ r ∈ rs, Sound r

/-- The session `p` is open but opens no stream, and the session `q` that is made in its place is closed at once. -/
structure Replaces (s : SmuxConfig σ κ γ) (p q : σ) : Prop where
  session : s.session = some p
  isOpen : lib.isClosed s.calls p = false
  fails : ∃ e, lib.openStream (s.calls + 1) p = .error e
  client : lib.client (s.calls + 2) s.clientConn s.clienConf = .ok q
  closed : lib.isClosed (s.calls + 3) q = true

def ClosesAtOnce (s : SmuxConfig σ κ γ) : Prop := ∃ p q, Replaces lib s p q

section Smux

variable {lib} {s : SmuxConfig σ κ γ} {p q : σ}

/-! ### Calls on a session that is there -/

def SmuxConfig.counted (s : SmuxConfig σ κ γ) : SmuxConfig σ κ γ := { s with calls := s.calls + 1 }

theorem sessionIsClosed_apply (h : s.session = some p) :
    sessionIsClosed lib s = .ok (lib.isClosed s.calls p, s.counted) := by
  unfold sessionIsClosed theSession
  rw [bind_assoc, Method.get_bind_apply, h]
  rfl

theorem openStream_apply (h : s.session = some p) {r : Except Err τ} (hr : lib.openStream s.calls p = r) :
    openStream lib s = .ok (results r, s.counted) := by
  unfold openStream theSession
  rw [bind_assoc, Method.get_bind_apply, h, ← hr]
  rfl

/-- The state behind `smux.Client`. -/
def SmuxConfig.dialed (s : SmuxConfig σ κ γ) (session : Option σ) : SmuxConfig σ κ γ := { s.counted with session }

theorem client_apply {r : Except Err σ} (h : lib.client s.calls s.clientConn s.clienConf = r) :
    client lib s = .ok ((results r).2, s.dialed (results r).1) := by
  rw [← h]
  rfl

/-! ### A new session -/

theorem reclient_error {e : Err} (h : lib.client s.calls s.clientConn s.clienConf = .error e) :
    reclient lib s = .ok ((none, some (.text (str "[reclient smux err conn is break]: " ++ e.error))), s.dialed none) := by
  unfold reclient
  rw [Method.bind_apply_ok _ (client_apply h)]
  rfl

theorem reclient_closed (h : lib.client s.calls s.clientConn s.clienConf = .ok q)
    (hclosed : lib.isClosed (s.calls + 1) q = true) : reclient lib s = .error .panic := by
  have hasked : sessionIsClosed lib (s.dialed (some q)) = .ok (true, (s.dialed (some q)).counted) := by
    rw [← hclosed]
    exact sessionIsClosed_apply rfl
  unfold reclient
  rw [Method.bind_apply_ok _ (client_apply h)]
  exact Method.bind_apply_ok _ hasked

theorem reclient_open (h : lib.client s.calls s.clientConn s.clienConf = .ok q)
    (hopen : lib.isClosed (s.calls + 1) q = false) :
    reclient lib s = .ok (match lib.openStream (s.calls + 2) q with
      | .ok stream => (some stream, none)
      | .error e => (none, some (.text (str "[re open smux session err]: " ++ e.error))),
      (s.dialed (some q)).counted.counted) := by
  have hasked : sessionIsClosed lib (s.dialed (some q)) = .ok (false, (s.dialed (some q)).counted) := by
    rw [← hopen]
    exact sessionIsClosed_apply rfl
  unfold reclient
  rw [Method.bind_apply_ok _ (client_apply h)]
  refine (Method.bind_apply_ok _ hasked).trans ?_
  cases hagain : lib.openStream (s.calls + 2) q with
  | ok stream =>
    have hstream : openStream lib (s.dialed (some q)).counted =
        .ok (results (.ok stream), (s.dialed (some q)).counted.counted) := openStream_apply rfl hagain
    exact Method.bind_apply_ok _ hstream
  | error e =>
    have hstream : openStream lib (s.dialed (some q)).counted =
        .ok (results (.error e), (s.dialed (some q)).counted.counted) := openStream_apply rfl hagain
    exact Method.bind_apply_ok _ hstream

/-! ### One call -/

theorem newConnnect_nil (h : s.session = none) :
    newConnnect lib s = .ok ((none, some (.text (str "session closed"))), s) := by
  unfold newConnnect
  rw [Method.get_bind_apply, h]
  rfl

/-- A session that is there is asked first. -/
theorem newConnnect_some (h : s.session = some p) :
    newConnnect lib s =
      if lib.isClosed s.calls p then .ok ((none, some (.text (str "session closed"))), s.counted)
      else match lib.openStream (s.calls + 1) p with
        | .ok stream => .ok ((some stream, none), s.counted.counted)
        | .error _ => reclient lib s.counted.counted := by
  have hcall : newConnnect lib s = (sessionIsClosed lib >>= fun closed =>
      if !closed then openStream lib >>= fun r => if r.2.isSome then reclient lib else pure (r.1, none)
      else pure (none, some (.text (str "session closed")))) s := by
    unfold newConnnect
    rw [Method.get_bind_apply, h]
    rfl
  rw [hcall, Method.bind_apply_ok _ (sessionIsClosed_apply h)]
  cases hclosed : lib.isClosed s.calls p with
  | true => rfl
  | false =>
    cases hopen : lib.openStream (s.calls + 1) p with
    | ok stream => exact Method.bind_apply_ok _ (openStream_apply (s := s.counted) h hopen)
    | error e => exact Method.bind_apply_ok _ (openStream_apply (s := s.counted) h hopen)

theorem not_closesAtOnce_nil (h : s.session = none) : ¬ClosesAtOnce lib s := by
  rintro ⟨p, q, hreplaces⟩
  cases h.symm.trans hreplaces.session

theorem closesAtOnce_iff (h : s.session = some p) :
    ClosesAtOnce lib s ↔ lib.isClosed s.calls p = false ∧ (∃ e, lib.openStream (s.calls + 1) p = .error e) ∧
      ∃ q, lib.client (s.calls + 2) s.clientConn s.clienConf = .ok q ∧ lib.isClosed (s.calls + 3) q = true := by
  constructor
  · rintro ⟨p', q, hreplaces⟩
    cases h.symm.trans hreplaces.session
    exact ⟨hreplaces.isOpen, hreplaces.fails, q, hreplaces.client, hreplaces.closed⟩
  · rintro ⟨hopen, hfails, q, hclient, hclosed⟩
    exact ⟨p, q, h, hopen, hfails, hclient, hclosed⟩

/-- A call panics where the new session is closed at once, and returns a stream or an error else. -/
theorem newConnnect_cases (lib : Library σ τ κ γ) (s : SmuxConfig σ κ γ) :
    (ClosesAtOnce lib s ∧ newConnnect lib s = .error .panic) ∨
      (¬ClosesAtOnce lib s ∧ ∃ r s', newConnnect lib s = .ok (r, s') ∧ Sound r) := by
  cases hsession : s.session with
  | none => exact Or.inr ⟨not_closesAtOnce_nil hsession, _, _, newConnnect_nil hsession, Or.inr rfl⟩
  | some p =>
    rw [closesAtOnce_iff hsession, newConnnect_some hsession]
    cases lib.isClosed s.calls p with
    | true => exact Or.inr ⟨by simp, _, _, rfl, Or.inr rfl⟩
    | false =>
      cases lib.openStream (s.calls + 1) p with
      | ok stream => exact Or.inr ⟨by simp, _, _, rfl, Or.inl ⟨rfl, rfl⟩⟩
      | error e =>
        cases hclient : lib.client (s.calls + 2) s.clientConn s.clienConf with
        | error e' =>
          exact Or.inr ⟨by simp, _, _, reclient_error (s := s.counted.counted) hclient, Or.inr rfl⟩
        | ok q =>
          cases hnew : lib.isClosed (s.calls + 3) q with
          | true => exact Or.inl ⟨by simp [hnew], reclient_closed (s := s.counted.counted) hclient hnew⟩
          | false =>
            refine Or.inr ⟨by simp [hnew], _, _, reclient_open (s := s.counted.counted) hclient hnew, ?_⟩
            cases lib.openStream (s.counted.counted.calls + 2) q with
            | ok stream => exact Or.inl ⟨rfl, rfl⟩
            | error e => exact Or.inr rfl

/-! ### The other methods -/

/-- `IsClosed` and `Close` return, and they leave the session in its place. -/
theorem isClosed_keeps (lib : Library σ τ κ γ) (s : SmuxConfig σ κ γ) :
    ∃ closed n, isClosed lib s = .ok (closed, { s with calls := n }) := by
  obtain ⟨session, clientConn, clienConf, calls⟩ := s
  cases session with
  | none => exact ⟨false, calls, rfl⟩
  | some p => exact ⟨lib.isClosed calls p, calls + 1, rfl⟩

theorem close_keeps (lib : Library σ τ κ γ) (s : SmuxConfig σ κ γ) :
    ∃ err n, close lib s = .ok (err, { s with calls := n }) := by
  obtain ⟨session, clientConn, clienConf, calls⟩ := s
  cases session with
  | none => exact ⟨none, calls, rfl⟩
  | some p =>
    cases clientConn with
    | none => exact ⟨none, calls + 1, rfl⟩
    | some conn => exact ⟨lib.closeConn (calls + 1) conn, calls + 2, rfl⟩

/-! ### Calls one after the other -/

theorem connects_succ (n : Nat) (s : SmuxConfig σ κ γ) :
    connects lib (n + 1) s =
      (connects lib n s).bind fun x => (newConnnect lib x.2).bind fun y => .ok (x.1 ++ [y.1], y.2) := rfl

/-- **Streams are opened safely exactly if no call finds its new session closed at once.** -/
theorem serves_iff (lib : Library σ τ κ γ) (n : Nat) (s : SmuxConfig σ κ γ) :
    Serves lib n s ↔ ∀ k < n, ∀ rs s', connects lib k s = .ok (rs, s') → ¬ClosesAtOnce lib s' := by
  induction n with
  | zero => exact ⟨fun _ _ hk => absurd hk (Nat.not_lt_zero _), fun _ => ⟨[], s, rfl, nofun⟩⟩
  | succ n ih =>
    constructor
    · rintro ⟨rs', s'', hrun, hsound⟩
      rw [connects_succ] at hrun
      cases hbefore : connects lib n s with
      | error stop =>
        rw [hbefore] at hrun
        cases hrun
      | ok x =>
        obtain ⟨rs₀, s₀⟩ := x
        rw [hbefore] at hrun
        replace hrun : (newConnnect lib s₀).bind (fun y => .ok (rs₀ ++ [y.1], y.2)) = .ok (rs', s'') := hrun
        rcases newConnnect_cases lib s₀ with ⟨-, hpanic⟩ | ⟨hnot, r, s₁, hcall, -⟩
        · rw [hpanic] at hrun
          cases hrun
        · rw [hcall] at hrun
          cases hrun
          have hserves : Serves lib n s := ⟨rs₀, s₀, hbefore, fun r hr => hsound r (List.mem_append_left _ hr)⟩
          intro k hk rs s' hreached
          rcases Nat.lt_succ_iff_lt_or_eq.mp hk with hk | rfl
          · exact ih.mp hserves k hk rs s' hreached
          · cases hbefore.symm.trans hreached
            exact hnot
    · intro hall
      obtain ⟨rs₀, s₀, hbefore, hsound⟩ := ih.mpr fun k hk => hall k (Nat.lt_succ_of_lt hk)
      rcases newConnnect_cases lib s₀ with ⟨hcloses, -⟩ | ⟨-, r, s₁, hcall, hr⟩
      · exact absurd hcloses (hall n (Nat.lt_succ_self n) rs₀ s₀ hbefore)
      · refine ⟨rs₀ ++ [r], s₁, ?_, fun r' hr' => ?_⟩
        · rw [connects_succ, hbefore]
          show (newConnnect lib s₀).bind _ = _
          rw [hcall]
          rfl
        · rcases List.mem_append.mp hr' with hr' | hr'
          · exact hsound r' hr'
          · rw [List.mem_singleton.mp hr']
            exact hr

end Smux

/-- The old session (`false`) opens no stream, the new one (`true`) is closed when it is asked. -/
def closing : Library Bool Unit Unit Unit where
  isClosed _ p := p
  openStream _ _ := .error .eof
  client _ _ _ := .ok true
  closeConn _ _ := none

theorem not_serves_closing : ¬Serves closing 1 { session := some false, clientConn := some (), clienConf := some () } := by
  rintro ⟨rs, s', hrun, -⟩
  have hpanic : connects closing 1 { session := some false, clientConn := some (), clienConf := some () } =
      .error .panic := rfl
  cases hpanic.symm.trans hrun

/-! ### The client's sessions -/

/-- The library as the client's world answers for a session. The client puts no question where a session is made, so
its later questions have a smaller number. -/
def ofWorld (w : Client.World) (n : Nat) (closed : Bool) : Library Unit Unit Unit Unit where
  isClosed k _ := if k = n then closed || w.isClosed n else w.isClosed (k - 1)
  openStream k _ := match w.openStream (if k = n + 1 then n + 1 else k - 1) with
    | none => .ok ()
    | some err => .error err
  client _ _ _ := .ok ()
  closeConn _ _ := none

/-- The part of it behind a session that opens no stream. -/
def renew (w : Client.World) (i : Nat) : Client.Call (Option Err) := do
  modify fun c => { c with built := c.built.modify i fun e => { e with closed := false } }
  let c ← get
  Client.emit .isClosed
  if w.isClosed c.trace.length then throw .panic
  else
    match ← Client.openStream w with
    | some err => return some (.text (str "[re open smux session err]: " ++ err.error))
    | none => return none

theorem openStream_eq (w : Client.World) (c : Client.ClientControl) :
    Client.openStream w c = .ok (w.openStream c.trace.length, { c with trace := .openStream :: c.trace }) := rfl

theorem renew_eq (w : Client.World) (i n : Nat) (closed : Bool) {c : Client.ClientControl}
    {s : SmuxConfig Unit Unit Unit} (hc : c.trace.length = n + 2) (hs : s.calls = n + 2) :
    (renew w i c).map Prod.fst = (reclient (ofWorld w n closed) s).map fun r => r.1.2 := by
  have hclosed : (ofWorld w n closed).isClosed (s.calls + 1) () = w.isClosed (n + 2) := by
    rw [hs]
    exact if_neg (by omega)
  have hopen : (ofWorld w n closed).openStream (s.calls + 2) () =
      match w.openStream (n + 3) with
      | none => .ok ()
      | some err => .error err := by
    unfold ofWorld
    dsimp only
    rw [hs, if_neg (by omega)]
    rfl
  have hcall : renew w i c =
      (if w.isClosed c.trace.length then throw .panic
      else Client.openStream w >>= fun err =>
        match err with
        | some err => pure (some (.text (str "[re open smux session err]: " ++ err.error)))
        | none => pure none : Client.Call (Option Err))
      { c with built := c.built.modify i fun e => { e with closed := false }, trace := .isClosed :: c.trace } := rfl
  rw [hcall, hc]
  cases hnew : w.isClosed (n + 2) with
  | true =>
    rw [reclient_closed rfl (hclosed.trans hnew)]
    rfl
  | false =>
    rw [reclient_open rfl (hclosed.trans hnew), hopen, if_neg Bool.false_ne_true, Method.bind_apply_ok _ (openStream_eq w _)]
    have hlength : (Client.Event.isClosed :: c.trace).length = n + 3 := by rw [List.length_cons, hc]
    dsimp only
    rw [hlength]
    cases w.openStream (n + 3) with
    | none => rfl
    | some err => rfl

/-- `NewConnnect` as the client's model has it: the same error or the same panic. -/
theorem smuxConnect_eq (w : Client.World) (i : Nat) (e : Client.SmuxClient) (c : Client.ClientControl) :
    (Client.smuxConnect w i e c).map Prod.fst =
      (newConnnect (ofWorld w c.trace.length e.closed)
        { session := some (), clientConn := none, clienConf := none, calls := c.trace.length }).map fun r => r.1.2 := by
  have hcall : Client.smuxConnect w i e c =
      (if e.closed ∨ w.isClosed c.trace.length then pure (some (.text (str "session closed")))
      else Client.openStream w >>= fun err =>
        match err with
        | none => pure none
        | some _ => renew w i : Client.Call (Option Err)) { c with trace := .isClosed :: c.trace } := rfl
  rw [hcall, newConnnect_some rfl]
  have hclosed : (ofWorld w c.trace.length e.closed).isClosed c.trace.length () =
      (e.closed || w.isClosed c.trace.length) := if_pos rfl
  have hopen : (ofWorld w c.trace.length e.closed).openStream (c.trace.length + 1) () =
      match w.openStream (c.trace.length + 1) with
      | none => .ok ()
      | some err => .error err := by
    unfold ofWorld
    dsimp only
    rw [if_pos rfl]
  by_cases h : e.closed = true ∨ w.isClosed c.trace.length = true
  · rw [if_pos h, hclosed, if_pos (Bool.or_eq_true_iff.mpr h)]
    rfl
  · rw [if_neg h, hclosed, if_neg (mt Bool.or_eq_true_iff.mp h), hopen, Method.bind_apply_ok _ (openStream_eq w _),
      show ({ c with trace := .isClosed :: c.trace } : Client.ClientControl).trace.length = c.trace.length + 1 from rfl]
    cases w.openStream (c.trace.length + 1) with
    | none => rfl
    | some err => exact renew_eq w i _ _ rfl rfl

end ProxyZ.Tunnel.Smux
