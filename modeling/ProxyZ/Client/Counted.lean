import ProxyZ.Client.Identity
import ProxyZ.Client.Relay
import ProxyZ.Dns.Bypass
import ProxyZ.Socks5.HandShake

/-!
# Counting connections

`AliveCount` is the number of connections in the status line. `Socks5Listen` raises it behind each `Accept`, and it
is lowered on the ways out of the handshake, of the bypass and of `OnBodyDo`. An error of `Accept`, of
`GetLocalRequest` or of `ConnectRemote`, a control code and an error of the write to the server do not lower it, and
`OnBodyDo` lowers it for a connection of the HTTP proxy too, which has not raised it.

So the counter is the number of SOCKS connections that are being handled exactly in a run without these steps, and
there it is 0 whenever no connection is being handled, and never negative (`balanced_of_keepsCount`). Each change of
the counter is one step; the other goroutines, which leave it alone, may change the rest of the client between two
steps.
-/

namespace ProxyZ.Client

open Go ProxyZ.Control ProxyZ.Socks5 Method

/-- `ControllCode`. -/
def controllCode (w : World) (host : Str) : Call Unit :=
  if hasPrefix host (str "c://change/") then changeProxyType w (trim ((split (str "c://change/") host).getD 1 []))
  else pure ()

/-- What comes to the client: the result of an `Accept`, a connection of the HTTP proxy for `HandleBody`, or a step
of the other goroutines. -/
inductive Incoming
  | accept (conn : Option Conn)
  | handleBody (host : Str)
  | others (c : ClientControl)

/-- What the handler of a connection does next. -/
inductive ConnStage
  | accept (conn : Option Conn)
  | handshake (conn : Conn)
  | request (conn : Conn)
  /-- the bypass of `Socks5Listen` -/
  | bypass (raw : Bytes) (host : Str)
  /-- `OnBodyBeforeGetRemote` -/
  | body (isSocks5 : Bool) (raw : Bytes) (host : Str)
  /-- `OnBodyDo` -/
  | relaying (isSocks5 : Bool) (eid : Str) (raw : Bytes)
  /-- the deferred function of `Socks5Listen` -/
  | deferred
  | others (c : ClientControl)
  | ended

def Incoming.stage : Incoming → ConnStage
  | .accept conn => .accept conn
  | .handleBody host => .body false (hostToRaw host (-1)) host
  | .others c => .others c

/-- What a step finds outside: the rules of the package `prodns`, the results of the two writes of `OnBodyDo`, and
what the server sends. -/
structure Found where
  rules : Dns.Rules := {}
  remoteWrite : Option Err := none
  localWrite : Option Err := none
  remotecon : Reader := ⟨[], .eof⟩

/-- Behind `OnBodyBeforeGetRemote`. -/
def leave (isSocks5 : Bool) : ConnStage := if isSocks5 then .deferred else .ended

/-- The next step of a connection, `none` where it has ended, waits, or ends the program with a panic. -/
def connStep (w : World) (re : Dns.Regexp) (c : ClientControl) : ConnStage → Found → Option (ClientControl × ConnStage)
  | .accept conn, _ =>
      let c := { c with aliveCount := c.aliveCount + 1, acceptCount := c.acceptCount + 1 }
      some (c, conn.elim .ended .handshake)
  | .handshake conn, _ => do
      let (err, conn) ← socks5HandShake conn
      if err.isSome then some ({ c with aliveCount := c.aliveCount - 1 }, .deferred)
      else some (c, .request conn)
  | .request conn, _ => do
      let (q, _) ← getLocalRequest conn.reader
      if q.err.isSome then some (c, .deferred) else some (c, .bypass q.rawaddr q.host)
  | .bypass raw host, o =>
      match Dns.socks5Dial re o.rules raw with
      | .direct _ => some ({ c with aliveCount := c.aliveCount - 1 }, .deferred)
      | .config => some ({ c with aliveCount := c.aliveCount - 1 }, .deferred)
      | .remote => some (c, .body true raw host)
  | .body isSocks5 raw host, _ =>
      if hasPrefix host (str "c://") then
        match controllCode w host c with
        | .ok (_, c) => some (c, leave isSocks5)
        | .error _ => none
      else
        match connectRemote w c with
        | .ok (s, c) =>
            -- `LogTest` looks at `raw[3]`
            if host = [] ∧ raw.length < 4 then none
            else if s.err.isSome then
              match (do errRecord s.id 1; routeErr : Call Unit) c with
              | .ok (_, c) => some (c, leave isSocks5)
              | .error _ => none
            else some (c, .relaying isSocks5 s.id raw)
        | .error _ => none
  | .relaying isSocks5 eid raw, o =>
      match onBodyDo o.remoteWrite o.localWrite o.remotecon eid isSocks5 raw c with
      | .ok (r, c) => some (if r.err.isSome then { c with errCon := c.errCon + 1 } else c, leave isSocks5)
      | .error _ => none
  | .deferred, _ => some ({ c with acceptCount := c.acceptCount - 1 }, .ended)
  | .others c', _ => some ({ c' with aliveCount := c.aliveCount }, .ended)
  | .ended, _ => none

/-- Any number of connections of one client. -/
def connections (w : World) (re : Dns.Regexp) : Program ClientControl ConnStage Incoming Found where
  start := Incoming.stage
  next c t o := do
    let (c', t') ← connStep w re c t o
    some (c', t', [])

/-- A new client, before its first connection. -/
def newConns (w : World) (addr : Str) (channelNum : Nat) (getNewRoute : Bool) : Threads ClientControl ConnStage :=
  ⟨newClientControll w addr channelNum getNewRoute, []⟩

/-- The connection is being handled. -/
def ConnStage.handled : ConnStage → Bool
  | .handshake _ | .request _ | .bypass _ _ | .body _ _ _ | .relaying _ _ _ => true
  | _ => false

/-- What the connection has to be counted for: 1 from the `Accept` of a SOCKS connection to its end. -/
def ConnStage.counted : ConnStage → Nat
  | .handshake _ | .request _ | .bypass _ _ => 1
  | .body isSocks5 _ _ | .relaying isSocks5 _ _ => isSocks5.toNat
  | _ => 0

/-- **The counter is balanced**: 0 where no connection is being handled, and never negative. -/
structure CountBalanced (s : Threads ClientControl ConnStage) : Prop where
  idle : (∀ t ∈ s.threads, t.handled = false) → s.shared.aliveCount = 0
  nonneg : 0 ≤ s.shared.aliveCount

/-- The counter is the number of SOCKS connections that are being handled. -/
def CountFits (s : Threads ClientControl ConnStage) : Prop :=
  s.shared.aliveCount = total ConnStage.counted s.threads

/-- A connection for this host does not get as far as a server: the host is a control code, or `ConnectRemote` fails. -/
def Unserved (w : World) (c : ClientControl) (host : Str) : Prop :=
  hasPrefix host (str "c://") = true ∨ ∃ s c', connectRemote w c = .ok (s, c') ∧ s.err ≠ none

/-- The steps behind which the counter does not fit. -/
def Drifts (w : World) (c : ClientControl) : ConnStage → Found → Prop
  | .accept conn, _ => conn = none
  | .request conn, _ => ∃ q reader, getLocalRequest conn.reader = some (q, reader) ∧ q.err ≠ none
  | .body isSocks5 _ host, _ => isSocks5 = true ∧ Unserved w c host
  | .relaying isSocks5 _ _, o => isSocks5 = o.remoteWrite.isSome
  | _, _ => False

/-- No connection takes such a step. -/
def KeepsCount (w : World) (s : Threads ClientControl ConnStage) (a : Act Incoming Found) : Prop :=
  ∀ k o t, a = .step k o → s.threads[k]? = some t → ¬Drifts w s.shared t o

/-! ### What leaves the counter alone -/

section Counter

variable {w : World} {n : Int}

/-- The counter is `n`. -/
def CountIs (n : Int) (c : ClientControl) : Prop := c.aliveCount = n

theorem countIs_flags : FlagContract True (CountIs n) where
  emit _ _ := Triple.modify fun _ h => h
  setClosed _ _ := Triple.modify fun _ h => h

theorem getAviableProxy_countIs (tp : Option Str) :
    Triple True (CountIs n) (getAviableProxy w tp) fun _ => CountIs n := by
  refine Triple.for_each fun c hc => ((getAviableProxy_spec tp c).mono fun _ => trivial).post ?_
  intro r s hobtained
  cases hobtained <;> exact hc

theorem pushProfile_countIs (conf : ProtocolConfig) :
    Triple True (CountIs n) (pushProfile conf) fun _ => CountIs n := by
  apply Triple.get
  intro c hc
  rcases c.proxyProfiles.send conf with _ | ch
  · exact Triple.waiting fun _ _ => trivial
  · exact Triple.modify fun s hs => hs ▸ hc

theorem rebuildSmux_countIs (no : Nat) : Triple True (CountIs n) (rebuildSmux w no) fun _ => CountIs n := by
  apply Triple.bind (getAviableProxy_countIs _)
  intro conf
  cases conf with
  | none => exact Triple.pure fun _ h => h
  | some conf =>
    have hset : ∀ e, Faithful e → Triple True (CountIs n) (setSlot no e) fun _ => CountIs n :=
      fun _ _ => Triple.modify fun _ h => h
    exact Triple.bind (pushProfile_countIs conf) fun _ => Triple.bind (countIs_flags.connect hset conf) fun _ =>
      Triple.pure fun _ h => h

theorem countIs_sessions : SessionContract True w (CountIs n) where
  rebuildSmux := rebuildSmux_countIs
  isClosed := countIs_flags.isClosed
  newConnnect := countIs_flags.newConnnect
  goroutines := countIs_flags.emit .goroutines trivial
  use _ _ hc := hc
  inited _ _ hc := hc

theorem connectRemote_countIs : Triple True (CountIs n) (connectRemote w) fun _ => CountIs n := by
  refine Triple.bind countIs_sessions.getSession fun s => ?_
  refine Triple.ite (fun _ => ?_) fun _ => Triple.pure fun _ h => h
  refine Triple.bind countIs_sessions.getSession fun s => ?_
  refine Triple.bind (Q := fun _ => CountIs n) ?_ fun _ => Triple.pure fun _ h => h
  exact Triple.ite (fun _ => Triple.modify fun _ h => h) fun _ => Triple.pure fun _ h => h

theorem controllCode_countIs (host : Str) : Triple True (CountIs n) (controllCode w host) fun _ => CountIs n := by
  refine Triple.ite (fun _ => ?_) fun _ => Triple.pure fun _ h => h
  refine Triple.bind (Q := fun _ => CountIs n) (Triple.modify fun _ h => h) fun _ => Triple.get fun c hc => ?_
  refine (Triple.bind (Triple.forM (fun _ => ?_) _) fun _ => countIs_sessions.initializationTunnels.discard).of_state hc
  exact (getAviableProxy_countIs _).discard

/-- The call returns with the counter lowered by `k`. -/
def Lowers (k : Int) (m : Call Relay) (c : ClientControl) : Prop :=
  ∃ r c', m c = .ok (r, c') ∧ c'.aliveCount = c.aliveCount - k

theorem relayErr_lowers (eid : Str) (r : Relay) (c : ClientControl) : Lowers 1 (relayErr eid r) c := ⟨_, _, rfl, rfl⟩

theorem pipeRest_lowers (remotecon : Reader) (eid : Str) (raw written : Bytes) (c : ClientControl) :
    Lowers 1 (pipeRest remotecon eid raw written) c :=
  ⟨_, _, rfl, rfl⟩

/-- `OnBodyDo` lowers the counter on every way out but one. -/
theorem onBodyDo_lowers (remoteWrite localWrite : Option Err) (remotecon : Reader) (eid : Str) (isSocks5 : Bool)
    (raw : Bytes) (c : ClientControl) :
    Lowers (if remoteWrite.isSome then 0 else 1) (onBodyDo remoteWrite localWrite remotecon eid isSocks5 raw) c := by
  cases remoteWrite with
  | some e => exact ⟨_, _, rfl, (sub_zero _).symm⟩
  | none =>
    rw [Option.isSome_none, if_neg Bool.false_ne_true]
    unfold onBodyDo
    dsimp only
    split
    · exact relayErr_lowers _ _ _
    · split_ifs
      · cases localWrite with
        | some e => exact relayErr_lowers _ _ _
        | none => exact pipeRest_lowers _ _ _ _ _
      · exact pipeRest_lowers _ _ _ _ _

/-! ### A step of a connection -/

variable {re : Dns.Regexp} {c c' : ClientControl} {t t' : ConnStage} {o : Found}

theorem counted_leave (isSocks5 : Bool) : (leave isSocks5).counted = 0 := by cases isSocks5 <;> rfl

/-- A way out that leaves the counter as it is fits a connection of the HTTP proxy alone. -/
theorem leave_uncounted {n m : Int} (hnm : m = n) (isSocks5 : Bool) (raw : Bytes) (host : Str) :
    m + (ConnStage.body isSocks5 raw host).counted = n + (leave isSocks5).counted ↔ ¬isSocks5 = true := by
  rw [counted_leave, hnm]
  cases isSocks5 <;> simp [ConnStage.counted]

/-- `OnBodyBeforeGetRemote` leaves the counter as it is, and goes on to a server unless there is none. -/
theorem connStep_body {isSocks5 : Bool} {raw : Bytes} {host : Str}
    (h : connStep w re c (.body isSocks5 raw host) o = some (c', t')) :
    c'.aliveCount = c.aliveCount ∧
      (Unserved w c host ∧ t' = leave isSocks5 ∨ ¬Unserved w c host ∧ ∃ eid, t' = .relaying isSocks5 eid raw) := by
  simp only [connStep] at h
  by_cases hcode : hasPrefix host (str "c://") = true
  · rw [if_pos hcode] at h
    split at h
    · rename_i c₁ hcall
      cases h
      exact ⟨(controllCode_countIs host).returns rfl hcall, Or.inl ⟨Or.inl hcode, rfl⟩⟩
    · cases h
  rw [if_neg hcode] at h
  split at h
  · rename_i s c₁ hcall
    have hcount : c₁.aliveCount = c.aliveCount := connectRemote_countIs.returns rfl hcall
    have hunserved : Unserved w c host ↔ s.err ≠ none := by
      unfold Unserved
      rw [or_iff_right hcode]
      constructor
      · rintro ⟨s', c₂, hcall', herr⟩
        cases hcall.symm.trans hcall'
        exact herr
      · exact fun herr => ⟨s, c₁, hcall, herr⟩
    rw [hunserved]
    split_ifs at h with hpanic herr
    · cases h
      exact ⟨hcount, Or.inl ⟨Option.isSome_iff_ne_none.mp herr, rfl⟩⟩
    · cases h
      exact ⟨hcount, Or.inr ⟨fun hne => herr (Option.isSome_iff_ne_none.mpr hne), s.id, rfl⟩⟩
  · cases h

/-- **A step changes the counter by what the connection has to be counted for, unless it drifts.** -/
theorem connStep_counted (h : connStep w re c t o = some (c', t')) :
    c'.aliveCount + t.counted = c.aliveCount + t'.counted ↔ ¬Drifts w c t o := by
  cases t with
  | accept conn =>
    cases h
    cases conn with
    | none => exact iff_of_false (by simp [ConnStage.counted]) (not_not.mpr rfl)
    | some conn => exact iff_of_true (by simp [ConnStage.counted]) nofun
  | handshake conn =>
    obtain ⟨⟨err, conn'⟩, -, h⟩ := Option.bind_eq_some_iff.mp h
    refine iff_of_true ?_ id
    dsimp only at h
    split_ifs at h
    · cases h
      simp [ConnStage.counted]
    · cases h
      rfl
  | request conn =>
    obtain ⟨⟨q, reader⟩, hread, h⟩ := Option.bind_eq_some_iff.mp h
    have hdrifts : Drifts w c (.request conn) o ↔ q.err ≠ none := by
      constructor
      · rintro ⟨q', reader', hread', herr⟩
        cases hread.symm.trans hread'
        exact herr
      · exact fun herr => ⟨q, reader, hread, herr⟩
    rw [hdrifts]
    dsimp only at h
    split_ifs at h with herr
    · cases h
      exact iff_of_false (by simp [ConnStage.counted]) (not_not.mpr (Option.isSome_iff_ne_none.mp herr))
    · cases h
      exact iff_of_true rfl fun hne => herr (Option.isSome_iff_ne_none.mpr hne)
  | bypass raw host =>
    refine iff_of_true ?_ id
    simp only [connStep] at h
    split at h
    · cases h
      simp [ConnStage.counted]
    · cases h
      simp [ConnStage.counted]
    · cases h
      rfl
  | body isSocks5 raw host =>
    obtain ⟨hcount, ⟨hunserved, rfl⟩ | ⟨hserved, eid, rfl⟩⟩ := connStep_body h
    · rw [leave_uncounted hcount]
      exact not_congr (and_iff_left hunserved).symm
    · refine iff_of_true ?_ fun hdrifts => hserved hdrifts.2
      rw [hcount]
      rfl
  | relaying isSocks5 eid raw =>
    obtain ⟨r, c₁, hcall, hcount⟩ := onBodyDo_lowers o.remoteWrite o.localWrite o.remotecon eid isSocks5 raw c
    simp only [connStep] at h
    rw [hcall] at h
    cases h
    have hkeep : (if r.err.isSome then { c₁ with errCon := c₁.errCon + 1 } else c₁).aliveCount = c₁.aliveCount := by
      split_ifs <;> rfl
    rw [hkeep, hcount, counted_leave]
    show _ ↔ ¬isSocks5 = o.remoteWrite.isSome
    cases isSocks5 <;> cases o.remoteWrite.isSome <;> simp [ConnStage.counted]
  | deferred =>
    cases h
    exact iff_of_true rfl id
  | others c₁ =>
    cases h
    exact iff_of_true rfl id
  | ended => cases h

end Counter

/-! ### Runs -/

section Runs

variable {w : World} {re : Dns.Regexp} {s s' : Threads ClientControl ConnStage} {a : Act Incoming Found}

theorem counted_stage (i : Incoming) : i.stage.counted = 0 := by cases i <;> rfl

/-- A connection that has to be counted is being handled. -/
theorem counted_of_not_handled {t : ConnStage} (h : t.handled = false) : t.counted = 0 := by
  cases t with
  | handshake _ | request _ | bypass _ _ | body _ _ _ | relaying _ _ _ => cases h
  | accept _ | deferred | others _ | ended => rfl

/-- **The counter fits behind a step exactly if the step does not drift.** -/
theorem CountFits.step_iff (h : CountFits s) (hs : (connections w re).step? s a = some s') :
    CountFits s' ↔ KeepsCount w s a := by
  unfold CountFits at h ⊢
  cases a with
  | call i =>
    rw [Program.step?_call] at hs
    subst hs
    refine iff_of_true ?_ fun k o t ha => nomatch ha
    rw [total_append]
    show _ = ((total _ _ + (i.stage.counted + 0) : Nat) : Int)
    rw [counted_stage, h]
    rfl
  | step k o =>
    obtain ⟨t, shared, t', new, ht, hnext, rfl⟩ := Program.step?_step.mp hs
    obtain ⟨⟨c', t'⟩, hstep, hnext⟩ := Option.bind_eq_some_iff.mp hnext
    cases hnext
    have hkeeps : KeepsCount w s (.step k o) ↔ ¬Drifts w s.shared t o := by
      constructor
      · exact fun hkeeps => hkeeps k o t rfl ht
      · rintro hdrifts k' o' u ha hu
        cases ha
        cases ht.symm.trans hu
        exact hdrifts
    rw [hkeeps, ← connStep_counted hstep, List.append_nil]
    -- the step exchanges what the connection is counted for, in the counter as in the sum
    have hset := total_set ConnStage.counted ht t'
    dsimp only
    omega

theorem CountFits.balanced (h : CountFits s) : CountBalanced s := by
  unfold CountFits at h
  constructor
  · intro hidle
    have hzero : total ConnStage.counted s.threads = 0 := by
      apply List.sum_eq_zero
      intro n hn
      obtain ⟨t, ht, rfl⟩ := List.mem_map.mp hn
      exact counted_of_not_handled (hidle t ht)
    rw [h, hzero]
    rfl
  · rw [h]
    exact Int.natCast_nonneg _

/-- **The counter is the number of SOCKS connections that are being handled exactly in a run without a step that
drifts**, and in such a run it is balanced in every state that is reached. -/
theorem balanced_of_keepsCount (w : World) (re : Dns.Regexp) (addr : Str) (channelNum : Nat) (getNewRoute : Bool)
    (acts : List (Act Incoming Found)) :
    (AllSteps (connections w re).step? (fun _ _ s' => CountFits s') acts (newConns w addr channelNum getNewRoute) ↔
      AllSteps (connections w re).step? (fun s a _ => KeepsCount w s a) acts (newConns w addr channelNum getNewRoute)) ∧
    (AllSteps (connections w re).step? (fun s a _ => KeepsCount w s a) acts (newConns w addr channelNum getNewRoute) →
      ∀ s, runAll (connections w re).step? acts (newConns w addr channelNum getNewRoute) = some s →
        CountBalanced s) := by
  have hnew : CountFits (newConns w addr channelNum getNewRoute) := rfl
  refine ⟨?_, fun hkeeps s hrun => ?_⟩
  · refine allSteps_iff (I := CountFits) ?_ (fun _ _ _ _ _ h => h) hnew acts
    exact fun _ _ _ h hs => h.step_iff hs
  · have haccounted : CountFits s :=
      hkeeps.invariant (fun _ _ _ h hs hkeeps => (h.step_iff hs).mpr hkeeps) hnew hrun
    exact haccounted.balanced

end Runs

/-- A connection of an application that does not speak SOCKS. -/
def plainHttp : Conn := ⟨⟨[str "GET / HTTP/1.1"], .eof⟩, [], none⟩

/-- It is accepted, its greeting is refused, and it is closed. -/
def refused : List (Act Incoming Found) := [.call (.accept (some plainHttp)), .step 0 {}, .step 0 {}, .step 0 {}]

theorem balanced_of_keepsCount_refused :
    ∃ s, runAll (connections handsOut fun _ => none).step? refused (newConns handsOut sampleAddr 1 false) = some s ∧
      CountBalanced s := by
  refine ⟨_, rfl, (balanced_of_keepsCount handsOut (fun _ => none) sampleAddr 1 false refused).2 ?_ _ rfl⟩
  apply (balanced_of_keepsCount handsOut (fun _ => none) sampleAddr 1 false refused).1.mp
  exact .cons rfl rfl (.cons rfl rfl (.cons rfl rfl (.cons rfl rfl trivial)))

/-- Behind an error of `Accept` the counter is 1 with no connection, and behind a connection of the HTTP proxy to
which the server does not answer it is -1. -/
theorem not_balanced_drifted :
    (∃ s, runAll (connections handsOut fun _ => none).step? [.call (.accept none), .step 0 {}]
        (newConns handsOut sampleAddr 1 false) = some s ∧ s.shared.aliveCount = 1 ∧ ¬CountBalanced s) ∧
      ∃ s, runAll (connections handsOut fun _ => none).step?
        [.call (.handleBody (str "example.com:443")), .step 0 {}, .step 0 {}] (newConns handsOut sampleAddr 1 false) =
          some s ∧ s.shared.aliveCount = -1 ∧ ¬CountBalanced s := by
  refine ⟨⟨_, rfl, rfl, fun h => ?_⟩, ⟨_, rfl, rfl, fun h => ?_⟩⟩
  · exact absurd (h.idle (by decide)) (by decide)
  · exact absurd h.nonneg (by decide)

end ProxyZ.Client
