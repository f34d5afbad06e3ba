import ProxyZ.Client.Contract
import ProxyZ.Go.Threads

/-!
# Many callers of the pool

`GetAviableProxy` reads `initProfiles` in one locked region and raises it in another one, with the test between
the two, and `RebuildSmux` pushes the profile it got while it holds the lock. Here any number of them run at
the same time, one locked region, channel operation or request at a step. The steps are the pieces the
methods of `Control` are made of, and a call that runs alone does what the method does
(`rebuildSmux_alone`).

The pool stays within its bound exactly in the runs in which the counter is still below `confNum` whenever it
is raised (`crowd_bounded_iff`): then the queued profiles and those that a call holds are never more than
`initProfiles`.
-/

namespace ProxyZ.Client

open Go ProxyZ.Control Method

/-- A call of `RebuildSmux`, or of `GetAviableProxy` alone. -/
inductive PoolCall
  | rebuildSmux (no : Nat)
  | getAviableProxy (tp : Option Str)

/-- The type of tunnel the call asks for. -/
def PoolCall.tp : PoolCall → Option Str
  | .rebuildSmux no => some (if no % 3 = 0 then str "quic" else str "tls")
  | .getAviableProxy tp => tp

/-- What a call does next. -/
inductive Stage
  | start
  | receiving
  | raising
  | asking (addr : Str) (tries : Nat)
  | failed
  | received (conf : ProtocolConfig)
  | pushing (conf : ProtocolConfig)
  /-- the channel was full: the call waits for room and keeps the lock -/
  | blocked (conf : ProtocolConfig)
  | connecting (conf : ProtocolConfig)
  | returned (err : Option RebuildErr) (conf : Option ProtocolConfig)

structure Caller where
  call : PoolCall
  stage : Stage

/-- The client and its lock, as it is between two steps. -/
structure Locked where
  control : ClientControl
  locked : Bool

/-- Behind `GetAviableProxy`. -/
def PoolCall.got : PoolCall → Option ProtocolConfig → Stage
  | .rebuildSmux _, some conf => .pushing conf
  | .rebuildSmux _, none => .returned (some .routeIsBreak) none
  | .getAviableProxy _, conf => .returned none conf

/-- What `GetAviableProxy` makes of an answer; `none` is a panic of `RecvMsg`, which ends the program. -/
def answered (w : World) (addr : Str) (tries : Nat) (reply : Str) (err : Option Err) : Option Stage :=
  if err.isSome ∧ tries ≠ 0 then some (.asking addr (tries - 1))
  else if err.isSome ∨ reply = [] then some .failed
  else
    match recvMsg w.unmarshal reply with
    | none => none
    | some (_, false) => some .failed
    | some (obj, true) =>
        match w.profile obj with
        | none => some .failed
        | some conf => some (.received (conf.at (wrapIPPort w.parseUrl (wrap w.parseUrl addr))))

/-- The next step of a call, `none` where it has to wait or has returned. -/
def poolStep (w : World) (call : PoolCall) (s : Locked) : Stage → Option (Locked × Stage)
  | .start =>
      if s.locked then none
      else some (s, if (s.control.confNum : Int) ≤ s.control.initProfiles then .receiving else .raising)
  | .receiving => do
      let (conf, ch) ← s.control.proxyProfiles.recv
      some ({ s with control := { s.control with proxyProfiles := ch } }, call.got (some conf))
  | .raising =>
      if s.locked then none
      else
        some ({ s with control := { s.control with initProfiles := s.control.initProfiles + 1 } },
          .asking s.control.addr 1)
  | .asking addr tries =>
      match httpsPost w (proxyGet w addr call.tp) s.control with
      | .ok ((reply, err), c) => do
          let stage ← answered w addr tries reply err
          some ({ s with control := c }, stage)
      | .error _ => none
  | .failed =>
      if s.locked then none
      else
        match noProxy s.control with
        | .ok (conf, c) => some ({ s with control := c }, call.got conf)
        | .error _ => none
  | .received conf =>
      if s.locked then none
      else
        some ({ s with control := { s.control with errorid := s.control.errorid.insert conf.id 0 } },
          call.got (some conf))
  | .pushing conf =>
      if s.locked then none
      else
        match s.control.proxyProfiles.send conf with
        | some ch => some ({ s with control := { s.control with proxyProfiles := ch } }, .connecting conf)
        | none => some ({ s with locked := true }, .blocked conf)
  | .blocked conf => do
      let ch ← s.control.proxyProfiles.send conf
      some ({ s with control := { s.control with proxyProfiles := ch }, locked := false }, .connecting conf)
  | .connecting conf =>
      match call with
      | .rebuildSmux no =>
          if s.locked then none
          else
            match connect w no conf s.control with
            | .ok (err, c) => some ({ s with control := c }, .returned err (some conf))
            | .error _ => none
      | .getAviableProxy _ => none
  | .returned _ _ => none

/-- Any number of calls on one client. -/
def crowd (w : World) : Program Locked Caller PoolCall Unit where
  start call := ⟨call, .start⟩
  next s t _ := do
    let (s', stage) ← poolStep w t.call s t.stage
    some (s', ⟨t.call, stage⟩, [])

/-- The client behind `Init`, with no call running. -/
def afterInit (c : ClientControl) : Threads Locked Caller := ⟨⟨init c, false⟩, []⟩

/-- The pool keeps its bound, and no push has found the channel full. -/
def Bounded (s : Threads Locked Caller) : Prop :=
  s.shared.control.initProfiles ≤ s.shared.control.confNum ∧ ∀ t ∈ s.threads, ∀ conf, t.stage ≠ .blocked conf

/-- If the step raises the counter, the counter is below `confNum`. -/
def RaisesBelow (s : Threads Locked Caller) (a : Act PoolCall Unit) : Prop :=
  ∀ k t, a = .step k () → s.threads[k]? = some t → t.stage = .raising →
    s.shared.control.initProfiles < s.shared.control.confNum

/-! ### One step -/

/-- A profile the call has counted or taken and not put into the queue. -/
def Stage.holds : Stage → Nat
  | .asking _ _ | .failed | .received _ | .pushing _ | .blocked _ => 1
  | _ => 0

theorem holds_got (call : PoolCall) (conf : ProtocolConfig) : (call.got (some conf)).holds ≤ 1 := by
  cases call
  · exact le_rfl
  · exact Nat.zero_le 1

theorem got_ne_blocked (call : PoolCall) (r : Option ProtocolConfig) (conf : ProtocolConfig) :
    call.got r ≠ .blocked conf := by
  cases call <;> cases r <;> nofun

theorem answered_holds {w : World} {addr reply : Str} {tries : Nat} {err : Option Err} {stage : Stage}
    (h : answered w addr tries reply err = some stage) : stage.holds = 1 ∧ ∀ conf, stage ≠ .blocked conf := by
  unfold answered at h
  split_ifs at h
  · cases h
    exact ⟨rfl, nofun⟩
  · cases h
    exact ⟨rfl, nofun⟩
  · split at h
    · cases h
    · cases h
      exact ⟨rfl, nofun⟩
    · split at h <;> cases h <;> exact ⟨rfl, nofun⟩

/-- What a step does to the numbers of the pool. -/
structure Moves (s : Locked) (stage : Stage) (s' : Locked) (stage' : Stage) : Prop where
  confNum : s'.control.confNum = s.control.confNum
  cap : s'.control.proxyProfiles.cap = s.control.proxyProfiles.cap
  /-- the step counts what it takes -/
  account : s'.control.proxyProfiles.items.length + stage'.holds + s.control.initProfiles ≤
    s.control.proxyProfiles.items.length + stage.holds + s'.control.initProfiles
  raises : stage = .raising → s'.control.initProfiles = s.control.initProfiles + 1
  lowers : stage ≠ .raising → s'.control.initProfiles ≤ s.control.initProfiles
  /-- only a call that holds a profile can find the channel full -/
  full : ∀ conf, stage' = .blocked conf → stage.holds = 1 ∧
    s.control.proxyProfiles.cap ≤ s.control.proxyProfiles.items.length

/-- Building a session leaves the numbers of the pool alone. -/
theorem poolNumbers_stable (c : ClientControl) :
    Stable fun c' => c'.proxyProfiles = c.proxyProfiles ∧ c'.initProfiles = c.initProfiles ∧ c'.confNum = c.confNum := by
  rintro c₁ c₂ hsame ⟨hprofiles, hinit, hnum⟩
  exact ⟨hsame.proxyProfiles.trans hprofiles, hsame.initProfiles.trans hinit, hsame.confNum.trans hnum⟩

theorem pushed {s : Locked} {conf : ProtocolConfig} {ch : Chan ProtocolConfig} {locked : Bool} {stage : Stage}
    (hstage : stage = .pushing conf ∨ stage = .blocked conf) (hsend : s.control.proxyProfiles.send conf = some ch) :
    Moves s stage ⟨{ s.control with proxyProfiles := ch }, locked⟩ (.connecting conf) := by
  obtain ⟨hitems, hcap⟩ := Chan.send_eq_some.mp hsend
  have hholds : stage.holds = 1 := by rcases hstage with rfl | rfl <;> rfl
  refine ⟨rfl, hcap, ?_, fun h => ?_, fun _ => le_rfl, nofun⟩
  · have hnone : (Stage.connecting conf).holds = 0 := rfl
    dsimp only
    rw [hitems, hholds, hnone, List.length_append, List.length_singleton]
    omega
  · rcases hstage with rfl | rfl <;> cases h

theorem poolStep_moves {w : World} {call : PoolCall} {s s' : Locked} {stage stage' : Stage}
    (h : poolStep w call s stage = some (s', stage')) : Moves s stage s' stage' := by
  cases stage with
  | start =>
    simp only [poolStep] at h
    split_ifs at h <;> cases h <;> exact ⟨rfl, rfl, le_rfl, nofun, fun _ => le_rfl, nofun⟩
  | receiving =>
    simp only [poolStep] at h
    obtain ⟨⟨conf, ch⟩, hrecv, h⟩ := Option.bind_eq_some_iff.mp h
    cases h
    obtain ⟨hitems, hcap⟩ := Chan.recv_eq_some.mp hrecv
    have hholds := holds_got call conf
    refine ⟨rfl, hcap, ?_, nofun, fun _ => le_rfl, fun conf' hblocked => absurd hblocked (got_ne_blocked _ _ _)⟩
    dsimp only
    rw [hitems, List.length_cons]
    omega
  | raising =>
    simp only [poolStep] at h
    split_ifs at h
    cases h
    refine ⟨rfl, rfl, ?_, fun _ => rfl, fun hne => absurd rfl hne, nofun⟩
    simp only [Stage.holds]
    omega
  | asking addr tries =>
    obtain ⟨stage, hstage, h⟩ := Option.bind_eq_some_iff.mp h
    cases h
    obtain ⟨hholds, hblocked⟩ := answered_holds hstage
    refine ⟨rfl, rfl, ?_, nofun, fun _ => le_rfl, fun conf h => absurd h (hblocked conf)⟩
    rw [hholds]
    exact le_rfl
  | failed =>
    simp only [poolStep] at h
    split_ifs at h
    cases h
    refine ⟨rfl, rfl, ?_, nofun, fun _ => ?_, fun conf' hblocked => absurd hblocked (got_ne_blocked _ _ _)⟩
    · have hholds : (call.got none).holds = 0 := by cases call <;> rfl
      rw [hholds]
      simp only [Stage.holds]
      omega
    · exact sub_le_self _ zero_le_one
  | received conf =>
    simp only [poolStep] at h
    split_ifs at h
    cases h
    have hholds := holds_got call conf
    refine ⟨rfl, rfl, ?_, nofun, fun _ => le_rfl, fun conf' hblocked => absurd hblocked (got_ne_blocked _ _ _)⟩
    have hone : (Stage.received conf).holds = 1 := rfl
    dsimp only
    omega
  | pushing conf =>
    simp only [poolStep] at h
    split_ifs at h
    rcases hsend : s.control.proxyProfiles.send conf with _ | ch
    · rw [hsend] at h
      cases h
      refine ⟨rfl, rfl, le_rfl, nofun, fun _ => le_rfl, fun conf' _ => ⟨rfl, not_lt.mp fun hroom => ?_⟩⟩
      obtain ⟨ch, hch⟩ := Chan.exists_send conf hroom
      rw [hsend] at hch
      cases hch
    · rw [hsend] at h
      cases h
      exact pushed (Or.inl rfl) hsend
  | blocked conf =>
    simp only [poolStep] at h
    obtain ⟨ch, hsend, h⟩ := Option.bind_eq_some_iff.mp h
    cases h
    exact pushed (Or.inr rfl) hsend
  | connecting conf =>
    cases call with
    | rebuildSmux no =>
      simp only [poolStep] at h
      split_ifs at h
      rcases hconnect : connect w no conf s.control with stop | ⟨err, c⟩
      · rw [hconnect] at h
        cases h
      · rw [hconnect] at h
        cases h
        have hcontract : Triple True _ (connect w no conf) _ := (poolNumbers_stable s.control).connect no conf
        obtain ⟨hprofiles, hinit, hnum⟩ := hcontract.returns ⟨rfl, rfl, rfl⟩ hconnect
        refine ⟨hnum, ?_, ?_, nofun, fun _ => hinit.le, nofun⟩
        · show c.proxyProfiles.cap = _
          rw [hprofiles]
        · show (c.proxyProfiles.items.length : Int) + _ + _ ≤ _ + _ + c.initProfiles
          rw [hprofiles, hinit]
          exact le_rfl
    | getAviableProxy tp => cases h
  | returned err conf => cases h

/-! ### A call alone -/

/-- The steps of a call that nothing else disturbs. -/
def Steps (w : World) (call : PoolCall) : Locked × Stage → Locked × Stage → Prop :=
  Relation.ReflTransGen fun x y => poolStep w call x.1 x.2 = some y

section Alone

variable {w : World} {call : PoolCall}

theorem retryPost_alone (addr : Str) (tries : Nat) (c : ClientControl) :
    Triple True (fun s => s = c) (retryPost w (proxyGet w addr call.tp) tries) fun r s =>
      ∀ stage, answered w addr 0 r.1 r.2 = some stage →
        Steps w call (⟨c, false⟩, .asking addr tries) (⟨s, false⟩, stage) := by
  have hstep : ∀ (tries : Nat) (c s : ClientControl) (r : Str × Option Err) (stage : Stage),
      r = w.post c.trace.length (proxyGet w addr call.tp) ∧
        s = { c with trace := .post (proxyGet w addr call.tp) r.1 r.2 :: c.trace } →
      answered w addr tries r.1 r.2 = some stage →
      poolStep w call ⟨c, false⟩ (.asking addr tries) = some (⟨s, false⟩, stage) := by
    rintro tries c s r stage ⟨rfl, rfl⟩ hstage
    show (answered w addr tries _ _ >>= fun stage => some (_, stage)) = _
    rw [hstage]
    rfl
  induction tries generalizing c with
  | zero =>
    apply (httpsPost_spec _ c).post
    intro r s hs stage hstage
    exact .single (hstep 0 c s r stage hs hstage)
  | succ tries ih =>
    apply Triple.bind (httpsPost_spec _ c)
    intro r
    refine Triple.ite (fun herr => ?_) fun herr => ?_
    · apply Triple.for_each
      intro c' hc'
      apply (ih c').post
      intro r' s hs stage hstage
      have hagain : answered w addr (tries + 1) r.1 r.2 = some (.asking addr tries) := by
        unfold answered
        rw [if_pos ⟨herr, Nat.succ_ne_zero _⟩]
        rfl
      exact .head (hstep _ c c' r _ hc' hagain) (hs stage hstage)
    · apply Triple.pure
      intro s hs stage hstage
      have hsame : answered w addr (tries + 1) r.1 r.2 = answered w addr 0 r.1 r.2 := by
        simp [answered, herr]
      exact .single (hstep _ c s r stage hs (hsame.trans hstage))

theorem failed_alone {c₀ : Locked × Stage} {c : ClientControl} (h : Steps w call c₀ (⟨c, false⟩, .failed)) :
    Triple True (fun s => s = c) noProxy fun r s => Steps w call c₀ (⟨s, false⟩, call.got r) := by
  apply Triple.modify_bind
  apply Triple.pure
  intro s hs
  rw [hs]
  exact h.tail rfl

theorem getAviableProxy_alone (c : ClientControl) :
    Triple True (fun s => s = c) (getAviableProxy w call.tp) fun r s =>
      Steps w call (⟨c, false⟩, .start) (⟨s, false⟩, call.got r) := by
  apply Triple.get
  intro s hs
  rw [hs]
  refine Triple.ite (fun hfull => ?_) fun hfull => ?_
  · have hstart : poolStep w call ⟨c, false⟩ .start = some (⟨c, false⟩, .receiving) := by
      show some (_, if _ then _ else _) = _
      rw [if_pos hfull]
    rcases hrecv : c.proxyProfiles.recv with _ | ⟨conf, ch⟩
    · exact Triple.waiting fun _ _ => trivial
    · apply Triple.modify_bind
      apply Triple.pure
      intro s hs
      rw [hs]
      refine .head hstart (.single ?_)
      show (c.proxyProfiles.recv >>= _) = _
      rw [hrecv]
      rfl
  have hstart : poolStep w call ⟨c, false⟩ .start = some (⟨c, false⟩, .raising) := by
    show some (_, if _ then _ else _) = _
    rw [if_neg hfull]
  apply Triple.get
  intro s hs
  rw [hs]
  apply Triple.modify_bind
  refine Triple.bind (retryPost_alone c.addr 1 _) fun (reply, err) => Triple.for_each fun s hs => ?_
  have hsteps : ∀ stage, answered w c.addr 0 reply err = some stage →
      Steps w call (⟨c, false⟩, .start) (⟨s, false⟩, stage) := by
    intro stage hstage
    exact .head hstart (.head rfl (hs stage hstage))
  have hanswered : answered w c.addr 0 reply err =
      if err.isSome ∨ reply = [] then some .failed
      else
        match recvMsg w.unmarshal reply with
        | none => none
        | some (_, false) => some .failed
        | some (obj, true) =>
            match w.profile obj with
            | none => some .failed
            | some conf => some (.received (conf.at (wrapIPPort w.parseUrl (wrap w.parseUrl c.addr)))) := by
    unfold answered
    rw [if_neg fun h => h.2 rfl]
  rw [hanswered] at hsteps
  refine Triple.ite (fun hreply => ?_) fun hreply => ?_
  · rw [if_pos hreply] at hsteps
    exact failed_alone (hsteps _ rfl)
  rw [if_neg hreply] at hsteps
  rcases hmsg : recvMsg w.unmarshal reply with _ | ⟨obj, _ | _⟩
  · exact Triple.panic
  · rw [hmsg] at hsteps
    exact failed_alone (hsteps _ rfl)
  · rw [hmsg] at hsteps
    dsimp only at hsteps ⊢
    rcases hprofile : w.profile obj with _ | conf
    · rw [hprofile] at hsteps
      exact failed_alone (hsteps _ rfl)
    · rw [hprofile] at hsteps
      apply Triple.modify_bind
      apply Triple.pure
      intro s' hs'
      rw [hs', ← id_at conf (wrapIPPort w.parseUrl (wrap w.parseUrl c.addr))]
      exact (hsteps _ rfl).tail rfl

/-- **A call that runs alone does what the method does.** -/
theorem rebuildSmux_alone {no : Nat} {c c' : ClientControl} {err : Option RebuildErr} {conf : Option ProtocolConfig}
    (h : rebuildSmux w no c = .ok ((err, conf), c')) :
    Steps w (.rebuildSmux no) (⟨c, false⟩, .start) (⟨c', false⟩, .returned err conf) := by
  have hrun : Triple True (fun s => s = c) (rebuildSmux w no) fun r s =>
      Steps w (.rebuildSmux no) (⟨c, false⟩, .start) (⟨s, false⟩, .returned r.1 r.2) := by
    apply Triple.bind (@getAviableProxy_alone w (.rebuildSmux no) c)
    intro conf
    cases conf with
    | none =>
      apply Triple.pure
      intro s hs
      exact hs
    | some conf =>
      refine Triple.bind (Q := fun _ s => Steps w (.rebuildSmux no) (⟨c, false⟩, .start) (⟨s, false⟩, .connecting conf))
        (Triple.for_each fun c₁ hc₁ => ?_) fun _ => Triple.for_each fun c₁ hc₁ => ?_
      · apply Triple.get
        intro s hs
        rw [hs]
        rcases hsend : c₁.proxyProfiles.send conf with _ | ch
        · exact Triple.waiting fun _ _ => trivial
        · apply Triple.modify
          intro s hs
          rw [hs]
          refine hc₁.tail ?_
          simp only [PoolCall.got, poolStep]
          rw [hsend]
          rfl
      · apply Triple.bind (Triple.outcome c₁)
        intro err
        apply Triple.pure
        intro s hconnect
        refine hc₁.tail ?_
        simp only [poolStep]
        rw [hconnect]
        rfl
  exact hrun.returns rfl h

end Alone

/-! ### Runs -/

/-- The queued profiles and those the calls hold are all counted, and there are no more than `confNum`. -/
structure Counted (s : Threads Locked Caller) : Prop where
  cap : s.shared.control.proxyProfiles.cap = s.shared.control.confNum
  account : (s.shared.control.proxyProfiles.items.length + total (fun t => t.stage.holds) s.threads : Int) ≤
    s.shared.control.initProfiles
  bounded : Bounded s

theorem counted_afterInit (c : ClientControl) : Counted (afterInit c) :=
  ⟨rfl, le_rfl, Int.natCast_nonneg _, nofun⟩

variable {w : World} {s s' : Threads Locked Caller}

theorem crowd_step {k : Nat} (h : (crowd w).step? s (.step k ()) = some s') :
    ∃ t shared stage, s.threads[k]? = some t ∧ poolStep w t.call s.shared t.stage = some (shared, stage) ∧
      s' = ⟨shared, s.threads.set k ⟨t.call, stage⟩⟩ := by
  obtain ⟨t, shared, t', new, ht, hnext, rfl⟩ := Program.step?_step.mp h
  obtain ⟨⟨shared', stage⟩, hstep, hnext⟩ := Option.bind_eq_some_iff.mp hnext
  cases hnext
  exact ⟨t, shared, stage, ht, hstep, by rw [List.append_nil]⟩

/-- A step that raises no counter at its bound keeps all profiles counted. -/
theorem Counted.step {a : Act PoolCall Unit} (hs : Counted s) (h : (crowd w).step? s a = some s')
    (hraises : RaisesBelow s a) : Counted s' := by
  cases a with
  | call call =>
    obtain rfl := Program.step?_call.mp h
    refine ⟨hs.cap, ?_, hs.bounded.1, each_append hs.bounded.2 ?_⟩
    · rw [total_append]
      exact hs.account
    · intro t ht
      obtain rfl := List.mem_singleton.mp ht
      nofun
  | step k o =>
    obtain ⟨t, shared, stage, ht, hstep, rfl⟩ := crowd_step h
    have hmoves := poolStep_moves hstep
    have htotal := total_set (fun t => t.stage.holds) ht ⟨t.call, stage⟩
    have hone := weight_le_total (fun t => t.stage.holds) ht
    have haccount := hs.account
    have hmoved := hmoves.account
    have hbound := hs.bounded.1
    dsimp only at htotal hone
    refine ⟨?_, ?_, ?_, each_set hs.bounded.2 ?_⟩
    · rw [hmoves.cap, hs.cap, hmoves.confNum]
    · dsimp only
      omega
    · show shared.control.initProfiles ≤ shared.control.confNum
      rw [hmoves.confNum]
      by_cases hraising : t.stage = .raising
      · have := hraises k t rfl ht hraising
        rw [hmoves.raises hraising]
        omega
      · exact (hmoves.lowers hraising).trans hbound
    · -- a call that finds the channel full holds one profile more than there is room for
      intro conf hblocked
      obtain ⟨hholds, hfull⟩ := hmoves.full conf hblocked
      have hcap := hs.cap
      omega

/-- A step that raises the counter at its bound takes it beyond. -/
theorem not_bounded_raise {a : Act PoolCall Unit} (h : (crowd w).step? s a = some s')
    (hbounded : Bounded s') : RaisesBelow s a := by
  rintro k t rfl ht hraising
  obtain ⟨t', shared, stage, ht', hstep, rfl⟩ := crowd_step h
  obtain rfl : t' = t := Option.some.inj (ht'.symm.trans ht)
  have hmoves := poolStep_moves hstep
  have hbound : shared.control.initProfiles ≤ shared.control.confNum := hbounded.1
  rw [hmoves.raises hraising, hmoves.confNum] at hbound
  omega

/-- **The pool keeps its bound in every state of a run, and no push finds the channel full, exactly if the
counter is below `confNum` whenever it is raised.** -/
theorem crowd_bounded_iff (w : World) (c : ClientControl) (acts : List (Act PoolCall Unit)) :
    AllSteps (crowd w).step? (fun _ _ s' => Bounded s') acts (afterInit c) ↔
      AllSteps (crowd w).step? (fun s a _ => RaisesBelow s a) acts (afterInit c) := by
  symm
  apply allSteps_iff (I := Counted) _ _ (counted_afterInit c)
  · intro s a s' hs h
    constructor
    · intro hraises
      exact (hs.step h hraises).bounded
    · intro hbounded
      exact not_bounded_raise h hbounded
  · intro s a s' hs h hraises
    exact hs.step h hraises

/-- Two calls that read the counter before one of them raises it, up to the second push. -/
def overfill : List (Act PoolCall Unit) :=
  [.call (.rebuildSmux 0), .call (.rebuildSmux 1)] ++ [0, 1, 0, 1, 0, 1, 0, 1, 0, 1].map (.step · ())

/-- With one profile to keep, both raise the counter. The second waits for room with the lock held. -/
theorem not_bounded_overfill :
    ∃ s, runAll (crowd handsOut).step? overfill (afterInit (newClientControll handsOut sampleAddr 1 false)) = some s ∧
      s.shared.control.confNum = 1 ∧ s.shared.control.initProfiles = 2 ∧ s.shared.locked = true ∧
      s.shared.control.proxyProfiles.items.length = s.shared.control.proxyProfiles.cap ∧ ¬Bounded s := by
  refine ⟨_, rfl, rfl, rfl, rfl, rfl, fun h => ?_⟩
  exact absurd h.1 (by decide)

end ProxyZ.Client
