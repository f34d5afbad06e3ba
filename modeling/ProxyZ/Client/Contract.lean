import ProxyZ.Client.Control

/-!
# What the methods leave alone

Building a session changes the slots and nothing of the pool and the error records (`SameBooks`). So an
invariant of these (`Stable`) is kept by every method once it is kept by the two methods that touch the
pool, `getAviableProxy` and `pushProfile`: that is a `PoolContract`, and `rebuildSmux`, `fixBuildSmux`,
`getSession` and `initializationTunnels` follow from it.
-/

namespace ProxyZ.Client

open Go ProxyZ.Control Method

/-- A question about a session. -/
def Event.IsSession : Event → Prop
  | .dial _ | .isClosed | .openStream | .goroutines => True
  | _ => False

/-- `c'` has the pool and the error records of `c`. -/
structure SameBooks (c c' : ClientControl) : Prop where
  proxyProfiles : c'.proxyProfiles = c.proxyProfiles
  initProfiles : c'.initProfiles = c.initProfiles
  confNum : c'.confNum = c.confNum
  errorid : c'.errorid = c.errorid
  reportingMark : c'.reportingMark = c.reportingMark
  errCount : c'.errCount = c.errCount
  routeErrCount : c'.routeErrCount = c.routeErrCount
  addr : c'.addr = c.addr
  trace : ∃ new : List Event, c'.trace = new ++ c.trace ∧ ∀ e ∈ new, e.IsSession

/-- An invariant of the pool and the error records. -/
def Stable (I : ClientControl → Prop) : Prop := ∀ c c', SameBooks c c' → I c → I c'

section Sessions

variable {I : ClientControl → Prop} {wait : Prop} {w : World}

theorem SameBooks.refl (c : ClientControl) : SameBooks c c :=
  ⟨rfl, rfl, rfl, rfl, rfl, rfl, rfl, rfl, [], rfl, by simp⟩

theorem SameBooks.sessions (c : ClientControl) (slots : List (Option Nat)) (built : List SmuxClient) :
    SameBooks c { c with smuxClients := slots, built := built } :=
  ⟨rfl, rfl, rfl, rfl, rfl, rfl, rfl, rfl, [], rfl, by simp⟩

theorem SameBooks.rest (c : ClientControl) (lastUse : Int) (inited : Bool) (loc : Str) :
    SameBooks c { c with lastUse := lastUse, inited := inited, loc := loc } :=
  ⟨rfl, rfl, rfl, rfl, rfl, rfl, rfl, rfl, [], rfl, by simp⟩

/-- What asking about a session and closing it do to an invariant. -/
structure FlagContract (wait : Prop) (I : ClientControl → Prop) : Prop where
  emit : ∀ e : Event, e.IsSession → Triple wait I (emit e) fun _ => I
  setClosed : ∀ i closed, Triple wait I (modify fun c =>
    { c with built := c.built.modify i fun e => { e with closed := closed } } : Call Unit) fun _ => I

/-- A session as `RebuildSmux` builds it. -/
structure Faithful (e : SmuxClient) : Prop where
  quic : e.quic = true ↔ e.conf.proxyType = str "quic"
  eid : e.eid = if e.quic then e.conf.id else []

namespace FlagContract

theorem dial (hI : FlagContract wait I) (conf : ProtocolConfig) : Triple wait I (dial w conf) fun _ => I :=
  Triple.get fun _ hc => (Triple.bind (hI.emit (.dial conf) trivial) fun _ => Triple.pure fun _ h => h).of_state hc

theorem openStream (hI : FlagContract wait I) : Triple wait I (openStream w) fun _ => I :=
  Triple.get fun _ hc => (Triple.bind (hI.emit .openStream trivial) fun _ => Triple.pure fun _ h => h).of_state hc

theorem isClosed (hI : FlagContract wait I) (e : SmuxClient) : Triple wait I (isClosed w e) fun _ => I := by
  refine Triple.ite (fun _ => Triple.pure fun _ h => h) fun _ => Triple.get fun c hc => ?_
  exact Triple.bind ((hI.emit .isClosed trivial).of_state hc) fun _ => Triple.pure fun _ h => h

theorem closeSlot (hI : FlagContract wait I) (no : Nat) : Triple wait I (closeSlot no) fun _ => I := by
  apply Triple.get
  intro c hc
  rcases c.smuxClients[no]? with _ | _ | i
  · exact Triple.panic
  · exact (Triple.pure fun _ h => h).of_state hc
  · exact (hI.setClosed i true).of_state hc

theorem connect (hI : FlagContract wait I) {no : Nat}
    (hset : ∀ e, Faithful e → Triple wait I (setSlot no e) fun _ => I) (conf : ProtocolConfig) :
    Triple wait I (connect w no conf) fun _ => I := by
  refine Triple.ite (fun hquic => ?_) fun hquic => ?_
  · refine Triple.bind (hI.closeSlot no) fun _ => Triple.bind (hI.dial conf) fun err => ?_
    cases err with
    | some e => exact Triple.pure fun _ h => h
    | none => exact Triple.bind (hset _ ⟨by simpa using hquic, rfl⟩) fun _ => Triple.pure fun _ h => h
  · apply Triple.bind (hI.dial conf)
    intro err
    cases err with
    | some e => exact Triple.pure fun _ h => h
    | none =>
      exact Triple.bind (hI.closeSlot no) fun _ =>
        Triple.bind (hset _ ⟨by simpa using hquic, rfl⟩) fun _ => Triple.pure fun _ h => h

theorem smuxConnect (hI : FlagContract wait I) (i : Nat) (e : SmuxClient) :
    Triple wait I (smuxConnect w i e) fun _ => I := by
  refine Triple.get fun c hc => Triple.bind ((hI.emit .isClosed trivial).of_state hc) fun _ => ?_
  refine Triple.ite (fun _ => Triple.pure fun _ h => h) fun _ => Triple.bind hI.openStream fun err => ?_
  cases err with
  | none => exact Triple.pure fun _ h => h
  | some err =>
    refine Triple.bind (hI.setClosed i false) fun _ => Triple.get fun c' hc' => ?_
    apply Triple.bind ((hI.emit .isClosed trivial).of_state hc')
    intro _
    refine Triple.ite (fun _ => Triple.panic) fun _ => Triple.bind hI.openStream fun err => ?_
    cases err <;> exact Triple.pure fun _ h => h

theorem quicConnect (hI : FlagContract wait I) (i : Nat) (e : SmuxClient) :
    Triple wait I (quicConnect w i e) fun _ => I := by
  refine Triple.ite (fun _ => Triple.pure fun _ h => h) fun _ => Triple.bind hI.openStream fun err => ?_
  cases err with
  | none => exact Triple.pure fun _ h => h
  | some err =>
    apply Triple.bind (hI.dial e.conf)
    intro err
    cases err with
    | some err => exact Triple.bind (hI.setClosed i true) fun _ => Triple.pure fun _ h => h
    | none =>
      apply Triple.bind hI.openStream
      intro err
      cases err <;> exact Triple.pure fun _ h => h

theorem newConnnect (hI : FlagContract wait I) (i : Nat) : Triple wait I (newConnnect w i) fun _ => I := by
  apply Triple.get
  intro c hc
  rcases c.built[i]? with _ | e
  · exact Triple.panic
  · exact Triple.ite (fun _ => (hI.quicConnect i e).of_state hc) fun _ => (hI.smuxConnect i e).of_state hc

end FlagContract

theorem Stable.flags (hI : Stable I) : FlagContract wait I where
  emit e he := Triple.modify fun c hc =>
    hI c _ ⟨rfl, rfl, rfl, rfl, rfl, rfl, rfl, rfl, [e], rfl, by simpa using he⟩ hc
  setClosed _ _ := Triple.modify fun c hc => hI c _ (SameBooks.sessions c c.smuxClients _) hc

theorem Stable.connect (hI : Stable I) (no : Nat) (conf : ProtocolConfig) :
    Triple wait I (connect w no conf) fun _ => I :=
  hI.flags.connect (fun _ _ => Triple.modify fun c hc => hI c _ (SameBooks.sessions c _ _) hc) conf

theorem Stable.dropSlot (hI : Stable I) (no : Nat) : Triple wait I (dropSlot no) fun _ => I :=
  Triple.bind (hI.flags.closeSlot no) fun _ => Triple.modify fun c hc => hI c _ (SameBooks.sessions c _ c.built) hc

end Sessions

/-! ### What the control server sends -/

/-- The profile in a reply. -/
def answer (w : World) (reply : Str) : Option ProtocolConfig :=
  if reply = [] then none
  else
    match recvMsg w.unmarshal reply with
    | some (obj, true) => w.profile obj
    | _ => none

theorem id_at (conf : ProtocolConfig) (server : Str) : (conf.at server).id = conf.id := by
  unfold ProtocolConfig.at
  split_ifs <;> rfl

theorem answer_of_recvMsg {w : World} {reply : Str} {msg : Json × Bool} (hreply : reply ≠ [])
    (hmsg : recvMsg w.unmarshal reply = some msg) : answer w reply = if msg.2 then w.profile msg.1 else none := by
  unfold answer
  rw [if_neg hreply, hmsg]
  rcases msg with ⟨obj, _ | _⟩ <;> rfl

/-- The profile `GetAviableProxy` is answered with where it asks as the `n`-th question, and the number of
the next question. -/
def fetched (w : World) (req : Request) (n : Nat) : Option ProtocolConfig × Nat :=
  if (w.post n req).2.isSome then
    (if (w.post (n + 1) req).2.isSome then none else answer w (w.post (n + 1) req).1, n + 2)
  else (answer w (w.post n req).1, n + 1)

section Requests

variable {wait : Prop} {w : World}

theorem httpsPost_spec (req : Request) (c : ClientControl) :
    Triple wait (fun s => s = c) (httpsPost w req) fun r s =>
      r = w.post c.trace.length req ∧ s = { c with trace := .post req r.1 r.2 :: c.trace } := by
  intro s hs
  subst hs
  exact ⟨rfl, rfl⟩

/-- The two tries of a request: the last answer is recorded last, and is the one `fetched` foretells. -/
theorem retryPost_spec (req : Request) (c : ClientControl) :
    Triple wait (fun s => s = c) (retryPost w req 1) fun r s =>
      (∃ more, s = { c with trace := .post req r.1 r.2 :: (more ++ c.trace) }) ∧
        fetched w req c.trace.length = (if r.2.isSome then none else answer w r.1, s.trace.length) := by
  refine Triple.bind (httpsPost_spec req c) fun (reply, err) => Triple.ite (fun herr => ?_) fun herr => ?_
  · refine Triple.for_each fun s hs => (httpsPost_spec req s).post ?_
    rintro r s' ⟨hr, rfl⟩
    have hlength : s.trace.length = c.trace.length + 1 := by rw [hs.2]; rfl
    rw [hlength] at hr
    unfold fetched
    rw [← hs.1, if_pos herr, ← hr]
    exact ⟨⟨[_], by rw [hs.2]; rfl⟩, by rw [List.length_cons, hlength]⟩
  · apply Triple.pure
    intro s hs
    unfold fetched
    rw [← hs.1, if_neg herr, if_neg herr]
    exact ⟨⟨[], hs.2⟩, by rw [hs.2]; rfl⟩

/-- What `GetAviableProxy` can do: take a profile out of the pool, get none from the control server, or get
one and count it. -/
inductive Obtained (w : World) (tp : Option Str) (c : ClientControl) : Option ProtocolConfig → ClientControl → Prop
  | queued (conf : ProtocolConfig) (ch : Chan ProtocolConfig) :
      c.confNum ≤ c.initProfiles → c.proxyProfiles.recv = some (conf, ch) →
      Obtained w tp c (some conf) { c with proxyProfiles := ch }
  | failed (new : List Event) :
      c.initProfiles < c.confNum →
      fetched w (proxyGet w c.addr tp) c.trace.length = (none, (new ++ c.trace).length) →
      Obtained w tp c none { c with routeErrCount := c.routeErrCount + 1, trace := new ++ c.trace }
  | fetched (conf : ProtocolConfig) (server reply : Str) (more : List Event) :
      c.initProfiles < c.confNum → answer w reply = some conf →
      (fetched w (proxyGet w c.addr tp) c.trace.length).1 = some conf →
      Obtained w tp c (some (conf.at server))
        { c with
          initProfiles := c.initProfiles + 1
          errorid := c.errorid.insert conf.id 0
          trace := .post (proxyGet w c.addr tp) reply none :: (more ++ c.trace) }

/-- `GetAviableProxy` waits only on an empty pool with a full count. -/
theorem getAviableProxy_spec (tp : Option Str) (c : ClientControl) :
    Triple (c.confNum ≤ c.initProfiles ∧ c.proxyProfiles.items = []) (fun s => s = c) (getAviableProxy w tp)
      (Obtained w tp c) := by
  apply Triple.get
  intro s hs
  rw [hs]
  refine Triple.ite (fun hfull => ?_) fun hfull => ?_
  · rcases hrecv : c.proxyProfiles.recv with _ | ⟨conf, ch⟩
    · exact Triple.waiting fun _ _ => ⟨hfull, Chan.recv_eq_none.mp hrecv⟩
    · apply Triple.modify_bind
      apply Triple.pure
      intro s hs
      rw [hs]
      exact .queued conf ch hfull hrecv
  have hroom : c.initProfiles < c.confNum := not_le.mp hfull
  apply Triple.get
  intro s hs
  rw [hs]
  apply Triple.modify_bind
  refine Triple.bind (retryPost_spec _ _) fun (reply, err) => Triple.for_each fun s hs => ?_
  obtain ⟨⟨more, hs⟩, hfetched⟩ := hs
  dsimp only at hs hfetched
  have hfail : (if err.isSome then none else answer w reply) = none →
      Triple (c.confNum ≤ c.initProfiles ∧ c.proxyProfiles.items = []) (fun t => t = s) noProxy (Obtained w tp c) := by
    intro hnone
    refine Triple.bind (Q := fun _ t => t = { c with
        routeErrCount := c.routeErrCount + 1, trace := .post (proxyGet w c.addr tp) reply err :: more ++ c.trace })
      (Triple.modify fun t ht => ?_) fun _ => Triple.pure fun t ht => ?_
    · rw [ht, hs]
      simp
    · rw [ht]
      refine .failed _ hroom ?_
      rw [hfetched, hnone, hs]
      simp
  refine Triple.ite (fun hreply => hfail ?_) fun hreply => ?_
  · rcases hreply with herr | hempty
    · rw [if_pos herr]
    · unfold answer
      rw [if_pos hempty, ite_self]
  rw [not_or, Bool.not_eq_true, Option.isSome_eq_false_iff, Option.isNone_iff_eq_none] at hreply
  obtain ⟨rfl, hreply⟩ := hreply
  rcases hmsg : recvMsg w.unmarshal reply with _ | ⟨obj, _ | _⟩
  · exact Triple.panic
  · exact hfail (answer_of_recvMsg hreply hmsg)
  · have hanswer := answer_of_recvMsg hreply hmsg
    dsimp only at hanswer ⊢
    rcases hprofile : w.profile obj with _ | conf
    · exact hfail (hanswer.trans hprofile)
    · rw [if_pos rfl, hprofile] at hanswer
      refine Triple.bind (Q := fun _ t => t = { c with
          initProfiles := c.initProfiles + 1
          errorid := c.errorid.insert conf.id 0
          trace := .post (proxyGet w c.addr tp) reply none :: (more ++ c.trace) })
        (Triple.modify fun t ht => by rw [ht, hs]) fun _ => Triple.pure fun t ht => ?_
      rw [ht]
      refine .fetched conf _ reply more hroom hanswer ?_
      rw [hfetched]
      exact hanswer

/-- What the request of `ErrSoGetNew` does: it counts route errors, and where it brings no profile the
recorded answer holds none. -/
inductive Asked (w : World) (id : Str) (c : ClientControl) : Option ProtocolConfig → ClientControl → Prop
  | lost (reply : Str) (err : Option Err) (errs : Int) : 0 ≤ errs → answer w reply = none →
      Asked w id c none { c with
        routeErrCount := c.routeErrCount + errs
        trace := .post (proxyErr w c.addr id) reply err :: c.trace }
  | answered (conf : ProtocolConfig) (reply : Str) (err : Option Err) (errs : Int) : 0 ≤ errs →
      answer w reply = some conf →
      ∀ server, Asked w id c (some (conf.at server)) { c with
        routeErrCount := c.routeErrCount + errs
        trace := .post (proxyErr w c.addr id) reply err :: c.trace }

theorem askReplacement_spec (id : Str) (c : ClientControl) :
    Triple wait (fun s => s = c) (askReplacement w id) (Asked w id c) := by
  apply Triple.get
  intro s hs
  rw [hs]
  refine Triple.bind (httpsPost_spec _ _) fun (reply, err) => ?_
  refine Triple.bind (Q := fun _ s => ∃ errs : Int, 0 ≤ errs ∧ s = { c with
      routeErrCount := c.routeErrCount + errs
      trace := .post (proxyErr w c.addr id) reply err :: c.trace }) ?_ fun _ => ?_
  · refine Triple.ite (fun _ => Triple.modify fun s hs => ⟨1, zero_le_one, by rw [hs.2]⟩) fun _ =>
      Triple.pure fun s hs => ⟨0, le_rfl, by rw [hs.2, add_zero]⟩
  apply Triple.for_each
  intro s hs
  obtain ⟨errs, herrs, rfl⟩ := hs
  refine Triple.ite (fun hreply => ?_) fun hreply => ?_
  · refine Triple.bind (Q := fun _ s => s = { c with
        routeErrCount := c.routeErrCount + (errs + 1)
        trace := .post (proxyErr w c.addr id) reply err :: c.trace }) (Triple.modify fun s hs => ?_) fun _ =>
      Triple.pure fun s hs => ?_
    · rw [hs, ← add_assoc]
    · rw [hs]
      exact .lost reply err _ (by omega) (if_pos hreply)
  · rcases hmsg : recvMsg w.unmarshal reply with _ | ⟨obj, _ | _⟩
    · exact Triple.panic
    · apply Triple.pure
      intro s hs
      rw [hs]
      exact .lost reply err errs herrs (answer_of_recvMsg hreply hmsg)
    · apply Triple.pure
      intro s hs
      have hanswer : answer w reply = w.profile obj := answer_of_recvMsg hreply hmsg
      rw [hs]
      rcases hprofile : w.profile obj with _ | conf
      · exact .lost reply err errs herrs (hanswer.trans hprofile)
      · exact .answered conf reply err errs herrs (hanswer.trans hprofile) _

theorem rangeErrorid_spec (c : ClientControl) :
    Triple wait (fun s => s = c) (rangeErrorid w) fun entries s =>
      entries = w.range c.trace.length c.errorid.pairs ∧ s = { c with trace := .range :: c.trace } := by
  intro s hs
  subst hs
  exact ⟨rfl, rfl⟩

end Requests

/-! ### The pool -/

/-- What the methods that build and open sessions are made of, all keeping the invariant `I`. -/
structure SessionContract (wait : Prop) (w : World) (I : ClientControl → Prop) : Prop where
  rebuildSmux : ∀ no, Triple wait I (rebuildSmux w no) fun _ => I
  isClosed : ∀ e, Triple wait I (isClosed w e) fun _ => I
  newConnnect : ∀ i, Triple wait I (newConnnect w i) fun _ => I
  goroutines : Triple wait I (emit .goroutines) fun _ => I
  use : ∀ c, c.clientNum ≠ 0 → I c → I { c with lastUse := (c.lastUse + 1).tmod c.clientNum }
  inited : ∀ c loc, I c → I { c with inited := true, loc := loc }

namespace SessionContract

variable {I : ClientControl → Prop} {wait : Prop} {w : World}

theorem fixBuildSmux (hI : SessionContract wait w I) (errid : Str) :
    Triple wait I (fixBuildSmux w errid) fun _ => I := by
  refine Triple.get fun c hc => (Triple.forM (fun no => ?_) _).of_state hc
  apply Triple.get
  intro c hc
  rcases (c.smuxClients[no]?).join.bind (c.built[·]?) with _ | e
  · exact (Triple.pure fun _ h => h).of_state hc
  · exact (Triple.ite (fun _ => (hI.rebuildSmux no).discard) fun _ => Triple.pure fun _ h => h).of_state hc

theorem buildSlot (hI : SessionContract wait w I) (no tries : Nat) (id proxyType : Str) :
    Triple wait I (buildSlot w no tries id proxyType) fun _ => I := by
  induction tries generalizing id proxyType with
  | zero => exact Triple.pure fun _ h => h
  | succ tries ih =>
    refine Triple.bind (hI.rebuildSmux no) fun (err, conf) => ?_
    cases err with
    | none => exact Triple.get fun c hc => (Triple.pure fun _ h => h).of_state hc
    | some err => exact Triple.ite (fun _ => Triple.pure fun _ h => h) fun _ => ih _ _

theorem openSession (hI : SessionContract wait w I) (no i : Nat) (id proxyType : Str) :
    Triple wait I (openSession w no i id proxyType) fun _ => I := by
  apply Triple.get
  intro c hc
  rcases c.built[i]? with _ | e
  · exact Triple.panic
  apply Triple.bind ((hI.isClosed e).of_state hc)
  intro closed
  refine Triple.ite (fun _ => ?_) fun _ => ?_
  · refine Triple.bind (hI.rebuildSmux no) fun (err, conf) => ?_
    cases err with
    | some err => exact Triple.pure fun _ h => h
    | none => exact Triple.bind (hI.newConnnect i) fun _ => Triple.pure fun _ h => h
  · exact Triple.bind (hI.newConnnect i) fun _ => Triple.pure fun _ h => h

theorem getSession (hI : SessionContract wait w I) :
    Triple wait I (getSession w) fun _ => I := by
  refine Triple.get fun c hc => Triple.ite (fun _ => Triple.panic) fun hnum => ?_
  refine Triple.bind (Q := fun _ => I) (Triple.modify ?_) fun _ => ?_
  · intro s hs
    rw [hs]
    exact hI.use c hnum hc
  apply Triple.get
  intro c hc
  dsimp only
  rcases c.smuxClients[c.lastUse.toNat]? with _ | _ | i
  · exact Triple.panic
  · refine Triple.bind ((hI.buildSlot _ 2 [] []).of_state hc) fun (err, id, proxyType) => ?_
    cases err with
    | some err => exact Triple.pure fun _ h => h
    | none =>
      apply Triple.get
      intro c' hc'
      rcases (c'.smuxClients[c.lastUse.toNat]?).join with _ | i
      · exact (Triple.pure fun _ h => h).of_state hc'
      · exact (hI.openSession _ i id proxyType).of_state hc'
  · exact (hI.openSession _ i [] []).of_state hc

theorem buildChannels (hI : SessionContract wait w I) (channels : List Nat) (errnum : Nat) :
    Triple wait I (buildChannels w channels errnum) fun _ => I := by
  induction channels generalizing errnum with
  | nil => exact Triple.pure fun _ h => h
  | cons no channels ih =>
    refine Triple.bind (hI.rebuildSmux no) fun (err, conf) => ?_
    rcases err with _ | _ | _ | _
    all_goals exact ih _

theorem initializationTunnels (hI : SessionContract wait w I) :
    Triple wait I (initializationTunnels w) fun _ => I := by
  apply Triple.get
  intro c hc
  apply Triple.bind (hI.goroutines.of_state hc)
  intro _
  apply Triple.bind (hI.buildChannels _ 0)
  intro errnum
  exact Triple.bind (Triple.modify fun c hc => hI.inited c _ hc) fun _ => Triple.pure fun _ h => h

end SessionContract

/-- What the two methods of the pool do to an invariant `I`: `J conf` holds while the profile `conf` is
out of the pool. -/
structure PoolContract (wait : Prop) (w : World) (I : ClientControl → Prop)
    (J : ProtocolConfig → ClientControl → Prop) : Prop where
  stable : Stable I
  get : ∀ tp, Triple wait I (getAviableProxy w tp) fun r s =>
    match r with
    | none => I s
    | some conf => J conf s
  push : ∀ conf, Triple wait (J conf) (pushProfile conf) fun _ => I

namespace PoolContract

variable {I : ClientControl → Prop} {J : ProtocolConfig → ClientControl → Prop} {wait : Prop} {w : World}

theorem rebuildSmux (hI : PoolContract wait w I J) (no : Nat) : Triple wait I (rebuildSmux w no) fun _ => I := by
  apply Triple.bind (hI.get _)
  intro conf
  cases conf with
  | none => exact Triple.pure fun _ h => h
  | some conf =>
    exact Triple.bind (hI.push conf) fun _ => Triple.bind (hI.stable.connect no conf) fun _ =>
      Triple.pure fun _ h => h

theorem sessions (hI : PoolContract wait w I J) : SessionContract wait w I where
  rebuildSmux := hI.rebuildSmux
  isClosed := hI.stable.flags.isClosed
  newConnnect := hI.stable.flags.newConnnect
  goroutines := hI.stable.flags.emit .goroutines trivial
  use c _ hc := hI.stable c _ (SameBooks.rest c _ _ _) hc
  inited c _ hc := hI.stable c _ (SameBooks.rest c _ _ _) hc

end PoolContract

/-! ### A world to run in -/

/-- The control server's reply with a profile of the given ID. -/
def okReply (id : String) : Str :=
  str "\x7b\"msg\":\x7b\"id\":\"" ++ str id ++
    str "\",\"proxy-type\":\"tls\",\"server\":\"192.0.2.7\"\x7d,\"status\":\"ok\"\x7d"

def okFields (id : String) : Fields :=
  [(str "msg", .obj [(str "id", .str (str id)), (str "proxy-type", .str (str "tls")), (str "server", .str (str "192.0.2.7"))]),
    (str "status", .str (str "ok"))]

/-- A world with the given answers, two profiles to hand out, dials that succeed and maps that are ranged
over in the order of their entries. -/
def sampleWorld (post : Nat → Request → Str × Option Err) : World where
  post := post
  unmarshal := fun s =>
    if s = okReply "a" then some (okFields "a") else if s = okReply "b" then some (okFields "b") else none
  profile := fun obj =>
    match obj with
    | .obj [(_, .str id), (_, .str proxyType), (_, server)] => some { id, server, proxyType }
    | _ => none
  dial := fun _ _ => none
  isClosed := fun _ => false
  openStream := fun _ => none
  newRoute := fun _ => []
  parseUrl := fun _ => .ok ⟨str "https", str "192.0.2.1:55443", str "55443"⟩
  range := fun _ l => l
  range_perm := fun _ _ => .refl _
  goroutines := fun _ l => l
  goroutines_perm := fun _ _ => .refl _

def sampleAddr : Str := str "https://192.0.2.1:55443"

/-- A control server that hands out the profile `a`. -/
def handsOut : World := sampleWorld fun _ _ => (okReply "a", none)

/-- The state after a call that needs no fuel. -/
def after (w : World) (op : Op) (c : ClientControl) : ClientControl :=
  match exec w 0 op c with
  | .ok (_, c') => c'
  | .error _ => c

end ProxyZ.Client
