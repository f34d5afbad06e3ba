import ProxyZ.Go.Dict
import ProxyZ.Go.Stream

/-!
# The accept loops

`AcceptHandle` of the TLS, the KCP and the QUIC server runs one loop: it looks at the ticker and at the flag
that `TryClose` sets, and then waits in `Accept` for the next connection and hands it to the handler. The
three differ in what an error of the listener does.

Neither the ticker nor the flag leaves the loop: both `break`s leave the `select` only. So the loop goes on to
accept whatever they say (`run?_filter`), and a deleted tunnel has stopped accepting exactly if its listener
has failed before (`stops_iff`).
-/

namespace ProxyZ.Tunnel

open Go

/-- What distinguishes the three loops: what opening the listener returns, whether an error there is returned
at once, the error for a listener that is not there, and whether an error of `Accept` closes the listener. -/
structure AcceptServer where
  listen : Option Err
  returnsListenErr : Bool
  noListener : Str
  closesListener : Bool

def tlsServer (listen : Option Err) : AcceptServer where
  listen := listen
  returnsListenErr := false
  noListener := str "listenre is closed"
  closesListener := true

def kcpServer (listen : Option Err) : AcceptServer where
  listen := listen
  returnsListenErr := false
  noListener := str "listener is closed!"
  closesListener := true

def quicServer (listen : Option Err) : AcceptServer where
  listen := listen
  returnsListenErr := true
  noListener := str "listener is closed!"
  closesListener := false

/-- Where the loop is: before its `select`, waiting in `Accept`, or returned. -/
inductive Loc
  | select
  | accept
  | left (err : Err)
  deriving DecidableEq, Repr

/-- A server while `AcceptHandle` runs. The ticker's channel holds one value; `fired` says whether the ticker
has fired so far. -/
structure AcceptState where
  loc : Loc := .select
  zeroToDel : Bool := false
  ticker : Bool := false
  fired : Bool := false
  listenerClosed : Bool := false
  ips : Dict Bool := ∅
  handed : List Str := []

/-- What happens in a run: the ticker fires, `TryClose` is called, the loop takes its `select` and its check
of the listener, or `Accept` returns, with the address of a connection or with an error. -/
inductive Action
  | tick
  | tryClose
  | select
  | accept (con : Except Err Str)

def AcceptServer.start (srv : AcceptServer) : AcceptState :=
  match srv.listen with
  | some err => if srv.returnsListenErr then { loc := .left err } else {}
  | none => {}

def tryClose (s : AcceptState) : AcceptState := { s with zeroToDel := true }

def record (con : Str) (s : AcceptState) : AcceptState :=
  if s.ips.has con then s else { s with ips := s.ips.insert con true }

/-- The `select` of the loop. A tick is received and leaves the `select`; otherwise the flag leaves it, or the
ticker is reset. All three go on behind it. -/
def selectTicker (s : AcceptState) : AcceptState :=
  if s.ticker then { s with ticker := false }
  else if s.zeroToDel then s
  else { s with ticker := false }

/-- A step of a run, `none` where the loop is elsewhere. -/
def AcceptServer.step? (srv : AcceptServer) (s : AcceptState) : Action → Option AcceptState
  | .tick => some { s with ticker := true, fired := true }
  | .tryClose => some (tryClose s)
  | .select =>
      if s.loc = .select then
        if srv.listen.isSome then some { selectTicker s with loc := .left (.text srv.noListener) }
        else some { selectTicker s with loc := .accept }
      else none
  | .accept (.error err) =>
      if s.loc = .accept then some { s with loc := .left err, listenerClosed := srv.closesListener } else none
  | .accept (.ok con) =>
      if s.loc = .accept then some { record con s with loc := .select, handed := s.handed ++ [con] } else none

def AcceptServer.run? (srv : AcceptServer) : List Action → AcceptState → Option AcceptState
  | [], s => some s
  | a :: rest, s => srv.step? s a >>= srv.run? rest

/-- The tunnel is deleted and its ticker has fired. -/
def AcceptState.Closing (s : AcceptState) : Prop := s.zeroToDel = true ∧ s.fired = true

/-- **A deleted tunnel stops accepting**: no run from here on hands over another connection. -/
def Stops (srv : AcceptServer) (s : AcceptState) : Prop :=
  s.Closing → ∀ acts s', srv.run? acts s = some s' → s'.handed = s.handed

/-- The listener was never open, or its `Accept` has returned an error. -/
def ListenerFailed (srv : AcceptServer) (acts : List Action) : Prop :=
  srv.listen ≠ none ∨ ∃ err, Action.accept (.error err) ∈ acts

section Steps

variable {srv : AcceptServer} {s s' : AcceptState} {a : Action} {acts : List Action}

@[simp] theorem handed_selectTicker (s : AcceptState) : (selectTicker s).handed = s.handed := by
  unfold selectTicker
  split_ifs <;> rfl

/-- What a step does to the loop and to the connections handed over. -/
theorem step?_cases (h : srv.step? s a = some s') :
    ((a = .tick ∨ a = .tryClose) ∧ s'.loc = s.loc ∧ s'.handed = s.handed) ∨
    (a = .select ∧ s.loc = .select ∧ s'.handed = s.handed ∧
      (s'.loc = .accept ∧ srv.listen = none ∨ s'.loc = .left (.text srv.noListener) ∧ srv.listen ≠ none)) ∨
    (∃ err, a = .accept (.error err) ∧ s.loc = .accept ∧ s'.loc = .left err ∧ s'.handed = s.handed) ∨
    ∃ con, a = .accept (.ok con) ∧ s.loc = .accept ∧ s'.loc = .select ∧ s'.handed = s.handed ++ [con] := by
  cases a with
  | tick =>
    cases h
    exact Or.inl ⟨Or.inl rfl, rfl, rfl⟩
  | tryClose =>
    cases h
    exact Or.inl ⟨Or.inr rfl, rfl, rfl⟩
  | select =>
    simp only [AcceptServer.step?] at h
    split_ifs at h with hloc hlisten
    · cases h
      exact Or.inr (Or.inl ⟨rfl, hloc, handed_selectTicker s, Or.inr ⟨rfl, Option.isSome_iff_ne_none.mp hlisten⟩⟩)
    · cases h
      exact Or.inr (Or.inl ⟨rfl, hloc, handed_selectTicker s, Or.inl ⟨rfl, by simpa using hlisten⟩⟩)
  | accept con =>
    cases con with
    | error err =>
      simp only [AcceptServer.step?] at h
      split_ifs at h with hloc
      cases h
      exact Or.inr (Or.inr (Or.inl ⟨err, rfl, hloc, rfl, rfl⟩))
    | ok con =>
      simp only [AcceptServer.step?] at h
      split_ifs at h with hloc
      cases h
      exact Or.inr (Or.inr (Or.inr ⟨con, rfl, hloc, rfl, rfl⟩))

/-- A loop that has been left hands over nothing more. -/
theorem run?_left {err : Err} (hleft : s.loc = .left err) (h : srv.run? acts s = some s') :
    s'.loc = .left err ∧ s'.handed = s.handed := by
  induction acts generalizing s with
  | nil =>
    cases h
    exact ⟨hleft, rfl⟩
  | cons a rest ih =>
    obtain ⟨m, hstep, hrest⟩ := Option.bind_eq_some_iff.mp h
    obtain ⟨-, hloc, hhanded⟩ | ⟨-, hloc, -⟩ | ⟨_, -, hloc, -⟩ | ⟨_, -, hloc, -⟩ := step?_cases hstep
    · obtain ⟨hloc', hhanded'⟩ := ih (hloc.trans hleft) hrest
      exact ⟨hloc', hhanded'.trans hhanded⟩
    all_goals
      rw [hleft] at hloc
      cases hloc

theorem run?_noListener (hlisten : srv.listen ≠ none) (hloc : s.loc ≠ .accept) (h : srv.run? acts s = some s') :
    s'.loc ≠ .accept ∧ s'.handed = s.handed := by
  induction acts generalizing s with
  | nil =>
    cases h
    exact ⟨hloc, rfl⟩
  | cons a rest ih =>
    obtain ⟨m, hstep, hrest⟩ := Option.bind_eq_some_iff.mp h
    obtain ⟨-, hm, hhanded⟩ | ⟨-, -, hhanded, hm⟩ | ⟨_, -, hat, -⟩ | ⟨_, -, hat, -⟩ := step?_cases hstep
    · obtain ⟨hloc', hhanded'⟩ := ih (by rw [hm]; exact hloc) hrest
      exact ⟨hloc', hhanded'.trans hhanded⟩
    · obtain ⟨hm, -⟩ := hm.resolve_left fun hl => hlisten hl.2
      obtain ⟨hloc', hhanded'⟩ := ih (by rw [hm]; exact nofun) hrest
      exact ⟨hloc', hhanded'.trans hhanded⟩
    all_goals exact absurd hat hloc

/-- With a listener the loop is left by an error of `Accept` and by nothing else. -/
theorem run?_listener (hlisten : srv.listen = none) (hloc : ∀ err, s.loc ≠ .left err)
    (h : srv.run? acts s = some s') :
    (∃ err, s'.loc = .left err) ↔ ∃ err, Action.accept (.error err) ∈ acts := by
  induction acts generalizing s with
  | nil =>
    cases h
    exact ⟨fun ⟨err, herr⟩ => absurd herr (hloc err), fun ⟨_, herr⟩ => absurd herr List.not_mem_nil⟩
  | cons a rest ih =>
    obtain ⟨m, hstep, hrest⟩ := Option.bind_eq_some_iff.mp h
    have hskip : (∀ err, a ≠ .accept (.error err)) →
        ((∃ err, Action.accept (.error err) ∈ a :: rest) ↔ ∃ err, Action.accept (.error err) ∈ rest) := by
      intro ha
      constructor
      · rintro ⟨err, herr⟩
        exact ⟨err, (List.mem_cons.mp herr).resolve_left (ha err).symm⟩
      · rintro ⟨err, herr⟩
        exact ⟨err, List.mem_cons_of_mem _ herr⟩
    obtain ⟨ha, hm, -⟩ | ⟨rfl, -, -, hm⟩ | ⟨err, rfl, -, hm, -⟩ | ⟨con, rfl, -, hm, -⟩ := step?_cases hstep
    · rw [hskip (by rintro err rfl; simp at ha)]
      exact ih (by rw [hm]; exact hloc) hrest
    · obtain ⟨hm, -⟩ := hm.resolve_right fun hl => hl.2 hlisten
      rw [hskip nofun]
      exact ih (by rw [hm]; exact nofun) hrest
    · obtain ⟨hleft, -⟩ := run?_left hm hrest
      exact ⟨fun _ => ⟨err, List.mem_cons_self⟩, fun _ => ⟨err, hleft⟩⟩
    · rw [hskip nofun]
      exact ih (by rw [hm]; exact nofun) hrest

/-- A loop with a listener that has not been left can always accept one more connection. -/
theorem exists_run?_accept (hlisten : srv.listen = none) (hloc : ∀ err, s.loc ≠ .left err) (con : Str) :
    ∃ acts s', srv.run? acts s = some s' ∧ s'.handed = s.handed ++ [con] := by
  have haccept : ∀ m : AcceptState, m.loc = .accept →
      ∃ s', srv.step? m (.accept (.ok con)) = some s' ∧ s'.handed = m.handed ++ [con] :=
    fun m hm => ⟨_, if_pos hm, rfl⟩
  cases hs : s.loc with
  | select =>
    have hselect : srv.step? s .select = some { selectTicker s with loc := .accept } := by
      simp only [AcceptServer.step?]
      rw [if_pos hs, if_neg (by rw [hlisten]; simp)]
    obtain ⟨s', hstep, hhanded⟩ := haccept { selectTicker s with loc := .accept } rfl
    refine ⟨[.select, .accept (.ok con)], s', ?_, hhanded.trans (by rw [handed_selectTicker])⟩
    simp only [AcceptServer.run?]
    rw [hselect, Option.bind_eq_bind, Option.bind_some, hstep]
    rfl
  | accept =>
    obtain ⟨s', hstep, hhanded⟩ := haccept s hs
    refine ⟨[.accept (.ok con)], s', ?_, hhanded⟩
    simp only [AcceptServer.run?]
    rw [hstep]
    rfl
  | left err => exact absurd hs (hloc err)

def Action.closes : Action → Bool
  | .tick | .tryClose => true
  | _ => false

/-- **The loop takes no notice of the ticker and of `TryClose`**: without them a run leads to the same place
of the loop and hands over the same connections. -/
theorem run?_filter {t : AcceptState} (hloc : t.loc = s.loc) (hhanded : t.handed = s.handed)
    (h : srv.run? acts s = some s') :
    ∃ t', srv.run? (acts.filter fun a => !a.closes) t = some t' ∧ t'.loc = s'.loc ∧ t'.handed = s'.handed := by
  induction acts generalizing s t with
  | nil =>
    cases h
    exact ⟨t, rfl, hloc, hhanded⟩
  | cons a rest ih =>
    obtain ⟨m, hstep, hrest⟩ := Option.bind_eq_some_iff.mp h
    have hgo : a.closes = false → ∀ n, srv.step? t a = some n → n.loc = m.loc → n.handed = m.handed →
        ∃ t', srv.run? ((a :: rest).filter fun a => !a.closes) t = some t' ∧
          t'.loc = s'.loc ∧ t'.handed = s'.handed := by
      intro ha n hn hnloc hnhanded
      obtain ⟨t', hrun, hres⟩ := ih hnloc hnhanded hrest
      refine ⟨t', ?_, hres⟩
      rw [List.filter_cons_of_pos (by rw [ha]; rfl), AcceptServer.run?, hn]
      exact hrun
    obtain ⟨ha, hm, hmh⟩ | ⟨rfl, hat, hmh, hm⟩ | ⟨err, rfl, hat, hm, hmh⟩ | ⟨con, rfl, hat, hm, hmh⟩ :=
      step?_cases hstep
    · have hskip : a.closes = true := by rcases ha with rfl | rfl <;> rfl
      rw [List.filter_cons_of_neg (by rw [hskip]; simp)]
      exact ih (hloc.trans hm.symm) (hhanded.trans hmh.symm) hrest
    · rcases hm with ⟨hm, hlisten⟩ | ⟨hm, hlisten⟩
      · refine hgo rfl { selectTicker t with loc := .accept } ?_ hm.symm ?_
        · simp only [AcceptServer.step?]
          rw [if_pos (hloc.trans hat), if_neg (by rw [hlisten]; simp)]
        · exact (handed_selectTicker t).trans (hhanded.trans hmh.symm)
      · refine hgo rfl { selectTicker t with loc := .left (.text srv.noListener) } ?_ hm.symm ?_
        · simp only [AcceptServer.step?]
          rw [if_pos (hloc.trans hat), if_pos (Option.isSome_iff_ne_none.mpr hlisten)]
        · exact (handed_selectTicker t).trans (hhanded.trans hmh.symm)
    · exact hgo rfl _ (if_pos (hloc.trans hat)) hm.symm (hhanded.trans hmh.symm)
    · exact hgo rfl _ (if_pos (hloc.trans hat)) hm.symm (by rw [hmh, ← hhanded])

end Steps

/-! ### The three servers -/

inductive Protocol
  | tls
  | kcp
  | quic
  deriving DecidableEq, Repr

def Protocol.server : Protocol → Option Err → AcceptServer
  | .tls => tlsServer
  | .kcp => kcpServer
  | .quic => quicServer

theorem start_ne_accept (srv : AcceptServer) : srv.start.loc ≠ .accept := by
  unfold AcceptServer.start
  split
  · split_ifs <;> exact nofun
  · exact nofun

theorem start_listener {srv : AcceptServer} (hlisten : srv.listen = none) (err : Err) :
    srv.start.loc ≠ .left err := by
  unfold AcceptServer.start
  rw [hlisten]
  exact nofun

/-- **A deleted tunnel has stopped accepting exactly if its listener has failed.** -/
theorem stops_iff (p : Protocol) (listen : Option Err) {acts : List Action} {s : AcceptState}
    (hrun : (p.server listen).run? acts (p.server listen).start = some s) :
    Stops (p.server listen) s ↔ (s.Closing → ListenerFailed (p.server listen) acts) := by
  generalize p.server listen = srv at hrun ⊢
  apply forall_congr'
  intro _
  constructor
  · intro hstops
    by_contra hworks
    obtain ⟨hlisten, hnoerr⟩ := not_or.mp hworks
    have hlisten := not_not.mp hlisten
    have hloc : ∀ err, s.loc ≠ .left err := fun err hleft =>
      hnoerr ((run?_listener hlisten (start_listener hlisten) hrun).mp ⟨err, hleft⟩)
    obtain ⟨more, s', hmore, hhanded⟩ := exists_run?_accept hlisten hloc []
    have hlen := congrArg List.length (hhanded.symm.trans (hstops more s' hmore))
    simp at hlen
  · intro hfailed more s' hmore
    by_cases hlisten : srv.listen = none
    · obtain ⟨err, hleft⟩ := (run?_listener hlisten (start_listener hlisten) hrun).mpr
        (hfailed.resolve_left (not_not.mpr hlisten))
      exact (run?_left hleft hmore).2
    · exact (run?_noListener hlisten (run?_noListener hlisten (start_ne_accept srv) hrun).1 hmore).2

/-- A tunnel whose listener fails while it is being deleted. -/
def failedRun : List Action := [.select, .tryClose, .tick, .accept (.error .eof)]

theorem stops_iff_failed : ∃ s,
    (tlsServer none).run? failedRun (tlsServer none).start = some s ∧ s.Closing ∧ Stops (tlsServer none) s := by
  have hrun : ∃ s, (Protocol.tls.server none).run? failedRun (Protocol.tls.server none).start = some s ∧ s.Closing :=
    ⟨_, rfl, rfl, rfl⟩
  obtain ⟨s, hrun, hclosing⟩ := hrun
  exact ⟨s, hrun, hclosing, (stops_iff .tls none hrun).mpr fun _ => Or.inr ⟨.eof, by simp [failedRun]⟩⟩

/-- `TryClose` is called while the loop waits in `Accept`, a connection comes, and the loop receives a tick. -/
def deletedRun : List Action :=
  [.select, .tryClose, .accept (.ok (str "10.0.0.1:50000")), .tick, .select]

theorem not_stops_deletedRun (p : Protocol) : ∃ s,
    (p.server none).run? deletedRun (p.server none).start = some s ∧ s.ticker = false ∧
      ¬Stops (p.server none) s := by
  have hnext : ∀ s s' : AcceptState, s.Closing → s'.handed ≠ s.handed →
      (p.server none).run? [.accept (.ok (str "10.0.0.2:50000"))] s = some s' → ¬Stops (p.server none) s :=
    fun s s' hclosing hne hrun hstops => hne (hstops hclosing _ s' hrun)
  cases p with
  | tls => exact ⟨_, rfl, rfl, hnext _ _ ⟨rfl, rfl⟩ (by decide) rfl⟩
  | kcp => exact ⟨_, rfl, rfl, hnext _ _ ⟨rfl, rfl⟩ (by decide) rfl⟩
  | quic => exact ⟨_, rfl, rfl, hnext _ _ ⟨rfl, rfl⟩ (by decide) rfl⟩

/-- None of the three stops there: each goes on to hand over the next connection. -/
theorem not_stops :
    (∃ s, (tlsServer none).run? deletedRun (tlsServer none).start = some s ∧ ¬Stops (tlsServer none) s) ∧
    (∃ s, (kcpServer none).run? deletedRun (kcpServer none).start = some s ∧ ¬Stops (kcpServer none) s) ∧
    ∃ s, (quicServer none).run? deletedRun (quicServer none).start = some s ∧ ¬Stops (quicServer none) s := by
  obtain ⟨s, hs, -, htls⟩ := not_stops_deletedRun .tls
  obtain ⟨t, ht, -, hkcp⟩ := not_stops_deletedRun .kcp
  obtain ⟨q, hq, -, hquic⟩ := not_stops_deletedRun .quic
  exact ⟨⟨s, hs, htls⟩, ⟨t, ht, hkcp⟩, ⟨q, hq, hquic⟩⟩

end ProxyZ.Tunnel
