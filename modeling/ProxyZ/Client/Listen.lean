import ProxyZ.Client.Contract
import ProxyZ.Go.Threads

/-!
# The local port

`Socks5Listen` binds the local port, tries again each second while the address is in use, and accepts connections
until `TryClose` has set `closeFlag` or one of the counters of errors is too high. Then it returns and leaves its
listener open. `ChangeRoute` waits until it has returned and calls it again, and this call never gets the port.

So the calls release the port exactly in a run where none of them leaves its loop and none looks for the port
while another one has it (`releases_iff`). And once a call has left its loop, each later one waits for the port for
ever (`listening_waits`).
-/

namespace ProxyZ.Client

open Go ProxyZ.Control

/-- The client with its local port: the listeners of the program that are open on the port, each with a number, and
how many have been opened. -/
structure Service where
  control : ClientControl
  listenPort : Nat
  closed : Bool := false
  closeFlag : Bool := false
  listeners : List Nat := []
  opened : Nat := 0

/-- The calls. `others` is what the other goroutines do to the client: those of its connections count errors. -/
inductive RouteCall
  | socks5Listen (inied : Bool)
  | changeRoute (host : Str)
  | tryClose
  | others (c : ClientControl)

/-- What a call does next. -/
inductive ListenStage
  | entered (inied : Bool)
  | initializing
  /-- the loop around `net.Listen` -/
  | listening
  | started (l : Nat)
  /-- the top of the loop around `Accept` -/
  | looping (l : Nat)
  | accepting (l : Nat)
  | connection
  | changing (host : Str)
  | waiting (host : Str)
  | closing
  | others (c : ClientControl)
  /-- with the listener the call has opened, and whether the error is `ErrRouteISBreak` -/
  | returned (l : Option Nat) (routeIsBreak : Bool)

def RouteCall.stage : RouteCall → ListenStage
  | .socks5Listen inied => .entered inied
  | .changeRoute host => .changing host
  | .tryClose => .closing
  | .others c => .others c

/-- What a step finds outside: whether another program has the port, and whether `Accept` fails. -/
structure Outside where
  taken : Bool := false
  acceptErr : Bool := false

/-- `ChangeNextRoute`: the goroutine it starts calls `ChangeRoute`. -/
def changeNextRoute (w : World) (c : ClientControl) : ClientControl × List ListenStage :=
  if c.getNewRoute then
    ({ c with trace := .newRoute :: c.trace }, [.changing (w.newRoute c.trace.length)])
  else (c, [])

/-- The conditions of the two exits with a counter. -/
def tooManyErrors (c : ClientControl) : Bool := 10 < c.routeErrCount || 70 < c.errCount

/-- The next step of a call, `none` where it has returned. Any other error of `net.Listen` ends the program. -/
def serviceStep (w : World) (s : Service) : ListenStage → Outside → Option (Service × ListenStage × List ListenStage)
  | .entered inied, _ => some ({ s with closed := true }, if inied then .listening else .initializing, [])
  | .initializing, _ =>
      match initializationTunnels w s.control with
      | .ok (true, c) => some ({ s with control := c }, .listening, [])
      | .ok (false, c) =>
          some ({ s with control := { c with isRunning := false, isBreak := true } }, .returned none true, [])
      | .error _ => none
  | .listening, o =>
      if s.listenPort = 0 then some ({ s with closed := true }, .returned none false, [])
      else if s.listeners ≠ [] ∨ o.taken then some (s, .listening, [])
      else some ({ s with listeners := s.listeners ++ [s.opened], opened := s.opened + 1 }, .started s.opened, [])
  | .started l, _ =>
      some ({ s with
        closeFlag := false
        closed := false
        control := { s.control with acceptCount := 0, isRunning := true } }, .looping l, [])
  | .looping l, _ =>
      if tooManyErrors s.control then
        let (c, new) := changeNextRoute w s.control
        some ({ s with control := c, closed := true }, .returned (some l) false, new)
      else if s.closeFlag then some ({ s with closed := true }, .returned (some l) false, [])
      else some (s, .accepting l, [])
  | .accepting l, o =>
      let control :=
        { s.control with aliveCount := s.control.aliveCount + 1, acceptCount := s.control.acceptCount + 1 }
      some ({ s with control }, .looping l, if o.acceptErr then [] else [.connection])
  | .connection, _ =>
      some ({ s with control := { s.control with acceptCount := s.control.acceptCount - 1 } }, .returned none false, [])
  | .changing host, _ =>
      let addr := if s.closeFlag then wrap w.parseUrl host else s.control.addr
      some ({ s with control := { s.control with addr } }, .waiting host, [])
  | .waiting host, _ =>
      if s.closed then
        match (List.range s.control.smuxClients.length).forM dropSlot s.control with
        | .ok (_, c) => some ({ s with control := init { c with addr := host } }, .entered false, [])
        | .error _ => none
      else some (s, .waiting host, [])
  | .closing, _ =>
      let control := { s.control with loc := str "Closing..." }
      some ({ s with closeFlag := true, control }, .returned none false, [])
  | .others c, _ => some ({ s with control := c }, .returned none false, [])
  | .returned _ _, _ => none

/-- Any number of calls on one client. -/
def service (w : World) : Program Service ListenStage RouteCall Outside := ⟨RouteCall.stage, serviceStep w⟩

/-- A client whose port is not bound. -/
def unbound (c : ClientControl) (port : Nat) : Threads Service ListenStage := ⟨{ control := c, listenPort := port }, []⟩

/-- The listener of a call between its bind and the end of its loop. -/
def ListenStage.holds : ListenStage → Option Nat
  | .started l => some l
  | .looping l => some l
  | .accepting l => some l
  | _ => none

/-- The listener of a call that has returned. -/
def ListenStage.left : ListenStage → Option Nat
  | .returned l _ => l
  | _ => none

/-- **The listener is released on every exit**: behind the step each call that has returned has its listener closed,
at most one listener is open on the port, and a call that looks for the port finds none of the program there. -/
structure Releases (s : Threads Service ListenStage) (a : Act RouteCall Outside) (s' : Threads Service ListenStage) :
    Prop where
  closed : ∀ t ∈ s'.threads, ∀ l, t.left = some l → l ∉ s'.shared.listeners
  single : s'.shared.listeners.length ≤ 1
  free : ∀ k o, a = .step k o → s.threads[k]? = some .listening → s.shared.listenPort ≠ 0 → s.shared.listeners = []

/-- The loop around `Accept` ends. -/
def Leaves (s : Service) : Prop := tooManyErrors s.control = true ∨ s.closeFlag = true

/-- No call leaves its loop, and none looks for the port while another one has it. -/
def KeepsListening (s : Threads Service ListenStage) (a : Act RouteCall Outside) : Prop :=
  match a with
  | .call _ => True
  | .step k _ =>
      match s.threads[k]? with
      | some (.looping _) => ¬Leaves s.shared
      | some .listening => s.shared.listenPort ≠ 0 → ∀ t ∈ s.threads, t.holds = none
      | _ => True

/-! ### A step of a call -/

/-- A call without a listener. -/
def ListenStage.Bare (t : ListenStage) : Prop := t.holds = none ∧ t.left = none

/-- The port is bound for the call. -/
structure Opens (s : Service) (t : ListenStage) (s' : Service) (t' : ListenStage) : Prop where
  stage : t = .listening
  free : s.listeners = []
  listeners : ∃ l, s'.listeners = [l] ∧ t'.holds = some l
  left : t'.left = none

/-- The call leaves its loop. -/
structure Exits (s : Service) (t : ListenStage) (s' : Service) (t' : ListenStage) : Prop where
  leaves : Leaves s
  stage : ∃ l, t = .looping l ∧ t'.left = some l
  holds : t'.holds = none
  listeners : s'.listeners = s.listeners

/-- The call goes on with the listener it has, or without one. -/
structure GoesOn (s : Service) (t : ListenStage) (s' : Service) (t' : ListenStage) : Prop where
  stays : ∀ l, t = .looping l → ¬Leaves s
  holds : t'.holds = t.holds
  left : t'.left = none
  listeners : s'.listeners = s.listeners

section Step

variable {w : World} {s s' : Service} {t t' : ListenStage} {new : List ListenStage} {o : Outside}

theorem bare_nil : ∀ u ∈ ([] : List ListenStage), u.Bare := fun _ hu => absurd hu List.not_mem_nil

theorem bare_changeNextRoute {c : ClientControl} : ∀ u ∈ (changeNextRoute w c).2, u.Bare := by
  unfold changeNextRoute
  split_ifs
  · intro u hu
    rw [List.mem_singleton.mp hu]
    exact ⟨rfl, rfl⟩
  · exact bare_nil

/-- A step outside the loop around `Accept` that leaves the listeners as they are. -/
theorem goesOn (hstage : ∀ l, t ≠ .looping l) (hholds : t'.holds = t.holds) (hleft : t'.left = none)
    (hlisteners : s'.listeners = s.listeners) : Opens s t s' t' ∨ Exits s t s' t' ∨ GoesOn s t s' t' :=
  Or.inr (Or.inr ⟨fun l hl => absurd hl (hstage l), hholds, hleft, hlisteners⟩)

/-- **What a step does**: it opens a listener, leaves one behind, or goes on; it closes none. -/
theorem serviceStep_cases (h : serviceStep w s t o = some (s', t', new)) :
    (Opens s t s' t' ∨ Exits s t s' t' ∨ GoesOn s t s' t') ∧ (∀ u ∈ new, u.Bare) ∧ s'.listenPort = s.listenPort := by
  cases t with
  | entered inied =>
    cases h
    cases inied <;> exact ⟨goesOn nofun rfl rfl rfl, bare_nil, rfl⟩
  | initializing =>
    simp only [serviceStep] at h
    split at h
    · cases h
      exact ⟨goesOn nofun rfl rfl rfl, bare_nil, rfl⟩
    · cases h
      exact ⟨goesOn nofun rfl rfl rfl, bare_nil, rfl⟩
    · cases h
  | listening =>
    simp only [serviceStep] at h
    split_ifs at h with hport htaken
    · cases h
      exact ⟨goesOn nofun rfl rfl rfl, bare_nil, rfl⟩
    · cases h
      exact ⟨goesOn nofun rfl rfl rfl, bare_nil, rfl⟩
    · cases h
      have hfree : s.listeners = [] := not_not.mp (not_or.mp htaken).1
      have hlisteners : s.listeners ++ [s.opened] = [s.opened] := by rw [hfree, List.nil_append]
      exact ⟨Or.inl ⟨rfl, hfree, ⟨s.opened, hlisteners, rfl⟩, rfl⟩, bare_nil, rfl⟩
  | started l =>
    cases h
    exact ⟨goesOn nofun rfl rfl rfl, bare_nil, rfl⟩
  | looping l =>
    simp only [serviceStep] at h
    split_ifs at h with herrors hflag
    · cases h
      exact ⟨Or.inr (Or.inl ⟨Or.inl herrors, ⟨l, rfl, rfl⟩, rfl, rfl⟩), bare_changeNextRoute, rfl⟩
    · cases h
      exact ⟨Or.inr (Or.inl ⟨Or.inr hflag, ⟨l, rfl, rfl⟩, rfl, rfl⟩), bare_nil, rfl⟩
    · cases h
      exact ⟨Or.inr (Or.inr ⟨fun _ _ => not_or.mpr ⟨herrors, hflag⟩, rfl, rfl, rfl⟩), bare_nil, rfl⟩
  | accepting l =>
    cases h
    refine ⟨goesOn nofun rfl rfl rfl, ?_, rfl⟩
    intro u hu
    split_ifs at hu
    · cases hu
    · rw [List.mem_singleton.mp hu]
      exact ⟨rfl, rfl⟩
  | connection =>
    cases h
    exact ⟨goesOn nofun rfl rfl rfl, bare_nil, rfl⟩
  | changing host =>
    cases h
    exact ⟨goesOn nofun rfl rfl rfl, bare_nil, rfl⟩
  | waiting host =>
    simp only [serviceStep] at h
    split_ifs at h
    · split at h
      · cases h
        exact ⟨goesOn nofun rfl rfl rfl, bare_nil, rfl⟩
      · cases h
    · cases h
      exact ⟨goesOn nofun rfl rfl rfl, bare_nil, rfl⟩
  | closing =>
    cases h
    exact ⟨goesOn nofun rfl rfl rfl, bare_nil, rfl⟩
  | others c =>
    cases h
    exact ⟨goesOn nofun rfl rfl rfl, bare_nil, rfl⟩
  | returned l b => cases h

theorem listeners_subset (h : serviceStep w s t o = some (s', t', new)) : s.listeners ⊆ s'.listeners := by
  obtain ⟨hopens | hexits | hgoesOn, -, -⟩ := serviceStep_cases h
  · rw [hopens.free]
    exact List.nil_subset _
  · rw [hexits.listeners]
    exact List.Subset.refl _
  · rw [hgoesOn.listeners]
    exact List.Subset.refl _

end Step

/-! ### What the steps keep -/

/-- A listener is open from its bind on, and it is the only one. -/
structure Kept (s : Threads Service ListenStage) : Prop where
  owned : ∀ t ∈ s.threads, ∀ l, t.holds = some l ∨ t.left = some l → l ∈ s.shared.listeners
  single : s.shared.listeners.length ≤ 1

/-- No call has left its loop, so each listener has its call. -/
structure Tended (s : Threads Service ListenStage) : Prop where
  kept : Kept s
  left : ∀ t ∈ s.threads, t.left = none
  served : ∀ l ∈ s.shared.listeners, ∃ t ∈ s.threads, t.holds = some l

section Runs

variable {w : World} {s s' : Threads Service ListenStage} {a : Act RouteCall Outside}

theorem bare_stage (call : RouteCall) : call.stage.Bare := by
  cases call <;> exact ⟨rfl, rfl⟩

theorem ListenStage.Bare.not_or {t : ListenStage} (h : t.Bare) {l : Nat} : ¬(t.holds = some l ∨ t.left = some l) := by
  rw [h.1, h.2]
  rintro (h | h) <;> cases h

theorem Kept.step (h : Kept s) (hs : (service w).step? s a = some s') : Kept s' := by
  cases a with
  | call call =>
    rw [Program.step?_call] at hs
    subst hs
    refine ⟨each_append h.owned ?_, h.single⟩
    intro u hu l hl
    rw [List.mem_singleton.mp hu] at hl
    exact absurd hl (bare_stage call).not_or
  | step k o =>
    obtain ⟨t, shared, t', new, ht, hnext, rfl⟩ := Program.step?_step.mp hs
    have hmem : t ∈ s.threads := List.mem_of_getElem? ht
    have hsubset : s.shared.listeners ⊆ shared.listeners := listeners_subset hnext
    obtain ⟨hmoves, hnew, -⟩ := serviceStep_cases hnext
    constructor
    · apply each_append
      · apply each_set
        · exact fun u hu l hl => hsubset (h.owned u hu l hl)
        · intro l hl
          rcases hmoves with hopens | hexits | hgoesOn
          · obtain ⟨l', hlisteners, hholds⟩ := hopens.listeners
            rw [hopens.left, or_iff_left (Option.some_ne_none l).symm, hholds] at hl
            cases hl
            show l ∈ shared.listeners
            rw [hlisteners]
            exact List.mem_singleton_self l
          · obtain ⟨l', rfl, hleft⟩ := hexits.stage
            rw [hexits.holds, or_iff_right (Option.some_ne_none l).symm, hleft] at hl
            exact hsubset (h.owned _ hmem l (Or.inl hl))
          · rw [hgoesOn.left, or_iff_left (Option.some_ne_none l).symm, hgoesOn.holds] at hl
            exact hsubset (h.owned t hmem l (Or.inl hl))
      · exact fun u hu l hl => absurd hl (hnew u hu).not_or
    · show shared.listeners.length ≤ 1
      rcases hmoves with hopens | hexits | hgoesOn
      · obtain ⟨l, hlisteners, -⟩ := hopens.listeners
        rw [hlisteners]
        exact le_rfl
      · rw [hexits.listeners]
        exact h.single
      · rw [hgoesOn.listeners]
        exact h.single

theorem Tended.free_iff (h : Tended s) : s.shared.listeners = [] ↔ ∀ t ∈ s.threads, t.holds = none := by
  constructor
  · intro hfree t ht
    rcases hholds : t.holds with _ | l
    · rfl
    · have hmem := h.kept.owned t ht l (Or.inl hholds)
      rw [hfree] at hmem
      cases hmem
  · intro hnone
    apply List.eq_nil_iff_forall_not_mem.mpr
    intro l hl
    obtain ⟨t, ht, hholds⟩ := h.served l hl
    rw [hnone t ht] at hholds
    cases hholds

theorem Tended.step (h : Tended s) (hs : (service w).step? s a = some s') (hreleases : Releases s a s') :
    Tended s' := by
  have hkept : Kept s' := h.kept.step hs
  have hleft : ∀ t ∈ s'.threads, t.left = none := by
    intro t ht
    rcases hl : t.left with _ | l
    · rfl
    · exact absurd (hkept.owned t ht l (Or.inr hl)) (hreleases.closed t ht l hl)
  refine ⟨hkept, hleft, ?_⟩
  cases a with
  | call call =>
    rw [Program.step?_call] at hs
    subst hs
    intro l hl
    obtain ⟨t, ht, hholds⟩ := h.served l hl
    exact ⟨t, List.mem_append_left _ ht, hholds⟩
  | step k o =>
    obtain ⟨t, shared, t', new, ht, hnext, rfl⟩ := Program.step?_step.mp hs
    have ht' : t' ∈ s.threads.set k t' := List.mem_set (List.getElem?_eq_some_iff.mp ht).1 t'
    intro l hl
    change l ∈ shared.listeners at hl
    rcases (serviceStep_cases hnext).1 with hopens | hexits | hgoesOn
    · obtain ⟨l', hlisteners, hholds⟩ := hopens.listeners
      rw [hlisteners] at hl
      rw [← List.mem_singleton.mp hl] at hholds
      exact ⟨t', List.mem_append_left _ ht', hholds⟩
    · obtain ⟨l', -, hl'⟩ := hexits.stage
      rw [hleft t' (List.mem_append_left _ ht')] at hl'
      cases hl'
    · rw [hgoesOn.listeners] at hl
      obtain ⟨u, hu, hholds⟩ := exists_set ht (h.served l hl) hgoesOn.holds.trans
      exact ⟨u, List.mem_append_left _ hu, hholds⟩

theorem keepsListening_iff {k : Nat} {o : Outside} {t : ListenStage} (ht : s.threads[k]? = some t) :
    KeepsListening s (.step k o) ↔ (∀ l, t = .looping l → ¬Leaves s.shared) ∧
      (t = .listening → s.shared.listenPort ≠ 0 → ∀ u ∈ s.threads, u.holds = none) := by
  unfold KeepsListening
  dsimp only
  rw [ht]
  cases t with
  | looping l =>
    constructor
    · exact fun h => ⟨fun _ _ => h, nofun⟩
    · exact fun h => h.1 l rfl
  | listening =>
    constructor
    · exact fun h => ⟨nofun, fun _ => h⟩
    · exact fun h => h.2 rfl
  | _ => exact iff_of_true trivial ⟨nofun, nofun⟩

/-- A call returns with a listener exactly if it leaves its loop. -/
theorem left_eq_none_iff {s s' : Service} {t t' : ListenStage} {new : List ListenStage} {o : Outside}
    (h : serviceStep w s t o = some (s', t', new)) : t'.left = none ↔ ∀ l, t = .looping l → ¬Leaves s := by
  rcases (serviceStep_cases h).1 with hopens | hexits | hgoesOn
  · refine iff_of_true hopens.left ?_
    intro l hl
    cases hopens.stage.symm.trans hl
  · obtain ⟨l, hl, hleft⟩ := hexits.stage
    refine iff_of_false ?_ fun hstays => hstays l hl hexits.leaves
    rw [hleft]
    exact Option.some_ne_none l
  · exact iff_of_true hgoesOn.left hgoesOn.stays

/-- **A step releases the listeners if and only if no call leaves its loop with it**, and none looks for a port that
another one has. -/
theorem Tended.releases_step_iff (h : Tended s) (hs : (service w).step? s a = some s') :
    Releases s a s' ↔ KeepsListening s a := by
  have hkept : Kept s' := h.kept.step hs
  cases a with
  | call call =>
    rw [Program.step?_call] at hs
    subst hs
    refine iff_of_true ⟨?_, hkept.single, nofun⟩ trivial
    intro t ht l hl
    have hnone : t.left = none := by
      rcases List.mem_append.mp ht with ht | ht
      · exact h.left t ht
      · rw [List.mem_singleton.mp ht]
        exact (bare_stage call).2
    rw [hnone] at hl
    cases hl
  | step k o =>
    obtain ⟨t, shared, t', new, ht, hnext, rfl⟩ := Program.step?_step.mp hs
    have ht' : t' ∈ s.threads.set k t' ++ new :=
      List.mem_append_left _ (List.mem_set (List.getElem?_eq_some_iff.mp ht).1 t')
    rw [keepsListening_iff ht, ← left_eq_none_iff hnext, ← h.free_iff]
    constructor
    · intro hreleases
      refine ⟨?_, ?_⟩
      · rcases hl : t'.left with _ | l
        · rfl
        · exact absurd (hkept.owned t' ht' l (Or.inr hl)) (hreleases.closed t' ht' l hl)
      · rintro rfl hport
        exact hreleases.free k o rfl ht hport
    · rintro ⟨hleft, hfree⟩
      refine ⟨?_, hkept.single, ?_⟩
      · have hnone : ∀ u ∈ s.threads.set k t' ++ new, u.left = none :=
          each_append (each_set h.left hleft) fun u hu => ((serviceStep_cases hnext).2.1 u hu).2
        intro u hu l hl
        rw [hnone u hu] at hl
        cases hl
      · intro k' o' ha hlistening hport
        cases ha
        cases ht.symm.trans hlistening
        exact hfree rfl hport

theorem tended_unbound (c : ClientControl) (port : Nat) : Tended (unbound c port) where
  kept := ⟨fun _ ht => absurd ht List.not_mem_nil, Nat.zero_le _⟩
  left := fun _ ht => absurd ht List.not_mem_nil
  served := fun _ hl => absurd hl List.not_mem_nil

/-- **The listeners are released in a run exactly if no call leaves its loop**, and none looks for the port while
another one has it. -/
theorem releases_iff (w : World) (c : ClientControl) (port : Nat) (acts : List (Act RouteCall Outside)) :
    AllSteps (service w).step? Releases acts (unbound c port) ↔
      AllSteps (service w).step? (fun s a _ => KeepsListening s a) acts (unbound c port) :=
  allSteps_iff (fun _ _ _ h hs => h.releases_step_iff hs) (fun _ _ _ h hs => h.step hs) (tended_unbound c port) acts

/-- The port of the client stays. -/
theorem listenPort_step (hs : (service w).step? s a = some s') : s'.shared.listenPort = s.shared.listenPort := by
  cases a with
  | call call =>
    rw [Program.step?_call] at hs
    subst hs
    rfl
  | step k o =>
    obtain ⟨t, shared, t', new, ht, hnext, rfl⟩ := Program.step?_step.mp hs
    exact (serviceStep_cases hnext).2.2

/-- **Behind a call that has left its loop** each other call waits for the port for ever. -/
theorem listening_waits {c : ClientControl} {port : Nat} {acts : List (Act RouteCall Outside)}
    (hrun : runAll (service w).step? acts (unbound c port) = some s) (hport : port ≠ 0) {t : ListenStage} {l : Nat}
    (ht : t ∈ s.threads) (hleft : t.left = some l) (o : Outside) :
    serviceStep w s.shared .listening o = some (s.shared, .listening, []) := by
  have hinv : Kept s ∧ s.shared.listenPort = port := by
    refine runAll_invariant (I := fun s => Kept s ∧ s.shared.listenPort = port) ?_ ⟨(tended_unbound c port).kept, rfl⟩
      hrun
    exact fun s a s' h hs => ⟨h.1.step hs, (listenPort_step hs).trans h.2⟩
  obtain ⟨hkept, rfl⟩ := hinv
  have hopen : s.shared.listeners ≠ [] := List.ne_nil_of_mem (hkept.owned t ht l (Or.inr hleft))
  simp only [serviceStep]
  rw [if_neg hport, if_pos (Or.inl hopen)]

end Runs

/-! ### The three exits -/

/-- A call binds the port, another call comes between, and the loop ends. -/
def leaving (call : RouteCall) : List (Act RouteCall Outside) :=
  [.call (.socks5Listen true), .step 0 {}, .step 0 {}, .step 0 {}, .call call, .step 1 {}, .step 0 {}]

def plainClient : ClientControl := newClientControll handsOut sampleAddr 1 false

theorem not_releases_leaving :
    ¬AllSteps (service handsOut).step? Releases (leaving .tryClose) (unbound plainClient 1080) ∧
    ¬AllSteps (service handsOut).step? Releases (leaving (.others { plainClient with routeErrCount := 11 }))
      (unbound plainClient 1080) ∧
    ¬AllSteps (service handsOut).step? Releases (leaving (.others { plainClient with errCount := 71 }))
      (unbound plainClient 1080) := by
  refine ⟨?_, ?_, ?_⟩
  all_goals
    intro h
    obtain ⟨-, h⟩ := h _ rfl
    obtain ⟨-, h⟩ := h _ rfl
    obtain ⟨-, h⟩ := h _ rfl
    obtain ⟨-, h⟩ := h _ rfl
    obtain ⟨-, h⟩ := h _ rfl
    obtain ⟨-, h⟩ := h _ rfl
    obtain ⟨hreleases, -⟩ := h _ rfl
    exact hreleases.closed (.returned (some 0) false) (List.mem_of_getElem? (i := 0) rfl) 0 rfl
      (List.mem_singleton_self 0)

end ProxyZ.Client
