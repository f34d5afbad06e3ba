import Mathlib.Data.List.Nodup
import Mathlib.Logic.Function.Basic
import ProxyZ.Server.Select

/-!
# Starting a tunnel

A request for `/proxy-get` takes a tunnel from `GetProxy`, reads its `On`, and starts it if that is unset.
Nothing holds the tunnel in between, so of two requests that read `On` before either sets it, both launch
`Server`. So does a request that reads `On` after `Server` has ended and before it has deleted the tunnel.

These are all the cases: a tunnel is launched once exactly in a run where each start finds `On` unset and no
`Server` of the tunnel ended (`launchedOnce_iff`). The second `Server` fails at the port, and as it ends it
unsets `On`, closes the port and deletes the tunnel, with the first one running (`not_launchedOnce`).
-/

namespace ProxyZ.Server

open Go

/-- How far a request, the goroutine of a `Server`, or a `DelProxy` is. -/
inductive Worker
  | get (proxyType : Option Str)
  | byErrCount
  | check (tu : Tunnel)
  | start (tu : Tunnel)
  | replied (tu : Tunnel)
  | server (tu : Tunnel)
  | delProxy (name : Str)
  | publish (e : List (Option Tunnel))
  | done
  | panicked

/-- The requests: `/proxy-get` with or without a type, `/proxy-err` from its `NewProxyByErrCount` on, and those
that delete a tunnel. -/
inductive Request
  | proxyGet (proxyType : Option Str)
  | proxyErr
  | delProxy (name : Str)

def Request.worker : Request → Worker
  | .proxyGet proxyType => .get proxyType
  | .proxyErr => .byErrCount
  | .delProxy name => .delProxy name

/-- The variables and the `On` of each tunnel. For the statements, the tunnels that a list published since has
removed, whose `Server` has ended, and whose `Server` has been launched, once for each launch before the
tunnel was removed. -/
structure Fleet where
  globals : Globals := {}
  on : Tunnel → Bool := fun _ => false
  removed : List Tunnel := []
  ended : List Tunnel := []
  launched : List Tunnel := []

/-- The tunnels of the list that are not in `e`. -/
def lost (l e : List (Option Tunnel)) : List Tunnel := l.reduceOption.filter fun t => !e.contains (some t)

/-- `tu.Start`: the goroutine it starts runs `Server`. -/
def startTunnel (tu : Tunnel) (s : Fleet) : Fleet :=
  { s with
    on := Function.update s.on tu true
    launched := if tu ∈ s.removed then s.launched else s.launched ++ [tu] }

/-- What `Server` does as it ends, up to the call of `after`. -/
def endServer (tu : Tunnel) (s : Fleet) : Fleet :=
  { s with
    globals := { s.globals with shared := { s.globals.shared with
      closedPorts := s.globals.shared.closedPorts ++ [tu.serverPort] } }
    on := Function.update s.on tu false
    ended := s.ended ++ [tu] }

def nextWorker (gs : ListOps) (s : Fleet) : Worker → Answer → Option (Fleet × Worker × List Worker)
  | .get proxyType, w =>
      match getProxy gs w proxyType s.globals with
      | some (tu, globals) => some ({ s with globals }, .check tu, [])
      | none => some (s, .panicked, [])
  -- `/proxy-err` does not look at `On`
  | .byErrCount, w =>
      let (tu, globals) := newProxyByErrCount w s.globals
      some ({ s with globals }, .start tu, [])
  | .check tu, _ => some (s, if s.on tu then .replied tu else .start tu, [])
  | .start tu, _ => some (startTunnel tu s, .replied tu, [.server tu])
  -- `after` deletes the tunnel by the ID it was started with
  | .server tu, _ => some (endServer tu s, .delProxy tu.id, [])
  | .delProxy name, _ =>
      let (e, _, shared) := filterTunnels name s.globals.tunnels s.globals.shared
      some ({ s with globals := { s.globals with shared } }, .publish e, [])
  | .publish e, _ =>
      some ({ s with
        globals := { s.globals with shared := { s.globals.shared with tunnels := e } }
        removed := s.removed ++ lost s.globals.tunnels e }, .done, [])
  | .replied _, _ => none
  | .done, _ => none
  | .panicked, _ => none

def fleet (gs : ListOps) : Program Fleet Worker Request Answer := ⟨Request.worker, nextWorker gs⟩

/-- **Each tunnel is launched at most once** before it is removed. -/
def LaunchedOnce (s : Threads Fleet Worker) : Prop := s.shared.launched.Nodup

/-- Who starts a tunnel that has not been removed finds `On` still unset, and no `Server` of it has ended. -/
def StartsFirst (s : Threads Fleet Worker) (a : Act Request Answer) : Prop :=
  match a with
  | .call _ => True
  | .step k _ =>
      match s.threads[k]? with
      | some (.start tu) => tu ∉ s.shared.removed → s.shared.on tu = false ∧ tu ∉ s.shared.ended
      | _ => True

/-! ### What the steps keep -/

/-- The tunnel has been launched, or removed. -/
def Begun (s : Fleet) (t : Tunnel) : Prop := t ∈ s.launched ∨ t ∈ s.removed

/-- Up to its removal a launched tunnel is on or has ended, and no other tunnel is. -/
structure Tracked (s : Fleet) : Prop where
  lives : ∀ t ∈ s.launched, t ∉ s.removed → s.on t = true ∨ t ∈ s.ended
  on : ∀ t, s.on t = true → Begun s t
  ended : ∀ t ∈ s.ended, Begun s t

/-- The tunnel of a running `Server` has been launched. -/
def Worker.Launched (s : Fleet) (u : Worker) : Prop := ∀ t, u = .server t → Begun s t

section Step

variable {gs : ListOps} {s s' : Fleet} {new : List Worker} {u u' : Worker} {w : Answer} {tu : Tunnel}

/-- **A start is the first** exactly if it finds `On` unset and no `Server` ended. -/
theorem Tracked.notMem_launched_iff (h : Tracked s) (hremoved : tu ∉ s.removed) :
    tu ∉ s.launched ↔ s.on tu = false ∧ tu ∉ s.ended := by
  constructor
  · intro hnot
    have hneither : ¬Begun s tu := not_or.mpr ⟨hnot, hremoved⟩
    exact ⟨Bool.eq_false_iff.mpr fun hon => hneither (h.on tu hon), fun hended => hneither (h.ended tu hended)⟩
  · rintro ⟨hoff, hended⟩ hmem
    rcases h.lives tu hmem hremoved with hon | hmem
    · rw [hoff] at hon
      exact Bool.false_ne_true hon
    · exact hended hmem

theorem begun_startTunnel {t : Tunnel} : Begun (startTunnel tu s) t ↔ t = tu ∨ Begun s t := by
  unfold Begun startTunnel
  dsimp only
  split_ifs with hremoved
  · constructor
    · exact Or.inr
    · rintro (rfl | h)
      · exact Or.inr hremoved
      · exact h
  · rw [List.mem_append, List.mem_singleton, or_assoc, or_left_comm]

theorem Tracked.start (h : Tracked s) : Tracked (startTunnel tu s) where
  lives := by
    intro t ht hnot
    by_cases heq : t = tu
    · subst heq
      exact Or.inl (Function.update_self ..)
    · have hold : Begun s t := (begun_startTunnel.mp (Or.inl ht)).resolve_left heq
      rcases h.lives t (hold.resolve_right hnot) hnot with hon | hended
      · exact Or.inl ((Function.update_of_ne heq ..).trans hon)
      · exact Or.inr hended
  on := by
    intro t hon
    apply begun_startTunnel.mpr
    by_cases heq : t = tu
    · exact Or.inl heq
    · exact Or.inr (h.on t ((Function.update_of_ne heq ..).symm.trans hon))
  ended := by
    intro t ht
    exact begun_startTunnel.mpr (Or.inr (h.ended t ht))

theorem Tracked.end (h : Tracked s) (hbegun : Begun s tu) : Tracked (endServer tu s) where
  lives := by
    intro t ht hnot
    by_cases heq : t = tu
    · exact Or.inr (List.mem_append_right _ (List.mem_singleton.mpr heq))
    · rcases h.lives t ht hnot with hon | hended
      · exact Or.inl ((Function.update_of_ne heq ..).trans hon)
      · exact Or.inr (List.mem_append_left _ hended)
  on := by
    intro t hon
    by_cases heq : t = tu
    · rw [heq]
      exact hbegun
    · exact h.on t ((Function.update_of_ne heq ..).symm.trans hon)
  ended := by
    intro t ht
    rcases List.mem_append.mp ht with ht | ht
    · exact h.ended t ht
    · rw [List.mem_singleton.mp ht]
      exact hbegun

/-- Removing more tunnels keeps them tracked. -/
theorem Tracked.remove (h : Tracked s) (g : Globals) (l : List Tunnel) :
    Tracked { s with globals := g, removed := s.removed ++ l } where
  lives := fun t ht hnot => h.lives t ht fun hmem => hnot (List.mem_append_left _ hmem)
  on := fun t hon => (h.on t hon).imp_right (List.mem_append_left _)
  ended := fun t ht => (h.ended t ht).imp_right (List.mem_append_left _)

/-- **A step** keeps the tunnels tracked and what has begun, and starts only servers of launched tunnels. -/
theorem nextWorker_tracked (h : Tracked s) (hu : u.Launched s) (hnext : nextWorker gs s u w = some (s', u', new)) :
    Tracked s' ∧ (∀ t, Begun s t → Begun s' t) ∧ u'.Launched s' ∧ ∀ v ∈ new, v.Launched s' := by
  cases u with
  | get proxyType =>
    simp only [nextWorker] at hnext
    split at hnext
    · cases hnext
      exact ⟨⟨h.lives, h.on, h.ended⟩, fun _ hbegun => hbegun, nofun, nofun⟩
    · cases hnext
      exact ⟨h, fun _ hbegun => hbegun, nofun, nofun⟩
  | byErrCount =>
    cases hnext
    exact ⟨⟨h.lives, h.on, h.ended⟩, fun _ hbegun => hbegun, nofun, nofun⟩
  | check tu =>
    simp only [nextWorker] at hnext
    split_ifs at hnext
    · cases hnext
      exact ⟨h, fun _ hbegun => hbegun, nofun, nofun⟩
    · cases hnext
      exact ⟨h, fun _ hbegun => hbegun, nofun, nofun⟩
  | start tu =>
    cases hnext
    refine ⟨h.start, fun t hbegun => begun_startTunnel.mpr (Or.inr hbegun), nofun, ?_⟩
    intro v hv t ht
    rw [List.mem_singleton.mp hv] at ht
    cases ht
    exact begun_startTunnel.mpr (Or.inl rfl)
  | server tu =>
    cases hnext
    exact ⟨h.end (hu tu rfl), fun _ hbegun => hbegun, nofun, nofun⟩
  | delProxy name =>
    cases hnext
    exact ⟨⟨h.lives, h.on, h.ended⟩, fun _ hbegun => hbegun, nofun, nofun⟩
  | publish e =>
    cases hnext
    exact ⟨h.remove _ _, fun t hbegun => hbegun.imp_right (List.mem_append_left _), nofun, nofun⟩
  | replied tu => cases hnext
  | done => cases hnext
  | panicked => cases hnext

/-- What has been launched changes at a start only. -/
theorem launched_nextWorker (hnext : nextWorker gs s u w = some (s', u', new)) (hu : ∀ tu, u ≠ .start tu) :
    s'.launched = s.launched := by
  cases u with
  | get proxyType =>
    simp only [nextWorker] at hnext
    split at hnext <;> (cases hnext; rfl)
  | start tu => exact absurd rfl (hu tu)
  | byErrCount => cases hnext; rfl
  | check tu => cases hnext; rfl
  | server tu => cases hnext; rfl
  | delProxy name => cases hnext; rfl
  | publish e => cases hnext; rfl
  | replied tu => cases hnext
  | done => cases hnext
  | panicked => cases hnext

theorem nodup_startTunnel_iff (hs : s.launched.Nodup) :
    (startTunnel tu s).launched.Nodup ↔ (tu ∉ s.removed → tu ∉ s.launched) := by
  unfold startTunnel
  dsimp only
  split_ifs with hremoved
  · exact ⟨fun _ hnot => absurd hremoved hnot, fun _ => hs⟩
  · rw [List.nodup_append_comm, List.singleton_append, List.nodup_cons]
    exact ⟨fun h _ => h.1, fun h => ⟨h hremoved, hs⟩⟩

end Step

/-! ### Runs -/

/-- What holds in a run until a tunnel is launched twice. -/
structure Orderly (s : Threads Fleet Worker) : Prop where
  once : LaunchedOnce s
  tracked : Tracked s.shared
  launched : ∀ u ∈ s.threads, u.Launched s.shared

section Run

variable {gs : ListOps} {s s' : Threads Fleet Worker} {a : Act Request Answer}

theorem Orderly.step_iff (h : Orderly s) (hs : (fleet gs).step? s a = some s') :
    LaunchedOnce s' ↔ StartsFirst s a := by
  cases a with
  | call i =>
    obtain rfl := Program.step?_call.mp hs
    exact iff_of_true h.once trivial
  | step k w =>
    obtain ⟨u, shared, u', new, hk, hnext, rfl⟩ := Program.step?_step.mp hs
    unfold StartsFirst
    dsimp only
    rw [hk]
    by_cases hstart : ∃ tu, u = .start tu
    · obtain ⟨tu, rfl⟩ := hstart
      cases hnext
      apply (nodup_startTunnel_iff h.once).trans
      exact forall_congr' fun hremoved => h.tracked.notMem_launched_iff hremoved
    · have hne : ∀ tu, u ≠ .start tu := fun tu htu => hstart ⟨tu, htu⟩
      apply iff_of_true
      · show List.Nodup shared.launched
        rw [launched_nextWorker hnext hne]
        exact h.once
      · cases u with
        | start tu => exact absurd rfl (hne tu)
        | _ => trivial

theorem Orderly.step (h : Orderly s) (hs : (fleet gs).step? s a = some s') (honce : LaunchedOnce s') :
    Orderly s' := by
  cases a with
  | call i =>
    obtain rfl := Program.step?_call.mp hs
    refine ⟨honce, h.tracked, each_append h.launched ?_⟩
    intro u hu t ht
    obtain rfl := List.mem_singleton.mp hu
    cases i <;> cases ht
  | step k w =>
    obtain ⟨u, shared, u', new, hk, hnext, rfl⟩ := Program.step?_step.mp hs
    obtain ⟨htracked, hgrows, hu', hnew⟩ :=
      nextWorker_tracked h.tracked (h.launched u (List.mem_of_getElem? hk)) hnext
    have hothers : ∀ v ∈ s.threads, v.Launched shared := fun v hv t ht => hgrows t (h.launched v hv t ht)
    exact ⟨honce, htracked, each_append (each_set hothers hu') hnew⟩

end Run

theorem orderly_empty : Orderly ⟨{}, []⟩ where
  once := List.nodup_nil
  tracked := ⟨nofun, nofun, nofun⟩
  launched := nofun

/-- **Each tunnel is launched once exactly in a run where each start is the first.** -/
theorem launchedOnce_iff (gs : ListOps) (acts : List (Act Request Answer)) :
    AllSteps (fleet gs).step? (fun _ _ s' => LaunchedOnce s') acts ⟨{}, []⟩ ↔
      AllSteps (fleet gs).step? (fun s a _ => StartsFirst s a) acts ⟨{}, []⟩ :=
  allSteps_iff (fun _ _ _ h hs => h.step_iff hs) (fun _ _ _ h hs honce => h.step hs honce) orderly_empty acts

/-- A request that starts a tunnel right behind its look at `On` is the first, unless a `Server` of it has
ended. -/
theorem startsFirst_of_check {gs : ListOps} {s s' : Threads Fleet Worker} {k : Nat} {tu : Tunnel} {w w' : Answer}
    (hk : s.threads[k]? = some (.check tu)) (hs : (fleet gs).step? s (.step k w) = some s')
    (hended : tu ∉ s.shared.ended) : StartsFirst s' (.step k w') := by
  obtain ⟨u, shared, u', new, hu, hnext, rfl⟩ := Program.step?_step.mp hs
  obtain rfl : u = .check tu := Option.some.inj (hu.symm.trans hk)
  have hlt : k < s.threads.length := (List.getElem?_eq_some_iff.mp hk).1
  simp only [fleet, nextWorker, Option.some.injEq, Prod.mk.injEq] at hnext
  obtain ⟨rfl, rfl, rfl⟩ := hnext
  unfold StartsFirst
  dsimp only
  rw [List.append_nil, List.getElem?_set_self hlt]
  split_ifs with hon
  · trivial
  · exact fun _ => ⟨Bool.eq_false_iff.mpr hon, hended⟩

/-! ### Two requests at once -/

/-- The tunnel the first request makes. -/
def tunnelC : Tunnel := ⟨0, str "c", str "quic", 40003⟩

/-- Both requests read `On` before the first one sets it. -/
def bothStart : List (Act Request Answer) :=
  [.call (.proxyGet none), .step 0 idleAnswer, .call (.proxyGet none), .step 1 idleAnswer, .step 0 idleAnswer,
    .step 1 idleAnswer, .step 0 idleAnswer, .step 1 idleAnswer]

/-- The tunnel is launched twice. As the second `Server` ends, the first one runs on, but the tunnel is off and
no longer in the list, and its port has been closed. -/
theorem not_launchedOnce :
    (∃ s, runAll (fleet sampleOps).step? bothStart ⟨{}, []⟩ = some s ∧ s.shared.launched = [tunnelC, tunnelC] ∧
      ¬LaunchedOnce s) ∧
    ∃ s, runAll (fleet sampleOps).step? (bothStart ++ [.step 3 idleAnswer, .step 3 idleAnswer, .step 3 idleAnswer])
        ⟨{}, []⟩ = some s ∧
      s.threads[2]? = some (.server tunnelC) ∧ s.shared.on tunnelC = false ∧
      s.shared.globals.tunnels = [] ∧ tunnelC.serverPort ∈ s.shared.globals.shared.closedPorts := by
  constructor
  · refine ⟨_, rfl, rfl, fun h => ?_⟩
    exact (List.nodup_cons.mp h).1 (List.mem_singleton.mpr rfl)
  · exact ⟨_, rfl, rfl, rfl, rfl, List.mem_cons_self⟩

end ProxyZ.Server
