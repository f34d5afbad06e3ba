import Mathlib.Data.List.ReduceOption
import ProxyZ.Go.Dict
import ProxyZ.Go.Program

/-!
# The tunnel registry

The server keeps its tunnels in a list. `AddProxy` appends to it in one locked step. `DelProxy` filters a
snapshot of the list without the lock and publishes what stays in a locked step of its own, so the steps of
other calls can come between the two.

A run is a sequence of the steps of any number of calls. The registry keeps for each call of `DelProxy` the
list it is about to publish, and, for the statements only, the tunnels that had been added when it started.
No update is lost in a run where every list that is published still fits what has happened since its snapshot
(`registryRun_sound`); a call that is not disturbed always publishes such a list (`delProxy_alone`).
-/

namespace ProxyZ.Server

open Go

/-- A `*base.ProxyTunnel`: which one it is, and what the registry reads of its configuration. -/
structure Tunnel where
  ref : Nat
  id : Str
  proxyType : Str
  serverPort : Nat
  deriving DecidableEq, Repr

/-- The variables the calls share, and what has been asked of the tunnels and the firewall. -/
structure Shared where
  tunnels : List (Option Tunnel) := []
  errTypeCount : Dict Int := ((AList.insert (str "tls") 0 ∅).insert (str "kcp") 0).insert (str "quic") 0
  waitToClose : List Tunnel := []
  closedPorts : List Nat := []

def addProxy (c : Option Tunnel) (s : Shared) : Shared := { s with tunnels := s.tunnels ++ [c] }

/-- What `DelProxy` does with a tunnel it finds. -/
def closeTunnel (tun : Tunnel) (s : Shared) : Shared :=
  { s with
    errTypeCount :=
      if s.errTypeCount.has tun.proxyType then
        s.errTypeCount.insert tun.proxyType (s.errTypeCount.get tun.proxyType 0 + 1)
      else s.errTypeCount
    waitToClose := s.waitToClose ++ [tun]
    closedPorts := s.closedPorts ++ [tun.serverPort] }

/-- The loop of `DelProxy` over its snapshot: the list that stays, and whether a tunnel was found. -/
def filterTunnels (name : Str) : List (Option Tunnel) → Shared → List (Option Tunnel) × Bool × Shared
  | [], s => ([], false, s)
  | none :: rest, s => filterTunnels name rest s
  | some tun :: rest, s =>
      if tun.id = name then
        let (e, _, s) := filterTunnels name rest (closeTunnel tun s)
        (e, true, s)
      else
        let (e, found, s) := filterTunnels name rest s
        (some tun :: e, found, s)

/-- A call of `DelProxy` from its snapshot on. `before` holds the tunnels added before the call started. -/
structure DelCall where
  name : Str
  e : List (Option Tunnel)
  found : Bool
  before : List Tunnel
  finished : Bool := false

/-- The registry, with every tunnel added so far and every call of `DelProxy` so far. -/
structure Registry where
  shared : Shared := {}
  added : List Tunnel := []
  calls : List DelCall := []

/-- A step of one of the calls: `AddProxy`, or one of the two halves of a `DelProxy`. -/
inductive Action
  | add (c : Option Tunnel)
  | start (name : Str)
  | publish (k : Nat)

/-- The step, `none` where it cannot be taken: a tunnel is made by the call that adds it, and a call
publishes once. -/
def step? (s : Registry) : Action → Option Registry
  | .add c =>
      if ∀ t ∈ c, t ∉ s.added then some { s with shared := addProxy c s.shared, added := s.added ++ c.toList }
      else none
  | .start name =>
      let (e, found, shared) := filterTunnels name s.shared.tunnels s.shared
      some { s with shared, calls := s.calls ++ [{ name, e, found, before := s.added }] }
  | .publish k => do
      let d ← s.calls[k]?
      if d.finished then none
      else some { s with shared := { s.shared with tunnels := d.e }, calls := s.calls.set k { d with finished := true } }

/-- Some call of `DelProxy` names the tunnel. -/
def Named (s : Registry) (t : Tunnel) : Prop := ∃ d ∈ s.calls, d.name = t.id

/-- A call of `DelProxy` that named the tunnel and started after it was added has finished. -/
def Deleted (s : Registry) (t : Tunnel) : Prop :=
  ∃ d ∈ s.calls, d.finished = true ∧ t ∈ d.before ∧ d.name = t.id

/-- **No update is lost**: once all calls have finished, every tunnel that no call names is there, and no
deleted tunnel is. -/
def NoLostUpdate (s : Registry) : Prop :=
  (∀ d ∈ s.calls, d.finished = true) →
    (∀ t ∈ s.added, ¬Named s t → some t ∈ s.shared.tunnels) ∧
      ∀ t, Deleted s t → some t ∉ s.shared.tunnels

/-- The list about to be published fits what has happened since its snapshot: it lacks no tunnel of the
registry but those that some call names, and it has no tunnel that has been deleted. -/
def StillFits (s : Registry) (d : DelCall) : Prop :=
  (∀ t, some t ∈ s.shared.tunnels → some t ∈ d.e ∨ Named s t) ∧ ∀ t, some t ∈ d.e → ¬Deleted s t

/-- A step of a run in which every list fits that is published. -/
def FittingStep (s s' : Registry) : Prop :=
  ∃ a, step? s a = some s' ∧ ∀ k d, a = .publish k → s.calls[k]? = some d → StillFits s d

/-! ### The filter -/

theorem mem_filterTunnels {name : Str} {l : List (Option Tunnel)} {s : Shared} {t : Tunnel} :
    some t ∈ (filterTunnels name l s).1 ↔ some t ∈ l ∧ t.id ≠ name := by
  induction l generalizing s with
  | nil => simp [filterTunnels]
  | cons c rest ih =>
    cases c with
    | none => simp [filterTunnels, ih]
    | some tun =>
      unfold filterTunnels
      split_ifs with hname
      · dsimp only
        rw [ih, List.mem_cons, Option.some.injEq]
        constructor
        · intro h
          exact ⟨Or.inr h.1, h.2⟩
        · rintro ⟨rfl | hrest, hne⟩
          · exact absurd hname hne
          · exact ⟨hrest, hne⟩
      · dsimp only
        rw [List.mem_cons, List.mem_cons, ih, Option.some.injEq]
        constructor
        · rintro (rfl | h)
          · exact ⟨Or.inl rfl, hname⟩
          · exact ⟨Or.inr h.1, h.2⟩
        · rintro ⟨rfl | hrest, hne⟩
          · exact Or.inl rfl
          · exact Or.inr ⟨hrest, hne⟩

theorem tunnels_filterTunnels (name : Str) (l : List (Option Tunnel)) (s : Shared) :
    (filterTunnels name l s).2.2.tunnels = s.tunnels := by
  induction l generalizing s with
  | nil => rfl
  | cons c rest ih =>
    cases c with
    | none => exact ih s
    | some tun =>
      unfold filterTunnels
      split_ifs
      · exact ih (closeTunnel tun s)
      · exact ih s

/-- The tunnels that stay. -/
theorem reduceOption_filterTunnels (name : Str) (l : List (Option Tunnel)) (s : Shared) :
    (filterTunnels name l s).1.reduceOption = l.reduceOption.filter fun t => t.id ≠ name := by
  induction l generalizing s with
  | nil => rfl
  | cons c rest ih =>
    cases c with
    | none =>
      rw [List.reduceOption_cons_of_none]
      exact ih s
    | some tun =>
      unfold filterTunnels
      split_ifs with hname
      · rw [List.reduceOption_cons_of_some, List.filter_cons_of_neg (by simpa using hname)]
        exact ih _
      · dsimp only
        rw [List.reduceOption_cons_of_some, List.reduceOption_cons_of_some,
          List.filter_cons_of_pos (by simpa using hname), ih]

/-- The ports that are closed: those of the tunnels with the ID. -/
theorem closedPorts_filterTunnels (name : Str) (l : List (Option Tunnel)) (s : Shared) :
    (filterTunnels name l s).2.2.closedPorts =
      s.closedPorts ++ (l.reduceOption.filter fun t => t.id = name).map Tunnel.serverPort := by
  induction l generalizing s with
  | nil => exact (List.append_nil _).symm
  | cons c rest ih =>
    cases c with
    | none =>
      rw [List.reduceOption_cons_of_none]
      exact ih s
    | some tun =>
      unfold filterTunnels
      split_ifs with hname
      · rw [List.reduceOption_cons_of_some, List.filter_cons_of_pos (by simpa using hname), List.map_cons]
        exact (ih _).trans (List.append_assoc _ _ _)
      · rw [List.reduceOption_cons_of_some, List.filter_cons_of_neg (by simpa using hname)]
        exact ih s

/-! ### What the steps keep -/

/-- No update is lost so far, whatever calls are still running. -/
structure Sound (s : Registry) : Prop where
  known : ∀ t, some t ∈ s.shared.tunnels → t ∈ s.added
  snapshots : ∀ d ∈ s.calls, ∀ t, some t ∈ d.e → t ∈ s.added ∧ t.id ≠ d.name
  before : ∀ d ∈ s.calls, ∀ t ∈ d.before, t ∈ s.added
  kept : ∀ t ∈ s.added, ¬Named s t → some t ∈ s.shared.tunnels
  gone : ∀ t, Deleted s t → some t ∉ s.shared.tunnels

theorem Sound.noLostUpdate {s : Registry} (h : Sound s) : NoLostUpdate s := fun _ => ⟨h.kept, h.gone⟩

theorem sound_empty : Sound {} where
  known := by simp
  snapshots := by simp
  before := by simp
  kept := by simp
  gone := by simp

theorem Sound.add {s s' : Registry} (h : Sound s) {c : Option Tunnel} (hs : step? s (.add c) = some s') :
    Sound s' := by
  simp only [step?] at hs
  split_ifs at hs with hnew
  cases hs
  have hmem : ∀ t, some t ∈ s.shared.tunnels ++ [c] ↔ some t ∈ s.shared.tunnels ∨ t ∈ c := by
    intro t
    rw [List.mem_append, List.mem_singleton, Option.mem_def, eq_comm (a := some t)]
  refine ⟨?_, ?_, ?_, ?_, ?_⟩
  · intro t ht
    rcases (hmem t).mp ht with ht | ht
    · exact List.mem_append_left _ (h.known t ht)
    · exact List.mem_append_right _ (Option.mem_toList.mpr ht)
  · intro d hd t ht
    exact ⟨List.mem_append_left _ (h.snapshots d hd t ht).1, (h.snapshots d hd t ht).2⟩
  · intro d hd t ht
    exact List.mem_append_left _ (h.before d hd t ht)
  · intro t ht hnamed
    rcases List.mem_append.mp ht with ht | ht
    · exact (hmem t).mpr (Or.inl (h.kept t ht hnamed))
    · exact (hmem t).mpr (Or.inr (Option.mem_toList.mp ht))
  · rintro t ⟨d, hd, hfin, hbefore, hname⟩ ht
    rcases (hmem t).mp ht with ht | ht
    · exact h.gone t ⟨d, hd, hfin, hbefore, hname⟩ ht
    · exact hnew t ht (h.before d hd t hbefore)

theorem Sound.start {s s' : Registry} (h : Sound s) {name : Str} (hs : step? s (.start name) = some s') :
    Sound s' := by
  simp only [step?] at hs
  cases hs
  refine ⟨?_, ?_, ?_, ?_, ?_⟩
  · intro t ht
    rw [tunnels_filterTunnels] at ht
    exact h.known t ht
  · intro d hd t ht
    rcases List.mem_append.mp hd with hd | hd
    · exact h.snapshots d hd t ht
    · obtain rfl := List.mem_singleton.mp hd
      obtain ⟨hmem, hne⟩ := mem_filterTunnels.mp ht
      exact ⟨h.known t hmem, hne⟩
  · intro d hd t ht
    rcases List.mem_append.mp hd with hd | hd
    · exact h.before d hd t ht
    · obtain rfl := List.mem_singleton.mp hd
      exact ht
  · intro t ht hnamed
    rw [tunnels_filterTunnels]
    exact h.kept t ht fun ⟨d, hd, hname⟩ => hnamed ⟨d, List.mem_append_left _ hd, hname⟩
  · rintro t ⟨d, hd, hfin, hbefore, hname⟩
    rw [tunnels_filterTunnels]
    rcases List.mem_append.mp hd with hd | hd
    · exact h.gone t ⟨d, hd, hfin, hbefore, hname⟩
    · obtain rfl := List.mem_singleton.mp hd
      exact absurd hfin Bool.false_ne_true

theorem publish_eq_some {s s' : Registry} {k : Nat} (hs : step? s (.publish k) = some s') :
    ∃ d, s.calls[k]? = some d ∧ d.finished = false ∧
      s' = { s with
        shared := { s.shared with tunnels := d.e }
        calls := s.calls.set k { d with finished := true } } := by
  simp only [step?] at hs
  obtain ⟨d, hd, hs⟩ := Option.bind_eq_some_iff.mp hs
  split_ifs at hs with hfin
  cases hs
  exact ⟨d, hd, by simpa using hfin, rfl⟩

section Publish

variable {s : Registry} {k : Nat} {d : DelCall}

theorem exists_mem_set (hd : s.calls[k]? = some d) (P : DelCall → Prop) :
    (∃ d' ∈ s.calls.set k { d with finished := true }, P d') ↔
      P { d with finished := true } ∨ ∃ j d', j ≠ k ∧ s.calls[j]? = some d' ∧ P d' := by
  have hlt : k < s.calls.length := (List.getElem?_eq_some_iff.mp hd).1
  constructor
  · rintro ⟨d', hmem, hP⟩
    obtain ⟨j, hj⟩ := List.getElem?_of_mem hmem
    by_cases hjk : k = j
    · subst hjk
      rw [List.getElem?_set_self hlt] at hj
      cases hj
      exact Or.inl hP
    · rw [List.getElem?_set_ne hjk] at hj
      exact Or.inr ⟨j, d', Ne.symm hjk, hj, hP⟩
  · rintro (hP | ⟨j, d', hjk, hj, hP⟩)
    · exact ⟨_, List.mem_set hlt _, hP⟩
    · refine ⟨d', List.mem_of_getElem? (i := j) ?_, hP⟩
      rw [List.getElem?_set_ne (Ne.symm hjk)]
      exact hj

theorem exists_mem_calls (hd : s.calls[k]? = some d) (P : DelCall → Prop) :
    (∃ d' ∈ s.calls, P d') ↔ P d ∨ ∃ j d', j ≠ k ∧ s.calls[j]? = some d' ∧ P d' := by
  constructor
  · rintro ⟨d', hmem, hP⟩
    obtain ⟨j, hj⟩ := List.getElem?_of_mem hmem
    by_cases hjk : j = k
    · subst hjk
      obtain rfl : d' = d := Option.some.inj (hj.symm.trans hd)
      exact Or.inl hP
    · exact Or.inr ⟨j, d', hjk, hj, hP⟩
  · rintro (hP | ⟨j, d', -, hj, hP⟩)
    · exact ⟨d, List.mem_of_getElem? hd, hP⟩
    · exact ⟨d', List.mem_of_getElem? hj, hP⟩

theorem named_publish (hd : s.calls[k]? = some d) (shared : Shared) (t : Tunnel) :
    Named { s with shared, calls := s.calls.set k { d with finished := true } } t ↔ Named s t := by
  unfold Named
  rw [exists_mem_set hd, exists_mem_calls hd]

/-- A tunnel counts as deleted once the call has finished if it did before or if the call deleted it. -/
theorem deleted_publish (hd : s.calls[k]? = some d) (hfin : d.finished = false) (shared : Shared) (t : Tunnel) :
    Deleted { s with shared, calls := s.calls.set k { d with finished := true } } t ↔
      (t ∈ d.before ∧ d.name = t.id) ∨ Deleted s t := by
  unfold Deleted
  rw [exists_mem_set hd, exists_mem_calls hd, hfin]
  simp

end Publish

/-- **Publishing keeps the registry sound exactly if the list still fits.** -/
theorem sound_publish_iff {s s' : Registry} (h : Sound s) {k : Nat} {d : DelCall}
    (hd : s.calls[k]? = some d) (hs : step? s (.publish k) = some s') : Sound s' ↔ StillFits s d := by
  obtain ⟨d', hd', hfin, rfl⟩ := publish_eq_some hs
  obtain rfl : d' = d := Option.some.inj (hd'.symm.trans hd)
  have hmem : d' ∈ s.calls := List.mem_of_getElem? hd
  have hcalls : ∀ c ∈ s.calls.set k { d' with finished := true }, ∃ c' ∈ s.calls,
      c.e = c'.e ∧ c.name = c'.name ∧ c.before = c'.before := by
    intro c hc
    rcases List.mem_or_eq_of_mem_set hc with hc | rfl
    · exact ⟨c, hc, rfl, rfl, rfl⟩
    · exact ⟨d', hmem, rfl, rfl, rfl⟩
  constructor
  · intro h'
    constructor
    · intro t ht
      by_cases hnamed : Named s t
      · exact Or.inr hnamed
      · exact Or.inl (h'.kept t (h.known t ht) fun hn => hnamed ((named_publish hd _ t).mp hn))
    · intro t ht hdel
      exact h'.gone t ((deleted_publish hd hfin _ t).mpr (Or.inr hdel)) ht
  · rintro ⟨hlacks, hhas⟩
    refine ⟨fun t ht => (h.snapshots d' hmem t ht).1, ?_, ?_, ?_, ?_⟩
    · intro c hc t ht
      obtain ⟨c', hc', he, hname, -⟩ := hcalls c hc
      rw [he] at ht
      rw [hname]
      exact h.snapshots c' hc' t ht
    · intro c hc t ht
      obtain ⟨c', hc', -, -, hbefore⟩ := hcalls c hc
      rw [hbefore] at ht
      exact h.before c' hc' t ht
    · intro t ht hnamed
      have hnamed' : ¬Named s t := fun hn => hnamed ((named_publish hd _ t).mpr hn)
      exact (hlacks t (h.kept t ht hnamed')).resolve_right hnamed'
    · intro t hdel ht
      rcases (deleted_publish hd hfin _ t).mp hdel with ⟨-, hname⟩ | hdel
      · exact (h.snapshots d' hmem t ht).2 hname.symm
      · exact hhas t ht hdel

theorem Sound.step {s s' : Registry} (h : Sound s) (hs : FittingStep s s') : Sound s' := by
  obtain ⟨a, hs, hfits⟩ := hs
  cases a with
  | add c => exact h.add hs
  | start name => exact h.start hs
  | publish k =>
    obtain ⟨d, hd, -, -⟩ := publish_eq_some hs
    exact (sound_publish_iff h hd hs).mpr (hfits k d rfl hd)

/-! ### Runs -/

/-- **No update is lost in a run where every list fits that is published.** -/
theorem registryRun_sound {s : Registry} (hrun : Relation.ReflTransGen FittingStep {} s) : NoLostUpdate s :=
  (run_invariant (fun _ _ h hs => h.step hs) sound_empty hrun).noLostUpdate

def tunnelA : Tunnel := ⟨0, str "a", str "tls", 40001⟩

def tunnelB : Tunnel := ⟨1, str "b", str "kcp", 40002⟩

/-- The states of a run, `none` where one of its steps cannot be taken. -/
def run? : List Action → Registry → Option Registry
  | [], s => some s
  | a :: rest, s => step? s a >>= run? rest

theorem registryRun_sound_delete :
    ∃ s, run? [.add (some tunnelA), .start (str "a"), .publish 0, .add (some tunnelB)] {} = some s ∧
      s.shared.tunnels = [some tunnelB] ∧ NoLostUpdate s := by
  refine ⟨_, rfl, rfl, registryRun_sound ?_⟩
  refine .head ⟨.add (some tunnelA), rfl, nofun⟩ (.head ⟨.start (str "a"), rfl, nofun⟩
    (.head ⟨.publish 0, rfl, ?_⟩ (.single ⟨.add (some tunnelB), rfl, nofun⟩)))
  intro k d hk hd
  cases hk
  cases hd
  constructor
  · intro t ht
    cases List.mem_singleton.mp ht
    exact Or.inr ⟨_, List.mem_singleton_self _, rfl⟩
  · intro t ht
    exact absurd ht List.not_mem_nil

/-- `b` is added while `a` is being deleted, and is lost. And `a` and `b` are deleted at once, and `b` comes
back. -/
theorem not_noLostUpdate :
    (∃ s, run? [.add (some tunnelA), .start (str "a"), .add (some tunnelB), .publish 0] {} = some s ∧
      ¬NoLostUpdate s) ∧
    ∃ s, run? [.add (some tunnelA), .add (some tunnelB), .start (str "a"), .start (str "b"), .publish 1,
      .publish 0] {} = some s ∧ ¬NoLostUpdate s := by
  constructor
  · refine ⟨_, rfl, fun h => ?_⟩
    have hkept := (h (by decide)).1 tunnelB (by decide)
    exact absurd (hkept (by unfold Named; decide)) (by decide)
  · refine ⟨_, rfl, fun h => ?_⟩
    have hgone := (h (by decide)).2 tunnelB
    exact absurd (by decide) (hgone (by unfold Deleted; decide))

/-- A call of `DelProxy` that no other step disturbs publishes a list that fits. -/
theorem delProxy_alone {s s' : Registry} (h : Sound s) {name : Str} {d : DelCall}
    (hs : step? s (.start name) = some s') (hd : s'.calls[s.calls.length]? = some d) : StillFits s' d := by
  have h' := h.start hs
  simp only [step?] at hs
  cases hs
  rw [List.getElem?_concat_length] at hd
  cases hd
  constructor
  · intro t ht
    rw [tunnels_filterTunnels] at ht
    by_cases hname : t.id = name
    · exact Or.inr ⟨_, List.mem_append_right _ (List.mem_singleton_self _), hname.symm⟩
    · exact Or.inl (mem_filterTunnels.mpr ⟨ht, hname⟩)
  · intro t ht hdel
    apply h'.gone t hdel
    rw [tunnels_filterTunnels]
    exact (mem_filterTunnels.mp ht).1

end ProxyZ.Server
