import ProxyZ.Go.Threads
import ProxyZ.Server.Proxies

/-!
# Selecting a tunnel while others are added and deleted

`GetProxy` counts the tunnels in one locked region and uses the count as a divisor in up to five others, and
`DelProxy` publishes its list in a region of its own. A list that is published in between can be empty, and
`lastUse` can lie behind its end. `LockArea` has no `defer`: a division by zero keeps the lock, and every call
that comes to a locked region then waits.

No call of `GetProxy` fails in a run where every list that is published serves the calls that are running
(`getProxy_selects`). A list that is published without what they need can make one fail
(`canFail_of_not_publishesEnough`), at once if it is empty at the next region of a call (`next_of_empty`).
-/

namespace ProxyZ.Server

open Go

/-- How far a call is. A round of `GetProxy` has `left` rounds behind it. -/
inductive Call
  | getProxy
  | create (tunnel : Tunnel)
  | rotate
  | round (left : Nat)
  | compare (left : Nat) (otunnel tunnel : Option Tunnel)
  | returned (tunnel : Option Tunnel)
  | addProxy (c : Tunnel)
  | added
  | delProxy (name : Str)
  | publish (e : List (Option Tunnel)) (found : Bool)
  | deleted (found : Bool)
  | panicked

/-- The calls: `GetProxy` without a type, `AddProxy` of a tunnel, `DelProxy`. -/
inductive Start
  | getProxy
  | addProxy (c : Tunnel)
  | delProxy (name : Str)

def Start.call : Start → Call
  | .getProxy => .getProxy
  | .addProxy c => .addProxy c
  | .delProxy name => .delProxy name

/-- The variables, and whether the lock is taken between two steps: by a call that panicked. -/
structure Guarded where
  globals : Globals := {}
  locked : Bool := false

/-- `LockArea`. A panic in the region, `none`, keeps the lock. -/
def lockArea (s : Guarded) (region : Globals → Option (Globals × Call)) : Option (Guarded × Call × List Call) :=
  if s.locked then none
  else
    match region s.globals with
    | some (globals, call) => some ({ s with globals }, call, [])
    | none => some ({ s with locked := true }, .panicked, [])

/-- The next step of a call: a locked region and what it does before and behind it. -/
def next (gs : ListOps) (s : Guarded) : Call → Answer → Option (Guarded × Call × List Call)
  | .getProxy, w => lockArea s fun g =>
      if g.tunnels.length = 0 then
        let (tunnel, g) := newProxy (str "quic") w.conf g
        some (g, .create tunnel)
      else some (g, .rotate)
  | .create tunnel, _ => lockArea s fun g =>
      some ({ g with shared := addProxy (some tunnel) g.shared }, .returned (some tunnel))
  | .rotate, _ => lockArea s fun g => do
      let lastUse ← rotate g.tunnels.length g.lastUse
      return ({ g with lastUse }, .round 3)
  | .round left, _ => lockArea s fun g => do
      let (otunnel, tunnel, lastUse) ← neighbours gs g.tunnels g.lastUse
      return ({ g with lastUse }, .compare left otunnel tunnel)
  | .compare left (some otunnel) (some tunnel), w =>
      some (s, if goesOn w otunnel tunnel ∧ left ≠ 0 then .round (left - 1) else .returned (some tunnel), [])
  -- a nil tunnel has no configuration; the lock is not held here
  | .compare _ _ _, _ => some (s, .panicked, [])
  | .addProxy c, _ => lockArea s fun g => some ({ g with shared := addProxy (some c) g.shared }, .added)
  | .delProxy name, _ => lockArea s fun g =>
      let (e, found, shared) := filterTunnels name g.tunnels g.shared
      some ({ g with shared }, .publish e found)
  | .publish e found, _ => lockArea s fun g =>
      some ({ g with shared := { g.shared with tunnels := e } }, .deleted found)
  | .returned _, _ => none
  | .added, _ => none
  | .deleted _, _ => none
  | .panicked, _ => none

def selection (gs : ListOps) : Program Guarded Call Start Answer := ⟨Start.call, next gs⟩

abbrev Run := Threads Guarded Call

/-- **No call fails**: none has panicked, and what `GetProxy` returns is a tunnel. -/
def NoneFails (s : Run) : Prop := ∀ call ∈ s.threads, call ≠ .panicked ∧ call ≠ .returned none

/-- What a call of `GetProxy` needs of the list from now on: it is not empty, and once `lastUse` has been
reduced to the length of the list, that it stays inside. -/
def Call.Needs (n lastUse : Nat) : Call → Prop
  | .rotate => n ≠ 0
  | .round _ => lastUse < n
  | .compare left _ _ => left ≠ 0 → lastUse < n
  | _ => True

instance (n lastUse : Nat) : (call : Call) → Decidable (call.Needs n lastUse)
  | .rotate => inferInstanceAs (Decidable (n ≠ 0))
  | .round _ => inferInstanceAs (Decidable (lastUse < n))
  | .compare left _ _ => inferInstanceAs (Decidable (left ≠ 0 → lastUse < n))
  | .getProxy | .create _ | .returned _ | .addProxy _ | .added | .delProxy _ | .publish _ _ | .deleted _ | .panicked =>
      inferInstanceAs (Decidable True)

/-- A list that is published has what the running calls need. -/
def PublishesEnough (s : Run) (a : Act Start Answer) (_ : Run) : Prop :=
  match a with
  | .call _ => True
  | .step k _ =>
      match s.threads[k]? with
      | some (.publish e _) => ∀ call ∈ s.threads, call.Needs e.length s.shared.globals.lastUse
      | _ => True

/-! ### One step -/

/-- A call has not failed, and holds no nil. -/
def Call.Intact : Call → Prop
  | .compare _ otunnel tunnel => otunnel ≠ none ∧ tunnel ≠ none
  | .publish e _ => none ∉ e
  | .returned tunnel => tunnel ≠ none
  | .panicked => False
  | _ => True

/-- The lock is free, and the list has no nil and what the calls `ts` need. -/
structure Serves (s : Guarded) (ts : List Call) : Prop where
  free : s.locked = false
  nonnil : none ∉ s.globals.tunnels
  needs : ∀ call ∈ ts, call.Needs s.globals.tunnels.length s.globals.lastUse

section Step

variable {gs : ListOps} {s s' : Guarded} {ts new : List Call} {call call' : Call} {w : Answer}

theorem lockArea_free (hs : s.locked = false) {region : Globals → Option (Globals × Call)} {g : Globals}
    (hregion : region s.globals = some (g, call)) : lockArea s region = some ({ s with globals := g }, call, []) := by
  unfold lockArea
  rw [if_neg (by rw [hs]; exact Bool.false_ne_true), hregion]

theorem Call.Needs.of_lt {n k : Nat} {lastUse : Nat} (h : call.Needs n lastUse) (hk : k < n) : call.Needs n k := by
  cases call <;> first | exact h | exact hk | exact fun _ => hk

theorem Call.Needs.of_le {n m : Nat} {lastUse : Nat} (h : call.Needs n lastUse) (hm : n ≤ m) :
    call.Needs m lastUse := by
  cases call with
  | rotate =>
    intro hzero
    exact h (Nat.le_zero.mp (hzero ▸ hm))
  | round left => exact lt_of_lt_of_le h hm
  | compare left otunnel tunnel => exact fun hleft => lt_of_lt_of_le (h hleft) hm
  | _ => trivial

theorem Serves.lastUse (h : Serves s ts) {k : Nat} (hk : k < s.globals.tunnels.length) :
    Serves { s with globals := { s.globals with lastUse := k } } ts where
  free := h.free
  nonnil := h.nonnil
  needs := fun call hcall => (h.needs call hcall).of_lt hk

theorem Serves.add (h : Serves s ts) (c : Tunnel) :
    Serves { s with globals := { s.globals with shared := addProxy (some c) s.globals.shared } } ts where
  free := h.free
  nonnil := by
    intro hmem
    rcases List.mem_append.mp hmem with hold | hnew
    · exact h.nonnil hold
    · cases List.mem_singleton.mp hnew
  needs := by
    intro call hcall
    apply (h.needs call hcall).of_le
    show _ ≤ (_ ++ _ : List (Option Tunnel)).length
    rw [List.length_append]
    exact Nat.le_add_right _ _

theorem Serves.of_tunnels {g : Globals} (h : Serves s ts) (htunnels : g.tunnels = s.globals.tunnels)
    (hlast : g.lastUse = s.globals.lastUse) : Serves { s with globals := g } ts where
  free := h.free
  nonnil := by
    show none ∉ g.tunnels
    rw [htunnels]
    exact h.nonnil
  needs := by
    show ∀ call ∈ ts, call.Needs g.tunnels.length g.lastUse
    rw [htunnels, hlast]
    exact h.needs

/-- **A step of a call that is served** starts no other call and does not fail, and the other calls are still
served. -/
theorem next_intact (hgs : gs.Lawful) (hs : Serves s ts) (hcall : call.Intact)
    (hneeds : call.Needs s.globals.tunnels.length s.globals.lastUse)
    (hpublish : ∀ e found, call = .publish e found → ∀ u ∈ ts, u.Needs e.length s.globals.lastUse)
    (h : next gs s call w = some (s', call', new)) :
    Serves s' ts ∧ call'.Intact ∧ call'.Needs s'.globals.tunnels.length s'.globals.lastUse ∧ new = [] := by
  cases call with
  | getProxy =>
    simp only [next] at h
    by_cases hn : s.globals.tunnels.length = 0
    · rw [lockArea_free hs.free (if_pos hn)] at h
      cases h
      exact ⟨hs.of_tunnels rfl rfl, trivial, trivial, rfl⟩
    · rw [lockArea_free hs.free (if_neg hn)] at h
      cases h
      exact ⟨hs, trivial, hn, rfl⟩
  | create tunnel =>
    simp only [next] at h
    rw [lockArea_free hs.free rfl] at h
    cases h
    exact ⟨hs.add tunnel, Option.some_ne_none _, trivial, rfl⟩
  | rotate =>
    simp only [next] at h
    have hrotate : rotate s.globals.tunnels.length s.globals.lastUse =
        some ((s.globals.lastUse % s.globals.tunnels.length + 1) % s.globals.tunnels.length) := if_neg hneeds
    rw [lockArea_free hs.free (by rw [hrotate]; rfl)] at h
    cases h
    exact ⟨hs.lastUse (rotate_lt hrotate), trivial, rotate_lt hrotate, rfl⟩
  | round left =>
    simp only [next] at h
    obtain ⟨otunnel, tunnel, hround, -⟩ := neighbours_eq hgs hs.nonnil hneeds
    have hlast : (s.globals.lastUse + 1) % s.globals.tunnels.length < s.globals.tunnels.length :=
      Nat.mod_lt _ (Nat.zero_lt_of_lt hneeds)
    rw [lockArea_free hs.free (by rw [hround]; rfl)] at h
    cases h
    exact ⟨hs.lastUse hlast, ⟨Option.some_ne_none _, Option.some_ne_none _⟩, fun _ => hlast, rfl⟩
  | compare left otunnel tunnel =>
    obtain ⟨otunnel, rfl⟩ := Option.ne_none_iff_exists'.mp hcall.1
    obtain ⟨tunnel, rfl⟩ := Option.ne_none_iff_exists'.mp hcall.2
    simp only [next] at h
    split_ifs at h with hagain
    · cases h
      exact ⟨hs, trivial, hneeds hagain.2, rfl⟩
    · cases h
      exact ⟨hs, Option.some_ne_none _, trivial, rfl⟩
  | addProxy c =>
    simp only [next] at h
    rw [lockArea_free hs.free rfl] at h
    cases h
    exact ⟨hs.add c, trivial, trivial, rfl⟩
  | delProxy name =>
    simp only [next] at h
    rw [lockArea_free hs.free rfl] at h
    cases h
    exact ⟨hs.of_tunnels (tunnels_filterTunnels _ _ _) rfl, none_notMem_filterTunnels _ _ _, trivial, rfl⟩
  | publish e found =>
    simp only [next] at h
    rw [lockArea_free hs.free rfl] at h
    cases h
    exact ⟨⟨hs.free, hcall, hpublish e found rfl⟩, trivial, trivial, rfl⟩
  | returned tunnel => cases h
  | added => cases h
  | deleted found => cases h
  | panicked => cases h

/-- **A call that finds the list empty divides by zero**, and keeps the lock. -/
theorem next_of_empty (hs : s.locked = false) (hempty : s.globals.tunnels = [])
    (hcall : call = .rotate ∨ ∃ left, call = .round left) :
    next gs s call w = some ({ s with locked := true }, .panicked, []) := by
  have hlen : s.globals.tunnels.length = 0 := by rw [hempty, List.length_nil]
  rcases hcall with rfl | ⟨left, rfl⟩
  · simp only [next, lockArea, rotate, hs, hlen]
    rfl
  · simp only [next, lockArea, neighbours, hs, hlen]
    cases gs.nth s.globals.tunnels s.globals.lastUse <;> rfl

/-- **Once the lock is kept, it is kept for ever**, and nothing is changed any more. -/
theorem next_of_locked (hs : s.locked = true) (h : next gs s call w = some (s', call', new)) : s' = s := by
  have harea : ∀ region, lockArea s region = none := fun region => if_pos hs
  unfold next at h
  split at h <;> first | (rw [harea] at h; cases h) | (cases h; rfl) | cases h

end Step

/-! ### A call alone -/

/-- The steps of a call that nothing else disturbs. -/
def Alone (gs : ListOps) (w : Answer) : Guarded × Call → Guarded × Call → Prop :=
  Relation.ReflTransGen fun x y => next gs x.1 x.2 w = some (y.1, y.2, [])

section Alone

variable {gs : ListOps} {w : Answer} {g g' : Globals} {t : Tunnel}

theorem Alone.head {s s' : Guarded} {call call' : Call} {last : Guarded × Call}
    (h : next gs s call w = some (s', call', [])) (hrest : Alone gs w (s', call') last) : Alone gs w (s, call) last :=
  Relation.ReflTransGen.head h hrest

theorem Alone.refl (x : Guarded × Call) : Alone gs w x x := Relation.ReflTransGen.refl

theorem next_round {left k : Nat} {otunnel tunnel : Option Tunnel}
    (hround : neighbours gs g.tunnels g.lastUse = some (otunnel, tunnel, k)) :
    next gs ⟨g, false⟩ (.round left) w =
      some (⟨{ g with lastUse := k }, false⟩, .compare left otunnel tunnel, []) := by
  simp only [next]
  rw [lockArea_free rfl (by rw [hround]; rfl)]

theorem rounds_succ {l : List (Option Tunnel)} {n k lastUse : Nat} (h : rounds gs w l (n + 1) k = some (t, lastUse)) :
    ∃ otunnel tunnel k', neighbours gs l k = some (some otunnel, some tunnel, k') ∧
      (if goesOn w otunnel tunnel ∧ n ≠ 0 then rounds gs w l n k' else some (tunnel, k')) = some (t, lastUse) := by
  rw [rounds] at h
  obtain ⟨⟨otunnel, tunnel, k'⟩, hround, hrest⟩ := Option.bind_eq_some_iff.mp h
  obtain ⟨o, ho, hrest⟩ := Option.bind_eq_some_iff.mp hrest
  obtain ⟨u, hu, hrest⟩ := Option.bind_eq_some_iff.mp hrest
  subst ho
  subst hu
  exact ⟨o, u, k', hround, hrest⟩

theorem rounds_alone {left lastUse : Nat} (h : rounds gs w g.tunnels (left + 1) g.lastUse = some (t, lastUse)) :
    Alone gs w (⟨g, false⟩, .round left) (⟨{ g with lastUse }, false⟩, .returned (some t)) := by
  induction left generalizing g with
  | zero =>
    obtain ⟨otunnel, tunnel, k, hround, hrest⟩ := rounds_succ h
    rw [if_neg fun hagain => hagain.2 rfl] at hrest
    cases hrest
    have hcompare : next gs ⟨{ g with lastUse }, false⟩ (.compare 0 (some otunnel) (some t)) w =
        some (⟨{ g with lastUse }, false⟩, .returned (some t), []) := by
      simp only [next]
      rw [if_neg fun hagain => hagain.2 rfl]
    exact .head (next_round hround) (.head hcompare (.refl _))
  | succ left ih =>
    obtain ⟨otunnel, tunnel, k, hround, hrest⟩ := rounds_succ h
    apply Alone.head (next_round hround)
    split_ifs at hrest with hagain
    · have hcompare : next gs ⟨{ g with lastUse := k }, false⟩ (.compare (left + 1) (some otunnel) (some tunnel)) w =
          some (⟨{ g with lastUse := k }, false⟩, .round left, []) := by
        simp only [next]
        rw [if_pos hagain, Nat.add_sub_cancel]
      exact .head hcompare (ih (g := { g with lastUse := k }) hrest)
    · cases hrest
      have hcompare : next gs ⟨{ g with lastUse }, false⟩ (.compare (left + 1) (some otunnel) (some t)) w =
          some (⟨{ g with lastUse }, false⟩, .returned (some t), []) := by
        simp only [next]
        rw [if_neg hagain]
      exact .head hcompare (.refl _)

/-- **A call of `GetProxy` that nothing disturbs** takes its steps to what `getProxy` returns. -/
theorem getProxy_alone (h : getProxy gs w none g = some (t, g')) :
    Alone gs w (⟨g, false⟩, .getProxy) (⟨g', false⟩, .returned (some t)) := by
  unfold getProxy at h
  dsimp only at h
  split_ifs at h with hn
  · obtain ⟨rfl, rfl⟩ := Prod.mk.inj (Option.some.inj h)
    have hcount : next gs ⟨g, false⟩ .getProxy w = some (⟨(newProxy (str "quic") w.conf g).2, false⟩,
        .create (newProxy (str "quic") w.conf g).1, []) := by
      simp only [next]
      rw [lockArea_free rfl (if_pos hn)]
    have hadd : next gs ⟨(newProxy (str "quic") w.conf g).2, false⟩ (.create (newProxy (str "quic") w.conf g).1) w =
        some (⟨(makeProxy (str "quic") w.conf g).2, false⟩, .returned (some (makeProxy (str "quic") w.conf g).1), []) := by
      simp only [next]
      rw [lockArea_free rfl rfl]
      rfl
    exact .head hcount (.head hadd (.refl _))
  · obtain ⟨k, hrotate, h⟩ := Option.bind_eq_some_iff.mp h
    obtain ⟨⟨tunnel, lastUse⟩, hrounds, h⟩ := Option.bind_eq_some_iff.mp h
    cases h
    have hcount : next gs ⟨g, false⟩ .getProxy w = some (⟨g, false⟩, .rotate, []) := by
      simp only [next]
      rw [lockArea_free rfl (if_neg hn)]
    have hregion : next gs ⟨g, false⟩ .rotate w = some (⟨{ g with lastUse := k }, false⟩, .round 3, []) := by
      simp only [next]
      rw [lockArea_free rfl (by rw [hrotate]; rfl)]
    exact .head hcount (.head hregion (rounds_alone (g := { g with lastUse := k }) hrounds))

end Alone

/-! ### Runs -/

/-- What holds in a run until a call fails. -/
structure Healthy (s : Run) : Prop where
  serves : Serves s.shared s.threads
  intact : ∀ call ∈ s.threads, call.Intact

theorem Healthy.noneFails {s : Run} (h : Healthy s) : NoneFails s := by
  intro call hcall
  have hintact := h.intact call hcall
  constructor
  · rintro rfl
    exact hintact
  · rintro rfl
    exact hintact rfl

theorem Healthy.step {gs : ListOps} (hgs : gs.Lawful) {s s' : Run} {a : Act Start Answer} (h : Healthy s)
    (hs : (selection gs).step? s a = some s') (hpublish : PublishesEnough s a s') : Healthy s' := by
  cases a with
  | call i =>
    obtain rfl := Program.step?_call.mp hs
    refine ⟨⟨h.serves.free, h.serves.nonnil, each_append h.serves.needs ?_⟩, each_append h.intact ?_⟩
    · intro call hcall
      obtain rfl := List.mem_singleton.mp hcall
      cases i <;> trivial
    · intro call hcall
      obtain rfl := List.mem_singleton.mp hcall
      cases i <;> trivial
  | step k w =>
    obtain ⟨call, shared, call', new, hk, hnext, rfl⟩ := Program.step?_step.mp hs
    have hmem := List.mem_of_getElem? hk
    unfold PublishesEnough at hpublish
    dsimp only at hpublish
    rw [hk] at hpublish
    obtain ⟨hserves, hintact, hneeds, rfl⟩ := next_intact hgs h.serves (h.intact call hmem)
      (h.serves.needs call hmem) (fun e found he => by subst he; exact hpublish) hnext
    rw [List.append_nil]
    exact ⟨⟨hserves.free, hserves.nonnil, each_set hserves.needs hneeds⟩, each_set h.intact hintact⟩

theorem healthy_empty : Healthy ⟨{}, []⟩ where
  serves := ⟨rfl, List.not_mem_nil, fun _ hcall => absurd hcall List.not_mem_nil⟩
  intact := fun _ hcall => absurd hcall List.not_mem_nil

/-- **No call fails in a run where every list that is published has what the running calls need.** -/
theorem getProxy_selects {gs : ListOps} (hgs : gs.Lawful) {acts : List (Act Start Answer)} {s : Run}
    (hpublish : AllSteps (selection gs).step? PublishesEnough acts ⟨{}, []⟩)
    (hrun : runAll (selection gs).step? acts ⟨{}, []⟩ = some s) : NoneFails s :=
  (hpublish.invariant (fun _ _ _ h hs hp => h.step hgs hs hp) healthy_empty hrun).noneFails

/-! ### Lists that are too short -/

section Fails

variable {gs : ListOps} {s s' : Run} {k : Nat} {w : Answer}

/-- Some calls have steps to come after which one of them has failed. -/
def CanFail (gs : ListOps) (s : Run) : Prop :=
  ∃ acts s', runAll (selection gs).step? acts s = some s' ∧ ¬NoneFails s'

theorem step_of_next {call call' : Call} {shared : Guarded} (hk : s.threads[k]? = some call)
    (hnext : next gs s.shared call w = some (shared, call', [])) :
    (selection gs).step? s (.step k w) = some ⟨shared, s.threads.set k call'⟩ := by
  rw [← List.append_nil (s.threads.set k call')]
  exact Program.step?_step.mpr ⟨call, shared, call', [], hk, hnext, rfl⟩

theorem CanFail.of_step (h : CanFail gs s') (hs : (selection gs).step? s (.step k w) = some s') : CanFail gs s := by
  obtain ⟨acts, s'', hrun, hfails⟩ := h
  refine ⟨.step k w :: acts, s'', ?_, hfails⟩
  rw [runAll, hs]
  exact hrun

theorem canFail_of_panicked {call : Call} {shared : Guarded} (hk : s.threads[k]? = some call)
    (hnext : next gs s.shared call w = some (shared, .panicked, [])) : CanFail gs s := by
  have hlt : k < s.threads.length := (List.getElem?_eq_some_iff.mp hk).1
  refine CanFail.of_step ⟨[], _, rfl, fun h => ?_⟩ (step_of_next hk hnext)
  exact (h .panicked (List.mem_set hlt _)).1 rfl

/-- A round that finds `lastUse` behind the end of the list, where `Nth` gives nil or panics. -/
theorem canFail_round (hgs : gs.Lawful) (hout : ∀ l i, l.length ≤ i → gs.nth l i = none ∨ gs.nth l i = some none)
    {left : Nat} (hk : s.threads[k]? = some (.round left)) (hfree : s.shared.locked = false)
    (hlast : s.shared.globals.tunnels.length ≤ s.shared.globals.lastUse) (w : Answer) : CanFail gs s := by
  have hpanics : neighbours gs s.shared.globals.tunnels s.shared.globals.lastUse = none → CanFail gs s := by
    intro hround
    apply canFail_of_panicked (w := w) hk
    simp only [next, lockArea, hfree, hround]
    rfl
  by_cases hempty : s.shared.globals.tunnels = []
  · exact canFail_of_panicked hk (next_of_empty (w := w) hfree hempty (Or.inr ⟨left, rfl⟩))
  · have hpos : 0 < s.shared.globals.tunnels.length := List.length_pos_of_ne_nil hempty
    rcases hout _ _ hlast with hnone | hnil
    · apply hpanics
      unfold neighbours
      rw [hnone]
      rfl
    · have hlt : (s.shared.globals.lastUse + 1) % s.shared.globals.tunnels.length < s.shared.globals.tunnels.length :=
        Nat.mod_lt _ hpos
      obtain ⟨c, hc⟩ : ∃ c, s.shared.globals.tunnels[(s.shared.globals.lastUse + 1) %
          s.shared.globals.tunnels.length]? = some c := ⟨_, List.getElem?_eq_getElem hlt⟩
      have hround : neighbours gs s.shared.globals.tunnels s.shared.globals.lastUse =
          some (none, c, (s.shared.globals.lastUse + 1) % s.shared.globals.tunnels.length) := by
        unfold neighbours
        rw [hnil]
        simp only [Option.bind_eq_bind, Option.bind_some]
        rw [if_neg (Nat.ne_of_gt hpos), hgs.nth _ _ _ hc]
        rfl
      -- the tunnel before the next one is nil, and has no configuration
      have hnext : next gs s.shared (.round left) w = some (⟨{ s.shared.globals with
          lastUse := (s.shared.globals.lastUse + 1) % s.shared.globals.tunnels.length }, s.shared.locked⟩,
          .compare left none c, []) := by
        simp only [next]
        exact lockArea_free hfree (by rw [hround]; rfl)
      have hlt' : k < s.threads.length := (List.getElem?_eq_some_iff.mp hk).1
      have hpanics (shared : Guarded) : CanFail gs ⟨shared, s.threads.set k (.compare left none c)⟩ :=
        canFail_of_panicked (w := w) (List.getElem?_set_self hlt') rfl
      exact (hpanics _).of_step (step_of_next hk hnext)

/-- Clients with which `GetProxy` does not stop at `tunnel`. -/
theorem exists_goesOn (w : Answer) (otunnel tunnel : Tunnel) : ∃ w' : Answer, goesOn w' otunnel tunnel = true := by
  refine ⟨⟨w.conf, fun t => if t = tunnel then 1 else 0⟩, ?_⟩
  unfold goesOn
  by_cases he : otunnel = tunnel
  · subst he
    simp
  · simp [he]

/-- **A call that is not served can fail.** -/
theorem canFail_of_not_needs (hgs : gs.Lawful)
    (hout : ∀ l i, l.length ≤ i → gs.nth l i = none ∨ gs.nth l i = some none) (w : Answer) {call : Call}
    (hk : s.threads[k]? = some call) (hfree : s.shared.locked = false)
    (hneeds : ¬call.Needs s.shared.globals.tunnels.length s.shared.globals.lastUse) : CanFail gs s := by
  cases call with
  | rotate =>
    have hempty : s.shared.globals.tunnels = [] := List.eq_nil_of_length_eq_zero (not_not.mp hneeds)
    have hnext : next gs s.shared .rotate w = some ({ s.shared with locked := true }, .panicked, []) :=
      next_of_empty hfree hempty (Or.inl rfl)
    exact canFail_of_panicked hk hnext
  | round left => exact canFail_round hgs hout hk hfree (Nat.le_of_not_lt hneeds) w
  | compare left otunnel tunnel =>
    obtain ⟨hleft, hlast⟩ := Classical.not_imp.mp hneeds
    have hpanics : otunnel = none ∨ tunnel = none → CanFail gs s := by
      intro hnil
      have hnext : next gs s.shared (.compare left otunnel tunnel) w = some (s.shared, .panicked, []) := by
        cases otunnel <;> cases tunnel <;> first | rfl | simp at hnil
      exact canFail_of_panicked hk hnext
    cases otunnel with
    | none => exact hpanics (Or.inl rfl)
    | some otunnel =>
      cases tunnel with
      | none => exact hpanics (Or.inr rfl)
      | some tunnel =>
        obtain ⟨w', hagain⟩ := exists_goesOn w otunnel tunnel
        have hnext : next gs s.shared (.compare left (some otunnel) (some tunnel)) w' =
            some (s.shared, .round (left - 1), []) := by
          simp only [next]
          rw [if_pos ⟨hagain, hleft⟩]
        have hlt : k < s.threads.length := (List.getElem?_eq_some_iff.mp hk).1
        have hround : CanFail gs ⟨s.shared, s.threads.set k (.round (left - 1))⟩ :=
          canFail_round hgs hout (List.getElem?_set_self hlt) hfree (Nat.le_of_not_lt hlast) w
        exact hround.of_step (step_of_next hk hnext)
  | _ => exact absurd trivial hneeds

/-- **A list that is published too short can make a call fail**, if `Nth` gives nil or panics behind the end. -/
theorem canFail_of_not_publishesEnough (hgs : gs.Lawful)
    (hout : ∀ l i, l.length ≤ i → gs.nth l i = none ∨ gs.nth l i = some none) {a : Act Start Answer}
    (hfree : s.shared.locked = false) (hs : (selection gs).step? s a = some s') (hshort : ¬PublishesEnough s a s') :
    CanFail gs s' := by
  cases a with
  | call i => exact absurd trivial hshort
  | step k w =>
    obtain ⟨call, shared, call', new, hk, hnext, rfl⟩ := Program.step?_step.mp hs
    unfold PublishesEnough at hshort
    dsimp only at hshort
    rw [hk] at hshort
    cases call with
    | publish e found =>
      dsimp only at hshort
      push Not at hshort
      obtain ⟨u, hu, hneeds⟩ := hshort
      change next gs s.shared (.publish e found) w = _ at hnext
      simp only [next] at hnext
      rw [lockArea_free hfree rfl] at hnext
      cases hnext
      obtain ⟨j, hj⟩ := List.getElem?_of_mem hu
      -- the call that publishes needs nothing of the list
      have hjk : k ≠ j := by
        rintro rfl
        obtain rfl : Call.publish e found = u := Option.some.inj (hk.symm.trans hj)
        exact hneeds trivial
      have hj' : ((s.threads.set k (.deleted found)) ++ [])[j]? = some u := by
        rw [List.append_nil, List.getElem?_set_ne hjk, hj]
      exact canFail_of_not_needs hgs hout w hj' hfree hneeds
    | _ => exact absurd trivial hshort

end Fails

/-! ### Two runs -/

/-- `a` and `b` are added, and a call of `GetProxy` counts them. -/
def counted : List (Act Start Answer) :=
  [.call (.addProxy tunnelA), .step 0 idleAnswer, .call (.addProxy tunnelB), .step 1 idleAnswer, .call .getProxy,
    .step 2 idleAnswer]

/-- `a` is deleted, and the call finds `b`, the only tunnel left, in all rounds. -/
def deletedOne : List (Act Start Answer) :=
  counted ++ [.call (.delProxy (str "a")), .step 3 idleAnswer, .step 3 idleAnswer] ++
    List.replicate 9 (.step 2 idleAnswer)

theorem deletedOne_publishes : AllSteps (selection sampleOps).step? PublishesEnough deletedOne ⟨{}, []⟩ := by
  refine .cons rfl trivial (.cons rfl trivial (.cons rfl trivial (.cons rfl trivial (.cons rfl trivial
    (.cons rfl trivial (.cons rfl trivial (.cons rfl trivial (.cons rfl ?_ ?_))))))))
  · show ∀ call ∈ [Call.added, .added, .rotate, .publish [some tunnelB] true], call.Needs 1 0
    decide
  · exact .cons rfl trivial (.cons rfl trivial (.cons rfl trivial (.cons rfl trivial (.cons rfl trivial
      (.cons rfl trivial (.cons rfl trivial (.cons rfl trivial (.cons rfl trivial trivial))))))))

theorem getProxy_selects_deleted :
    ∃ s, runAll (selection sampleOps).step? deletedOne ⟨{}, []⟩ = some s ∧
      s.threads[2]? = some (.returned (some tunnelB)) ∧ NoneFails s := by
  obtain ⟨s, hrun⟩ : ∃ s, runAll (selection sampleOps).step? deletedOne ⟨{}, []⟩ = some s := ⟨_, rfl⟩
  refine ⟨s, hrun, ?_, getProxy_selects sampleOps_lawful deletedOne_publishes hrun⟩
  cases hrun
  rfl

/-- Both are deleted before the call goes on. It divides by zero, and keeps the lock. -/
theorem not_noneFails :
    ∃ s, runAll (selection sampleOps).step? (counted ++ [.call (.delProxy (str "a")), .step 3 idleAnswer,
        .step 3 idleAnswer, .call (.delProxy (str "b")), .step 4 idleAnswer, .step 4 idleAnswer, .step 2 idleAnswer])
        ⟨{}, []⟩ = some s ∧ ¬NoneFails s ∧ s.shared.locked = true := by
  refine ⟨_, rfl, fun h => ?_, rfl⟩
  exact (h .panicked (List.mem_of_getElem? (i := 2) rfl)).1 rfl

end ProxyZ.Server
