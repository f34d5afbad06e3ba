import Mathlib.Data.List.ReduceOption
import ProxyZ.Server.Registry

/-!
# Selecting and making tunnels

`GetProxy` without a type walks around the list of tunnels from `lastUse`, at most four rounds, until the next
tunnel is of another type and no busier. With a type it takes the last tunnel of that type. Where there is none
it makes one and adds it.

Here the functions are called one at a time; `ProxyZ.Server.Select` takes the untyped `GetProxy` apart into its
locked regions. The methods of `gs.List` are not in the repository: `ListOps` stands for them.
-/

namespace ProxyZ.Server

open Go

/-- What `RandomConfig` draws for a new tunnel. -/
structure Conf where
  id : Str
  serverPort : Nat

/-- The variables of the package, and how many tunnels have been made. -/
structure Globals where
  shared : Shared := {}
  lastUse : Nat := 0
  made : Nat := 0

/-- The methods of `gs.List` that select a tunnel, `none` where they panic. `sort` returns a list, and the order
it leaves its receiver in. -/
structure ListOps where
  nth : List (Option Tunnel) → Nat → Option (Option Tunnel)
  sort : (Tunnel → Tunnel → Bool) → List (Option Tunnel) → List (Option Tunnel) × List (Option Tunnel)

structure ListOps.Lawful (gs : ListOps) : Prop where
  nth : ∀ l i c, l[i]? = some c → gs.nth l i = some c
  sort : ∀ less l, (gs.sort less l).1.Perm l ∧ (gs.sort less l).2.Perm l

/-- What a call finds outside the server: the configuration of a tunnel it makes, and the clients of a tunnel. -/
structure Answer where
  conf : Conf
  clientNum : Tunnel → Int

def Globals.tunnels (g : Globals) : List (Option Tunnel) := g.shared.tunnels

def newProxy (tp : Str) (conf : Conf) (g : Globals) : Tunnel × Globals :=
  let proxyType :=
    if tp = str "tls" then str "tls"
    else if tp = str "kcp" then str "kcp"
    else if tp = str "quic" then str "quic"
    else str "tls"
  ({ ref := g.made, id := conf.id, proxyType, serverPort := conf.serverPort }, { g with made := g.made + 1 })

/-- `NewProxy` and `AddProxy` behind it. -/
def makeProxy (tp : Str) (conf : Conf) (g : Globals) : Tunnel × Globals :=
  let (tunnel, g) := newProxy tp conf g
  (tunnel, { g with shared := addProxy (some tunnel) g.shared })

/-! ### The locked regions of `GetProxy` -/

/-- The region behind the count: `lastUse` moves on. `none` is the division by zero. -/
def rotate (n lastUse : Nat) : Option Nat := if n = 0 then none else some ((lastUse % n + 1) % n)

/-- The region of a round: `otunnel`, the `tunnel` behind it, and `lastUse`. -/
def neighbours (gs : ListOps) (l : List (Option Tunnel)) (lastUse : Nat) :
    Option (Option Tunnel × Option Tunnel × Nat) := do
  let otunnel ← gs.nth l lastUse
  if l.length = 0 then none
  else
    let lastUse := (lastUse + 1) % l.length
    let tunnel ← gs.nth l lastUse
    return (otunnel, tunnel, lastUse)

/-- The condition of the `continue` in `GetProxy`. -/
def goesOn (w : Answer) (otunnel tunnel : Tunnel) : Bool :=
  tunnel.proxyType = otunnel.proxyType || w.clientNum otunnel < w.clientNum tunnel

/-- The rounds of `GetProxy` that are left. Behind the last one the tunnel is returned in any case. -/
def rounds (gs : ListOps) (w : Answer) (l : List (Option Tunnel)) : Nat → Nat → Option (Tunnel × Nat)
  | 0, _ => none
  | n + 1, lastUse => do
      let (otunnel, tunnel, lastUse) ← neighbours gs l lastUse
      -- a nil tunnel has no configuration
      let otunnel ← otunnel
      let tunnel ← tunnel
      if goesOn w otunnel tunnel ∧ n ≠ 0 then rounds gs w l n lastUse else return (tunnel, lastUse)

/-- `GetProxy`, where `none` is a panic. -/
def getProxy (gs : ListOps) (w : Answer) (proxyType : Option Str) (g : Globals) : Option (Tunnel × Globals) :=
  match proxyType with
  | none =>
      if g.tunnels.length = 0 then some (makeProxy (str "quic") w.conf g)
      else do
        let lastUse ← rotate g.tunnels.length g.lastUse
        let (tunnel, lastUse) ← rounds gs w g.tunnels 4 lastUse
        return (tunnel, { g with lastUse })
  | some tp =>
      let (nts, tunnels) := gs.sort (fun l r => w.clientNum l < w.clientNum r) g.tunnels
      let g := { g with shared := { g.shared with tunnels } }
      if none ∈ nts then none
      else
        match (nts.reduceOption.filter fun i => i.proxyType = tp).getLast? with
        | none => some (makeProxy tp w.conf g)
        | some tu => some (tu, g)

/-- `NewProxyByErrCount`. -/
def newProxyByErrCount (w : Answer) (g : Globals) : Tunnel × Globals :=
  let tlsnum := g.shared.errTypeCount.get (str "tls") 0
  let kcpnum := g.shared.errTypeCount.get (str "kcp") 0
  let quicum := g.shared.errTypeCount.get (str "quic") 0
  if quicum < tlsnum then makeProxy (str "quic") w.conf g
  else if kcpnum < tlsnum then makeProxy (str "kcp") w.conf g
  else makeProxy (str "tls") w.conf g

/-- `DelProxy`. -/
def delProxy (name : Str) (g : Globals) : Bool × Globals :=
  let (e, found, shared) := filterTunnels name g.tunnels g.shared
  (found, { g with shared := { shared with tunnels := e } })

/-! ### What the functions do to the list -/

/-- The list holds no nil, and no tunnel that is not made yet. -/
structure Proper (g : Globals) : Prop where
  nonnil : none ∉ g.tunnels
  made : ∀ t, some t ∈ g.tunnels → t.ref < g.made

theorem proper_empty : Proper {} where
  nonnil := List.not_mem_nil
  made := by
    intro t ht
    exact absurd ht List.not_mem_nil

/-- `t` is made, and added to the list. -/
structure Makes (g : Globals) (t : Tunnel) (g' : Globals) : Prop where
  ref : t.ref = g.made
  made : g'.made = g.made + 1
  tunnels : ∀ c, c ∈ g'.tunnels ↔ c ∈ g.tunnels ∨ c = some t

/-- `t` is a tunnel of the list, and the list keeps its tunnels. -/
structure Finds (g : Globals) (t : Tunnel) (g' : Globals) : Prop where
  mem : some t ∈ g.tunnels
  made : g'.made = g.made
  tunnels : ∀ c, c ∈ g'.tunnels ↔ c ∈ g.tunnels

section Spec

variable {g g' : Globals} {t : Tunnel}

theorem makeProxy_makes (tp : Str) (conf : Conf) (g : Globals) :
    Makes g (makeProxy tp conf g).1 (makeProxy tp conf g).2 where
  ref := rfl
  made := rfl
  tunnels := by
    intro c
    exact List.mem_append.trans (or_congr Iff.rfl List.mem_singleton)

theorem newProxyByErrCount_makes (w : Answer) (g : Globals) :
    Makes g (newProxyByErrCount w g).1 (newProxyByErrCount w g).2 := by
  unfold newProxyByErrCount
  dsimp only
  split_ifs
  · exact makeProxy_makes _ _ _
  · exact makeProxy_makes _ _ _
  · exact makeProxy_makes _ _ _

theorem Makes.proper (h : Makes g t g') (hg : Proper g) : Proper g' where
  nonnil := by
    intro hmem
    rcases (h.tunnels none).mp hmem with hold | hnew
    · exact hg.nonnil hold
    · cases hnew
  made := by
    intro u hu
    rw [h.made]
    rcases (h.tunnels _).mp hu with hold | hnew
    · exact Nat.lt_succ_of_lt (hg.made u hold)
    · cases hnew
      rw [h.ref]
      exact Nat.lt_succ_self _

theorem Finds.proper (h : Finds g t g') (hg : Proper g) : Proper g' where
  nonnil := by
    intro hmem
    exact hg.nonnil ((h.tunnels none).mp hmem)
  made := by
    intro u hu
    rw [h.made]
    exact hg.made u ((h.tunnels _).mp hu)

theorem rotate_lt {n lastUse k : Nat} (h : rotate n lastUse = some k) : k < n := by
  unfold rotate at h
  split_ifs at h with hn
  cases h
  exact Nat.mod_lt _ (Nat.pos_of_ne_zero hn)

/-- A round with `lastUse` inside of the list stays there. -/
theorem neighbours_eq {gs : ListOps} (hgs : gs.Lawful) {l : List (Option Tunnel)} (hnil : none ∉ l) {lastUse : Nat}
    (hlast : lastUse < l.length) : ∃ otunnel tunnel,
      neighbours gs l lastUse = some (some otunnel, some tunnel, (lastUse + 1) % l.length) ∧ some tunnel ∈ l := by
  have hentry : ∀ i, i < l.length → ∃ t, l[i]? = some (some t) ∧ some t ∈ l := by
    intro i hi
    rcases hc : l[i] with _ | t
    · exact absurd (hc ▸ List.getElem_mem hi) hnil
    · refine ⟨t, ?_, hc ▸ List.getElem_mem hi⟩
      rw [List.getElem?_eq_getElem hi, hc]
  have hpos : 0 < l.length := Nat.zero_lt_of_lt hlast
  obtain ⟨otunnel, ho, -⟩ := hentry lastUse hlast
  obtain ⟨tunnel, ht, hmem⟩ := hentry ((lastUse + 1) % l.length) (Nat.mod_lt _ hpos)
  refine ⟨otunnel, tunnel, ?_, hmem⟩
  unfold neighbours
  rw [hgs.nth _ _ _ ho]
  simp only [Option.bind_eq_bind, Option.bind_some]
  rw [if_neg (Nat.ne_of_gt hpos), hgs.nth _ _ _ ht]
  rfl

theorem rounds_eq {gs : ListOps} (hgs : gs.Lawful) (w : Answer) {l : List (Option Tunnel)} (hnil : none ∉ l) (n : Nat)
    {lastUse : Nat} (hlast : lastUse < l.length) :
    ∃ tunnel lastUse', rounds gs w l (n + 1) lastUse = some (tunnel, lastUse') ∧ some tunnel ∈ l := by
  induction n generalizing lastUse with
  | zero =>
    obtain ⟨otunnel, tunnel, hround, hmem⟩ := neighbours_eq hgs hnil hlast
    refine ⟨tunnel, (lastUse + 1) % l.length, ?_, hmem⟩
    rw [rounds, hround]
    simp only [Option.bind_eq_bind, Option.bind_some]
    exact if_neg fun h => h.2 rfl
  | succ n ih =>
    obtain ⟨otunnel, tunnel, hround, hmem⟩ := neighbours_eq hgs hnil hlast
    have hnext : (lastUse + 1) % l.length < l.length := Nat.mod_lt _ (Nat.zero_lt_of_lt hlast)
    rw [rounds, hround]
    simp only [Option.bind_eq_bind, Option.bind_some]
    split_ifs
    · exact ih hnext
    · exact ⟨tunnel, _, rfl, hmem⟩

/-- **`GetProxy` does not panic**, and returns a tunnel of the list or a new one. -/
theorem getProxy_spec {gs : ListOps} (hgs : gs.Lawful) (w : Answer) (proxyType : Option Str) (hg : Proper g) :
    ∃ t g', getProxy gs w proxyType g = some (t, g') ∧ (Finds g t g' ∨ Makes g t g') := by
  cases proxyType with
  | none =>
    unfold getProxy
    dsimp only
    split_ifs with hn
    · exact ⟨_, _, rfl, Or.inr (makeProxy_makes _ _ _)⟩
    · have hrotate : rotate g.tunnels.length g.lastUse = some ((g.lastUse % g.tunnels.length + 1) % g.tunnels.length) :=
        if_neg hn
      obtain ⟨tunnel, lastUse, hrounds, hmem⟩ := rounds_eq hgs w hg.nonnil 3 (rotate_lt hrotate)
      rw [hrotate]
      simp only [Option.bind_eq_bind, Option.bind_some]
      rw [hrounds]
      exact ⟨tunnel, _, rfl, Or.inl ⟨hmem, rfl, fun _ => Iff.rfl⟩⟩
  | some tp =>
    obtain ⟨hsorted, hleft⟩ := hgs.sort (fun l r => w.clientNum l < w.clientNum r) g.tunnels
    have hkeeps : ∀ c, c ∈ (gs.sort (fun l r => w.clientNum l < w.clientNum r) g.tunnels).2 ↔ c ∈ g.tunnels :=
      fun c => hleft.mem_iff
    unfold getProxy
    dsimp only
    rw [if_neg fun hmem => hg.nonnil (hsorted.mem_iff.mp hmem)]
    rcases hlast : List.getLast? _ with _ | tu
    · dsimp only
      obtain ⟨href, hmade, htunnels⟩ := makeProxy_makes tp w.conf _
      exact ⟨_, _, rfl, Or.inr ⟨href, hmade, fun c => (htunnels c).trans (or_congr_left (hkeeps c))⟩⟩
    · have hmem : some tu ∈ g.tunnels := by
        have hfiltered := List.mem_of_mem_filter (List.mem_of_getLast? hlast)
        exact hsorted.mem_iff.mp (List.reduceOption_mem_iff.mp hfiltered)
      exact ⟨tu, _, rfl, Or.inl ⟨hmem, rfl, hkeeps⟩⟩

theorem mem_delProxy {name : Str} : some t ∈ (delProxy name g).2.tunnels ↔ some t ∈ g.tunnels ∧ t.id ≠ name :=
  mem_filterTunnels

theorem none_notMem_filterTunnels (name : Str) (l : List (Option Tunnel)) (s : Shared) :
    none ∉ (filterTunnels name l s).1 := by
  induction l generalizing s with
  | nil => exact List.not_mem_nil
  | cons c rest ih =>
    cases c with
    | none => exact ih s
    | some tun =>
      unfold filterTunnels
      split_ifs
      · exact ih (closeTunnel tun s)
      · intro hmem
        rcases List.mem_cons.mp hmem with heq | hmem
        · cases heq
        · exact ih s hmem

theorem proper_delProxy (name : Str) (hg : Proper g) : Proper (delProxy name g).2 where
  nonnil := none_notMem_filterTunnels name g.tunnels g.shared
  made := by
    intro u hu
    exact hg.made u (mem_delProxy.mp hu).1

end Spec

/-- `gs.List` with `Nth` as an index expression and a stable sort. -/
def sampleOps : ListOps where
  nth l i := l[i]?
  sort less l := (l.mergeSort fun l r => !(less (r.getD tunnelA) (l.getD tunnelA)), l)

theorem sampleOps_lawful : sampleOps.Lawful where
  nth := fun _ _ _ h => h
  sort := fun _ l => ⟨List.mergeSort_perm l _, List.Perm.refl l⟩

def idleAnswer : Answer := ⟨⟨str "c", 40003⟩, fun _ => 0⟩

end ProxyZ.Server
