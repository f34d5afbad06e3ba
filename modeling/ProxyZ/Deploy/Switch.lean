import ProxyZ.Client.Address
import ProxyZ.Client.Listen
import ProxyZ.Deploy.Routes
import ProxyZ.Go.Procedure
import Mathlib.Data.List.Rotate

/-!
# Switching the route

The operation `switch` of `/z-api` changes the client to a host, or without one to the next route: it closes the
client, looks for the route behind the one the client is on, and starts `ChangeRoute` with its host.

The next route is found in one pass over the list, which begins with the first route and takes the one behind the
current host where it comes to it (`chooseNext_spec`). So the choice goes round the list, and as many switches as
there are routes visit each of them once (`switch_goesRound`).
-/

namespace ProxyZ.Deploy

open Go ProxyZ.Client Procedure

/-- What the handler starts and does not wait for. -/
inductive Goroutine
  | httpListen
  | socks5Listen
  | changeRoute (host : Str)

/-- The settings that are kept in a file. -/
structure Settings where
  name : Str := []
  password : Str := []
  last : Str := []
  proxy : Str := []

/-- `globalClient` and the variables of the handler: the client, the routes and the settings, with what it has
started, saved and replied. -/
structure HTTPAPIConfig where
  clientConf : Option Service := none
  routes : List Onevps := []
  settings : Settings := {}
  started : List Goroutine := []
  saved : Option Settings := none
  replies : List (Str × Bool) := []

abbrev Api := Procedure HTTPAPIConfig

def Api.reply (msg : Str) (status : Bool) : Api PUnit :=
  modifyThe HTTPAPIConfig fun g => { g with replies := g.replies ++ [(msg, status)] }

def Api.start (call : Goroutine) : Api PUnit :=
  modifyThe HTTPAPIConfig fun g => { g with started := g.started ++ [call] }

/-- The settings are saved with the last host. -/
def Api.save (last : Str) : Api PUnit :=
  modifyThe HTTPAPIConfig fun g => { g with saved := some { g.settings with last } }

def Api.onClient (f : Service → Service) : Api PUnit :=
  modifyThe HTTPAPIConfig fun g => { g with clientConf := g.clientConf.map f }

/-- `TryClose`, the stage `closing` of the client. -/
def tryClose (s : Service) : Service :=
  { s with closeFlag := true, control := { s.control with loc := str "Closing..." } }

def setRouteLoc (loc : Str) (s : Service) : Service := { s with control := { s.control with loc } }

/-- `%4d` of the milliseconds of a duration, and the unit. -/
def milliseconds (d : Int) : Str :=
  let text := Client.decimal (d.tdiv 1000000)
  List.replicate (4 - text.length) 32 ++ text ++ str "ms"

/-- What is shown of a route. -/
def routeLoc (i : Onevps) : Str := i.location ++ str " " ++ milliseconds i.connectedQuality

/-- The variables of the pass over the routes. -/
structure Next where
  oo : Option Onevps := none
  nowix : Int := -1
  loc : Str := str "unknow"

/-- The pass at the route `i` with the number `no`. -/
def Next.visit (nowhost : Str) (x : Next) (i : Onevps) (no : Nat) : Next :=
  let nowix := if i.host = nowhost then (no : Int) else x.nowix
  match x.oo with
  | none => { x with oo := some i, nowix }
  | some _ => if (no : Int) = nowix + 1 then { oo := some i, nowix, loc := routeLoc i } else { x with nowix }

def chooseNext (nowhost : Str) (routes : List Onevps) : Next :=
  routes.zipIdx.foldl (fun x p => x.visit nowhost p.1 p.2) {}

/-- A new client on a host. -/
def newService (w : World) (localPort : Nat) (host : Str) : Service :=
  { control := newClientControll w host 70 false, listenPort := localPort }

/-- `switch` with a host. -/
def switchTo (w : World) (localPort : Nat) (isRouter : Bool) (host : Str) : Api PUnit := do
  let g ← get
  modifyThe HTTPAPIConfig fun g => { g with settings := { g.settings with last := host } }
  let loc := ((g.routes.filter fun i => i.host = host).getLast?.map routeLoc).getD (str "Unknow")
  match g.clientConf with
  | none => do
      modifyThe HTTPAPIConfig fun g => { g with clientConf := some (newService w localPort host) }
      Api.save host
      Api.onClient (setRouteLoc loc)
      (if isRouter then pure ⟨⟩ else Api.start .httpListen)
      Api.start .socks5Listen
  | some _ => do
      Api.onClient fun s => setRouteLoc loc (tryClose s)
      Api.start (.changeRoute host)
      Api.save host
  Api.reply (str "ok") true

/-- The client is closed and changed to the route the pass has found. -/
def changeToNext (next : Next) : Api PUnit := do
  Api.onClient fun s => setRouteLoc next.loc (tryClose s)
  match next.oo with
  | none => panic
  | some oo => do
      Api.start (.changeRoute oo.host)
      Api.save oo.host
      Api.reply (str "!" ++ oo.host) true

/-- `switch` without a host. -/
def switchNext (w : World) (localPort : Nat) (isRouter : Bool) : Api PUnit := do
  let g ← get
  match g.clientConf with
  | none =>
      match g.routes with
      | [] => panic
      | i :: _ => do
          modifyThe HTTPAPIConfig fun g => { g with clientConf := some (newService w localPort i.host) }
          (if isRouter then pure ⟨⟩ else Api.start .httpListen)
          Api.start .socks5Listen
          Api.save i.host
          Api.reply (str "!" ++ i.host) true
  | some s => changeToNext (chooseNext (getRoute s.control) g.routes)

/-- The operation `switch`, with the field `host` of the request. -/
def switchRoute (w : World) (localPort : Nat) (isRouter : Bool) (host : Option Json) : Api PUnit := do
  let g ← get
  if g.clientConf.any fun s => !s.control.isRunning then Api.reply (str "wait ...") false
  else
    match host with
    | none => switchNext w localPort isRouter
    | some .null => switchNext w localPort isRouter
    | some (.str host) => switchTo w localPort isRouter host
    | some _ => panic

/-! ### The pass over the routes -/

section Pass

variable {nowhost : Str} {x : Next} {routes : List Onevps} {i : Onevps}

/-- The pass behind some routes: the index of the current host, and the route behind it or else the first one. -/
structure Next.Behind (nowhost : Str) (routes : List Onevps) (x : Next) : Prop where
  index : (x.nowix = -1 ∧ nowhost ∉ routes.map (·.host)) ∨
    ∃ k : Nat, x.nowix = k ∧ (routes.map (·.host))[k]? = some nowhost
  route : x.oo = if x.nowix + 1 < routes.length then routes[(x.nowix + 1).toNat]? else routes.head?

theorem Next.Behind.nowix_lt (h : x.Behind nowhost routes) : -1 ≤ x.nowix ∧ x.nowix < routes.length := by
  rcases h.index with ⟨hnone, -⟩ | ⟨k, hk, hget⟩
  · omega
  · obtain ⟨hlt, -⟩ := List.getElem?_eq_some_iff.mp hget
    rw [List.length_map] at hlt
    omega

/-- The index of the current host behind one more route. -/
theorem Next.Behind.index_concat (h : x.Behind nowhost routes) {nowix : Int}
    (hnowix : nowix = if i.host = nowhost then (routes.length : Int) else x.nowix) :
    (nowix = -1 ∧ nowhost ∉ (routes ++ [i]).map (·.host)) ∨
      ∃ k : Nat, nowix = k ∧ ((routes ++ [i]).map (·.host))[k]? = some nowhost := by
  rw [hnowix, List.map_append, List.map_singleton]
  split_ifs with hhost
  · refine Or.inr ⟨routes.length, rfl, ?_⟩
    rw [List.getElem?_append_right (by simp), List.length_map, Nat.sub_self, ← hhost]
    rfl
  · rcases h.index with ⟨hnone, hmem⟩ | ⟨k, hk, hget⟩
    · refine Or.inl ⟨hnone, ?_⟩
      rw [List.mem_append, List.mem_singleton, not_or]
      exact ⟨hmem, fun heq => hhost heq.symm⟩
    · obtain ⟨hlt, -⟩ := List.getElem?_eq_some_iff.mp hget
      exact Or.inr ⟨k, hk, by rw [List.getElem?_append_left hlt, hget]⟩

/-- The first route is taken whatever its host is. -/
theorem Next.Behind.visit_first (h : x.Behind nowhost []) : (x.visit nowhost i 0).Behind nowhost [i] := by
  have hoo : x.oo = none := h.route.trans (ite_self _)
  have hsingle : ∀ nowix : Int, some i = if nowix + 1 < ([i] : List Onevps).length then [i][(nowix + 1).toNat]?
      else [i].head? := by
    intro nowix
    split_ifs with hlt
    · have hzero : (nowix + 1).toNat = 0 := by
        have : nowix + 1 < 1 := hlt
        omega
      rw [hzero]
      rfl
    · rfl
  unfold Next.visit
  rw [hoo]
  exact ⟨h.index_concat rfl, hsingle _⟩

/-- Behind a first route one is there to be kept. -/
theorem Next.Behind.exists_oo (h : x.Behind nowhost routes) (hne : routes ≠ []) : ∃ oo, x.oo = some oo := by
  obtain ⟨hlow, -⟩ := h.nowix_lt
  rw [h.route]
  split_ifs with hlt
  · exact ⟨_, List.getElem?_eq_getElem (by omega)⟩
  · exact ⟨_, List.head?_eq_some_head hne⟩

/-- One more route is taken if the current host is the one before it. -/
theorem Next.Behind.visit_more (h : x.Behind nowhost routes) (hne : routes ≠ [])
    (hdistinct : ((routes ++ [i]).map (·.host)).Nodup) :
    (x.visit nowhost i routes.length).Behind nowhost (routes ++ [i]) := by
  obtain ⟨hlow, hhigh⟩ := h.nowix_lt
  have hpos : 0 < routes.length := List.length_pos_iff.mpr hne
  have hhead : (routes ++ [i]).head? = routes.head? := List.head?_append_of_ne_nil _ hne
  obtain ⟨oo, hoo⟩ := h.exists_oo hne
  unfold Next.visit
  rw [hoo]
  dsimp only
  set nowix := if i.host = nowhost then (routes.length : Int) else x.nowix with hnowix
  split_ifs with hno
  · refine ⟨h.index_concat hnowix, ?_⟩
    dsimp only
    rw [if_pos (by rw [List.length_append, List.length_singleton]; omega), ← hno, Int.toNat_natCast,
      List.getElem?_append_right le_rfl, Nat.sub_self]
    rfl
  · refine ⟨h.index_concat hnowix, ?_⟩
    show some oo = if nowix + 1 < ((routes ++ [i]).length : Int) then (routes ++ [i])[(nowix + 1).toNat]? else
      (routes ++ [i]).head?
    rw [← hoo, h.route, List.length_append, List.length_singleton]
    by_cases hhost : i.host = nowhost
    · -- the host is not among the routes before, so the first of them has been taken
      rw [if_pos hhost] at hnowix
      have hnone : x.nowix = -1 := by
        rcases h.index with ⟨hnone, -⟩ | ⟨k, -, hget⟩
        · exact hnone
        · rw [List.map_append, List.nodup_append] at hdistinct
          exact absurd hhost.symm (hdistinct.2.2 nowhost (List.mem_of_getElem? hget) i.host (List.mem_singleton_self _))
      rw [hnone, if_pos (by omega), if_neg (by push_cast; omega), hhead, List.head?_eq_getElem?]
      rfl
    · rw [if_neg hhost] at hnowix
      rw [hnowix] at hno ⊢
      by_cases hlt : x.nowix + 1 < routes.length
      · rw [if_pos hlt, if_pos (by push_cast; omega), List.getElem?_append_left (by omega)]
      · rw [if_neg hlt, if_neg (by push_cast; omega), hhead]

theorem Next.Behind.visit (h : x.Behind nowhost routes) (hdistinct : ((routes ++ [i]).map (·.host)).Nodup) :
    (x.visit nowhost i routes.length).Behind nowhost (routes ++ [i]) := by
  cases routes with
  | nil => exact h.visit_first
  | cons first more => exact h.visit_more (List.cons_ne_nil first more) hdistinct

theorem chooseNext_spec (hdistinct : (routes.map (·.host)).Nodup) :
    (chooseNext nowhost routes).Behind nowhost routes := by
  induction routes using List.reverseRecOn with
  | nil => exact ⟨Or.inl ⟨rfl, List.not_mem_nil⟩, rfl⟩
  | append_singleton routes i ih =>
    have hbefore : (routes.map (·.host)).Nodup := by
      rw [List.map_append] at hdistinct
      exact (List.nodup_append.mp hdistinct).1
    have hstep : chooseNext nowhost (routes ++ [i]) = (chooseNext nowhost routes).visit nowhost i routes.length := by
      unfold chooseNext
      rw [List.zipIdx_append, List.foldl_append]
      simp
    rw [hstep]
    exact (ih hbefore).visit hdistinct

end Pass

/-! ### Going round -/

/-- The route behind the current one, where the first one is behind the last one, or the first one where the current
host is not listed. -/
structure Follows (hosts : List Str) (now h : Str) : Prop where
  behind : ∀ k, hosts[k]? = some now → hosts[(k + 1) % hosts.length]? = some h
  first : now ∉ hosts → hosts.head? = some h

/-- `switch` without a host, which the field misses or has as `null`, chooses the host `h`. -/
structure Chooses (w : World) (localPort : Nat) (isRouter : Bool) (g : HTTPAPIConfig) (h : Str) (g' : HTTPAPIConfig) :
    Prop where
  exec : ∀ host, host = none ∨ host = some .null → (switchRoute w localPort isRouter host).exec g = (some ⟨⟩, g')
  reply : g'.replies = g.replies ++ [(str "!" ++ h, true)]
  saved : g'.saved = some { g.settings with last := h }
  routes : g'.routes = g.routes
  started : ∀ s, g.clientConf = some s → g'.started = g.started ++ [.changeRoute h]
  opened : g.clientConf = none → g'.clientConf = some (newService w localPort h)

/-- The client runs and is on the host, as `ChangeRoute` leaves it or with a scheme or a port. -/
def Current (g : HTTPAPIConfig) (h : Str) : Prop :=
  ∃ s, g.clientConf = some s ∧ s.control.isRunning = true ∧ s.control.addr ∈ addresses h

/-- Switches in which each makes the host it chooses the current one, with these hosts. -/
inductive Switches (w : World) (localPort : Nat) (isRouter : Bool) : HTTPAPIConfig → List Str → HTTPAPIConfig → Prop
  | nil (g : HTTPAPIConfig) : Switches w localPort isRouter g [] g
  | cons {g g' g'' last : HTTPAPIConfig} {h : Str} {hs : List Str} (hchoose : Chooses w localPort isRouter g h g')
      (hroutes : g''.routes = g'.routes) (hcurrent : Current g'' h) (hrest : Switches w localPort isRouter g'' hs last) :
      Switches w localPort isRouter g (h :: hs) last

/-- **Switching goes round the routes.** -/
structure GoesRound (w : World) (localPort : Nat) (isRouter : Bool) (routes : List Onevps) : Prop where
  /-- The host the client is on is what the handler compares with the routes. -/
  current : ∀ i ∈ routes, ∀ c : ClientControl, c.addr ∈ addresses i.host → getRoute c = i.host
  /-- `ChangeRoute` puts the client on its host, once it does not wait any more. -/
  changed : ∀ i ∈ routes, ∀ s s' o new, serviceStep w s (.waiting i.host) o = some (s', .entered false, new) →
    getRoute s'.control = i.host
  next : ∀ g s, g.routes = routes → g.clientConf = some s → s.control.isRunning = true →
    ∃ h g', Chooses w localPort isRouter g h g' ∧ Follows (routes.map (·.host)) (getRoute s.control) h
  first : ∀ g, g.routes = routes → g.clientConf = none →
    ∃ h g', Chooses w localPort isRouter g h g' ∧ (routes.map (·.host)).head? = some h
  /-- As many switches as there are routes, from any of them, are possible and visit each route once. -/
  round : ∀ g k now, g.routes = routes → (routes.map (·.host))[k]? = some now → Current g now →
    (∃ hs last, hs.length = routes.length ∧ Switches w localPort isRouter g hs last) ∧
      ∀ hs last, hs.length = routes.length → Switches w localPort isRouter g hs last →
        hs = (routes.map (·.host)).rotate (k + 1) ∧ hs.Nodup ∧ hs.Perm (routes.map (·.host))

section Round

variable {w : World} {localPort : Nat} {isRouter : Bool} {routes : List Onevps}

/-- What the pass finds is the next route. -/
theorem chooseNext_follows (nowhost : Str) (hne : routes ≠ []) (hdistinct : (routes.map (·.host)).Nodup) :
    ∃ i, (chooseNext nowhost routes).oo = some i ∧ Follows (routes.map (·.host)) nowhost i.host := by
  have hspec : (chooseNext nowhost routes).Behind nowhost routes := chooseNext_spec hdistinct
  obtain ⟨first, more, rfl⟩ := List.exists_cons_of_ne_nil hne
  set routes := first :: more with hroutes
  have hlen : (routes.map (·.host)).length = routes.length := List.length_map _
  rcases hspec.index with ⟨hnowix, hmem⟩ | ⟨k, hnowix, hget⟩
  · have hfirst : (chooseNext nowhost routes).oo = some first := by
      rw [hspec.route, hnowix, if_pos (by rw [hroutes, List.length_cons]; omega)]
      rfl
    refine ⟨first, hfirst, fun k hk => absurd (List.mem_of_getElem? hk) hmem, fun _ => rfl⟩
  · obtain ⟨hk, hgetElem⟩ := List.getElem?_eq_some_iff.mp hget
    rw [hlen] at hk
    have honce : ∀ k', (routes.map (·.host))[k']? = some nowhost → k' = k := by
      intro k' hk'
      obtain ⟨hlt, hgetElem'⟩ := List.getElem?_eq_some_iff.mp hk'
      exact (hdistinct.getElem_inj_iff).mp (hgetElem'.trans hgetElem.symm)
    by_cases hlast : k + 1 < routes.length
    · have hnext : (chooseNext nowhost routes).oo = some routes[k + 1] := by
        rw [hspec.route, hnowix, if_pos (by omega)]
        exact List.getElem?_eq_getElem hlast
      refine ⟨routes[k + 1], hnext, fun k' hk' => ?_, fun hmem => absurd (List.mem_of_getElem? hget) hmem⟩
      rw [honce k' hk', hlen, Nat.mod_eq_of_lt hlast, List.getElem?_map, List.getElem?_eq_getElem hlast]
      rfl
    · have hfirst : (chooseNext nowhost routes).oo = some first := by
        rw [hspec.route, hnowix, if_neg (by omega)]
        rfl
      refine ⟨first, hfirst, fun k' hk' => ?_, fun hmem => absurd (List.mem_of_getElem? hget) hmem⟩
      rw [honce k' hk', hlen, show k + 1 = routes.length by omega, Nat.mod_self]
      rfl

/-- Without a host the handler goes to `switchNext`, except while the client is not running. -/
theorem switchRoute_next {g : HTTPAPIConfig} (hrun : ∀ s, g.clientConf = some s → s.control.isRunning = true)
    {host : Option Json} (hhost : host = none ∨ host = some .null) :
    (switchRoute w localPort isRouter host).exec g = (switchNext w localPort isRouter).exec g := by
  have hwait : (g.clientConf.any fun s => !s.control.isRunning) = false := by
    rcases hconf : g.clientConf with _ | s
    · rfl
    · show (!s.control.isRunning) = false
      rw [hrun s hconf]
      rfl
  unfold switchRoute
  rw [exec_bind]
  show exec (if g.clientConf.any fun s => !s.control.isRunning then _ else _) g = _
  rw [hwait, if_neg Bool.false_ne_true]
  rcases hhost with rfl | rfl
  · rfl
  · rfl

theorem chooses_of_running {g : HTTPAPIConfig} {s : Service} {i : Onevps} (hs : g.clientConf = some s)
    (hrun : s.control.isRunning = true) (hnext : (chooseNext (getRoute s.control) g.routes).oo = some i) :
    Chooses w localPort isRouter g i.host { g with
      clientConf := some (setRouteLoc (chooseNext (getRoute s.control) g.routes).loc (tryClose s))
      started := g.started ++ [.changeRoute i.host]
      saved := some { g.settings with last := i.host }
      replies := g.replies ++ [(str "!" ++ i.host, true)] } := by
  refine ⟨fun host hhost => ?_, rfl, rfl, rfl, fun _ _ => rfl, fun hnone => ?_⟩
  · rw [switchRoute_next (by rintro _ hs'; cases hs.symm.trans hs'; exact hrun) hhost]
    obtain ⟨conf, routes, settings, started, saved, replies⟩ := g
    obtain rfl : conf = some s := hs
    show (changeToNext (chooseNext (getRoute s.control) routes)).exec _ = _
    generalize chooseNext (getRoute s.control) routes = next at hnext ⊢
    obtain ⟨oo, nowix, loc⟩ := next
    obtain rfl : oo = some i := hnext
    rfl
  · cases hs.symm.trans hnone

theorem chooses_of_none {g : HTTPAPIConfig} {i : Onevps} {more : List Onevps} (hnone : g.clientConf = none)
    (hroutes : g.routes = i :: more) : ∃ g', Chooses w localPort isRouter g i.host g' := by
  obtain ⟨conf, routes, settings, started, saved, replies⟩ := g
  obtain rfl : conf = none := hnone
  obtain rfl : routes = i :: more := hroutes
  refine ⟨((switchNext w localPort isRouter).exec ⟨none, i :: more, settings, started, saved, replies⟩).2, ?_⟩
  have hrun : ∀ s : Service, none = some s → s.control.isRunning = true := by
    intro s hs
    cases hs
  refine ⟨fun host hhost => ?_, ?_, ?_, ?_, fun s hs => ?_, fun _ => ?_⟩
  · rw [switchRoute_next hrun hhost]
    cases isRouter <;> rfl
  · cases isRouter <;> rfl
  · cases isRouter <;> rfl
  · cases isRouter <;> rfl
  · cases hs
  · cases isRouter <;> rfl

/-- What is chosen is determined. -/
theorem Chooses.unique {g g₁ g₂ : HTTPAPIConfig} {h₁ h₂ : Str} (hc₁ : Chooses w localPort isRouter g h₁ g₁)
    (hc₂ : Chooses w localPort isRouter g h₂ g₂) : h₁ = h₂ := by
  have hexec := (hc₁.exec none (Or.inl rfl)).symm.trans (hc₂.exec none (Or.inl rfl))
  have hsaved := hc₁.saved.symm.trans ((congrArg (fun r => r.2.saved) hexec).trans hc₂.saved)
  exact congrArg Settings.last (Option.some.inj hsaved)

/-- One switch from a listed host. -/
theorem Current.chooses {g : HTTPAPIConfig} {now : Str} (hne : routes ≠ []) (hdistinct : (routes.map (·.host)).Nodup)
    (hhosts : ∀ i ∈ routes, IsHostName i.host) (hroutes : g.routes = routes) (hmem : now ∈ routes.map (·.host))
    (hcurrent : Current g now) : ∃ h g', Chooses w localPort isRouter g h g' ∧ Follows (routes.map (·.host)) now h := by
  obtain ⟨s, hs, hrun, haddr⟩ := hcurrent
  obtain ⟨i, hi, rfl⟩ := List.mem_map.mp hmem
  have hroute := getRoute_addresses (hhosts i hi) haddr
  obtain ⟨next, hnext, hfollows⟩ := chooseNext_follows i.host hne hdistinct
  refine ⟨next.host, _, chooses_of_running hs hrun ?_, hfollows⟩
  rw [hroute, hroutes]
  exact hnext

/-- Each of the switches visits the route behind the one before. -/
theorem Switches.visited {g last : HTTPAPIConfig} {hs : List Str} (h : Switches w localPort isRouter g hs last)
    (hne : routes ≠ []) (hdistinct : (routes.map (·.host)).Nodup) (hhosts : ∀ i ∈ routes, IsHostName i.host)
    (hroutes : g.routes = routes) {k : Nat} {now : Str} (hnow : (routes.map (·.host))[k]? = some now)
    (hcurrent : Current g now) {j : Nat} (hj : j < hs.length) :
    hs[j]? = (routes.map (·.host))[(k + 1 + j) % routes.length]? := by
  induction h generalizing k now j with
  | nil g => exact absurd hj (Nat.not_lt_zero j)
  | @cons g g' g'' last h hs hchoose hroutes' hcurrent' hrest ih =>
    obtain ⟨h', g₂, hchoose', hfollows⟩ := hcurrent.chooses hne hdistinct hhosts hroutes (List.mem_of_getElem? hnow)
    obtain rfl := hchoose.unique hchoose'
    have hnext := hfollows.behind k hnow
    rw [List.length_map] at hnext
    cases j with
    | zero => exact hnext.symm
    | succ j =>
      rw [List.getElem?_cons_succ, ih (hroutes'.trans (hchoose.routes.trans hroutes)) hnext hcurrent'
        (Nat.lt_of_succ_lt_succ hj)]
      congr 1
      rw [Nat.add_assoc, Nat.mod_add_mod]
      congr 1
      omega

theorem changeRoute_addr {s s' : Service} {host : Str} {o : Outside} {new : List ListenStage}
    (hstep : serviceStep w s (.waiting host) o = some (s', .entered false, new)) : s'.control.addr = host := by
  unfold serviceStep at hstep
  dsimp only at hstep
  split_ifs at hstep with hclosed
  · split at hstep
    · cases hstep
      rfl
    · cases hstep
  · cases hstep

/-- The switches that come next can be made. -/
theorem Current.switches {g : HTTPAPIConfig} {now : Str} (hne : routes ≠ []) (hdistinct : (routes.map (·.host)).Nodup)
    (hhosts : ∀ i ∈ routes, IsHostName i.host) (hroutes : g.routes = routes) (hmem : now ∈ routes.map (·.host))
    (hcurrent : Current g now) (n : Nat) : ∃ hs last, hs.length = n ∧ Switches w localPort isRouter g hs last := by
  induction n generalizing g now with
  | zero => exact ⟨[], g, rfl, .nil g⟩
  | succ n ih =>
    have hnext : ∃ h g', Chooses w localPort isRouter g h g' ∧ Follows (routes.map (·.host)) now h :=
      hcurrent.chooses hne hdistinct hhosts hroutes hmem
    obtain ⟨h, g', hchoose, hfollows⟩ := hnext
    obtain ⟨k, hk⟩ := List.mem_iff_getElem?.mp hmem
    have hh := List.mem_of_getElem? (hfollows.behind k hk)
    obtain ⟨s, hs, hrun, -⟩ := hcurrent
    -- the client on the host the switch has chosen
    let changed : HTTPAPIConfig := { g' with clientConf := some { s with control := { s.control with addr := h } } }
    have hcurrent' : Current changed h := ⟨_, rfl, hrun, List.mem_cons_self⟩
    obtain ⟨hs, last, hlen, hrest⟩ := ih (g := changed) (hchoose.routes.trans hroutes) hh hcurrent'
    have hroutes' : changed.routes = g'.routes := rfl
    exact ⟨h :: hs, last, congrArg (· + 1) hlen, .cons hchoose hroutes' hcurrent' hrest⟩

/-- As many switches as there are routes visit them in their order. -/
theorem Switches.rotate {g last : HTTPAPIConfig} {hs : List Str} (h : Switches w localPort isRouter g hs last)
    (hne : routes ≠ []) (hdistinct : (routes.map (·.host)).Nodup) (hhosts : ∀ i ∈ routes, IsHostName i.host)
    (hroutes : g.routes = routes) {k : Nat} {now : Str} (hnow : (routes.map (·.host))[k]? = some now)
    (hcurrent : Current g now) (hlen : hs.length = routes.length) : hs = (routes.map (·.host)).rotate (k + 1) := by
  apply List.ext_getElem?
  intro j
  by_cases hj : j < hs.length
  · rw [h.visited hne hdistinct hhosts hroutes hnow hcurrent hj, List.getElem?_rotate]
    · rw [List.length_map, Nat.add_comm j]
    · rw [List.length_map, ← hlen]
      exact hj
  · rw [List.getElem?_eq_none (by omega), List.getElem?_eq_none]
    rw [List.length_rotate, List.length_map]
    omega

/-- **Switching goes round all routes.** -/
theorem switch_goesRound (hne : routes ≠ []) (hdistinct : (routes.map (·.host)).Nodup)
    (hhosts : ∀ i ∈ routes, IsHostName i.host) : GoesRound w localPort isRouter routes where
  current i hi c := getRoute_addresses (hhosts i hi)
  changed i hi s s' o new hstep := getRoute_addresses (hhosts i hi) (changeRoute_addr hstep ▸ List.mem_cons_self)
  next g s hroutes hs hrun := by
    obtain ⟨next, hnext, hfollows⟩ := chooseNext_follows (getRoute s.control) hne hdistinct
    exact ⟨next.host, _, chooses_of_running hs hrun (hroutes ▸ hnext), hfollows⟩
  first g hroutes hnone := by
    obtain ⟨i, more, rfl⟩ := List.exists_cons_of_ne_nil hne
    obtain ⟨g', hchoose⟩ := chooses_of_none hnone hroutes
    exact ⟨i.host, g', hchoose, rfl⟩
  round g k now hroutes hnow hcurrent := by
    refine ⟨?_, fun hs last hlen hswitches => ?_⟩
    · exact hcurrent.switches hne hdistinct hhosts hroutes (List.mem_of_getElem? hnow) routes.length
    · rw [hswitches.rotate hne hdistinct hhosts hroutes hnow hcurrent hlen]
      exact ⟨rfl, List.nodup_rotate.mpr hdistinct, List.rotate_perm _ _⟩

end Round

/-- Three routes. -/
def sampleRoutes : List Onevps :=
  [{ host := dotted [10, 0, 0, 1] }, { host := str "z.example.org" }, { host := dotted [10, 0, 0, 3] }]

theorem switch_goesRound_sampleRoutes : GoesRound handsOut 1091 false sampleRoutes :=
  switch_goesRound (by decide) (by decide) (by
    intro i hi
    simp only [sampleRoutes, List.mem_cons, List.not_mem_nil, or_false] at hi
    rcases hi with rfl | rfl | rfl
    · exact isHostName_dotted rfl
    · exact ⟨by decide, by decide +kernel⟩
    · exact isHostName_dotted rfl)

end ProxyZ.Deploy
