import ProxyZ.Server.Ledger
import Mathlib.Data.Nat.GCD.Basic
import Mathlib.Data.Nat.ModEq
import Mathlib.Data.Nat.Prime.Basic

/-!
# Requests without a type

`GetProxy()` goes round the list: it moves `lastUse` on by one, and then goes from tunnel to tunnel until it comes to
one of another type than the one before, with no more clients, or has gone four steps. So a request moves on by two to
five places (`untyped_walks`).

Where all tunnels have one type it is five places each time, whatever the loads are. Then the requests come to every
tunnel exactly if the length of the list is no multiple of five (`untyped_reachesAll_iff`).
-/

namespace ProxyZ.Server

open Go Procedure

/-! ### Strides -/

/-- Going round `n` places by `d` at a time, one comes to every place exactly if `d` is coprime to `n`. -/
theorem stride_reaches_iff {n : Nat} (hn : 0 < n) (start d : Nat) :
    (∀ i < n, ∃ k, (start + d * (k + 1)) % n = i) ↔ Nat.Coprime d n := by
  constructor
  · intro h
    obtain ⟨k, hk⟩ := h ((start + 1) % n) (Nat.mod_lt _ hn)
    have hmod : start + d * (k + 1) ≡ start + 1 [MOD d.gcd n] := Nat.ModEq.of_dvd (Nat.gcd_dvd_right d n) hk
    have hzero : d * (k + 1) ≡ 0 [MOD d.gcd n] :=
      (Nat.modEq_zero_iff_dvd).mpr (Dvd.dvd.mul_right (Nat.gcd_dvd_left d n) _)
    have hone : 0 ≡ 1 [MOD d.gcd n] := hzero.symm.trans (Nat.ModEq.add_left_cancel' start hmod)
    exact Nat.dvd_one.mp ((Nat.modEq_zero_iff_dvd).mp hone.symm)
  · intro hcoprime i hi
    rcases Nat.lt_or_ge 1 n with hlarge | hsmall
    · obtain ⟨m, -, hm⟩ := Nat.exists_mul_mod_eq_one_of_coprime hcoprime hlarge
      -- `e` leads from the start to `i`
      let e := i + (n - start % n)
      have he : start + e ≡ i [MOD n] := by
        have hle : start % n ≤ n := (Nat.mod_lt _ hn).le
        have hsum : start + e = i + n + n * (start / n) := by
          have := Nat.mod_add_div start n
          omega
        rw [hsum]
        simp [Nat.ModEq]
      refine ⟨m * e + n - 1, ?_⟩
      have hpos : m * e + n - 1 + 1 = m * e + n := by omega
      have hstep : d * (m * e + n) ≡ e [MOD n] := by
        have hinverse : d * m ≡ 1 [MOD n] := by
          rw [Nat.ModEq, hm, Nat.mod_eq_of_lt hlarge]
        calc d * (m * e + n) = d * m * e + n * d := by ring
          _ ≡ d * m * e + 0 [MOD n] := Nat.ModEq.add_left _ ((Nat.modEq_zero_iff_dvd).mpr (Nat.dvd_mul_right n d))
          _ ≡ 1 * e [MOD n] := hinverse.mul_right e
          _ = e := Nat.one_mul e
      rw [hpos]
      have hplace : (start + d * (m * e + n)) % n = i % n := (hstep.add_left start).trans he
      exact hplace.trans (Nat.mod_eq_of_lt hi)
    · obtain rfl : n = 1 := by omega
      exact ⟨0, by omega⟩

/-! ### One request -/

/-- A round that comes from the place `k` to the next one ends there. -/
def rests (num : Tunnel → Int) (ts : List Tunnel) (k : Nat) : Bool :=
  match ts[k % ts.length]?, ts[(k + 1) % ts.length]? with
  | some otunnel, some tunnel => !(tunnel.proxyType = otunnel.proxyType || num otunnel < num tunnel)
  | _, _ => false

/-- By how many places a request moves on from `lastUse`. -/
def advance (num : Tunnel → Int) (ts : List Tunnel) (lastUse : Nat) : Nat :=
  ((List.range 3).find? fun i => rests num ts (lastUse + 1 + i)).getD 3 + 2

/-- The places that requests come to. -/
def places (ts : List Tunnel) : Nat → List World → List Nat
  | _, [] => []
  | lastUse, w :: rest =>
      let place := (lastUse + advance w.clientNum ts lastUse) % ts.length
      place :: places ts place rest

section Round

variable {gs : ListOps} {w : Answer} {num : Tunnel → Int} {ts : List Tunnel} {k : Nat}

theorem rests_mod (k i : Nat) : rests num ts (k % ts.length + i) = rests num ts (k + i) := by
  unfold rests
  rw [Nat.mod_add_mod, Nat.add_assoc, Nat.mod_add_mod, ← Nat.add_assoc]

theorem advance_bounds (lastUse : Nat) : 2 ≤ advance num ts lastUse ∧ advance num ts lastUse ≤ 5 := by
  unfold advance
  rcases hfind : (List.range 3).find? fun i => rests num ts (lastUse + 1 + i) with _ | i
  · simp
  · have hi := List.mem_range.mp (List.mem_of_find?_eq_some hfind)
    simp only [Option.getD_some]
    omega

/-- Tunnels of one type are gone past. -/
theorem advance_uniform {tp : Str} (h : ∀ t ∈ ts, t.proxyType = tp) (lastUse : Nat) : advance num ts lastUse = 5 := by
  have hnone : ∀ k, rests num ts k = false := by
    intro k
    unfold rests
    split
    · rename_i otunnel tunnel ho ht
      rw [h _ (List.mem_of_getElem? ho), h _ (List.mem_of_getElem? ht)]
      simp
    · rfl
  unfold advance
  rw [List.find?_eq_none.mpr fun i _ => by rw [hnone]; exact Bool.false_ne_true]
  rfl

/-- A round at the place `k`. -/
theorem neighbours_place (hgs : gs.Lawful) (hne : ts ≠ []) (hk : k < ts.length) :
    ∃ otunnel tunnel, ts[(k + 1) % ts.length]? = some tunnel ∧
      neighbours gs (ts.map some) k = some (some otunnel, some tunnel, (k + 1) % ts.length) ∧
      goesOn w otunnel tunnel = !rests w.clientNum ts k := by
  have hpos : 0 < ts.length := List.length_pos_iff.mpr hne
  have hnext : (k + 1) % ts.length < ts.length := Nat.mod_lt _ hpos
  have ho : ts[k]? = some ts[k] := List.getElem?_eq_getElem hk
  have ht : ts[(k + 1) % ts.length]? = some ts[(k + 1) % ts.length] := List.getElem?_eq_getElem hnext
  refine ⟨ts[k], ts[(k + 1) % ts.length], ht, ?_, ?_⟩
  · unfold neighbours
    rw [hgs.nth _ k (some ts[k]) (by rw [List.getElem?_map, ho]; rfl)]
    simp only [Option.bind_eq_bind, Option.bind_some, List.length_map]
    rw [if_neg hpos.ne', hgs.nth _ _ (some ts[(k + 1) % ts.length]) (by rw [List.getElem?_map, ht]; rfl)]
    rfl
  · unfold goesOn rests
    rw [Nat.mod_eq_of_lt hk, ho, ht]
    simp

/-- **The rounds that are left go on to the first place where one ends**, or by as many places as they are. -/
theorem rounds_place (hgs : gs.Lawful) (hne : ts ≠ []) (n : Nat) (hk : k < ts.length) :
    ∃ tunnel, ts[(k + 1 + ((List.range n).find? fun i => rests w.clientNum ts (k + i)).getD n) % ts.length]? =
        some tunnel ∧
      rounds gs w (ts.map some) (n + 1) k =
        some (tunnel, (k + 1 + ((List.range n).find? fun i => rests w.clientNum ts (k + i)).getD n) % ts.length) := by
  induction n generalizing k with
  | zero =>
    obtain ⟨otunnel, tunnel, htunnel, hround, -⟩ := neighbours_place (w := w) hgs hne hk
    refine ⟨tunnel, htunnel, ?_⟩
    rw [rounds, hround]
    simp only [Option.bind_eq_bind, Option.bind_some]
    exact if_neg fun h => h.2 rfl
  | succ n ih =>
    obtain ⟨otunnel, tunnel, htunnel, hround, hgoes⟩ := neighbours_place (w := w) hgs hne hk
    have hnext : (k + 1) % ts.length < ts.length := Nat.mod_lt _ (List.length_pos_iff.mpr hne)
    rw [rounds, hround, List.range_succ_eq_map, List.find?_cons, Nat.add_zero]
    simp only [Option.bind_eq_bind, Option.bind_some]
    rw [hgoes]
    cases hrests : rests w.clientNum ts k with
    | true => exact ⟨tunnel, htunnel, if_neg fun h => Bool.noConfusion h.1⟩
    | false =>
      obtain ⟨tunnel', htunnel', hrounds⟩ := ih hnext
      have hcount : (((List.range n).map Nat.succ).find? fun i => rests w.clientNum ts (k + i)).getD (n + 1) =
          ((List.range n).find? fun i => rests w.clientNum ts ((k + 1) % ts.length + i)).getD n + 1 := by
        have hsame : ((fun i => rests w.clientNum ts (k + i)) ∘ Nat.succ) =
            fun i => rests w.clientNum ts ((k + 1) % ts.length + i) := by
          funext i
          rw [rests_mod, Nat.add_right_comm]
          rfl
        rw [List.find?_map, hsame]
        cases (List.range n).find? fun i => rests w.clientNum ts ((k + 1) % ts.length + i) with
        | none => rfl
        | some i => rfl
      have hplace : ∀ j, ((k + 1) % ts.length + 1 + j) % ts.length = (k + 1 + (j + 1)) % ts.length := by
        intro j
        rw [Nat.add_assoc, Nat.mod_add_mod, Nat.add_comm 1 j]
      rw [hplace] at htunnel' hrounds
      rw [hcount]
      exact ⟨tunnel', htunnel', (if_pos ⟨rfl, Nat.succ_ne_zero n⟩).trans hrounds⟩

/-- **`GetProxy()` goes on by its places**, and leaves the list. -/
theorem getProxy_untyped (hgs : gs.Lawful) (hne : ts ≠ []) {g : Globals} (hts : g.tunnels = ts.map some) :
    ∃ t, ts[(g.lastUse + advance w.clientNum ts g.lastUse) % ts.length]? = some t ∧
      getProxy gs w none g = some (t, { g with
        lastUse := (g.lastUse + advance w.clientNum ts g.lastUse) % ts.length }) := by
  have hpos : 0 < ts.length := List.length_pos_iff.mpr hne
  have hlen : g.tunnels.length = ts.length := by rw [hts, List.length_map]
  have hrotate : rotate g.tunnels.length g.lastUse = some ((g.lastUse + 1) % ts.length) := by
    unfold rotate
    rw [hlen, if_neg hpos.ne', Nat.mod_add_mod]
  obtain ⟨t, ht, hrounds⟩ := rounds_place (w := w) hgs hne 3 (Nat.mod_lt (g.lastUse + 1) hpos)
  have hplace : ((g.lastUse + 1) % ts.length + 1 + ((List.range 3).find? fun i =>
      rests w.clientNum ts ((g.lastUse + 1) % ts.length + i)).getD 3) % ts.length =
        (g.lastUse + advance w.clientNum ts g.lastUse) % ts.length := by
    unfold advance
    simp only [rests_mod]
    rw [Nat.add_assoc, Nat.mod_add_mod]
    congr 1
    omega
  rw [hplace] at ht hrounds
  refine ⟨t, ht, ?_⟩
  unfold getProxy
  dsimp only
  rw [if_neg (by omega), hrotate, hts]
  simp only [Option.bind_eq_bind, Option.bind_some]
  rw [hrounds]
  rfl

end Round

/-! ### Runs -/

/-- The body names no type. -/
def AsksAny (w : World) (r : Body) : Prop :=
  (recv w r).2 = none ∧ ∀ tp, field (recv w r).1 "type" ≠ some (.str tp)

/-- Requests to `/proxy-get`, one after the other. -/
def gets (asks : List (World × Body)) : List Event := asks.map fun q => .request .proxyGet q.1 q.2

section Runs

variable {gs : ListOps} {ts : List Tunnel} {c : Control}

theorem giveProxy_exec {w : World} {proxyType : Option Str} {t : Tunnel} {g' : Globals}
    (hget : getProxy gs w.toAnswer proxyType c.globals = some (t, g')) :
    ∃ c', exec (giveProxy gs w proxyType) { control := c } =
        (some ⟨⟩, { control := c', replies := [⟨.config t, true, c'⟩] }) ∧ c'.globals = g' := by
  have hselect : exec (selectProxy gs w proxyType) { control := c } =
      (some t, { control := { c with globals := g' } }) := by
    have hstate : exec (get : Handler Exchange) { control := c } = (some { control := c }, { control := c }) := rfl
    unfold selectProxy
    rw [exec_bind, hstate]
    dsimp only
    rw [hget]
    rfl
  unfold giveProxy
  rw [exec_bind, hselect]
  by_cases hon : c.on t = true
  · refine ⟨{ c with globals := g' }, ?_, rfl⟩
    have hstart : exec (startIfOff t) { control := { c with globals := g' } } =
        (some ⟨⟩, { control := { c with globals := g' } }) := by
      show exec (if c.on t then pure ⟨⟩ else start t) _ = _
      rw [if_pos hon]
      rfl
    dsimp only
    rw [exec_bind, hstart]
    rfl
  · refine ⟨{ c with globals := g', on := Function.update c.on t true, started := t :: c.started }, ?_, rfl⟩
    have hstart : exec (startIfOff t) { control := { c with globals := g' } } =
        (some ⟨⟩, { control := { c with
          globals := g', on := Function.update c.on t true, started := t :: c.started } }) := by
      show exec (if c.on t then pure ⟨⟩ else start t) _ = _
      rw [if_neg hon]
      rfl
    dsimp only
    rw [exec_bind, hstart]
    rfl

/-- **A request without a type** gets the tunnel at its place. -/
theorem serve_untyped (hgs : gs.Lawful) (hne : ts ≠ []) (hts : c.globals.tunnels = ts.map some) {w : World} {r : Body}
    (hasks : AsksAny w r) :
    ∃ t, ts[(c.globals.lastUse + advance w.clientNum ts c.globals.lastUse) % ts.length]? = some t ∧
      configs ((Event.request .proxyGet w r).replies gs c) = [t] ∧
      ((Event.request .proxyGet w r).after gs c).globals = { c.globals with
        lastUse := (c.globals.lastUse + advance w.clientNum ts c.globals.lastUse) % ts.length } := by
  obtain ⟨t, ht, hget⟩ := getProxy_untyped (w := w.toAnswer) hgs hne hts
  obtain ⟨c', hexec, hglobals⟩ := giveProxy_exec (w := w) hget
  have hhandle : proxyGet gs w r = giveProxy gs w none := by
    obtain ⟨herr, hfield⟩ := hasks
    unfold proxyGet
    rcases hrecv : recv w r with ⟨_ | d, err⟩
    all_goals
      rw [hrecv] at herr hfield
      obtain rfl := herr
    · rfl
    · dsimp only at hfield ⊢
      split
      · exact absurd ‹_› (hfield _)
      · rfl
  refine ⟨t, ht, ?_, ?_⟩
  · show configs (exec (proxyGet gs w r) _).2.replies = _
    rw [hhandle, hexec]
    rfl
  · show (exec (proxyGet gs w r) _).2.control.globals = _
    rw [hhandle, hexec]
    exact hglobals

theorem configs_gets_cons {q : World × Body} {rest : List (World × Body)} {t : Tunnel}
    (hconfigs : configs ((Event.request .proxyGet q.1 q.2).replies gs c) = [t]) :
    configs (replies gs (gets (q :: rest)) c) =
      t :: configs (replies gs (gets rest) ((Event.request .proxyGet q.1 q.2).after gs c)) := by
  show configs ((Event.request .proxyGet q.1 q.2).replies gs c ++ _) = _
  unfold configs at hconfigs ⊢
  rw [List.filterMap_append, hconfigs]
  rfl

/-- **The tunnels of a run of requests** are those at its places. -/
theorem configs_gets (hgs : gs.Lawful) (hne : ts ≠ []) (asks : List (World × Body))
    (hasks : ∀ q ∈ asks, AsksAny q.1 q.2) (hts : c.globals.tunnels = ts.map some) :
    (configs (replies gs (gets asks) c)).map some =
      (places ts c.globals.lastUse (asks.map Prod.fst)).map (ts[·]?) := by
  induction asks generalizing c with
  | nil => rfl
  | cons q rest ih =>
    obtain ⟨t, ht, hconfigs, hglobals⟩ := serve_untyped hgs hne hts (hasks q List.mem_cons_self)
    have hrest := ih (c := (Event.request .proxyGet q.1 q.2).after gs c)
      (fun q' hq' => hasks q' (List.mem_cons_of_mem _ hq')) (by rw [hglobals]; exact hts)
    rw [hglobals] at hrest
    rw [configs_gets_cons hconfigs, List.map_cons, hrest, ← ht]
    rfl

/-- No request gets the tunnel of the one before. -/
theorem configs_gets_isChain (hgs : gs.Lawful) (hlong : 5 < ts.length) (hnodup : ts.Nodup) (asks : List (World × Body))
    (hasks : ∀ q ∈ asks, AsksAny q.1 q.2) (hts : c.globals.tunnels = ts.map some) {t : Tunnel}
    (ht : ts[c.globals.lastUse % ts.length]? = some t) :
    (t :: configs (replies gs (gets asks) c)).IsChain (· ≠ ·) := by
  induction asks generalizing c t with
  | nil => exact List.IsChain.singleton t
  | cons q rest ih =>
    have hne : ts ≠ [] := List.ne_nil_of_length_pos (by omega)
    obtain ⟨u, hu, hconfigs, hglobals⟩ := serve_untyped hgs hne hts (hasks q List.mem_cons_self)
    have hrest := ih (c := (Event.request .proxyGet q.1 q.2).after gs c) (t := u)
      (fun q' hq' => hasks q' (List.mem_cons_of_mem _ hq')) (by rw [hglobals]; exact hts)
      (by rw [hglobals, Nat.mod_mod]; exact hu)
    rw [configs_gets_cons hconfigs, List.isChain_cons_cons]
    refine ⟨fun heq => ?_, hrest⟩
    subst heq
    obtain ⟨hlow, hhigh⟩ : 2 ≤ advance q.1.clientNum ts c.globals.lastUse ∧ _ := advance_bounds c.globals.lastUse
    have hplace := (List.getElem?_inj (Nat.mod_lt _ (by omega)) hnodup).mp (ht.trans hu.symm)
    have hmod : c.globals.lastUse + 0 ≡ c.globals.lastUse + advance q.1.clientNum ts c.globals.lastUse [MOD ts.length] :=
      hplace
    have hzero := Nat.ModEq.add_left_cancel' _ hmod
    rw [Nat.ModEq, Nat.zero_mod, Nat.mod_eq_of_lt (by omega)] at hzero
    omega

end Runs

section Reachable

variable {gs : ListOps}

/-- The places where all tunnels have one type. -/
theorem places_uniform {ts : List Tunnel} {tp : Str} (h : ∀ t ∈ ts, t.proxyType = tp) (ws : List World)
    (lastUse : Nat) :
    places ts lastUse ws = (List.range ws.length).map fun i => (lastUse + 5 * (i + 1)) % ts.length := by
  induction ws generalizing lastUse with
  | nil => rfl
  | cons w rest ih =>
    rw [places, advance_uniform h, ih, List.length_cons, List.range_succ_eq_map, List.map_cons, List.map_map]
    refine congrArg₂ _ (by simp) (List.map_congr_left fun i _ => ?_)
    rw [Nat.mod_add_mod]
    congr 1
    simp
    omega

/-- **Requests without a type go round the list**, each by two to five places, and where there are more than five
tunnels none gets the tunnel of the one before. -/
theorem untyped_walks (hgs : gs.Lawful) (before : List Event) (hne : (after gs before {}).globals.tunnels ≠ [])
    (asks : List (World × Body)) (hasks : ∀ q ∈ asks, AsksAny q.1 q.2) :
    (configs (replies gs (gets asks) (after gs before {}))).map some =
        (places (after gs before {}).globals.tunnels.reduceOption (after gs before {}).globals.lastUse
          (asks.map Prod.fst)).map ((after gs before {}).globals.tunnels.reduceOption[·]?) ∧
      (5 < (after gs before {}).globals.tunnels.length →
        (configs (replies gs (gets asks) (after gs before {}))).IsChain (· ≠ ·)) := by
  have hledger := ledger hgs before
  have hts := hledger.tunnels_eq
  have hnodup := hledger.nodup
  generalize after gs before {} = c at hne hts hnodup
  generalize c.globals.tunnels.reduceOption = ts at hts hnodup
  have hlen : c.globals.tunnels.length = ts.length := by rw [hts, List.length_map]
  have hts' : ts ≠ [] := fun h => hne (by rw [hts, h]; rfl)
  refine ⟨configs_gets hgs hts' asks hasks hts, fun hlong => ?_⟩
  have hlast : c.globals.lastUse % ts.length < ts.length := Nat.mod_lt _ (List.length_pos_iff.mpr hts')
  exact (configs_gets_isChain hgs (by omega) hnodup asks hasks hts (List.getElem?_eq_getElem hlast)).of_cons

/-- **Where all tunnels have one type, requests without a type come to each of them exactly if their number is no
multiple of five**, whatever their loads are. -/
theorem untyped_reachesAll_iff (hgs : gs.Lawful) (before : List Event)
    (hne : (after gs before {}).globals.tunnels ≠ []) {tp : Str}
    (htype : ∀ t, some t ∈ (after gs before {}).globals.tunnels → t.proxyType = tp) (asks : Nat → World × Body)
    (hasks : ∀ i, AsksAny (asks i).1 (asks i).2) :
    (∀ t, some t ∈ (after gs before {}).globals.tunnels →
        ∃ m, t ∈ configs (replies gs (gets ((List.range m).map asks)) (after gs before {}))) ↔
      ¬5 ∣ (after gs before {}).globals.tunnels.length := by
  have hledger := ledger hgs before
  have hts := hledger.tunnels_eq
  have hnodup := hledger.nodup
  generalize after gs before {} = c at hne htype hts hnodup
  generalize c.globals.tunnels.reduceOption = ts at hts hnodup
  have hlen : c.globals.tunnels.length = ts.length := by rw [hts, List.length_map]
  have hpos : 0 < ts.length := by
    rw [← hlen]
    exact List.length_pos_iff.mpr hne
  have hmem : ∀ t, some t ∈ c.globals.tunnels ↔ t ∈ ts := by simp [hts]
  have hgot : ∀ m t, t ∈ configs (replies gs (gets ((List.range m).map asks)) c) ↔
      ∃ k < m, ts[(c.globals.lastUse + 5 * (k + 1)) % ts.length]? = some t := by
    intro m t
    have hall := configs_gets hgs (List.ne_nil_of_length_pos hpos) ((List.range m).map asks)
      (fun q hq => by obtain ⟨i, -, rfl⟩ := List.mem_map.mp hq; exact hasks i) hts
    rw [places_uniform fun t ht => htype t ((hmem t).mpr ht)] at hall
    rw [← List.mem_map_of_injective (Option.some_injective _), hall]
    simp
  rw [hlen, ← Nat.prime_five.coprime_iff_not_dvd, ← stride_reaches_iff hpos c.globals.lastUse 5]
  constructor
  · intro h i hi
    obtain ⟨m, hm⟩ := h ts[i] ((hmem _).mpr (List.getElem_mem hi))
    obtain ⟨k, -, hk⟩ := (hgot m _).mp hm
    refine ⟨k, (List.getElem?_inj (Nat.mod_lt _ hpos) hnodup).mp ?_⟩
    rw [hk, List.getElem?_eq_getElem hi]
  · intro h t ht
    obtain ⟨i, hi, rfl⟩ := List.getElem_of_mem ((hmem t).mp ht)
    obtain ⟨k, hk⟩ := h i hi
    refine ⟨k + 1, (hgot _ _).mpr ⟨k, Nat.lt_succ_self k, ?_⟩⟩
    rw [hk, List.getElem?_eq_getElem hi]

end Reachable

/-- Reports without an ID, for each of which a tunnel of the type `tls` is made. -/
def reports (n : Nat) : List Event := List.replicate n (.request .proxyErr quietWorld ⟨[], none⟩)

theorem asksAny_quiet : AsksAny quietWorld ⟨[], none⟩ := ⟨rfl, nofun⟩

theorem untyped_walks_six :
    (configs (replies sampleOps (gets (List.replicate 3 (quietWorld, ⟨[], none⟩))) (after sampleOps (reports 6) {}))).map some =
        (places (after sampleOps (reports 6) {}).globals.tunnels.reduceOption (after sampleOps (reports 6) {}).globals.lastUse
          ((List.replicate 3 (quietWorld, (⟨[], none⟩ : Body))).map Prod.fst)).map
            ((after sampleOps (reports 6) {}).globals.tunnels.reduceOption[·]?) ∧
      (5 < (after sampleOps (reports 6) {}).globals.tunnels.length →
        (configs (replies sampleOps (gets (List.replicate 3 (quietWorld, ⟨[], none⟩)))
          (after sampleOps (reports 6) {}))).IsChain (· ≠ ·)) := by
  refine untyped_walks sampleOps_lawful (reports 6) (by decide) _ fun q hq => ?_
  rw [List.eq_of_mem_replicate hq]
  exact asksAny_quiet

/-- With five tunnels all requests get the same one. -/
theorem untyped_reachesAll_iff_five :
    ¬∀ t, some t ∈ (after sampleOps (reports 5) {}).globals.tunnels →
      ∃ m, t ∈ configs (replies sampleOps (gets ((List.range m).map fun _ => (quietWorld, ⟨[], none⟩)))
        (after sampleOps (reports 5) {})) := by
  have hall : ∀ c ∈ (after sampleOps (reports 5) {}).globals.tunnels, c.all (·.proxyType = str "tls") := by decide
  have htype : ∀ t, some t ∈ (after sampleOps (reports 5) {}).globals.tunnels → t.proxyType = str "tls" := by
    intro t ht
    simpa using hall _ ht
  rw [untyped_reachesAll_iff sampleOps_lawful (reports 5) (by decide) htype (fun _ => (quietWorld, ⟨[], none⟩))
    fun _ => asksAny_quiet]
  decide

end ProxyZ.Server
