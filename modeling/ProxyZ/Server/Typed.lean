import Mathlib.Data.List.Sort
import ProxyZ.Go.Scan
import ProxyZ.Server.Handlers

/-!
# Requests for a type

`GetProxy` with a type sorts the tunnels by their clients, fewest first, and scans all of them: each tunnel of
the type overwrites the one before, so the busiest of them is returned. It is one with the fewest clients exactly
if all tunnels of the type have equally many (`leastLoaded_iff`).

Where no tunnel is of the type `NewProxy` makes one. It knows three types and makes a `tls` tunnel for any other,
which the next request for that type does not find. So a request for the same type adds nothing exactly if the
type is known or there was a tunnel of it (`proxyGet_again_iff`).
-/

namespace ProxyZ.Server

open Go Procedure

/-- `Sort` orders the list: fewer before more. -/
structure ListOps.Ordered (gs : ListOps) : Prop extends gs.Lawful where
  sorted : ∀ (num : Tunnel → Int) l, none ∉ l →
    (gs.sort (fun l r => num l < num r) l).1.reduceOption.Pairwise fun t u => num t ≤ num u

/-- There is a tunnel of the type. -/
def Offers (g : Globals) (tp : Str) : Prop := ∃ t, some t ∈ g.tunnels ∧ t.proxyType = tp

/-- The types that `NewProxy` knows. -/
def Known (tp : Str) : Prop := tp ∈ [str "tls", str "kcp", str "quic"]

instance (tp : Str) : Decidable (Known tp) := inferInstanceAs (Decidable (_ ∈ _))

/-- `GetProxy(tp)` returns a tunnel of the type with the fewest clients, and makes none. -/
def LeastLoaded (gs : ListOps) (w : Answer) (tp : Str) (g : Globals) : Prop :=
  ∃ t g', getProxy gs w (some tp) g = some (t, g') ∧ Finds g t g' ∧ t.proxyType = tp ∧
    ∀ u, some u ∈ g.tunnels → u.proxyType = tp → w.clientNum t ≤ w.clientNum u

/-- Two calls of `GetProxy(tp)` return, and the second leaves the tunnels as they are, in the order of its sort. -/
def AddsNothing (gs : ListOps) (w w' : Answer) (tp : Str) (g : Globals) : Prop :=
  ∃ t g₁ t' g₂, getProxy gs w (some tp) g = some (t, g₁) ∧ getProxy gs w' (some tp) g₁ = some (t', g₂) ∧
    g₂.tunnels.Perm g₁.tunnels

/-- The body asks for a tunnel of the type. -/
def Asks (w : World) (r : Body) (tp : Str) : Prop :=
  ∃ d, recv w r = (some d, none) ∧ field (some d) "type" = some (.str tp)

/-- The server after some requests to `/proxy-get`. -/
def requests (gs : ListOps) : List (World × Body) → Control → Control
  | [], c => c
  | (w, r) :: rest, c => requests gs rest (serve gs w r .proxyGet c).2.control

section Typed

variable {gs : ListOps} {w : Answer} {tp : Str} {g : Globals}

/-! ### What GetProxy returns -/

theorem newProxy_proxyType (tp : Str) (conf : Conf) (g : Globals) :
    (newProxy tp conf g).1.proxyType = tp ↔ Known tp := by
  unfold newProxy Known
  simp only [List.mem_cons, List.not_mem_nil, or_false]
  split_ifs with htls hkcp hquic
  · exact iff_of_true htls.symm (Or.inl htls)
  · exact iff_of_true hkcp.symm (Or.inr (Or.inl hkcp))
  · exact iff_of_true hquic.symm (Or.inr (Or.inr hquic))
  · refine iff_of_false (fun heq => htls heq.symm) ?_
    rintro (h | h | h)
    · exact htls h
    · exact hkcp h
    · exact hquic h

/-- The tunnel that the scan over the sorted list ends with. -/
def scanned (gs : ListOps) (w : Answer) (tp : Str) (g : Globals) : Option Tunnel :=
  lastHit (fun i => i.proxyType = tp)
    (gs.sort (fun l r => w.clientNum l < w.clientNum r) g.tunnels).1.reduceOption

/-- The globals with the list as the sort leaves it. -/
def sorted (gs : ListOps) (w : Answer) (g : Globals) : Globals :=
  { g with
    shared := { g.shared with tunnels := (gs.sort (fun l r => w.clientNum l < w.clientNum r) g.tunnels).2 } }

theorem getProxy_typed (hgs : gs.Lawful) (hg : none ∉ g.tunnels) :
    getProxy gs w (some tp) g = match scanned gs w tp g with
      | none => some (makeProxy tp w.conf (sorted gs w g))
      | some tu => some (tu, sorted gs w g) := by
  obtain ⟨hsorted, -⟩ := hgs.sort (fun l r => w.clientNum l < w.clientNum r) g.tunnels
  unfold getProxy
  dsimp only
  rw [if_neg fun hmem => hg (hsorted.mem_iff.mp hmem)]
  rfl

theorem sorted_tunnels (hgs : gs.Lawful) : (sorted gs w g).tunnels.Perm g.tunnels := (hgs.sort _ _).2

theorem mem_sort (hgs : gs.Lawful) {t : Tunnel} :
    t ∈ (gs.sort (fun l r => w.clientNum l < w.clientNum r) g.tunnels).1.reduceOption ↔ some t ∈ g.tunnels := by
  rw [List.reduceOption_mem_iff]
  exact (hgs.sort _ _).1.mem_iff

theorem scanned_mem (hgs : gs.Lawful) {t : Tunnel} (h : scanned gs w tp g = some t) :
    some t ∈ g.tunnels ∧ t.proxyType = tp := by
  obtain ⟨htp, rest, hsuffix, -⟩ := lastHit_suffix h
  exact ⟨(mem_sort hgs).mp (hsuffix.subset List.mem_cons_self), of_decide_eq_true htp⟩

theorem exists_scanned (hgs : gs.Lawful) (h : Offers g tp) : ∃ t, scanned gs w tp g = some t := by
  obtain ⟨t, ht, htp⟩ := h
  exact lastHit_of_mem ((mem_sort hgs).mpr ht) (decide_eq_true htp)

/-- Where there is a tunnel of the type, one is returned. -/
theorem getProxy_found (hgs : gs.Lawful) (hg : none ∉ g.tunnels) (h : Offers g tp) :
    ∃ t, getProxy gs w (some tp) g = some (t, sorted gs w g) := by
  obtain ⟨t, ht⟩ := exists_scanned (w := w) hgs h
  refine ⟨t, ?_⟩
  rw [getProxy_typed hgs hg, ht]

/-- Where there is none, a tunnel is added. -/
theorem getProxy_added (hgs : gs.Lawful) (hg : none ∉ g.tunnels) (h : ¬Offers g tp) :
    ∃ t g', getProxy gs w (some tp) g = some (t, g') ∧ g'.tunnels.Perm (some t :: g.tunnels) ∧
      (t.proxyType = tp ↔ Known tp) := by
  have hnone : scanned gs w tp g = none := by
    rcases hscan : scanned gs w tp g with _ | t
    · rfl
    · exact absurd ⟨t, scanned_mem hgs hscan⟩ h
  refine ⟨_, (makeProxy tp w.conf (sorted gs w g)).2, ?_, ?_, newProxy_proxyType tp w.conf (sorted gs w g)⟩
  · rw [getProxy_typed hgs hg, hnone]
    rfl
  · exact (List.perm_append_singleton _ _).trans ((sorted_tunnels hgs).cons _)

/-! ### The load of the tunnel returned -/

/-- No tunnel of the type has more clients than the one returned. -/
theorem scanned_busiest (hgs : gs.Ordered) (hg : none ∉ g.tunnels) {t : Tunnel} (h : scanned gs w tp g = some t) :
    ∀ u, some u ∈ g.tunnels → u.proxyType = tp → w.clientNum u ≤ w.clientNum t := by
  intro u hu htp
  have hsorted := hgs.sorted w.clientNum _ hg
  have hgreatest := lastHit_greatest (fun t => le_refl (w.clientNum t)) hsorted h
  exact hgreatest u ((mem_sort hgs.toLawful).mpr hu) (decide_eq_true htp)

/-- **The tunnel returned has the fewest clients of its type, and none is made, exactly if all tunnels of the type
have equally many clients.** -/
theorem leastLoaded_iff (hgs : gs.Ordered) (w : Answer) (h : Offers g tp) :
    LeastLoaded gs w tp g ↔ none ∉ g.tunnels ∧
      ∀ t u, some t ∈ g.tunnels → some u ∈ g.tunnels → t.proxyType = tp → u.proxyType = tp →
        w.clientNum t = w.clientNum u := by
  constructor
  · rintro ⟨t, g', hcall, -, -, hleast⟩
    have hg : none ∉ g.tunnels := by
      intro hmem
      have hsorted := (hgs.sort (fun l r => w.clientNum l < w.clientNum r) g.tunnels).1
      unfold getProxy at hcall
      dsimp only at hcall
      rw [if_pos (hsorted.mem_iff.mpr hmem)] at hcall
      cases hcall
    obtain ⟨t', hscan⟩ := exists_scanned (w := w) hgs.toLawful h
    rw [getProxy_typed hgs.toLawful hg, hscan] at hcall
    cases hcall
    have hbusiest := scanned_busiest hgs hg hscan
    refine ⟨hg, fun u v hu hv hutp hvtp => le_antisymm ?_ ?_⟩
    · exact (hbusiest u hu hutp).trans (hleast v hv hvtp)
    · exact (hbusiest v hv hvtp).trans (hleast u hu hutp)
  · rintro ⟨hg, hequal⟩
    obtain ⟨t, hscan⟩ := exists_scanned (w := w) hgs.toLawful h
    obtain ⟨hmem, htp⟩ := scanned_mem hgs.toLawful hscan
    refine ⟨t, sorted gs w g, ?_, ⟨hmem, rfl, fun c => (sorted_tunnels hgs.toLawful).mem_iff⟩, htp, ?_⟩
    · rw [getProxy_typed hgs.toLawful hg, hscan]
    · exact fun u hu hutp => (hequal t u hmem hu htp hutp).le

/-! ### Asking again -/

theorem Offers.perm {g' : Globals} (h : Offers g tp) (hperm : g'.tunnels.Perm g.tunnels) : Offers g' tp := by
  obtain ⟨t, ht, htp⟩ := h
  exact ⟨t, hperm.mem_iff.mpr ht, htp⟩

theorem serves_cons_iff {g' : Globals} {t : Tunnel} (hperm : g'.tunnels.Perm (some t :: g.tunnels)) :
    Offers g' tp ↔ t.proxyType = tp ∨ Offers g tp := by
  constructor
  · rintro ⟨u, hu, htp⟩
    rcases List.mem_cons.mp (hperm.mem_iff.mp hu) with heq | hmem
    · cases heq
      exact Or.inl htp
    · exact Or.inr ⟨u, hmem, htp⟩
  · rintro (htp | ⟨u, hu, htp⟩)
    · exact ⟨t, hperm.mem_iff.mpr List.mem_cons_self, htp⟩
    · exact ⟨u, hperm.mem_iff.mpr (List.mem_cons_of_mem _ hu), htp⟩

theorem none_notMem_cons {g' : Globals} {t : Tunnel} (hg : none ∉ g.tunnels)
    (hperm : g'.tunnels.Perm (some t :: g.tunnels)) : none ∉ g'.tunnels := by
  intro hmem
  rcases List.mem_cons.mp (hperm.mem_iff.mp hmem) with heq | hmem
  · cases heq
  · exact hg hmem

/-- One call: behind it there is a tunnel of the type, exactly if there was one or the type is known. -/
theorem getProxy_step (hgs : gs.Lawful) (hg : none ∉ g.tunnels) (w : Answer) (tp : Str) :
    ∃ t g', getProxy gs w (some tp) g = some (t, g') ∧ none ∉ g'.tunnels ∧
      (Offers g' tp ↔ Known tp ∨ Offers g tp) ∧
      (Offers g tp → g'.tunnels.Perm g.tunnels) ∧
      (¬Offers g tp → g'.tunnels.length = g.tunnels.length + 1) := by
  by_cases hoffers : Offers g tp
  · obtain ⟨t, hcall⟩ := getProxy_found (w := w) hgs hg hoffers
    have hperm := sorted_tunnels (w := w) (g := g) hgs
    refine ⟨t, _, hcall, fun hmem => hg (hperm.mem_iff.mp hmem), ?_, fun _ => hperm, fun hnot => absurd hoffers hnot⟩
    exact iff_of_true (hoffers.perm hperm) (Or.inr hoffers)
  · obtain ⟨t, g', hcall, hperm, htp⟩ := getProxy_added (w := w) hgs hg hoffers
    refine ⟨t, g', hcall, none_notMem_cons hg hperm, ?_, fun hyes => absurd hyes hoffers, fun _ => ?_⟩
    · rw [serves_cons_iff hperm, htp]
    · rw [hperm.length_eq, List.length_cons]

theorem addsNothing_iff (hgs : gs.Lawful) (hg : none ∉ g.tunnels) (w w' : Answer) (tp : Str) :
    AddsNothing gs w w' tp g ↔ Known tp ∨ Offers g tp := by
  obtain ⟨t, g₁, hcall, hg₁, hoffers, -, -⟩ := getProxy_step hgs hg w tp
  obtain ⟨t', g₂, hcall', -, -, hfound, hadded⟩ := getProxy_step hgs hg₁ w' tp
  rw [← hoffers]
  constructor
  · rintro ⟨u, h₁, u', h₂, hu, hu', hperm⟩
    rw [hcall] at hu
    cases hu
    rw [hcall'] at hu'
    cases hu'
    by_contra hnot
    have := hadded hnot
    rw [hperm.length_eq] at this
    omega
  · intro hyes
    exact ⟨t, g₁, t', g₂, hcall, hcall', hfound hyes⟩

/-! ### Requests -/

/-- What a request for the type does to the tunnels is what `GetProxy` does. -/
theorem serve_globals {w : World} {r : Body} (hasks : Asks w r tp) {c : Control} {t : Tunnel} {g' : Globals}
    (hcall : getProxy gs w.toAnswer (some tp) c.globals = some (t, g')) :
    (serve gs w r .proxyGet c).2.control.globals = g' := by
  obtain ⟨d, hrecv, hfield⟩ := hasks
  have hselect : exec (selectProxy gs w (some tp)) { control := c } =
      (some t, { control := { c with globals := g' } }) := by
    have hget : exec (get : Handler Exchange) { control := c } = (some { control := c }, { control := c }) := rfl
    unfold selectProxy
    rw [exec_bind, hget]
    dsimp only
    rw [hcall]
    rfl
  unfold serve handle proxyGet
  rw [hrecv]
  dsimp only
  rw [hfield]
  dsimp only
  unfold giveProxy
  rw [exec_bind, hselect]
  show (exec ((if c.on t then pure () else start t) >>= fun _ => reply (.config t) true) _).2.control.globals = _
  split_ifs
  · rfl
  · rfl

/-- A request that asks for the type. -/
def asking (tp : Str) : World × Body :=
  ({ quietWorld with unmarshal := fun _ => .ok (some [(str "type", .str tp)]) }, ⟨str "\x7b\x7d", none⟩)

theorem asks_asking (tp : Str) : Asks (asking tp).1 (asking tp).2 tp := ⟨_, rfl, rfl⟩

theorem requests_length (hgs : gs.Lawful) (reqs : List (World × Body)) {c : Control} (hg : none ∉ c.globals.tunnels)
    (hoffers : Offers c.globals tp) (hreqs : ∀ q ∈ reqs, Asks q.1 q.2 tp) :
    (requests gs reqs c).globals.tunnels.length = c.globals.tunnels.length := by
  induction reqs generalizing c with
  | nil => rfl
  | cons q rest ih =>
    obtain ⟨t, g', hcall, hg', hoffers', hfound, -⟩ := getProxy_step hgs hg q.1.toAnswer tp
    have hglobals := serve_globals (hreqs q List.mem_cons_self) hcall
    have hrest := ih (c := (serve gs q.1 q.2 .proxyGet c).2.control) (by rw [hglobals]; exact hg')
      (by rw [hglobals]; exact hoffers'.mpr (Or.inr hoffers)) fun q' hq' => hreqs q' (List.mem_cons_of_mem _ hq')
    rw [hglobals, (hfound hoffers).length_eq] at hrest
    exact hrest

/-- **The second call for a type adds no tunnel, and any number of requests for it add one at most, exactly if
the type is known or there was a tunnel of it.** -/
theorem proxyGet_again_iff (hgs : gs.Lawful) {c : Control} (hg : none ∉ c.globals.tunnels) (tp : Str) :
    (∀ w w', AddsNothing gs w w' tp c.globals ↔ Known tp ∨ Offers c.globals tp) ∧
      ((∀ reqs, (∀ q ∈ reqs, Asks q.1 q.2 tp) →
          (requests gs reqs c).globals.tunnels.length ≤ c.globals.tunnels.length + 1) ↔
        Known tp ∨ Offers c.globals tp) := by
  refine ⟨fun w w' => addsNothing_iff hgs hg w w' tp, ⟨fun hall => ?_, fun hyes reqs hreqs => ?_⟩⟩
  · by_contra hnot
    have hq := asks_asking tp
    have htwo := hall [asking tp, asking tp] (by
      intro q hmem
      rw [List.mem_cons, List.mem_singleton, or_self] at hmem
      rw [hmem]
      exact hq)
    obtain ⟨t, g₁, hcall, hg₁, hoffers, -, hadded⟩ := getProxy_step hgs hg (asking tp).1.toAnswer tp
    obtain ⟨t', g₂, hcall', -, -, -, hadded'⟩ := getProxy_step hgs hg₁ (asking tp).1.toAnswer tp
    have hfirst := serve_globals hq hcall
    rw [← hfirst] at hcall'
    have hsecond : (requests gs [asking tp, asking tp] c).globals = g₂ := serve_globals hq hcall'
    rw [hsecond, hadded' fun h => hnot (hoffers.mp h), hadded fun h => hnot (Or.inr h)] at htwo
    omega
  · cases reqs with
    | nil => exact Nat.le_succ _
    | cons q rest =>
      obtain ⟨t, g', hcall, hg', hoffers, hfound, hadded⟩ := getProxy_step hgs hg q.1.toAnswer tp
      have hglobals := serve_globals (hreqs q List.mem_cons_self) hcall
      have hrest := requests_length (c := (serve gs q.1 q.2 .proxyGet c).2.control) hgs rest (by rw [hglobals]; exact hg')
        (by rw [hglobals]; exact hoffers.mpr hyes) fun q' hq' => hreqs q' (List.mem_cons_of_mem _ hq')
      rw [hglobals] at hrest
      refine hrest.le.trans ?_
      by_cases hthere : Offers c.globals tp
      · rw [(hfound hthere).length_eq]
        exact Nat.le_succ _
      · exact (hadded hthere).le

end Typed

/-- `gs.List` with an insertion sort. -/
def insertOps : ListOps where
  nth l i := l[i]?
  sort less l := (l.insertionSort fun l r => less (r.getD tunnelA) (l.getD tunnelA) = false, l)

theorem insertOps_ordered : insertOps.Ordered where
  nth := fun _ _ _ h => h
  sort := fun _ l => ⟨List.perm_insertionSort _ l, List.Perm.refl l⟩
  sorted := by
    intro num l _
    let before : Option Tunnel → Option Tunnel → Prop :=
      fun l r => decide (num (r.getD tunnelA) < num (l.getD tunnelA)) = false
    have hle : ∀ l r, before l r ↔ num (l.getD tunnelA) ≤ num (r.getD tunnelA) := by
      intro l r
      rw [← not_lt]
      exact decide_eq_false_iff_not
    have htrans : IsTrans (Option Tunnel) before := ⟨fun a b c hab hbc => (hle a c).mpr
      (((hle a b).mp hab).trans ((hle b c).mp hbc))⟩
    have htotal : Std.Total before := ⟨fun a b => (le_total _ _).imp (hle a b).mpr (hle b a).mpr⟩
    rw [List.reduceOption, List.pairwise_filterMap]
    refine (List.pairwise_insertionSort before l).imp ?_
    intro a b hab t ht u hu
    have := (hle a b).mp hab
    rw [show a = some t from ht, show b = some u from hu] at this
    exact this

/-- Two tunnels of the type tls, without clients and with two. -/
def twoLoads : Globals :=
  { shared := { tunnels := [some tunnelA, some { tunnelA with ref := 1, id := str "d" }] }, made := 2 }

def loads : Answer := { idleAnswer with clientNum := fun t => if t.ref = 1 then 2 else 0 }

theorem leastLoaded_twoLoads : LeastLoaded insertOps idleAnswer (str "tls") twoLoads := by
  refine (leastLoaded_iff insertOps_ordered idleAnswer ⟨tunnelA, List.mem_cons_self, rfl⟩).mpr ⟨by decide, ?_⟩
  intro t u _ _ _ _
  rfl

/-- The tunnel with two clients is returned. -/
theorem not_leastLoaded_twoLoads : Offers twoLoads (str "tls") ∧ ¬LeastLoaded insertOps loads (str "tls") twoLoads := by
  refine ⟨⟨tunnelA, List.mem_cons_self, rfl⟩, ?_⟩
  rintro ⟨t, g', hcall, -, -, hleast⟩
  have hbusy : (getProxy insertOps loads (some (str "tls")) twoLoads).map (loads.clientNum ·.1) = some 2 := by
    decide +kernel
  rw [hcall] at hbusy
  have hidle : loads.clientNum t ≤ 0 := hleast tunnelA List.mem_cons_self rfl
  rw [show loads.clientNum t = 2 from Option.some.inj hbusy] at hidle
  exact absurd hidle (by decide)

theorem proxyGet_again_iff_tls : AddsNothing insertOps idleAnswer loads (str "tls") {} := by
  have hiff := proxyGet_again_iff insertOps_ordered.toLawful (c := {}) List.not_mem_nil (str "tls")
  exact (hiff.1 idleAnswer loads).mpr (Or.inl (by decide))

/-- A second request for an unknown type adds a second tunnel. -/
theorem not_addsNothing_unknown : ¬AddsNothing insertOps idleAnswer idleAnswer (str "socks") {} := by
  rintro ⟨t, g₁, t', g₂, hcall, hcall', hperm⟩
  have hboth : ((getProxy insertOps idleAnswer (some (str "socks")) {}).bind fun r =>
      (getProxy insertOps idleAnswer (some (str "socks")) r.2).map fun r' =>
        (r.2.tunnels.length, r'.2.tunnels.length)) = some (1, 2) := by
    decide +kernel
  rw [hcall, Option.bind_some, hcall'] at hboth
  have hlengths := Option.some.inj hboth
  have hsame := hperm.length_eq
  rw [show g₁.tunnels.length = 1 from congrArg Prod.fst hlengths,
    show g₂.tunnels.length = 2 from congrArg Prod.snd hlengths] at hsame
  cases hsame

end ProxyZ.Server
