import Mathlib.Algebra.BigOperators.Fin
import ProxyZ.Server.Ledger

/-!
# The types take turns

`NewProxyByErrCount` gives a type that has failed less often than `tls`, or `tls`. A client that reports each tunnel it
is given, as `ErrSoGetNew` does, first makes up for what the types have failed unequally, and is from then on given
`tls`, `quic` and `kcp` in turn (`turn_level`). Its reports do this on the server, from any state that a run can have
left and whatever else the server is asked meanwhile, as long as no other tunnel is closed (`reports_take_turns`).
-/

namespace ProxyZ.Server

open Go Procedure

/-! ### The game of the counts -/

inductive Kind
  | tls
  | kcp
  | quic
  deriving DecidableEq, Repr

namespace Kind

def name : Kind → Str
  | tls => str "tls"
  | kcp => str "kcp"
  | quic => str "quic"

/-- The type that is given next. -/
def next (n : Kind → Nat) : Kind :=
  if n quic < n tls then quic else if n kcp < n tls then kcp else tls

/-- The counts with one more of a type. -/
def fail (n : Kind → Nat) (k : Kind) : Kind → Nat := Function.update n k (n k + 1)

/-- The counts as each type that is given fails as well. -/
def turn (n : Kind → Nat) : Nat → Kind → Nat
  | 0 => n
  | i + 1 => fail (turn n i) (next (turn n i))

def total (n : Kind → Nat) : Nat := n tls + n kcp + n quic

/-- The turns of the types. -/
def cycle (j : Nat) : Kind := if j % 3 = 0 then tls else if j % 3 = 1 then quic else kcp

variable {n : Kind → Nat}

theorem name_injective : Function.Injective name := by
  intro a b h
  cases a <;> cases b <;> first | rfl | exact absurd h (by decide)

theorem known_iff {tp : Str} : Known tp ↔ ∃ k, name k = tp := by
  constructor
  · intro h
    simp only [Known, List.mem_cons, List.not_mem_nil, or_false] at h
    rcases h with rfl | rfl | rfl
    · exact ⟨tls, rfl⟩
    · exact ⟨kcp, rfl⟩
    · exact ⟨quic, rfl⟩
  · rintro ⟨k, rfl⟩
    cases k <;> decide

theorem total_fail (n : Kind → Nat) (k : Kind) : total (fail n k) = total n + 1 := by
  cases k <;> simp [total, fail] <;> omega

theorem total_turn (n : Kind → Nat) (i : Nat) : total (turn n i) = total n + i := by
  induction i with
  | zero => rfl
  | succ i ih => rw [turn, total_fail, ih, Nat.add_assoc]

/-- No type fails more than `m` times before all have failed as often. -/
theorem fail_next_le {m : Nat} (h : ∀ k, n k ≤ m) (hlt : total n < 3 * m) : ∀ k, fail n (next n) k ≤ m := by
  have htls := h tls
  have hkcp := h kcp
  have hquic := h quic
  intro k
  unfold total at hlt
  unfold fail next
  split_ifs <;> cases k <;> simp <;> omega

theorem turn_le {m : Nat} (h : ∀ k, n k ≤ m) {i : Nat} (hi : total n + i ≤ 3 * m) : ∀ k, turn n i k ≤ m := by
  induction i with
  | zero => exact h
  | succ i ih =>
    apply fail_next_le (ih (by omega))
    rw [total_turn]
    omega

theorem turn_add (n : Kind → Nat) (i j : Nat) : turn n (i + j) = turn (turn n i) j := by
  induction j with
  | zero => rfl
  | succ j ih => rw [← Nat.add_assoc, turn, turn, ih]

/-- Three turns of level counts are one of each type. -/
theorem turn_three (m : Nat) :
    next (fun _ => m) = tls ∧ next (turn (fun _ => m) 1) = quic ∧ next (turn (fun _ => m) 2) = kcp ∧
      turn (fun _ => m) 3 = fun _ => m + 1 := by
  have h0 : next (fun _ => m) = tls := by simp [next]
  have h1 : next (turn (fun _ => m) 1) = quic := by simp [turn, next, fail]
  have h2 : next (turn (fun _ => m) 2) = kcp := by
    rw [show turn (fun _ => m) 2 = fail (turn (fun _ => m) 1) quic by rw [turn, h1]]
    simp [turn, next, fail]
  refine ⟨h0, h1, h2, ?_⟩
  funext k
  rw [show turn (fun _ => m) 3 = fail (turn (fun _ => m) 2) kcp by rw [turn, h2],
    show turn (fun _ => m) 2 = fail (turn (fun _ => m) 1) quic by rw [turn, h1]]
  cases k <;> simp [turn, h0, fail]

theorem turn_const (m q : Nat) : turn (fun _ => m) (3 * q) = fun _ => m + q := by
  induction q with
  | zero => rfl
  | succ q ih => rw [Nat.mul_succ, turn_add, ih, (turn_three _).2.2.2, Nat.add_assoc]

/-- **From level counts on the types take turns.** -/
theorem next_turn_const (m j : Nat) : next (turn (fun _ => m) j) = cycle j := by
  obtain ⟨h0, h1, h2, -⟩ := turn_three (m + j / 3)
  rw [← Nat.div_add_mod j 3, turn_add, turn_const]
  unfold cycle
  rw [Nat.mul_add_mod, Nat.mod_mod]
  obtain hj | hj | hj : j % 3 = 0 ∨ j % 3 = 1 ∨ j % 3 = 2 := by omega
  all_goals rw [hj]
  · exact h0
  · exact h1
  · exact h2

/-- **Whatever the counts, they are level once each type has failed `m` times, and the types take turns from there.** -/
theorem next_turn {m : Nat} (h : ∀ k, n k ≤ m) (j : Nat) : next (turn n (3 * m - total n + j)) = cycle j := by
  have hn : total n ≤ 3 * m := by
    have htls := h tls
    have hkcp := h kcp
    have hquic := h quic
    unfold total
    omega
  have hlevel : turn n (3 * m - total n) = fun _ => m := by
    have hle := turn_le h (i := 3 * m - total n) (by omega)
    have hsum := total_turn n (3 * m - total n)
    have htls := hle tls
    have hkcp := hle kcp
    have hquic := hle quic
    unfold total at hsum hn
    funext k
    cases k
    all_goals
      unfold total at *
      omega
  rw [turn_add, hlevel, next_turn_const]

end Kind

/-! ### Reports -/

/-- How many of the tunnels are of a type. -/
def closings (l : List Tunnel) (k : Kind) : Nat := l.countP fun t => t.proxyType = k.name

/-- The request reports the ID, as `ErrSoGetNew` does. -/
def Reports (w : World) (r : Body) (id : Str) : Prop :=
  ∃ d, recv w r = (some d, none) ∧ field (some d) "Host" = none ∧ field (some d) "ID" = some (.str id)

/-- A run in which a client that holds a tunnel reports it, is given another and reports that, and so on, while the
other events close nothing. The last argument are the tunnels that it is given. -/
inductive Reporting (gs : ListOps) : Tunnel → List Event → Control → List Tunnel → Prop
  | nil {t : Tunnel} {c : Control} : Reporting gs t [] c []
  | other {t : Tunnel} {ev : Event} {rest : List Event} {c : Control} {given : List Tunnel}
      (hquiet : (ev.after gs c).globals.shared.waitToClose = c.globals.shared.waitToClose)
      (h : Reporting gs t rest (ev.after gs c) given) : Reporting gs t (ev :: rest) c given
  | report {t u : Tunnel} {w : World} {r : Body} {rest : List Event} {c : Control} {given : List Tunnel}
      (hreports : Reports w r t.id) (honly : ∀ v, some v ∈ c.globals.tunnels → v.id = t.id → v = t)
      (hgiven : configs ((Event.request .proxyErr w r).replies gs c) = [u])
      (h : Reporting gs u rest ((Event.request .proxyErr w r).after gs c) given) :
      Reporting gs t (.request .proxyErr w r :: rest) c (u :: given)

section Report

variable {gs : ListOps} {c : Control} {l : List Tunnel} {t u : Tunnel} {w : World} {r : Body}

theorem closings_append (l : List Tunnel) {k : Kind} (hu : u.proxyType = k.name) :
    closings (l ++ [u]) = Kind.fail (closings l) k := by
  funext k'
  unfold closings Kind.fail
  rw [List.countP_append, List.countP_singleton, hu]
  by_cases hk : k' = k
  · subst hk
    simp
  · rw [Function.update_of_ne hk, if_neg (by simpa using fun heq => hk (Kind.name_injective heq).symm), Nat.add_zero]

/-- The type that is made is the next of the game. -/
theorem newProxyByErrCount_kind {g : Globals} (h : Ledger l g) (w : Answer) :
    (newProxyByErrCount w g).1.proxyType = (Kind.next (closings g.shared.waitToClose)).name := by
  have hcount : ∀ k : Kind, g.shared.errTypeCount.get k.name 0 = (closings g.shared.waitToClose k : Int) := by
    intro k
    rw [Dict.get, h.booked.counts _ (Kind.known_iff.mpr ⟨k, rfl⟩)]
    rfl
  have htls := hcount .tls
  have hkcp := hcount .kcp
  have hquic := hcount .quic
  unfold Kind.name at htls hkcp hquic
  unfold newProxyByErrCount Kind.next
  simp only [htls, hkcp, hquic, Nat.cast_lt]
  split_ifs
  · exact (newProxy_proxyType _ w.conf g).mpr (by decide)
  · exact (newProxy_proxyType _ w.conf g).mpr (by decide)
  · exact (newProxy_proxyType _ w.conf g).mpr (by decide)

/-- What a report does: the tunnel with the ID is closed, and one is made and started. -/
theorem serve_report (hreports : Reports w r t.id) :
    configs ((Event.request .proxyErr w r).replies gs c) =
        [(newProxyByErrCount w.toAnswer (delProxy t.id c.globals).2).1] ∧
      ((Event.request .proxyErr w r).after gs c).globals =
        (newProxyByErrCount w.toAnswer (delProxy t.id c.globals).2).2 := by
  obtain ⟨d, hrecv, hhost, hid⟩ := hreports
  have hcheck : checkHost w (some d) = pure false := by
    unfold checkHost
    rw [hhost]
  have hdelete : deleteByID (field (some d) "ID") = (do discard (deleteProxy t.id)) := by
    rw [hid]
    rfl
  have hexec : ∃ on, exec (proxyErr w r) { control := c } =
      (some ⟨⟩,
        { control := on
          replies := [⟨.config (newProxyByErrCount w.toAnswer (delProxy t.id c.globals).2).1, true, on⟩] }) ∧
      on.globals = (newProxyByErrCount w.toAnswer (delProxy t.id c.globals).2).2 := by
    unfold proxyErr replaceProxy
    rw [hrecv]
    dsimp only
    rw [hcheck, hdelete]
    exact ⟨_, rfl, rfl⟩
  obtain ⟨c', hexec, hglobals⟩ := hexec
  show configs (exec (proxyErr w r) _).2.replies = _ ∧ (exec (proxyErr w r) _).2.control.globals = _
  rw [hexec]
  exact ⟨rfl, hglobals⟩

theorem filter_eq_singleton (h : Ledger l c.globals) (ht : some t ∈ c.globals.tunnels)
    (honly : ∀ v, some v ∈ c.globals.tunnels → v.id = t.id → v = t) :
    c.globals.tunnels.reduceOption.filter (fun v => v.id = t.id) = [t] := by
  have hmem : t ∈ c.globals.tunnels.reduceOption := List.reduceOption_mem_iff.mpr ht
  have hcongr : c.globals.tunnels.reduceOption.filter (fun v => v.id = t.id) =
      c.globals.tunnels.reduceOption.filter (· == t) := by
    apply List.filter_congr
    intro v hv
    rw [Bool.eq_iff_iff, decide_eq_true_iff, beq_iff_eq]
    exact ⟨honly v (List.reduceOption_mem_iff.mp hv), fun heq => heq ▸ rfl⟩
  rw [hcongr, List.filter_beq, List.count_eq_one_of_mem h.nodup hmem, List.replicate_one]

/-- An event that closes nothing leaves the tunnel in the list. -/
theorem listed_after (hgs : gs.Lawful) (h : Ledger l c.globals) (ht : some t ∈ c.globals.tunnels) (ev : Event)
    (hquiet : (ev.after gs c).globals.shared.waitToClose = c.globals.shared.waitToClose) :
    some t ∈ (ev.after gs c).globals.tunnels := by
  have hplaced : some t ∈ (ev.after gs c).globals.tunnels ∨ t ∈ (ev.after gs c).globals.shared.waitToClose := by
    cases ev with
    | request e w r =>
      by_cases he : e = .proxyNew
      · subst he
        exact Or.inl ht
      · exact ((placed_invariant hgs t).server.serve he (Or.inl ht)).now
    | ended tu =>
      unfold Event.after endTunnel
      dsimp only
      split_ifs
      · exact (placed_invariant hgs t).deleted tu.id _ (Or.inl ht)
      · exact Or.inl ht
  rw [hquiet] at hplaced
  exact hplaced.resolve_right fun hclosed => h.closed_ne hclosed ht rfl

/-- **The tunnels given are of the types of the game.** -/
theorem Reporting.turn (hgs : gs.Lawful) {events : List Event} {given : List Tunnel}
    (hrun : Reporting gs t events c given) (h : Ledger l c.globals) (ht : some t ∈ c.globals.tunnels) (i : Nat) :
    ∀ u, given[i]? = some u →
      u.proxyType = (Kind.next (Kind.turn (closings (c.globals.shared.waitToClose ++ [t])) i)).name := by
  induction hrun generalizing l i with
  | nil => simp
  | other hquiet _ ih =>
    rw [← hquiet]
    exact ih (h.after hgs _) (listed_after hgs h ht _ hquiet) i
  | @report t u w r rest c given hreports honly hgiven _ ih =>
    obtain ⟨hconfigs, hglobals⟩ := @serve_report gs c _ _ _ hreports
    obtain rfl := List.singleton_inj.mp (hgiven.symm.trans hconfigs)
    have hclosed : (delProxy t.id c.globals).2.shared.waitToClose = c.globals.shared.waitToClose ++ [t] := by
      rw [waitToClose_delProxy, filter_eq_singleton h ht honly]
    have hkind := newProxyByErrCount_kind (h.deleted t.id) w.toAnswer
    have hmakes := newProxyByErrCount_makes w.toAnswer (delProxy t.id c.globals).2
    rw [hclosed] at hkind
    cases i with
    | zero =>
      intro v hv
      rw [← Option.some.inj hv]
      exact hkind
    | succ i =>
      have hlisted : some (newProxyByErrCount w.toAnswer (delProxy t.id c.globals).2).1 ∈
          ((Event.request .proxyErr w r).after gs c).globals.tunnels := by
        rw [hglobals]
        exact (hmakes.tunnels _).mpr (Or.inr rfl)
      have hnext := ih (h.after hgs _) hlisted i
      have hkeeps : ∀ g, (newProxyByErrCount w.toAnswer g).2.shared.waitToClose = g.shared.waitToClose := by
        intro g
        unfold newProxyByErrCount
        dsimp only
        split_ifs
        all_goals rfl
      rw [hglobals, hkeeps, hclosed, closings_append _ hkind] at hnext
      intro v hv
      rw [Nat.add_comm i 1, Kind.turn_add]
      exact hnext v hv

end Report

/-- **A client that reports each tunnel it is given is given `tls`, `quic` and `kcp` in turn**, once every type has
failed `m` times, where `m` bounds how often one has failed when the client starts. -/
theorem reports_take_turns {gs : ListOps} (hgs : gs.Lawful) (before : List Event) {t : Tunnel}
    (ht : some t ∈ (after gs before {}).globals.tunnels) {events : List Event} {given : List Tunnel}
    (hrun : Reporting gs t events (after gs before {}) given) {m : Nat}
    (hm : ∀ k, closings ((after gs before {}).globals.shared.waitToClose ++ [t]) k ≤ m) (j : Nat) :
    ∀ u, given[3 * m - Kind.total (closings ((after gs before {}).globals.shared.waitToClose ++ [t])) + j]? = some u →
      u.proxyType = (Kind.cycle j).name := by
  intro u hu
  rw [hrun.turn hgs (ledger hgs before) ht _ u hu, Kind.next_turn hm j]

/-- The world in which a client reports a tunnel, and the next one is made. -/
def reportWorld (reported id : String) : World :=
  { quietWorld with
    conf := ⟨str id, 40004⟩
    unmarshal := fun _ => .ok (some [(str "ID", .str (str reported))]) }

/-- A client starts with a `quic` tunnel and reports three times, while another asks for `/proxy-new`. -/
theorem reports_take_turns_three :
    ∃ given, given.length = 3 ∧
      Reporting sampleOps ⟨0, str "c", str "quic", 40003⟩
        [.request .proxyErr (reportWorld "c" "d") ⟨[123], none⟩, .request .proxyNew quietWorld ⟨[], none⟩,
          .request .proxyErr (reportWorld "d" "e") ⟨[123], none⟩,
          .request .proxyErr (reportWorld "e" "f") ⟨[123], none⟩]
        (after sampleOps [.request .proxyGet quietWorld ⟨[], none⟩] {}) given ∧
      ∀ u, given[2]? = some u → u.proxyType = str "tls" := by
  have ht : some ⟨0, str "c", str "quic", 40003⟩ ∈
      (after sampleOps [.request .proxyGet quietWorld ⟨[], none⟩] {}).globals.tunnels := List.mem_singleton_self _
  have honly : ∀ {t v : Tunnel}, some v ∈ [some t] → v.id = t.id → v = t :=
    fun hv _ => Option.some.inj (List.mem_singleton.mp hv)
  have hreports : ∀ reported id : String, Reports (reportWorld reported id) ⟨[123], none⟩ (str reported) :=
    fun _ _ => ⟨_, rfl, rfl, rfl⟩
  have hrun : Reporting sampleOps ⟨0, str "c", str "quic", 40003⟩
      [.request .proxyErr (reportWorld "c" "d") ⟨[123], none⟩, .request .proxyNew quietWorld ⟨[], none⟩,
        .request .proxyErr (reportWorld "d" "e") ⟨[123], none⟩,
        .request .proxyErr (reportWorld "e" "f") ⟨[123], none⟩]
      (after sampleOps [.request .proxyGet quietWorld ⟨[], none⟩] {})
      [⟨1, str "d", str "tls", 40004⟩, ⟨3, str "e", str "kcp", 40004⟩, ⟨4, str "f", str "tls", 40004⟩] :=
    .report (hreports "c" "d") (fun _ => honly) rfl (.other rfl (.report (hreports "d" "e") (fun _ => honly) rfl
      (.report (hreports "e" "f") (fun _ => honly) rfl .nil)))
  exact ⟨_, rfl, hrun, reports_take_turns sampleOps_lawful _ ht hrun (m := 1) (by intro k; cases k <;> decide) 0⟩

end ProxyZ.Server
