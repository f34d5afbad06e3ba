import ProxyZ.Server.Live
import ProxyZ.Server.Typed

/-!
# The ledger of tunnels

Every tunnel that has been made is in one of three places: in the list, among those `DelProxy` has closed, or with
the client of a `/proxy-new`, which neither adds nor starts what it makes. No request, and no tunnel that ends, loses
one or books it twice (`ledger`). So a tunnel that has been closed is never handed out again (`closed_for_good`).

What the handlers do to the server they do by a few steps: an invariant of these is one of all handlers but
`/proxy-new` (`ServerInvariant.handle`).
-/

namespace ProxyZ.Server

open Go Procedure

/-! ### Invariants of the server -/

/-- What the steps keep by which the handlers change the server. -/
structure ServerInvariant (gs : ListOps) (I : Control → Prop) : Prop where
  selected : ∀ w proxyType c t g, I c → getProxy gs w proxyType c.globals = some (t, g) → I { c with globals := g }
  made : ∀ w c, I c → I { c with globals := (newProxyByErrCount w c.globals).2 }
  deleted : ∀ name c, I c → I { c with globals := (delProxy name c.globals).2 }
  started : ∀ tu c, I c → I { c with on := Function.update c.on tu true, started := tu :: c.started }
  ports : ∀ p c, I c → I { c with ports := c.ports ++ [p] }

/-- An invariant of the list of tunnels. -/
structure ListInvariant (gs : ListOps) (I : Globals → Prop) : Prop where
  selected : ∀ w proxyType g t g', I g → getProxy gs w proxyType g = some (t, g') → I g'
  made : ∀ w g, I g → I (newProxyByErrCount w g).2
  deleted : ∀ name g, I g → I (delProxy name g).2

theorem ListInvariant.server {gs : ListOps} {I : Globals → Prop} (h : ListInvariant gs I) :
    ServerInvariant gs fun c => I c.globals where
  selected := fun _ _ _ _ _ hc hget => h.selected _ _ _ _ _ hc hget
  made := fun _ _ hc => h.made _ _ hc
  deleted := fun _ _ hc => h.deleted _ _ hc
  started := fun _ _ hc => hc
  ports := fun _ _ hc => hc

/-- The invariant holds now, and held at each reply. -/
structure Throughout (I : Control → Prop) (x : Exchange) : Prop where
  now : I x.control
  replied : ∀ r ∈ x.replies, I r.control

section Handlers

variable {gs : ListOps} {w : World} {r : Body} {I : Control → Prop}

theorem reply_throughout (msg : Message) (status : Bool) : Keeps (Throughout I) (reply msg status) := by
  apply Keeps.modify
  intro x hx
  refine ⟨hx.now, fun r hr => ?_⟩
  rcases List.mem_append.mp hr with hr | hr
  · exact hx.replied r hr
  · rw [List.mem_singleton.mp hr]
    exact hx.now

theorem reject_throughout (err : Err) : Keeps (Throughout I) (reject err) := by
  have hheader : Keeps (Throughout I) (writeHeader 400) := Keeps.modify fun _ hx => ⟨hx.now, hx.replied⟩
  exact hheader.bind fun _ => reply_throughout _ _

theorem rejectIf_throughout (err : Option Err) : Keeps (Throughout I) (rejectIf err) := by
  cases err with
  | none => exact Keeps.pure _
  | some err => exact reject_throughout err

theorem checkHost_throughout (d : Option Fields) : Keeps (Throughout I) (checkHost w d) := by
  have hreplies : ∀ s, Keeps (Throughout I) (do reply (.text s) false; return true) :=
    fun s => (reply_throughout _ _).bind fun _ => Keeps.pure _
  unfold checkHost
  split
  · apply (Keeps.mapM asString_keeps _).bind
    intro _
    exact Keeps.ite (hreplies _) (Keeps.pure _)
  · exact Keeps.ite (hreplies _) (Keeps.pure _)
  · exact Keeps.pure _

namespace ServerInvariant

theorem setGlobals {P : Exchange → Prop} {g : Globals} (hP : ∀ x, P x → Throughout I x)
    (hg : ∀ x, P x → I { x.control with globals := g }) :
    Contract P (setGlobals g) (fun _ => Throughout I) (Throughout I) :=
  Contract.modify fun x hx => ⟨hg x hx, (hP x hx).replied⟩

theorem start (h : ServerInvariant gs I) (tu : Tunnel) : Keeps (Throughout I) (start tu) :=
  Keeps.modify fun _ hx => ⟨h.started tu _ hx.now, hx.replied⟩

theorem startIfOff (h : ServerInvariant gs I) (tu : Tunnel) : Keeps (Throughout I) (startIfOff tu) := by
  apply Contract.get
  intro x hx
  have hstate : ∀ y, y = x → Throughout I y := fun y hy => hy ▸ hx
  apply Contract.ite
  · exact fun _ => Contract.pure hstate
  · exact fun _ => (h.start tu).conseq hstate fun _ _ h => h

theorem closePortText (h : ServerInvariant gs I) (s : Str) : Keeps (Throughout I) (Server.closePortText s) := by
  unfold Server.closePortText closePortUFW
  apply Keeps.ite
  · apply Keeps.ite (Keeps.pure _)
    exact Keeps.modify fun _ hx => ⟨h.ports _ _ hx.now, hx.replied⟩
  · exact Keeps.pure _

theorem closePorts (h : ServerInvariant gs I) (port : Option Json) : Keeps (Throughout I) (Server.closePorts port) := by
  have hlisted : ∀ t : Str, Keeps (Throughout I) (closeListed t) := by
    intro t
    unfold closeListed
    apply Keeps.ite
    · exact Keeps.forM (fun i => h.closePortText _) _
    · apply Keeps.ite
      · exact Keeps.forM (fun i => h.closePortText _) _
      · exact Keeps.pure _
  unfold Server.closePorts
  split
  · exact (hlisted _).bind fun _ => h.closePortText _
  · exact Keeps.pure _

theorem deleteProxy (h : ServerInvariant gs I) (name : Str) : Keeps (Throughout I) (Server.deleteProxy name) :=
  deleteProxy_keeps fun _ hx => ⟨h.deleted _ _ hx.now, hx.replied⟩

theorem giveProxy (h : ServerInvariant gs I) (proxyType : Option Str) :
    Keeps (Throughout I) (Server.giveProxy gs w proxyType) := by
  have hselect : Keeps (Throughout I) (selectProxy gs w proxyType) := by
    apply Contract.get
    intro x hx
    have hstate : ∀ y, y = x → Throughout I y := fun y hy => hy ▸ hx
    rcases hget : getProxy gs w.toAnswer proxyType x.control.globals with _ | ⟨tu, g⟩
    · exact Contract.panic hstate
    · apply Contract.bind (setGlobals hstate fun y hy => by rw [hy]; exact h.selected _ _ _ _ _ hx.now hget)
      exact fun _ => Keeps.pure _
  apply hselect.bind
  intro tu
  exact (h.startIfOff tu).bind fun _ => reply_throughout _ _

theorem closeAll (h : ServerInvariant gs I) : Keeps (Throughout I) Server.closeAll := by
  apply Contract.get
  intro x hx
  have hstate : ∀ y, y = x → Throughout I y := fun y hy => hy ▸ hx
  apply Contract.ite
  · exact fun _ => Contract.panic hstate
  · intro _
    apply Contract.bind (Q := fun _ => Throughout I)
    · exact (Keeps.forM (fun i => (h.deleteProxy i).discard) _).conseq hstate fun _ _ h => h
    · exact fun _ => reply_throughout _ _

theorem proxyErr (h : ServerInvariant gs I) : Keeps (Throughout I) (Server.proxyErr w r) := by
  have hmake : Keeps (Throughout I) (makeTunnel (newProxyByErrCount w.toAnswer)) := by
    apply Contract.get
    intro x hx
    have hstate : ∀ y, y = x → Throughout I y := fun y hy => hy ▸ hx
    apply Contract.bind (setGlobals hstate fun y hy => by rw [hy]; exact h.made _ _ hx.now)
    exact fun _ => Keeps.pure _
  apply (rejectIf_throughout _).bind
  intro _
  apply (checkHost_throughout _).bind
  intro _
  apply Keeps.ite (Keeps.pure _)
  apply (deleteByID_keeps _ fun name x hx => ⟨h.deleted _ _ hx.now, hx.replied⟩).bind
  intro _
  apply hmake.bind
  intro tu
  exact (h.start tu).bind fun _ => reply_throughout _ _

/-- **An invariant of the steps is one of every handler but `/proxy-new`.** -/
theorem handle (h : ServerInvariant gs I) {e : Endpoint} (he : e ≠ .proxyNew) :
    Keeps (Throughout I) (handle gs w r e) := by
  cases e with
  | zInfo => exact (rejectIf_throughout _).bind fun _ => Keeps.ite (reply_throughout _ _) (Keeps.pure _)
  | zSet =>
    unfold Server.handle zSet
    dsimp only
    split
    · exact reject_throughout _
    · exact reply_throughout _ _
    · split
      · apply (asString_keeps _).bind
        intro _
        exact (asString_keeps _).bind fun _ => reply_throughout _ _
      · exact Keeps.pure _
  | zDns =>
    unfold Server.handle zDns
    dsimp only
    split
    · exact reply_throughout _ _
    · split
      · exact (asString_keeps _).bind fun _ => reply_throughout _ _
      · exact reply_throughout _ _
  | zUfw =>
    unfold Server.handle zUfw
    dsimp only
    split
    · exact reply_throughout _ _
    · exact reply_throughout _ _
    · exact (h.closePorts _).bind fun _ => reply_throughout _ _
  | proxyGet =>
    unfold Server.handle proxyGet
    dsimp only
    split
    · exact reply_throughout _ _
    · exact h.giveProxy none
    · split
      · exact h.giveProxy _
      · exact h.giveProxy none
  | closeAll => exact h.closeAll
  | proxyErr => exact h.proxyErr
  | proxyNew => exact absurd rfl he
  | proxyDel =>
    apply (rejectIf_throughout _).bind
    intro _
    apply (asString_keeps _).bind
    intro _
    exact (h.deleteProxy _).bind fun _ => reply_throughout _ _

theorem serve (h : ServerInvariant gs I) {e : Endpoint} (he : e ≠ .proxyNew) {c : Control} (hc : I c) :
    Throughout I (serve gs w r e c).2 := by
  have hkeeps := h.handle (w := w) (r := r) he { control := c } ⟨hc, nofun⟩
  unfold Server.serve
  rcases hcall : exec (Server.handle gs w r e) { control := c } with ⟨_ | _, x⟩
  all_goals
    rw [hcall] at hkeeps
    exact hkeeps

end ServerInvariant

end Handlers

/-! ### What is booked -/

/-- What the server has booked of the tunnels it has closed: how many of each type, and their ports. -/
structure Booked (s : Shared) : Prop where
  counts : ∀ tp, Known tp → s.errTypeCount.lookup tp = some (s.waitToClose.countP fun t => t.proxyType = tp : Nat)
  known : ∀ t ∈ s.waitToClose, Known t.proxyType
  ports : s.closedPorts = s.waitToClose.map Tunnel.serverPort

/-- Every tunnel made is in the list, closed, or one of `loose`, and in one place only. -/
structure Ledger (loose : List Tunnel) (g : Globals) : Prop where
  nonnil : none ∉ g.tunnels
  known : ∀ t, some t ∈ g.tunnels → Known t.proxyType
  booked : Booked g.shared
  places : ((g.tunnels.reduceOption ++ g.shared.waitToClose ++ loose).map Tunnel.ref).Perm (List.range g.made)

theorem known_newProxy (tp : Str) (conf : Conf) (g : Globals) : Known (newProxy tp conf g).1.proxyType := by
  unfold newProxy
  dsimp only
  split_ifs <;> decide

theorem Booked.closeTunnel {s : Shared} (h : Booked s) {tun : Tunnel} (htun : Known tun.proxyType) :
    Booked (closeTunnel tun s) where
  counts := by
    intro tp htp
    have hhas : s.errTypeCount.has tun.proxyType = true := by
      rw [Dict.has, h.counts _ htun]
      rfl
    simp only [Server.closeTunnel]
    rw [if_pos hhas, List.countP_append, List.countP_singleton]
    by_cases heq : tp = tun.proxyType
    · subst heq
      rw [AList.lookup_insert, Dict.get, h.counts _ htp, if_pos (by simp)]
      simp
    · rw [AList.lookup_insert_ne heq, h.counts _ htp, if_neg (by simpa using Ne.symm heq), Nat.add_zero]
  known := by
    intro t ht
    rcases List.mem_append.mp ht with ht | ht
    · exact h.known t ht
    · rw [List.mem_singleton.mp ht]
      exact htun
  ports := by
    simp only [Server.closeTunnel]
    rw [h.ports, List.map_append, List.map_singleton]

/-- `DelProxy` closes the tunnels with the ID one after the other. -/
theorem shared_filterTunnels (name : Str) (l : List (Option Tunnel)) (s : Shared) :
    (filterTunnels name l s).2.2 =
      (l.reduceOption.filter fun t => t.id = name).foldl (fun s tun => closeTunnel tun s) s := by
  induction l generalizing s with
  | nil => rfl
  | cons c rest ih =>
    cases c with
    | none =>
      rw [List.reduceOption_cons_of_none]
      exact ih s
    | some tun =>
      unfold filterTunnels
      split_ifs with hname
      · rw [List.reduceOption_cons_of_some, List.filter_cons_of_pos (by simpa using hname), List.foldl_cons]
        exact ih _
      · rw [List.reduceOption_cons_of_some, List.filter_cons_of_neg (by simpa using hname)]
        exact ih s

theorem Booked.foldl {s : Shared} (h : Booked s) {l : List Tunnel} (hl : ∀ t ∈ l, Known t.proxyType) :
    Booked (l.foldl (fun s tun => Server.closeTunnel tun s) s) := by
  induction l generalizing s with
  | nil => exact h
  | cons t l ih => exact ih (h.closeTunnel (hl t List.mem_cons_self)) fun u hu => hl u (List.mem_cons_of_mem _ hu)

theorem waitToClose_delProxy (name : Str) (g : Globals) :
    (delProxy name g).2.shared.waitToClose =
      g.shared.waitToClose ++ g.tunnels.reduceOption.filter fun t => t.id = name := by
  have hfold : ∀ (l : List Tunnel) (s : Shared),
      (l.foldl (fun s tun => closeTunnel tun s) s).waitToClose = s.waitToClose ++ l := by
    intro l s
    induction l generalizing s with
    | nil => simp
    | cons t l ih =>
      rw [List.foldl_cons, ih]
      exact List.append_assoc _ _ _
  show (filterTunnels name g.tunnels g.shared).2.2.waitToClose = _
  rw [shared_filterTunnels, hfold]

section Keeps

variable {gs : ListOps} {loose : List Tunnel} {g : Globals}

theorem Ledger.deleted (h : Ledger loose g) (name : Str) :
    Ledger loose (delProxy name g).2 := by
  have hlisted : ∀ t ∈ g.tunnels.reduceOption.filter (fun t => t.id = name), Known t.proxyType := fun t ht =>
    h.known t (List.reduceOption_mem_iff.mp (List.mem_of_mem_filter ht))
  have hbooked := h.booked.foldl hlisted
  rw [← shared_filterTunnels] at hbooked
  have hsplit : (g.tunnels.reduceOption.filter (fun t => t.id = name) ++
      g.tunnels.reduceOption.filter (fun t => t.id ≠ name)).Perm g.tunnels.reduceOption := by
    simpa using List.filter_append_perm (fun t : Tunnel => decide (t.id = name)) g.tunnels.reduceOption
  refine ⟨none_notMem_filterTunnels name _ _, fun t ht => h.known t (mem_delProxy.mp ht).1, ?_, ?_⟩
  · exact ⟨hbooked.counts, hbooked.known, hbooked.ports⟩
  · refine List.Perm.trans ?_ h.places
    apply List.Perm.map
    apply List.Perm.append_right
    rw [waitToClose_delProxy]
    show ((filterTunnels name g.tunnels g.shared).1.reduceOption ++ _).Perm _
    rw [reduceOption_filterTunnels]
    apply List.perm_append_comm.trans
    rw [List.append_assoc]
    exact (hsplit.append_left _).trans List.perm_append_comm

theorem Ledger.sorted (h : Ledger loose g) {tunnels : List (Option Tunnel)} (hperm : tunnels.Perm g.tunnels)
    (lastUse : Nat) : Ledger loose { g with shared := { g.shared with tunnels }, lastUse } where
  nonnil := fun hmem => h.nonnil (hperm.mem_iff.mp hmem)
  known := fun t ht => h.known t (hperm.mem_iff.mp ht)
  booked := ⟨h.booked.counts, h.booked.known, h.booked.ports⟩
  places := by
    refine List.Perm.trans ?_ h.places
    apply List.Perm.map
    apply List.Perm.append_right
    apply List.Perm.append_right
    exact hperm.filterMap _

theorem Ledger.makeProxy (h : Ledger loose g) (tp : Str) (conf : Conf) : Ledger loose (makeProxy tp conf g).2 where
  nonnil := fun hmem => (List.mem_append.mp hmem).elim h.nonnil (by simp)
  known := by
    intro t ht
    rcases List.mem_append.mp ht with ht | ht
    · exact h.known t ht
    · rw [Option.some.inj (List.mem_singleton.mp ht)]
      exact known_newProxy tp conf g
  booked := ⟨h.booked.counts, h.booked.known, h.booked.ports⟩
  places := by
    show (((g.tunnels ++ [some (newProxy tp conf g).1]).reduceOption ++ g.shared.waitToClose ++ loose).map
      Tunnel.ref).Perm (List.range (g.made + 1))
    rw [List.reduceOption_append, List.range_succ]
    refine List.Perm.trans ?_ (h.places.append_right _)
    rw [show [g.made] = [(newProxy tp conf g).1].map Tunnel.ref from rfl, ← List.map_append]
    apply List.Perm.map
    simp only [List.append_assoc]
    exact (List.perm_append_comm.trans (by simp)).append_left _

theorem getProxy_cases (hgs : gs.Lawful) {w : Answer} {proxyType : Option Str} {t : Tunnel} {g' : Globals}
    (h : getProxy gs w proxyType g = some (t, g')) : ∃ tunnels lastUse, tunnels.Perm g.tunnels ∧
      (g' = { g with shared := { g.shared with tunnels }, lastUse } ∨
        ∃ tp, g' = (Server.makeProxy tp w.conf { g with shared := { g.shared with tunnels }, lastUse }).2) := by
  unfold getProxy at h
  cases proxyType with
  | none =>
    dsimp only at h
    split_ifs at h with hn
    · refine ⟨g.tunnels, g.lastUse, List.Perm.refl _, Or.inr ⟨str "quic", ?_⟩⟩
      exact (congrArg Prod.snd (Option.some.inj h)).symm
    · obtain ⟨lastUse, -, h⟩ := Option.bind_eq_some_iff.mp h
      obtain ⟨⟨tunnel, lastUse'⟩, -, h⟩ := Option.bind_eq_some_iff.mp h
      refine ⟨g.tunnels, lastUse', List.Perm.refl _, Or.inl ?_⟩
      exact (congrArg Prod.snd (Option.some.inj h)).symm
  | some tp =>
    have hleft := (hgs.sort (fun l r => w.clientNum l < w.clientNum r) g.tunnels).2
    dsimp only at h
    split_ifs at h
    refine ⟨_, g.lastUse, hleft, ?_⟩
    split at h
    · exact Or.inr ⟨tp, (congrArg Prod.snd (Option.some.inj h)).symm⟩
    · exact Or.inl (congrArg Prod.snd (Option.some.inj h)).symm

/-- **The ledger is an invariant of the list.** -/
theorem ledger_invariant (hgs : gs.Lawful) (loose : List Tunnel) : ListInvariant gs (Ledger loose) where
  selected := by
    intro w proxyType g t g' h hget
    obtain ⟨tunnels, lastUse, hperm, rfl | ⟨tp, rfl⟩⟩ := getProxy_cases hgs hget
    · exact h.sorted hperm lastUse
    · exact (h.sorted hperm lastUse).makeProxy tp w.conf
  made := by
    intro w g h
    unfold newProxyByErrCount
    dsimp only
    split_ifs
    all_goals exact h.makeProxy _ _
  deleted := fun name g h => h.deleted name

/-- `/proxy-new` hands out a tunnel that is in no other place. -/
theorem Ledger.newProxy (h : Ledger loose g) (tp : Str) (conf : Conf) :
    Ledger (loose ++ [(newProxy tp conf g).1]) (newProxy tp conf g).2 where
  nonnil := h.nonnil
  known := h.known
  booked := h.booked
  places := by
    show ((g.tunnels.reduceOption ++ g.shared.waitToClose ++ (loose ++ [_])).map Tunnel.ref).Perm
      (List.range (g.made + 1))
    rw [← List.append_assoc, List.map_append, List.range_succ]
    exact h.places.append_right _

theorem Ledger.nodup {l : List Tunnel} {g : Globals} (h : Ledger l g) : g.tunnels.reduceOption.Nodup := by
  have hrefs := h.places.nodup_iff.mpr List.nodup_range
  rw [List.append_assoc, List.map_append, List.nodup_append] at hrefs
  exact List.Nodup.of_map _ hrefs.1

theorem Ledger.tunnels_eq {l : List Tunnel} {g : Globals} (h : Ledger l g) :
    g.tunnels = g.tunnels.reduceOption.map some := by
  have hnil := h.nonnil
  generalize g.tunnels = tunnels at hnil
  induction tunnels with
  | nil => rfl
  | cons c rest ih =>
    rw [List.mem_cons, not_or] at hnil
    obtain ⟨t, rfl⟩ := Option.ne_none_iff_exists'.mp (Ne.symm hnil.1)
    rw [List.reduceOption_cons_of_some, List.map_cons, ← ih hnil.2]

theorem ledger_empty : Ledger [] {} where
  nonnil := List.not_mem_nil
  known := by simp [Globals.tunnels]
  booked := by
    refine ⟨?_, by simp, rfl⟩
    intro tp htp
    simp only [Known, List.mem_cons, List.not_mem_nil, or_false] at htp
    rcases htp with rfl | rfl | rfl
    all_goals decide
  places := by simp [Globals.tunnels]

/-- No two places hold tunnels of one number. -/
theorem Ledger.closed_ne (h : Ledger loose g) {t u : Tunnel} (ht : t ∈ g.shared.waitToClose)
    (hu : some u ∈ g.tunnels) : u.ref ≠ t.ref := by
  have hnodup := h.places.nodup_iff.mpr List.nodup_range
  rw [List.append_assoc, List.map_append, List.nodup_append] at hnodup
  apply hnodup.2.2
  · exact List.mem_map_of_mem (List.reduceOption_mem_iff.mpr hu)
  · exact List.mem_map_of_mem (List.mem_append_left _ ht)

theorem Ledger.closed_lt (h : Ledger loose g) {t : Tunnel} (ht : t ∈ g.shared.waitToClose) : t.ref < g.made := by
  rw [← List.mem_range, ← h.places.mem_iff]
  apply List.mem_map_of_mem
  exact List.mem_append_left _ (List.mem_append_right _ ht)

end Keeps

/-! ### Runs -/

instance : DecidablePred Event.IsProxyNew
  | .request e _ _ => inferInstanceAs (Decidable (e = .proxyNew))
  | .ended _ => inferInstanceAs (Decidable False)

/-- The tunnels whose configurations are replied. -/
def configs (rs : List Reply) : List Tunnel :=
  rs.filterMap fun r => match r.msg with
    | .config tu => some tu
    | _ => none

/-- The server behind a run. -/
def after (gs : ListOps) (events : List Event) (c : Control) : Control := events.foldl (fun c ev => ev.after gs c) c

/-- The tunnels that the requests for `/proxy-new` hand out in a run. -/
def loose (gs : ListOps) : List Event → Control → List Tunnel
  | [], _ => []
  | ev :: rest, c => (if ev.IsProxyNew then configs (ev.replies gs c) else []) ++ loose gs rest (ev.after gs c)

section Run

variable {gs : ListOps} {c : Control} {l : List Tunnel}

theorem Ledger.endTunnel (h : Ledger l c.globals) (tu : Tunnel) : Ledger l (endTunnel tu c).globals := by
  unfold Server.endTunnel
  split_ifs
  · exact h.deleted tu.id
  · exact h

theorem Ledger.after (hgs : gs.Lawful) (h : Ledger l c.globals) (ev : Event) :
    Ledger (l ++ if ev.IsProxyNew then configs (ev.replies gs c) else []) (ev.after gs c).globals := by
  cases ev with
  | request e w r =>
    by_cases he : e = .proxyNew
    · subst he
      exact h.newProxy (str "tls") w.conf
    · rw [if_neg (show ¬(Event.request e w r).IsProxyNew from he), List.append_nil]
      exact ((ledger_invariant hgs l).server.serve he h).now
  | ended tu =>
    rw [if_neg (by exact id), List.append_nil]
    exact h.endTunnel tu

theorem Ledger.run (hgs : gs.Lawful) (h : Ledger l c.globals) (events : List Event) :
    Ledger (l ++ loose gs events c) (Server.after gs events c).globals := by
  induction events generalizing c l with
  | nil =>
    rw [loose, List.append_nil]
    exact h
  | cons ev rest ih =>
    rw [loose, ← List.append_assoc]
    exact ih (h.after hgs ev)

/-- What has been closed stays so. -/
theorem closed_invariant (hgs : gs.Lawful) (t : Tunnel) : ListInvariant gs fun g => t ∈ g.shared.waitToClose where
  selected := by
    intro w proxyType g t g' h hget
    obtain ⟨tunnels, lastUse, -, rfl | ⟨tp, rfl⟩⟩ := getProxy_cases hgs hget
    · exact h
    · exact h
  made := by
    intro w g h
    unfold newProxyByErrCount
    dsimp only
    split_ifs
    all_goals exact h
  deleted := by
    intro name g h
    rw [waitToClose_delProxy]
    exact List.mem_append_left _ h

/-- A tunnel stays in the list until it is closed. -/
theorem placed_invariant (hgs : gs.Lawful) (t : Tunnel) :
    ListInvariant gs fun g => some t ∈ g.tunnels ∨ t ∈ g.shared.waitToClose where
  selected := by
    intro w proxyType g t' g' h hget
    obtain ⟨tunnels, lastUse, hperm, rfl | ⟨tp, rfl⟩⟩ := getProxy_cases hgs hget
    · exact h.imp_left hperm.mem_iff.mpr
    · exact h.imp_left fun ht => List.mem_append_left _ (hperm.mem_iff.mpr ht)
  made := by
    intro w g h
    unfold newProxyByErrCount
    dsimp only
    split_ifs
    all_goals exact h.imp_left (List.mem_append_left _)
  deleted := by
    intro name g h
    rw [waitToClose_delProxy, mem_delProxy]
    rcases h with ht | ht
    · by_cases hname : t.id = name
      · right
        apply List.mem_append_right
        exact List.mem_filter.mpr ⟨List.reduceOption_mem_iff.mpr ht, by simpa using hname⟩
      · exact Or.inl ⟨ht, hname⟩
    · exact Or.inr (List.mem_append_left _ ht)

/-- The server keeps its books, and has closed the tunnel. -/
structure Closed (l : List Tunnel) (t : Tunnel) (c : Control) : Prop where
  good : Good c
  ledger : Ledger l c.globals
  closed : t ∈ c.globals.shared.waitToClose

theorem Closed.after (hgs : gs.Lawful) {t : Tunnel} (h : Closed l t c) (ev : Event) :
    Closed (l ++ if ev.IsProxyNew then configs (ev.replies gs c) else []) t (ev.after gs c) where
  good := h.good.after hgs ev
  ledger := h.ledger.after hgs ev
  closed := by
    cases ev with
    | request e w r =>
      by_cases he : e = .proxyNew
      · subst he
        exact h.closed
      · exact ((closed_invariant hgs t).server.serve he h.closed).now
    | ended tu =>
      show t ∈ (Server.endTunnel tu c).globals.shared.waitToClose
      unfold Server.endTunnel
      split_ifs
      · exact (closed_invariant hgs t).deleted tu.id _ h.closed
      · exact h.closed

theorem Closed.replies (hgs : gs.Lawful) {t : Tunnel} (h : Closed l t c) (ev : Event) :
    ∀ r ∈ ev.replies gs c, ∀ u, r.msg = .config u → r.status = true → u.ref ≠ t.ref := by
  intro r hr u hu hok
  cases ev with
  | request e w b =>
    by_cases he : e = .proxyNew
    · -- `/proxy-new` hands out a tunnel of a new number
      subst he
      rw [List.mem_singleton.mp hr] at hu
      cases hu
      exact (h.ledger.closed_lt h.closed).ne'
    · have hlive := (serve_live hgs he w b h.good).live r hr u hu hok
      have hledger := ((ledger_invariant hgs l).server.serve he h.ledger).replied r hr
      have hclosed := ((closed_invariant hgs t).server.serve he h.closed).replied r hr
      exact hledger.closed_ne hclosed hlive.1
  | ended tu => exact absurd hr List.not_mem_nil

end Run

/-- **In every run each tunnel made is in the list, closed, or handed out by `/proxy-new`, and in one place only; and
the closed tunnels are booked under their types.** -/
theorem ledger {gs : ListOps} (hgs : gs.Lawful) (events : List Event) :
    Ledger (loose gs events {}) (after gs events {}).globals := by
  rw [← List.nil_append (loose gs events {})]
  exact ledger_empty.run hgs events

theorem ledger_two : Ledger
    (loose sampleOps [.request .proxyGet quietWorld ⟨[], none⟩, .request .proxyNew quietWorld ⟨[], none⟩] {})
    (after sampleOps [.request .proxyGet quietWorld ⟨[], none⟩, .request .proxyNew quietWorld ⟨[], none⟩] {}).globals :=
  ledger sampleOps_lawful _

/-- **A tunnel that has been closed is not handed out again in any run.** -/
theorem closed_for_good {gs : ListOps} (hgs : gs.Lawful) (before later : List Event) {t : Tunnel}
    (ht : t ∈ (after gs before {}).globals.shared.waitToClose) :
    ∀ r ∈ replies gs later (after gs before {}), ∀ u, r.msg = .config u → r.status = true → u.ref ≠ t.ref := by
  have hgood : ∀ (events : List Event) (c : Control), Good c → Good (after gs events c) := by
    intro events
    induction events with
    | nil => exact fun _ h => h
    | cons ev rest ih => exact fun c h => ih _ (h.after hgs ev)
  have hclosed : Closed _ t (after gs before {}) := ⟨hgood before {} good_empty, ledger hgs before, ht⟩
  generalize after gs before {} = c at hclosed
  generalize loose gs before {} = l at hclosed
  induction later generalizing c l with
  | nil => simp [replies]
  | cons ev rest ih =>
    intro r hr
    rcases List.mem_append.mp hr with hr | hr
    · exact hclosed.replies hgs ev r hr
    · exact ih _ _ (hclosed.after hgs ev) r hr

theorem closed_for_good_one :
    (replies sampleOps [.request .proxyGet quietWorld ⟨[], none⟩] (after sampleOps
      [.request .proxyGet quietWorld ⟨[], none⟩, .request .closeAll quietWorld ⟨[], none⟩] {})).length = 1 ∧
    ∀ r ∈ replies sampleOps [.request .proxyGet quietWorld ⟨[], none⟩] (after sampleOps
      [.request .proxyGet quietWorld ⟨[], none⟩, .request .closeAll quietWorld ⟨[], none⟩] {}),
        ∀ u, r.msg = .config u → r.status = true → u.ref ≠ 0 := by
  refine ⟨rfl, ?_⟩
  exact closed_for_good (t := ⟨0, str "c", str "quic", 40003⟩) sampleOps_lawful
    [.request .proxyGet quietWorld ⟨[], none⟩, .request .closeAll quietWorld ⟨[], none⟩] _ (List.mem_singleton_self _)

end ProxyZ.Server
