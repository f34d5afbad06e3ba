import Mathlib.Data.List.Nodup
import Mathlib.Logic.Function.Basic
import ProxyZ.Go.Threads
import ProxyZ.Server.Proxies

/-!
# The ports of the tunnels

`GiveAPort` draws a port until one can be bound on TCP, opens it in the firewall, and gives the listener it has
tried it with back. The tunnel binds the port later, when it is started, and a KCP or QUIC tunnel binds it on UDP.
So the port of a tunnel can be drawn again, unless this is a TLS tunnel that is listening.

In a run of creations, starts, connections and deletions the ports stay separate exactly if no creation draws the
port of a tunnel that is not listening on TCP, and no `Server` ends behind the removal of its tunnel while its port
is that of another one (`separate_iff`).
-/

namespace ProxyZ.Server

open Go

/-- The ports the firewall allows. -/
abbrev Firewall := List Nat

/-- A server on Linux: which `Server` runs, with a mark once it has bound its port; the tunnels whose port is bound;
and the ports the firewall allows. `added` holds the tunnels that have been created and may be started. -/
structure Host where
  globals : Globals := {}
  added : List Tunnel := []
  serving : List (Tunnel × Bool) := []
  sockets : List Tunnel := []
  allowed : Firewall := []
  alive : Tunnel → Int := fun _ => 0

def Host.tunnels (s : Host) : List Tunnel := s.globals.tunnels.reduceOption

def Firewall.openPortUFW (allowed : Firewall) (port : Nat) : Firewall :=
  if port ∈ allowed then allowed else allowed ++ [port]

def Firewall.closePortUFW (allowed : Firewall) (port : Nat) : Firewall :=
  if port ∈ [22, 55443, 60053, 60001] then allowed else allowed.filter fun p => p ≠ port

/-- Whether a tunnel listens on TCP. -/
def ListensTcp (s : Host) (t : Tunnel) : Prop := t ∈ s.sockets ∧ t.proxyType = str "tls"

/-- Whether the port is bound on TCP, by a tunnel or by another program. -/
def tcpBusy (s : Host) (others : List Nat) (port : Nat) : Bool :=
  others.contains port || s.sockets.any fun t => t.proxyType = str "tls" && t.serverPort = port

/-- `GiveAPort`, for the numbers `rand.Int` returns; `none` while it is still drawing. -/
def giveAPort (busy : Nat → Bool) : List Nat → Option Nat
  | [] => none
  | r :: rest => if busy (40000 + r % 10000) then giveAPort busy rest else some (40000 + r % 10000)

/-- A tunnel is created, with `AddProxy` or without as for `/proxy-new`; it is started; its `Server` binds the port;
a connection comes or goes; the tunnel is deleted; or its `Server` ends, `bound` where it had bound the port. -/
inductive HostOp
  | create (tp id : Str) (draws others : List Nat)
  | proxyNew (id : Str) (draws others : List Nat)
  | start (tu : Tunnel)
  | listen (tu : Tunnel)
  | connect (tu : Tunnel)
  | disconnect (tu : Tunnel)
  | delProxy (name : Str)
  | endServer (tu : Tunnel) (bound : Bool)

/-- `DelProxy`, and the ports it closes. -/
def Host.delProxy (name : Str) (s : Host) : Host :=
  let globals := (Server.delProxy name s.globals).2
  let closed := globals.shared.closedPorts.drop s.globals.shared.closedPorts.length
  { s with globals, allowed := closed.foldl Firewall.closePortUFW s.allowed }

/-- The tunnels use one transport. -/
def sameTransport (t u : Tunnel) : Bool := (t.proxyType = str "tls") = (u.proxyType = str "tls")

def hostStep? (s : Host) : HostOp → Option Host
  | .create tp id draws others =>
      match giveAPort (tcpBusy s others) draws with
      | none => none
      | some port =>
          let (tunnel, globals) := makeProxy tp ⟨id, port⟩ s.globals
          some { s with globals, added := s.added ++ [tunnel], allowed := s.allowed.openPortUFW port }
  | .proxyNew id draws others =>
      match giveAPort (tcpBusy s others) draws with
      | none => none
      | some port =>
          let (_, globals) := newProxy (str "tls") ⟨id, port⟩ s.globals
          some { s with globals, allowed := s.allowed.openPortUFW port }
  | .start tu => if tu ∈ s.added then some { s with serving := s.serving ++ [(tu, false)] } else none
  | .listen tu =>
      if (tu, false) ∈ s.serving ∧ ∀ t ∈ s.sockets, sameTransport t tu → t.serverPort ≠ tu.serverPort then
        some { s with serving := s.serving.erase (tu, false) ++ [(tu, true)], sockets := s.sockets ++ [tu] }
      else none
  | .connect tu =>
      if (tu, true) ∈ s.serving then some { s with alive := Function.update s.alive tu (s.alive tu + 1) } else none
  | .disconnect tu =>
      if 0 < s.alive tu then some { s with alive := Function.update s.alive tu (s.alive tu - 1) } else none
  | .delProxy name => some (s.delProxy name)
  | .endServer tu bound =>
      if (tu, bound) ∈ s.serving then
        -- the QUIC server returns without closing its listener
        let sockets := if bound ∧ tu.proxyType ≠ str "quic" then s.sockets.erase tu else s.sockets
        -- `after` deletes the tunnel by its ID
        some ({ s with
          serving := s.serving.erase (tu, bound)
          sockets
          allowed := s.allowed.closePortUFW tu.serverPort }.delProxy tu.id)
      else none

/-- **No two tunnels share a port**, and each of them has its port open in the firewall. -/
structure Separate (s : Host) : Prop where
  distinct : (s.tunnels.map Tunnel.serverPort).Nodup
  open_ : ∀ u ∈ s.tunnels, u.serverPort ∈ s.allowed

/-- A creation draws no port of a tunnel that is not listening on TCP, and a `Server` whose tunnel has been removed
ends only where no other tunnel has its port. -/
def Avoids (s : Host) : HostOp → Prop
  | .create _ _ draws others =>
      ∀ port, giveAPort (tcpBusy s others) draws = some port →
        ∀ u ∈ s.tunnels, ¬ListensTcp s u → u.serverPort ≠ port
  | .endServer tu _ => tu ∉ s.tunnels → ∀ u ∈ s.tunnels, u.id ≠ tu.id → u.serverPort ≠ tu.serverPort
  | _ => True

/-! ### The firewall -/

theorem Firewall.mem_openPortUFW {port p : Nat} {allowed : Firewall} :
    p ∈ allowed.openPortUFW port ↔ p = port ∨ p ∈ allowed := by
  unfold Firewall.openPortUFW
  split_ifs with hport
  · constructor
    · exact Or.inr
    · rintro (rfl | hp)
      · exact hport
      · exact hp
  · rw [List.mem_append, List.mem_singleton, or_comm]

theorem Firewall.mem_closePortUFW_of_ne {port p : Nat} {allowed : Firewall} (hp : p ∈ allowed) (hne : p ≠ port) :
    p ∈ allowed.closePortUFW port := by
  unfold Firewall.closePortUFW
  split_ifs
  · exact hp
  · exact List.mem_filter.mpr ⟨hp, decide_eq_true hne⟩

theorem Firewall.closePortUFW_subset (port : Nat) (allowed : Firewall) : allowed.closePortUFW port ⊆ allowed := by
  unfold Firewall.closePortUFW
  split_ifs
  · exact List.Subset.refl _
  · exact fun _ hp => List.mem_of_mem_filter hp

/-- The ports that `GiveAPort` draws can be closed. -/
def Drawable (port : Nat) : Prop := 40000 ≤ port ∧ port < 50000

theorem Firewall.notMem_closePortUFW {port : Nat} (h : Drawable port) (allowed : Firewall) :
    port ∉ allowed.closePortUFW port := by
  have hkept : port ∉ [22, 55443, 60053, 60001] := by
    obtain ⟨hlow, hhigh⟩ := h
    simp only [List.mem_cons, List.not_mem_nil, or_false]
    omega
  unfold Firewall.closePortUFW
  rw [if_neg hkept, List.mem_filter]
  exact fun hp => of_decide_eq_true hp.2 rfl

theorem Firewall.mem_foldl_closePortUFW {ports : List Nat} {p : Nat} {allowed : Firewall} (hp : p ∈ allowed)
    (hports : p ∉ ports) : p ∈ ports.foldl Firewall.closePortUFW allowed := by
  induction ports generalizing allowed with
  | nil => exact hp
  | cons port rest ih =>
    obtain ⟨hne, hrest⟩ := not_or.mp (mt List.mem_cons.mpr hports)
    exact ih (Firewall.mem_closePortUFW_of_ne hp hne) hrest

theorem Firewall.foldl_closePortUFW_subset (ports : List Nat) (allowed : Firewall) :
    ports.foldl Firewall.closePortUFW allowed ⊆ allowed := by
  induction ports generalizing allowed with
  | nil => exact List.Subset.refl _
  | cons port rest ih => exact List.Subset.trans (ih _) (Firewall.closePortUFW_subset port allowed)

/-- **What `GiveAPort` draws** is a port of its range that is free on TCP. -/
theorem giveAPort_spec {busy : Nat → Bool} {draws : List Nat} {port : Nat} (h : giveAPort busy draws = some port) :
    Drawable port ∧ busy port = false := by
  induction draws with
  | nil => cases h
  | cons r rest ih =>
    unfold giveAPort at h
    split_ifs at h with hbusy
    · exact ih h
    · cases h
      exact ⟨⟨by omega, by omega⟩, Bool.eq_false_iff.mpr hbusy⟩

/-- So it is not the port of a tunnel that listens on TCP. -/
theorem serverPort_ne_of_listensTcp {s : Host} {others : List Nat} {port : Nat} {t : Tunnel}
    (h : tcpBusy s others port = false) (ht : ListensTcp s t) : t.serverPort ≠ port := by
  rintro rfl
  obtain ⟨hmem, htype⟩ := ht
  have hbusy : (s.sockets.any fun u => u.proxyType = str "tls" && u.serverPort = t.serverPort) = true :=
    List.any_eq_true.mpr ⟨t, hmem, by simp [htype]⟩
  rw [tcpBusy, hbusy, Bool.or_true] at h
  cases h

/-! ### A deletion -/

section Delete

variable {s : Host} {name : Str}

theorem tunnels_delProxy : (s.delProxy name).tunnels = s.tunnels.filter fun t => t.id ≠ name :=
  reduceOption_filterTunnels name s.globals.tunnels s.globals.shared

theorem allowed_delProxy :
    (s.delProxy name).allowed =
      ((s.tunnels.filter fun t => t.id = name).map Tunnel.serverPort).foldl Firewall.closePortUFW s.allowed := by
  show ((filterTunnels name s.globals.tunnels s.globals.shared).2.2.closedPorts.drop
    s.globals.shared.closedPorts.length).foldl Firewall.closePortUFW s.allowed = _
  rw [closedPorts_filterTunnels, List.drop_left]
  rfl

/-- **A deletion** closes no port of a tunnel that stays. -/
theorem separate_delProxy (hdistinct : (s.tunnels.map Tunnel.serverPort).Nodup)
    (hopen : ∀ u ∈ s.tunnels, u.id ≠ name → u.serverPort ∈ s.allowed) : Separate (s.delProxy name) where
  distinct := by
    rw [tunnels_delProxy]
    exact hdistinct.sublist (List.filter_sublist.map _)
  open_ := by
    intro u hu
    rw [tunnels_delProxy, List.mem_filter, decide_eq_true_eq] at hu
    obtain ⟨hmem, hname⟩ := hu
    rw [allowed_delProxy]
    refine Firewall.mem_foldl_closePortUFW (hopen u hmem hname) ?_
    rintro hclosed
    obtain ⟨t, ht, hport⟩ := List.mem_map.mp hclosed
    obtain ⟨htunnel, hid⟩ := List.mem_filter.mp ht
    obtain rfl : t = u := List.inj_on_of_nodup_map hdistinct htunnel hmem hport
    exact hname (of_decide_eq_true hid)

end Delete

/-! ### Runs -/

/-- The ports of the tunnels that have been created are drawn ones. -/
structure Drawn (s : Host) : Prop where
  added : ∀ t ∈ s.added, Drawable t.serverPort
  serving : ∀ e ∈ s.serving, Drawable e.1.serverPort

section Step

variable {s s' : Host} {a : HostOp}

/-- A step that adds and removes no tunnel, and closes no port. -/
structure Quiet (s s' : Host) : Prop where
  tunnels : s'.tunnels = s.tunnels
  added : s'.added = s.added
  serving : ∀ e ∈ s'.serving, e.1 ∈ s.added ∨ ∃ bound, (e.1, bound) ∈ s.serving
  allowed : s.allowed ⊆ s'.allowed

/-- The operations that only make, start or use tunnels. -/
def HostOp.quiet : HostOp → Bool
  | .create .. => false
  | .delProxy _ => false
  | .endServer .. => false
  | _ => true

theorem quiet_of_serving {s' : Host} (htunnels : s'.tunnels = s.tunnels) (hadded : s'.added = s.added)
    (hserving : s'.serving = s.serving) (hallowed : s.allowed ⊆ s'.allowed) : Quiet s s' where
  tunnels := htunnels
  added := hadded
  serving := fun e he => Or.inr ⟨e.2, hserving ▸ he⟩
  allowed := hallowed

/-- **A quiet operation takes a quiet step.** -/
theorem quiet_step (hs : hostStep? s a = some s') (ha : a.quiet = true) : Quiet s s' := by
  cases a with
  | proxyNew id draws others =>
    simp only [hostStep?] at hs
    split at hs
    · cases hs
    · cases hs
      exact quiet_of_serving rfl rfl rfl fun _ hp => Firewall.mem_openPortUFW.mpr (Or.inr hp)
  | start tu =>
    simp only [hostStep?] at hs
    split_ifs at hs with hadded
    cases hs
    refine ⟨rfl, rfl, ?_, List.Subset.refl _⟩
    intro e he
    rcases List.mem_append.mp he with he | he
    · exact Or.inr ⟨e.2, he⟩
    · rw [List.mem_singleton.mp he]
      exact Or.inl hadded
  | listen tu =>
    simp only [hostStep?] at hs
    split_ifs at hs with hfree
    cases hs
    refine ⟨rfl, rfl, ?_, List.Subset.refl _⟩
    intro e he
    rcases List.mem_append.mp he with he | he
    · exact Or.inr ⟨e.2, List.mem_of_mem_erase he⟩
    · rw [List.mem_singleton.mp he]
      exact Or.inr ⟨false, hfree.1⟩
  | connect tu =>
    simp only [hostStep?] at hs
    split_ifs at hs
    cases hs
    exact quiet_of_serving rfl rfl rfl (List.Subset.refl _)
  | disconnect tu =>
    simp only [hostStep?] at hs
    split_ifs at hs
    cases hs
    exact quiet_of_serving rfl rfl rfl (List.Subset.refl _)
  | create tp id draws others => cases ha
  | delProxy name => cases ha
  | endServer tu bound => cases ha

theorem Quiet.drawn (h : Quiet s s') (hdrawn : Drawn s) : Drawn s' where
  added := by
    rw [h.added]
    exact hdrawn.added
  serving := by
    intro e he
    rcases h.serving e he with hadded | ⟨bound, hserving⟩
    · exact hdrawn.added e.1 hadded
    · exact hdrawn.serving (e.1, bound) hserving

theorem Quiet.separate (h : Quiet s s') (hsep : Separate s) : Separate s' where
  distinct := by
    rw [h.tunnels]
    exact hsep.distinct
  open_ := by
    intro u hu
    rw [h.tunnels] at hu
    exact h.allowed (hsep.open_ u hu)

theorem Drawn.step (h : Drawn s) (hs : hostStep? s a = some s') : Drawn s' := by
  cases a with
  | create tp id draws others =>
    simp only [hostStep?] at hs
    split at hs
    · cases hs
    · next port hport =>
      cases hs
      refine ⟨?_, h.serving⟩
      intro t ht
      rcases List.mem_append.mp ht with ht | ht
      · exact h.added t ht
      · rw [List.mem_singleton.mp ht]
        exact (giveAPort_spec hport).1
  | delProxy name =>
    cases hs
    exact ⟨h.added, h.serving⟩
  | endServer tu bound =>
    simp only [hostStep?, Option.ite_none_right_eq_some, Option.some.injEq] at hs
    obtain ⟨-, rfl⟩ := hs
    exact ⟨h.added, fun e he => h.serving e (List.mem_of_mem_erase he)⟩
  | _ => exact (quiet_step hs rfl).drawn h

/-- A tunnel that is added has a port of its own exactly if no other tunnel of the list has it. -/
theorem separate_add_iff (h : Separate s) {tunnel : Tunnel} (htunnels : s'.tunnels = s.tunnels ++ [tunnel])
    (hallowed : s'.allowed = s.allowed.openPortUFW tunnel.serverPort) :
    Separate s' ↔ ∀ u ∈ s.tunnels, u.serverPort ≠ tunnel.serverPort := by
  have hnodup : (s'.tunnels.map Tunnel.serverPort).Nodup ↔ ∀ u ∈ s.tunnels, u.serverPort ≠ tunnel.serverPort := by
    rw [htunnels, List.map_append, List.map_singleton, ← List.concat_eq_append, List.nodup_concat]
    constructor
    · rintro ⟨hnot, -⟩ u hu heq
      exact hnot (List.mem_map.mpr ⟨u, hu, heq⟩)
    · intro hall
      refine ⟨fun hmem => ?_, h.distinct⟩
      obtain ⟨u, hu, heq⟩ := List.mem_map.mp hmem
      exact hall u hu heq
  constructor
  · exact fun h' => hnodup.mp h'.distinct
  · intro hall
    refine ⟨hnodup.mpr hall, ?_⟩
    intro u hu
    rw [htunnels] at hu
    rw [hallowed, Firewall.mem_openPortUFW]
    rcases List.mem_append.mp hu with hu | hu
    · exact Or.inr (h.open_ u hu)
    · exact Or.inl (congrArg Tunnel.serverPort (List.mem_singleton.mp hu))

/-- **A step keeps the ports separate if and only if it avoids the ports of other tunnels.** -/
theorem separate_step (h : Separate s) (hdrawn : Drawn s) (hs : hostStep? s a = some s') :
    Separate s' ↔ Avoids s a := by
  cases a with
  | create tp id draws others =>
    simp only [hostStep?] at hs
    split at hs
    · cases hs
    · next port hport =>
      cases hs
      have htunnels := List.reduceOption_concat_of_some s.globals.tunnels (newProxy tp ⟨id, port⟩ s.globals).1
      rw [List.concat_eq_append, List.concat_eq_append] at htunnels
      refine Iff.trans (separate_add_iff h htunnels rfl) ?_
      constructor
      · intro hall port' hport' u hu _
        cases hport.symm.trans hport'
        exact hall u hu
      · intro havoids u hu
        by_cases hlistens : ListensTcp s u
        · exact serverPort_ne_of_listensTcp (giveAPort_spec hport).2 hlistens
        · exact havoids port hport u hu hlistens
  | delProxy name =>
    cases hs
    exact iff_of_true (separate_delProxy h.distinct fun u hu _ => h.open_ u hu) trivial
  | endServer tu bound =>
    simp only [hostStep?, Option.ite_none_right_eq_some, Option.some.injEq] at hs
    obtain ⟨hserving, rfl⟩ := hs
    constructor
    · intro h' _ u hu hid heq
      have hstays := h'.open_ u (by rw [tunnels_delProxy]; exact List.mem_filter.mpr ⟨hu, decide_eq_true hid⟩)
      rw [allowed_delProxy] at hstays
      have hclosed := Firewall.foldl_closePortUFW_subset _ _ hstays
      rw [heq] at hclosed
      exact Firewall.notMem_closePortUFW (hdrawn.serving _ hserving) s.allowed hclosed
    · intro havoids
      refine separate_delProxy h.distinct ?_
      intro u hu hid
      refine Firewall.mem_closePortUFW_of_ne (h.open_ u hu) ?_
      by_cases hmem : tu ∈ s.tunnels
      · intro heq
        exact hid (congrArg Tunnel.id (List.inj_on_of_nodup_map h.distinct hu hmem heq))
      · exact havoids hmem u hu hid
  | _ => exact iff_of_true ((quiet_step hs rfl).separate h) trivial

/-- **The ports stay separate in a run exactly if each step avoids the ports of other tunnels.** -/
theorem separate_iff (acts : List HostOp) :
    AllSteps hostStep? (fun _ _ s' => Separate s') acts {} ↔ AllSteps hostStep? (fun s a _ => Avoids s a) acts {} := by
  have hempty : Separate {} ∧ Drawn {} := ⟨⟨List.nodup_nil, nofun⟩, nofun, nofun⟩
  apply allSteps_iff (I := fun s => Separate s ∧ Drawn s) _ _ hempty
  · exact fun s a s' h hs => separate_step h.1 h.2 hs
  · exact fun s a s' h hs hsep => ⟨hsep, h.2.step hs⟩

end Step

/-! ### Two tunnels with one port -/

def quicA : Tunnel := ⟨0, str "a", str "quic", 40000⟩

def kcpB : Tunnel := ⟨1, str "b", str "kcp", 40000⟩

/-- A QUIC tunnel is started, and the same port is drawn for a KCP tunnel. -/
def samePort : List HostOp :=
  [.create (str "quic") (str "a") [0] [], .start quicA, .listen quicA, .connect quicA,
    .create (str "kcp") (str "b") [0] []]

/-- The QUIC tunnel is deleted before, and its `Server` ends behind it. -/
def lateEnd : List HostOp :=
  [.create (str "quic") (str "a") [0] [], .start quicA, .listen quicA, .delProxy (str "a"),
    .create (str "kcp") (str "b") [0] [], .endServer quicA true]

/-- A QUIC tunnel listens on UDP, so its port is drawn again. Its deletion closes the port of the other tunnel, and so
does the end of its `Server` where it has been deleted before. -/
theorem not_separate_quic :
    (¬AllSteps hostStep? (fun _ _ s' => Separate s') samePort {}) ∧
    (∃ s, runAll hostStep? (samePort ++ [.delProxy (str "a")]) {} = some s ∧ s.tunnels = [kcpB] ∧ s.allowed = []) ∧
    ∃ s, runAll hostStep? lateEnd {} = some s ∧ s.tunnels = [kcpB] ∧ s.allowed = [] := by
  refine ⟨?_, ⟨_, rfl, rfl, rfl⟩, ⟨_, rfl, rfl, rfl⟩⟩
  intro h
  obtain ⟨-, h⟩ := h _ rfl
  obtain ⟨-, h⟩ := h _ rfl
  obtain ⟨-, h⟩ := h _ rfl
  obtain ⟨-, h⟩ := h _ rfl
  obtain ⟨hsep, -⟩ := h _ rfl
  exact absurd hsep.distinct (by decide)

end ProxyZ.Server
