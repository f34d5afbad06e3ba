import ProxyZ.Server.Handlers

/-!
# Configurations that are handed out

A configuration in a reply with status ok is of use if its tunnel is in the list and has been started. All
handlers but `/proxy-new` see to that, from whatever the requests before have left, and `/proxy-new` never
does: so all configurations of a run are live exactly if it has no request for `/proxy-new` (`live_iff`).

Between two requests a tunnel can end, by which it is switched off and deleted.
-/

namespace ProxyZ.Server

open Go Procedure

/-- The tunnel of a configuration that is replied with status ok is in the list, and has been started. -/
def Reply.Live (r : Reply) : Prop :=
  ∀ tu, r.msg = .config tu → r.status = true → some tu ∈ r.control.globals.tunnels ∧ tu ∈ r.control.started

/-- What happens to the server: a request, or the `Server` of a tunnel ends. -/
inductive Event
  | request (e : Endpoint) (w : World) (r : Body)
  | ended (tu : Tunnel)

/-- What `Server` does as it ends. -/
def endTunnel (tu : Tunnel) (c : Control) : Control :=
  if c.on tu then
    { c with
      on := Function.update c.on tu false
      globals := (delProxy tu.id c.globals).2
      ports := c.ports ++ [(tu.serverPort : Int)] }
  else c

def Event.after (gs : ListOps) (c : Control) : Event → Control
  | .request e w r => (serve gs w r e c).2.control
  | .ended tu => endTunnel tu c

def Event.replies (gs : ListOps) (c : Control) : Event → List Reply
  | .request e w r => (serve gs w r e c).2.replies
  | .ended _ => []

/-- The replies of a run. -/
def replies (gs : ListOps) : List Event → Control → List Reply
  | [], _ => []
  | ev :: rest, c => ev.replies gs c ++ replies gs rest (ev.after gs c)

def Event.IsProxyNew : Event → Prop
  | .request e _ _ => e = .proxyNew
  | .ended _ => False

/-! ### What the handlers keep -/

/-- The list is proper, and a tunnel that is on has been started. -/
structure Good (c : Control) : Prop where
  proper : Proper c.globals
  on : ∀ tu, c.on tu = true → tu ∈ c.started

/-- The replies so far are live. -/
structure AllLive (x : Exchange) : Prop where
  good : Good x.control
  live : ∀ r ∈ x.replies, r.Live

/-- The tunnel is in the list. -/
def Listed (tu : Tunnel) (x : Exchange) : Prop := AllLive x ∧ some tu ∈ x.control.globals.tunnels

section Handlers

variable {gs : ListOps} {w : World} {r : Body}

theorem AllLive.setGlobals {x : Exchange} (h : AllLive x) {g : Globals} (hg : Proper g) :
    AllLive { x with control := { x.control with globals := g } } where
  good := ⟨hg, h.good.on⟩
  live := h.live

theorem Contract.reply {P : Exchange → Prop} {msg : Message} {status : Bool} (hP : ∀ x, P x → AllLive x)
    (hlive : ∀ x, P x → Reply.Live ⟨msg, status, x.control⟩) :
    Contract P (reply msg status) (fun _ => AllLive) AllLive := by
  apply Contract.modify
  intro x hx
  refine ⟨(hP x hx).good, ?_⟩
  intro r hr
  rcases List.mem_append.mp hr with hr | hr
  · exact (hP x hx).live r hr
  · rw [List.mem_singleton.mp hr]
    exact hlive x hx

/-- A reply without a configuration. -/
theorem reply_keeps {msg : Message} (status : Bool) (hmsg : ∀ tu, msg ≠ .config tu) : Keeps AllLive (reply msg status) :=
  Contract.reply (fun _ hx => hx) fun _ _ tu heq => absurd heq (hmsg tu)

theorem AllLive.delete {x : Exchange} (h : AllLive x) (name : Str) :
    AllLive { x with control := { x.control with globals := (delProxy name x.control.globals).2 } } :=
  h.setGlobals (proper_delProxy name h.good.proper)

theorem writeHeader_keeps (code : Nat) : Keeps AllLive (writeHeader code) :=
  Keeps.modify fun _ hx => ⟨hx.good, hx.live⟩

theorem selectProxy_listed (hgs : gs.Lawful) (proxyType : Option Str) :
    Contract AllLive (selectProxy gs w proxyType) Listed AllLive := by
  apply Contract.get
  intro x hx
  obtain ⟨tu, g, hget, hspec⟩ := getProxy_spec hgs w.toAnswer proxyType hx.good.proper
  rw [hget]
  dsimp only
  have hlisted : Proper g ∧ some tu ∈ g.tunnels := by
    rcases hspec with hfinds | hmakes
    · exact ⟨hfinds.proper hx.good.proper, (hfinds.tunnels _).mpr hfinds.mem⟩
    · exact ⟨hmakes.proper hx.good.proper, (hmakes.tunnels _).mpr (Or.inr rfl)⟩
  apply Contract.bind (Q := fun _ => Listed tu)
  · apply Contract.modify
    rintro _ rfl
    exact ⟨hx.setGlobals hlisted.1, hlisted.2⟩
  · intro _
    exact Contract.pure fun _ h => h

theorem AllLive.start {x : Exchange} (h : AllLive x) (tu : Tunnel) :
    AllLive { x with
      control := { x.control with on := Function.update x.control.on tu true, started := tu :: x.control.started } } where
  good := by
    refine ⟨h.good.proper, fun t ht => ?_⟩
    by_cases heq : t = tu
    · rw [heq]
      exact List.mem_cons_self
    · exact List.mem_cons_of_mem _ (h.good.on t ((Function.update_of_ne heq ..).symm.trans ht))
  live := h.live

/-- Behind a start the tunnel's configuration can be handed out. -/
theorem start_spec (tu : Tunnel) :
    Contract (Listed tu) (start tu) (fun _ x => Listed tu x ∧ tu ∈ x.control.started) AllLive :=
  Contract.modify fun _ hx => ⟨⟨hx.1.start tu, hx.2⟩, List.mem_cons_self⟩

theorem reply_config (tu : Tunnel) :
    Contract (fun x => Listed tu x ∧ tu ∈ x.control.started) (reply (.config tu) true) (fun _ => AllLive) AllLive := by
  apply Contract.reply
  · exact fun _ hx => hx.1.1
  · intro x hx t heq _
    cases heq
    exact ⟨hx.1.2, hx.2⟩

theorem startIfOff_spec (tu : Tunnel) :
    Contract (Listed tu) (startIfOff tu) (fun _ x => Listed tu x ∧ tu ∈ x.control.started) AllLive := by
  apply Contract.get
  intro x hx
  apply Contract.ite
  · intro hon
    apply Contract.pure
    rintro _ rfl
    exact ⟨hx, hx.1.good.on tu hon⟩
  · intro _
    exact (start_spec tu).conseq (fun _ heq => heq ▸ hx) fun _ _ h => h

theorem giveProxy_keeps (hgs : gs.Lawful) (proxyType : Option Str) : Keeps AllLive (giveProxy gs w proxyType) := by
  apply Contract.bind (selectProxy_listed hgs proxyType)
  intro tu
  apply Contract.bind (startIfOff_spec tu)
  intro _
  exact reply_config tu

theorem reject_keeps (err : Err) : Keeps AllLive (reject err) :=
  (writeHeader_keeps 400).bind fun _ => reply_keeps false nofun

theorem rejectIf_keeps (err : Option Err) : Keeps AllLive (rejectIf err) := by
  cases err with
  | none => exact Keeps.pure _
  | some err => exact reject_keeps err

theorem zInfo_keeps : Keeps AllLive (zInfo w r) := by
  apply (rejectIf_keeps _).bind
  intro _
  exact Keeps.ite (reply_keeps true nofun) (Keeps.pure _)

theorem zSet_keeps : Keeps AllLive (zSet w r) := by
  unfold zSet
  split
  · exact reject_keeps _
  · exact reply_keeps false nofun
  · split
    · apply (asString_keeps _).bind
      intro _
      apply (asString_keeps _).bind
      intro _
      exact reply_keeps true nofun
    · exact Keeps.pure _

theorem zDns_keeps : Keeps AllLive (zDns w r) := by
  unfold zDns
  split
  · exact reply_keeps false nofun
  · split
    · apply (asString_keeps _).bind
      intro _
      exact reply_keeps true nofun
    · exact reply_keeps false nofun

theorem closePortText_keeps (s : Str) : Keeps AllLive (closePortText s) := by
  unfold closePortText closePortUFW
  apply Keeps.ite
  · apply Keeps.ite (Keeps.pure _)
    exact Contract.modify fun x hx => ⟨⟨hx.good.proper, hx.good.on⟩, hx.live⟩
  · exact Keeps.pure _

theorem closePorts_keeps (port : Option Json) : Keeps AllLive (closePorts port) := by
  unfold closePorts
  split
  · apply Keeps.bind
    · unfold closeListed
      apply Keeps.ite
      · exact Keeps.forM (fun i => closePortText_keeps _) _
      · apply Keeps.ite
        · exact Keeps.forM (fun i => closePortText_keeps _) _
        · exact Keeps.pure _
    · intro _
      exact closePortText_keeps _
  · exact Keeps.pure _

theorem zUfw_keeps : Keeps AllLive (zUfw w r) := by
  unfold zUfw
  split
  · exact reply_keeps false nofun
  · exact reply_keeps true nofun
  · apply (closePorts_keeps _).bind
    intro _
    exact reply_keeps true nofun

theorem proxyGet_keeps (hgs : gs.Lawful) : Keeps AllLive (proxyGet gs w r) := by
  unfold proxyGet
  split
  · exact reply_keeps false nofun
  · exact giveProxy_keeps hgs none
  · split
    · exact giveProxy_keeps hgs _
    · exact giveProxy_keeps hgs none

theorem closeAll_keeps : Keeps AllLive closeAll := by
  apply Contract.get
  intro x hx
  have hstate : ∀ y, y = x → AllLive y := fun y hy => hy ▸ hx
  apply Contract.ite
  · intro _
    exact Contract.panic hstate
  · intro _
    apply Contract.bind (Q := fun _ => AllLive)
    · apply Contract.conseq (Keeps.forM (fun i => (deleteProxy_keeps fun x hx => hx.delete i).discard) _) hstate
      exact fun _ _ h => h
    · intro _
      exact reply_keeps true nofun

theorem checkHost_keeps (d : Option Fields) : Keeps AllLive (checkHost w d) := by
  have hreplies : ∀ s, Keeps AllLive (do reply (.text s) false; return true) := by
    intro s
    apply Keeps.bind
    · exact reply_keeps false nofun
    · exact fun _ => Keeps.pure _
  unfold checkHost
  split
  · apply (Keeps.mapM asString_keeps _).bind
    intro _
    exact Keeps.ite (hreplies _) (Keeps.pure _)
  · exact Keeps.ite (hreplies _) (Keeps.pure _)
  · exact Keeps.pure _

theorem makeTunnel_listed : Contract AllLive (makeTunnel (newProxyByErrCount w.toAnswer)) Listed AllLive := by
  apply Contract.get
  intro x hx
  have hmakes := newProxyByErrCount_makes w.toAnswer x.control.globals
  apply Contract.bind (Q := fun _ => Listed (newProxyByErrCount w.toAnswer x.control.globals).1)
  · apply Contract.modify
    rintro _ rfl
    exact ⟨hx.setGlobals (hmakes.proper hx.good.proper), (hmakes.tunnels _).mpr (Or.inr rfl)⟩
  · intro _
    exact Contract.pure fun _ h => h

theorem proxyErr_keeps : Keeps AllLive (proxyErr w r) := by
  apply (rejectIf_keeps _).bind
  intro _
  apply (checkHost_keeps _).bind
  intro _
  apply Keeps.ite (Keeps.pure _)
  apply (deleteByID_keeps _ fun name x hx => hx.delete name).bind
  intro _
  apply Contract.bind makeTunnel_listed
  intro tu
  apply Contract.bind (start_spec tu)
  intro _
  exact reply_config tu

theorem proxyDel_keeps : Keeps AllLive (proxyDel w r) := by
  apply (rejectIf_keeps _).bind
  intro _
  apply (asString_keeps _).bind
  intro _
  apply (deleteProxy_keeps fun x hx => hx.delete _).bind
  intro _
  exact reply_keeps true nofun

/-- **All handlers but `/proxy-new`** reply with live configurations. -/
theorem handle_keeps (hgs : gs.Lawful) {e : Endpoint} (he : e ≠ .proxyNew) : Keeps AllLive (handle gs w r e) := by
  cases e with
  | zInfo => exact zInfo_keeps
  | zSet => exact zSet_keeps
  | zDns => exact zDns_keeps
  | zUfw => exact zUfw_keeps
  | proxyGet => exact proxyGet_keeps hgs
  | closeAll => exact closeAll_keeps
  | proxyErr => exact proxyErr_keeps
  | proxyNew => exact absurd rfl he
  | proxyDel => exact proxyDel_keeps

end Handlers

/-! ### Runs -/

section Run

variable {gs : ListOps} {c : Control}

theorem Good.endTunnel (h : Good c) (tu : Tunnel) : Good (endTunnel tu c) := by
  unfold Server.endTunnel
  split_ifs
  · refine ⟨proper_delProxy tu.id h.proper, fun t ht => ?_⟩
    by_cases heq : t = tu
    · subst heq
      exact absurd ((Function.update_self ..).symm.trans ht) Bool.false_ne_true
    · exact h.on t ((Function.update_of_ne heq ..).symm.trans ht)
  · exact h

theorem serve_live (hgs : gs.Lawful) {e : Endpoint} (he : e ≠ .proxyNew) (w : World) (r : Body) (h : Good c) :
    AllLive (serve gs w r e c).2 := by
  have hkeeps := handle_keeps (w := w) (r := r) hgs he { control := c } ⟨h, nofun⟩
  unfold serve
  rcases hcall : exec (handle gs w r e) { control := c } with ⟨_ | _, x⟩
  · rw [hcall] at hkeeps
    exact hkeeps
  · rw [hcall] at hkeeps
    exact hkeeps

/-- **`/proxy-new` replies with a tunnel that is not in the list.** -/
theorem serve_proxyNew (gs : ListOps) (w : World) (r : Body) (h : Good c) :
    Good (serve gs w r .proxyNew c).2.control ∧ ∃ r' ∈ (serve gs w r .proxyNew c).2.replies, ¬r'.Live := by
  constructor
  · refine ⟨⟨h.proper.nonnil, fun t ht => ?_⟩, h.on⟩
    exact Nat.lt_succ_of_lt (h.proper.made t ht)
  · refine ⟨_, List.mem_singleton_self _, fun hlive => ?_⟩
    have hlisted := (hlive _ rfl rfl).1
    exact absurd (h.proper.made _ hlisted) (Nat.lt_irrefl _)

theorem Good.after (hgs : gs.Lawful) (h : Good c) (ev : Event) : Good (ev.after gs c) := by
  cases ev with
  | request e w r =>
    by_cases he : e = .proxyNew
    · subst he
      exact (serve_proxyNew gs w r h).1
    · exact (serve_live hgs he w r h).good
  | ended tu => exact h.endTunnel tu

theorem replies_live_iff (hgs : gs.Lawful) (h : Good c) (ev : Event) :
    (∀ r ∈ ev.replies gs c, r.Live) ↔ ¬ev.IsProxyNew := by
  cases ev with
  | request e w r =>
    by_cases he : e = .proxyNew
    · subst he
      obtain ⟨r', hmem, hnot⟩ := (serve_proxyNew gs w r h).2
      exact iff_of_false (fun hall => hnot (hall r' hmem)) fun hne => hne rfl
    · exact iff_of_true (serve_live hgs he w r h).live he
  | ended tu => exact iff_of_true nofun id

/-- **All configurations of a run are live exactly if no request of it is for `/proxy-new`.** -/
theorem live_iff_of_good (hgs : gs.Lawful) (h : Good c) (events : List Event) :
    (∀ r ∈ replies gs events c, r.Live) ↔ ∀ ev ∈ events, ¬ev.IsProxyNew := by
  induction events generalizing c with
  | nil => exact iff_of_true nofun nofun
  | cons ev rest ih =>
    rw [replies, List.forall_mem_append, List.forall_mem_cons, replies_live_iff hgs h, ih (h.after hgs ev)]

end Run

theorem good_empty : Good {} := ⟨proper_empty, nofun⟩

theorem live_iff {gs : ListOps} (hgs : gs.Lawful) (events : List Event) :
    (∀ r ∈ replies gs events {}, r.Live) ↔ ∀ ev ∈ events, ¬ev.IsProxyNew :=
  live_iff_of_good hgs good_empty events

theorem live_iff_get :
    (replies sampleOps [.request .proxyGet quietWorld ⟨[], none⟩, .request .proxyErr quietWorld ⟨[], none⟩] {}).length = 2 ∧
      ∀ r ∈ replies sampleOps [.request .proxyGet quietWorld ⟨[], none⟩, .request .proxyErr quietWorld ⟨[], none⟩] {},
        r.Live := by
  refine ⟨rfl, (live_iff sampleOps_lawful _).mpr ?_⟩
  intro ev hev
  rcases List.mem_cons.mp hev with rfl | hev
  · exact Endpoint.noConfusion
  · rw [List.mem_singleton.mp hev]
    exact Endpoint.noConfusion

theorem not_live : ¬∀ r ∈ replies sampleOps [.request .proxyNew quietWorld ⟨[], none⟩] {}, r.Live := by
  intro h
  exact List.not_mem_nil (h _ (List.mem_singleton_self _) _ rfl rfl).1

end ProxyZ.Server
