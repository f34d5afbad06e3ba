import ProxyZ.Client.Received
import ProxyZ.Control.Reply
import ProxyZ.Server.Ledger

/-!
# Profiles and tunnels

The client fills its pool with what the control servers reply to `/proxy-get` and `/proxy-err`, and may go over from one
server to another. All sides run together: between two questions of the client any server may be asked anything by
others, and its tunnels may end; an answer may get lost. Whatever happens, every profile in the client's pool is that of
a tunnel which the server at its present address has started, and which is in the list of this server until it is closed
(`profiles_of_tunnels`).

What goes over the wire is the JSON text of a reply; that the client's decoder reads the server's texts is asked of
each answer (`Wire.Reads`).
-/

namespace ProxyZ.System

open Go Procedure

/-- The configuration that is sent for a tunnel. -/
def profileOf (tu : Server.Tunnel) : Client.ProtocolConfig where
  id := tu.id
  server := .str (str "0.0.0.0")
  proxyType := tu.proxyType
  serverPort := tu.serverPort

/-- The encoding of the server's messages. -/
structure Wire where
  marshal : Fields → Str
  json : Server.Message → Json

/-- The text that the server writes. -/
def Wire.text (wire : Wire) (r : Server.Reply) : Str := Control.reply wire.marshal (wire.json r.msg) r.status

/-- The client reads what is written. -/
structure Wire.Reads (wire : Wire) (w : Client.World) (r : Server.Reply) : Prop where
  undoes : Control.Undoes wire.marshal w.unmarshal (wire.json r.msg)
  plain : ∀ status, (37 : UInt8) ∉ wire.marshal (Control.replyFields (wire.json r.msg) status)
  profile : ∀ tu, r.msg = .config tu → w.profile (wire.json r.msg) = some (profileOf tu)

/-- The handler of the server at `base` that a request gets to. -/
inductive GetsTo (base : Str) (req : Control.Request) : Server.Endpoint → Prop
  | proxyGet : req.url = base ++ str "/proxy-get" → GetsTo base req .proxyGet
  | proxyErr : req.url = base ++ str "/proxy-err" → GetsTo base req .proxyErr

theorem GetsTo.unique {base base' : Str} {req : Control.Request} {e e' : Server.Endpoint} (h : GetsTo base req e)
    (h' : GetsTo base' req e') : base = base' := by
  have hpaths : (str "/proxy-get").length = (str "/proxy-err").length := by decide
  cases h with
  | proxyGet hurl =>
    cases h' with
    | proxyGet hurl' => exact List.append_cancel_right (hurl.symm.trans hurl')
    | proxyErr hurl' => exact (List.append_inj' (hurl.symm.trans hurl') hpaths).1
  | proxyErr hurl =>
    cases h' with
    | proxyGet hurl' => exact (List.append_inj' (hurl.symm.trans hurl') hpaths.symm).1
    | proxyErr hurl' => exact List.append_cancel_right (hurl.symm.trans hurl')

/-- The servers after the event at one of them. -/
def happens (gs : Server.ListOps) (net : Str → Server.Control) (base : Str) (ev : Server.Event) :
    Str → Server.Control := Function.update net base (ev.after gs (net base))

/-- The client's questions so far, and the servers by their addresses. An answer in which the client finds no profile
may be anything. -/
inductive Together (gs : Server.ListOps) (w : Client.World) (wire : Wire) :
    List Client.Event → (Str → Server.Control) → Prop
  | start : Together gs w wire [] fun _ => {}
  | server {t : List Client.Event} {net : Str → Server.Control} (base : Str) (ev : Server.Event)
      (h : Together gs w wire t net) : Together gs w wire t (happens gs net base ev)
  | question {t : List Client.Event} {net : Str → Server.Control} (e : Client.Event)
      (hpost : ∀ req reply err, e ≠ .post req reply err) (h : Together gs w wire t net) :
      Together gs w wire (e :: t) net
  | lost {t : List Client.Event} {net : Str → Server.Control} (req : Control.Request) {reply : Str} (err : Option Err)
      (hlost : Client.answer w reply = none) (h : Together gs w wire t net) :
      Together gs w wire (.post req reply err :: t) net
  | answered {t : List Client.Event} {net : Str → Server.Control} {req : Control.Request} {base : Str}
      {e : Server.Endpoint} {r : Server.Reply} (sw : Server.World) (b : Server.Body) (he : GetsTo base req e)
      (hreply : (Server.Event.request e sw b).replies gs (net base) = [r]) (hreads : wire.Reads w r)
      (h : Together gs w wire t net) :
      Together gs w wire (.post req (wire.text r) none :: t) (happens gs net base (.request e sw b))

/-! ### The server's side -/

section Server

open ProxyZ.Server

variable {gs : ListOps} {w : Server.World} {b : Body} {c : Server.Control} {tu : Tunnel}

/-- The tunnel has been started, and is in the list until it is closed. -/
structure Kept (tu : Tunnel) (c : Server.Control) : Prop where
  started : tu ∈ c.started
  placed : some tu ∈ c.globals.tunnels ∨ tu ∈ c.globals.shared.waitToClose

/-- All replies so far are failures. -/
def AllFail (x : Exchange) : Prop := ∀ r ∈ x.replies, r.status = false

/-- A reply with status ok is a configuration, and the server is as it was then. -/
def OkLast (x : Exchange) : Prop :=
  ∀ r ∈ x.replies, r.status = true → (∃ tu, r.msg = .config tu) ∧ r.control = x.control

theorem AllFail.okLast {x : Exchange} (h : AllFail x) : OkLast x := by
  intro r hr hok
  rw [h r hr] at hok
  cases hok

theorem reply_allFail (msg : Message) : Keeps AllFail (reply msg false) := by
  apply Keeps.modify
  intro x hx r hr
  rcases List.mem_append.mp hr with hr | hr
  · exact hx r hr
  · rw [List.mem_singleton.mp hr]

/-- A configuration that is replied last. -/
theorem reply_okLast (tu : Tunnel) : Contract AllFail (reply (.config tu) true) (fun _ => OkLast) OkLast := by
  apply Contract.modify
  intro x hx r hr hok
  rcases List.mem_append.mp hr with hr | hr
  · rw [hx r hr] at hok
    cases hok
  · rw [List.mem_singleton.mp hr]
    exact ⟨⟨tu, rfl⟩, rfl⟩

theorem selectProxy_allFail (proxyType : Option Str) : Keeps AllFail (selectProxy gs w proxyType) := by
  apply Contract.get
  intro x hx
  have hstate : ∀ y, y = x → AllFail y := fun y hy => hy ▸ hx
  rcases getProxy gs w.toAnswer proxyType x.control.globals with _ | ⟨tu, g⟩
  · exact Contract.panic hstate
  · exact Contract.bind (Contract.modify hstate) fun _ => Keeps.pure _

theorem start_allFail (tu : Tunnel) : Keeps AllFail (start tu) := Keeps.modify fun _ hx => hx

theorem startIfOff_allFail (tu : Tunnel) : Keeps AllFail (startIfOff tu) := by
  apply Contract.get
  intro x hx
  have hstate : ∀ y, y = x → AllFail y := fun y hy => hy ▸ hx
  apply Contract.ite
  · exact fun _ => Contract.pure hstate
  · exact fun _ => (start_allFail tu).conseq hstate fun _ _ h => h

theorem giveProxy_okLast (proxyType : Option Str) :
    Contract AllFail (giveProxy gs w proxyType) (fun _ => OkLast) OkLast := by
  apply Contract.bind ((selectProxy_allFail proxyType).mono fun _ h => h.okLast)
  intro tu
  apply Contract.bind ((startIfOff_allFail tu).mono fun _ h => h.okLast)
  exact fun _ => reply_okLast tu

theorem proxyGet_okLast : Contract AllFail (proxyGet gs w b) (fun _ => OkLast) OkLast := by
  unfold proxyGet
  split
  · exact ((reply_allFail _).mono fun _ h => h.okLast).post fun _ _ h => h.okLast
  · exact giveProxy_okLast none
  · split
    · exact giveProxy_okLast _
    · exact giveProxy_okLast none

theorem checkHost_allFail (d : Option Fields) : Keeps AllFail (checkHost w d) := by
  have hreplies : ∀ s, Keeps AllFail (do reply (.text s) false; return true) :=
    fun s => (reply_allFail _).bind fun _ => Keeps.pure _
  unfold checkHost
  split
  · apply (Keeps.mapM asString_keeps _).bind
    intro _
    exact Keeps.ite (hreplies _) (Keeps.pure _)
  · exact Keeps.ite (hreplies _) (Keeps.pure _)
  · exact Keeps.pure _

theorem rejectIf_allFail (err : Option Err) : Keeps AllFail (rejectIf err) := by
  cases err with
  | none => exact Keeps.pure _
  | some err =>
    have hheader : Keeps AllFail (writeHeader 400) := Keeps.modify fun _ hx => hx
    exact hheader.bind fun _ => reply_allFail _

theorem makeTunnel_allFail (make : Globals → Tunnel × Globals) : Keeps AllFail (makeTunnel make) := by
  apply Contract.get
  intro x hx
  exact Contract.bind (Contract.modify fun y hy => hy ▸ hx) fun _ => Keeps.pure _

theorem proxyErr_okLast : Contract AllFail (proxyErr w b) (fun _ => OkLast) OkLast := by
  apply Contract.bind ((rejectIf_allFail _).mono fun _ h => h.okLast)
  intro _
  apply Contract.bind ((checkHost_allFail _).mono fun _ h => h.okLast)
  intro _
  apply Contract.ite
  · exact fun _ => Contract.pure fun _ h => h.okLast
  · intro _
    apply Contract.bind ((deleteByID_keeps _ fun _ _ hx => hx).mono fun _ h => h.okLast)
    intro _
    apply Contract.bind ((makeTunnel_allFail _).mono fun _ h => h.okLast)
    intro tu
    apply Contract.bind ((start_allFail tu).mono fun _ h => h.okLast)
    exact fun _ => reply_okLast tu

/-- What `/proxy-get` and `/proxy-err` reply with status ok is the configuration of a tunnel the server keeps. -/
theorem kept_of_reply (hgs : gs.Lawful) (hc : Good c) {base : Str} {req : Control.Request} {e : Endpoint}
    (he : GetsTo base req e) {r : Reply} (hr : r ∈ (Event.request e w b).replies gs c) (hok : r.status = true) :
    ∃ tu, r.msg = .config tu ∧ Kept tu ((Event.request e w b).after gs c) := by
  have hnew : e ≠ .proxyNew := by cases he <;> decide
  have hlast : OkLast (serve gs w b e c).2 := by
    have hcontract : Contract AllFail (handle gs w b e) (fun _ => OkLast) OkLast := by
      cases he with
      | proxyGet => exact proxyGet_okLast
      | proxyErr => exact proxyErr_okLast
    have hstate := hcontract { control := c } nofun
    unfold serve
    rcases hcall : exec (handle gs w b e) { control := c } with ⟨_ | _, x⟩
    all_goals
      rw [hcall] at hstate
      exact hstate
  obtain ⟨⟨tu, hmsg⟩, hcontrol⟩ := hlast r hr hok
  obtain ⟨hlisted, hstarted⟩ := (serve_live hgs hnew w b hc).live r hr tu hmsg hok
  rw [hcontrol] at hlisted hstarted
  exact ⟨tu, hmsg, hstarted, Or.inl hlisted⟩

theorem kept_invariant (hgs : gs.Lawful) (tu : Tunnel) : ServerInvariant gs (Kept tu) where
  selected := by
    intro w proxyType c t g h hget
    obtain ⟨tunnels, lastUse, hperm, rfl | ⟨tp, rfl⟩⟩ := getProxy_cases hgs hget
    · exact ⟨h.started, h.placed.imp_left hperm.mem_iff.mpr⟩
    · exact ⟨h.started, h.placed.imp_left fun ht => List.mem_append_left _ (hperm.mem_iff.mpr ht)⟩
  made := fun w c h => ⟨h.started, (placed_invariant hgs tu).made w _ h.placed⟩
  deleted := fun name c h => ⟨h.started, (placed_invariant hgs tu).deleted name _ h.placed⟩
  started := fun t c h => ⟨List.mem_cons_of_mem _ h.started, h.placed⟩
  ports := fun p c h => ⟨h.started, h.placed⟩

/-- Whatever happens to the server, it keeps the tunnel. -/
theorem Kept.after (hgs : gs.Lawful) (h : Kept tu c) (ev : Event) : Kept tu (ev.after gs c) := by
  cases ev with
  | request e w r =>
    by_cases he : e = .proxyNew
    · subst he
      exact ⟨h.started, h.placed⟩
    · exact ((kept_invariant hgs tu).serve he h).now
  | ended t =>
    unfold Event.after endTunnel
    dsimp only
    split_ifs
    · exact ⟨h.started, (placed_invariant hgs tu).deleted t.id _ h.placed⟩
    · exact h

theorem Kept.happens {net : Str → Control} {base : Str} (hgs : gs.Lawful) (h : Kept tu (net base)) (base' : Str)
    (ev : Event) : Kept tu (happens gs net base' ev base) := by
  unfold System.happens
  by_cases hat : base = base'
  · rw [hat, Function.update_self]
    exact (hat ▸ h).after hgs ev
  · rw [Function.update_of_ne hat]
    exact h

theorem happens_good {net : Str → Control} (hgs : gs.Lawful) (h : ∀ base, Good (net base)) (base' : Str) (ev : Event)
    (base : Str) : Good (happens gs net base' ev base) := by
  unfold System.happens
  by_cases hat : base = base'
  · rw [hat, Function.update_self]
    exact (h base').after hgs ev
  · rw [Function.update_of_ne hat]
    exact h base

end Server

/-! ### All sides -/

section All

variable {gs : Server.ListOps} {w : Client.World} {wire : Wire} {t : List Client.Event} {net : Str → Server.Control}

theorem Together.good (hgs : gs.Lawful) (h : Together gs w wire t net) : ∀ base, Server.Good (net base) := by
  induction h with
  | start => exact fun _ => Server.good_empty
  | server base' ev _ ih => exact happens_good hgs ih base' ev
  | question _ _ _ ih => exact ih
  | lost _ _ _ _ ih => exact ih
  | answered _ _ _ _ _ _ ih => exact happens_good hgs ih _ _

/-- The client reads a profile from a text of a server only if it is a configuration with status ok. -/
theorem answer_text {r : Server.Reply} (hreads : wire.Reads w r) {sent : Client.ProtocolConfig}
    (h : Client.answer w (wire.text r) = some sent) :
    r.status = true ∧ ∀ tu, r.msg = .config tu → sent = profileOf tu := by
  have hrecv : Control.recvMsg w.unmarshal (wire.text r) = some (wire.json r.msg, r.status) := by
    unfold Wire.text Control.reply
    cases r.status
    · exact Control.recvMsg_writeReply hreads.undoes (hreads.plain false)
    · exact Control.recvMsg_writeReply hreads.undoes (hreads.plain true)
  unfold Client.answer at h
  split_ifs at h
  rw [hrecv] at h
  cases hstatus : r.status with
  | false =>
    rw [hstatus] at h
    cases h
  | true =>
    rw [hstatus] at h
    refine ⟨rfl, fun tu hmsg => ?_⟩
    exact Option.some.inj (h.symm.trans (hreads.profile tu hmsg))

/-- **Every profile that the client has been sent is that of a tunnel which the server it has asked keeps.** -/
theorem Together.kept (hgs : gs.Lawful) (h : Together gs w wire t net) {req : Control.Request} {reply : Str}
    {err : Option Err} {sent : Client.ProtocolConfig} {base : Str} {e : Server.Endpoint} (hgets : GetsTo base req e)
    (hmem : .post req reply err ∈ t) (hsent : Client.answer w reply = some sent) :
    ∃ tu, sent = profileOf tu ∧ Kept tu (net base) := by
  induction h with
  | start => exact absurd hmem List.not_mem_nil
  | server base' ev _ ih =>
    obtain ⟨tu, htu, hkept⟩ := ih hmem
    exact ⟨tu, htu, hkept.happens hgs base' ev⟩
  | question e hpost _ ih =>
    rcases List.mem_cons.mp hmem with heq | hmem
    · exact absurd heq.symm (hpost _ _ _)
    · exact ih hmem
  | lost req' err' hlost _ ih =>
    rcases List.mem_cons.mp hmem with heq | hmem
    · cases heq
      cases hlost.symm.trans hsent
    · exact ih hmem
  | answered sw b he hreply hreads hbefore ih =>
    rcases List.mem_cons.mp hmem with heq | hmem
    · cases heq
      obtain ⟨hok, hprofile⟩ := answer_text hreads hsent
      obtain ⟨tu, hmsg, hkept⟩ := kept_of_reply hgs (hbefore.good hgs _) he (hreply ▸ List.mem_singleton_self _) hok
      rw [hgets.unique he, happens, Function.update_self]
      exact ⟨tu, hprofile tu hmsg, hkept⟩
    · obtain ⟨tu, htu, hkept⟩ := ih hmem
      exact ⟨tu, htu, hkept.happens hgs _ _⟩

end All

/-! ### One client and one server -/

open Client (newClientControll sampleAddr after)

/-- The JSON text of an object whose values are strings, numbers and objects of these. -/
def jsonText (d : Fields) : Str :=
  let quote := fun s : Str => [34] ++ s ++ [34]
  let object := fun fields : List Str => str "\x7b" ++ (str ",").intercalate fields ++ str "\x7d"
  let scalar := fun value : Json => match value with
    | .str s => quote s
    | .num text => text
    | _ => str "null"
  object (d.map fun (key, value) => quote key ++ str ":" ++ match value with
    | .obj fields => object (fields.map fun (key, value) => quote key ++ str ":" ++ scalar value)
    | value => scalar value)

/-- The fields of a profile that the client looks at. -/
def profileWire : Wire where
  marshal := jsonText
  json := fun msg => match msg with
    | .config tu => .obj [(str "id", .str tu.id), (str "server", .str (str "0.0.0.0")),
        (str "server_port", .num (itoa tu.serverPort)), (str "proxy-type", .str tu.proxyType)]
    | .text s => .str s
    | _ => .null

def firstTunnel : Server.Tunnel := ⟨0, str "c", str "quic", 40003⟩

/-- What the server replies to the client's first request. -/
def firstReply : Server.Reply :=
  ⟨.config firstTunnel, true, (Server.Event.request .proxyGet (Server.asking (str "quic")).1
    (Server.asking (str "quic")).2).after Server.insertOps {}⟩

/-- A decoder of the two replies with the message of this reply. -/
def readFirst (text : Str) : Option Fields :=
  if text = jsonText (Control.replyFields (profileWire.json firstReply.msg) true) then
    some (Control.replyFields (profileWire.json firstReply.msg) true)
  else if text = jsonText (Control.replyFields (profileWire.json firstReply.msg) false) then
    some (Control.replyFields (profileWire.json firstReply.msg) false)
  else none

/-- A client's world in which its request gets this reply. -/
def wiredWorld : Client.World :=
  { Client.sampleWorld fun _ _ => (profileWire.text firstReply, none) with
    unmarshal := readFirst
    profile := fun obj => match obj with
      | .obj [(_, .str id), (_, server), (_, .num port), (_, .str proxyType)] =>
          some { id, server, proxyType, serverPort := (atoi port).1 }
      | _ => none }

/-- The client that has asked for its first profile. -/
def connected : Client.ClientControl := after wiredWorld (.rebuildSmux 0) (newClientControll wiredWorld sampleAddr 1 false)

end ProxyZ.System
