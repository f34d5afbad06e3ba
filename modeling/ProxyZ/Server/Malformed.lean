import ProxyZ.Server.Handlers

/-!
# Malformed requests

A request whose body `Recv` does not accept is rejected cleanly by the handlers that return behind their reply.
`/z-info` does not return, and replies a second time if the map is nil, which it is when the body could not be
read. `/proxy-err` and `/proxy-del` go on with the map as it is: whatever that holds, they reply again or panic.
-/

namespace ProxyZ.Server

open Go Procedure

/-- The handler returns, it has replied once and with status fail, and the tunnels and the counts of errors are
as they were. -/
structure Rejected (c : Control) (res : Option PUnit × Exchange) : Prop where
  returns : res.1 = some ⟨⟩
  reply : ∃ r, res.2.replies = [r] ∧ r.status = false
  tunnels : res.2.control.globals.tunnels = c.globals.tunnels
  errTypeCount : res.2.control.globals.shared.errTypeCount = c.globals.shared.errTypeCount

/-- The handlers that call `Recv`. -/
def Endpoint.ReadsBody : Endpoint → Prop
  | .closeAll => False
  | .proxyNew => False
  | _ => True

/-- Which handlers reject a malformed body cleanly: `d` is the map `Recv` has returned with the error. -/
def Endpoint.Returns (d : Option Fields) : Endpoint → Prop
  | .zInfo => d ≠ none
  | .zSet => True
  | .zDns => True
  | .zUfw => True
  | .proxyGet => True
  | _ => False

/-- At least `n` replies have been written. -/
def Replied (n : Nat) (x : Exchange) : Prop := n ≤ x.replies.length

section Handlers

variable {gs : ListOps} {w : World} {r : Body} {c : Control} {d : Option Fields} {err : Err}

/-! ### The handlers that return -/

/-- **A handler that returns behind its reply rejects a malformed body cleanly.** -/
theorem rejected_of_reject : Rejected c (exec (reject err) { control := c }) where
  returns := rfl
  reply := ⟨_, rfl, rfl⟩
  tunnels := rfl
  errTypeCount := rfl

theorem rejected_of_reply : Rejected c (exec (reply (.err err) false) { control := c }) where
  returns := rfl
  reply := ⟨_, rfl, rfl⟩
  tunnels := rfl
  errTypeCount := rfl

theorem rejected_zInfo_iff (hrecv : recv w r = (d, some err)) :
    Rejected c (exec (zInfo w r) { control := c }) ↔ d ≠ none := by
  unfold zInfo
  rw [hrecv]
  cases d with
  | none =>
    apply iff_of_false
    · intro h
      obtain ⟨_, hreplies, -⟩ := h.reply
      cases hreplies
    · exact fun hne => hne rfl
  | some d =>
    apply iff_of_true
    · exact ⟨rfl, ⟨_, rfl, rfl⟩, rfl, rfl⟩
    · exact Option.some_ne_none d

/-! ### The handlers that go on -/

theorem reply_replied (n : Nat) (msg : Message) (status : Bool) (E : Exchange → Prop) :
    Contract (Replied n) (reply msg status) (fun _ => Replied (n + 1)) E := by
  apply Contract.modify
  intro x hx
  show n + 1 ≤ (x.replies ++ [_]).length
  rw [List.length_append]
  exact Nat.add_le_add_right hx 1

/-- A handler that comes to a second reply, or panics, does not reject cleanly. -/
theorem not_rejected_of_contract {m : Handler PUnit} {E : Exchange → Prop}
    (h : Contract (Replied 1) m (fun _ => Replied 2) E) :
    ¬Rejected c (exec (rejectIf (some err) >>= fun _ => m) { control := c }) := by
  intro hrejected
  have hcontract := h { control := c, replies := [⟨.err err, false, c⟩], code := 400 } le_rfl
  have hexec : exec (rejectIf (some err) >>= fun _ => m) { control := c } =
      exec m { control := c, replies := [⟨.err err, false, c⟩], code := 400 } := rfl
  rw [hexec] at hrejected
  rcases hcall : exec m { control := c, replies := [⟨.err err, false, c⟩], code := 400 } with ⟨_ | _, x⟩
  · rw [hcall] at hrejected
    have hreturns : (none : Option PUnit) = some ⟨⟩ := hrejected.returns
    cases hreturns
  · rw [hcall] at hrejected hcontract
    obtain ⟨_, hreplies, -⟩ := hrejected.reply
    have htwo : 2 ≤ x.replies.length := hcontract
    rw [hreplies] at htwo
    exact Nat.not_succ_le_self 1 htwo

theorem proxyDel_replies (d : Option Fields) :
    Contract (Replied 1) (do
      let configName ← asString ((field d "msg").getD .null)
      let found ← deleteProxy configName
      reply (.found found) true) (fun _ => Replied 2) (Replied 1) := by
  apply Contract.bind (asString_keeps _)
  intro _
  apply Contract.bind (deleteProxy_keeps fun _ hx => hx)
  intro _
  exact reply_replied 1 _ _ _

/-- The check of the hosts replies where it says so. -/
theorem checkHost_replies (d : Option Fields) :
    Contract (Replied 1) (checkHost w d) (fun replied x => Replied 1 x ∧ (replied = true → Replied 2 x)) (Replied 1) := by
  have hreplies : ∀ s, Contract (Replied 1) (do reply (.text s) false; return true)
      (fun replied x => Replied 1 x ∧ (replied = true → Replied 2 x)) (Replied 1) := by
    intro s
    apply Contract.bind (reply_replied 1 _ _ _)
    intro _
    exact Contract.pure fun _ hx => ⟨Nat.le_of_succ_le hx, fun _ => hx⟩
  have hfalse : Contract (Replied 1) (pure false : Handler Bool)
      (fun replied x => Replied 1 x ∧ (replied = true → Replied 2 x)) (Replied 1) :=
    Contract.pure fun _ hx => ⟨hx, nofun⟩
  unfold checkHost
  split
  · apply Contract.bind (Keeps.mapM asString_keeps _)
    intro _
    exact Contract.ite (fun _ => hreplies _) fun _ => hfalse
  · exact Contract.ite (fun _ => hreplies _) fun _ => hfalse
  · exact hfalse

theorem replaceProxy_replies (d : Option Fields) :
    Contract (Replied 1) (replaceProxy w d) (fun _ => Replied 2) (Replied 1) := by
  apply Contract.bind (deleteByID_keeps _ fun _ _ hx => hx)
  intro _
  apply Contract.bind (Q := fun _ => Replied 1)
  · apply Contract.get
    intro x hx
    apply Contract.bind (Q := fun _ => Replied 1)
    · apply Contract.modify
      intro y hy
      rw [hy]
      exact hx
    · exact fun _ => Contract.pure fun _ hx => hx
  · intro _
    apply Contract.bind (Q := fun _ => Replied 1)
    · exact Contract.modify fun _ hx => hx
    · intro _
      exact reply_replied 1 _ _ _

theorem proxyErr_replies (d : Option Fields) :
    Contract (Replied 1) (do
      let replied ← checkHost w d
      if replied then pure () else replaceProxy w d) (fun _ => Replied 2) (Replied 1) := by
  apply Contract.bind (checkHost_replies d)
  intro replied
  apply Contract.ite
  · intro hreplied
    exact Contract.pure fun _ hx => hx.2 hreplied
  · intro _
    exact (replaceProxy_replies d).conseq (fun _ hx => hx.1) fun _ _ h => h

end Handlers

/-- **A malformed request is rejected cleanly exactly by the handlers that return**, and by `/z-info` if the
body could be read. -/
theorem rejected_iff (gs : ListOps) (c : Control) {w : World} {r : Body} {d : Option Fields} {err : Err}
    (hrecv : recv w r = (d, some err)) {e : Endpoint} (he : e.ReadsBody) :
    Rejected c (serve gs w r e c) ↔ e.Returns d := by
  cases e with
  | zInfo => exact rejected_zInfo_iff hrecv
  | zSet =>
    apply iff_of_true _ trivial
    simp only [serve, handle, zSet, hrecv]
    exact rejected_of_reject
  | zDns =>
    apply iff_of_true _ trivial
    simp only [serve, handle, zDns, hrecv]
    exact rejected_of_reply
  | zUfw =>
    apply iff_of_true _ trivial
    simp only [serve, handle, zUfw, hrecv]
    exact rejected_of_reply
  | proxyGet =>
    apply iff_of_true _ trivial
    simp only [serve, handle, proxyGet, hrecv]
    exact rejected_of_reply
  | closeAll => exact he.elim
  | proxyErr =>
    apply iff_of_false _ id
    simp only [serve, handle, proxyErr, hrecv]
    exact not_rejected_of_contract (proxyErr_replies d)
  | proxyNew => exact he.elim
  | proxyDel =>
    apply iff_of_false _ id
    simp only [serve, handle, proxyDel, hrecv]
    exact not_rejected_of_contract (proxyDel_replies d)

/-- A body that ends in the middle of a map. -/
def cutBody : Body := ⟨str "\x7b", none⟩

theorem rejected_iff_cut :
    Rejected {} (serve sampleOps quietWorld cutBody .zInfo {}) ∧
      Rejected {} (serve sampleOps quietWorld cutBody .proxyGet {}) := by
  have hrecv : recv quietWorld cutBody = (some [], some (.text (str "unexpected end of JSON input"))) := rfl
  constructor
  · exact (rejected_iff sampleOps {} hrecv (e := .zInfo) trivial).mpr (Option.some_ne_none _)
  · exact (rejected_iff sampleOps {} hrecv (e := .proxyGet) trivial).mpr trivial

/-- A body that cannot be read. -/
def lostBody : Body := ⟨[], some .unexpectedEof⟩

/-- `/proxy-err` makes a tunnel behind its first reply, `/proxy-del` panics, and `/z-info` replies twice to a body
that it cannot read. -/
theorem not_rejected :
    (¬Rejected {} (serve sampleOps quietWorld cutBody .proxyErr {}) ∧
      (serve sampleOps quietWorld cutBody .proxyErr {}).2.control.globals.tunnels.length = 1) ∧
    (¬Rejected {} (serve sampleOps quietWorld cutBody .proxyDel {}) ∧
      (serve sampleOps quietWorld cutBody .proxyDel {}).1 = none) ∧
    ¬Rejected {} (serve sampleOps quietWorld lostBody .zInfo {}) := by
  refine ⟨⟨fun h => ?_, rfl⟩, ⟨fun h => ?_, rfl⟩, fun h => ?_⟩
  · cases h.tunnels
  · cases h.returns
  · obtain ⟨_, hreplies, -⟩ := h.reply
    cases hreplies

end ProxyZ.Server
