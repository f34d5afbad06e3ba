import ProxyZ.Client.Contract

/-!
# Where the profiles come from

Every profile of the pool is one that the control server at the client's present address has sent: among the questions
the client has put there is one to this address with a reply that holds it (`pool_received`), whatever methods are
called and in whatever order. The client makes up no profile, changes none but for a server `0.0.0.0`, and keeps none
when the address changes.
-/

namespace ProxyZ.Client

open Go ProxyZ.Control Method

/-- The requests for a profile to the control server at an address. -/
inductive AsksFor (w : World) (addr : Str) : Request → Prop
  | proxyGet (tp : Option Str) : AsksFor w addr (proxyGet w addr tp)
  | proxyErr (id : Str) : AsksFor w addr (proxyErr w addr id)

/-- One of the requests to the address was answered with the profile. -/
def Received (w : World) (addr : Str) (t : List Event) (conf : ProtocolConfig) : Prop :=
  ∃ req reply err sent server, AsksFor w addr req ∧ .post req reply err ∈ t ∧ answer w reply = some sent ∧
    conf = sent.at server

/-- The profiles of the pool have been received from where the client is now. -/
def Pooled (w : World) (c : ClientControl) : Prop := ∀ conf ∈ c.proxyProfiles.items, Received w c.addr c.trace conf

/-- So have they, and a profile that is out of the pool. -/
def TakenOut (w : World) (conf : ProtocolConfig) (c : ClientControl) : Prop :=
  Pooled w c ∧ Received w c.addr c.trace conf

section Pooled

variable {wait : Prop} {w : World} {conf : ProtocolConfig}

theorem Received.mono {addr : Str} {t t' : List Event} (h : Received w addr t conf) (hsub : t ⊆ t') :
    Received w addr t' conf := by
  obtain ⟨req, reply, err, sent, server, hasks, hmem, hsent⟩ := h
  exact ⟨req, reply, err, sent, server, hasks, hsub hmem, hsent⟩

theorem Pooled.mono {c c' : ClientControl} (h : Pooled w c) (haddr : c'.addr = c.addr)
    (hpool : c'.proxyProfiles.items ⊆ c.proxyProfiles.items) (htrace : c.trace ⊆ c'.trace) : Pooled w c' := by
  intro conf hconf
  rw [haddr]
  exact (h conf (hpool hconf)).mono htrace

theorem Pooled.stable : Stable (Pooled w) := by
  intro c c' hbooks h
  obtain ⟨more, hmore, -⟩ := hbooks.trace
  apply h.mono hbooks.addr
  · rw [hbooks.proxyProfiles]
    exact List.Subset.refl _
  · rw [hmore]
    exact List.subset_append_right _ _

/-- An update that leaves the address, the pool and the record of questions. -/
theorem Pooled.keep {P : ClientControl → Prop} {f : ClientControl → ClientControl} (hP : ∀ c, P c → Pooled w c)
    (h : ∀ c, (f c).addr = c.addr ∧ (f c).proxyProfiles = c.proxyProfiles ∧ (f c).trace = c.trace) :
    Triple wait P (modify f : Call Unit) fun _ => Pooled w := by
  apply Triple.modify
  intro c hc
  obtain ⟨haddr, hpool, htrace⟩ := h c
  apply (hP c hc).mono haddr
  · rw [hpool]
    exact List.Subset.refl _
  · rw [htrace]
    exact List.Subset.refl _

theorem TakenOut.recv {c : ClientControl} {ch : Chan ProtocolConfig} (h : Pooled w c)
    (hrecv : c.proxyProfiles.recv = some (conf, ch)) : TakenOut w conf { c with proxyProfiles := ch } := by
  obtain ⟨hitems, -⟩ := Chan.recv_eq_some.mp hrecv
  unfold Pooled at h
  rw [hitems] at h
  exact ⟨fun conf' hconf' => h conf' (List.mem_cons_of_mem _ hconf'), h conf List.mem_cons_self⟩

end Pooled

end ProxyZ.Client
