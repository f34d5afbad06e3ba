import ProxyZ.Client.Identity

/-!
# A closed session in the slot

Where the slot `GetSession` has chosen holds a closed session, the slot is rebuilt. The rebuild closes the
session that was in the slot and puts another one there (`rebuildSmux_renews`). `GetSession` then asks the
session it had read from the slot before, which opens no connection any more. So with a successful rebuild it
returns the ID and the type of the new profile, and an error (`getSession_never_reopens`); the new session
serves when the slot's turn comes again.
-/

namespace ProxyZ.Client

open Go ProxyZ.Control Method

/-- The client once `GetSession` has moved on to the next slot. -/
def moved (c : ClientControl) : ClientControl := { c with lastUse := (c.lastUse + 1).tmod c.clientNum }

/-- The slot `GetSession` chooses. -/
def chosen (c : ClientControl) : Nat := (moved c).lastUse.toNat

/-- The slot `GetSession` chooses holds a closed session, and the rebuild of the slot succeeds: it brings the
profile `conf` and ends in `c'`. -/
structure Revives (w : World) (c : ClientControl) (conf : ProtocolConfig) (c' : ClientControl) : Prop where
  clientNum : c.clientNum ≠ 0
  closed : ∃ e c₀, clientAt c (chosen c) = some e ∧ isClosed w e (moved c) = .ok (true, c₀) ∧
    rebuildSmux w (chosen c) c₀ = .ok ((none, some conf), c')

/-- `GetSession` returns a connection opened on the session that the rebuild has put into the slot, and the ID
and the type of its profile. -/
def OpensRebuilt (w : World) (c c' : ClientControl) : Prop :=
  ∃ i e s c'', c'.smuxClients[chosen c]? = some (some i) ∧ c'.built[i]? = some e ∧
    newConnnect w i c' = .ok (none, c'') ∧ getSession w c = .ok (s, c'') ∧
    s.err = none ∧ s.id = e.conf.id ∧ s.proxyType = e.conf.proxyType

section Reopen

variable {w : World} {no i : Nat}

/-- The session `i` is closed, and the slot holds an open session of the profile. -/
structure Renewed (no i : Nat) (conf : ProtocolConfig) (c : ClientControl) : Prop where
  old : ∃ e, c.built[i]? = some e ∧ e.closed = true
  new : ∃ e, clientAt c no = some e ∧ e.conf = conf ∧ e.closed = false

theorem setSlot_renews (e : SmuxClient) (hopen : e.closed = false) :
    Triple True (fun c => Holds no i c ∧ Closed i c) (setSlot no e) fun _ => Renewed no i e.conf := by
  apply Triple.modify
  rintro c ⟨⟨hslot, hi⟩, hclosed⟩
  obtain ⟨hno, -⟩ := List.getElem?_eq_some_iff.mp hslot
  refine ⟨⟨c.built[i], ?_, hclosed _ (List.getElem?_eq_getElem hi)⟩, e, ?_, rfl, hopen⟩
  · show (c.built ++ [e])[i]? = _
    rw [List.getElem?_append_left hi, List.getElem?_eq_getElem hi]
  · unfold clientAt
    dsimp only
    rw [List.getElem?_set_self hno]
    show (c.built ++ [e])[c.built.length]? = _
    rw [List.getElem?_append_right le_rfl, Nat.sub_self]
    rfl

/-- What a successful rebuild does to its slot. -/
theorem rebuildSmux_renews :
    Triple True (Holds no i) (rebuildSmux w no) fun r c =>
      r.1 = none → ∃ conf, r.2 = some conf ∧ Renewed no i conf c :=
  rebuildSmux_installs fun e hopen => setSlot_renews e hopen

/-- A closed session answers with an error. -/
theorem newConnnect_fails {c : ClientControl} (h : ∃ e, c.built[i]? = some e ∧ e.closed = true) :
    ∃ err c', newConnnect w i c = .ok (some err, c') := by
  obtain ⟨e, he, hclosed⟩ := h
  have hcall : newConnnect w i c = (if e.quic then quicConnect w i e else smuxConnect w i e) c := by
    unfold newConnnect
    rw [get_bind_apply, he]
  rw [hcall]
  split_ifs
  · refine ⟨.text (str "dia quic err"), c, ?_⟩
    rw [quicConnect, if_pos hclosed]
    rfl
  · refine ⟨.text (str "session closed"), { c with trace := .isClosed :: c.trace }, ?_⟩
    unfold smuxConnect
    rw [get_bind_apply, if_pos (Or.inl hclosed)]
    rfl

theorem getSession_eq {c : ClientControl} (hnum : c.clientNum ≠ 0)
    (hslot : c.smuxClients[chosen c]? = some (some i)) :
    getSession w c = openSession w (chosen c) i [] [] (moved c) := by
  have hslot' : c.smuxClients[((c.lastUse + 1).tmod c.clientNum).toNat]? = some (some i) := hslot
  unfold getSession
  rw [get_bind_apply, if_neg hnum, modify_bind_apply, get_bind_apply]
  dsimp only
  rw [hslot']
  rfl

theorem openSession_rebuilds {c c₀ c' : ClientControl} {e : SmuxClient} {conf : ProtocolConfig} (id proxyType : Str)
    (he : c.built[i]? = some e) (hclosed : isClosed w e c = .ok (true, c₀))
    (hrebuild : rebuildSmux w no c₀ = .ok ((none, some conf), c')) :
    openSession w no i id proxyType c =
      (newConnnect w i >>= fun err =>
        pure { err := err.map .inl, id := conf.id, proxyType := conf.proxyType }) c' := by
  unfold openSession
  rw [get_bind_apply, he]
  dsimp only
  rw [bind_apply_ok _ hclosed, if_pos rfl, bind_apply_ok _ hrebuild]
  rfl

/-- **With a successful rebuild of a closed session `GetSession` returns an error, beside the ID and the type of
the new profile: no connection is opened on the session now in the slot.** -/
theorem getSession_never_reopens {c c' : ClientControl} {conf : ProtocolConfig} (h : Revives w c conf c') :
    ¬OpensRebuilt w c c' ∧ (∃ e, clientAt c' (chosen c) = some e ∧ e.conf = conf ∧ e.closed = false) ∧
      ∃ err c'', getSession w c = .ok ({ err := some (.inl err), id := conf.id, proxyType := conf.proxyType }, c'') := by
  obtain ⟨e, c₀, hclient, hclosed, hrebuild⟩ := h.closed
  obtain ⟨i, hslot, he⟩ := Option.bind_eq_some_iff.mp hclient
  rw [Option.join_eq_some_iff] at hslot
  have hbuilt : (moved c).built[i]? = some e := he
  have hholds : Holds (chosen c) i (moved c) := ⟨hslot, (List.getElem?_eq_some_iff.mp he).1⟩
  have hholds₀ : Holds (chosen c) i c₀ := (holds_unmoved.flags.isClosed e).returns hholds hclosed
  obtain ⟨conf', hconf, hrenewed⟩ := rebuildSmux_renews.returns hholds₀ hrebuild rfl
  cases hconf
  obtain ⟨err, c'', hfails⟩ := newConnnect_fails (w := w) hrenewed.old
  have hcall : getSession w c =
      .ok ({ err := some (.inl err), id := conf.id, proxyType := conf.proxyType }, c'') := by
    rw [getSession_eq h.clientNum hslot, openSession_rebuilds [] [] hbuilt hclosed hrebuild, bind_apply_ok _ hfails]
    rfl
  refine ⟨?_, hrenewed.new, err, c'', hcall⟩
  rintro ⟨i', e', s, s', -, -, -, hreturned, hnone, -⟩
  rw [hcall] at hreturned
  cases hreturned
  cases hnone

/-- The session of `oneBuilt` breaks before it is used. -/
def breaks : World := { handsOut with isClosed := fun n => n = 2 }

/-- The client while it rebuilds the slot. -/
def rebuiltOne : ClientControl :=
  after breaks (.rebuildSmux 0) { moved oneBuilt with trace := .isClosed :: oneBuilt.trace }

theorem revives_oneBuilt : Revives breaks oneBuilt ⟨str "a", .str (str "192.0.2.7"), str "tls", 0⟩ rebuiltOne where
  clientNum := by decide
  closed := ⟨_, _, rfl, rfl, rfl⟩

theorem getSession_never_reopens_oneBuilt :
    ∃ err c', getSession breaks oneBuilt = .ok ({ err := some (.inl err), id := str "a", proxyType := str "tls" }, c') :=
  (getSession_never_reopens revives_oneBuilt).2.2

/-- The session just built is open, and `GetSession` reports a closed one. -/
theorem not_opensRebuilt_oneBuilt : Reachable breaks oneBuilt ∧
    (∃ conf c', Revives breaks oneBuilt conf c' ∧ ¬OpensRebuilt breaks oneBuilt c') := by
  have hcall : Completes breaks (newClientControll breaks sampleAddr 1 false) (.rebuildSmux 0) oneBuilt := ⟨0, rfl⟩
  refine ⟨.call (.fresh sampleAddr 1 false) hcall, _, _, revives_oneBuilt, ?_⟩
  rintro ⟨i, e, s, c'', -, -, -, hreturned, hnone, -⟩
  have herr : s.err = some (.inl (.text (str "session closed"))) := by
    cases hreturned
    rfl
  rw [herr] at hnone
  cases hnone

end Reopen

end ProxyZ.Client
