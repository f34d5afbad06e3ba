import ProxyZ.Client.Slots

/-!
# Which profile a session belongs to

Errors are recorded under the ID that `ConnectRemote` returns, and `FixBuildSmux` rebuilds the slots whose
session answers with a given ID. A session gets its ID when it is built: a QUIC client keeps the ID of its
profile, and `NewSmuxClient` leaves its own out. So a session answers with the ID of its profile exactly if
it is a QUIC client or the profile has no ID (`Named`), and this is so in every reachable state
(`identity_iff`).
-/

namespace ProxyZ.Client

open Go ProxyZ.Control Method

/-- `ConnectRemote`: a second try where the first one fails, and an error recorded where that fails too. -/
def connectRemote (w : World) : Call Session := do
  let s ← getSession w
  if s.err.isSome then do
    let s ← getSession w
    (if s.err.isSome then errRecord s.id 2 else pure ())
    return s
  else return s

/-- The session answers with the ID of its profile. -/
def Named (e : SmuxClient) : Prop := e.conf.proxyType = str "quic" ∨ e.conf.id = []

/-- The session in the slot answers with the ID. -/
def answers (c : ClientControl) (errid : Str) (no : Nat) : Bool := (clientAt c no).any fun e => e.eid = errid

/-- The slots that `FixBuildSmux` rebuilds. -/
def fixSlots (c : ClientControl) (errid : Str) : List Nat :=
  (List.range c.smuxClients.length).filter (answers c errid)

/-- The slots whose session was built from a profile with the ID. -/
def builtFrom (c : ClientControl) (errid : Str) : List Nat :=
  (List.range c.smuxClients.length).filter fun no => (clientAt c no).any fun e => e.conf.id = errid

/-- A session as it was built answers with the ID of its profile if it is named. -/
theorem Faithful.eid_iff {e : SmuxClient} (h : Faithful e) : e.eid = e.conf.id ↔ Named e := by
  unfold Named
  rw [← h.quic, h.eid]
  cases e.quic
  · simp [eq_comm]
  · simp

/-! ### FixBuildSmux -/

/-- What `FixBuildSmux` does at a slot. -/
def visit (w : World) (errid : Str) (no : Nat) : Call Unit := do
  let c ← get
  match clientAt c no with
  | some e => if e.eid = errid then discard (rebuildSmux w no) else return ()
  | none => return ()

theorem visit_eq (w : World) (errid : Str) (no : Nat) (c : ClientControl) :
    visit w errid no c =
      if answers c errid no then (discard (rebuildSmux w no) : Call Unit) c else .ok ((), c) := by
  unfold answers
  show (match clientAt c no with
    | some e => if e.eid = errid then (discard (rebuildSmux w no) : Call Unit) else return ()
    | none => return ()) c = _
  cases clientAt c no with
  | none => rfl
  | some e =>
    by_cases h : e.eid = errid
    · simp [h]
    · simp only [h, if_false, Option.any_some, decide_false]
      rfl

/-- Rebuilding a slot leaves the other slots alone. -/
theorem rebuildSmux_others {w : World} {no : Nat} {c c' : ClientControl} (hc : Wired c)
    (h : (discard (rebuildSmux w no) : Call Unit) c = .ok ((), c')) :
    Wired c' ∧ ∀ k, k ≠ no → (clientAt c' k).map SmuxClient.opened = (clientAt c k).map SmuxClient.opened := by
  have hkeeps : Triple True (fun s => Wired s ∧ ∀ k, k ≠ no →
      (clientAt s k).map SmuxClient.opened = (clientAt c k).map SmuxClient.opened) (rebuildSmux w no) fun _ s =>
        Wired s ∧ ∀ k, k ≠ no → (clientAt s k).map SmuxClient.opened = (clientAt c k).map SmuxClient.opened := by
    apply Unmoved.rebuildSmux
    · rintro s s' hsame ⟨hwired, hothers⟩
      exact ⟨wired_contract.unmoved s s' hsame hwired, fun k hk => (hsame.clientAt k).trans (hothers k hk)⟩
    · rintro e s he ⟨hwired, hothers⟩
      refine ⟨wired_contract.install no e s he hwired, fun k hk => ?_⟩
      rw [clientAt_installed_ne hwired hk]
      exact hothers k hk
  exact hkeeps.discard.returns ⟨hc, fun _ _ => rfl⟩ h

theorem answers_congr {c c' : ClientControl} {no : Nat}
    (h : (clientAt c' no).map SmuxClient.opened = (clientAt c no).map SmuxClient.opened) (errid : Str) :
    answers c' errid no = answers c errid no := by
  have hany : ∀ o : Option SmuxClient, (o.any fun e => e.eid = errid) =
      (o.map SmuxClient.opened).any fun e => e.eid = errid := by
    intro o
    cases o <;> rfl
  unfold answers
  rw [hany, h, ← hany]

/-- The loop rebuilds the slots that answered with the ID at its start: a slot still to come has not changed. -/
theorem forM_visit {w : World} {errid : Str} {c : ClientControl} (l : List Nat) (hl : l.Nodup) (hc : Wired c) :
    l.forM (visit w errid) c =
      ((l.filter (answers c errid)).forM fun no => discard (rebuildSmux w no)) c := by
  induction l generalizing c with
  | nil => rfl
  | cons no rest ih =>
    obtain ⟨hno, hrest⟩ := List.nodup_cons.mp hl
    have hstep : (no :: rest).forM (visit w errid) c = (visit w errid no c >>= fun p => rest.forM (visit w errid) p.2) := rfl
    rw [hstep, visit_eq]
    by_cases hhit : answers c errid no = true
    · rw [List.filter_cons_of_pos hhit, if_pos hhit]
      show _ = ((discard (rebuildSmux w no) : Call Unit) c >>= fun p => _)
      rcases hcall : (discard (rebuildSmux w no) : Call Unit) c with stop | ⟨⟨⟩, c'⟩
      · rfl
      · obtain ⟨hc', hothers⟩ := rebuildSmux_others hc hcall
        have hsame : rest.filter (answers c' errid) = rest.filter (answers c errid) := by
          apply List.filter_congr
          intro k hk
          exact answers_congr (hothers k fun heq => hno (heq ▸ hk)) errid
        exact (ih hrest hc').trans (by rw [hsame]; rfl)
    · rw [List.filter_cons_of_neg hhit, if_neg hhit]
      exact ih hrest hc

theorem fixBuildSmux_eq {w : World} {c : ClientControl} (hc : Wired c) (errid : Str) :
    fixBuildSmux w errid c = ((fixSlots c errid).forM fun no => discard (rebuildSmux w no)) c :=
  forM_visit (List.range c.smuxClients.length) List.nodup_range hc

/-! ### ConnectRemote -/

section Session

variable {w : World} {no i : Nat}

/-- The slot holds the session `i`. -/
def Holds (no i : Nat) (c : ClientControl) : Prop := c.smuxClients[no]? = some (some i) ∧ i < c.built.length

def Closed (i : Nat) (c : ClientControl) : Prop := ∀ e, c.built[i]? = some e → e.closed = true

theorem holds_unmoved : Unmoved (Holds no i) := by
  rintro c c' hsame ⟨hslot, hbuilt⟩
  exact ⟨by rw [hsame.smuxClients]; exact hslot, by rw [hsame.length]; exact hbuilt⟩

/-- A closed session does not open another connection. -/
theorem newConnnect_closed : Triple True (Closed i) (newConnnect w i) fun err _ => err ≠ none := by
  apply Triple.get
  intro c hc
  rcases hbuilt : c.built[i]? with _ | e
  · exact Triple.panic
  have hclosed := hc e hbuilt
  refine Triple.ite (fun _ => ?_) fun _ => ?_
  · refine Triple.ite (fun _ => Triple.pure fun _ _ => nofun) fun h => absurd hclosed h
  · refine Triple.get fun c' _ => Triple.bind (Q := fun _ _ => True) (Triple.modify fun _ _ => trivial) fun _ => ?_
    exact Triple.ite (fun _ => Triple.pure fun _ _ => nofun) fun h => absurd (Or.inl hclosed) h

theorem closeSlot_closes : Triple True (Holds no i) (closeSlot no) fun _ c => Holds no i c ∧ Closed i c := by
  apply Triple.get
  rintro c ⟨hslot, hi⟩
  rw [hslot]
  apply Triple.modify
  intro s hs
  rw [hs]
  refine ⟨⟨hslot, by rw [List.length_modify]; exact hi⟩, fun e he => ?_⟩
  rw [List.getElem?_modify_eq] at he
  obtain ⟨e₀, -, rfl⟩ := Option.map_eq_some_iff.mp he
  rfl

theorem setSlot_closed (e : SmuxClient) :
    Triple True (fun c => Holds no i c ∧ Closed i c) (setSlot no e) fun _ => Closed i := by
  apply Triple.modify
  rintro c ⟨hholds, hclosed⟩ e' he'
  apply hclosed
  rwa [List.getElem?_append_left hholds.2] at he'

theorem dial_closed (conf : ProtocolConfig) : Triple True (fun c => Holds no i c ∧ Closed i c) (dial w conf)
    fun _ c => Holds no i c ∧ Closed i c := by
  apply Triple.get
  intro c hc
  refine Triple.bind (Q := fun _ c => Holds no i c ∧ Closed i c) ?_ fun _ => Triple.pure fun _ h => h
  exact Triple.modify fun s hs => hs ▸ hc

/-- A successful rebuild ends with `setSlot`, with the session the slot held closed. -/
theorem rebuildSmux_installs {R : ProtocolConfig → ClientControl → Prop} (hset : ∀ e : SmuxClient, e.closed = false →
    Triple True (fun c => Holds no i c ∧ Closed i c) (setSlot no e) fun _ => R e.conf) :
    Triple True (Holds no i) (rebuildSmux w no) fun r c => r.1 = none → ∃ conf, r.2 = some conf ∧ R conf c := by
  apply Triple.bind (holds_unmoved.getAviableProxy _)
  intro conf
  cases conf with
  | none => exact Triple.pure fun _ _ => nofun
  | some conf =>
    apply Triple.bind (holds_unmoved.pushProfile conf)
    intro _
    refine Triple.bind (Q := fun err c => err = none → R conf c) ?_ fun _ =>
      Triple.pure fun _ h hnone => ⟨conf, rfl, h hnone⟩
    refine Triple.ite (fun _ => ?_) fun _ => ?_
    · refine Triple.bind closeSlot_closes fun _ => Triple.bind (dial_closed conf) fun err => ?_
      cases err with
      | some e => exact Triple.pure fun _ _ => nofun
      | none => exact Triple.bind (hset _ rfl) fun _ => Triple.pure fun _ h _ => h
    · apply Triple.bind (holds_unmoved.flags.dial conf)
      intro err
      cases err with
      | some e => exact Triple.pure fun _ _ => nofun
      | none =>
        exact Triple.bind closeSlot_closes fun _ => Triple.bind (hset _ rfl) fun _ => Triple.pure fun _ h _ => h

/-- A rebuilt slot has closed the session it held. -/
theorem rebuildSmux_closes :
    Triple True (Holds no i) (rebuildSmux w no) fun r c => r.1 = none → Closed i c :=
  (rebuildSmux_installs fun e _ => setSlot_closed e).post fun _ _ h hnone => (h hnone).elim fun _ h => h.2

/-- What a successful call leaves: the slot in use holds a session, and its ID was returned. -/
def Identified (s : Session) (c : ClientControl) : Prop :=
  s.err = none → ∃ e, clientAt c c.lastUse.toNat = some e ∧ s.id = e.eid

/-- The client works on the slot `no`. -/
def Serving (no : Nat) (c : ClientControl) : Prop := Wired c ∧ c.lastUse.toNat = no

theorem serving_unmoved : Unmoved (Serving no) := by
  rintro c c' hsame ⟨hc, hno⟩
  exact ⟨wired_contract.unmoved c c' hsame hc, by rw [hsame.lastUse]; exact hno⟩

theorem openSession_identified {c : ClientControl} {id proxyType : Str} (hc : Serving no c)
    (hslot : c.smuxClients[no]? = some (some i)) (hid : ∀ e, clientAt c no = some e → e.eid = [] → id = []) :
    Triple True (fun s => s = c) (openSession w no i id proxyType) Identified := by
  have hi : i < c.built.length := hc.1.pointers i (List.mem_of_getElem? hslot)
  have hclient : clientAt c no = c.built[i]? := by
    unfold clientAt
    rw [hslot]
    rfl
  have hsame : Unmoved (SameClients c) := fun c₁ c₂ h₂ h₁ => h₁.trans h₂
  apply Triple.get
  intro s hs
  rw [hs]
  rcases hbuilt : c.built[i]? with _ | e
  · exact Triple.panic
  rw [hbuilt] at hclient
  apply Triple.bind ((hsame.flags.isClosed e).of_state (SameClients.refl c))
  intro closed
  refine Triple.ite (fun _ => ?_) fun _ => ?_
  · -- the session that is asked is the old one, which the rebuild has closed
    refine Triple.bind ((rebuildSmux_closes (i := i)).pre fun s hs => ?_) fun (err, conf) => ?_
    · exact holds_unmoved c s hs ⟨hslot, hi⟩
    cases err with
    | some err => exact Triple.pure fun _ _ => nofun
    | none =>
      refine Triple.bind (newConnnect_closed.pre fun s hs => hs rfl) fun err => Triple.pure fun s hs hnone => ?_
      cases err with
      | none => exact absurd rfl hs
      | some err => cases hnone
  · refine Triple.bind (hsame.flags.newConnnect i) fun err => Triple.pure fun s hs _ => ?_
    have hopened := hs.clientAt no
    rw [hclient] at hopened
    obtain ⟨e', he', heq⟩ := Option.map_eq_some_iff.mp hopened
    have heid : e'.opened.eid = e.opened.eid := by rw [heq]
    refine ⟨e', ?_, ?_⟩
    · rw [hs.lastUse, hc.2]
      exact he'
    · show (if e.eid = [] then id else e.eid) = e'.opened.eid
      rw [heid]
      split_ifs with hempty
      · exact (hid e hclient hempty).trans hempty.symm
      · rfl

theorem rebuildSmux_serving : Triple True (Serving no) (rebuildSmux w no) fun _ => Serving no :=
  serving_unmoved.rebuildSmux fun e c he hc => ⟨wired_contract.install no e c he hc.1, hc.2⟩

/-- A slot that was built is returned with its session's ID. -/
theorem buildSlot_identified (tries : Nat) (id proxyType : Str) :
    Triple True (Serving no) (buildSlot w no tries id proxyType) fun r c =>
      Serving no c ∧ (r.1 = none → ∀ e, clientAt c no = some e → r.2.1 = e.eid) := by
  induction tries generalizing id proxyType with
  | zero => exact Triple.pure fun _ hs => ⟨hs, nofun⟩
  | succ tries ih =>
    refine Triple.bind rebuildSmux_serving fun (err, conf) => ?_
    cases err with
    | none =>
      refine Triple.get fun c hc => Triple.pure fun s hs => ?_
      rw [hs]
      refine ⟨hc, fun _ e he => ?_⟩
      show (Option.map _ (clientAt c no)).getD _ = _
      rw [he]
      rfl
    | some err => exact Triple.ite (fun _ => Triple.pure fun _ hs => ⟨hs, nofun⟩) fun _ => ih _ _

theorem getSession_identified : Triple True Wired (getSession w) Identified := by
  refine Triple.get fun c hc => Triple.ite (fun _ => Triple.panic) fun hnum => ?_
  refine Triple.bind (Q := fun _ => Wired) (Triple.modify ?_) fun _ => ?_
  · intro s hs
    rw [hs]
    exact wired_contract.use c hnum hc
  apply Triple.get
  intro c hc
  have hserving : Serving c.lastUse.toNat c := ⟨hc, rfl⟩
  dsimp only
  rcases hslot : c.smuxClients[c.lastUse.toNat]? with _ | _ | i
  · exact Triple.panic
  · refine Triple.bind ((buildSlot_identified 2 [] []).of_state hserving) fun (err, id, proxyType) => ?_
    cases err with
    | some err => exact Triple.pure fun _ _ => nofun
    | none =>
      apply Triple.get
      rintro c' ⟨hserving', hid⟩
      rcases hslot' : c'.smuxClients[c.lastUse.toNat]? with _ | _ | i
      · exact Triple.pure fun _ _ => nofun
      · exact Triple.pure fun _ _ => nofun
      · exact openSession_identified hserving' hslot' fun e he hempty => (hid rfl e he).trans hempty
  · exact openSession_identified hserving hslot fun _ _ _ => rfl

theorem connectRemote_wired : Triple True Wired (connectRemote w) fun _ => Wired := by
  refine Triple.bind wired_contract.sessions.getSession fun s => ?_
  refine Triple.ite (fun _ => ?_) fun _ => Triple.pure fun _ hs => hs
  refine Triple.bind wired_contract.sessions.getSession fun s => ?_
  refine Triple.bind (Q := fun _ => Wired) ?_ fun _ => Triple.pure fun _ hs => hs
  exact Triple.ite (fun _ => wired_contract.unmoved.modify fun _ => ⟨rfl, rfl, rfl, rfl⟩) fun _ =>
    Triple.pure fun _ hs => hs

theorem connectRemote_identified : Triple True Wired (connectRemote w) Identified := by
  refine Triple.bind (getSession_identified.and wired_contract.sessions.getSession) fun s => ?_
  refine Triple.ite (fun _ => ?_) fun _ => Triple.pure fun _ hs => hs.1
  refine Triple.bind (getSession_identified.pre fun _ hs => hs.2) fun s => ?_
  refine Triple.bind (Q := fun _ => Identified s) ?_ fun _ => Triple.pure fun _ hs => hs
  refine Triple.ite (fun herr => Triple.modify fun c _ hnone => ?_) fun _ => Triple.pure fun _ hs => hs
  rw [hnone] at herr
  cases herr

end Session

/-! ### Attribution -/

/-- The condition for one ID: no slot answers with it that was built from another profile, and the other way
round. -/
theorem Faithful.answers_iff {e : SmuxClient} (he : Faithful e) (errid : Str) :
    (e.eid = errid ↔ e.conf.id = errid) ↔ Named e ∨ (errid ≠ [] ∧ e.conf.id ≠ errid) := by
  by_cases hnamed : Named e
  · rw [he.eid_iff.mpr hnamed]
    exact iff_of_true Iff.rfl (Or.inl hnamed)
  · have hid : e.conf.id ≠ [] := fun h => hnamed (Or.inr h)
    have heid : e.eid = [] := by
      rw [he.eid, if_neg]
      exact fun h => hnamed (Or.inl (he.quic.mp h))
    rw [heid, or_iff_right hnamed]
    by_cases herrid : errid = []
    · simp [herrid, hid]
    · simp [herrid, Ne.symm herrid]

theorem fixSlots_eq_iff {c : ClientControl} (hc : Wired c) (errid : Str) :
    fixSlots c errid = builtFrom c errid ↔
      ∀ no e, clientAt c no = some e → Named e ∨ (errid ≠ [] ∧ e.conf.id ≠ errid) := by
  have hslot : ∀ no e, clientAt c no = some e → no ∈ List.range c.smuxClients.length := by
    intro no e he
    obtain ⟨i, hi, -⟩ := Option.bind_eq_some_iff.mp he
    obtain ⟨hlt, -⟩ := List.getElem?_eq_some_iff.mp (Option.join_eq_some_iff.mp hi)
    exact List.mem_range.mpr hlt
  constructor
  · intro heq no e he
    have hmem : no ∈ fixSlots c errid ↔ no ∈ builtFrom c errid := by rw [heq]
    unfold fixSlots builtFrom answers at hmem
    rw [List.mem_filter, List.mem_filter, he] at hmem
    exact ((hc.clientAt he).answers_iff errid).mp (by simpa [hslot no e he] using hmem)
  · intro hall
    apply List.filter_congr
    intro no _
    unfold answers
    rcases he : clientAt c no with _ | e
    · rfl
    · have hiff := ((hc.clientAt he).answers_iff errid).mpr (hall no e he)
      simp only [Option.any_some, decide_eq_decide]
      exact hiff

/-- **A session answers with its profile's ID, `ConnectRemote` returns it and `FixBuildSmux` finds it by it,
exactly if it is a QUIC client or the profile has no ID.** -/
theorem identity_iff {w : World} {c : ClientControl} (h : Reachable w c) :
    (∀ no e, clientAt c no = some e → (e.eid = e.conf.id ↔ Named e)) ∧
      (∀ s c', connectRemote w c = .ok (s, c') → s.err = none →
        ∃ e, clientAt c' c'.lastUse.toNat = some e ∧ (s.id = e.conf.id ↔ Named e)) ∧
      ∀ errid, fixBuildSmux w errid c = ((fixSlots c errid).forM fun no => discard (rebuildSmux w no)) c ∧
        (fixSlots c errid = builtFrom c errid ↔
          ∀ no e, clientAt c no = some e → Named e ∨ (errid ≠ [] ∧ e.conf.id ≠ errid)) := by
  have hc := h.wired
  refine ⟨fun no e he => (hc.clientAt he).eid_iff, fun s c' hcall herr => ?_, fun errid => ?_⟩
  · obtain ⟨hidentified, hwired⟩ := (connectRemote_identified.and connectRemote_wired).returns hc hcall
    obtain ⟨e, he, hid⟩ := hidentified herr
    refine ⟨e, he, ?_⟩
    rw [hid]
    exact (hwired.clientAt he).eid_iff
  · exact ⟨fixBuildSmux_eq hc errid, fixSlots_eq_iff hc errid⟩

/-- A client with one tunnel, built from the profile `a` of type tls. -/
def oneBuilt : ClientControl := after handsOut (.rebuildSmux 0) (newClientControll handsOut sampleAddr 1 false)

theorem reachable_oneBuilt : Reachable handsOut oneBuilt := by
  have hcall : Completes handsOut (newClientControll handsOut sampleAddr 1 false) (.rebuildSmux 0) oneBuilt := ⟨0, rfl⟩
  exact .call (.fresh sampleAddr 1 false) hcall

theorem identity_iff_oneBuilt :
    fixSlots oneBuilt (str "b") = builtFrom oneBuilt (str "b") ∧
      ∀ e, clientAt oneBuilt 0 = some e → (e.eid = e.conf.id ↔ Named e) := by
  obtain ⟨hid, -, hfix⟩ := identity_iff reachable_oneBuilt
  refine ⟨(hfix (str "b")).2.mpr fun no e he => Or.inr ?_, hid 0⟩
  cases no with
  | zero =>
    cases he
    decide
  | succ no => cases he

/-- Its session has no ID, so errors go to the empty ID, and `FixBuildSmux` does not find the slot. -/
theorem not_attributed_oneBuilt :
    (∃ e, clientAt oneBuilt 0 = some e ∧ e.conf.id = str "a" ∧ e.conf.proxyType = str "tls" ∧ e.eid = []) ∧
      (∃ s c', connectRemote handsOut oneBuilt = .ok (s, c') ∧ s.err = none ∧ s.id = []) ∧
      fixSlots oneBuilt (str "a") = [] ∧ builtFrom oneBuilt (str "a") = [0] :=
  ⟨⟨_, rfl, rfl, rfl, rfl⟩, ⟨_, _, rfl, rfl, rfl⟩, by decide, by decide⟩

end ProxyZ.Client
