import ProxyZ.Client.Contract

/-!
# The slots

Most methods leave the sessions alone but for their `closed` flags (`SameClients`). An invariant of the
sessions is kept by all of them once it is kept by the three updates that are left: installing a session,
dropping a slot and moving `lastUse` on. That is a `SlotContract`, and such an invariant holds in every
reachable state (`SlotContract.reachable`): the slots hold sessions that were built, each as its constructor
left it (`Wired`).
-/

namespace ProxyZ.Client

open Go ProxyZ.Control Method

/-- The states of a client between its calls. -/
inductive Reachable (w : World) : ClientControl → Prop
  | fresh (addr : Str) (channelNum : Nat) (getNewRoute : Bool) :
      Reachable w (newClientControll w addr channelNum getNewRoute)
  | init {c : ClientControl} : Reachable w c → Reachable w (init c)
  | call {c c' : ClientControl} {op : Op} : Reachable w c → Completes w c op c' → Reachable w c'

/-- The session in a slot. -/
def clientAt (c : ClientControl) (no : Nat) : Option SmuxClient := (c.smuxClients[no]?).join.bind (c.built[·]?)

/-! ### Methods that leave the sessions alone -/

/-- A session without its flag. -/
def SmuxClient.opened (e : SmuxClient) : SmuxClient := { e with closed := false }

/-- `c'` has the sessions of `c` in the same slots. Some may have been closed. -/
structure SameClients (c c' : ClientControl) : Prop where
  clientNum : c'.clientNum = c.clientNum
  lastUse : c'.lastUse = c.lastUse
  smuxClients : c'.smuxClients = c.smuxClients
  built : c'.built.map SmuxClient.opened = c.built.map SmuxClient.opened

theorem SameClients.refl (c : ClientControl) : SameClients c c := ⟨rfl, rfl, rfl, rfl⟩

theorem SameClients.trans {c c' c'' : ClientControl} (h : SameClients c c') (h' : SameClients c' c'') :
    SameClients c c'' :=
  ⟨h'.clientNum.trans h.clientNum, h'.lastUse.trans h.lastUse, h'.smuxClients.trans h.smuxClients,
    h'.built.trans h.built⟩

theorem SameClients.getElem {c c' : ClientControl} (h : SameClients c c') {i : Nat} {e : SmuxClient}
    (he : c'.built[i]? = some e) : ∃ e₀, c.built[i]? = some e₀ ∧ e.opened = e₀.opened := by
  have hmap : (c'.built[i]?).map SmuxClient.opened = (c.built[i]?).map SmuxClient.opened := by
    rw [← List.getElem?_map, ← List.getElem?_map, h.built]
  rw [he] at hmap
  obtain ⟨e₀, he₀, hopened⟩ := Option.map_eq_some_iff.mp hmap.symm
  exact ⟨e₀, he₀, hopened.symm⟩

theorem SameClients.length {c c' : ClientControl} (h : SameClients c c') : c'.built.length = c.built.length := by
  have := congrArg List.length h.built
  rwa [List.length_map, List.length_map] at this

theorem SameClients.clientAt {c c' : ClientControl} (h : SameClients c c') (no : Nat) :
    (clientAt c' no).map SmuxClient.opened = (clientAt c no).map SmuxClient.opened := by
  unfold Client.clientAt
  rw [h.smuxClients]
  cases (c.smuxClients[no]?).join with
  | none => rfl
  | some i =>
    show (c'.built[i]?).map _ = (c.built[i]?).map _
    rw [← List.getElem?_map, ← List.getElem?_map, h.built]

/-- An invariant of the sessions. -/
def Unmoved (I : ClientControl → Prop) : Prop := ∀ c c', SameClients c c' → I c → I c'

/-- The client with a session just built. -/
def installed (no : Nat) (e : SmuxClient) (c : ClientControl) : ClientControl :=
  { c with smuxClients := c.smuxClients.set no (some c.built.length), built := c.built ++ [e] }

namespace Unmoved

variable {I : ClientControl → Prop} {w : World}

/-- An update that does not touch the sessions. -/
theorem modify (hI : Unmoved I) {f : ClientControl → ClientControl} (hf : ∀ c, SameClients c (f c)) :
    Triple True I (modifyThe ClientControl f : Call Unit) fun _ => I :=
  Triple.modify fun c hc => hI c _ (hf c) hc

theorem emit (hI : Unmoved I) (e : Event) : Triple True I (emit e) fun _ => I :=
  hI.modify fun _ => ⟨rfl, rfl, rfl, rfl⟩

theorem flags (hI : Unmoved I) : FlagContract True I where
  emit e _ := hI.emit e
  setClosed i closed := by
    apply hI.modify
    intro c
    refine ⟨rfl, rfl, rfl, List.ext_getElem? fun j => ?_⟩
    rw [List.getElem?_map, List.getElem?_map, List.getElem?_modify]
    by_cases h : i = j <;> cases c.built[j]? <;> simp [h, SmuxClient.opened]

theorem pushProfile (hI : Unmoved I) (conf : ProtocolConfig) : Triple True I (pushProfile conf) fun _ => I := by
  apply Triple.get
  intro c hc
  rcases c.proxyProfiles.send conf with _ | ch
  · exact Triple.waiting fun _ _ => trivial
  · exact Triple.modify fun s hs => hs ▸ hI c _ ⟨rfl, rfl, rfl, rfl⟩ hc

theorem getAviableProxy (hI : Unmoved I) (tp : Option Str) : Triple True I (getAviableProxy w tp) fun _ => I := by
  refine Triple.for_each fun c hc => ((getAviableProxy_spec tp c).mono fun _ => trivial).post ?_
  intro r s hobtained
  cases hobtained <;> exact hI c _ ⟨rfl, rfl, rfl, rfl⟩ hc

theorem askReplacement (hI : Unmoved I) (id : Str) : Triple True I (askReplacement w id) fun _ => I := by
  refine Triple.for_each fun c hc => (askReplacement_spec id c).post ?_
  intro r s hasked
  cases hasked <;> exact hI c _ ⟨rfl, rfl, rfl, rfl⟩ hc

theorem rangeErrorid (hI : Unmoved I) : Triple True I (rangeErrorid w) fun _ => I := by
  refine Triple.for_each fun c hc => (rangeErrorid_spec c).post fun entries s hs => ?_
  rw [hs.2]
  exact hI c _ ⟨rfl, rfl, rfl, rfl⟩ hc

end Unmoved

/-! ### Methods that move the sessions -/

/-- What the updates of the sessions do to an invariant. -/
structure SlotContract (I : ClientControl → Prop) : Prop where
  unmoved : Unmoved I
  install : ∀ no e c, Faithful e → I c → I (installed no e c)
  drop : ∀ no c, I c → I { c with smuxClients := c.smuxClients.set no none }
  use : ∀ c, c.clientNum ≠ 0 → I c → I { c with lastUse := (c.lastUse + 1).tmod c.clientNum }

section Rebuild

variable {I : ClientControl → Prop} {w : World} {no : Nat}

/-- A session is installed in its own slot only, so an invariant has to bear that alone. -/
theorem Unmoved.rebuildSmux (hI : Unmoved I) (hinstall : ∀ e c, Faithful e → I c → I (installed no e c)) :
    Triple True I (rebuildSmux w no) fun _ => I := by
  have hset : ∀ e, Faithful e → Triple True I (setSlot no e) fun _ => I := by
    intro e he
    exact Triple.modify fun c hc => hinstall e c he hc
  apply Triple.bind (hI.getAviableProxy _)
  intro conf
  cases conf with
  | none => exact Triple.pure fun _ h => h
  | some conf =>
    exact Triple.bind (hI.pushProfile conf) fun _ => Triple.bind (hI.flags.connect hset conf) fun _ =>
      Triple.pure fun _ h => h

end Rebuild

namespace SlotContract

variable {I : ClientControl → Prop} {w : World}

theorem rebuildSmux (hI : SlotContract I) (no : Nat) : Triple True I (rebuildSmux w no) fun _ => I :=
  hI.unmoved.rebuildSmux (hI.install no)

theorem sessions (hI : SlotContract I) : SessionContract True w I where
  rebuildSmux := hI.rebuildSmux
  isClosed := hI.unmoved.flags.isClosed
  newConnnect := hI.unmoved.flags.newConnnect
  goroutines := hI.unmoved.emit .goroutines
  use := hI.use
  inited c _ hc := hI.unmoved c _ ⟨rfl, rfl, rfl, rfl⟩ hc

theorem dropSlot (hI : SlotContract I) (no : Nat) : Triple True I (dropSlot no) fun _ => I :=
  Triple.bind (hI.unmoved.flags.closeSlot no) fun _ => Triple.modify fun c hc => hI.drop no c hc

theorem errSoGetNew (hI : SlotContract I) (id : Str) (errnum : Int) :
    Triple True I (errSoGetNew w id errnum) fun _ => I := by
  refine Triple.bind (hI.unmoved.emit _) fun _ => Triple.ite (fun _ => Triple.pure fun _ h => h) fun _ => ?_
  apply Triple.bind (hI.unmoved.askReplacement id)
  intro conf
  cases conf with
  | none => exact Triple.pure fun _ h => h
  | some conf =>
    refine Triple.bind (hI.unmoved.pushProfile conf) fun _ => Triple.bind ?_ fun _ => hI.sessions.fixBuildSmux id
    exact hI.unmoved.modify fun _ => ⟨rfl, rfl, rfl, rfl⟩

theorem reportLoop (hI : SlotContract I) (ids : List Str) (fuel left : Nat) :
    Triple True I (reportLoop w ids fuel left) fun _ => I := by
  induction fuel generalizing left with
  | zero =>
    cases left with
    | zero => exact Triple.pure fun _ h => h
    | succ left => exact Triple.waiting fun _ _ => trivial
  | succ fuel ih =>
    cases left with
    | zero => exact Triple.pure fun _ h => h
    | succ left =>
      apply Triple.get
      intro c hc
      rcases c.proxyProfiles.recv with _ | ⟨conf, ch⟩
      · exact Triple.waiting fun _ _ => trivial
      refine Triple.of_state (P := I) ?_ hc
      refine Triple.bind (hI.unmoved.modify fun _ => ⟨rfl, rfl, rfl, rfl⟩) fun _ => ?_
      refine Triple.ite (fun _ => ?_) fun _ => Triple.bind (hI.unmoved.pushProfile conf) fun _ => ih (left + 1)
      refine Triple.bind (hI.unmoved.modify fun _ => ⟨rfl, rfl, rfl, rfl⟩) fun _ => ?_
      exact Triple.bind (hI.errSoGetNew _ _) fun _ => ih left

theorem reportErrorProxy (hI : SlotContract I) (fuel : Nat) : Triple True I (reportErrorProxy w fuel) fun _ => I := by
  refine Triple.bind hI.unmoved.rangeErrorid fun entries => Triple.get fun c hc => Triple.of_state (P := I) ?_ hc
  refine Triple.bind (hI.unmoved.modify fun _ => ⟨rfl, rfl, rfl, rfl⟩) fun _ => ?_
  exact Triple.bind (hI.reportLoop _ fuel _) fun _ => Triple.forM hI.dropSlot _

theorem switchLoop (hI : SlotContract I) (maxid : Str) (fuel : Nat) :
    Triple True I (switchLoop w maxid fuel) fun _ => I := by
  induction fuel with
  | zero => exact Triple.waiting fun _ _ => trivial
  | succ fuel ih =>
    apply Triple.get
    intro c hc
    rcases c.proxyProfiles.recv with _ | ⟨conf, ch⟩
    · exact Triple.waiting fun _ _ => trivial
    refine Triple.of_state (P := I) ?_ hc
    refine Triple.bind (hI.unmoved.modify fun _ => ⟨rfl, rfl, rfl, rfl⟩) fun _ => ?_
    refine Triple.ite (fun _ => ?_) fun _ => Triple.bind (hI.unmoved.pushProfile conf) fun _ => ih
    refine Triple.bind (hI.unmoved.modify fun _ => ⟨rfl, rfl, rfl, rfl⟩) fun _ => ?_
    apply Triple.bind (hI.unmoved.getAviableProxy none)
    intro newconf
    cases newconf with
    | none => exact Triple.pure fun _ h => h
    | some newconf =>
      exact Triple.bind (hI.unmoved.pushProfile newconf) fun _ => hI.unmoved.modify fun _ => ⟨rfl, rfl, rfl, rfl⟩

theorem autoSwitchProfile (hI : SlotContract I) (fuel : Nat) :
    Triple True I (autoSwitchProfile w fuel) fun _ => I := by
  refine Triple.bind hI.unmoved.rangeErrorid fun entries => Triple.ite (fun _ => Triple.pure fun _ h => h) fun _ => ?_
  exact Triple.bind (hI.unmoved.modify fun _ => ⟨rfl, rfl, rfl, rfl⟩) fun _ => hI.switchLoop _ fuel

theorem changeProxyType (hI : SlotContract I) (tp : Str) : Triple True I (changeProxyType w tp) fun _ => I := by
  refine Triple.bind (hI.unmoved.modify fun _ => ⟨rfl, rfl, rfl, rfl⟩) fun _ => Triple.get fun c hc => ?_
  refine (Triple.bind (Triple.forM (fun _ => ?_) _) fun _ => hI.sessions.initializationTunnels.discard).of_state hc
  exact (hI.unmoved.getAviableProxy (some tp)).discard

theorem changeNewRoute (hI : SlotContract I) : Triple True I (changeNewRoute w) fun _ => I := by
  refine Triple.get fun c hc => Triple.ite (fun _ => ?_) fun _ => (Triple.pure fun _ h => h).of_state hc
  refine (Triple.bind (hI.unmoved.emit .newRoute) fun _ => ?_).of_state hc
  refine Triple.ite (fun _ => Triple.pure fun _ h => h) fun _ => ?_
  refine Triple.bind (hI.unmoved.modify fun _ => ⟨rfl, rfl, rfl, rfl⟩) fun _ => ?_
  refine Triple.bind (hI.unmoved.modify fun _ => ⟨rfl, rfl, rfl, rfl⟩) fun _ => ?_
  exact hI.unmoved.modify fun _ => ⟨rfl, rfl, rfl, rfl⟩

theorem exec (hI : SlotContract I) (fuel : Nat) (op : Op) : Triple True I (exec w fuel op) fun _ => I := by
  cases op with
  | rebuildSmux no => exact (hI.rebuildSmux no).discard
  | getSession => exact hI.sessions.getSession.discard
  | fixBuildSmux errid => exact hI.sessions.fixBuildSmux errid
  | reportErrorProxy => exact hI.reportErrorProxy fuel
  | autoSwitchProfile => exact hI.autoSwitchProfile fuel
  | changeProxyType tp => exact hI.changeProxyType tp
  | changeNewRoute => exact hI.changeNewRoute
  | errRecord eid i => exact hI.unmoved.modify fun _ => ⟨rfl, rfl, rfl, rfl⟩
  | errVanish eid => exact hI.unmoved.modify fun _ => ⟨rfl, rfl, rfl, rfl⟩
  | getAviableProxy tp => exact (hI.unmoved.getAviableProxy tp).discard

/-- What holds of a new client and bears `Init` holds in every reachable state. -/
theorem reachable (hI : SlotContract I)
    (hfresh : ∀ addr channelNum getNewRoute, I (newClientControll w addr channelNum getNewRoute))
    (hinit : ∀ c, I c → I (init c)) {c : ClientControl} (h : Reachable w c) : I c := by
  induction h with
  | fresh addr channelNum getNewRoute => exact hfresh addr channelNum getNewRoute
  | init _ ih => exact hinit _ ih
  | call _ hcall ih =>
    obtain ⟨fuel, hexec⟩ := hcall
    exact (hI.exec fuel _).returns ih hexec

end SlotContract

/-! ### The slots of a reachable state -/

/-- The slots hold sessions that were built, each with the ID its constructor gave it. -/
structure Wired (c : ClientControl) : Prop where
  lastUse : -1 ≤ c.lastUse
  pointers : ∀ i, some i ∈ c.smuxClients → i < c.built.length
  faithful : ∀ e ∈ c.built, Faithful e

theorem wired_contract : SlotContract Wired where
  unmoved := by
    intro c c' hsame hc
    refine ⟨by rw [hsame.lastUse]; exact hc.lastUse, ?_, ?_⟩
    · rw [hsame.smuxClients, hsame.length]
      exact hc.pointers
    · intro e he
      obtain ⟨i, hi⟩ := List.getElem?_of_mem he
      obtain ⟨e₀, he₀, hopened⟩ := hsame.getElem hi
      have hfaithful : Faithful e₀.opened :=
        ⟨(hc.faithful e₀ (List.mem_of_getElem? he₀)).quic, (hc.faithful e₀ (List.mem_of_getElem? he₀)).eid⟩
      rw [← hopened] at hfaithful
      exact ⟨hfaithful.quic, hfaithful.eid⟩
  install := by
    intro no e c he hc
    refine ⟨hc.lastUse, ?_, ?_⟩
    · intro i hi
      show i < (c.built ++ [e]).length
      rw [List.length_append, List.length_singleton]
      rcases List.mem_or_eq_of_mem_set hi with hi | hi
      · exact Nat.lt_succ_of_lt (hc.pointers i hi)
      · cases hi
        exact Nat.lt_succ_self _
    · intro e' he'
      rcases List.mem_append.mp he' with he' | he'
      · exact hc.faithful e' he'
      · rw [List.mem_singleton.mp he']
        exact he
  drop := by
    intro no c hc
    refine ⟨hc.lastUse, fun i hi => ?_, hc.faithful⟩
    rcases List.mem_or_eq_of_mem_set hi with hi | hi
    · exact hc.pointers i hi
    · cases hi
  use := by
    intro c _ hc
    refine ⟨?_, hc.pointers, hc.faithful⟩
    have := Int.tmod_nonneg c.clientNum (show 0 ≤ c.lastUse + 1 by have := hc.lastUse; omega)
    show -1 ≤ (c.lastUse + 1).tmod c.clientNum
    omega

theorem Reachable.wired {w : World} {c : ClientControl} (h : Reachable w c) : Wired c := by
  apply wired_contract.reachable _ _ h
  · intro addr channelNum getNewRoute
    refine ⟨le_rfl, fun i hi => ?_, nofun⟩
    cases (List.mem_replicate.mp hi).2
  · intro c hc
    exact ⟨by show (-1 : Int) ≤ 0; omega, hc.pointers, hc.faithful⟩

theorem Wired.clientAt {c : ClientControl} (hc : Wired c) {no : Nat} {e : SmuxClient} (he : clientAt c no = some e) :
    Faithful e := by
  obtain ⟨i, -, hi⟩ := Option.bind_eq_some_iff.mp he
  exact hc.faithful e (List.mem_of_getElem? hi)

theorem clientAt_installed_ne {c : ClientControl} (hc : Wired c) {no k : Nat} (hk : k ≠ no) (e : SmuxClient) :
    clientAt (installed no e c) k = clientAt c k := by
  unfold clientAt installed
  dsimp only
  rw [List.getElem?_set_ne (Ne.symm hk)]
  rcases hslot : c.smuxClients[k]? with _ | _ | i
  · rfl
  · rfl
  · exact List.getElem?_append_left (hc.pointers i (List.mem_of_getElem? hslot))

end ProxyZ.Client
