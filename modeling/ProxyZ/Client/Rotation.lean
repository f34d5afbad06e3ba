import ProxyZ.Client.Slots
import ProxyZ.Go.Threads

/-!
# Many calls of GetSession

`GetSession` moves `lastUse` on under the lock and reads it again without the lock whenever it needs its slot
number: to look into the slot, to name the slot for `RebuildSmux`, and to look into the slot again. Here any
number of calls run at the same time, and each of these reads is a step of its own; a call that runs alone
does what the method does (`getSession_alone`).

A read gives a call its own slot exactly if the other calls have moved `lastUse` once round in the meantime,
or not at all; and a rebuild replaces what the call found in the slot exactly if nothing was installed there
since. These two conditions on the steps are the exact ones (`getSession_own_iff`).
-/

namespace ProxyZ.Client

open Go ProxyZ.Control Method

/-- What a call of `GetSession` does next. `tries` counts the rounds of its loop behind the present one. -/
inductive SessionStage
  | start
  | inspect
  | argument (tries : Nat)
  | rebuild (no tries : Nat)
  | reread (tries : Nat) (err : Option RebuildErr)
  | opening (e : Option Nat)
  | reargument (e : Nat)
  | rerebuild (no e : Nat)
  | connecting (e : Nat)
  | returned (err : Option (Err ⊕ RebuildErr))

/-- A call with its results so far. For the statements only it has the slot its own increment produced, the
number of increments up to that one, and how many sessions had been installed in the slot it found nil or
whose session it took. -/
structure SessionCall where
  stage : SessionStage := .start
  id : Str := []
  proxyType : Str := []
  own : Nat := 0
  since : Nat := 0
  mark : Nat := 0

/-- The client, with the number of increments of `lastUse` and the slots in which sessions were installed. -/
structure Slots where
  control : ClientControl
  turns : Nat := 0
  installs : List Nat := []

/-- `RebuildSmux(no)` and what the call keeps of its results. -/
def rebuildStep (w : World) (s : Slots) (t : SessionCall) (no : Nat) :
    Option (Option RebuildErr × Slots × SessionCall) :=
  match rebuildSmux w no s.control with
  | .ok ((err, conf), c) =>
      some (err, { s with control := c, installs := if err.isNone then no :: s.installs else s.installs },
        { t with id := (conf.map (·.id)).getD t.id, proxyType := (conf.map (·.proxyType)).getD t.proxyType })
  | .error _ => none

/-- The next step of a call, `none` where it waits, panics or has returned. -/
def sessionStep (w : World) (s : Slots) (t : SessionCall) : Option (Slots × SessionCall) :=
  match t.stage with
  | .start =>
      if s.control.clientNum = 0 then none
      else
        let lastUse := (s.control.lastUse + 1).tmod s.control.clientNum
        some ({ s with control := { s.control with lastUse := lastUse }, turns := s.turns + 1 },
          { t with stage := .inspect, own := lastUse.toNat, since := s.turns + 1 })
  | .inspect => do
      let e ← s.control.smuxClients[s.control.lastUse.toNat]?
      let mark := s.installs.count s.control.lastUse.toNat
      match e with
      | none => some (s, { t with stage := .argument 1, mark := mark })
      | some i => some (s, { t with stage := .opening (some i), mark := mark })
  | .argument tries => some (s, { t with stage := .rebuild s.control.lastUse.toNat tries })
  | .rebuild no tries => do
      let (err, s, t) ← rebuildStep w s t no
      some (s, { t with stage := .reread tries err })
  | .reread tries err => do
      let e ← s.control.smuxClients[s.control.lastUse.toNat]?
      match err with
      | none =>
          some (s, { t with
            stage := .opening e
            id := ((e.bind (s.control.built[·]?)).map (·.eid)).getD t.id
            mark := s.installs.count s.control.lastUse.toNat })
      | some err =>
          some (s, { t with stage := if tries = 0 then .returned (some (.inr err)) else .argument (tries - 1) })
  | .opening none => some (s, { t with stage := .returned (some (.inl (.text (str "no session create!!")))) })
  | .opening (some i) => do
      let e ← s.control.built[i]?
      let id := if e.eid = [] then t.id else e.eid
      match isClosed w e s.control with
      | .ok (true, c) => some ({ s with control := c }, { t with stage := .reargument i, id := id })
      | .ok (false, c) =>
          some ({ s with control := c }, { t with stage := .connecting i, id := id, proxyType := e.proxyType })
      | .error _ => none
  | .reargument i => some (s, { t with stage := .rerebuild s.control.lastUse.toNat i })
  | .rerebuild no i => do
      let (err, s, t) ← rebuildStep w s t no
      match err with
      | some err => some (s, { t with stage := .returned (some (.inr err)) })
      | none => some (s, { t with stage := .connecting i })
  | .connecting i =>
      match newConnnect w i s.control with
      | .ok (err, c) => some ({ s with control := c }, { t with stage := .returned (err.map .inl) })
      | .error _ => none
  | .returned _ => none

/-- Any number of calls on one client. -/
def sessions (w : World) : Program Slots SessionCall Unit Unit where
  start _ := {}
  next s t _ := (sessionStep w s t).map fun r => (r.1, r.2, [])

/-- The client with no call running. -/
def idle (c : ClientControl) : Threads Slots SessionCall := ⟨{ control := c }, []⟩

/-- The step reads `c.lastUse`. -/
def SessionStage.Reads : SessionStage → Prop
  | .inspect | .argument _ | .reread _ _ | .reargument _ => True
  | _ => False

/-- The slot that the step rebuilds, and what the call has found in its slot: nothing, or a closed session. -/
def SessionStage.rebuilds : SessionStage → Option (Nat × Option Nat)
  | .rebuild no _ => some (no, none)
  | .rerebuild no e => some (no, some e)
  | _ => none

/-- A step of a call is on the call's own slot, and a rebuild finds no session there but the closed one. -/
def OwnSlot (s : Threads Slots SessionCall) (a : Act Unit Unit) : Prop :=
  ∀ k t, a = .step k () → s.threads[k]? = some t →
    (t.stage.Reads → s.shared.control.lastUse.toNat = t.own) ∧
    ∀ no found, t.stage.rebuilds = some (no, found) →
      no = t.own ∧ ∀ i, s.shared.control.smuxClients[no]? = some (some i) → found = some i

/-- At a read, the other calls have moved `lastUse` a multiple of `clientNum` places since the call's own
increment; at a rebuild, no session was installed in the slot since the call looked into it. -/
def Undisturbed (s : Threads Slots SessionCall) (a : Act Unit Unit) : Prop :=
  ∀ k t, a = .step k () → s.threads[k]? = some t →
    (t.stage.Reads → s.shared.control.clientNum ∣ s.shared.turns - t.since) ∧
    ((t.stage.rebuilds).isSome → s.shared.installs.count t.own = t.mark)

/-! ### What RebuildSmux does to the slots -/

/-- A session was installed in the slot `no`, and nothing else has changed. -/
structure Installs (no : Nat) (c c' : ClientControl) : Prop where
  clientNum : c'.clientNum = c.clientNum
  lastUse : c'.lastUse = c.lastUse
  slot : no < c.smuxClients.length
  smuxClients : c'.smuxClients = c.smuxClients.set no (some c.built.length)
  built : c'.built.length = c.built.length + 1

section Rebuild

variable {w : World} {c : ClientControl} {no : Nat}

theorem sameClients_unmoved : Unmoved (SameClients c) := fun _ _ h h' => h'.trans h

theorem closeSlot_slot : Triple True (SameClients c) (closeSlot no) fun _ s =>
    SameClients c s ∧ no < c.smuxClients.length := by
  apply (sameClients_unmoved.flags.closeSlot no).and
  apply Triple.get
  intro s hs
  rcases hslot : s.smuxClients[no]? with _ | e
  · exact Triple.panic
  have hlt : no < c.smuxClients.length := by
    rw [← hs.smuxClients]
    exact (List.getElem?_eq_some_iff.mp hslot).1
  cases e with
  | none => exact Triple.pure fun _ _ => hlt
  | some i => exact Triple.modify fun _ _ => hlt

theorem setSlot_installs (e : SmuxClient) : Triple True (fun s => SameClients c s ∧ no < c.smuxClients.length)
    (setSlot no e) fun _ => Installs no c := by
  apply Triple.modify
  rintro s ⟨hs, hlt⟩
  refine ⟨hs.clientNum, hs.lastUse, hlt, ?_, ?_⟩
  · show s.smuxClients.set no (some s.built.length) = _
    rw [hs.smuxClients, hs.length]
  · show (s.built ++ [e]).length = _
    rw [List.length_append, List.length_singleton, hs.length]

theorem connect_slots (conf : ProtocolConfig) : Triple True (SameClients c) (connect w no conf) fun err s =>
    if err.isNone then Installs no c s else SameClients c s := by
  have hunmoved : Unmoved fun s => SameClients c s ∧ no < c.smuxClients.length :=
    fun _ _ h h' => ⟨h'.1.trans h, h'.2⟩
  refine Triple.ite (fun _ => ?_) fun _ => ?_
  · refine Triple.bind closeSlot_slot fun _ => Triple.bind (hunmoved.flags.dial conf) fun err => ?_
    cases err with
    | some e => exact Triple.pure fun _ hs => hs.1
    | none => exact Triple.bind (setSlot_installs _) fun _ => Triple.pure fun _ hs => hs
  · apply Triple.bind (sameClients_unmoved.flags.dial conf)
    intro err
    cases err with
    | some e => exact Triple.pure fun _ hs => hs
    | none =>
      exact Triple.bind closeSlot_slot fun _ => Triple.bind (setSlot_installs _) fun _ => Triple.pure fun _ hs => hs

/-- `RebuildSmux` installs a session in its slot exactly if it returns no error. -/
theorem rebuildSmux_slots : Triple True (fun s => s = c) (rebuildSmux w no) fun r s =>
    if r.1.isNone then Installs no c s else SameClients c s := by
  apply Triple.bind ((sameClients_unmoved.getAviableProxy _).of_state (SameClients.refl c))
  intro conf
  cases conf with
  | none => exact Triple.pure fun _ hs => hs
  | some conf =>
    refine Triple.bind (sameClients_unmoved.pushProfile conf) fun _ => Triple.bind (connect_slots conf) fun err => ?_
    exact Triple.pure fun _ hs => hs

end Rebuild

/-! ### What a step does to the shared state -/

/-- The slots after a step: as they were, or with one session more. -/
def SlotsChange (s s' : Slots) : Prop :=
  (s'.installs = s.installs ∧ s'.control.smuxClients = s.control.smuxClients ∧
    s'.control.built.length = s.control.built.length) ∨
  ∃ no, s'.installs = no :: s.installs ∧ Installs no s.control s'.control

/-- `lastUse` after a step: as it was, or moved on. -/
def TurnChange (s s' : Slots) : Prop :=
  (s'.turns = s.turns ∧ s'.control.lastUse = s.control.lastUse) ∨
  (s'.turns = s.turns + 1 ∧ s.control.clientNum ≠ 0 ∧
    s'.control.lastUse = (s.control.lastUse + 1).tmod s.control.clientNum)

structure Changes (s s' : Slots) : Prop where
  clientNum : s'.control.clientNum = s.control.clientNum
  slots : SlotsChange s s'
  turn : TurnChange s s'
  wired : Wired s.control → Wired s'.control

theorem Changes.refl (s : Slots) : Changes s s := ⟨rfl, .inl ⟨rfl, rfl, rfl⟩, .inl ⟨rfl, rfl⟩, id⟩

theorem Changes.sameClients {s : Slots} {c : ClientControl} (h : SameClients s.control c) :
    Changes s { s with control := c } :=
  ⟨h.clientNum, .inl ⟨rfl, h.smuxClients, h.length⟩, .inl ⟨rfl, h.lastUse⟩, wired_contract.unmoved _ _ h⟩

theorem rebuildStep_changes {w : World} {s s' : Slots} {t t' : SessionCall} {no : Nat} {err : Option RebuildErr}
    (h : rebuildStep w s t no = some (err, s', t')) :
    Changes s s' ∧ (err ≠ none → s'.installs = s.installs) ∧
      t'.own = t.own ∧ t'.since = t.since ∧ t'.mark = t.mark := by
  unfold rebuildStep at h
  rcases hcall : rebuildSmux w no s.control with stop | ⟨⟨err', conf⟩, c⟩ <;> rw [hcall] at h <;> cases h
  have hslots := rebuildSmux_slots.returns rfl hcall
  have hwired : Wired s.control → Wired c := fun hs => (wired_contract.rebuildSmux no).returns hs hcall
  cases err with
  | none => exact ⟨⟨hslots.clientNum, .inr ⟨no, rfl, hslots⟩, .inl ⟨rfl, hslots.lastUse⟩, hwired⟩, nofun, rfl, rfl, rfl⟩
  | some err => exact ⟨Changes.sameClients hslots, fun _ => rfl, rfl, rfl, rfl⟩

/-! ### What a call knows about its slot -/

/-- What the call found in its slot, from the time it looked until it rebuilds the slot. -/
def SessionStage.watches : SessionStage → Option (Option Nat)
  | .argument _ | .rebuild _ _ | .reread _ (some _) => some none
  | .opening e => some e
  | .reargument e | .rerebuild _ e => some (some e)
  | _ => none

/-- The slot `own` held `found` when `mark` sessions had been installed in it. -/
structure Watches (s : Slots) (own mark : Nat) (found : Option Nat) : Prop where
  range : ∀ i, found = some i → i < s.control.built.length
  le : mark ≤ s.installs.count own
  same : s.installs.count own = mark → (s.control.smuxClients[own]?).join = found
  other : mark < s.installs.count own → ∃ j, (s.control.smuxClients[own]?).join = some j ∧ found ≠ some j

/-- A read of the slot, where it is the call's own. -/
theorem Watches.read {s : Slots} (hs : Wired s.control) {no own : Nat} {e : Option Nat}
    (he : s.control.smuxClients[no]? = some e) (hown : no = own) : Watches s own (s.installs.count no) e := by
  subst hown
  refine ⟨?_, le_rfl, fun _ => by rw [he]; rfl, fun h => absurd h (lt_irrefl _)⟩
  rintro i rfl
  exact hs.pointers i (List.mem_of_getElem? he)

/-- A session installed later is another one than was found. -/
theorem Watches.mono {s s' : Slots} {own mark : Nat} {found : Option Nat} (h : Watches s own mark found)
    (hslots : SlotsChange s s') : Watches s' own mark found := by
  rcases hslots with ⟨hinstalls, hclients, hbuilt⟩ | ⟨no, hinstalls, hcontrol⟩
  · refine ⟨fun i hi => hbuilt ▸ h.range i hi, by rw [hinstalls]; exact h.le, ?_, ?_⟩
    · rw [hinstalls, hclients]
      exact h.same
    · rw [hinstalls, hclients]
      exact h.other
  · have hrange : ∀ i, found = some i → i < s'.control.built.length := by
      intro i hi
      rw [hcontrol.built]
      exact Nat.lt_succ_of_lt (h.range i hi)
    by_cases hno : no = own
    · subst hno
      have hcount : s'.installs.count no = s.installs.count no + 1 := by rw [hinstalls, List.count_cons_self]
      have hslot : (s'.control.smuxClients[no]?).join = some s.control.built.length := by
        rw [hcontrol.smuxClients, List.getElem?_set_self hcontrol.slot]
        rfl
      have hle := h.le
      refine ⟨hrange, by omega, fun hsame => absurd hsame (by omega), fun _ => ⟨_, hslot, fun hfound => ?_⟩⟩
      exact lt_irrefl _ (h.range _ hfound)
    · have hcount : s'.installs.count own = s.installs.count own := by rw [hinstalls, List.count_cons_of_ne hno]
      have hslot : (s'.control.smuxClients[own]?).join = (s.control.smuxClients[own]?).join := by
        rw [hcontrol.smuxClients, List.getElem?_set_ne hno]
      refine ⟨hrange, by rw [hcount]; exact h.le, ?_, ?_⟩
      · rw [hcount, hslot]
        exact h.same
      · rw [hcount, hslot]
        exact h.other

/-- **A rebuild meets only what was found exactly if nothing was installed since.** -/
theorem Watches.rebuild_iff {s : Slots} {own mark : Nat} {found : Option Nat} (h : Watches s own mark found) :
    (∀ i, s.control.smuxClients[own]? = some (some i) → found = some i) ↔ s.installs.count own = mark := by
  constructor
  · intro hfound
    by_contra hne
    obtain ⟨j, hj, hother⟩ := h.other (lt_of_le_of_ne h.le (Ne.symm hne))
    exact hother (hfound j (Option.join_eq_some_iff.mp hj))
  · intro hsame i hi
    rw [← h.same hsame, hi]
    rfl

/-! ### Whose turn it is -/

/-- `lastUse` has moved on from `base` once for each increment. -/
structure InTurn (base : Int) (s : Slots) : Prop where
  wired : Wired s.control
  start : s.turns = 0 → s.control.lastUse = base
  moved : 0 < s.turns → 0 < s.control.clientNum ∧ s.control.lastUse = (base + s.turns) % s.control.clientNum

/-- What holds of a call: its slot is the one of its turn, and it knows what it has found there. -/
structure Follows (base : Int) (s : Slots) (t : SessionCall) : Prop where
  turn : t.stage ≠ .start → 0 < t.since ∧ t.since ≤ s.turns ∧
    t.own = ((base + t.since) % s.control.clientNum).toNat
  argument : ∀ no found, t.stage.rebuilds = some (no, found) → no = t.own ∧ t.stage.watches = some found
  watch : ∀ found, t.stage.watches = some found → Watches s t.own t.mark found

section Turns

variable {base : Int} {s s' : Slots} {t : SessionCall}

theorem InTurn.step (hs : InTurn base s) (h : Changes s s') : InTurn base s' := by
  refine ⟨h.wired hs.wired, ?_, ?_⟩
  · rcases h.turn with ⟨hturns, hlast⟩ | ⟨hturns, -, -⟩
    · rw [hturns, hlast]
      exact hs.start
    · omega
  · rw [h.clientNum]
    rcases h.turn with ⟨hturns, hlast⟩ | ⟨hturns, hnum, hlast⟩
    · rw [hturns, hlast]
      exact hs.moved
    · intro _
      refine ⟨Nat.pos_of_ne_zero hnum, ?_⟩
      have hnonneg : 0 ≤ s.control.lastUse + 1 := by
        have := hs.wired.lastUse
        omega
      rw [hlast, hturns, Int.tmod_eq_emod_of_nonneg hnonneg]
      push_cast
      rw [← add_assoc]
      rcases Nat.eq_zero_or_pos s.turns with hzero | hpos
      · rw [hs.start hzero, hzero]
        simp
      · rw [(hs.moved hpos).2, Int.emod_add_emod]

/-- **A read gives the call its own slot exactly if the others have moved `lastUse` full rounds since.** -/
theorem read_iff (hs : InTurn base s) (ht : Follows base s t) (hstage : t.stage ≠ .start) :
    s.control.lastUse.toNat = t.own ↔ s.control.clientNum ∣ s.turns - t.since := by
  obtain ⟨hpos, hle, hown⟩ := ht.turn hstage
  obtain ⟨hnum, hlast⟩ := hs.moved (hpos.trans_le hle)
  have hnum' : (0 : Int) < s.control.clientNum := by exact_mod_cast hnum
  have hdiff : ((s.turns - t.since : Nat) : Int) = (base + s.turns) - (base + t.since) := by
    rw [Nat.cast_sub hle]
    ring
  have hnonneg := Int.emod_nonneg (base + s.turns) hnum'.ne'
  have hnonneg' := Int.emod_nonneg (base + t.since) hnum'.ne'
  rw [hown, hlast, ← Int.natCast_dvd_natCast, hdiff]
  constructor
  · intro heq
    have hmod : (base + s.turns) % s.control.clientNum = (base + t.since) % s.control.clientNum := by omega
    exact Int.dvd_of_emod_eq_zero (Int.emod_eq_emod_iff_emod_sub_eq_zero.mp hmod)
  · intro hdvd
    rw [Int.emod_eq_emod_iff_emod_sub_eq_zero.mpr (Int.emod_eq_zero_of_dvd hdvd)]

/-- A step of another call leaves what holds of this one. -/
theorem Follows.mono (ht : Follows base s t) (h : Changes s s') : Follows base s' t := by
  refine ⟨fun hstage => ?_, ht.argument, fun found hfound => (ht.watch found hfound).mono h.slots⟩
  obtain ⟨hpos, hle, hown⟩ := ht.turn hstage
  refine ⟨hpos, ?_, by rw [h.clientNum]; exact hown⟩
  rcases h.turn with ⟨hturns, -⟩ | ⟨hturns, -⟩ <;> omega

/-- The call after a step of its own that keeps its turn. -/
theorem Follows.next {t' : SessionCall} (ht : Follows base s t) (h : Changes s s') (hstage : t.stage ≠ .start)
    (hown : t'.own = t.own) (hsince : t'.since = t.since)
    (hargument : ∀ no found, t'.stage.rebuilds = some (no, found) → no = t'.own ∧ t'.stage.watches = some found)
    (hwatch : ∀ found, t'.stage.watches = some found → Watches s' t'.own t'.mark found) : Follows base s' t' := by
  refine ⟨fun _ => ?_, hargument, hwatch⟩
  rw [hown, hsince]
  exact (ht.mono h).turn hstage

/-- The call after it has taken `lastUse` for the slot it rebuilds. -/
theorem Follows.argue (ht : Follows base s t) {stage : SessionStage} {found : Option Nat}
    (hfound : t.stage.watches = some found) (hwatches : stage.watches = some found)
    (hrebuilds : stage.rebuilds = some (s.control.lastUse.toNat, found)) (hread : s.control.lastUse.toNat = t.own) :
    Follows base s { t with stage } := by
  have hstage : t.stage ≠ .start := by
    intro hstart
    rw [hstart] at hfound
    cases hfound
  refine ht.next (Changes.refl s) hstage rfl rfl ?_ ?_
  · intro no found' h
    cases hrebuilds.symm.trans h
    exact ⟨hread, hwatches⟩
  · intro found' h
    cases hwatches.symm.trans h
    exact ht.watch found hfound

theorem isClosed_sameClients {w : World} {e : SmuxClient} {c c' : ClientControl} {closed : Bool}
    (h : isClosed w e c = .ok (closed, c')) : SameClients c c' :=
  (sameClients_unmoved.flags.isClosed e).returns (SameClients.refl c) h

/-- What a step does, and what holds of the call behind it if the step reads the call's own slot. -/
theorem sessionStep_spec {w : World} {t' : SessionCall} (h : sessionStep w s t = some (s', t')) :
    Changes s s' ∧ (InTurn base s → Follows base s t → (t.stage.Reads → s.control.lastUse.toNat = t.own) →
      Follows base s' t') := by
  unfold sessionStep at h
  cases hstage : t.stage with
  | start =>
    rw [hstage] at h
    dsimp only at h
    split_ifs at h with hnum
    cases h
    have hchanges : Changes s { s with
        control := { s.control with lastUse := (s.control.lastUse + 1).tmod s.control.clientNum }
        turns := s.turns + 1 } :=
      ⟨rfl, .inl ⟨rfl, rfl, rfl⟩, .inr ⟨rfl, hnum, rfl⟩, wired_contract.use s.control hnum⟩
    refine ⟨hchanges, fun hs _ _ => ⟨fun _ => ⟨Nat.succ_pos _, le_rfl, ?_⟩, nofun, nofun⟩⟩
    exact congrArg Int.toNat ((hs.step hchanges).moved (Nat.succ_pos _)).2
  | inspect =>
    rw [hstage] at h
    dsimp only at h
    obtain ⟨e, he, h⟩ := Option.bind_eq_some_iff.mp h
    cases e <;> cases h <;> refine ⟨Changes.refl s, fun hs ht hread => ?_⟩
    · refine ht.next (Changes.refl s) (by rw [hstage]; nofun) rfl rfl nofun fun found hwatch => ?_
      cases hwatch
      exact Watches.read hs.wired he (hread trivial)
    · refine ht.next (Changes.refl s) (by rw [hstage]; nofun) rfl rfl nofun fun found hwatch => ?_
      cases hwatch
      exact Watches.read hs.wired he (hread trivial)
  | argument tries =>
    rw [hstage] at h
    dsimp only at h
    cases h
    have hwatches : t.stage.watches = some none := by rw [hstage]; rfl
    exact ⟨Changes.refl s, fun _ ht hread => ht.argue hwatches rfl rfl (hread trivial)⟩
  | rebuild no tries =>
    rw [hstage] at h
    dsimp only at h
    obtain ⟨⟨err, s₁, t₁⟩, hcall, h⟩ := Option.bind_eq_some_iff.mp h
    cases h
    obtain ⟨hchanges, -, hown, hsince, hmark⟩ := rebuildStep_changes hcall
    refine ⟨hchanges, fun hs ht _ => ht.next hchanges (by rw [hstage]; nofun) hown hsince nofun ?_⟩
    intro found hwatch
    cases err with
    | none => cases hwatch
    | some err =>
      cases hwatch
      dsimp only
      rw [hown, hmark]
      exact (ht.watch none (by rw [hstage]; rfl)).mono hchanges.slots
  | reread tries err =>
    rw [hstage] at h
    dsimp only at h
    obtain ⟨e, he, h⟩ := Option.bind_eq_some_iff.mp h
    cases err with
    | none =>
      cases h
      refine ⟨Changes.refl s, fun hs ht hread => ht.next (Changes.refl s) (by rw [hstage]; nofun) rfl rfl nofun ?_⟩
      intro found hwatch
      cases hwatch
      exact Watches.read hs.wired he (hread trivial)
    | some err =>
      cases h
      refine ⟨Changes.refl s, fun hs ht hread => ht.next (Changes.refl s) (by rw [hstage]; nofun) rfl rfl ?_ ?_⟩
      · intro no found hrebuild
        dsimp only at hrebuild
        split_ifs at hrebuild <;> cases hrebuild
      · intro found hwatch
        dsimp only at hwatch
        split_ifs at hwatch <;> cases hwatch
        exact ht.watch none (by rw [hstage]; rfl)
  | opening e =>
    rw [hstage] at h
    dsimp only at h
    cases e with
    | none =>
      cases h
      exact ⟨Changes.refl s, fun _ ht _ => ht.next (Changes.refl s) (by rw [hstage]; nofun) rfl rfl nofun nofun⟩
    | some i =>
      obtain ⟨e, he, h⟩ := Option.bind_eq_some_iff.mp h
      rcases hcall : isClosed w e s.control with stop | ⟨_ | _, c⟩ <;> rw [hcall] at h <;> cases h
      · have hchanges := Changes.sameClients (isClosed_sameClients hcall)
        exact ⟨hchanges, fun _ ht _ => ht.next hchanges (by rw [hstage]; nofun) rfl rfl nofun nofun⟩
      · have hchanges := Changes.sameClients (isClosed_sameClients hcall)
        refine ⟨hchanges, fun _ ht _ => ht.next hchanges (by rw [hstage]; nofun) rfl rfl nofun ?_⟩
        intro found hwatch
        cases hwatch
        exact (ht.watch (some i) (by rw [hstage]; rfl)).mono hchanges.slots
  | reargument e =>
    rw [hstage] at h
    dsimp only at h
    cases h
    have hwatches : t.stage.watches = some (some e) := by rw [hstage]; rfl
    exact ⟨Changes.refl s, fun _ ht hread => ht.argue hwatches rfl rfl (hread trivial)⟩
  | rerebuild no e =>
    rw [hstage] at h
    dsimp only at h
    obtain ⟨⟨err, s₁, t₁⟩, hcall, h⟩ := Option.bind_eq_some_iff.mp h
    obtain ⟨hchanges, -, hown, hsince, -⟩ := rebuildStep_changes hcall
    cases err <;> cases h <;>
      exact ⟨hchanges, fun _ ht _ => ht.next hchanges (by rw [hstage]; nofun) hown hsince nofun nofun⟩
  | connecting e =>
    rw [hstage] at h
    dsimp only at h
    rcases hcall : newConnnect w e s.control with stop | ⟨err, c⟩ <;> rw [hcall] at h <;> cases h
    have hsame := (sameClients_unmoved.flags.newConnnect e).returns (SameClients.refl s.control) hcall
    have hchanges := Changes.sameClients hsame
    exact ⟨hchanges, fun _ ht _ => ht.next hchanges (by rw [hstage]; nofun) rfl rfl nofun nofun⟩
  | returned err =>
    rw [hstage] at h
    cases h

end Turns

/-! ### A call alone -/

/-- The steps of a call that nothing else disturbs. -/
def SessionSteps (w : World) : Slots × SessionCall → Slots × SessionCall → Prop :=
  Relation.ReflTransGen fun x y => sessionStep w x.1 x.2 = some y

/-- The call has come from `x` to the client `c` and the stage `stage`, with its results so far. -/
def Arrives (w : World) (x : Slots × SessionCall) (stage : SessionStage) (id proxyType : Str) (c : ClientControl) : Prop :=
  ∃ s t, SessionSteps w x (s, t) ∧ s.control = c ∧ t.stage = stage ∧ t.id = id ∧ t.proxyType = proxyType

/-- The client works on the slot `no`. -/
def At (no : Nat) (c : ClientControl) : Prop := c.lastUse.toNat = no ∧ no < c.smuxClients.length

section Alone

variable {w : World} {x : Slots × SessionCall} {stage : SessionStage} {id proxyType : Str} {c : ClientControl} {no : Nat}

theorem at_sameClients {c' : ClientControl} (h : At no c) (hsame : SameClients c c') : At no c' :=
  ⟨by rw [hsame.lastUse]; exact h.1, by rw [hsame.smuxClients]; exact h.2⟩

theorem at_rebuild {c' : ClientControl} {r : Option RebuildErr × Option ProtocolConfig} (h : At no c)
    (hslots : if r.1.isNone then Installs no c c' else SameClients c c') : At no c' := by
  split_ifs at hslots
  · refine ⟨by rw [hslots.lastUse]; exact h.1, ?_⟩
    rw [hslots.smuxClients, List.length_set]
    exact h.2
  · exact at_sameClients h hslots

theorem Arrives.step (h : Arrives w x stage id proxyType c) {stage' : SessionStage} {id' proxyType' : Str} {c' : ClientControl}
    (hstep : ∀ s t, s.control = c → t.stage = stage → t.id = id → t.proxyType = proxyType →
      ∃ s' t', sessionStep w s t = some (s', t') ∧ s'.control = c' ∧ t'.stage = stage' ∧ t'.id = id' ∧
        t'.proxyType = proxyType') : Arrives w x stage' id' proxyType' c' := by
  obtain ⟨s, t, hsteps, hc, hstage, hid, htype⟩ := h
  obtain ⟨s', t', hnext, h'⟩ := hstep s t hc hstage hid htype
  exact ⟨s', t', hsteps.tail hnext, h'⟩

/-- A rebuild as a step. -/
theorem rebuildStep_alone {s : Slots} {t : SessionCall} {err : Option RebuildErr} {conf : Option ProtocolConfig}
    {c' : ClientControl} (hcall : rebuildSmux w no s.control = .ok ((err, conf), c')) :
    ∃ s' t', rebuildStep w s t no = some (err, s', t') ∧ s'.control = c' ∧ t'.id = (conf.map (·.id)).getD t.id ∧
      t'.proxyType = (conf.map (·.proxyType)).getD t.proxyType := by
  unfold rebuildStep
  rw [hcall]
  exact ⟨_, _, rfl, rfl, rfl, rfl⟩

/-- Naming the slot and rebuilding it. -/
theorem Arrives.rebuilt {tries : Nat} (h : Arrives w x (.argument tries) id proxyType c) (hat : At no c)
    {err : Option RebuildErr} {conf : Option ProtocolConfig} {c' : ClientControl}
    (hcall : rebuildSmux w no c = .ok ((err, conf), c')) :
    Arrives w x (.reread tries err) ((conf.map (·.id)).getD id) ((conf.map (·.proxyType)).getD proxyType) c' := by
  have hargument : Arrives w x (.rebuild no tries) id proxyType c := by
    apply h.step
    rintro s t hc hstage hid htype
    refine ⟨s, { t with stage := .rebuild no tries }, ?_, hc, rfl, hid, htype⟩
    unfold sessionStep
    rw [hstage, ← hat.1, ← hc]
  apply hargument.step
  rintro s t rfl hstage rfl rfl
  obtain ⟨s', t', hstep, hc, hid, htype⟩ := rebuildStep_alone (t := t) hcall
  refine ⟨s', { t' with stage := .reread tries err }, ?_, hc, rfl, hid, htype⟩
  unfold sessionStep
  rw [hstage]
  dsimp only
  rw [hstep]
  rfl

theorem slot_some (hat : At no c) : c.smuxClients[c.lastUse.toNat]? = some (c.smuxClients[no]?).join := by
  rw [hat.1, List.getElem?_eq_getElem hat.2]
  rfl

theorem reread_some {s : Slots} {t : SessionCall} {tries : Nat} {err : RebuildErr} (hc : s.control = c)
    (hstage : t.stage = .reread tries (some err)) (hat : At no c) :
    sessionStep w s t =
      some (s, { t with stage := if tries = 0 then .returned (some (.inr err)) else .argument (tries - 1) }) := by
  subst hc
  unfold sessionStep
  rw [hstage]
  dsimp only
  rw [slot_some hat]
  rfl

/-- Looking into the slot that was built. -/
theorem reread_alone {tries : Nat} (hat : At no c) (h : Arrives w x (.reread tries none) id proxyType c) :
    Triple True (fun s => s = c)
      (do let c ← get
          let e := (c.smuxClients[no]?).join.bind (c.built[·]?)
          return (none, (e.map (·.eid)).getD id, proxyType) : Call (Option RebuildErr × Str × Str))
      fun r s => At no s ∧
        match r.1 with
        | none => Arrives w x (.opening (s.smuxClients[no]?).join) r.2.1 r.2.2 s
        | some err => Arrives w x (.returned (some (.inr err))) r.2.1 r.2.2 s := by
  refine Triple.get fun s hs => Triple.pure fun s' hs' => ?_
  rw [hs', hs]
  refine ⟨hat, h.step fun s t hc hstage hid htype => ?_⟩
  subst hc hid htype
  refine ⟨s, { t with
    stage := .opening (s.control.smuxClients[no]?).join
    id := (((s.control.smuxClients[no]?).join.bind (s.control.built[·]?)).map (·.eid)).getD t.id
    mark := s.installs.count s.control.lastUse.toNat }, ?_, rfl, rfl, rfl, rfl⟩
  unfold sessionStep
  rw [hstage]
  dsimp only
  rw [slot_some hat]
  rfl

theorem buildSlot_alone (tries : Nat) (hat : At no c) (h : Arrives w x (.argument tries) id proxyType c) :
    Triple True (fun s => s = c) (buildSlot w no (tries + 1) id proxyType) fun r s => At no s ∧
      match r.1 with
      | none => Arrives w x (.opening (s.smuxClients[no]?).join) r.2.1 r.2.2 s
      | some err => Arrives w x (.returned (some (.inr err))) r.2.1 r.2.2 s := by
  induction tries generalizing c id proxyType with
  | zero =>
    refine Triple.bind ((Triple.outcome c).and rebuildSmux_slots) fun (err, conf) => Triple.for_each ?_
    rintro c' ⟨hcall, hslots⟩
    have hread := h.rebuilt hat hcall
    cases err with
    | none => exact reread_alone (at_rebuild hat hslots) hread
    | some err =>
      refine Triple.ite (fun _ => Triple.pure fun s hs => ?_) fun hne => absurd rfl hne
      rw [hs]
      refine ⟨at_rebuild hat hslots, hread.step fun s t hc hstage hid htype => ?_⟩
      exact ⟨_, _, reread_some hc hstage (at_rebuild hat hslots), hc, rfl, hid, htype⟩
  | succ tries ih =>
    refine Triple.bind ((Triple.outcome c).and rebuildSmux_slots) fun (err, conf) => Triple.for_each ?_
    rintro c' ⟨hcall, hslots⟩
    have hread := h.rebuilt hat hcall
    cases err with
    | none => exact reread_alone (at_rebuild hat hslots) hread
    | some err =>
      refine Triple.ite (fun h => absurd h (Nat.succ_ne_zero tries)) fun _ => ih (at_rebuild hat hslots) ?_
      apply hread.step
      intro s t hc hstage hid htype
      exact ⟨_, _, reread_some hc hstage (at_rebuild hat hslots), hc, rfl, hid, htype⟩

theorem Arrives.connecting {i : Nat} (h : Arrives w x (.connecting i) id proxyType c) :
    Triple True (fun s => s = c) (newConnnect w i) fun err s =>
      Arrives w x (.returned (err.map .inl)) id proxyType s := by
  apply (Triple.outcome c).post
  intro err c' hcall
  apply h.step
  rintro s t rfl hstage hid htype
  refine ⟨{ s with control := c' }, { t with stage := .returned (err.map .inl) }, ?_, rfl, rfl, hid, htype⟩
  unfold sessionStep
  rw [hstage]
  dsimp only
  rw [hcall]

/-- `GetSession` from the slot it holds on. -/
theorem openSession_alone {i : Nat} (hat : At no c) (h : Arrives w x (.opening (some i)) id proxyType c) :
    Triple True (fun s => s = c) (openSession w no i id proxyType) fun r s =>
      Arrives w x (.returned r.err) r.id r.proxyType s := by
  apply Triple.get
  intro s hs
  rw [hs]
  rcases hbuilt : c.built[i]? with _ | e
  · exact Triple.panic
  refine Triple.bind ((Triple.outcome c).and ((sameClients_unmoved.flags.isClosed e).of_state (SameClients.refl c)))
    fun closed => Triple.for_each ?_
  rintro c₁ ⟨hclosed, hsame⟩
  have hat₁ := at_sameClients hat hsame
  have hopen : Arrives w x (if closed then .reargument i else .connecting i) (if e.eid = [] then id else e.eid)
      (if closed then proxyType else e.proxyType) c₁ := by
    apply h.step
    rintro s t rfl hstage rfl rfl
    cases closed
    · refine ⟨{ s with control := c₁ }, { t with
        stage := .connecting i, id := if e.eid = [] then t.id else e.eid, proxyType := e.proxyType }, ?_, rfl, rfl, rfl, rfl⟩
      unfold sessionStep
      rw [hstage]
      dsimp only
      rw [hbuilt, Option.bind_eq_bind, Option.bind_some, hclosed]
    · refine ⟨{ s with control := c₁ }, { t with
        stage := .reargument i, id := if e.eid = [] then t.id else e.eid }, ?_, rfl, rfl, rfl, rfl⟩
      unfold sessionStep
      rw [hstage]
      dsimp only
      rw [hbuilt, Option.bind_eq_bind, Option.bind_some, hclosed]
  cases closed with
  | false =>
    refine Triple.ite (fun h => absurd h Bool.false_ne_true) fun _ => ?_
    exact Triple.bind (hopen.connecting) fun err => Triple.pure fun s hs => hs
  | true =>
    refine Triple.ite (fun _ => ?_) fun h => absurd rfl h
    refine Triple.bind (Triple.outcome c₁) fun (err, conf) => Triple.for_each ?_
    intro c₂ hcall
    have hnamed : Arrives w x (.rerebuild no i) (if e.eid = [] then id else e.eid) proxyType c₁ := by
      apply hopen.step
      rintro s t hc hstage hid htype
      refine ⟨s, { t with stage := .rerebuild no i }, ?_, hc, rfl, hid, htype⟩
      unfold sessionStep
      rw [hstage, ← hat₁.1, ← hc]
      rfl
    have hrebuilt : Arrives w x (match err with
        | some err => .returned (some (.inr err))
        | none => .connecting i) ((conf.map (·.id)).getD (if e.eid = [] then id else e.eid))
        ((conf.map (·.proxyType)).getD proxyType) c₂ := by
      apply hnamed.step
      rintro s t rfl hstage hid htype
      obtain ⟨s', t', hstep, hc, hid', htype'⟩ := rebuildStep_alone (t := t) hcall
      rw [hid] at hid'
      rw [htype] at htype'
      cases err with
      | none =>
        refine ⟨s', { t' with stage := .connecting i }, ?_, hc, rfl, hid', htype'⟩
        unfold sessionStep
        rw [hstage]
        dsimp only
        rw [hstep]
        rfl
      | some err =>
        refine ⟨s', { t' with stage := .returned (some (.inr err)) }, ?_, hc, rfl, hid', htype'⟩
        unfold sessionStep
        rw [hstage]
        dsimp only
        rw [hstep]
        rfl
    cases err with
    | some err => exact Triple.pure fun s hs => hs ▸ hrebuilt
    | none => exact Triple.bind hrebuilt.connecting fun err => Triple.pure fun s hs => hs

/-- **A call that runs alone does what `GetSession` does.** -/
theorem getSession_alone {r : Session} {c c' : ClientControl} (h : getSession w c = .ok (r, c')) :
    Arrives w ({ control := c }, {}) (.returned r.err) r.id r.proxyType c' := by
  have hrun : Triple True (fun s => s = c) (getSession w) fun r s =>
      Arrives w ({ control := c }, {}) (.returned r.err) r.id r.proxyType s := by
    apply Triple.get
    intro s hs
    rw [hs]
    refine Triple.ite (fun _ => Triple.panic) fun hnum => ?_
    apply Triple.modify_bind
    apply Triple.get
    intro c₁ hc₁
    have hstart : Arrives w ({ control := c }, {}) .inspect [] [] c₁ := by
      refine ⟨{ control := c₁, turns := 1 }, { stage := .inspect, own := c₁.lastUse.toNat, since := 1 }, .single ?_,
        rfl, rfl, rfl, rfl⟩
      rw [hc₁]
      exact if_neg hnum
    dsimp only
    rcases hslot : c₁.smuxClients[c₁.lastUse.toNat]? with _ | e
    · exact Triple.panic
    have hat : At c₁.lastUse.toNat c₁ := ⟨rfl, (List.getElem?_eq_some_iff.mp hslot).1⟩
    cases e with
    | some i =>
      refine openSession_alone hat (hstart.step ?_)
      rintro s t rfl hstage hid htype
      refine ⟨s, { t with
        stage := .opening (some i), mark := s.installs.count s.control.lastUse.toNat }, ?_, rfl, rfl, hid, htype⟩
      unfold sessionStep
      rw [hstage]
      dsimp only
      rw [hslot]
      rfl
    | none =>
      have hlook : Arrives w ({ control := c }, {}) (.argument 1) [] [] c₁ := by
        apply hstart.step
        rintro s t rfl hstage hid htype
        refine ⟨s, { t with
          stage := .argument 1, mark := s.installs.count s.control.lastUse.toNat }, ?_, rfl, rfl, hid, htype⟩
        unfold sessionStep
        rw [hstage]
        dsimp only
        rw [hslot]
        rfl
      refine Triple.bind (buildSlot_alone 1 hat hlook) fun (err, id, proxyType) => Triple.for_each ?_
      rintro c₂ ⟨hat₂, hbuilt⟩
      cases err with
      | some err => exact Triple.pure fun s hs => hs ▸ hbuilt
      | none =>
        apply Triple.get
        intro s hs
        rw [hs]
        dsimp only at hbuilt
        rcases hslot₂ : (c₂.smuxClients[c₁.lastUse.toNat]?).join with _ | i <;> rw [hslot₂] at hbuilt
        · apply Triple.pure
          intro s hs
          rw [hs]
          apply hbuilt.step
          rintro s t rfl hstage hid htype
          refine ⟨s, { t with stage := .returned _ }, ?_, rfl, rfl, hid, htype⟩
          unfold sessionStep
          rw [hstage]
        · exact openSession_alone hat₂ hbuilt
  exact hrun.returns rfl h

end Alone

/-! ### Runs -/

/-- Every call follows its turn. -/
structure Lined (base : Int) (s : Threads Slots SessionCall) : Prop where
  turn : InTurn base s.shared
  calls : ∀ t ∈ s.threads, Follows base s.shared t

section Runs

variable {w : World} {base : Int} {s s' : Threads Slots SessionCall} {a : Act Unit Unit}

theorem lined_idle {c : ClientControl} (hc : Wired c) : Lined c.lastUse (idle c) :=
  ⟨⟨hc, fun _ => rfl, fun h => absurd h (lt_irrefl _)⟩, nofun⟩

theorem sessions_step {k : Nat} (h : (sessions w).step? s (.step k ()) = some s') :
    ∃ t shared t', s.threads[k]? = some t ∧ sessionStep w s.shared t = some (shared, t') ∧
      s' = ⟨shared, s.threads.set k t'⟩ := by
  obtain ⟨t, shared, t', new, ht, hnext, rfl⟩ := Program.step?_step.mp h
  obtain ⟨⟨shared', t''⟩, hstep, heq⟩ := Option.map_eq_some_iff.mp hnext
  cases heq
  exact ⟨t, shared', t'', ht, hstep, by rw [List.append_nil]⟩

/-- **A step is on the call's own slot exactly if it is undisturbed.** -/
theorem Lined.ownSlot_iff (hs : Lined base s) (a : Act Unit Unit) : OwnSlot s a ↔ Undisturbed s a := by
  apply forall_congr'
  intro k
  apply forall_congr'
  intro t
  apply imp_congr_right
  intro _
  apply imp_congr_right
  intro ht
  have hfollows := hs.calls t (List.mem_of_getElem? ht)
  apply and_congr
  · apply imp_congr_right
    intro hreads
    exact read_iff hs.turn hfollows fun hstart => by rw [hstart] at hreads; exact hreads
  · rcases hrebuild : t.stage.rebuilds with _ | ⟨no, found⟩
    · exact iff_of_true nofun nofun
    · obtain ⟨rfl, hwatches⟩ := hfollows.argument no found hrebuild
      have hiff := (hfollows.watch found hwatches).rebuild_iff
      constructor
      · intro h _
        exact hiff.mp (h _ _ rfl).2
      · rintro h no' found' heq
        cases heq
        exact ⟨rfl, hiff.mpr (h rfl)⟩

theorem Lined.step (hs : Lined base s) (h : (sessions w).step? s a = some s') (hown : OwnSlot s a) :
    Lined base s' := by
  cases a with
  | call i =>
    obtain rfl := Program.step?_call.mp h
    refine ⟨hs.turn, each_append hs.calls fun t ht => ?_⟩
    obtain rfl := List.mem_singleton.mp ht
    exact ⟨fun hstage => absurd rfl hstage, nofun, nofun⟩
  | step k o =>
    obtain ⟨t, shared, t', ht, hstep, rfl⟩ := sessions_step h
    obtain ⟨hchanges, hcall⟩ : Changes s.shared shared ∧ (InTurn base s.shared → _) := sessionStep_spec hstep
    have hfollows := hs.calls t (List.mem_of_getElem? ht)
    refine ⟨hs.turn.step hchanges, each_set (fun u hu => (hs.calls u hu).mono hchanges) ?_⟩
    exact hcall hs.turn hfollows (hown k t rfl ht).1

end Runs

/-- **A call of GetSession touches its own slot only, and rebuilds nothing there but what it found nil or
closed, in exactly the runs that leave it undisturbed.** -/
theorem getSession_own_iff {w : World} {c : ClientControl} (h : Reachable w c) (acts : List (Act Unit Unit)) :
    AllSteps (sessions w).step? (fun s a _ => OwnSlot s a) acts (idle c) ↔
      AllSteps (sessions w).step? (fun s a _ => Undisturbed s a) acts (idle c) := by
  apply allSteps_iff (I := Lined c.lastUse) _ _ (lined_idle h.wired)
  · intro s a s' hs _
    exact hs.ownSlot_iff a
  · intro s a s' hs hstep hown
    exact hs.step hstep hown

def twoChannels : ClientControl := newClientControll handsOut sampleAddr 2 false

/-- A call alone, up to its first look into its slot. -/
theorem getSession_own_iff_alone :
    AllSteps (sessions handsOut).step? (fun s a _ => OwnSlot s a) [.call (), .step 0 (), .step 0 ()] (idle twoChannels) := by
  apply (getSession_own_iff (.fresh sampleAddr 2 false) _).mpr
  intro s₁ h₁
  cases h₁
  refine ⟨nofun, fun s₂ h₂ => ?_⟩
  cases h₂
  refine ⟨?_, fun s₃ h₃ => ⟨?_, trivial⟩⟩
  · intro k t ha ht
    cases ha
    cases ht
    exact ⟨nofun, nofun⟩
  · intro k t ha ht
    cases ha
    cases ht
    exact ⟨fun _ => by decide, nofun⟩

/-- The first call finds its slot 0 empty. Before it names the slot to rebuild, a second call moves `lastUse` on
to the slot 1, which holds an open session. -/
def overtaken : List (Act Unit Unit) := [.call (), .call (), .step 0 (), .step 0 (), .step 1 (), .step 0 ()]

/-- A client with an open session in the slot 1. -/
def oneOpen : ClientControl := after handsOut (.rebuildSmux 1) twoChannels

theorem reachable_oneOpen : Reachable handsOut oneOpen := by
  have hcall : Completes handsOut twoChannels (.rebuildSmux 1) oneOpen := ⟨0, rfl⟩
  exact .call (.fresh sampleAddr 2 false) hcall

/-- The first call rebuilds the slot of the second one, and closes a session it never looked at. -/
theorem not_ownSlot_overtaken :
    Reachable handsOut oneOpen ∧
      ¬AllSteps (sessions handsOut).step? (fun s a _ => OwnSlot s a) (overtaken ++ [.step 0 ()]) (idle oneOpen) ∧
      ∃ s s', runAll (sessions handsOut).step? overtaken (idle oneOpen) = some s ∧
        (sessions handsOut).step? s (.step 0 ()) = some s' ∧
        s.shared.control.built.map (·.closed) = [false] ∧ s'.shared.control.built.map (·.closed) = [true, false] := by
  refine ⟨reachable_oneOpen, fun h => ?_, _, _, rfl, rfl, rfl, rfl⟩
  have hown := h.at rfl rfl
  exact absurd ((hown 0 _ rfl rfl).2 1 none rfl).1 (by decide)

end ProxyZ.Client
