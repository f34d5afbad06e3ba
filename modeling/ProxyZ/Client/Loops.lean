import ProxyZ.Client.Contract

/-!
# The loops that replace profiles

`ReportErrorProxy` and `AutoSwitchProfile` turn the pool round until a profile comes whose ID they have picked
in the error records. They end where the pool holds what they look for (`reportLoop_ends`,
`switchLoop_findable`).

`Findable` says that the pool holds whatever either of them may look for: a profile for every ID that has
errors, since `AutoSwitchProfile` may pick any of them, and for every ID that is over the limit and not marked.
Both loops keep it where they leave a profile of each ID they take one of (`reportLoop_findable`).
-/

namespace ProxyZ.Client

open Go ProxyZ.Control Method

def ids (c : ClientControl) : List Str := c.proxyProfiles.items.map (·.id)

/-- There is room in the pool for every profile that is counted, `held` of which are not in it. -/
structure Room (held : Nat) (c : ClientControl) : Prop where
  cap : c.proxyProfiles.cap = c.confNum
  count_le : c.initProfiles ≤ c.confNum
  length_le : c.proxyProfiles.items.length + held ≤ c.initProfiles

/-- The profiles the loops may look for are in the pool. -/
structure Findable (c : ClientControl) : Prop where
  room : Room 0 c
  errors : ∀ id, id ≠ [] → 0 < c.errorid.get id 0 → id ∈ ids c
  overdue : ∀ id, 4 < c.errorid.get id 0 → c.reportingMark.has id = false → id ∈ ids c

/-! ### Calls that only add to the pool -/

section Since

variable {wait : Prop} {w : World} {base : ClientControl}

/-- `c` has every profile of `base`, those in `held` taken out of the pool, and no new errors. -/
structure Since (base : ClientControl) (held : List ProtocolConfig) (c : ClientControl) : Prop where
  room : Room held.length c
  confNum : c.confNum = base.confNum
  pool : (ids base).Subperm (held.map (·.id) ++ ids c)
  errors : ∀ id, 0 < c.errorid.get id 0 → c.errorid.get id 0 = base.errorid.get id 0
  marks : c.reportingMark = base.reportingMark

theorem Since.refl {c : ClientControl} (hroom : Room 0 c) : Since c [] c :=
  ⟨hroom, rfl, List.Subperm.refl _, fun _ _ => rfl, rfl⟩

/-- The other fields do not matter. -/
theorem Room.keep {held : Nat} {c c' : ClientControl} (h : Room held c)
    (hprofiles : c'.proxyProfiles = c.proxyProfiles) (hinit : c'.initProfiles = c.initProfiles)
    (hnum : c'.confNum = c.confNum) : Room held c' := by
  refine ⟨?_, ?_, ?_⟩
  · rw [hprofiles, hnum]
    exact h.cap
  · rw [hinit, hnum]
    exact h.count_le
  · rw [hinit, hprofiles]
    exact h.length_le

theorem Room.stable {held : Nat} : Stable (Room held) :=
  fun _ _ hbooks h => h.keep hbooks.proxyProfiles hbooks.initProfiles hbooks.confNum

theorem Since.stable {held : List ProtocolConfig} : Stable (Since base held) := by
  intro c c' hbooks h
  refine ⟨Room.stable c c' hbooks h.room, hbooks.confNum.trans h.confNum, ?_, ?_, hbooks.reportingMark.trans h.marks⟩
  · unfold ids
    rw [hbooks.proxyProfiles]
    exact h.pool
  · rw [hbooks.errorid]
    exact h.errors

theorem Room.recv {held : Nat} {c : ClientControl} {conf : ProtocolConfig} {ch : Chan ProtocolConfig}
    (h : Room held c) (hrecv : c.proxyProfiles.recv = some (conf, ch)) :
    Room (held + 1) { c with proxyProfiles := ch } := by
  obtain ⟨hitems, hcap⟩ := Chan.recv_eq_some.mp hrecv
  have hlength := h.length_le
  rw [hitems, List.length_cons] at hlength
  refine ⟨hcap.trans h.cap, h.count_le, ?_⟩
  show ch.items.length + ((held + 1 : Nat) : Int) ≤ c.initProfiles
  push_cast at hlength ⊢
  omega

theorem Room.length_ids_le {held : Nat} {c : ClientControl} (h : Room held c) : (ids c).length ≤ c.confNum := by
  have hlength := h.length_le
  have hcount := h.count_le
  rw [ids, List.length_map]
  omega

theorem ids_recv {c : ClientControl} {conf : ProtocolConfig} {ch : Chan ProtocolConfig}
    (hrecv : c.proxyProfiles.recv = some (conf, ch)) : ids c = conf.id :: ids { c with proxyProfiles := ch } := by
  obtain ⟨hitems, -⟩ := Chan.recv_eq_some.mp hrecv
  unfold ids
  rw [hitems, List.map_cons]

/-- A profile that is counted and not in the pool can be put in. -/
theorem ids_eq_nil {c : ClientControl} (hrecv : c.proxyProfiles.recv = none) : ids c = [] := by
  unfold ids
  rw [Chan.recv_eq_none.mp hrecv, List.map_nil]

/-- The pool has the same profiles once the one taken out is put back. -/
theorem ids_turn {c c' : ClientControl} {conf : ProtocolConfig} {ch : Chan ProtocolConfig}
    (hrecv : c.proxyProfiles.recv = some (conf, ch)) (hids : ids c' = ids { c with proxyProfiles := ch } ++ [conf.id]) :
    (ids c').Perm (ids c) := by
  rw [hids, ids_recv hrecv]
  exact List.perm_append_singleton _ _

theorem pushProfile_spec {held : Nat} {c : ClientControl} (h : Room (held + 1) c) (conf : ProtocolConfig) :
    Triple wait (fun s => s = c) (pushProfile conf) fun _ s =>
      (∃ ch, s = { c with proxyProfiles := ch }) ∧ Room held s ∧ ids s = ids c ++ [conf.id] := by
  apply Triple.get
  intro s hs
  rw [hs]
  have hlength := h.length_le
  have hcount := h.count_le
  have hroom : c.proxyProfiles.items.length < c.proxyProfiles.cap := by
    rw [h.cap]
    push_cast at hlength
    omega
  obtain ⟨ch, hsend⟩ := Chan.exists_send conf hroom
  obtain ⟨hitems, hcap⟩ := Chan.send_eq_some.mp hsend
  rw [hsend]
  apply Triple.modify
  intro s hs
  rw [hs]
  refine ⟨⟨ch, rfl⟩, ⟨hcap.trans h.cap, hcount, ?_⟩, ?_⟩
  · show ch.items.length + (held : Int) ≤ c.initProfiles
    rw [hitems, List.length_append, List.length_singleton]
    push_cast at hlength ⊢
    omega
  · unfold ids
    rw [hitems, List.map_append]
    rfl

theorem pushProfile_since (conf : ProtocolConfig) :
    Triple wait (Since base [conf]) (pushProfile conf) fun _ c => Since base [] c ∧ ids c ≠ [] := by
  refine Triple.for_each fun c hc => (pushProfile_spec hc.room conf).post ?_
  rintro _ s ⟨⟨ch, rfl⟩, hroom, hids⟩
  refine ⟨⟨hroom, hc.confNum, ?_, hc.errors, hc.marks⟩, by rw [hids]; simp⟩
  rw [hids]
  exact hc.pool.trans (List.perm_append_singleton _ _).symm.subperm

/-- Where a profile is obtained for the pool nothing is lost. It may be waited for only on an empty pool. -/
theorem getAviableProxy_since (tp : Option Str) :
    Triple wait (fun c => Since base [] c ∧ (wait ∨ ids c ≠ [])) (getAviableProxy w tp) fun r c =>
      match r with
      | none => Since base [] c ∧ (wait ∨ ids c ≠ [])
      | some conf => Since base [conf] c := by
  refine Triple.for_each fun c hc => ((getAviableProxy_spec tp c).mono fun hempty => ?_).post fun r s hobtained => ?_
  · refine hc.2.resolve_right fun hne => hne ?_
    unfold ids
    rw [hempty.2, List.map_nil]
  have hc' := hc.1
  cases hobtained with
  | queued conf ch _ hrecv =>
    refine ⟨hc'.room.recv hrecv, hc'.confNum, ?_, hc'.errors, hc'.marks⟩
    have hpool := hc'.pool
    rw [ids_recv hrecv] at hpool
    exact hpool
  | failed new _ _ => exact ⟨⟨hc'.room.keep rfl rfl rfl, hc'.confNum, hc'.pool, hc'.errors, hc'.marks⟩, hc.2⟩
  | fetched conf server reply more hroom _ _ =>
    have hlength := hc'.room.length_le
    refine ⟨⟨hc'.room.cap, by show c.initProfiles + 1 ≤ c.confNum; omega, ?_⟩, hc'.confNum, ?_, ?_, hc'.marks⟩
    · show c.proxyProfiles.items.length + ((1 : Nat) : Int) ≤ c.initProfiles + 1
      push_cast at hlength ⊢
      omega
    · exact hc'.pool.trans (List.sublist_cons_self _ _).subperm
    · intro id hpos
      have hget : Dict.get (c.errorid.insert conf.id 0) id 0 = c.errorid.get id 0 := Dict.get_insert_zero hpos
      rw [hget] at hpos ⊢
      exact hc'.errors id hpos

theorem poolContract_since :
    PoolContract wait w (fun c => Since base [] c ∧ (wait ∨ ids c ≠ [])) fun conf => Since base [conf] where
  stable := by
    intro c c' hbooks h
    refine ⟨Since.stable c c' hbooks h.1, h.2.imp_right ?_⟩
    unfold ids
    rw [hbooks.proxyProfiles]
    exact id
  get := getAviableProxy_since
  push conf := (pushProfile_since conf).post fun _ _ h => ⟨h.1, Or.inr h.2⟩

end Since

/-! ### Replacing one profile -/

section Loops

variable {w : World}

/-- `ErrSoGetNew` for a profile taken out of the pool: it may put another in, and unmarks at most `id`. -/
structure Replaced (id : Str) (c s : ClientControl) : Prop where
  room : Room 0 s
  confNum : s.confNum = c.confNum
  pool : (ids c).Subperm (ids s)
  errors : ∀ k, 0 < s.errorid.get k 0 → s.errorid.get k 0 = c.errorid.get k 0
  marks : ∀ k, s.reportingMark.has k = false → k = id ∨ c.reportingMark.has k = false

theorem Room.of_succ {held : Nat} {c : ClientControl} (h : Room (held + 1) c) : Room held c := by
  have hlength := h.length_le
  push_cast at hlength
  exact ⟨h.cap, h.count_le, by omega⟩

theorem Replaced.trans {id : Str} {c c' s : ClientControl} (hpool : (ids c).Subperm (ids c'))
    (hnum : c'.confNum = c.confNum) (herrors : ∀ k, 0 < c'.errorid.get k 0 → c'.errorid.get k 0 = c.errorid.get k 0)
    (hmarks : ∀ k, c'.reportingMark.has k = false → k = id ∨ c.reportingMark.has k = false) (h : Since c' [] s) :
    Replaced id c s where
  room := h.room
  confNum := h.confNum.trans hnum
  pool := hpool.trans h.pool
  errors k hk := (h.errors k hk).trans (herrors k (h.errors k hk ▸ hk))
  marks k hk := hmarks k (h.marks ▸ hk)

theorem replaceProfile_spec {c : ClientControl} (hroom : Room 1 c) (id : Str) (conf : ProtocolConfig) :
    Triple False (fun s => s = c) (replaceProfile w id conf) fun _ => Replaced id c := by
  refine Triple.bind (pushProfile_spec hroom conf) fun _ => Triple.for_each fun s hs => ?_
  obtain ⟨⟨ch, hs⟩, hroom', hids⟩ := hs
  apply Triple.modify_bind
  have hstart : Since (received id conf s) [] (received id conf s) :=
    Since.refl (hroom'.keep rfl rfl rfl)
  have hids' : ids (received id conf s) = ids c ++ [conf.id] := hids
  have hbusy : False ∨ ids (received id conf s) ≠ [] := Or.inr (by rw [hids']; simp)
  refine ((poolContract_since.sessions.fixBuildSmux id).of_state ⟨hstart, hbusy⟩).post fun _ s' hs' => ?_
  refine Replaced.trans ?_ (by rw [hs]; rfl) (fun k hk => ?_) (fun k hk => ?_) hs'.1
  · rw [hids']
    exact (List.sublist_append_left _ _).subperm
  · rw [hs] at hk ⊢
    exact Dict.get_insert_zero hk
  · rw [hs] at hk
    by_cases heq : k = id
    · exact Or.inl heq
    · exact Or.inr (Dict.has_of_has_erase hk heq)

theorem errSoGetNew_spec {c : ClientControl} (hroom : Room 1 c) (id : Str) (errnum : Int) :
    Triple False (fun s => s = c) (errSoGetNew w id errnum) fun _ => Replaced id c := by
  have hlost : ∀ (route : Int) (trace : List Event),
      Replaced id c { c with routeErrCount := route, trace := trace } := fun route trace =>
    ⟨hroom.of_succ.keep rfl rfl rfl, rfl, List.Subperm.refl _, fun _ _ => rfl, fun _ h => Or.inr h⟩
  apply Triple.modify_bind
  refine Triple.ite (fun _ => Triple.pure fun s hs => by rw [hs]; exact hlost _ _) fun _ => ?_
  refine Triple.bind (askReplacement_spec id _) fun r => Triple.for_each fun s hasked => ?_
  cases hasked with
  | lost reply err errs _ _ =>
    apply Triple.pure
    intro s hs
    rw [hs]
    exact hlost _ _
  | answered conf reply err errs _ _ server =>
    refine (replaceProfile_spec (by exact hroom.keep rfl rfl rfl) id _).post fun _ s hs => ?_
    exact ⟨hs.room, hs.confNum, hs.pool, hs.errors, hs.marks⟩

/-! ### The loop of `ReportErrorProxy` -/

/-- The loop ends where the pool holds `left` profiles it looks for, with fuel for one turn of the pool for
each of them. -/
theorem reportLoop_ends (looked : List Str) (num fuel left : Nat) :
    Triple False (fun c => Room 0 c ∧ c.confNum = num ∧ left ≤ (ids c).countP (· ∈ looked) ∧
        (0 < left → (ids c).findIdx (· ∈ looked) + 1 + (left - 1) * (num + 1) ≤ fuel))
      (reportLoop w looked fuel left) fun _ _ => True := by
  induction fuel generalizing left with
  | zero =>
    cases left with
    | zero => exact Triple.pure fun _ _ => trivial
    | succ left => exact Triple.of_false fun c hc => by have := hc.2.2.2 (by omega); omega
  | succ fuel ih =>
    cases left with
    | zero => exact Triple.pure fun _ _ => trivial
    | succ left =>
      apply Triple.get
      intro c hc
      obtain ⟨hroom, hnum, hcount, hfuel⟩ := hc
      have hfuel := hfuel (by omega)
      rcases hrecv : c.proxyProfiles.recv with _ | ⟨conf, ch⟩
      · rw [ids_eq_nil hrecv] at hcount
        simp at hcount
      have hids := ids_recv hrecv
      have hheld := hroom.recv hrecv
      rw [hids] at hcount hfuel
      apply Triple.modify_bind
      refine Triple.ite (fun hmem => ?_) fun hmem => ?_
      · rw [List.countP_cons_of_pos (by simpa using hmem)] at hcount
        apply Triple.modify_bind
        refine Triple.bind (errSoGetNew_spec (by exact hheld.keep rfl rfl rfl) _ _) fun _ => ?_
        apply (ih left).pre
        intro s hs
        have hmore : left ≤ (ids s).countP (· ∈ looked) := by
          have := hs.pool.countP_le (· ∈ looked)
          exact (Nat.le_of_succ_le_succ hcount).trans this
        refine ⟨hs.room, hs.confNum.trans hnum, hmore, fun hpos => ?_⟩
        obtain ⟨l, rfl⟩ : ∃ l, left = l + 1 := ⟨left - 1, by omega⟩
        have hfound : (ids s).findIdx (· ∈ looked) < (ids s).length :=
          List.findIdx_lt_length_of_exists (List.countP_pos_iff.mp (by omega))
        have hlength : (ids s).length ≤ num := hs.room.length_ids_le.trans (hs.confNum.trans hnum).le
        have hmul := Nat.add_one_mul l (num + 1)
        simp only [Nat.add_sub_cancel] at hfuel ⊢
        omega
      · rw [List.countP_cons_of_neg (by simpa using hmem)] at hcount
        refine Triple.bind (pushProfile_spec hheld conf) fun _ => (ih (left + 1)).pre ?_
        rintro s ⟨⟨ch', rfl⟩, hroom', hids'⟩
        have hexists : ∃ y ∈ ids { c with proxyProfiles := ch }, decide (y ∈ looked) = true :=
          List.countP_pos_iff.mp (by omega)
        have hturn := findIdx_turn (p := (· ∈ looked)) (by simpa using hmem) hexists
        refine ⟨hroom', hnum, ?_, fun _ => ?_⟩
        · rw [hids', List.countP_append]
          omega
        · rw [hids']
          rw [← hturn] at hfuel
          omega

theorem Findable.turned {c : ClientControl} {ch : Chan ProtocolConfig} (h : Findable c)
    (hroom : Room 0 { c with proxyProfiles := ch }) (hperm : (ids { c with proxyProfiles := ch }).Perm (ids c)) :
    Findable { c with proxyProfiles := ch } :=
  ⟨hroom, fun id hne hpos => hperm.mem_iff.mpr (h.errors id hne hpos), fun id hover hmark =>
    hperm.mem_iff.mpr (h.overdue id hover hmark)⟩

/-- Where more profiles of each ID are in the pool than the loop replaces, it leaves one of each. -/
theorem reportLoop_findable (looked : List Str) (fuel left : Nat) :
    Triple True (fun c => Findable c ∧ ∀ id ∈ looked, left < (ids c).count id) (reportLoop w looked fuel left)
      fun _ => Findable := by
  induction fuel generalizing left with
  | zero =>
    cases left with
    | zero => exact Triple.pure fun _ h => h.1
    | succ left => exact Triple.waiting fun _ _ => trivial
  | succ fuel ih =>
    cases left with
    | zero => exact Triple.pure fun _ h => h.1
    | succ left =>
      apply Triple.get
      intro c hc
      obtain ⟨hfind, hcopies⟩ := hc
      rcases hrecv : c.proxyProfiles.recv with _ | ⟨conf, ch⟩
      · exact Triple.waiting fun _ _ => trivial
      have hids := ids_recv hrecv
      have hheld := hfind.room.recv hrecv
      apply Triple.modify_bind
      refine Triple.ite (fun hmem => ?_) fun hmem => ?_
      · apply Triple.modify_bind
        refine Triple.bind (((errSoGetNew_spec (by exact hheld.keep rfl rfl rfl) _ _).mono False.elim)) fun _ => ?_
        apply (ih left).pre
        intro s hs
        -- every ID of the pool is still there: of the one taken out there was another profile
        have hcount : ∀ id ∈ looked, left < (ids s).count id := by
          intro id hid
          have h₁ := hcopies id hid
          rw [hids, List.count_cons] at h₁
          have h₂ : (ids { c with proxyProfiles := ch }).count id ≤ (ids s).count id := hs.pool.countP_le _
          split_ifs at h₁ <;> omega
        have hstill : ∀ id ∈ ids c, id ∈ ids s := by
          intro id hid
          rw [hids] at hid
          rcases List.mem_cons.mp hid with rfl | hrest
          · exact List.count_pos_iff.mp (Nat.zero_lt_of_lt (hcount _ hmem))
          · exact hs.pool.subset hrest
        refine ⟨⟨hs.room, fun id hne hpos => hstill id (hfind.errors id hne ?_), fun id hover hmark => ?_⟩, hcount⟩
        · have := hs.errors id hpos
          rw [this] at hpos
          exact hpos
        · rcases hs.marks id hmark with rfl | hmark'
          · exact List.count_pos_iff.mp (Nat.zero_lt_of_lt (hcount _ hmem))
          · have := hs.errors id (by omega)
            rw [this] at hover
            exact hstill id (hfind.overdue id hover hmark')
      · refine Triple.bind (pushProfile_spec hheld conf) fun _ => (ih (left + 1)).pre ?_
        rintro s ⟨⟨ch', rfl⟩, hroom', hids'⟩
        have hperm : (ids { c with proxyProfiles := ch' }).Perm (ids c) := ids_turn hrecv hids'
        refine ⟨hfind.turned hroom' hperm, fun id hid => ?_⟩
        rw [hperm.count_eq]
        exact hcopies id hid

/-! ### The loop of `AutoSwitchProfile` -/

theorem Findable.without {c s : ClientControl} {conf : ProtocolConfig} {ch : Chan ProtocolConfig} (h : Findable c)
    (hrecv : c.proxyProfiles.recv = some (conf, ch)) (hzero : c.errorid.get conf.id 0 = 0) (hroom : Room 0 s)
    (hsub : ∀ id ∈ ids { c with proxyProfiles := ch }, id ∈ ids s)
    (herrors : ∀ id, 0 < s.errorid.get id 0 → s.errorid.get id 0 = c.errorid.get id 0)
    (hmarks : s.reportingMark = c.reportingMark) : Findable s := by
  have hmem : ∀ id, 0 < c.errorid.get id 0 → id ∈ ids c → id ∈ ids s := by
    intro id hpos hid
    rw [ids_recv hrecv] at hid
    rcases List.mem_cons.mp hid with rfl | hrest
    · rw [hzero] at hpos
      exact absurd hpos (lt_irrefl 0)
    · exact hsub id hrest
  refine ⟨hroom, fun id hne hpos => ?_, fun id hover hmark => ?_⟩
  · have hget := herrors id hpos
    rw [hget] at hpos
    exact hmem id hpos (h.errors id hne hpos)
  · have hget := herrors id (by omega)
    rw [hget] at hover
    rw [hmarks] at hmark
    exact hmem id (by omega) (h.overdue id hover hmark)

theorem switch_findable {wait : Prop} {c : ClientControl} {conf : ProtocolConfig} {ch : Chan ProtocolConfig}
    (h : Findable c) (hrecv : c.proxyProfiles.recv = some (conf, ch)) (hzero : c.errorid.get conf.id 0 = 0) :
    Triple wait (fun s => s = { c with proxyProfiles := ch, initProfiles := c.initProfiles - 1 })
      (do match ← getAviableProxy w none with
          | none => return ()
          | some newconf => do
              pushProfile newconf
              modify fun c => { c with errorid := c.errorid.insert newconf.id 0 })
      fun _ => Findable := by
  obtain ⟨hcap, hcount, hlength⟩ := h.room.recv hrecv
  push_cast at hlength
  dsimp only at hcap hcount hlength
  refine Triple.bind ((getAviableProxy_spec none _).mono fun hwait => ?_) fun r => Triple.for_each fun s hobtained => ?_
  · have hfull := hwait.1
    dsimp only at hfull
    omega
  cases hobtained with
  | queued conf' ch' hfull _ =>
    dsimp only at hfull
    omega
  | failed new _ _ =>
    apply Triple.pure
    intro s hs
    rw [hs]
    refine h.without hrecv hzero ⟨hcap, ?_, ?_⟩ (fun id hid => hid) (fun id _ => rfl) rfl
    · show c.initProfiles - 1 ≤ c.confNum
      omega
    · show ch.items.length + ((0 : Nat) : Int) ≤ c.initProfiles - 1
      push_cast
      omega
  | fetched conf' server reply more hroom _ _ =>
    dsimp only at hroom
    have hheld : Room (0 + 1) { c with
        proxyProfiles := ch
        initProfiles := c.initProfiles - 1 + 1
        errorid := c.errorid.insert conf'.id 0
        trace := .post (proxyGet w c.addr none) reply none :: (more ++ c.trace) } := by
      refine ⟨hcap, ?_, ?_⟩
      · show c.initProfiles - 1 + 1 ≤ c.confNum
        omega
      · show ch.items.length + ((0 + 1 : Nat) : Int) ≤ c.initProfiles - 1 + 1
        push_cast
        omega
    refine Triple.bind (pushProfile_spec hheld _) fun _ => Triple.modify ?_
    rintro s ⟨⟨ch', rfl⟩, hroom', hids'⟩
    have hids : ids { c with proxyProfiles := ch' } = ids { c with proxyProfiles := ch } ++ [_] := hids'
    refine h.without hrecv hzero (hroom'.keep rfl rfl rfl) (fun id hid => ?_) (fun id hpos => ?_) rfl
    · show id ∈ ids { c with proxyProfiles := ch' }
      rw [hids]
      exact List.mem_append_left _ hid
    · have hget := Dict.get_insert_zero hpos
      rw [hget] at hpos ⊢
      exact Dict.get_insert_zero hpos

/-- The loop keeps what may be looked for, and ends where the pool holds `maxid`, with fuel for one turn. -/
theorem switchLoop_findable {wait : Prop} (maxid : Str) (fuel : Nat) :
    Triple wait (fun c => Findable c ∧ c.errorid.get maxid 0 = 0 ∧
        (wait ∨ maxid ∈ ids c ∧ (ids c).findIdx (· = maxid) + 1 ≤ fuel))
      (switchLoop w maxid fuel) fun _ => Findable := by
  induction fuel with
  | zero => exact Triple.waiting fun c hc => hc.2.2.resolve_right fun h => by omega
  | succ fuel ih =>
    apply Triple.get
    intro c hc
    obtain ⟨hfind, hzero, hfuel⟩ := hc
    rcases hrecv : c.proxyProfiles.recv with _ | ⟨conf, ch⟩
    · refine Triple.waiting fun s hs => hfuel.resolve_right fun h => ?_
      rw [ids_eq_nil hrecv] at h
      cases h.1
    have hids := ids_recv hrecv
    rw [hids] at hfuel
    apply Triple.modify_bind
    refine Triple.ite (fun hmax => ?_) fun hmax => ?_
    · apply Triple.modify_bind
      exact switch_findable (c := c) hfind hrecv (hmax ▸ hzero)
    · refine Triple.bind (pushProfile_spec (hfind.room.recv hrecv) conf) fun _ => ih.pre ?_
      rintro s ⟨⟨ch', rfl⟩, hroom', hids'⟩
      have hperm : (ids { c with proxyProfiles := ch' }).Perm (ids c) := ids_turn hrecv hids'
      refine ⟨hfind.turned hroom' hperm, hzero, hfuel.imp_right fun h => ?_⟩
      have hmem : maxid ∈ ids { c with proxyProfiles := ch } :=
        (List.mem_cons.mp h.1).resolve_left fun heq => hmax heq.symm
      have hturn := findIdx_turn (p := (· = maxid)) (by simpa using hmax) ⟨maxid, hmem, by simp⟩
      rw [hids']
      refine ⟨List.mem_append_left _ hmem, ?_⟩
      rw [← hturn] at h
      omega

end Loops

end ProxyZ.Client
