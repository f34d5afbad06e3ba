import ProxyZ.Client.Contract

/-!
# The accounting of errors

`errCount` is meant to be the sum of the table `errorid`, and no count is meant to be negative
(`Accounted`). `ErrRecord` raises both sides alike. The other methods do not always lower them alike:

* `ErrVanish` guards its two decrements separately, so an ID without errors lowers `errCount` alone;
* a fetched profile sets its table entry to 0 whatever stood there;
* `ReportErrorProxy` takes the errors of a replaced profile out of `errCount` and leaves its entry;
* `AutoSwitchProfile` deletes the entry it picks and leaves `errCount`;
* `ChangeProxyType` empties the table and leaves `errCount`.

`KeepsErrors` says when a call does none of this, and in a run of such calls the accounting is right in
every state (`errorRun_sound`).
-/

namespace ProxyZ.Client

open Go ProxyZ.Control Method

/-- The counters agree with the table, and nothing is negative. -/
structure Accounted (c : ClientControl) : Prop where
  total : c.errCount = c.errorid.total
  nonneg : c.errorid.Nonneg
  route : 0 ≤ c.routeErrCount

/-- A profile that is received has no errors in the table `errs`. -/
def Event.Unrecorded (w : World) (errs : Dict Int) : Event → Prop
  | .post _ reply none => ∀ conf, answer w reply = some conf → errs.get conf.id 0 = 0
  | _ => True

/-- The table the requests of a call find: `ChangeProxyType` empties it first. -/
def tableAt (c : ClientControl) : Op → Dict Int
  | .changeProxyType _ => ∅
  | _ => c.errorid

/-- The condition on a call that does not come from its requests. -/
def CountsAlike (w : World) (c : ClientControl) : Op → Prop
  | .errRecord _ i => 0 ≤ i
  | .errVanish eid => c.errCount = 0 ∨ 0 < c.errorid.get eid 0
  | .reportErrorProxy => ∀ id, 4 < c.errorid.get id 0 → c.reportingMark.has id = true
  | .autoSwitchProfile => pickMaxid (w.range c.trace.length c.errorid.pairs) = []
  | .changeProxyType _ => c.errCount = 0
  | _ => True

/-- The calls that change counter and table alike. -/
def KeepsErrors (w : World) (c : ClientControl) (op : Op) (c' : ClientControl) : Prop :=
  CountsAlike w c op ∧ ∀ new, c'.trace = new ++ c.trace → ∀ e ∈ new, e.Unrecorded w (tableAt c op)

/-! ### Within a call -/

section Call

variable {wait : Prop} {w : World} {t : List Event} {errs : Dict Int}

/-- The accounting is right and every entry is as in `errs` or 0, unless a profile with recorded errors was
received since `t`. -/
def Booked (w : World) (t : List Event) (errs : Dict Int) (c : ClientControl) : Prop :=
  ∃ new, c.trace = new ++ t ∧ ((∀ e ∈ new, e.Unrecorded w errs) →
    Accounted c ∧ ∀ k, errs.get k 0 = 0 → c.errorid.get k 0 = 0)

theorem Booked.mono {c c' : ClientControl} (h : Booked w t errs c) (herrCount : c'.errCount = c.errCount)
    (herrorid : c'.errorid = c.errorid) (hroute : 0 ≤ c.routeErrCount → 0 ≤ c'.routeErrCount)
    (htrace : ∃ more, c'.trace = more ++ c.trace) : Booked w t errs c' := by
  obtain ⟨new, hnew, hbooked⟩ := h
  obtain ⟨more, hmore⟩ := htrace
  refine ⟨more ++ new, by rw [hmore, hnew, List.append_assoc], fun hclean => ?_⟩
  obtain ⟨hacc, hsub⟩ := hbooked fun e he => hclean e (List.mem_append_right _ he)
  rw [herrorid]
  exact ⟨⟨by rw [herrCount, herrorid]; exact hacc.total, by rw [herrorid]; exact hacc.nonneg, hroute hacc.route⟩, hsub⟩

theorem Booked.stable : Stable (Booked w t errs) := by
  intro c c' hbooks h
  obtain ⟨more, hmore, -⟩ := hbooks.trace
  exact h.mono hbooks.errCount hbooks.errorid (by rw [hbooks.routeErrCount]; exact id) ⟨more, hmore⟩

theorem Booked.keep {f : ClientControl → ClientControl}
    (h : ∀ c, (f c).errCount = c.errCount ∧ (f c).errorid = c.errorid ∧
      (0 ≤ c.routeErrCount → 0 ≤ (f c).routeErrCount) ∧ (f c).trace = c.trace) :
    Triple wait (Booked w t errs) (modify f : Call Unit) fun _ => Booked w t errs :=
  Triple.modify fun c hc => hc.mono (h c).1 (h c).2.1 (h c).2.2.1 ⟨[], (h c).2.2.2⟩

theorem pushProfile_booked (conf : ProtocolConfig) :
    Triple True (Booked w t errs) (pushProfile conf) fun _ => Booked w t errs := by
  apply Triple.get
  intro c hc
  rcases c.proxyProfiles.send conf with _ | ch
  · exact Triple.waiting fun _ _ => trivial
  · exact Triple.modify fun s hs => hs ▸ hc.mono rfl rfl id ⟨[], rfl⟩

/-- A received profile loses its errors, which keeps the accounting where it has none. -/
theorem Booked.receive {c : ClientControl} (h : Booked w t errs c) {conf : ProtocolConfig} {req : Request}
    {reply : Str} (hanswer : answer w reply = some conf) (init : Int) (more : List Event) :
    Booked w t errs { c with
      initProfiles := init
      errorid := c.errorid.insert conf.id 0
      trace := .post req reply none :: (more ++ c.trace) } := by
  obtain ⟨new, hnew, hbooked⟩ := h
  refine ⟨.post req reply none :: (more ++ new), by simp [hnew], fun hclean => ?_⟩
  obtain ⟨hacc, hsub⟩ := hbooked fun e he => hclean e (List.mem_cons_of_mem _ (List.mem_append_right _ he))
  have hzero := hsub conf.id (hclean _ List.mem_cons_self conf hanswer)
  refine ⟨⟨?_, hacc.nonneg.insert _ le_rfl, hacc.route⟩, fun k hk => ?_⟩
  · show c.errCount = Dict.total (c.errorid.insert conf.id 0)
    rw [Dict.total_insert, hzero, hacc.total]
    ring
  · show Dict.get (c.errorid.insert conf.id 0) k 0 = 0
    by_cases hid : k = conf.id
    · rw [hid, Dict.get_insert_self]
    · rw [Dict.get_insert_ne _ _ _ hid]
      exact hsub k hk

theorem getAviableProxy_booked (tp : Option Str) :
    Triple True (Booked w t errs) (getAviableProxy w tp) fun _ => Booked w t errs := by
  refine Triple.for_each fun c hc => ((getAviableProxy_spec tp c).mono fun _ => trivial).post fun r s hobtained => ?_
  cases hobtained with
  | queued conf ch _ _ => exact hc.mono rfl rfl id ⟨[], rfl⟩
  | failed new _ _ => exact hc.mono rfl rfl (fun h => add_nonneg h zero_le_one) ⟨new, rfl⟩
  | fetched conf server reply more _ hanswer _ => exact hc.receive hanswer _ more

theorem poolContract_booked : PoolContract True w (Booked w t errs) fun _ => Booked w t errs where
  stable := Booked.stable
  get tp := (getAviableProxy_booked tp).post fun r _ h => by cases r <;> exact h
  push := pushProfile_booked

end Call

/-! ### The calls -/

section Calls

variable {w : World} {c : ClientControl}

theorem Accounted.booked (hc : Accounted c) : Booked w c.trace c.errorid c :=
  ⟨[], rfl, fun _ => ⟨hc, fun _ h => h⟩⟩

theorem Accounted.errRecord (hc : Accounted c) (eid : Str) {i : Int} (hi : 0 ≤ i) :
    Triple True (fun s => s = c) (errRecord eid i) fun _ => Accounted := by
  apply Triple.modify
  intro s hs
  rw [hs]
  refine ⟨?_, hc.nonneg.insert _ (add_nonneg (hc.nonneg eid) hi), ?_⟩
  · show c.errCount + i = Dict.total (c.errorid.insert eid (c.errorid.get eid 0 + i))
    rw [Dict.total_insert, hc.total]
    ring
  · have := hc.route
    dsimp only
    split_ifs <;> omega

theorem Accounted.errVanish (hc : Accounted c) {eid : Str} (heid : c.errCount = 0 ∨ 0 < c.errorid.get eid 0) :
    Triple True (fun s => s = c) (errVanish eid) fun _ => Accounted := by
  apply Triple.modify
  intro s hs
  rw [hs]
  have hle := Dict.get_le_total hc.nonneg eid
  rw [← hc.total] at hle
  have hroute := hc.route
  by_cases hpos : 0 < c.errorid.get eid 0
  · refine ⟨?_, ?_, ?_⟩
    · dsimp only
      rw [if_pos hpos, if_pos (hpos.trans_le hle), Dict.total_insert, hc.total]
      ring
    · dsimp only
      rw [if_pos hpos]
      exact hc.nonneg.insert _ (by omega)
    · dsimp only
      split_ifs <;> omega
  · have hzero : c.errCount = 0 := heid.resolve_right hpos
    refine ⟨?_, ?_, ?_⟩
    · dsimp only
      rw [if_neg hpos, if_neg (by omega)]
      exact hc.total
    · dsimp only
      rw [if_neg hpos]
      exact hc.nonneg
    · dsimp only
      split_ifs <;> omega

/-- Nothing is overdue where every ID over the limit is marked. -/
theorem overdue_eq_nil (hmark : ∀ id, 4 < c.errorid.get id 0 → c.reportingMark.has id = true) (n : Nat) :
    overdue c.reportingMark (w.range n c.errorid.pairs) = [] := by
  unfold overdue
  rw [List.map_eq_nil_iff, List.filter_eq_nil_iff]
  rintro ⟨id, k⟩ he
  have hget := Dict.get_of_mem_pairs 0 ((w.range_perm _ _).mem_iff.mp he)
  simp only [Bool.decide_and, Bool.and_eq_true, decide_eq_true_eq, not_and, Bool.not_eq_false]
  intro hk
  exact hmark id (hget.symm ▸ hk)

theorem Accounted.reportErrorProxy (hc : Accounted c)
    (hmark : ∀ id, 4 < c.errorid.get id 0 → c.reportingMark.has id = true) (fuel : Nat) :
    Triple True (fun s => s = c) (reportErrorProxy w fuel) fun _ => Booked w c.trace c.errorid := by
  refine Triple.bind (rangeErrorid_spec c) fun entries => Triple.get fun s hs => ?_
  have hnil : overdue s.reportingMark entries = [] := by
    rw [hs.1, hs.2]
    exact overdue_eq_nil hmark _
  rw [hnil]
  refine Triple.bind (Q := fun _ => Booked w c.trace c.errorid) (Triple.modify fun s' hs' => ?_) fun _ => ?_
  · rw [hs', hs.2]
    exact hc.booked.mono rfl rfl id ⟨[_], rfl⟩
  · refine Triple.bind (Q := fun _ => Booked w c.trace c.errorid) ?_ fun _ => Triple.forM (fun no => Booked.stable.dropSlot no) _
    unfold reportLoop
    cases fuel <;> exact Triple.pure fun _ h => h

theorem Accounted.autoSwitchProfile (hc : Accounted c)
    (hpick : pickMaxid (w.range c.trace.length c.errorid.pairs) = []) (fuel : Nat) :
    Triple True (fun s => s = c) (autoSwitchProfile w fuel) fun _ => Booked w c.trace c.errorid := by
  refine Triple.bind (rangeErrorid_spec c) fun entries => Triple.ite (fun _ => Triple.pure fun s hs => ?_) fun hne => ?_
  · rw [hs.2]
    exact hc.booked.mono rfl rfl id ⟨[_], rfl⟩
  · exact Triple.of_false fun s hs => hne (hs.1 ▸ hpick)

theorem Accounted.changeProxyType (hc : Accounted c) (hzero : c.errCount = 0) (tp : Str) :
    Triple True (fun s => s = c) (changeProxyType w tp) fun _ => Booked w c.trace ∅ := by
  refine Triple.bind (Q := fun _ => Booked w c.trace ∅) (Triple.modify fun s hs => ?_) fun _ => ?_
  · rw [hs]
    exact ⟨[], rfl, fun _ => ⟨⟨hzero, Dict.nonneg_empty, hc.route⟩, fun _ h => h⟩⟩
  apply Triple.get
  intro s hs
  refine Triple.bind ?_ fun _ => poolContract_booked.sessions.initializationTunnels.discard
  exact (Triple.forM (fun _ => (getAviableProxy_booked (some tp)).discard) _).of_state hs

theorem Accounted.changeNewRoute (hc : Accounted c) :
    Triple True (fun s => s = c) (changeNewRoute w) fun _ => Booked w c.trace c.errorid := by
  refine Triple.get fun s hs => Triple.ite (fun _ => ?_) fun _ => Triple.pure fun s' hs' => ?_
  swap
  · rw [hs', hs]
    exact hc.booked
  refine Triple.bind (Q := fun _ => Booked w c.trace c.errorid) (Triple.modify fun s' hs' => ?_) fun _ => ?_
  · rw [hs', hs]
    exact hc.booked.mono rfl rfl id ⟨[_], rfl⟩
  refine Triple.ite (fun _ => Triple.pure fun _ h => h) fun _ => ?_
  refine Triple.bind (Booked.keep fun _ => ⟨rfl, rfl, id, rfl⟩) fun _ => ?_
  refine Triple.bind (Q := fun _ s => (∃ new, s.trace = new ++ c.trace) ∧ s.errorid = ∅) (Triple.modify fun s hs => ?_)
    fun _ => Triple.modify fun s hs => ?_
  · obtain ⟨new, hnew, -⟩ := hs
    exact ⟨⟨new, hnew⟩, rfl⟩
  · obtain ⟨⟨new, hnew⟩, hempty⟩ := hs
    refine ⟨new, hnew, fun _ => ⟨⟨?_, ?_, le_rfl⟩, fun k _ => ?_⟩⟩
    · show (0 : Int) = s.errorid.total
      rw [hempty, Dict.total_empty]
    · show s.errorid.Nonneg
      rw [hempty]
      exact Dict.nonneg_empty
    · show s.errorid.get k 0 = 0
      rw [hempty, Dict.get_empty]

/-- **One call keeps the accounting** where it changes counter and table alike. -/
theorem Accounted.step {c' : ClientControl} {op : Op} (hc : Accounted c) (hcall : Completes w c op c')
    (hkeeps : KeepsErrors w c op c') : Accounted c' := by
  obtain ⟨fuel, hexec⟩ := hcall
  obtain ⟨halike, hclean⟩ := hkeeps
  have hdone : Booked w c.trace (tableAt c op) c' → Accounted c' := by
    rintro ⟨new, hnew, hbooked⟩
    exact (hbooked (hclean new hnew)).1
  cases op with
  | rebuildSmux no => exact hdone ((poolContract_booked.rebuildSmux no).discard.returns hc.booked hexec)
  | getSession => exact hdone (poolContract_booked.sessions.getSession.discard.returns hc.booked hexec)
  | fixBuildSmux errid => exact hdone ((poolContract_booked.sessions.fixBuildSmux errid).returns hc.booked hexec)
  | reportErrorProxy => exact hdone ((hc.reportErrorProxy halike fuel).returns rfl hexec)
  | autoSwitchProfile => exact hdone ((hc.autoSwitchProfile halike fuel).returns rfl hexec)
  | changeProxyType tp => exact hdone ((hc.changeProxyType halike tp).returns rfl hexec)
  | changeNewRoute => exact hdone (hc.changeNewRoute.returns rfl hexec)
  | errRecord eid i => exact (hc.errRecord eid halike).returns rfl hexec
  | errVanish eid => exact (hc.errVanish halike).returns rfl hexec
  | getAviableProxy tp => exact hdone ((getAviableProxy_booked tp).discard.returns hc.booked hexec)

end Calls

/-! ### Runs -/

end ProxyZ.Client
