import ProxyZ.Client.Loops

/-!
# Runs in which the loops end

`ErrRecord` breaks `Findable` for an ID that is not in the pool, such as the empty ID that `GetSession` returns
where no profile was obtained. `ReportErrorProxy` breaks it where it takes the last profile of an ID out of
the pool: the errors of that ID stay in the table. `KeepsFindable` excludes these calls, and after a run
without them both loops end, whatever the control server answers (`replaceRun_ends`).
-/

namespace ProxyZ.Client

open Go ProxyZ.Control Method

/-- The IDs `ReportErrorProxy` looks for. -/
def overdueIds (c : ClientControl) : List Str := overdue c.reportingMark c.errorid.pairs

/-- The calls that leave the profiles that may be looked for in the pool: errors are recorded for an ID of
the pool, or stay below what any loop looks for; and `ReportErrorProxy` leaves a profile of every ID it
replaces. -/
def KeepsFindable (c : ClientControl) : Op → Prop
  | .errRecord eid i =>
      eid ∈ ids c ∨ i ≤ 0 ∨ c.errorid.get eid 0 + i ≤ 0 ∨
        eid = [] ∧ (c.errorid.get [] 0 + i ≤ 4 ∨ c.reportingMark.has [] = true)
  | .reportErrorProxy => ∀ id ∈ overdueIds c, (overdueIds c).length < (ids c).count id
  | .errVanish _ | .rebuildSmux _ | .autoSwitchProfile => True
  | _ => False

/-! ### The calls -/

section Calls

variable {w : World} {c : ClientControl}

theorem mem_pickMaxid {entries : List (Str × Int)} (h : pickMaxid entries ≠ []) :
    ∃ n, 0 < n ∧ (pickMaxid entries, n) ∈ entries := by
  unfold pickMaxid at h ⊢
  induction entries using List.reverseRecOn with
  | nil => exact absurd rfl h
  | append_singleton entries e ih =>
    rw [List.foldl_append, List.foldl_cons, List.foldl_nil] at h ⊢
    split_ifs at h ⊢ with hpos
    · exact ⟨e.2, hpos, List.mem_append_right _ List.mem_cons_self⟩
    · obtain ⟨n, hn, hmem⟩ := ih h
      exact ⟨n, hn, List.mem_append_left _ hmem⟩

theorem pickMaxid_pos {n : Nat} (h : pickMaxid (w.range n c.errorid.pairs) ≠ []) :
    0 < c.errorid.get (pickMaxid (w.range n c.errorid.pairs)) 0 := by
  obtain ⟨m, hm, hmem⟩ := mem_pickMaxid h
  rw [Dict.get_of_mem_pairs 0 ((w.range_perm _ _).mem_iff.mp hmem)]
  exact hm

theorem Findable.erase (h : Findable c) (id : Str) (trace : List Event) :
    Findable { c with errorid := c.errorid.erase id, trace := trace } := by
  have hget : ∀ k, 0 < Dict.get (c.errorid.erase id) k 0 → Dict.get (c.errorid.erase id) k 0 = c.errorid.get k 0 := by
    intro k hpos
    by_cases hk : k = id
    · rw [hk, Dict.get_erase_self] at hpos
      exact absurd hpos (lt_irrefl 0)
    · exact Dict.get_erase_ne _ _ hk
  refine ⟨h.room.keep rfl rfl rfl, fun k hne hpos => h.errors k hne ?_,
    fun k hover hmark => h.overdue k ?_ hmark⟩
  · exact hget k hpos ▸ hpos
  · have hover' : 4 < Dict.get (c.errorid.erase id) k 0 := hover
    rw [hget k (by omega)] at hover'
    exact hover'

/-- `AutoSwitchProfile` keeps what may be looked for, and ends on fuel for one turn of the pool. -/
theorem Findable.autoSwitchProfile {wait : Prop} (h : Findable c) (fuel : Nat)
    (hfuel : wait ∨ (ids c).length + 1 ≤ fuel) :
    Triple wait (fun s => s = c) (autoSwitchProfile w fuel) fun _ => Findable := by
  refine Triple.bind (rangeErrorid_spec c) fun entries => Triple.ite (fun _ => Triple.pure fun s hs => ?_) fun hne => ?_
  · rw [hs.2]
    exact ⟨h.room.keep rfl rfl rfl, h.errors, h.overdue⟩
  refine Triple.bind (Triple.modify fun s hs => ?_) fun _ => switchLoop_findable (pickMaxid entries) fuel
  obtain ⟨hentries, rfl⟩ := hs
  refine ⟨h.erase _ _, Dict.get_erase_self _ _ _, hfuel.imp_right fun hlen => ?_⟩
  have hmem : pickMaxid entries ∈ ids c := by
    rw [hentries] at hne ⊢
    exact h.errors _ hne (pickMaxid_pos hne)
  have hfound := List.findIdx_lt_length_of_exists (p := (· = pickMaxid entries)) ⟨_, hmem, by simp⟩
  exact ⟨hmem, show (ids c).findIdx (· = pickMaxid entries) + 1 ≤ fuel by omega⟩

theorem overdue_perm (n : Nat) : (overdue c.reportingMark (w.range n c.errorid.pairs)).Perm (overdueIds c) :=
  ((w.range_perm n c.errorid.pairs).filter _).map _

theorem nodup_overdueIds : (overdueIds c).Nodup :=
  ((List.filter_sublist).map _).nodup (Dict.nodup_pairs _)

theorem mem_overdueIds {id : Str} (h : id ∈ overdueIds c) :
    4 < c.errorid.get id 0 ∧ c.reportingMark.has id = false := by
  obtain ⟨⟨id', n⟩, hmem, rfl⟩ := List.mem_map.mp h
  obtain ⟨hpair, hcond⟩ := List.mem_filter.mp hmem
  rw [Dict.get_of_mem_pairs 0 hpair]
  simpa using hcond

theorem Findable.overdue_subperm (h : Findable c) : (overdueIds c).Subperm (ids c) :=
  List.subperm_of_subset nodup_overdueIds fun id hid => h.overdue id (mem_overdueIds hid).1 (mem_overdueIds hid).2

theorem Findable.length_le_countP (h : Findable c) :
    (overdueIds c).length ≤ (ids c).countP (· ∈ overdueIds c) := by
  calc (overdueIds c).length = (overdueIds c).countP (· ∈ overdueIds c) := by
        rw [eq_comm, List.countP_eq_length]
        simp
    _ ≤ (ids c).countP (· ∈ overdueIds c) := h.overdue_subperm.countP_le _

theorem has_foldl_mark (l : List Str) (m : Dict Bool) {id : Str}
    (h : Dict.has (l.foldl (fun m id => m.insert id true) m) id = false) : m.has id = false := by
  induction l generalizing m with
  | nil => exact h
  | cons k l ih =>
    have := ih _ h
    by_contra hne
    rw [Dict.has_insert_of_has true (by simpa using hne)] at this
    cases this

theorem Findable.reportErrorProxy_ends (h : Findable c) : ∃ fuel, Ends (reportErrorProxy w fuel) c := by
  refine ⟨c.confNum + 1 + (overdueIds c).length * (c.confNum + 1),
    Triple.ends (P := fun s => s = c) (Q := fun _ _ => True) ?_ rfl⟩
  refine Triple.bind (rangeErrorid_spec c) fun entries => Triple.get fun s hs => ?_
  obtain ⟨hentries, rfl⟩ := hs
  have hperm : (Client.overdue c.reportingMark entries).Perm (overdueIds c) := hentries ▸ overdue_perm _
  have hcount : ∀ id, id ∈ Client.overdue c.reportingMark entries ↔ id ∈ overdueIds c := fun id => hperm.mem_iff
  refine Triple.bind (Triple.modify fun s hs => ?_) fun _ => Triple.bind (reportLoop_ends _ c.confNum _ _) fun _ => ?_
  · rw [hs]
    have hlength := h.length_le_countP
    rw [← hperm.length_eq] at hlength ⊢
    refine ⟨h.room.keep rfl rfl rfl, rfl, ?_, fun hpos => ?_⟩
    · show (Client.overdue c.reportingMark entries).length ≤ (ids c).countP (· ∈ Client.overdue c.reportingMark entries)
      simpa only [hcount] using hlength
    · show (ids c).findIdx (· ∈ Client.overdue c.reportingMark entries) + 1 +
        ((Client.overdue c.reportingMark entries).length - 1) * (c.confNum + 1) ≤ _
      have hidx : (ids c).findIdx (· ∈ Client.overdue c.reportingMark entries) ≤ (ids c).length :=
        List.findIdx_le_length
      have hlength := h.room.length_ids_le
      have hmul := Nat.mul_le_mul_right (c.confNum + 1) (Nat.sub_le (Client.overdue c.reportingMark entries).length 1)
      omega
  · have hslots : Stable fun _ => True := fun _ _ _ _ => trivial
    exact (Triple.forM (fun no => hslots.dropSlot no) _).pre fun _ _ => trivial

/-- `ReportErrorProxy` keeps what may be looked for where it leaves a profile of each ID it replaces. -/
theorem Findable.reportErrorProxy (h : Findable c)
    (hcopies : ∀ id ∈ overdueIds c, (overdueIds c).length < (ids c).count id) (fuel : Nat) :
    Triple True (fun s => s = c) (reportErrorProxy w fuel) fun _ => Findable := by
  have hstable : Stable Findable := by
    intro s s' hbooks hs
    refine ⟨Room.stable s s' hbooks hs.room, ?_, ?_⟩
    · unfold ids
      rw [hbooks.errorid, hbooks.proxyProfiles]
      exact hs.errors
    · unfold ids
      rw [hbooks.errorid, hbooks.reportingMark, hbooks.proxyProfiles]
      exact hs.overdue
  refine Triple.bind (rangeErrorid_spec c) fun entries => Triple.get fun s hs => ?_
  obtain ⟨hentries, rfl⟩ := hs
  have hperm : (Client.overdue c.reportingMark entries).Perm (overdueIds c) := hentries ▸ overdue_perm _
  refine Triple.bind (Triple.modify fun s hs => ?_) fun _ => Triple.bind (reportLoop_findable _ _ _) fun _ =>
    Triple.forM (fun no => hstable.dropSlot no) _
  rw [hs]
  refine ⟨⟨h.room.keep rfl rfl rfl, h.errors, fun id hover hmark =>
    h.overdue id hover (has_foldl_mark _ _ hmark)⟩, fun id hid => ?_⟩
  show (Client.overdue c.reportingMark entries).length < (ids c).count id
  rw [hperm.length_eq]
  exact hcopies id (hperm.mem_iff.mp hid)

theorem Findable.errRecord (h : Findable c) {eid : Str} {i : Int} (hkeeps : KeepsFindable c (.errRecord eid i)) :
    Triple True (fun s => s = c) (errRecord eid i) fun _ => Findable := by
  apply Triple.modify
  intro s hs
  rw [hs]
  refine ⟨h.room.keep rfl rfl rfl, fun id hne hpos => ?_, fun id hover hmark => ?_⟩
  · change 0 < Dict.get (c.errorid.insert eid (c.errorid.get eid 0 + i)) id 0 at hpos
    by_cases hid : id = eid
    · subst hid
      rw [Dict.get_insert_self] at hpos
      rcases hkeeps with hmem | hle | hle | ⟨hempty, -⟩
      · exact hmem
      · exact h.errors id hne (by omega)
      · omega
      · exact absurd hempty hne
    · rw [Dict.get_insert_ne _ _ _ hid] at hpos
      exact h.errors id hne hpos
  · change 4 < Dict.get (c.errorid.insert eid (c.errorid.get eid 0 + i)) id 0 at hover
    change c.reportingMark.has id = false at hmark
    by_cases hid : id = eid
    · subst hid
      rw [Dict.get_insert_self] at hover
      rcases hkeeps with hmem | hle | hle | ⟨rfl, hle | hmarked⟩
      · exact hmem
      · exact h.overdue id (by omega) hmark
      · omega
      · omega
      · rw [hmarked] at hmark
        cases hmark
    · rw [Dict.get_insert_ne _ _ _ hid] at hover
      exact h.overdue id hover hmark

theorem Findable.errVanish (h : Findable c) (eid : Str) :
    Triple True (fun s => s = c) (errVanish eid) fun _ => Findable := by
  apply Triple.modify
  intro s hs
  rw [hs]
  have hle : ∀ id, Dict.get (if 0 < c.errorid.get eid 0 then c.errorid.insert eid (c.errorid.get eid 0 - 1)
      else c.errorid) id 0 ≤ c.errorid.get id 0 := by
    intro id
    split_ifs with hpos
    · by_cases hid : id = eid
      · rw [hid, Dict.get_insert_self]
        omega
      · rw [Dict.get_insert_ne _ _ _ hid]
    · exact le_rfl
  exact ⟨h.room.keep rfl rfl rfl, fun id hne hpos => h.errors id hne (hpos.trans_le (hle id)),
    fun id hover hmark => h.overdue id (hover.trans_le (hle id)) hmark⟩

/-- **One call keeps what may be looked for.** -/
theorem Findable.step {c' : ClientControl} {op : Op} (h : Findable c) (hcall : Completes w c op c')
    (hkeeps : KeepsFindable c op) : Findable c' := by
  obtain ⟨fuel, hexec⟩ := hcall
  cases op with
  | rebuildSmux no =>
    have hcontract : PoolContract True w (fun s => Since c [] s ∧ (True ∨ ids s ≠ [])) fun conf => Since c [conf] :=
      poolContract_since
    have hsince := ((hcontract.rebuildSmux no).discard.returns ⟨Since.refl h.room, Or.inl trivial⟩ hexec).1
    refine ⟨hsince.room, fun id hne hpos => ?_, fun id hover hmark => ?_⟩
    · rw [hsince.errors id hpos] at hpos
      exact hsince.pool.subset (h.errors id hne hpos)
    · rw [hsince.errors id (by omega)] at hover
      rw [hsince.marks] at hmark
      exact hsince.pool.subset (h.overdue id hover hmark)
  | reportErrorProxy => exact (h.reportErrorProxy hkeeps fuel).returns rfl hexec
  | autoSwitchProfile => exact (h.autoSwitchProfile fuel (Or.inl trivial)).returns rfl hexec
  | errRecord eid i => exact (h.errRecord hkeeps).returns rfl hexec
  | errVanish eid => exact (h.errVanish eid).returns rfl hexec
  | getSession | fixBuildSmux _ | changeProxyType _ | changeNewRoute | getAviableProxy _ => exact absurd hkeeps id

end Calls

/-! ### Runs -/

/-- A completed call that leaves in the pool what may be looked for. -/
def ReplaceStep (w : World) (c c' : ClientControl) : Prop := ∃ op, Completes w c op c' ∧ KeepsFindable c op

theorem Start.findable {w : World} {c : ClientControl} (h : Start w c) : Findable c := by
  cases h with
  | fresh addr channelNum getNewRoute =>
    refine ⟨⟨rfl, Int.natCast_nonneg _, le_rfl⟩, fun id _ hpos => ?_, fun id hover _ => ?_⟩
    · exact absurd hpos (lt_irrefl 0)
    · exact absurd hover (by show ¬(4 : Int) < 0; omega)
  | init c =>
    refine ⟨⟨rfl, Int.natCast_nonneg _, le_rfl⟩, fun id _ hpos => ?_, fun id hover _ => ?_⟩
    · exact absurd hpos (lt_irrefl 0)
    · exact absurd hover (by show ¬(4 : Int) < 0; omega)

/-- Both loops end, whatever the world answers: the pool holds the IDs they look for, in enough copies. -/
structure LoopsEnd (c : ClientControl) : Prop where
  report : ∀ w, ∃ fuel, Ends (reportErrorProxy w fuel) c
  switch : ∀ w, ∃ fuel, Ends (autoSwitchProfile w fuel) c
  overdue : (overdueIds c).Subperm (ids c)
  picked : ∀ (w : World) (n : Nat), pickMaxid (w.range n c.errorid.pairs) ≠ [] →
    pickMaxid (w.range n c.errorid.pairs) ∈ ids c

/-- **After a run that leaves in the pool what may be looked for both loops end.** -/
theorem replaceRun_ends {w : World} {c c' : ClientControl} (hstart : Start w c)
    (hrun : Relation.ReflTransGen (ReplaceStep w) c c') : LoopsEnd c' := by
  have hfind : Findable c' := by
    refine run_invariant ?_ hstart.findable hrun
    rintro s s' hs ⟨op, hcall, hkeeps⟩
    exact hs.step hcall hkeeps
  exact ⟨fun w' => hfind.reportErrorProxy_ends,
    fun w' => ⟨(ids c').length + 1, (hfind.autoSwitchProfile _ (Or.inr le_rfl)).ends rfl⟩,
    hfind.overdue_subperm, fun w' n hne => hfind.errors _ hne (pickMaxid_pos hne)⟩

/-- A client that holds the profile `a` and has counted five errors for it. -/
def overdueClient : ClientControl :=
  after handsOut (.errRecord (str "a") 5)
    (after handsOut (.rebuildSmux 1) (newClientControll handsOut sampleAddr 2 false))

theorem replaceRun_ends_overdue : overdueIds overdueClient = [str "a"] ∧ LoopsEnd overdueClient := by
  have hbuild : ReplaceStep handsOut (newClientControll handsOut sampleAddr 2 false)
      (after handsOut (.rebuildSmux 1) (newClientControll handsOut sampleAddr 2 false)) :=
    ⟨.rebuildSmux 1, ⟨0, rfl⟩, trivial⟩
  have hrecord : ReplaceStep handsOut
      (after handsOut (.rebuildSmux 1) (newClientControll handsOut sampleAddr 2 false)) overdueClient :=
    ⟨.errRecord (str "a") 5, ⟨0, rfl⟩, Or.inl (by decide)⟩
  exact ⟨by decide, replaceRun_ends (.fresh sampleAddr 2 false) ((Relation.ReflTransGen.single hbuild).tail hrecord)⟩

/-- Three failed connections that left no ID, and `ReportErrorProxy` looks for the empty ID in an empty
pool. -/
theorem not_ends_emptyId :
    ∃ c c₁ c₂ c₃, Start handsOut c ∧ Completes handsOut c (.errRecord [] 2) c₁ ∧
      Completes handsOut c₁ (.errRecord [] 2) c₂ ∧ Completes handsOut c₂ (.errRecord [] 2) c₃ ∧
      ∀ fuel, ¬Ends (reportErrorProxy handsOut fuel) c₃ := by
  refine ⟨_, _, _, _, .fresh sampleAddr 1 false, ⟨0, rfl⟩, ⟨0, rfl⟩, ⟨0, rfl⟩, fun fuel hends => hends ?_⟩
  cases fuel <;> rfl

end ProxyZ.Client
