import ProxyZ.Client.Contract
import ProxyZ.Go.Scan

/-!
# Which profile is switched out

`AutoSwitchProfile` ranges over the table of errors for the ID with the most of them. The count it compares with
stays 0, so it picks the last ID with an error, in the order Go ranges over the table, and this is the one that
is removed. It is one with the most errors exactly if every other ID with errors is followed by such a one
(`switchesWorst_iff`).
-/

namespace ProxyZ.Client

open Go ProxyZ.Control Method

/-- The part of `AutoSwitchProfile` under the lock: pick an ID and remove it from the table. The empty ID means
that there is none. -/
def takeMaxid (w : World) : Call Str := do
  let entries ← rangeErrorid w
  let maxid := pickMaxid entries
  (if maxid = [] then pure () else modify fun c => { c with errorid := c.errorid.erase maxid })
  return maxid

/-- The part behind it. -/
def switchOut (w : World) (fuel : Nat) (maxid : Str) : Call Unit :=
  if maxid = [] then return () else switchLoop w maxid fuel

/-- No ID of the table has more errors. The empty ID is never switched out. -/
def Worst (errorid : Dict Int) (e : Str × Int) : Prop := e.1 ≠ [] ∧ ∀ e' ∈ errorid.pairs, e'.2 ≤ e.2

/-- The ID that `AutoSwitchProfile` selects and removes is one with the most errors. -/
def SwitchesWorst (w : World) (c : ClientControl) : Prop :=
  ∃ e c', takeMaxid w c = .ok (e.1, c') ∧ c'.errorid = c.errorid.erase e.1 ∧ e ∈ c.errorid.pairs ∧ Worst c.errorid e

/-- The entry counts an error. -/
def errs (e : Str × Int) : Bool := 0 < e.2

theorem pickMaxid_eq (entries : List (Str × Int)) :
    pickMaxid entries = ((lastHit errs entries).map (·.1)).getD [] := by
  have hfold : pickMaxid entries = entries.foldl (fun maxid e => if errs e then e.1 else maxid) [] := by
    simp only [pickMaxid, errs, decide_eq_true_eq]
  rw [hfold, foldl_overwrite]

section Switch

variable {w : World} {c : ClientControl}

/-- The ID picked is removed. -/
theorem takeMaxid_eq (w : World) (c : ClientControl) :
    takeMaxid w c = .ok (pickMaxid (w.range c.trace.length c.errorid.pairs),
      { c with
        trace := .range :: c.trace
        errorid :=
          if pickMaxid (w.range c.trace.length c.errorid.pairs) = [] then c.errorid
          else c.errorid.erase (pickMaxid (w.range c.trace.length c.errorid.pairs)) }) := by
  show ((if pickMaxid (w.range c.trace.length c.errorid.pairs) = [] then (pure () : Call Unit) else _) _ >>= _) = _
  split_ifs
  · rfl
  · rfl

theorem autoSwitchProfile_eq (w : World) (fuel : Nat) (c : ClientControl) :
    autoSwitchProfile w fuel c = (takeMaxid w >>= switchOut w fuel) c := by
  rw [bind_apply_ok _ (takeMaxid_eq w c)]
  show (if pickMaxid (w.range c.trace.length c.errorid.pairs) = [] then (return () : Call Unit) else _) _ =
    (if pickMaxid (w.range c.trace.length c.errorid.pairs) = [] then (return () : Call Unit) else _) _
  split_ifs
  · rfl
  · rfl

/-- It is one with the most errors if the last entry that counts an error is. -/
theorem switchesWorst_iff_lastHit : SwitchesWorst w c ↔
    ∃ e, lastHit errs (w.range c.trace.length c.errorid.pairs) = some e ∧ Worst c.errorid e := by
  have hmem : ∀ e, e ∈ w.range c.trace.length c.errorid.pairs ↔ e ∈ c.errorid.pairs :=
    fun e => (w.range_perm _ _).mem_iff
  constructor
  · rintro ⟨e, c', htake, -, he, hworst⟩
    rw [takeMaxid_eq] at htake
    have hpick := congrArg Prod.fst (Except.ok.inj htake)
    dsimp only at hpick
    rw [pickMaxid_eq] at hpick
    rcases hlast : lastHit errs (w.range c.trace.length c.errorid.pairs) with _ | e'
    · rw [hlast] at hpick
      exact absurd hpick.symm hworst.1
    · rw [hlast] at hpick
      obtain ⟨-, rest, hsuffix, -⟩ := lastHit_suffix hlast
      have he' : e' ∈ c.errorid.pairs := (hmem e').mp (hsuffix.subset List.mem_cons_self)
      -- the table has one entry for each ID
      have heq : e' = e := List.inj_on_of_nodup_map (Dict.nodup_pairs c.errorid) he' he hpick
      exact ⟨e', rfl, heq ▸ hworst⟩
  · rintro ⟨e, hlast, hworst⟩
    obtain ⟨-, rest, hsuffix, -⟩ := lastHit_suffix hlast
    have hpick : pickMaxid (w.range c.trace.length c.errorid.pairs) = e.1 := by
      rw [pickMaxid_eq, hlast]
      rfl
    have htake := takeMaxid_eq w c
    rw [hpick, if_neg hworst.1] at htake
    exact ⟨e, _, htake, rfl, (hmem e).mp (hsuffix.subset List.mem_cons_self), hworst⟩

/-- The world with another order of the table. -/
def World.ranging (w : World) (l l' : List (Str × Int)) (hperm : l'.Perm l) : World :=
  { w with
    range := fun _ m => if m = l then l' else m
    range_perm := by
      intro _ m
      split_ifs with hm
      · rw [hm]
        exact hperm
      · exact List.Perm.refl m }

/-- **The ID switched out is one with the most errors, exactly if in the order of the table every entry that
counts errors is such a one or followed by such a one; in every order, exactly if all that count errors are.** -/
theorem switchesWorst_iff (w : World) (c : ClientControl) (herrs : ∃ e ∈ c.errorid.pairs, 0 < e.2) :
    (∀ fuel, autoSwitchProfile w fuel c = (takeMaxid w >>= switchOut w fuel) c) ∧
      (SwitchesWorst w c ↔
        Followed errs (Worst c.errorid) (w.range c.trace.length c.errorid.pairs)) ∧
      ((∀ w', SwitchesWorst w' c) ↔ ∀ e ∈ c.errorid.pairs, 0 < e.2 → Worst c.errorid e) := by
  have hhit : ∃ e ∈ c.errorid.pairs, errs e = true := by
    obtain ⟨e, he, hpos⟩ := herrs
    exact ⟨e, he, decide_eq_true hpos⟩
  refine ⟨fun fuel => autoSwitchProfile_eq w fuel c, ?_, ?_⟩
  · rw [switchesWorst_iff_lastHit]
    apply lastHit_iff
    obtain ⟨e, he, hpos⟩ := hhit
    exact ⟨e, (w.range_perm _ _).mem_iff.mpr he, hpos⟩
  · have hall := lastHit_perm_iff (q := Worst c.errorid) hhit
    simp only [errs, decide_eq_true_eq] at hall
    rw [← hall]
    constructor
    · intro hworld l' hperm
      have hranged := switchesWorst_iff_lastHit.mp (hworld (w.ranging c.errorid.pairs l' hperm))
      have hrange : (w.ranging c.errorid.pairs l' hperm).range c.trace.length c.errorid.pairs = l' := if_pos rfl
      rwa [hrange] at hranged
    · intro horder w'
      exact switchesWorst_iff_lastHit.mpr (horder _ (w'.range_perm _ _))

/-- A client that has counted one error for the profile `b` and three for the profile `a`. -/
def threeErrors : ClientControl :=
  { newClientControll handsOut sampleAddr 2 false with
    errorid := ((∅ : Dict Int).insert (str "b") 1).insert (str "a") 3 }

theorem switchesWorst_iff_threeErrors :
    SwitchesWorst (handsOut.ranging threeErrors.errorid.pairs [(str "b", 1), (str "a", 3)] (by decide)) threeErrors := by
  refine ((switchesWorst_iff _ threeErrors ⟨(str "a", 3), by decide, by decide⟩).2.1).mpr ?_
  intro e rest hsuffix _ hworst
  have hworstA : Worst threeErrors.errorid (str "a", 3) := by
    refine ⟨by decide, ?_⟩
    decide
  rcases List.suffix_cons_iff.mp hsuffix with heq | hle
  · cases heq
    exact ⟨(str "a", 3), List.mem_cons_self, rfl, hworstA⟩
  rcases List.suffix_cons_iff.mp hle with heq | hle
  · cases heq
    exact absurd hworstA hworst
  · cases List.suffix_nil.mp hle

/-- Where `b` comes behind `a`, its one error is enough. -/
theorem not_switchesWorst_threeErrors :
    (∃ e ∈ threeErrors.errorid.pairs, 0 < e.2) ∧ ¬SwitchesWorst handsOut threeErrors := by
  refine ⟨⟨(str "a", 3), by decide, by decide⟩, ?_⟩
  rintro ⟨e, c', htake, -, he, hworst⟩
  have hid : str "b" = e.1 := congrArg Prod.fst (Except.ok.inj htake)
  have hthree := hworst.2 (str "a", 3) (by decide)
  have hpairs : threeErrors.errorid.pairs = [(str "a", 3), (str "b", 1)] := by decide
  rw [hpairs] at he
  rcases List.mem_cons.mp he with rfl | hmem
  · exact absurd hid (by decide)
  · rw [List.mem_singleton.mp hmem] at hthree
    exact absurd hthree (by decide)

end Switch

end ProxyZ.Client
