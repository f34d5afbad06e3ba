import ProxyZ.Client.Replace
import ProxyZ.Go.Ghost

/-!
# Which reported profiles are replaced

`ReportErrorProxy` marks the IDs with too many errors and replaces as many profiles as it has marked IDs. Two of
these can have the same ID, as the server hands one tunnel to several requests: then the loop ends before it has
come to every marked ID. It can also come to a profile that was put into the pool in the meantime. Both are
excluded exactly if each marked ID stands in the pool once, and every profile taken out was there at the start
(`allReplaced_iff`); the latter holds where the control server sends no profile under a marked ID.

Whether a profile was in the pool at the start is noted beside the state: a marked method does what the method does
(`reportErrorProxy_erases`).
-/

namespace ProxyZ.Client

open Go ProxyZ.Control Method

/-- The IDs in the pool, each with a mark if its profile was there at the start, and those of the profiles for which
`ErrSoGetNew` was called. -/
structure Marks where
  pool : List (Str × Bool)
  taken : List (Str × Bool) := []

namespace Marks

/-- The mark of the next profile of the pool. -/
def next (g : Marks) : Bool := (g.pool.head?.map (·.2)).getD false

def recv (g : Marks) : Marks := { g with pool := g.pool.tail }

def push (id : Str) (old : Bool) (g : Marks) : Marks := { g with pool := g.pool ++ [(id, old)] }

def take (id : Str) (old : Bool) (g : Marks) : Marks := { g with taken := g.taken ++ [(id, old)] }

end Marks

/-- A method with marks beside the client. -/
abbrev MarkedCall (α : Type) := Method (ClientControl × Marks) α

/-! ### The methods with marks -/

def pushMarked (conf : ProtocolConfig) (old : Bool) : MarkedCall Unit := do
  onState (pushProfile conf)
  ghost fun s => s.2.push conf.id old

/-- `RebuildSmux`: the profile it obtains comes out of the pool, or is a new one. -/
def rebuildSmuxMarked (w : World) (no : Nat) : MarkedCall (Option RebuildErr × Option ProtocolConfig) := do
  let s ← get
  let queued : Bool := (s.1.confNum : Int) ≤ s.1.initProfiles
  match ← onState (getAviableProxy w (some (if no % 3 = 0 then str "quic" else str "tls"))) with
  | none => return (some .routeIsBreak, none)
  | some conf => do
      ghost fun s => if queued then s.2.recv else s.2
      pushMarked conf (queued && s.2.next)
      let err ← onState (connect w no conf)
      return (err, some conf)

def fixBuildSmuxMarked (w : World) (errid : Str) : MarkedCall Unit := do
  let s ← get
  (List.range s.1.smuxClients.length).forM fun no => do
    let s ← get
    match (s.1.smuxClients[no]?).join.bind (s.1.built[·]?) with
    | some e => if e.eid = errid then discard (rebuildSmuxMarked w no) else return ()
    | none => return ()

def replaceProfileMarked (w : World) (id : Str) (conf : ProtocolConfig) : MarkedCall Unit := do
  pushMarked conf false
  onState (modify (received id conf))
  fixBuildSmuxMarked w id

def errSoGetNewMarked (w : World) (id : Str) (errnum : Int) (old : Bool) : MarkedCall Unit := do
  onState (emit (.replace id errnum))
  ghost fun s => s.2.take id old
  if id = [] then return ()
  else
    match ← onState (askReplacement w id) with
    | none => return ()
    | some conf => replaceProfileMarked w id conf

def reportLoopMarked (w : World) (ids : List Str) : Nat → Nat → MarkedCall Unit
  | _, 0 => return ()
  | 0, _ + 1 => throw .waiting
  | fuel + 1, left + 1 => do
      let s ← get
      match s.1.proxyProfiles.recv with
      | none => throw .waiting
      | some (thisconf, ch) => do
          onState (modify fun c => { c with proxyProfiles := ch })
          ghost fun s => s.2.recv
          if thisconf.id ∈ ids then do
            let errnum := s.1.errorid.get thisconf.id 0
            onState (modify fun c => { c with errCount := c.errCount - errnum })
            errSoGetNewMarked w thisconf.id errnum s.2.next
            reportLoopMarked w ids fuel left
          else do
            pushMarked thisconf s.2.next
            reportLoopMarked w ids fuel (left + 1)

def reportErrorProxyMarked (w : World) (fuel : Nat) : MarkedCall Unit := do
  let entries ← onState (rangeErrorid w)
  let s ← get
  let ids := overdue s.1.reportingMark entries
  onState (modify fun c => { c with reportingMark := ids.foldl (fun m id => m.insert id true) c.reportingMark })
  reportLoopMarked w ids fuel ids.length
  onState ((List.range s.1.clientNum).forM dropSlot)

section Erasure

variable {w : World}

theorem pushMarked_erases (conf : ProtocolConfig) (old : Bool) : Erases (pushMarked conf old) (pushProfile conf) :=
  Erases.bind_ghost (Erases.onState _)

theorem rebuildSmux_erases (no : Nat) : Erases (rebuildSmuxMarked w no) (rebuildSmux w no) := by
  refine Erases.ghost_get fun s => Erases.bind (Erases.onState _) fun conf => ?_
  cases conf with
  | none => exact Erases.pure _
  | some conf =>
    exact Erases.ghost_bind <| Erases.bind (pushMarked_erases conf _) fun _ =>
      Erases.bind (Erases.onState _) fun _ => Erases.pure _

theorem fixBuildSmux_erases (errid : Str) : Erases (fixBuildSmuxMarked w errid) (fixBuildSmux w errid) := by
  refine Erases.get fun s => Erases.forM (fun no => Erases.get fun s => ?_) _
  rcases (s.1.smuxClients[no]?).join.bind (s.1.built[·]?) with _ | e
  · exact Erases.pure _
  · exact Erases.ite (fun _ => (rebuildSmux_erases no).discard) fun _ => Erases.pure _

theorem errSoGetNew_erases (id : Str) (errnum : Int) (old : Bool) :
    Erases (errSoGetNewMarked w id errnum old) (errSoGetNew w id errnum) := by
  refine Erases.bind (Erases.onState _) fun _ => Erases.ghost_bind ?_
  refine Erases.ite (fun _ => Erases.pure _) fun _ => Erases.bind (Erases.onState _) fun conf => ?_
  cases conf with
  | none => exact Erases.pure _
  | some conf =>
    exact Erases.bind (pushMarked_erases _ _) fun _ => Erases.bind (Erases.onState _) fun _ => fixBuildSmux_erases id

theorem reportLoop_erases (ids : List Str) (fuel left : Nat) :
    Erases (reportLoopMarked w ids fuel left) (reportLoop w ids fuel left) := by
  induction fuel generalizing left with
  | zero =>
    cases left with
    | zero => exact Erases.pure _
    | succ left => exact Erases.throw _
  | succ fuel ih =>
    cases left with
    | zero => exact Erases.pure _
    | succ left =>
      apply Erases.get
      intro s
      rcases s.1.proxyProfiles.recv with _ | ⟨conf, ch⟩
      · exact Erases.throw _
      refine Erases.bind (Erases.onState _) fun _ => Erases.ghost_bind ?_
      refine Erases.ite (fun _ => ?_) fun _ => Erases.bind (pushMarked_erases _ _) fun _ => ih _
      exact Erases.bind (Erases.onState _) fun _ => Erases.bind (errSoGetNew_erases _ _ _) fun _ => ih _

/-- **With marks the method does the same.** -/
theorem reportErrorProxy_erases (fuel : Nat) : Erases (reportErrorProxyMarked w fuel) (reportErrorProxy w fuel) := by
  refine Erases.bind (Erases.onState _) fun entries => Erases.get fun s => ?_
  exact Erases.bind (Erases.onState _) fun _ => Erases.bind (reportLoop_erases _ _ _) fun _ => Erases.onState _

end Erasure

/-! ### What the marks say -/

/-- The IDs with a mark. -/
def olds (l : List (Str × Bool)) : List Str := (l.filter (·.2)).map (·.1)

/-- The control server sends no profile under one of the IDs. -/
def Event.Unlisted (w : World) (looked : List Str) : Event → Prop
  | .post _ reply _ => ∀ conf, answer w reply = some conf → conf.id ∉ looked
  | _ => True

/-- The profiles taken, those on their way, and the pool. -/
def Marks.all (held : List (Str × Bool)) (g : Marks) : List (Str × Bool) := g.taken ++ held ++ g.pool

/-- The marks are those of a call that began in `base`, looks for the IDs `looked` and has taken `n` profiles out
of the pool; `held` are profiles on their way. -/
structure Tracked (w : World) (base : ClientControl) (looked : List Str) (n : Nat) (held : List (Str × Bool))
    (s : ClientControl × Marks) : Prop where
  pool : s.2.pool.map (·.1) = ids s.1
  start : (olds (s.2.all held)).Perm (ids base)
  listed : ∀ x ∈ s.2.taken, x.1 ∈ looked
  count : s.2.taken.length = n
  events : ∃ new, s.1.trace = new ++ base.trace ∧ (∀ x ∈ s.2.taken, ∃ errnum, .replace x.1 errnum ∈ new) ∧
    ((∀ e ∈ new, e.Unlisted w looked) → ∀ x ∈ s.2.all held, x.2 = false → x.1 ∉ looked)

section Track

variable {w : World} {base : ClientControl} {looked : List Str} {n n' : Nat} {held held' : List (Str × Bool)}
  {c c' : ClientControl} {g g' : Marks} {conf : ProtocolConfig} {old : Bool}

/-- A step that moves the profiles about. What it takes was passed to `ErrSoGetNew`. -/
theorem Tracked.move (h : Tracked w base looked n held (c, g)) (hpool : g'.pool.map (·.1) = ids c')
    (hall : (g'.all held').Perm (g.all held)) (hcount : g'.taken.length = n') (more : List Event)
    (htrace : c'.trace = more ++ c.trace)
    (htaken : ∀ x ∈ g'.taken, x ∈ g.taken ∨ x.1 ∈ looked ∧ ∃ errnum, .replace x.1 errnum ∈ more) :
    Tracked w base looked n' held' (c', g') := by
  obtain ⟨new, hnew, hreplaced, hunlisted⟩ := h.events
  refine ⟨hpool, (((hall.filter _).map _).trans h.start), fun x hx => ?_, hcount, more ++ new, ?_, fun x hx => ?_,
    fun hclean x hx => ?_⟩
  · rcases htaken x hx with hold | ⟨hlisted, -⟩
    · exact h.listed x hold
    · exact hlisted
  · rw [List.append_assoc, ← hnew]
    exact htrace
  · rcases htaken x hx with hold | ⟨-, errnum, hmem⟩
    · obtain ⟨errnum, hmem⟩ := hreplaced x hold
      exact ⟨errnum, List.mem_append_right _ hmem⟩
    · exact ⟨errnum, List.mem_append_left _ hmem⟩
  · exact hunlisted (fun e he => hclean e (List.mem_append_right _ he)) x (hall.mem_iff.mp hx)

/-- The rest of the client does not matter. -/
theorem Tracked.keep (h : Tracked w base looked n held (c, g)) (hprofiles : c'.proxyProfiles = c.proxyProfiles)
    (htrace : ∃ more, c'.trace = more ++ c.trace) : Tracked w base looked n held (c', g) := by
  obtain ⟨more, hmore⟩ := htrace
  have hpool : g.pool.map (·.1) = ids c' := by
    unfold ids
    rw [hprofiles]
    exact h.pool
  exact h.move hpool (List.Perm.refl _) h.count more hmore fun _ hx => Or.inl hx

theorem Tracked.stable : Stable fun c => Tracked w base looked n held (c, g) := by
  intro c c' hbooks h
  obtain ⟨more, hmore, -⟩ := hbooks.trace
  exact h.keep hbooks.proxyProfiles ⟨more, hmore⟩

/-- The next profile of the pool has the next mark. -/
theorem Tracked.recv {ch : Chan ProtocolConfig} (h : Tracked w base looked n [] (c, g))
    (hrecv : c.proxyProfiles.recv = some (conf, ch)) :
    Tracked w base looked n [(conf.id, g.next)] ({ c with proxyProfiles := ch }, g.recv) := by
  have hpool := h.pool
  dsimp only at hpool
  rw [ids_recv hrecv] at hpool
  obtain ⟨⟨id, old⟩, rest, hcons, hid, hrest⟩ := List.map_eq_cons_iff.mp hpool
  dsimp only at hid
  subst hid
  have hnext : g.next = old := by
    unfold Marks.next
    rw [hcons]
    rfl
  have htail : g.recv.pool = rest := by
    unfold Marks.recv
    rw [hcons]
    rfl
  have hall : g.recv.all [(conf.id, g.next)] = g.all [] := by
    unfold Marks.all
    rw [hnext, htail, hcons, List.append_nil, List.append_assoc]
    rfl
  exact h.move (by rw [htail, hrest]) (hall ▸ List.Perm.refl _) h.count [] rfl fun _ hx => Or.inl hx

/-- A profile on its way is put into the pool. -/
theorem Tracked.push {ch : Chan ProtocolConfig} (h : Tracked w base looked n [(conf.id, old)] (c, g))
    (hsend : c.proxyProfiles.send conf = some ch) :
    Tracked w base looked n [] ({ c with proxyProfiles := ch }, g.push conf.id old) := by
  obtain ⟨hitems, -⟩ := Chan.send_eq_some.mp hsend
  have hpool : (g.push conf.id old).pool.map (·.1) = ids { c with proxyProfiles := ch } := by
    unfold ids Marks.push
    rw [hitems, List.map_append, List.map_append, h.pool]
    rfl
  have hall : ((g.push conf.id old).all []).Perm (g.all [(conf.id, old)]) := by
    show (g.taken ++ [] ++ (g.pool ++ [(conf.id, old)])).Perm (g.taken ++ [(conf.id, old)] ++ g.pool)
    rw [List.append_nil, List.append_assoc]
    exact List.Perm.append_left _ List.perm_append_comm
  exact h.move hpool hall h.count [] rfl fun _ hx => Or.inl hx

/-- A profile on its way is passed to `ErrSoGetNew`. -/
theorem Tracked.take {id : Str} (h : Tracked w base looked n [(id, old)] (c, g)) (hid : id ∈ looked) (errnum : Int) :
    Tracked w base looked (n + 1) [] ({ c with trace := .replace id errnum :: c.trace }, g.take id old) := by
  have hall : (g.take id old).all [] = g.all [(id, old)] := by
    show g.taken ++ [(id, old)] ++ [] ++ g.pool = g.taken ++ [(id, old)] ++ g.pool
    rw [List.append_nil]
  have hcount : (g.take id old).taken.length = n + 1 := by
    show (g.taken ++ [(id, old)]).length = n + 1
    rw [List.length_append, h.count]
    rfl
  refine h.move h.pool (hall ▸ List.Perm.refl _) hcount [.replace id errnum] rfl fun x hx => ?_
  rcases List.mem_append.mp hx with hx | hx
  · exact Or.inl hx
  · rw [List.mem_singleton.mp hx]
    exact Or.inr ⟨hid, errnum, List.mem_singleton_self _⟩

/-- A profile that is sent is on its way, with no mark. -/
theorem Tracked.fresh {req : Request} {reply : Str} {err : Option Err}
    (h : Tracked w base looked n [] (c, g)) (hanswer : answer w reply = some conf)
    (hprofiles : c'.proxyProfiles = c.proxyProfiles) (more : List Event)
    (htrace : c'.trace = .post req reply err :: (more ++ c.trace)) :
    Tracked w base looked n [(conf.id, false)] (c', g) := by
  obtain ⟨new, hnew, hreplaced, hunlisted⟩ := h.events
  have hmem : ∀ x, x ∈ g.all [(conf.id, false)] ↔ x = (conf.id, false) ∨ x ∈ g.all [] := by
    intro x
    simp only [Marks.all, List.mem_append, List.mem_singleton, List.not_mem_nil, or_false]
    rw [or_comm (a := x ∈ g.taken), or_assoc]
  have hsame : olds (g.all [(conf.id, false)]) = olds (g.all []) := by
    simp [olds, Marks.all]
  refine ⟨?_, hsame ▸ h.start, h.listed, h.count, .post req reply err :: (more ++ new), ?_, fun x hx => ?_,
    fun hclean x hx hnot => ?_⟩
  · show g.pool.map (·.1) = ids c'
    unfold ids
    rw [hprofiles]
    exact h.pool
  · show c'.trace = _
    rw [htrace, hnew, List.cons_append, List.append_assoc]
  · obtain ⟨errnum, hmem⟩ := hreplaced x hx
    exact ⟨errnum, List.mem_cons_of_mem _ (List.mem_append_right _ hmem)⟩
  · rcases (hmem x).mp hx with rfl | hx
    · exact hclean _ List.mem_cons_self conf hanswer
    · exact hunlisted (fun e he => hclean e (List.mem_cons_of_mem _ (List.mem_append_right _ he))) x hx hnot

/-! ### The methods -/

theorem pushMarked_tracked (conf : ProtocolConfig) (old : Bool) :
    Triple True (Tracked w base looked n [(conf.id, old)]) (pushMarked conf old) fun _ => Tracked w base looked n [] := by
  refine Triple.for_each fun s hs => Triple.bind (Q := fun _ s' => ∃ ch, s.1.proxyProfiles.send conf = some ch ∧
    s' = ({ s.1 with proxyProfiles := ch }, s.2)) (Triple.onState fun s' hs' => ?_) fun _ => Triple.ghost ?_
  · rw [hs']
    apply Triple.get
    intro c hc
    rcases hsend : c.proxyProfiles.send conf with _ | ch
    · exact Triple.waiting fun _ _ => trivial
    · exact Triple.modify fun c' hc' => ⟨ch, hc ▸ hsend, by rw [hc', hc]⟩
  · rintro _ ⟨ch, hsend, rfl⟩
    exact hs.push hsend

theorem rebuildSmuxMarked_tracked (no : Nat) :
    Triple True (Tracked w base looked n []) (rebuildSmuxMarked w no) fun _ => Tracked w base looked n [] := by
  apply Triple.get
  intro s hs
  refine Triple.bind (Q := fun r s' => Obtained w (some (if no % 3 = 0 then str "quic" else str "tls")) s.1 r s'.1 ∧ s'.2 = s.2)
    (Triple.onState fun s' hs' => ?_) fun r => Triple.for_each fun s' hobtained => ?_
  · rw [hs']
    exact ((getAviableProxy_spec _ s.1).mono fun _ => trivial).post fun _ _ h => ⟨h, rfl⟩
  obtain ⟨hobtained, hmarks⟩ := hobtained
  obtain ⟨c', g'⟩ := s'
  dsimp only at hobtained hmarks
  subst hmarks
  cases r with
  | none =>
    cases hobtained with
    | failed new _ _ =>
      apply Triple.pure
      intro s' hs'
      rw [hs']
      exact hs.keep rfl ⟨new, rfl⟩
  | some conf =>
    have hconnect : Triple True (Tracked w base looked n []) (onState (connect w no conf)) fun _ =>
        Tracked w base looked n [] :=
      Triple.onState fun s' hs' => (Tracked.stable.connect no conf).of_state hs'
    have hpush : ∀ old, Triple True (Tracked w base looked n [(conf.id, old)]) (pushMarked conf old) fun _ =>
        Tracked w base looked n [] := pushMarked_tracked conf
    apply Triple.ghost_bind
    refine Triple.bind ((hpush _).of_state ?_) fun _ => Triple.bind hconnect fun _ => Triple.pure fun _ h => h
    cases hobtained with
    | queued conf ch hfull hrecv =>
      rw [decide_eq_true hfull]
      exact hs.recv hrecv
    | fetched conf server reply more hroom hanswer _ =>
      rw [decide_eq_false (not_le.mpr hroom), id_at]
      exact hs.fresh hanswer rfl more rfl

theorem fixBuildSmuxMarked_tracked (errid : Str) :
    Triple True (Tracked w base looked n []) (fixBuildSmuxMarked w errid) fun _ => Tracked w base looked n [] := by
  refine Triple.get fun s hs => (Triple.forM (fun no => Triple.get fun s hs => ?_) _).of_state hs
  rcases (s.1.smuxClients[no]?).join.bind (s.1.built[·]?) with _ | e
  · exact (Triple.pure fun _ h => h).of_state hs
  · exact (Triple.ite (fun _ => (rebuildSmuxMarked_tracked no).discard) fun _ => Triple.pure fun _ h => h).of_state hs

/-- `ErrSoGetNew` for a profile on its way. -/
theorem errSoGetNewMarked_tracked {id : Str} (hid : id ∈ looked) (errnum : Int) (old : Bool) :
    Triple True (Tracked w base looked n [(id, old)]) (errSoGetNewMarked w id errnum old) fun _ =>
      Tracked w base looked (n + 1) [] := by
  apply Triple.for_each
  intro s hs
  apply Triple.onState_modify_bind
  apply Triple.ghost_bind
  have htaken := hs.take hid errnum
  refine Triple.ite (fun _ => (Triple.pure fun _ h => h).of_state htaken) fun _ => ?_
  refine Triple.bind (Q := fun r => match r with
    | none => Tracked w base looked (n + 1) []
    | some conf => Tracked w base looked (n + 1) [(conf.id, false)]) (Triple.onState fun s' hs' => ?_) fun r => ?_
  · rw [hs']
    refine (askReplacement_spec id _).post fun r c' hasked => ?_
    cases hasked with
    | lost reply err errs _ _ => exact htaken.keep rfl ⟨[_], rfl⟩
    | answered conf reply err errs _ hanswer server =>
      dsimp only
      rw [id_at]
      exact htaken.fresh hanswer rfl [] rfl
  · cases r with
    | none => exact Triple.pure fun _ h => h
    | some conf =>
      refine Triple.bind (pushMarked_tracked conf false) fun _ => Triple.bind (Q := fun _ => Tracked w base looked (n + 1) [])
        (Triple.onState fun s' hs' => Triple.modify fun c hc => ?_) fun _ => fixBuildSmuxMarked_tracked id
      rw [hc]
      exact hs'.keep rfl ⟨[], rfl⟩

theorem reportLoopMarked_tracked (fuel left : Nat) :
    Triple True (Tracked w base looked n []) (reportLoopMarked w looked fuel left) fun _ =>
      Tracked w base looked (n + left) [] := by
  induction fuel generalizing left n with
  | zero =>
    cases left with
    | zero => exact Triple.pure fun _ h => h
    | succ left => exact Triple.waiting fun _ _ => trivial
  | succ fuel ih =>
    cases left with
    | zero => exact Triple.pure fun _ h => h
    | succ left =>
      apply Triple.get
      intro s hs
      rcases hrecv : s.1.proxyProfiles.recv with _ | ⟨conf, ch⟩
      · exact Triple.waiting fun _ _ => trivial
      apply Triple.onState_modify_bind
      apply Triple.ghost_bind
      have hheld := hs.recv hrecv
      refine Triple.ite (fun hmem => ?_) fun _ => ?_
      · apply Triple.onState_modify_bind
        refine Triple.bind ((errSoGetNewMarked_tracked hmem _ _).of_state (hheld.keep rfl ⟨[], rfl⟩)) fun _ => ?_
        rw [show n + (left + 1) = n + 1 + left by omega]
        exact ih left
      · exact Triple.bind ((pushMarked_tracked conf _).of_state hheld) fun _ => ih (left + 1)

end Track

/-! ### The call -/

/-- Every profile of the pool has a mark. -/
def Marks.start (c : ClientControl) : Marks := { pool := (ids c).map fun id => (id, true) }

/-- The marks after a call that returns. -/
def marksAfter (w : World) (fuel : Nat) (c : ClientControl) : Option Marks :=
  match reportErrorProxyMarked w fuel (c, .start c) with
  | .ok (_, s) => some s.2
  | .error _ => none

/-- **Every reported profile is replaced**: each ID that the call has newly marked was passed to `ErrSoGetNew`, and no
profile with such an ID that was in the pool at the start is still in it. -/
structure AllReplaced (c c' : ClientControl) (g : Marks) : Prop where
  passed : ∀ id ∈ overdueIds c, ∃ new errnum, c'.trace = new ++ c.trace ∧ .replace id errnum ∈ new
  gone : ∀ x ∈ g.pool, x.1 ∈ overdueIds c → x.2 = false

section Report

variable {w : World} {c c' : ClientControl} {g : Marks} {looked : List Str}

theorem tracked_start (hprofiles : c'.proxyProfiles = c.proxyProfiles) (more : List Event)
    (htrace : c'.trace = more ++ c.trace) : Tracked w c looked 0 [] (c', .start c) := by
  have hpool : (Marks.start c).pool.map (·.1) = ids c' := by
    unfold Marks.start ids
    rw [hprofiles, List.map_map]
    exact List.map_id' _
  have hold : ∀ x ∈ (Marks.start c).all [], x.2 = true := by
    intro x hx
    obtain ⟨id, -, rfl⟩ := List.mem_map.mp hx
    rfl
  have hstart : olds ((Marks.start c).all []) = ids c := by
    unfold olds
    rw [List.filter_eq_self.mpr hold]
    exact hpool.trans (by unfold ids; rw [hprofiles])
  refine ⟨hpool, hstart ▸ List.Perm.refl _, fun x hx => absurd hx List.not_mem_nil, rfl, more, htrace,
    fun x hx => absurd hx List.not_mem_nil, fun _ x hx hnot => ?_⟩
  rw [hold x hx] at hnot
  cases hnot

theorem reportErrorProxyMarked_tracked (fuel : Nat) :
    Triple True (fun s => s = (c, .start c)) (reportErrorProxyMarked w fuel) fun _ s =>
      ∃ looked : List Str, looked.Perm (overdueIds c) ∧ Tracked w c looked looked.length [] s := by
  refine Triple.bind (Q := fun entries s => entries = w.range c.trace.length c.errorid.pairs ∧
    s = ({ c with trace := .range :: c.trace }, .start c)) (Triple.onState fun s hs => ?_) fun entries => ?_
  · rw [hs]
    exact (rangeErrorid_spec c).post fun _ _ h => ⟨h.1, by rw [h.2]⟩
  apply Triple.get
  rintro s ⟨hentries, rfl⟩
  have hperm : (overdue c.reportingMark entries).Perm (overdueIds c) := hentries ▸ overdue_perm _
  apply Triple.onState_modify_bind
  refine Triple.bind ((reportLoopMarked_tracked fuel _).of_state (tracked_start rfl [.range] rfl)) fun _ => ?_
  refine Triple.onState fun s hs => ((Triple.forM (fun no => Tracked.stable.dropSlot no) _).of_state hs).post ?_
  intro _ c' hc'
  rw [Nat.zero_add] at hc'
  exact ⟨_, hperm, hc'⟩

theorem mem_olds {l : List (Str × Bool)} {id : Str} : id ∈ olds l ↔ (id, true) ∈ l := by
  unfold olds
  simp

/-- What the pool held is what has been taken of it and what is left of it. -/
theorem Tracked.perm_olds (h : Tracked w c looked looked.length [] (c', g)) :
    (olds g.taken ++ olds g.pool).Perm (ids c) := by
  have hstart := h.start
  unfold Marks.all olds at hstart
  rw [List.append_nil, List.filter_append, List.map_append] at hstart
  exact hstart

theorem Tracked.count_olds (h : Tracked w c looked looked.length [] (c', g)) (id : Str) :
    (ids c).count id = (olds g.taken).count id + (olds g.pool).count id := by
  rw [← h.perm_olds.count_eq, List.count_append]

/-- A call that leaves none of them has taken each of them, and there was one of each. -/
theorem Tracked.once_of_replaced (h : Tracked w c looked looked.length [] (c', g))
    (hperm : looked.Perm (overdueIds c)) (hids : ∀ id ∈ overdueIds c, id ∈ ids c) (hreplaced : AllReplaced c c' g) :
    (∀ id ∈ overdueIds c, (ids c).count id = 1) ∧ ∀ x ∈ g.taken, x.2 = true := by
  have hnodup : looked.Nodup := hperm.nodup_iff.mpr nodup_overdueIds
  have hnone : ∀ id ∈ overdueIds c, id ∉ olds g.pool := fun id hid hmem =>
    absurd (hreplaced.gone _ (mem_olds.mp hmem) hid) Bool.noConfusion
  have hlength : (olds g.taken).length ≤ looked.length := by
    unfold olds
    rw [List.length_map, ← h.count]
    exact List.length_filter_le _ _
  have hsub : looked.Subperm (olds g.taken) := by
    refine List.subperm_of_subset hnodup fun id hid => ?_
    have hid := hperm.mem_iff.mp hid
    exact (List.mem_append.mp (h.perm_olds.mem_iff.mpr (hids id hid))).resolve_right (hnone id hid)
  have hsame : looked.Perm (olds g.taken) := hsub.perm_of_length_le hlength
  refine ⟨fun id hid => ?_, ?_⟩
  · rw [h.count_olds, List.count_eq_zero.mpr (hnone id hid), ← hsame.count_eq]
    exact List.count_eq_one_of_mem hnodup (hperm.mem_iff.mpr hid)
  · have hfilter : (g.taken.filter (·.2)).length = g.taken.length := by
      have hlen := hsame.length_eq
      unfold olds at hlen
      rw [List.length_map] at hlen
      exact hlen.symm.trans h.count.symm
    exact List.length_filter_eq_length_iff.mp hfilter

/-- Where there was one of each and nothing new was taken, each that was looked for has been taken. -/
theorem Tracked.taken_perm (h : Tracked w c looked looked.length [] (c', g)) (hperm : looked.Perm (overdueIds c))
    (honce : ∀ id ∈ overdueIds c, (ids c).count id = 1) (hold : ∀ x ∈ g.taken, x.2 = true) :
    olds g.taken = g.taken.map (·.1) ∧ (olds g.taken).Perm (overdueIds c) := by
  have htaken : olds g.taken = g.taken.map (·.1) := by
    unfold olds
    rw [List.filter_eq_self.mpr hold]
  have hlisted : ∀ id ∈ olds g.taken, id ∈ looked := by
    intro id hid
    rw [htaken] at hid
    obtain ⟨x, hx, rfl⟩ := List.mem_map.mp hid
    exact h.listed x hx
  have hdistinct : (olds g.taken).Nodup := by
    rw [List.nodup_iff_count_le_one]
    intro id
    by_cases hid : id ∈ overdueIds c
    · have hcount := h.count_olds id
      rw [honce id hid] at hcount
      omega
    · rw [List.count_eq_zero.mpr fun hmem => hid (hperm.mem_iff.mp (hlisted id hmem))]
      exact Nat.zero_le 1
  have hsub : (olds g.taken).Subperm looked := List.subperm_of_subset hdistinct hlisted
  refine ⟨htaken, (hsub.perm_of_length_le ?_).trans hperm⟩
  rw [htaken, List.length_map, h.count]

theorem Tracked.replaced_of_once (h : Tracked w c looked looked.length [] (c', g)) (hperm : looked.Perm (overdueIds c))
    (honce : ∀ id ∈ overdueIds c, (ids c).count id = 1) (hold : ∀ x ∈ g.taken, x.2 = true) : AllReplaced c c' g := by
  obtain ⟨htaken, hsame⟩ := h.taken_perm hperm honce hold
  obtain ⟨new, hnew, hreplaced, -⟩ := h.events
  refine ⟨fun id hid => ?_, fun x hx hid => ?_⟩
  · have hmem := hsame.mem_iff.mpr hid
    rw [htaken] at hmem
    obtain ⟨x, hx, rfl⟩ := List.mem_map.mp hmem
    obtain ⟨errnum, he⟩ := hreplaced x hx
    exact ⟨new, errnum, hnew, he⟩
  · by_contra hmark
    rw [Bool.not_eq_false] at hmark
    have hleft : 0 < (olds g.pool).count x.1 := List.count_pos_iff.mpr (mem_olds.mpr (hmark ▸ hx))
    have hgone : 0 < (olds g.taken).count x.1 := List.count_pos_iff.mpr (hsame.mem_iff.mpr hid)
    have hcount := h.count_olds x.1
    rw [honce _ hid] at hcount
    omega

/-- What has been taken is what was looked for exactly if each ID stood in the pool once, and nothing new was taken. -/
theorem Tracked.replaced_iff_once (h : Tracked w c looked looked.length [] (c', g)) (hperm : looked.Perm (overdueIds c))
    (hids : ∀ id ∈ overdueIds c, id ∈ ids c) :
    AllReplaced c c' g ↔ (∀ id ∈ overdueIds c, (ids c).count id = 1) ∧ ∀ x ∈ g.taken, x.2 = true :=
  ⟨h.once_of_replaced hperm hids, fun honce => h.replaced_of_once hperm honce.1 honce.2⟩

/-- A call that returns has its marks. -/
theorem exists_tracked {fuel : Nat} (hcall : reportErrorProxy w fuel c = .ok ((), c')) :
    ∃ g, marksAfter w fuel c = some g ∧
      ∃ looked : List Str, looked.Perm (overdueIds c) ∧ Tracked w c looked looked.length [] (c', g) := by
  obtain ⟨g, hmarked⟩ := (reportErrorProxy_erases fuel).of_ok hcall (.start c)
  refine ⟨g, ?_, (reportErrorProxyMarked_tracked fuel).returns rfl hmarked⟩
  unfold marksAfter
  rw [hmarked]

/-- **A call replaces every reported profile exactly if each ID it marks stands in the pool once, and it takes no
profile that was put into the pool in the meantime**; the second holds where the control server sends no profile under
one of these IDs. -/
theorem allReplaced_iff (hids : ∀ id ∈ overdueIds c, id ∈ ids c) {fuel : Nat}
    (hcall : reportErrorProxy w fuel c = .ok ((), c')) :
    ∃ g, marksAfter w fuel c = some g ∧ g.pool.map (·.1) = ids c' ∧
      (AllReplaced c c' g ↔ (∀ id ∈ overdueIds c, (ids c).count id = 1) ∧ ∀ x ∈ g.taken, x.2 = true) ∧
      ((∀ new, c'.trace = new ++ c.trace → ∀ e ∈ new, e.Unlisted w (overdueIds c)) →
        (AllReplaced c c' g ↔ ∀ id ∈ overdueIds c, (ids c).count id = 1)) := by
  obtain ⟨g, hmarks, looked, hperm, htracked⟩ := exists_tracked hcall
  have hiff := htracked.replaced_iff_once hperm hids
  refine ⟨g, hmarks, htracked.pool, hiff, fun hclean => hiff.trans (and_iff_left fun x hx => ?_)⟩
  obtain ⟨new, hnew, -, hunlisted⟩ := htracked.events
  have hunlisted := hunlisted fun e he => by
    cases e with
    | post req reply err =>
      exact fun conf hconf hmem => hclean new hnew _ he conf hconf (hperm.mem_iff.mp hmem)
    | _ => trivial
  by_contra hnot
  rw [Bool.not_eq_true] at hnot
  exact hunlisted x (List.mem_append_left _ (List.mem_append_left _ hx)) hnot (htracked.listed x hx)

end Report

/-- The only reported profile is replaced, by one of the same ID. -/
theorem allReplaced_iff_overdue :
    ∃ c' g, reportErrorProxy handsOut 1 overdueClient = .ok ((), c') ∧ marksAfter handsOut 1 overdueClient = some g ∧
      AllReplaced overdueClient c' g := by
  obtain ⟨c', hcall⟩ : ∃ c', reportErrorProxy handsOut 1 overdueClient = .ok ((), c') := ⟨_, rfl⟩
  obtain ⟨g, hmarks, -, hiff, -⟩ := allReplaced_iff (by decide) hcall
  refine ⟨c', g, hcall, hmarks, hiff.mpr ⟨by decide, ?_⟩⟩
  have htaken : (marksAfter handsOut 1 overdueClient).map (·.taken) = some [(str "a", true)] := by decide +kernel
  rw [hmarks] at htaken
  rw [show g.taken = [(str "a", true)] from Option.some.inj htaken]
  exact List.forall_mem_singleton.mpr rfl

/-- A control server that hands out the profile `a` twice and the profile `b` once. -/
def handsOutTwice : World :=
  sampleWorld fun n _ => if n < 4 then (okReply "a", none) else if n = 4 then (okReply "b", none) else ([], none)

/-- A client that holds these profiles and has counted five errors for each of the two IDs. -/
def twiceClient : ClientControl :=
  let c := after handsOutTwice (.rebuildSmux 1) (newClientControll handsOutTwice sampleAddr 3 false)
  let c := after handsOutTwice (.rebuildSmux 1) (after handsOutTwice (.rebuildSmux 1) c)
  after handsOutTwice (.errRecord (str "b") 5) (after handsOutTwice (.errRecord (str "a") 5) c)

/-- Two profiles under `a` are replaced, and the one under `b` is not. -/
theorem not_allReplaced_twice :
    ids twiceClient = [str "a", str "a", str "b"] ∧ (∀ id ∈ overdueIds twiceClient, id ∈ ids twiceClient) ∧
      ∃ c' g, reportErrorProxy handsOutTwice 2 twiceClient = .ok ((), c') ∧
        marksAfter handsOutTwice 2 twiceClient = some g ∧ ¬AllReplaced twiceClient c' g := by
  have hids : ∀ id ∈ overdueIds twiceClient, id ∈ ids twiceClient := by decide
  obtain ⟨c', hcall⟩ : ∃ c', reportErrorProxy handsOutTwice 2 twiceClient = .ok ((), c') := ⟨_, rfl⟩
  obtain ⟨g, hmarks, looked, hperm, htracked⟩ := exists_tracked hcall
  refine ⟨by decide, hids, c', g, hcall, hmarks, fun h => ?_⟩
  have honce := ((htracked.replaced_iff_once hperm hids).mp h).1 (str "a") (by decide)
  exact absurd honce (by decide)

end ProxyZ.Client
