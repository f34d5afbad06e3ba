import ProxyZ.Go.Threads
import ProxyZ.Tunnel.Accept
import ProxyZ.Tunnel.Handle

/-!
# The streams of a tunnel

A tunnel runs a goroutine for each connection that comes, which accepts its streams, and one for each stream, which
calls `HandleConnAsync`. They share the counters of the tunnel and, behind smux, a `WaitGroup` for each connection.

Whatever the order of their steps is, each stream is handled as it would be alone, `alive` is the number of streams
that are being served, and a panic of one of them is the only end of the server (`streams_exact`). A multiplexer is
closed behind the last of its streams, and in a state where nothing can go on all of them are (`sessions_close`).
-/

namespace ProxyZ.Tunnel

open Go ProxyZ.Socks5

/-! ### The goroutines -/

/-- What the goroutines share: the counters of the tunnel, the counter of each session's `WaitGroup`, the sessions
that are closed, and whether a panic has ended the server. -/
structure Serving where
  alive : Int := 0
  cons : Nat := 0
  waits : List Nat := []
  closed : List Nat := []
  crashed : Bool := false

/-- What a goroutine does next. -/
inductive Stage (ρ : Type)
  /-- `smux.Server` on a connection -/
  | conn
  /-- `AcceptStream` of the session `k` -/
  | accepting (k : Nat)
  /-- `wg.Wait()` -/
  | waiting (k : Nat)
  | left
  /-- a stream of the session `k` -/
  | stream (k : Nat) (con : Reader)
  /-- the stream behind its request, with what is left of it -/
  | serving (k : Nat) (con : Reader) (host : Str) (rest : Reader)
  /-- `HandleConnAsync` has returned -/
  | returned (k : Nat) (con : Reader) (w : World ρ) (out : Conn)
  | ended (k : Nat) (con : Reader) (w : World ρ) (out : Conn)

/-- What a step finds outside: whether the multiplexer is there, the result of `AcceptStream`, and the world in which
the stream is served. -/
structure Found (ρ : Type) where
  opened : Bool
  accepted : Option Reader
  world : World ρ

variable {ρ : Type}

/-- The next step of a goroutine, `none` where it has ended or waits. Behind QUIC there is no multiplexer to be made
or closed, and nothing is waited for. -/
def streamStep (p : Protocol) (s : Serving) (t : Stage ρ) (o : Found ρ) : Option (Serving × Stage ρ × List (Stage ρ)) :=
  if s.crashed then none
  else
    match t with
    | .conn =>
        if p = .quic ∨ o.opened then some ({ s with waits := s.waits ++ [0] }, .accepting s.waits.length, [])
        else some (s, .left, [])
    | .accepting k =>
        match o.accepted with
        | some con => some ({ s with waits := s.waits.modify k (· + 1) }, .accepting k, [.stream k con])
        | none => some (s, if p = .quic then .left else .waiting k, [])
    | .waiting k => if s.waits[k]? = some 0 then some ({ s with closed := k :: s.closed }, .left, []) else none
    | .stream k con =>
        match getServerRequest con with
        | none => some ({ s with crashed := true }, .returned k con o.world (panics { alive := 0, cons := 0 }), [])
        | some ({ err := some _, .. }, _) => some (s, .returned k con o.world (delCon { alive := 0, cons := 0 }), [])
        | some ({ host, err := none, .. }, rest) =>
            some ({ s with alive := s.alive + 1, cons := s.cons + 1 }, .serving k con host rest, [])
    | .serving k con host rest =>
        let out := serveHost o.world host rest { alive := 1, cons := 1 }
        some ({ s with alive := s.alive - 1, crashed := out.panicked },
          .returned k con o.world { out with alive := out.alive - 1 }, [])
    | .returned k con w out => some ({ s with waits := s.waits.modify k (· - 1) }, .ended k con w out, [])
    | .left => none
    | .ended _ _ _ _ => none

/-- The goroutines of a tunnel, one for each connection that comes. -/
def streams (ρ : Type) (p : Protocol) : Program Serving (Stage ρ) Unit (Found ρ) where
  start _ := .conn
  next := streamStep p

/-- The streams that are being served. -/
def Stage.serves : Stage ρ → Nat
  | .serving _ _ _ _ => 1
  | _ => 0

/-- The streams whose request has been read. -/
def Stage.requests : Stage ρ → Nat
  | .serving _ _ _ _ => 1
  | .returned _ _ _ out | .ended _ _ _ out => out.cons
  | _ => 0

/-- The streams of the session `j` that have not ended. -/
def Stage.runs (j : Nat) : Stage ρ → Nat
  | .stream k _ | .serving k _ _ _ | .returned k _ _ _ => if k = j then 1 else 0
  | _ => 0

/-- The goroutine that accepts the streams of the session `j`. -/
def Stage.tends (j : Nat) : Stage ρ → Nat
  | .accepting k | .waiting k => if k = j then 1 else 0
  | _ => 0

/-- A stream is handled as it would be alone. -/
def Stage.Alone : Stage ρ → Prop
  | .serving _ con host rest => ∃ req, getServerRequest con = some (req, rest) ∧ req.host = host ∧ req.err = none
  | .returned _ con w out | .ended _ con w out => out = handleConnAsync w con { alive := 0, cons := 0 }
  | _ => True

/-- `HandleConnAsync` has panicked. -/
def Stage.Panicked : Stage ρ → Prop
  | .returned _ _ _ out | .ended _ _ _ out => out.panicked = true
  | _ => False

/-! ### What a step does -/

/-- What the goroutines do to what they share, and what they go on with. -/
inductive StreamTo (p : Protocol) (s : Serving) : Stage ρ → Serving → Stage ρ → List (Stage ρ) → Prop
  | opened : StreamTo p s .conn { s with waits := s.waits ++ [0] } (.accepting s.waits.length) []
  | refused : StreamTo p s .conn s .left []
  | accepted (k : Nat) (con : Reader) :
      StreamTo p s (.accepting k) { s with waits := s.waits.modify k (· + 1) } (.accepting k) [.stream k con]
  | lost (k : Nat) : p ≠ .quic → StreamTo p s (.accepting k) s (.waiting k) []
  | hungUp (k : Nat) : p = .quic → StreamTo p s (.accepting k) s .left []
  | drained (k : Nat) : s.waits[k]? = some 0 →
      StreamTo p s (.waiting k) { s with closed := k :: s.closed } .left []
  | failed (k : Nat) (con : Reader) (w : World ρ) (out : Conn) : out = handleConnAsync w con { alive := 0, cons := 0 } →
      out.cons = 0 → StreamTo p s (.stream k con) { s with crashed := out.panicked } (.returned k con w out) []
  | read (k : Nat) (con rest : Reader) (req : ServerRequest) : getServerRequest con = some (req, rest) → req.err = none →
      StreamTo p s (.stream k con) { s with alive := s.alive + 1, cons := s.cons + 1 } (.serving k con req.host rest) []
  | served (k : Nat) (con rest : Reader) (host : Str) (w : World ρ) (out : Conn) :
      ((Stage.serving k con host rest : Stage ρ).Alone → out = handleConnAsync w con { alive := 0, cons := 0 }) →
      out.cons = 1 →
      StreamTo p s (.serving k con host rest) { s with alive := s.alive - 1, crashed := out.panicked }
        (.returned k con w out) []
  | done (k : Nat) (con : Reader) (w : World ρ) (out : Conn) :
      StreamTo p s (.returned k con w out) { s with waits := s.waits.modify k (· - 1) } (.ended k con w out) []

section Steps

variable {p : Protocol} {s s' : Serving} {t t' : Stage ρ} {o : Found ρ} {new : List (Stage ρ)} {w : World ρ}

/-- Serving a host leaves the counter of connections. -/
theorem serveHost_cons (host : Str) (con : Reader) (c : Conn) : (serveHost w host con c).cons = c.cons := by
  unfold serveHost dnsNormal tcpNormal delCon panics
  split
  · rfl
  · split <;> rfl
  · split
    · rfl
    · rfl
    · split_ifs
      · rfl
      · dsimp only
        split <;> rfl
  · split
    · rfl
    · split <;> rfl

theorem streamStep_cases (h : streamStep p s t o = some (s', t', new)) :
    s.crashed = false ∧ StreamTo p s t s' t' new := by
  unfold streamStep at h
  by_cases hcrashed : s.crashed = true
  · rw [if_pos hcrashed] at h
    cases h
  rw [if_neg hcrashed] at h
  have hup : s.crashed = false := Bool.not_eq_true _ ▸ hcrashed
  refine ⟨hup, ?_⟩
  cases t with
  | conn =>
    dsimp only at h
    split_ifs at h
    · cases h
      exact .opened
    · cases h
      exact .refused
  | accepting k =>
    dsimp only at h
    split at h
    · cases h
      exact .accepted k _
    · split_ifs at h with hquic
      · cases h
        exact .hungUp k hquic
      · cases h
        exact .lost k hquic
  | waiting k =>
    dsimp only at h
    split_ifs at h with hzero
    cases h
    exact .drained k hzero
  | left => cases h
  | stream k con =>
    dsimp only at h
    split at h
    · rename_i hread
      cases h
      refine .failed k con o.world (panics { alive := 0, cons := 0 }) ?_ rfl
      unfold handleConnAsync
      rw [hread]
    · rename_i hread
      cases h
      have hstate : s = { s with crashed := (delCon { alive := 0, cons := 0 }).panicked } := by
        rw [show (delCon { alive := 0, cons := 0 }).panicked = s.crashed from hup.symm]
      rw [hstate]
      refine .failed k con o.world (delCon { alive := 0, cons := 0 }) ?_ rfl
      unfold handleConnAsync
      rw [hread]
    · rename_i hread
      cases h
      exact .read k con _ _ hread rfl
  | serving k con host rest =>
    cases h
    refine .served k con rest host o.world
      { serveHost o.world host rest { alive := 1, cons := 1 } with
        alive := (serveHost o.world host rest { alive := 1, cons := 1 }).alive - 1 }
      ?_ (serveHost_cons host rest { alive := 1, cons := 1 })
    rintro ⟨⟨host', raw, isUdp, err⟩, hread, rfl, rfl⟩
    unfold handleConnAsync
    rw [hread]
    rfl
  | returned k con w out =>
    cases h
    exact .done k con w out
  | ended k con w out => cases h

/-- 1 for a session that has begun. -/
def Serving.begun (s : Serving) (j : Nat) : Nat := if j < s.waits.length then 1 else 0

theorem getD_modify (l : List Nat) (k j : Nat) (f : Nat → Nat) :
    (l.modify k f).getD j 0 = if k = j ∧ j < l.length then f (l.getD j 0) else l.getD j 0 := by
  simp only [List.getD_eq_getElem?_getD, List.getElem?_modify]
  by_cases hj : j < l.length
  · by_cases hk : k = j
    · simp [hk, hj]
    · simp [hk]
  · rw [if_neg fun h => hj h.2]
    simp [List.getElem?_eq_none (Nat.le_of_not_lt hj)]

namespace StreamTo

variable (h : StreamTo p s t s' t' new)
include h

theorem alive : s'.alive + t.serves = s.alive + t'.serves + total Stage.serves new := by
  cases h <;> simp [Stage.serves, total]

theorem cons : s'.cons + t.requests = s.cons + t'.requests + total Stage.requests new := by
  cases h <;> simp_all [Stage.requests, total]

theorem alone (ht : t.Alone) : t'.Alone ∧ ∀ u ∈ new, u.Alone := by
  cases h with
  | read k con rest req hread herr => exact ⟨⟨req, hread, rfl, herr⟩, by simp⟩
  | failed k con w out hout _ => exact ⟨hout, by simp⟩
  | served k con rest host w out hout _ => exact ⟨hout ht, by simp⟩
  | done k con w out => exact ⟨ht, by simp⟩
  | accepted k con => exact ⟨trivial, by simp [Stage.Alone]⟩
  | opened | refused | lost | hungUp | drained => exact ⟨trivial, by simp⟩

/-- The server ends with the stream that panics. -/
theorem crashed (hup : s.crashed = false) (ht : ¬t.Panicked) :
    (s'.crashed = true ↔ t'.Panicked) ∧ ∀ u ∈ new, ¬u.Panicked := by
  cases h with
  | failed k con w out _ _ => exact ⟨Iff.rfl, by simp⟩
  | served k con rest host w out _ _ => exact ⟨Iff.rfl, by simp⟩
  | done k con w out => exact ⟨iff_of_false (by simp [hup]) ht, by simp⟩
  | accepted k con => exact ⟨iff_of_false (by simp [hup]) id, by simp [Stage.Panicked]⟩
  | opened | refused | read | lost | hungUp | drained => exact ⟨iff_of_false (by simp [hup]) id, by simp⟩

/-- The `WaitGroup` of a session counts its streams. -/
theorem waits (hbegun : ∀ j, t.tends j ≤ s.begun j) (hcount : ∀ j, t.runs j ≤ s.waits.getD j 0) (j : Nat) :
    s'.waits.getD j 0 + t.runs j = s.waits.getD j 0 + t'.runs j + total (Stage.runs j) new := by
  cases h with
  | accepted k con =>
    have hk := hbegun k
    simp only [Stage.tends, Serving.begun, if_true] at hk
    simp only [Stage.runs, total, getD_modify, List.map_cons, List.map_nil, List.sum_cons, List.sum_nil]
    split_ifs at hk ⊢ <;> omega
  | done k con w out =>
    have hk := hcount k
    simp only [Stage.runs, if_true, List.getD_eq_getElem?_getD] at hk
    have hlt : k < s.waits.length := by
      by_contra hge
      rw [List.getElem?_eq_none (Nat.le_of_not_lt hge)] at hk
      exact absurd hk (by simp)
    simp only [Stage.runs, total, getD_modify, List.map_nil, List.sum_nil]
    split_ifs with hboth hkj hkj
    · rw [← hkj, List.getD_eq_getElem?_getD]
      omega
    · exact absurd hboth.1 hkj
    · exact absurd ⟨hkj, hkj ▸ hlt⟩ hboth
    · rfl
  | opened =>
    simp only [Stage.runs, total, List.map_nil, List.sum_nil, List.getD_eq_getElem?_getD, List.getElem?_append]
    split_ifs with hj
    · rfl
    · rw [List.getElem?_eq_none (Nat.le_of_not_lt hj)]
      rcases j - s.waits.length with _ | i <;> rfl
  | refused | lost | hungUp | drained | failed | read | served => simp [Stage.runs, total]

/-- A session is open or closed, once for all; behind QUIC it may be given up. -/
theorem tends (j : Nat) :
    s'.closed.count j + t'.tends j + total (Stage.tends j) new + s.begun j ≤ s.closed.count j + t.tends j + s'.begun j ∧
      (p ≠ .quic → s'.closed.count j + t'.tends j + total (Stage.tends j) new + s.begun j =
        s.closed.count j + t.tends j + s'.begun j) := by
  cases h with
  | opened =>
    simp only [Stage.tends, Serving.begun, total, List.map_nil, List.sum_nil, List.length_append, List.length_singleton]
    split_ifs <;> omega
  | accepted k con => simp [Stage.tends, Serving.begun, total]
  | drained k _ =>
    simp only [Stage.tends, Serving.begun, total, List.map_nil, List.sum_nil, List.count_cons, beq_iff_eq]
    omega
  | hungUp k hquic => exact ⟨by simp [Stage.tends, total], fun hne => absurd hquic hne⟩
  | refused | lost | failed | read | served | done => simp [Stage.tends, Serving.begun, total]

/-- A session is closed when it has no streams left. -/
theorem closed {j : Nat} (hj : j ∈ s'.closed) :
    j ∈ s.closed ∨ s.waits.getD j 0 = 0 ∧ t'.runs j + total (Stage.runs j) new = 0 := by
  cases h with
  | drained k hzero =>
    rcases List.mem_cons.mp hj with rfl | hj
    · exact Or.inr ⟨by rw [List.getD_eq_getElem?_getD, hzero]; rfl, rfl⟩
    · exact Or.inl hj
  | opened | refused | accepted | lost | hungUp | failed | read | served | done => exact Or.inl hj

/-- Streams come from the goroutine that accepts them. -/
theorem runs_le (j : Nat) : t'.runs j + total (Stage.runs j) new ≤ t.runs j + t.tends j := by
  cases h <;> simp [Stage.runs, Stage.tends, total]

end StreamTo

end Steps

/-! ### Runs -/

/-- The counters fit the goroutines. -/
structure Accounted (p : Protocol) (s : Threads Serving (Stage ρ)) : Prop where
  alive : s.shared.alive = total Stage.serves s.threads
  cons : s.shared.cons = total Stage.requests s.threads
  waits : ∀ j, s.shared.waits.getD j 0 = total (Stage.runs j) s.threads
  tended : ∀ j, s.shared.closed.count j + total (Stage.tends j) s.threads ≤ s.shared.begun j
  kept : p ≠ .quic → ∀ j, s.shared.closed.count j + total (Stage.tends j) s.threads = s.shared.begun j
  closed : ∀ j ∈ s.shared.closed, total (Stage.runs j) s.threads = 0
  alone : ∀ t ∈ s.threads, t.Alone
  crashed : s.shared.crashed = true ↔ ∃ t ∈ s.threads, t.Panicked

section Runs

variable {p : Protocol} {s s' : Threads Serving (Stage ρ)} {a : Act Unit (Found ρ)}

theorem accounted_empty : Accounted p (⟨{}, []⟩ : Threads Serving (Stage ρ)) := by
  constructor <;> simp [total, Serving.begun]

theorem Accounted.comes (h : Accounted p s) : Accounted p ⟨s.shared, s.threads ++ [.conn]⟩ := by
  have hnone : ∀ weight : Stage ρ → Nat, weight .conn = 0 →
      total weight (s.threads ++ [.conn]) = total weight s.threads := by
    intro weight hzero
    rw [total_append]
    simp [total, hzero]
  constructor
  · rw [hnone _ rfl]
    exact h.alive
  · rw [hnone _ rfl]
    exact h.cons
  · intro j
    rw [hnone _ rfl]
    exact h.waits j
  · intro j
    rw [hnone _ rfl]
    exact h.tended j
  · intro hquic j
    rw [hnone _ rfl]
    exact h.kept hquic j
  · intro j hj
    rw [hnone _ rfl]
    exact h.closed j hj
  · exact each_append h.alone (by simp [Stage.Alone])
  · rw [h.crashed]
    simp [Stage.Panicked]

/-- A session whose streams are accepted is not closed. -/
theorem Accounted.open_of_tends (h : Accounted p s) {i : Nat} {t : Stage ρ} (ht : s.threads[i]? = some t) {j : Nat}
    (htends : t.tends j ≠ 0) : j ∉ s.shared.closed := by
  intro hj
  have hcount := List.count_pos_iff.mpr hj
  have htotal := weight_le_total (Stage.tends j) ht
  have htended := h.tended j
  unfold Serving.begun at htended
  split_ifs at htended <;> omega

theorem Accounted.step {shared : Serving} {i : Nat} {t t' : Stage ρ} {new : List (Stage ρ)} (h : Accounted p s)
    (ht : s.threads[i]? = some t) (hup : s.shared.crashed = false) (hto : StreamTo p s.shared t shared t' new) :
    Accounted p ⟨shared, s.threads.set i t' ++ new⟩ := by
  have hmem := List.mem_of_getElem? ht
  have htotal := fun weight => total_step weight ht t' new
  have hle := fun weight => weight_le_total weight ht
  have hcalm : ∀ u ∈ s.threads, ¬u.Panicked := by
    intro u hu hpanicked
    rw [h.crashed.mpr ⟨u, hu, hpanicked⟩] at hup
    cases hup
  have hbegun : ∀ j, t.tends j ≤ s.shared.begun j := fun j => (hle _).trans ((Nat.le_add_left _ _).trans (h.tended j))
  have hcount : ∀ j, t.runs j ≤ s.shared.waits.getD j 0 := fun j => (hle _).trans (h.waits j).ge
  constructor
  · have hnew := hto.alive
    have hsum := htotal Stage.serves
    have hbefore := h.alive
    dsimp only
    omega
  · have hnew := hto.cons
    have hsum := htotal Stage.requests
    have hbefore := h.cons
    dsimp only
    omega
  · intro j
    have hnew := hto.waits hbegun hcount j
    have hsum := htotal (Stage.runs j)
    have hbefore := h.waits j
    dsimp only
    omega
  · intro j
    have hnew := (hto.tends j).1
    have hsum := htotal (Stage.tends j)
    have hbefore := h.tended j
    dsimp only
    omega
  · intro hquic j
    have hnew := (hto.tends j).2 hquic
    have hsum := htotal (Stage.tends j)
    have hbefore := h.kept hquic j
    dsimp only
    omega
  · intro j hj
    have hsum := htotal (Stage.runs j)
    rcases hto.closed hj with hold | ⟨hzero, hnone⟩
    · have hbefore := h.closed j hold
      have hidle : t.tends j = 0 := by
        by_contra htends
        exact h.open_of_tends ht htends hold
      have hmore := hto.runs_le j
      dsimp only
      omega
    · have hbefore := h.waits j
      dsimp only
      omega
  · obtain ⟨hthis, hothers⟩ := hto.alone (h.alone t hmem)
    exact each_append (each_set h.alone hthis) hothers
  · obtain ⟨hthis, hothers⟩ := hto.crashed hup (hcalm t hmem)
    have hlt := (List.getElem?_eq_some_iff.mp ht).1
    dsimp only
    rw [hthis]
    constructor
    · exact fun hpanicked => ⟨t', List.mem_append_left _ (List.mem_set hlt t'), hpanicked⟩
    · rintro ⟨u, hu, hpanicked⟩
      rcases List.mem_append.mp hu with hu | hu
      · rcases List.mem_or_eq_of_mem_set hu with hu | rfl
        · exact absurd hpanicked (hcalm u hu)
        · exact hpanicked
      · exact absurd hpanicked (hothers u hu)

theorem Accounted.run (h : Accounted p s) {acts : List (Act Unit (Found ρ))}
    (hrun : runAll (streams ρ p).step? acts s = some s') : Accounted p s' := by
  refine runAll_invariant ?_ h hrun
  intro s a s' h hs
  cases a with
  | call i =>
    rw [Program.step?_call.mp hs]
    exact h.comes
  | step i o =>
    obtain ⟨t, shared, t', new, ht, hnext, rfl⟩ := Program.step?_step.mp hs
    obtain ⟨hup, hto⟩ := streamStep_cases hnext
    exact h.step ht hup hto

/-- No goroutine can take a step, whatever it finds. -/
def Stuck (p : Protocol) (s : Threads Serving (Stage ρ)) : Prop := ∀ i o, (streams ρ p).step? s (.step i o) = none

/-- The goroutine has nothing more to do. -/
def Stage.Over (t : Stage ρ) : Prop := t = .left ∨ ∃ k con w out, t = .ended k con w out

/-- A world without DNS and other hosts. -/
def lonely : World ρ where
  codec := { pack := fun _ => .error (.text (str "pack")), unpack := fun _ => .error (.text (str "unpack")) }
  lookupIP := fun _ => .error (.text (str "no such host"))
  dial := fun _ => some (.text (str "connection refused"))
  confirmWrite := none
  remote := fun _ => []
  controllFunc := none

/-- A goroutine that is stuck has ended, or waits for the streams of its session. -/
theorem Stuck.cases (h : Stuck p s) (hup : s.shared.crashed = false) {t : Stage ρ} (ht : t ∈ s.threads) :
    t.Over ∨ ∃ k, t = .waiting k ∧ s.shared.waits[k]? ≠ some 0 := by
  let o : Found ρ := ⟨false, none, lonely⟩
  obtain ⟨i, hi⟩ := List.getElem?_of_mem ht
  have hnext : ∀ o, streamStep p s.shared t o = none := by
    intro o
    have hstep := h i o
    rw [Program.step?, hi] at hstep
    rcases hcall : streamStep p s.shared t o with _ | ⟨shared, t', new⟩
    · rfl
    · have hcall' : (streams ρ p).next s.shared t o = some (shared, t', new) := hcall
      simp [hcall'] at hstep
  unfold streamStep at hnext
  rw [hup] at hnext
  simp only [Bool.false_eq_true, if_false] at hnext
  cases t with
  | conn =>
    have hstep := hnext o
    dsimp only at hstep
    split_ifs at hstep
  | accepting k =>
    have hstep := hnext o
    dsimp only at hstep
    split at hstep <;> cases hstep
  | waiting k =>
    refine Or.inr ⟨k, rfl, fun hzero => ?_⟩
    have hstep := hnext o
    dsimp only at hstep
    rw [if_pos hzero] at hstep
    cases hstep
  | left => exact Or.inl (Or.inl rfl)
  | stream k con =>
    have hstep := hnext o
    dsimp only at hstep
    split at hstep <;> cases hstep
  | serving k con host rest => cases hnext o
  | returned k con w out => cases hnext o
  | ended k con w out => exact Or.inl (Or.inr ⟨k, con, w, out, rfl⟩)

/-- Goroutines that are over count for nothing. -/
theorem total_over {weight : Stage ρ → Nat} (hleft : weight .left = 0)
    (hended : ∀ k con w out, weight (.ended k con w out) = 0) (h : ∀ t ∈ s.threads, t.Over) :
    total weight s.threads = 0 := by
  apply List.sum_eq_zero
  intro n hn
  obtain ⟨t, ht, rfl⟩ := List.mem_map.mp hn
  rcases h t ht with rfl | ⟨k, con, w, out, rfl⟩
  · exact hleft
  · exact hended k con w out

/-- Where all goroutines are stuck, all are over. -/
theorem Accounted.over (h : Accounted p s) (hstuck : Stuck p s) (hup : s.shared.crashed = false) :
    ∀ t ∈ s.threads, t.Over := by
  intro t ht
  rcases hstuck.cases hup ht with hover | ⟨k, rfl, hwait⟩
  · exact hover
  · have hidle : total (Stage.runs k) s.threads = 0 := by
      apply List.sum_eq_zero
      intro n hn
      obtain ⟨u, hu, rfl⟩ := List.mem_map.mp hn
      rcases hstuck.cases hup hu with (rfl | ⟨_, _, _, _, rfl⟩) | ⟨_, rfl, _⟩
      all_goals rfl
    obtain ⟨i, hi⟩ := List.getElem?_of_mem ht
    have hbegun := (weight_le_total (Stage.tends k) hi).trans ((Nat.le_add_left _ _).trans (h.tended k))
    simp only [Stage.tends, if_true, Serving.begun] at hbegun
    have hlt : k < s.shared.waits.length := by
      by_contra hge
      rw [if_neg hge] at hbegun
      omega
    have hzero := (h.waits k).trans hidle
    rw [List.getD_eq_getElem?_getD, List.getElem?_eq_getElem hlt, Option.getD_some] at hzero
    exact absurd (by rw [List.getElem?_eq_getElem hlt, hzero]) hwait

/-- **The counters of a tunnel are exact in every run**: `alive` is the number of streams that are being served, `cons`
that of the requests that have been read, each stream is handled as it would be alone, and the server ends exactly if
`HandleConnAsync` panics on one of them. -/
theorem streams_exact (p : Protocol) {acts : List (Act Unit (Found ρ))} {s : Threads Serving (Stage ρ)}
    (hrun : runAll (streams ρ p).step? acts ⟨{}, []⟩ = some s) :
    s.shared.alive = total Stage.serves s.threads ∧ s.shared.cons = total Stage.requests s.threads ∧
      (∀ t ∈ s.threads, t.Alone) ∧ (s.shared.crashed = true ↔ ∃ t ∈ s.threads, t.Panicked) := by
  have h := accounted_empty.run hrun
  exact ⟨h.alive, h.cons, h.alone, h.crashed⟩

/-- **A multiplexer is closed once, behind the last stream of its session**, and where nothing can go on no stream is
being served, and behind smux every multiplexer is closed. -/
theorem sessions_close (p : Protocol) {acts : List (Act Unit (Found ρ))} {s : Threads Serving (Stage ρ)}
    (hrun : runAll (streams ρ p).step? acts ⟨{}, []⟩ = some s) :
    s.shared.closed.Nodup ∧ (∀ j ∈ s.shared.closed, ∀ t ∈ s.threads, t.runs j = 0 ∧ t.tends j = 0) ∧
      (s.shared.crashed = false → Stuck p s → s.shared.alive = 0 ∧ (∀ t ∈ s.threads, t.Over) ∧
        (p ≠ .quic → ∀ j < s.shared.waits.length, j ∈ s.shared.closed)) := by
  have h : Accounted p s := accounted_empty.run hrun
  refine ⟨?_, fun j hj t ht => ?_, fun hup hstuck => ?_⟩
  · rw [List.nodup_iff_count_le_one]
    intro j
    have htended := h.tended j
    unfold Serving.begun at htended
    split_ifs at htended <;> omega
  · obtain ⟨i, hi⟩ := List.getElem?_of_mem ht
    have hruns := weight_le_total (Stage.runs j) hi
    rw [h.closed j hj] at hruns
    refine ⟨Nat.le_zero.mp hruns, ?_⟩
    by_contra htends
    exact h.open_of_tends hi htends hj
  · have hover := h.over hstuck hup
    refine ⟨?_, hover, fun hquic j hj => ?_⟩
    · rw [h.alive, total_over rfl (fun _ _ _ _ => rfl) hover]
      rfl
    · have hkept := h.kept hquic j
      rw [total_over rfl (fun _ _ _ _ => rfl) hover, Serving.begun, if_pos hj] at hkept
      exact List.count_pos_iff.mp (by omega)

end Runs

/-- A connection with one stream, for a host that cannot be dialed; then it is lost. -/
def oneStream : List (Act Unit (Found Unit)) :=
  let found : Found Unit := ⟨true, some ⟨[hostToRaw (str "example.com") 80], .eof⟩, lonely⟩
  let lost : Found Unit := ⟨true, none, lonely⟩
  [.call (), .step 0 found, .step 0 found, .step 1 found, .step 0 lost, .step 1 found, .step 1 found, .step 0 lost]

theorem oneStream_runs : ∃ s, runAll (streams Unit .tls).step? oneStream ⟨{}, []⟩ = some s :=
  Option.isSome_iff_exists.mp (by decide +kernel)

theorem streams_exact_oneStream : ∃ s, runAll (streams Unit .tls).step? oneStream ⟨{}, []⟩ = some s ∧
    s.shared.alive = total Stage.serves s.threads ∧ s.shared.cons = total Stage.requests s.threads ∧
      (∀ t ∈ s.threads, t.Alone) ∧ (s.shared.crashed = true ↔ ∃ t ∈ s.threads, t.Panicked) := by
  obtain ⟨s, hrun⟩ := oneStream_runs
  exact ⟨s, hrun, streams_exact .tls hrun⟩

theorem sessions_close_oneStream : ∃ s, runAll (streams Unit .tls).step? oneStream ⟨{}, []⟩ = some s ∧
    s.shared.closed.Nodup ∧ (∀ j ∈ s.shared.closed, ∀ t ∈ s.threads, t.runs j = 0 ∧ t.tends j = 0) ∧
      (s.shared.crashed = false → Stuck .tls s → s.shared.alive = 0 ∧ (∀ t ∈ s.threads, t.Over) ∧
        (Protocol.tls ≠ .quic → ∀ j < s.shared.waits.length, j ∈ s.shared.closed)) := by
  obtain ⟨s, hrun⟩ := oneStream_runs
  exact ⟨s, hrun, sessions_close .tls hrun⟩

end ProxyZ.Tunnel
