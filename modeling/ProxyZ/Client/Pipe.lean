import ProxyZ.Client.Copy
import ProxyZ.Go.Threads

/-!
# Both directions of a pipe

`Pipe` copies two connections to each other: a goroutine copies the second to the first, the caller the first to the
second, and each of them closes both connections behind its copy. The caller waits for the goroutine to have
started, not for it to end.

The two take their steps in any order. Whatever it is, each direction copies as `copyBuffer` would alone on what its
connections return to it (`Sequential`), so nothing is lost, invented or reordered (`pipe_delivers`). When one of
them has ended both connections are closed; from there on no byte is delivered in either direction, and each of them
ends after at most six steps of its own (`pipe_closes`).
-/

namespace ProxyZ.Client

open Go

/-- The two connections, and whether the goroutine has started. -/
structure Pipes where
  closed₁ : Bool := false
  closed₂ : Bool := false
  started : Bool := false

/-- What a direction does next. -/
inductive PipeStage
  /-- before `wg.Done()` -/
  | spawned
  /-- in the `WriteTo` of its source or the `ReadFrom` of its destination -/
  | handedOver
  | reading
  | writing (r : ReadResult)
  | closing₁ (o : Outcome)
  | closing₂ (o : Outcome)
  /-- in `wg.Wait()` -/
  | waiting (o : Outcome)
  | ended (o : Outcome)

/-- A direction of the pipe. The caller copies the first connection to the second, the goroutine the second to the
first. `fast` is whether the copy is left to one of the connections. -/
structure Direction where
  caller : Bool
  fast : Bool
  stage : PipeStage
  copying : Copying := {}

/-- What a connection returns. -/
structure Io where
  read : ReadResult := ⟨[], none⟩
  write : WriteResult := ⟨0, none⟩
  copied : Copied := (0, none)

def errClosed : Err := .text (str "use of closed network connection")

def Pipes.sourceClosed (s : Pipes) (t : Direction) : Bool := if t.caller then s.closed₁ else s.closed₂

def Pipes.destinationClosed (s : Pipes) (t : Direction) : Bool := if t.caller then s.closed₂ else s.closed₁

/-- A `Read`, which fails on a closed connection. -/
def Pipes.read (s : Pipes) (t : Direction) (o : Io) : ReadResult :=
  if s.sourceClosed t then ⟨[], some errClosed⟩ else o.read

def Pipes.write (s : Pipes) (t : Direction) (o : Io) : WriteResult :=
  if s.destinationClosed t then ⟨0, some errClosed⟩ else o.write

/-- The beginning of the copy. -/
def Direction.begin (t : Direction) : Direction := { t with stage := if t.fast then .handedOver else .reading }

/-- The next step of a direction, `none` where it has ended or waits. A `Read` returns at most a buffer. -/
def pipeStep (s : Pipes) (t : Direction) (o : Io) : Option (Pipes × Direction) :=
  match t.stage with
  | .spawned => some ({ s with started := true }, t.begin)
  | .handedOver => some (s, { t with stage := .closing₁ (.returned o.copied.1 o.copied.2) })
  | .reading =>
      if (s.read t o).chunk.length ≤ 4096 then some (s, { t with stage := .writing (s.read t o) }) else none
  | .writing r =>
      match copyRound 4096 t.copying r [s.write t o] with
      | (copying, _, some out) => some (s, { t with stage := .closing₁ out, copying })
      | (copying, _, none) => some (s, { t with stage := .reading, copying })
  | .closing₁ out => some ({ s with closed₁ := true }, { t with stage := .closing₂ out })
  | .closing₂ out =>
      some ({ s with closed₂ := true }, { t with stage := if t.caller then .waiting out else .ended out })
  | .waiting out => if s.started then some (s, { t with stage := .ended out }) else none
  | .ended _ => none

/-- What a step does: to the connections, and to the stage and the copy of the direction. -/
inductive PipeTo (s : Pipes) (t : Direction) (o : Io) : PipeStage → Pipes → PipeStage → Copying → Prop
  | spawned : PipeTo s t o .spawned { s with started := true } t.begin.stage t.copying
  | handedOver : PipeTo s t o .handedOver s (.closing₁ (.returned o.copied.1 o.copied.2)) t.copying
  | reading (hlen : (s.read t o).chunk.length ≤ 4096) : PipeTo s t o .reading s (.writing (s.read t o)) t.copying
  | stops {r c left out} (hround : copyRound 4096 t.copying r [s.write t o] = (c, left, some out)) :
      PipeTo s t o (.writing r) s (.closing₁ out) c
  | goesOn {r c left} (hround : copyRound 4096 t.copying r [s.write t o] = (c, left, none)) :
      PipeTo s t o (.writing r) s .reading c
  | closing₁ {out} : PipeTo s t o (.closing₁ out) { s with closed₁ := true } (.closing₂ out) t.copying
  | closing₂ {out} : PipeTo s t o (.closing₂ out) { s with closed₂ := true }
      (if t.caller then .waiting out else .ended out) t.copying
  | waiting {out} (hstarted : s.started = true) : PipeTo s t o (.waiting out) s (.ended out) t.copying

theorem pipeStep_cases {s s' : Pipes} {t t' : Direction} {o : Io} (h : pipeStep s t o = some (s', t')) :
    t' = { t with stage := t'.stage, copying := t'.copying } ∧ PipeTo s t o t.stage s' t'.stage t'.copying := by
  unfold pipeStep at h
  cases hstage : t.stage with
  | spawned =>
    rw [hstage] at h
    cases h
    exact ⟨rfl, .spawned⟩
  | handedOver =>
    rw [hstage] at h
    cases h
    exact ⟨rfl, .handedOver⟩
  | reading =>
    rw [hstage] at h
    dsimp only at h
    split_ifs at h with hlen
    cases h
    exact ⟨rfl, .reading hlen⟩
  | writing r =>
    rw [hstage] at h
    dsimp only at h
    rcases hround : copyRound 4096 t.copying r [s.write t o] with ⟨c, left, _ | out⟩
    · rw [hround] at h
      cases h
      exact ⟨rfl, .goesOn hround⟩
    · rw [hround] at h
      cases h
      exact ⟨rfl, .stops hround⟩
  | closing₁ out =>
    rw [hstage] at h
    cases h
    exact ⟨rfl, .closing₁⟩
  | closing₂ out =>
    rw [hstage] at h
    cases h
    exact ⟨rfl, .closing₂⟩
  | waiting out =>
    rw [hstage] at h
    dsimp only at h
    split_ifs at h with hstarted
    cases h
    exact ⟨rfl, .waiting hstarted⟩
  | ended out =>
    rw [hstage] at h
    cases h

/-- `Pipe`. It starts no other goroutine. -/
def pipe : Program Pipes Direction Empty Io where
  start := nofun
  next s t o := do
    let (s, t) ← pipeStep s t o
    some (s, t, [])

/-- The caller, and the goroutine it has started. `fast₁` is whether the copy to the second connection is left to one
of the connections, `fast₂` whether the copy to the first is. -/
def newPipe (fast₁ fast₂ : Bool) : Threads Pipes Direction :=
  ⟨{}, [Direction.begin ⟨true, fast₁, .spawned, {}⟩, ⟨false, fast₂, .spawned, {}⟩]⟩

/-! ### What a direction copies -/

section Copies

variable {s s' : Pipes} {t t' : Direction} {o : Io}

/-- What the copy has returned. -/
def PipeStage.outcome : PipeStage → Option Outcome
  | .closing₁ o | .closing₂ o | .waiting o | .ended o => some o
  | _ => none

/-- A direction that copies itself, and has come as far as a copy alone would have: that goes on, or has ended, as the
direction has. -/
structure Sequential (t : Direction) : Prop where
  itself : t.stage ≠ .handedOver
  copies : ∀ reads writes,
    copyLoop true 4096 {} (t.copying.reads ++ reads) (t.copying.writes.map (·.2) ++ writes) =
      match t.stage.outcome with
      | none => copyLoop true 4096 t.copying reads writes
      | some out => (t.copying, out)

/-- The write of a chunk takes one result, or none. -/
theorem copyWrite_uses (cap : Nat) (s : Copying) (chunk : Bytes) (w : WriteResult) :
    ∃ u, (copyWrite cap s chunk [w]).1.reads = s.reads ∧
      (copyWrite cap s chunk [w]).1.writes.map (·.2) = s.writes.map (·.2) ++ u ∧
      ∀ rest, copyWrite cap s chunk (u ++ rest) =
        ((copyWrite cap s chunk [w]).1, rest, (copyWrite cap s chunk [w]).2.2) := by
  unfold copyWrite
  split_ifs with hchunk hcap
  · exact ⟨[], rfl, (List.append_nil _).symm, fun _ => rfl⟩
  · exact ⟨[], rfl, (List.append_nil _).symm, fun _ => rfl⟩
  · refine ⟨[w], ?_, ?_, fun rest => ?_⟩
    · dsimp only
      split <;> rfl
    · dsimp only
      split <;> simp
    · dsimp only [List.singleton_append]
      split <;> rfl

theorem copyRound_uses (cap : Nat) (s : Copying) (r : ReadResult) (w : WriteResult) :
    ∃ u, (copyRound cap s r [w]).1.reads = s.reads ++ [r] ∧
      (copyRound cap s r [w]).1.writes.map (·.2) = s.writes.map (·.2) ++ u ∧
      ∀ rest, copyRound cap s r (u ++ rest) =
        ((copyRound cap s r [w]).1, rest, (copyRound cap s r [w]).2.2) := by
  obtain ⟨u, hreads, hwrites, hrest⟩ := copyWrite_uses cap { s with reads := s.reads ++ [r] } r.chunk w
  -- behind the write a round changes nothing of what has been read and written
  have hround : ∀ writes, (copyRound cap s r writes).1 =
      (copyWrite cap { s with reads := s.reads ++ [r] } r.chunk writes).1 := by
    intro writes
    unfold copyRound
    rcases copyWrite cap { s with reads := s.reads ++ [r] } r.chunk writes with ⟨s', left, _ | out⟩ <;> rfl
  refine ⟨u, ?_, ?_, fun rest => ?_⟩
  · rw [hround]
    exact hreads
  · rw [hround]
    exact hwrites
  · unfold copyRound
    rw [hrest]
    rcases copyWrite cap { s with reads := s.reads ++ [r] } r.chunk [w] with ⟨s', left, _ | out⟩ <;> rfl

/-- **A step of a direction is a step of the copy**, whatever the other direction has done. -/
theorem Sequential.step (h : Sequential t) (hs : pipeStep s t o = some (s', t')) (hfast : t.fast = false) :
    Sequential t' := by
  have hsame : ∀ stage, stage ≠ .handedOver → stage.outcome = t.stage.outcome → Sequential { t with stage } := by
    intro stage hitself hstage
    refine ⟨hitself, fun reads writes => ?_⟩
    rw [hstage]
    exact h.copies reads writes
  have hround : ∀ {r c left out}, t.stage.outcome = none →
      copyRound 4096 t.copying r [s.write t o] = (c, left, out) → ∀ reads writes,
      copyLoop true 4096 {} (c.reads ++ reads) (c.writes.map (·.2) ++ writes) =
        match out with
        | none => copyLoop true 4096 c reads writes
        | some out => (c, out) := by
    intro r c left out hgoing hround reads writes
    obtain ⟨u, hreads, hwrites, hrest⟩ := copyRound_uses 4096 t.copying r (s.write t o)
    rw [hround] at hreads hwrites hrest
    dsimp only at hreads hwrites hrest
    have hcopy := h.copies (r :: reads) (u ++ writes)
    rw [hgoing] at hcopy
    rw [hreads, hwrites, List.append_assoc, List.append_assoc]
    refine hcopy.trans ?_
    show copyLoop true 4096 t.copying (r :: reads) (u ++ writes) = _
    rw [copyLoop, hrest]
    cases out <;> rfl
  obtain ⟨ht', hto⟩ := pipeStep_cases hs
  generalize t'.stage = stage', t'.copying = c' at ht' hto
  subst ht'
  generalize hstage : t.stage = stage at hsame hround hto
  cases hto with
  | spawned =>
    refine hsame _ ?_ ?_
    · simp [Direction.begin, hfast]
    · simp [Direction.begin, hfast, PipeStage.outcome]
  | handedOver => exact absurd hstage h.itself
  | reading hlen => exact hsame _ nofun rfl
  | stops hcall => exact ⟨nofun, hround rfl hcall⟩
  | goesOn hcall => exact ⟨nofun, hround rfl hcall⟩
  | closing₁ => exact hsame _ nofun rfl
  | closing₂ =>
    refine hsame _ ?_ ?_
    · split <;> nofun
    · split <;> rfl
  | waiting hstarted => exact hsame _ nofun rfl

/-- What a connection has returned to its readers and its writers. -/
def Direction.source (t : Direction) (more : List ReadResult) : Source := ⟨t.copying.reads ++ more, none, true, none⟩

def Direction.destination (t : Direction) (more : List WriteResult) : Destination :=
  ⟨t.copying.writes.map (·.2) ++ more, none⟩

/-- **A direction copies as it would alone.** -/
structure CopiesAlone (t : Direction) : Prop where
  /-- It has ended with what a copy alone returns on the same reads and writes, whatever comes behind them. -/
  alone : ∀ o, t.stage.outcome = some o →
    ∀ reads writes, streamCopy (t.destination writes) (t.source reads) = (t.copying, o)
  /-- What has been written is a beginning of what has been read, at any time. -/
  delivers : bytesAccepted t.copying.writes <+: bytesRead t.copying.reads
  /-- Without an error the source has come to its end, and all of it has been written. -/
  complete : ∀ written, t.stage.outcome = some (.returned written none) →
    bytesAccepted t.copying.writes = bytesRead t.copying.reads ∧
      ∃ before last, t.copying.reads = before ++ [last] ∧ last.err = some .eof

theorem Sequential.copiesAlone (h : Sequential t) : CopiesAlone t := by
  have hstart : InStep {} := ⟨rfl, rfl, rfl⟩
  have hcopies : Copies (t.source []) (t.destination []) t.copying (t.stage.outcome.getD .waiting) := by
    have heq : copyLoop true 4096 {} (t.source []).reads (t.destination []).writes =
        (t.copying, t.stage.outcome.getD .waiting) := by
      refine (h.copies [] []).trans ?_
      cases t.stage.outcome <;> rfl
    have hnone : ∀ r ∈ ({} : Copying).reads, r.err = none := fun r hr => absurd hr List.not_mem_nil
    have hloop : Copies (t.source []) (t.destination [])
        (copyLoop true 4096 {} (t.source []).reads (t.destination []).writes).1
        (copyLoop true 4096 {} (t.source []).reads (t.destination []).writes).2 := hstart.copyLoop hnone rfl rfl
    rwa [heq] at hloop
  refine ⟨fun o ho reads writes => ?_, hcopies.data, fun written ho => ?_⟩
  · have hloop := h.copies reads writes
    rw [ho] at hloop
    exact hloop
  · rw [ho] at hcopies
    obtain ⟨⟨before, last, hreads, hlast, -⟩, -, hall⟩ := hcopies.complete written rfl
    exact ⟨hall, before, last, hreads, hlast⟩

end Copies

/-! ### Runs -/

section Runs

variable {s s' : Threads Pipes Direction} {a : Act Empty Io} {acts : List (Act Empty Io)}

theorem pipe_step (hs : pipe.step? s a = some s') :
    ∃ k o t shared t', a = .step k o ∧ s.threads[k]? = some t ∧ pipeStep s.shared t o = some (shared, t') ∧
      s' = ⟨shared, s.threads.set k t'⟩ := by
  cases a with
  | call i => exact i.elim
  | step k o =>
    obtain ⟨t, shared, t', new, ht, hnext, rfl⟩ := Program.step?_step.mp hs
    obtain ⟨⟨shared', u⟩, hstep, hnext⟩ := Option.bind_eq_some_iff.mp hnext
    cases hnext
    exact ⟨k, o, t, shared, t', rfl, ht, hstep, by rw [List.append_nil]⟩

theorem fast_pipeStep {s s' : Pipes} {t t' : Direction} {o : Io} (hs : pipeStep s t o = some (s', t')) :
    t'.fast = t.fast := by
  rw [(pipeStep_cases hs).1]

/-- **Each direction copies as it would alone**, in every run of the two. -/
theorem pipe_delivers (fast₁ fast₂ : Bool) {s : Threads Pipes Direction}
    (hrun : runAll pipe.step? acts (newPipe fast₁ fast₂) = some s) :
    ∀ t ∈ s.threads, t.fast = false → CopiesAlone t := by
  have hkeep : ∀ s a s', (∀ t ∈ s.threads, t.fast = false → Sequential t) → pipe.step? s a = some s' →
      ∀ t ∈ s'.threads, t.fast = false → Sequential t := by
    intro s a s' h hs
    obtain ⟨k, o, t, shared, t', rfl, ht, hstep, rfl⟩ := pipe_step hs
    refine each_set h fun hfast => ?_
    rw [fast_pipeStep hstep] at hfast
    exact (h t (List.mem_of_getElem? ht) hfast).step hstep hfast
  have hnew : ∀ t ∈ (newPipe fast₁ fast₂).threads, t.fast = false → Sequential t := by
    intro t ht hfast
    rcases List.mem_cons.mp ht with rfl | ht
    · have hfast : fast₁ = false := hfast
      subst hfast
      exact ⟨nofun, fun _ _ => rfl⟩
    · rw [List.mem_singleton.mp ht]
      exact ⟨nofun, fun _ _ => rfl⟩
  intro t ht hfast
  exact (runAll_invariant hkeep hnew hrun t ht hfast).copiesAlone

/-- A byte, the end of the first connection, and both connections closed. -/
def oneByte : List (Act Empty Io) :=
  [.step 1 {}, .step 0 { read := ⟨[104], none⟩ }, .step 0 { write := ⟨1, none⟩ }, .step 0 { read := ⟨[], some .eof⟩ },
    .step 0 {}, .step 0 {}, .step 0 {}, .step 0 {}]

theorem pipe_delivers_oneByte : ∃ s, runAll pipe.step? oneByte (newPipe false false) = some s ∧
    ∀ t ∈ s.threads, t.fast = false → CopiesAlone t := by
  refine ⟨_, rfl, ?_⟩
  exact @pipe_delivers oneByte false false _ rfl

end Runs

/-! ### Closed connections -/

section Closing

variable {s s' : Pipes} {t t' : Direction} {o : Io}

def Pipes.Closed (s : Pipes) : Prop := s.closed₁ = true ∧ s.closed₂ = true

/-- The steps that are left where both connections are closed. -/
def PipeStage.left : PipeStage → Nat
  | .spawned => 6
  | .handedOver => 4
  | .reading => 5
  | .writing r => if r.chunk = [] ∧ r.err = none then 6 else 4
  | .closing₁ _ => 3
  | .closing₂ _ => 2
  | .waiting _ => 1
  | .ended _ => 0

theorem left_le (stage : PipeStage) : stage.left ≤ 6 := by
  unfold PipeStage.left
  split
  all_goals first | omega | (split_ifs <;> omega)

theorem Pipes.Closed.read (h : s.Closed) (t : Direction) (o : Io) : s.read t o = ⟨[], some errClosed⟩ := by
  unfold Pipes.read Pipes.sourceClosed
  simp [h.1, h.2]

theorem Pipes.Closed.write (h : s.Closed) (t : Direction) (o : Io) : s.write t o = ⟨0, some errClosed⟩ := by
  unfold Pipes.write Pipes.destinationClosed
  simp [h.1, h.2]

/-- A round whose write fails delivers nothing, and goes on only if there was nothing to write. -/
theorem copyRound_failed (cap : Nat) (c : Copying) (r : ReadResult) (err : Err) :
    bytesAccepted (copyRound cap c r [⟨0, some err⟩]).1.writes = bytesAccepted c.writes ∧
      ((copyRound cap c r [⟨0, some err⟩]).2.2 = none ↔ r.chunk = [] ∧ r.err = none) := by
  unfold copyRound copyWrite
  by_cases hchunk : r.chunk = []
  · simp [hchunk]
  by_cases hcap : cap < r.chunk.length
  · simp [hchunk, hcap]
  · have hcheck : checkWrite r.chunk.length ⟨0, some err⟩ = (0, some err) := by simp [checkWrite]
    have hnothing : accepted (r.chunk, ⟨0, some err⟩) = [] := by simp [accepted]
    simp [hchunk, hcap, hcheck, bytesAccepted_append, hnothing]

/-- **With both connections closed** a step delivers nothing, and there are fewer left. -/
theorem pipeStep_closed (h : s.Closed) (hs : pipeStep s t o = some (s', t')) :
    s'.Closed ∧ bytesAccepted t'.copying.writes = bytesAccepted t.copying.writes ∧ t'.stage.left < t.stage.left := by
  have hto := (pipeStep_cases hs).2
  generalize t.stage = stage, t'.stage = stage', t'.copying = c' at hto ⊢
  cases hto with
  | spawned =>
    refine ⟨h, rfl, ?_⟩
    unfold Direction.begin
    split <;> simp [PipeStage.left]
  | handedOver => exact ⟨h, rfl, by simp [PipeStage.left]⟩
  | reading hlen =>
    rw [h.read]
    exact ⟨h, rfl, by simp [PipeStage.left]⟩
  | stops hround =>
    rename_i r left out
    have hdelivers := (copyRound_failed 4096 t.copying r errClosed).1
    rw [h.write] at hround
    rw [hround] at hdelivers
    refine ⟨h, hdelivers, ?_⟩
    show 3 < if r.chunk = [] ∧ r.err = none then 6 else 4
    split <;> omega
  | goesOn hround =>
    rename_i r left
    obtain ⟨hdelivers, hgoes⟩ := copyRound_failed 4096 t.copying r errClosed
    rw [h.write] at hround
    rw [hround] at hdelivers hgoes
    exact ⟨h, hdelivers, by simp [PipeStage.left, hgoes.mp rfl]⟩
  | closing₁ => exact ⟨⟨rfl, h.2⟩, rfl, by simp [PipeStage.left]⟩
  | closing₂ =>
    refine ⟨⟨h.1, rfl⟩, rfl, ?_⟩
    split <;> simp [PipeStage.left]
  | waiting hstarted => exact ⟨h, rfl, by simp [PipeStage.left]⟩

/-- What a direction has closed where it stands. -/
def HasClosed (s : Pipes) (t : Direction) : Prop :=
  match t.stage with
  | .closing₂ _ => s.closed₁ = true
  | .waiting _ | .ended _ => s.Closed
  | _ => True

/-- A connection that is closed stays so, and the goroutine that has started has. -/
structure Pipes.Grows (s s' : Pipes) : Prop where
  closed₁ : s.closed₁ = true → s'.closed₁ = true
  closed₂ : s.closed₂ = true → s'.closed₂ = true
  started : s.started = true → s'.started = true

theorem HasClosed.grows (h : HasClosed s t) (hgrows : s.Grows s') : HasClosed s' t := by
  unfold HasClosed at h ⊢
  cases hstage : t.stage with
  | closing₂ out =>
    rw [hstage] at h
    exact hgrows.closed₁ h
  | waiting out | ended out =>
    rw [hstage] at h
    exact ⟨hgrows.closed₁ h.1, hgrows.closed₂ h.2⟩
  | spawned | handedOver | reading | writing _ | closing₁ _ => trivial

theorem pipeStep_grows (hs : pipeStep s t o = some (s', t')) (h : HasClosed s t) :
    s.Grows s' ∧ HasClosed s' t' ∧ (t.stage = .spawned → s'.started = true) ∧ t'.stage ≠ .spawned := by
  have hsame : s.Grows s := ⟨id, id, id⟩
  have hto := (pipeStep_cases hs).2
  unfold HasClosed at h ⊢
  generalize t.stage = stage, t'.stage = stage', t'.copying = c' at h hto ⊢
  cases hto with
  | spawned =>
    refine ⟨⟨id, id, fun _ => rfl⟩, ?_, fun _ => rfl, ?_⟩
    · unfold Direction.begin
      cases t.fast <;> trivial
    · unfold Direction.begin
      cases t.fast <;> nofun
  | handedOver => exact ⟨hsame, trivial, nofun, nofun⟩
  | reading hlen => exact ⟨hsame, trivial, nofun, nofun⟩
  | stops hround => exact ⟨hsame, trivial, nofun, nofun⟩
  | goesOn hround => exact ⟨hsame, trivial, nofun, nofun⟩
  | closing₁ => exact ⟨⟨fun _ => rfl, id, id⟩, rfl, nofun, nofun⟩
  | closing₂ =>
    refine ⟨⟨id, fun _ => rfl, id⟩, ?_, nofun, ?_⟩
    · cases t.caller
      · exact ⟨h, rfl⟩
      · exact ⟨h, rfl⟩
    · cases t.caller <;> nofun
  | waiting hstarted => exact ⟨hsame, h, nofun, nofun⟩

/-- The steps that the direction `k` takes. -/
def stepsOf (k : Nat) (acts : List (Act Empty Io)) : Nat :=
  acts.countP fun
    | .step j _ => j = k
    | .call _ => false

/-- **From two closed connections on** no byte is delivered, and a direction takes at most the steps that are left. -/
theorem closed_run {s s' : Threads Pipes Direction} {acts : List (Act Empty Io)} (h : s.shared.Closed)
    (hrun : runAll pipe.step? acts s = some s') {k : Nat} {t : Direction} (ht : s.threads[k]? = some t) :
    s'.shared.Closed ∧ ∃ t', s'.threads[k]? = some t' ∧
      bytesAccepted t'.copying.writes = bytesAccepted t.copying.writes ∧
      stepsOf k acts + t'.stage.left ≤ t.stage.left := by
  induction acts generalizing s t with
  | nil =>
    cases hrun
    exact ⟨h, t, ht, rfl, (Nat.zero_add _).le⟩
  | cons a acts ih =>
    obtain ⟨s₁, hs, hrest⟩ := Option.bind_eq_some_iff.mp hrun
    obtain ⟨j, o, u, shared, u', rfl, hu, hstep, rfl⟩ := pipe_step hs
    obtain ⟨hclosed, haccepted, hleft⟩ := pipeStep_closed h hstep
    have hlt : j < s.threads.length := (List.getElem?_eq_some_iff.mp hu).1
    by_cases hjk : j = k
    · subst hjk
      obtain rfl : u = t := Option.some.inj (hu.symm.trans ht)
      obtain ⟨hclosed', t', ht', haccepted', hleft'⟩ := ih hclosed hrest (List.getElem?_set_self hlt)
      refine ⟨hclosed', t', ht', haccepted'.trans haccepted, ?_⟩
      have hcount : stepsOf j (.step j o :: acts) = stepsOf j acts + 1 := by simp [stepsOf]
      omega
    · obtain ⟨hclosed', t', ht', haccepted', hleft'⟩ := ih (t := t) hclosed hrest ((List.getElem?_set_ne hjk).trans ht)
      refine ⟨hclosed', t', ht', haccepted', ?_⟩
      have hcount : stepsOf k (.step j o :: acts) = stepsOf k acts := by simp [stepsOf, hjk]
      omega

/-- What holds of every state of a pipe: what has been closed, and that the goroutine has started or will. -/
structure PipeOk (s : Threads Pipes Direction) : Prop where
  closed : ∀ t ∈ s.threads, HasClosed s.shared t
  starts : s.shared.started = true ∨ ∃ t ∈ s.threads, t.stage = .spawned

theorem PipeOk.step {s s' : Threads Pipes Direction} {a : Act Empty Io} (h : PipeOk s) (hs : pipe.step? s a = some s') :
    PipeOk s' := by
  obtain ⟨k, o, t, shared, t', rfl, ht, hstep, rfl⟩ := pipe_step hs
  obtain ⟨hgrows, hclosed, hstarts, -⟩ := pipeStep_grows hstep (h.closed t (List.mem_of_getElem? ht))
  refine ⟨each_set (fun u hu => (h.closed u hu).grows hgrows) hclosed, ?_⟩
  by_cases hspawned : t.stage = .spawned
  · exact Or.inl (hstarts hspawned)
  · exact h.starts.imp hgrows.started fun hu => exists_set ht hu fun hstage => absurd hstage hspawned

/-- Nothing can happen any more. -/
def Stuck (s : Threads Pipes Direction) : Prop := ∀ a, pipe.step? s a = none

/-- Where both connections are closed, a pipe that is stuck has ended. -/
theorem PipeOk.ended_of_stuck {s : Threads Pipes Direction} (h : PipeOk s) (hclosed : s.shared.Closed)
    (hstuck : Stuck s) : ∀ t ∈ s.threads, ∃ out, t.stage = .ended out := by
  have hnone : ∀ t ∈ s.threads, pipeStep s.shared t {} = none := by
    intro t ht
    obtain ⟨k, hk⟩ := List.getElem?_of_mem ht
    by_contra hsome
    obtain ⟨⟨shared, t'⟩, hstep⟩ := Option.ne_none_iff_exists'.mp hsome
    have hnext : pipe.next s.shared t {} = some (shared, t', []) := by
      show (pipeStep s.shared t {} >>= _) = _
      rw [hstep]
      rfl
    have hgoes := Program.step?_step.mpr ⟨t, shared, t', [], hk, hnext, rfl⟩
    exact Option.some_ne_none _ (hgoes.symm.trans (hstuck (.step k {})))
  have hstarted : s.shared.started = true := by
    refine h.starts.resolve_right ?_
    rintro ⟨t, ht, hstage⟩
    have hstep := hnone t ht
    unfold pipeStep at hstep
    rw [hstage] at hstep
    cases hstep
  intro t ht
  have hstep := hnone t ht
  unfold pipeStep at hstep
  cases hstage : t.stage with
  | ended out => exact ⟨out, rfl⟩
  | reading =>
    rw [hstage] at hstep
    dsimp only at hstep
    rw [hclosed.read, if_pos (by simp)] at hstep
    cases hstep
  | writing r =>
    rw [hstage] at hstep
    dsimp only at hstep
    rcases hround : copyRound 4096 t.copying r [s.shared.write t {}] with ⟨c, left, _ | out⟩ <;>
      · rw [hround] at hstep
        cases hstep
  | waiting out =>
    rw [hstage] at hstep
    dsimp only at hstep
    rw [if_pos hstarted] at hstep
    cases hstep
  | spawned | handedOver | closing₁ out | closing₂ out =>
    rw [hstage] at hstep
    cases hstep

/-- **A direction that has ended has closed both connections**, and from there on neither direction delivers a byte,
each takes at most six steps, and they are not stuck before both have ended. -/
theorem pipe_closes (fast₁ fast₂ : Bool) {s : Threads Pipes Direction} {acts : List (Act Empty Io)}
    (hrun : runAll pipe.step? acts (newPipe fast₁ fast₂) = some s) :
    (∀ t ∈ s.threads, ∀ out, t.stage = .ended out → s.shared.Closed) ∧
      (s.shared.Closed → ∀ acts' s', runAll pipe.step? acts' s = some s' →
        ∀ k t, s.threads[k]? = some t → ∃ t', s'.threads[k]? = some t' ∧
          bytesAccepted t'.copying.writes = bytesAccepted t.copying.writes ∧ stepsOf k acts' ≤ 6 ∧
          (Stuck s' → ∃ out, t'.stage = .ended out)) := by
  have hnew : PipeOk (newPipe fast₁ fast₂) := by
    refine ⟨fun t ht => ?_, Or.inr ⟨_, List.mem_cons_of_mem _ List.mem_cons_self, rfl⟩⟩
    rcases List.mem_cons.mp ht with rfl | ht
    · cases fast₁ <;> trivial
    · rw [List.mem_singleton.mp ht]
      trivial
  have hkeep : ∀ s a s', PipeOk s → pipe.step? s a = some s' → PipeOk s' := fun _ _ _ h hs => h.step hs
  have htended := runAll_invariant hkeep hnew hrun
  refine ⟨fun t ht out hstage => ?_, fun hclosed acts' s' hrun' k t ht => ?_⟩
  · have h := htended.closed t ht
    unfold HasClosed at h
    rw [hstage] at h
    exact h
  · obtain ⟨hclosed', t', ht', haccepted, hleft⟩ := closed_run hclosed hrun' ht
    have hbound := left_le t.stage
    refine ⟨t', ht', haccepted, by omega, fun hstuck => ?_⟩
    exact (runAll_invariant hkeep htended hrun').ended_of_stuck hclosed' hstuck t' (List.mem_of_getElem? ht')

theorem pipe_closes_oneByte : ∃ s, runAll pipe.step? oneByte (newPipe false false) = some s ∧
    (∀ t ∈ s.threads, ∀ out, t.stage = .ended out → s.shared.Closed) ∧
      (s.shared.Closed → ∀ acts' s', runAll pipe.step? acts' s = some s' →
        ∀ k t, s.threads[k]? = some t → ∃ t', s'.threads[k]? = some t' ∧
          bytesAccepted t'.copying.writes = bytesAccepted t.copying.writes ∧ stepsOf k acts' ≤ 6 ∧
          (Stuck s' → ∃ out, t'.stage = .ended out)) := by
  refine ⟨_, rfl, ?_⟩
  exact @pipe_closes false false _ oneByte rfl

end Closing

end ProxyZ.Client
