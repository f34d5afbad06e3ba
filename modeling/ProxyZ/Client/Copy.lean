import ProxyZ.Go.Stream

/-!
# The pipe

`copyBuffer` copies a source to a destination: it reads a chunk into its buffer, writes the chunk, and stops where a
read or a write fails, or where a write takes less than the chunk. A count that a write cannot have is no byte.

As long as the loop goes on, all that has been read has been accepted (`InStep`). So whatever the source and the
destination do, what has been accepted is a prefix of what has been read, the count is its length, and without an
error it is all of it (`copyBuffer_copies`).
-/

namespace ProxyZ.Client

open Go

/-- What a call of `Read` returns: the bytes it has put into the buffer, with the error. -/
structure ReadResult where
  chunk : Bytes
  err : Option Err := none
  deriving DecidableEq

/-- What a call of `Write` returns. -/
structure WriteResult where
  n : Int
  err : Option Err := none
  deriving DecidableEq

/-- A result of the fast paths. -/
abbrev Copied := Int64 × Option Err

/-- An `io.Reader`, with what its calls of `Read` return one after the other, and what its `WriteTo` returns if it has
one. `limited` is `N` of a `*io.LimitedReader`. -/
structure Source where
  reads : List ReadResult
  writeTo : Option Copied := none
  isNetConn : Bool := false
  limited : Option Int := none

/-- An `io.Writer`. -/
structure Destination where
  writes : List WriteResult
  readFrom : Option Copied := none

/-- A `[]byte` that is not nil. -/
structure Buffer where
  len : Nat
  cap : Nat
  len_le_cap : len ≤ cap

/-- What becomes of a call: it returns, it waits for a read or a write that does not return, or it panics. -/
inductive Outcome
  | returned (written : Int64) (err : Option Err)
  | waiting
  | panicked
  deriving DecidableEq

/-- The reads and writes that have returned so far, each write with its bytes. -/
structure Copying where
  written : Int64 := 0
  reads : List ReadResult := []
  writes : List (Bytes × WriteResult) := []
  deriving DecidableEq

def errInvalidWrite : Err := .text (str "invalid write result")

/-- `io.ErrShortWrite`. -/
def errShortWrite : Err := .text (str "short write")

/-- `nw` and `ew` behind the write of a chunk. -/
def checkWrite (nr : Nat) (w : WriteResult) : Nat × Option Err :=
  if w.n < 0 ∨ (nr : Int) < w.n then (0, some (w.err.getD errInvalidWrite)) else (w.n.toNat, w.err)

/-- The write of a chunk that has been read, with what is returned if the loop ends there. -/
def copyWrite (cap : Nat) (s : Copying) (chunk : Bytes) (writes : List WriteResult) :
    Copying × List WriteResult × Option Outcome :=
  if chunk = [] then (s, writes, none)
  else if cap < chunk.length then (s, writes, some .panicked)
  else
    match writes with
    | [] => (s, [], some .waiting)
    | w :: writes =>
        let (nw, ew) := checkWrite chunk.length w
        let s := { s with written := s.written + Int64.ofNat nw, writes := s.writes ++ [(chunk, w)] }
        match ew with
        | some ew => (s, writes, some (.returned s.written (some ew)))
        | none => (s, writes, if chunk.length ≠ nw then some (.returned s.written (some errShortWrite)) else none)

/-- One round of the loop. -/
def copyRound (cap : Nat) (s : Copying) (r : ReadResult) (writes : List WriteResult) :
    Copying × List WriteResult × Option Outcome :=
  match copyWrite cap { s with reads := s.reads ++ [r] } r.chunk writes with
  | (s, writes, some o) => (s, writes, some o)
  | (s, writes, none) =>
      (s, writes, r.err.map fun er => .returned s.written (if er ≠ .eof then some er else none))

/-- The loop. `deadline` is whether `SetReadDeadline` can be called, or does not have to be. -/
def copyLoop (deadline : Bool) (cap : Nat) (s : Copying) : List ReadResult → List WriteResult → Copying × Outcome
  | [], _ => (s, if deadline then .waiting else .panicked)
  | r :: reads, writes =>
      if !deadline then (s, .panicked)
      else
        match copyRound cap s r writes with
        | (s, _, some o) => (s, o)
        | (s, writes, none) => copyLoop deadline cap s reads writes

/-- The length of the buffer that is made for a source. -/
def bufferSize (src : Source) : Nat :=
  match src.limited with
  | some n => if n < 32 * 1024 then (if n < 1 then 1 else n.toNat) else 32 * 1024
  | none => 32 * 1024

/-- `SetReadDeadline` with the first timeout. -/
def deadlineSet (src : Source) : Option (List Int) → Bool
  | none => true
  | some timeout => src.isNetConn && timeout != []

/-- `copyBuffer`; `timeout` is `none` where it is nil. -/
def copyBuffer (dst : Destination) (src : Source) (buf : Option Buffer) (timeout : Option (List Int)) :
    Copying × Outcome :=
  if buf.any fun buf => buf.len = 0 then ({}, .panicked)
  else
    match src.writeTo with
    | some (written, err) => ({}, .returned written err)
    | none =>
        match dst.readFrom with
        | some (written, err) => ({}, if deadlineSet src timeout then .returned written err else .panicked)
        | none => copyLoop (deadlineSet src timeout) ((buf.map (·.cap)).getD (bufferSize src)) {} src.reads dst.writes

/-- One direction of `Pipe`. -/
def streamCopy (dst : Destination) (src : Source) : Copying × Outcome :=
  copyBuffer dst src (some ⟨4096, 4096, le_rfl⟩) (some [1800])

/-! ### What has been read and what has been accepted -/

def bytesRead (reads : List ReadResult) : Bytes := reads.flatMap (·.chunk)

/-- The bytes of a write that its result says to have been accepted: none if the count is none that a write of this
length can have. -/
def accepted (w : Bytes × WriteResult) : Bytes := if 0 ≤ w.2.n ∧ w.2.n ≤ w.1.length then w.1.take w.2.n.toNat else []

def bytesAccepted (writes : List (Bytes × WriteResult)) : Bytes := writes.flatMap accepted

/-- What has been written is a beginning of what has been read: the calls are those of the source and the destination,
and each write has a chunk that was read. -/
structure Delivers (src : Source) (dst : Destination) (s : Copying) : Prop where
  reads : s.reads <+: src.reads
  writes : s.writes.map (·.2) <+: dst.writes
  chunks : s.writes.map (·.1) <+: (s.reads.map (·.chunk)).filter (· ≠ [])
  data : bytesAccepted s.writes <+: bytesRead s.reads

/-- **Nothing is lost or invented** by a call. -/
structure Copies (src : Source) (dst : Destination) (s : Copying) (o : Outcome) : Prop extends Delivers src dst s where
  /-- The count is the number of bytes accepted, as an `int64`. -/
  count : ∀ written err, o = .returned written err → written = Int64.ofNat (bytesAccepted s.writes).length ∧
    ((bytesAccepted s.writes).length < 2 ^ 63 → written.toInt = (bytesAccepted s.writes).length)
  /-- Without an error the source has come to its end, and all its bytes have been written in order. -/
  complete : ∀ written, o = .returned written none →
    (∃ before last, s.reads = before ++ [last] ∧ last.err = some .eof ∧ ∀ r ∈ before, r.err = none) ∧
      (s.writes.map (·.1)).flatten = bytesRead s.reads ∧ bytesAccepted s.writes = bytesRead s.reads
  /-- It waits only for a source that has not ended, or for a write. -/
  waits : o = .waiting → (s.reads = src.reads ∧ ∀ r ∈ src.reads, r.err = none) ∨ s.writes.map (·.2) = dst.writes

/-- The loop where a chunk has been written: all that has been read has been accepted. -/
structure InStep (s : Copying) : Prop where
  chunks : s.writes.map (·.1) = (s.reads.map (·.chunk)).filter (· ≠ [])
  data : bytesAccepted s.writes = bytesRead s.reads
  count : s.written = Int64.ofNat (bytesAccepted s.writes).length

section Copying

variable {src : Source} {dst : Destination} {s : Copying} {r : ReadResult} {w : WriteResult} {chunk : Bytes}
  {writes : List WriteResult} {cap : Nat}

theorem bytesRead_append (reads : List ReadResult) (r : ReadResult) :
    bytesRead (reads ++ [r]) = bytesRead reads ++ r.chunk := by
  rw [bytesRead, List.flatMap_append, List.flatMap_singleton]
  rfl

theorem bytesAccepted_append (writes : List (Bytes × WriteResult)) (w : Bytes × WriteResult) :
    bytesAccepted (writes ++ [w]) = bytesAccepted writes ++ accepted w := by
  rw [bytesAccepted, List.flatMap_append, List.flatMap_singleton]
  rfl

/-- What the code takes for the count is the number of the accepted bytes, and it goes on only with a valid one. -/
theorem checkWrite_spec (chunk : Bytes) (w : WriteResult) :
    accepted (chunk, w) = chunk.take (checkWrite chunk.length w).1 ∧ (checkWrite chunk.length w).1 ≤ chunk.length := by
  unfold accepted checkWrite
  dsimp only
  by_cases hvalid : 0 ≤ w.n ∧ w.n ≤ chunk.length
  · rw [if_pos hvalid, if_neg (by omega)]
    exact ⟨rfl, by omega⟩
  · rw [if_neg hvalid, if_pos (by omega)]
    exact ⟨rfl, Nat.zero_le _⟩

/-- A write that has ended the loop, with an error. -/
theorem count_append (hcount : s.written = Int64.ofNat (bytesAccepted s.writes).length) (chunk : Bytes)
    (w : WriteResult) :
    s.written + Int64.ofNat (checkWrite chunk.length w).1 =
      Int64.ofNat (bytesAccepted (s.writes ++ [(chunk, w)])).length := by
  obtain ⟨haccepted, hle⟩ := checkWrite_spec chunk w
  rw [bytesAccepted_append, haccepted, List.length_append, List.length_take_of_le hle, hcount, Int64.ofNat_add]

theorem InStep.delivers (h : InStep s) (hreads : s.reads <+: src.reads) (hwrites : s.writes.map (·.2) <+: dst.writes) :
    Delivers src dst s :=
  ⟨hreads, hwrites, h.chunks ▸ List.prefix_rfl, h.data ▸ List.prefix_rfl⟩

theorem chunks_append (reads : List ReadResult) (r : ReadResult) :
    ((reads ++ [r]).map (·.chunk)).filter (· ≠ []) =
      (reads.map (·.chunk)).filter (· ≠ []) ++ if r.chunk = [] then [] else [r.chunk] := by
  rw [List.map_append, List.filter_append, List.map_singleton]
  congr 1
  by_cases h : r.chunk = []
  · rw [if_pos h, h]
    rfl
  · rw [if_neg h]
    exact List.filter_eq_self.mpr fun c hc => by rw [List.mem_singleton.mp hc]; exact decide_eq_true h

/-- A chunk has been read, and nothing of it written. -/
theorem InStep.read (h : InStep s) (hreads : s.reads ++ [r] <+: src.reads)
    (hwrites : s.writes.map (·.2) <+: dst.writes) : Delivers src dst { s with reads := s.reads ++ [r] } := by
  refine ⟨hreads, hwrites, ?_, ?_⟩
  · rw [chunks_append, ← h.chunks]
    exact List.prefix_append _ _
  · rw [bytesRead_append, ← h.data]
    exact List.prefix_append _ _

/-- The chunk has been written as far as the write has accepted it. -/
theorem InStep.write (h : InStep s) (hreads : s.reads ++ [r] <+: src.reads) (hchunk : r.chunk ≠ [])
    (hwrites : (s.writes ++ [(r.chunk, w)]).map (·.2) <+: dst.writes) {written : Int64} :
    Delivers src dst ⟨written, s.reads ++ [r], s.writes ++ [(r.chunk, w)]⟩ := by
  refine ⟨hreads, hwrites, ?_, ?_⟩
  · rw [chunks_append, if_neg hchunk, ← h.chunks, List.map_append, List.map_singleton]
  · rw [bytesAccepted_append, bytesRead_append, h.data, (checkWrite_spec r.chunk w).1]
    exact List.prefix_append_right_inj _ |>.mpr (List.take_prefix _ _)

theorem toInt_count {n : Nat} (hcount : s.written = Int64.ofNat n) :
    s.written = Int64.ofNat n ∧ (n < 2 ^ 63 → s.written.toInt = n) :=
  ⟨hcount, fun hlt => hcount ▸ Int64.toInt_ofNat_of_lt hlt⟩

theorem Delivers.panicked (h : Delivers src dst s) : Copies src dst s .panicked :=
  ⟨h, nofun, nofun, nofun⟩

theorem Delivers.failed (h : Delivers src dst s) (hcount : s.written = Int64.ofNat (bytesAccepted s.writes).length)
    (err : Err) : Copies src dst s (.returned s.written (some err)) := by
  refine ⟨h, fun written err' ho => ?_, fun written ho => ?_, nofun⟩
  · cases ho
    exact toInt_count hcount
  · cases ho

/-- What a part of a round leaves, behind these reads: the loop stops there, or it goes on in step. -/
structure Proceeds (src : Source) (dst : Destination) (reads : List ReadResult)
    (p : Copying × List WriteResult × Option Outcome) : Prop where
  reads : p.1.reads = reads
  writes : p.1.writes.map (·.2) ++ p.2.1 = dst.writes
  stops : ∀ o, p.2.2 = some o → Copies src dst p.1 o
  goesOn : p.2.2 = none → InStep p.1

theorem Copies.proceeds {o : Outcome} (h : Copies src dst s o) (hwrites : s.writes.map (·.2) ++ writes = dst.writes) :
    Proceeds src dst s.reads (s, writes, some o) :=
  ⟨rfl, hwrites, fun _ ho => Option.some.inj ho ▸ h, nofun⟩

theorem InStep.proceeds (h : InStep s) (hwrites : s.writes.map (·.2) ++ writes = dst.writes) :
    Proceeds src dst s.reads (s, writes, none) :=
  ⟨rfl, hwrites, nofun, fun _ => h⟩

/-- The write of a chunk ends the loop, or all of the chunk has been accepted. -/
theorem InStep.copyWrite (h : InStep s) (cap : Nat) (hreads : s.reads ++ [r] <+: src.reads)
    (hwrites : s.writes.map (·.2) ++ writes = dst.writes) :
    Proceeds src dst (s.reads ++ [r]) (copyWrite cap { s with reads := s.reads ++ [r] } r.chunk writes) := by
  have hread := h.read hreads (hwrites ▸ List.prefix_append _ _ : s.writes.map (·.2) <+: dst.writes)
  unfold ProxyZ.Client.copyWrite
  by_cases hchunk : r.chunk = []
  · rw [if_pos hchunk]
    have hin : InStep { s with reads := s.reads ++ [r] } := by
      refine ⟨?_, ?_, h.count⟩
      · rw [chunks_append, if_pos hchunk, List.append_nil, h.chunks]
      · rw [bytesRead_append, hchunk, List.append_nil, h.data]
    exact hin.proceeds hwrites
  rw [if_neg hchunk]
  by_cases hcap : cap < r.chunk.length
  · rw [if_pos hcap]
    exact hread.panicked.proceeds hwrites
  rw [if_neg hcap]
  cases writes with
  | nil =>
    have hall : s.writes.map (·.2) = dst.writes := by rwa [List.append_nil] at hwrites
    have hwaits : Copies src dst { s with reads := s.reads ++ [r] } .waiting :=
      ⟨hread, nofun, nofun, fun _ => Or.inr hall⟩
    exact hwaits.proceeds hwrites
  | cons w writes =>
    have hwrites' : (s.writes ++ [(r.chunk, w)]).map (·.2) ++ writes = dst.writes := by
      rw [List.map_append, List.append_assoc]
      exact hwrites
    have hcount := count_append h.count r.chunk w
    have hwrite : ∀ {written}, Delivers src dst ⟨written, s.reads ++ [r], s.writes ++ [(r.chunk, w)]⟩ :=
      h.write hreads hchunk (hwrites' ▸ List.prefix_append _ _)
    obtain ⟨haccepted, hle⟩ := checkWrite_spec r.chunk w
    dsimp only
    generalize checkWrite r.chunk.length w = nwew at hcount haccepted hle ⊢
    obtain ⟨nw, ew⟩ := nwew
    cases ew with
    | some ew => exact (hwrite.failed hcount ew).proceeds hwrites'
    | none =>
      by_cases hshort : r.chunk.length = nw
      · -- the whole chunk has been accepted
        have hin : InStep ⟨s.written + Int64.ofNat nw, s.reads ++ [r], s.writes ++ [(r.chunk, w)]⟩ := by
          refine ⟨?_, ?_, hcount⟩
          · rw [chunks_append, if_neg hchunk, ← h.chunks, List.map_append, List.map_singleton]
          · rw [bytesAccepted_append, bytesRead_append, h.data, haccepted, ← hshort, List.take_length]
        dsimp only
        rw [if_neg (not_not.mpr hshort)]
        exact hin.proceeds hwrites'
      · dsimp only
        rw [if_pos hshort]
        exact (hwrite.failed hcount errShortWrite).proceeds hwrites'

/-- One round: the loop ends, or all that has been read has been accepted and no read has failed. -/
theorem InStep.copyRound (h : InStep s) (cap : Nat) (hgoing : ∀ r ∈ s.reads, r.err = none)
    (hreads : s.reads ++ [r] <+: src.reads) (hwrites : s.writes.map (·.2) ++ writes = dst.writes) :
    Proceeds src dst (s.reads ++ [r]) (copyRound cap s r writes) ∧
      ((copyRound cap s r writes).2.2 = none → r.err = none) := by
  have hproceeds := h.copyWrite cap hreads hwrites
  unfold ProxyZ.Client.copyRound
  rcases hwrite : ProxyZ.Client.copyWrite cap { s with reads := s.reads ++ [r] } r.chunk writes
    with ⟨s', writes', _ | o⟩
  · rw [hwrite] at hproceeds
    have hin : InStep s' := hproceeds.goesOn rfl
    have hreads' : s'.reads = s.reads ++ [r] := hproceeds.reads
    have hdelivers : Delivers src dst s' :=
      hin.delivers (hreads' ▸ hreads) (hproceeds.writes ▸ List.prefix_append _ _)
    refine ⟨⟨hreads', hproceeds.writes, fun o ho => ?_, fun _ => hin⟩, Option.map_eq_none_iff.mp⟩
    obtain ⟨er, her, rfl⟩ := Option.map_eq_some_iff.mp ho
    by_cases heof : er = .eof
    · rw [if_neg (not_not.mpr heof)]
      refine ⟨hdelivers, fun written err ho => ?_, fun written ho => ?_, nofun⟩
      · cases ho
        exact toInt_count hin.count
      · refine ⟨⟨s.reads, r, hreads', heof ▸ her, hgoing⟩, ?_, hin.data⟩
        show (s'.writes.map (·.1)).flatten = bytesRead s'.reads
        rw [hin.chunks, List.flatten_filter_ne_nil, bytesRead, List.flatMap_def]
    · rw [if_pos heof]
      exact hdelivers.failed hin.count er
  · rw [hwrite] at hproceeds
    exact ⟨hproceeds, nofun⟩

/-- The loop from any point at which all that has been read has been accepted. -/
theorem InStep.copyLoop {deadline : Bool} {reads : List ReadResult} (h : InStep s)
    (hgoing : ∀ r ∈ s.reads, r.err = none) (hreads : s.reads ++ reads = src.reads)
    (hwrites : s.writes.map (·.2) ++ writes = dst.writes) :
    Copies src dst (copyLoop deadline cap s reads writes).1 (copyLoop deadline cap s reads writes).2 := by
  have hdelivers : Delivers src dst s :=
    h.delivers (hreads ▸ List.prefix_append _ _) (hwrites ▸ List.prefix_append _ _)
  induction reads generalizing s writes with
  | nil =>
    rw [List.append_nil] at hreads
    cases deadline
    · exact hdelivers.panicked
    · exact ⟨hdelivers, nofun, nofun, fun _ => Or.inl ⟨hreads, hreads ▸ hgoing⟩⟩
  | cons r reads ih =>
    unfold ProxyZ.Client.copyLoop
    cases deadline
    · exact hdelivers.panicked
    · have hreads' : s.reads ++ [r] ++ reads = src.reads := by
        rw [List.append_assoc]
        exact hreads
      have hround := h.copyRound cap hgoing (hreads' ▸ List.prefix_append _ _) hwrites
      rw [Bool.not_true, if_neg Bool.false_ne_true]
      rcases hcall : ProxyZ.Client.copyRound cap s r writes with ⟨s', writes', _ | o⟩
      · rw [hcall] at hround
        obtain ⟨hproceeds, herr⟩ := hround
        have hin : InStep s' := hproceeds.goesOn rfl
        have hbehind : s'.reads = s.reads ++ [r] := hproceeds.reads
        have hgoing' : ∀ r ∈ s'.reads, r.err = none := by
          rw [hbehind]
          exact List.forall_mem_append.mpr ⟨hgoing, List.forall_mem_singleton.mpr (herr rfl)⟩
        rw [← hbehind] at hreads'
        exact ih hin hgoing' hreads' hproceeds.writes
          (hin.delivers (hreads' ▸ List.prefix_append _ _) (hproceeds.writes ▸ List.prefix_append _ _))
      · rw [hcall] at hround
        exact hround.1.stops o rfl

end Copying

/-- **`copyBuffer` neither loses nor invents data.** -/
theorem copyBuffer_copies {src : Source} {dst : Destination} (hsrc : src.writeTo = none) (hdst : dst.readFrom = none)
    (buf : Option Buffer) (timeout : Option (List Int)) :
    Copies src dst (copyBuffer dst src buf timeout).1 (copyBuffer dst src buf timeout).2 := by
  have hstart : InStep {} := ⟨rfl, rfl, rfl⟩
  have hgoing : ∀ r ∈ ({} : Copying).reads, r.err = none := fun r hr => absurd hr List.not_mem_nil
  unfold copyBuffer
  rw [hsrc, hdst]
  by_cases hempty : (buf.any fun buf => buf.len = 0) = true
  · rw [if_pos hempty]
    exact (hstart.delivers List.nil_prefix List.nil_prefix).panicked
  · rw [if_neg hempty]
    exact hstart.copyLoop hgoing rfl rfl

/-- A connection that ends with its last bytes. -/
def endingSource : Source := ⟨[⟨[1, 2], none⟩, ⟨[], none⟩, ⟨[3, 4], some .eof⟩], none, true, none⟩

/-- A connection that takes the second chunk in part. -/
def shortDestination : Destination := ⟨[⟨2, none⟩, ⟨1, none⟩], none⟩

theorem copyBuffer_copies_short :
    (streamCopy shortDestination endingSource).2 = .returned 3 (some errShortWrite) ∧
      Copies endingSource shortDestination (streamCopy shortDestination endingSource).1
        (streamCopy shortDestination endingSource).2 :=
  ⟨by decide, copyBuffer_copies rfl rfl _ _⟩

end ProxyZ.Client
