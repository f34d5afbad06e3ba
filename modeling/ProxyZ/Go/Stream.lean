import ProxyZ.Go.Bytes

/-!
# Reading a connection

A connection delivers its bytes in chunks of the transport's choosing: one `Read` returns at most one
chunk, cut to the buffer's length, and once the chunks are used up every `Read` fails with the same
error. `readAtLeast` and `readFull` are Go's `io.ReadAtLeast` and `io.ReadFull` over such reads.

What the `io` functions return is stated about the bytes of the connection as a whole
(`readAtLeast_ok`, `readAtLeast_err`, `readFull_ok`, `readFull_err`): only how far `readAtLeast` reads
beyond its minimum depends on the chunks.
-/

namespace Go

/-- An `error` value: the `io` errors and those made from a text. -/
inductive Err
  | eof
  | unexpectedEof
  | shortBuffer
  | text (s : Str)
  deriving DecidableEq, Repr

def Err.error : Err → Str
  | .eof => str "EOF"
  | .unexpectedEof => str "unexpected EOF"
  | .shortBuffer => str "short buffer"
  | .text s => s

/-- The receiving end of a connection: the chunks still to come and the error behind them. -/
structure Reader where
  chunks : List Bytes
  last : Err := .eof
  deriving DecidableEq, Repr

def Reader.bytes (r : Reader) : Bytes := r.chunks.flatten

/-- `r.Read(buf)` for a buffer of `size` bytes. -/
def read (size : Nat) (r : Reader) : Bytes × Option Err × Reader :=
  match r.chunks with
  | [] => ([], some r.last, r)
  | c :: cs =>
      if c.length ≤ size then (c, none, { r with chunks := cs })
      else (c.take size, none, { r with chunks := c.drop size :: cs })

/-- The loop of `io.ReadAtLeast`: read behind `got` until `min` bytes are there. -/
def fill (size min : Nat) (last : Err) : Bytes → List Bytes → Bytes × Option Err × List Bytes
  | got, [] =>
      if min ≤ got.length then (got, none, [])
      else (got, some (if got ≠ [] ∧ last = .eof then .unexpectedEof else last), [])
  | got, c :: cs =>
      if min ≤ got.length then (got, none, c :: cs)
      else if c.length ≤ size - got.length then fill size min last (got ++ c) cs
      else (got ++ c.take (size - got.length), none, c.drop (size - got.length) :: cs)

/-- `io.ReadAtLeast(r, buf, min)` for a buffer of `size` bytes. -/
def readAtLeast (size min : Nat) (r : Reader) : Bytes × Option Err × Reader :=
  if size < min then ([], some .shortBuffer, r)
  else
    let x := fill size min r.last [] r.chunks
    (x.1, x.2.1, { r with chunks := x.2.2 })

/-- `io.ReadFull(r, buf)` for a buffer of `size` bytes. -/
def readFull (size : Nat) (r : Reader) : Bytes × Option Err × Reader := readAtLeast size size r

/-- The number of bytes the first chunks bring until there are `least`. -/
def reached : Nat → List Bytes → Nat
  | _, [] => 0
  | least, c :: cs => if least = 0 then 0 else c.length + reached (least - c.length) cs

/-! ### What the loop reads -/

/-- With enough bytes to come the loop stops without an error, between `min` and `size` bytes, and
leaves the rest of the stream behind. -/
theorem fill_ok (size min : Nat) (last : Err) (hmin : min ≤ size) (cs : List Bytes) :
    ∀ got : Bytes, got.length ≤ size → min ≤ got.length + cs.flatten.length →
      ∃ n rest, fill size min last got cs = (got ++ cs.flatten.take n, none, rest) ∧
        rest.flatten = cs.flatten.drop n ∧ min ≤ got.length + n ∧ got.length + n ≤ size ∧
        n ≤ cs.flatten.length := by
  induction cs with
  | nil =>
    intro got hgot hlen
    simp only [List.flatten_nil, List.length_nil, Nat.add_zero] at hlen
    exact ⟨0, [], by simp [fill, hlen], rfl, hlen, hgot, le_rfl⟩
  | cons c cs ih =>
    intro got hgot hlen
    by_cases hdone : min ≤ got.length
    · exact ⟨0, c :: cs, by simp [fill, hdone], by simp, hdone, hgot, Nat.zero_le _⟩
    · by_cases hc : c.length ≤ size - got.length
      · obtain ⟨n, rest, hfill, hrest, hlow, hhigh, hn⟩ := ih (got ++ c)
          (by rw [List.length_append]; omega)
          (by simp only [List.flatten_cons, List.length_append] at hlen ⊢; omega)
        rw [List.length_append] at hlow hhigh
        refine ⟨c.length + n, rest, ?_, ?_, by omega, by omega, ?_⟩
        · rw [fill, if_neg hdone, if_pos hc, hfill]
          simp [List.take_append]
        · rw [hrest]
          simp [List.drop_append]
        · simp only [List.flatten_cons, List.length_append]
          omega
      · refine ⟨size - got.length, c.drop (size - got.length) :: cs, ?_, ?_, by omega, by omega, ?_⟩
        · rw [fill, if_neg hdone, if_neg hc, List.flatten_cons, List.take_append_of_le_length (by omega)]
        · rw [List.flatten_cons, List.flatten_cons, List.drop_append_of_le_length (by omega)]
        · simp only [List.flatten_cons, List.length_append]
          omega

theorem fill_err (size min : Nat) (last : Err) (hmin : min ≤ size) (cs : List Bytes) :
    ∀ got : Bytes, got.length + cs.flatten.length < min →
      fill size min last got cs = (got ++ cs.flatten,
        some (if got ++ cs.flatten ≠ [] ∧ last = .eof then .unexpectedEof else last), []) := by
  induction cs with
  | nil =>
    intro got hlen
    simp only [List.flatten_nil, List.length_nil, Nat.add_zero] at hlen
    simp [fill, Nat.not_le.mpr hlen]
  | cons c cs ih =>
    intro got hlen
    simp only [List.flatten_cons, List.length_append] at hlen
    rw [fill, if_neg (by omega), if_pos (by omega), ih (got ++ c) (by rw [List.length_append]; omega)]
    simp

/-- How far the loop reads is a matter of the chunks. -/
theorem length_fill (size least : Nat) (last : Err) (cs : List Bytes) :
    ∀ got : Bytes, got.length ≤ size →
      (fill size least last got cs).1.length = min size (got.length + reached (least - got.length) cs) := by
  induction cs with
  | nil =>
    intro got hgot
    have hres : (fill size least last got []).1 = got := by
      unfold fill
      split_ifs <;> rfl
    rw [hres, reached, Nat.add_zero, Nat.min_eq_right hgot]
  | cons c cs ih =>
    intro got hgot
    rw [fill, reached]
    by_cases hdone : least ≤ got.length
    · rw [if_pos hdone, if_pos (Nat.sub_eq_zero_of_le hdone), Nat.add_zero]
      exact (Nat.min_eq_right hgot).symm
    · have hmore : least - got.length ≠ 0 := Nat.sub_ne_zero_of_lt (Nat.lt_of_not_le hdone)
      rw [if_neg hdone, if_neg hmore]
      by_cases hc : c.length ≤ size - got.length
      · rw [if_pos hc, ih (got ++ c) (by rw [List.length_append]; omega), List.length_append, Nat.sub_add_eq,
          Nat.add_assoc]
      · rw [if_neg hc, List.length_append, List.length_take]
        omega

/-! ### The `io` functions on the bytes of the connection -/

/-- **`io.ReadAtLeast` on a long enough stream** takes a prefix of at least `min` and at most `size`
bytes and leaves exactly the rest. -/
theorem readAtLeast_ok {size min : Nat} {r : Reader} (hmin : min ≤ size) (hlen : min ≤ r.bytes.length) :
    ∃ n r', readAtLeast size min r = (r.bytes.take n, none, r') ∧ r'.bytes = r.bytes.drop n ∧
      r'.last = r.last ∧ min ≤ n ∧ n ≤ size ∧ n ≤ r.bytes.length := by
  obtain ⟨n, rest, hfill, hrest, hlow, hhigh, hn⟩ := fill_ok size min r.last hmin r.chunks []
    (Nat.zero_le _) (by simpa [Reader.bytes] using hlen)
  simp only [List.length_nil, Nat.zero_add, List.nil_append] at hfill hlow hhigh
  refine ⟨n, { r with chunks := rest }, ?_, hrest, rfl, hlow, hhigh, hn⟩
  rw [readAtLeast, if_neg (by omega), hfill]
  rfl

/-- Behind its minimum `io.ReadAtLeast` takes the rest of the chunk that brings it, as far as the buffer goes. -/
theorem readAtLeast_reached {size least : Nat} {r : Reader} (hleast : least ≤ size) (hlen : least ≤ r.bytes.length) :
    ∃ r', readAtLeast size least r = (r.bytes.take (min size (reached least r.chunks)), none, r') ∧
      r'.bytes = r.bytes.drop (min size (reached least r.chunks)) := by
  obtain ⟨n, r', hread, hrest, -, -, -, hn⟩ := readAtLeast_ok hleast hlen
  have hcount : n = min size (reached least r.chunks) := by
    have hfill := length_fill size least r.last r.chunks [] (Nat.zero_le _)
    have hdata : (fill size least r.last [] r.chunks).1 = r.bytes.take n := by
      rw [readAtLeast, if_neg (Nat.not_lt.mpr hleast)] at hread
      exact congrArg Prod.fst hread
    rwa [hdata, List.length_take_of_le hn, List.length_nil, Nat.zero_add, Nat.sub_zero] at hfill
  rw [← hcount]
  exact ⟨r', hread, hrest⟩

theorem le_reached {least : Nat} {cs : List Bytes} (h : least ≤ cs.flatten.length) : least ≤ reached least cs := by
  induction cs generalizing least with
  | nil => exact h
  | cons c cs ih =>
    rw [List.flatten_cons, List.length_append] at h
    rw [reached]
    split_ifs with hzero
    · exact hzero.le
    · have hrest : least - c.length ≤ reached (least - c.length) cs := ih (by omega)
      omega

theorem reached_le (least : Nat) (cs : List Bytes) : reached least cs ≤ cs.flatten.length := by
  induction cs generalizing least with
  | nil => exact le_rfl
  | cons c cs ih =>
    rw [reached, List.flatten_cons, List.length_append]
    split_ifs
    · exact Nat.zero_le _
    · exact Nat.add_le_add_left (ih (least - c.length)) _

/-- A first read that brings the `head` of the stream, and `more` of the bytes behind it. -/
theorem readAtLeast_head {size : Nat} {r : Reader} {head tail : Bytes} (hsize : head.length ≤ size)
    (hbytes : r.bytes = head ++ tail) :
    ∃ more r', readAtLeast size head.length r = (head ++ more, none, r') ∧ tail = more ++ r'.bytes ∧
      head.length + more.length = min size (reached head.length r.chunks) := by
  have hlen : head.length ≤ r.bytes.length := by
    rw [hbytes, List.length_append]
    exact Nat.le_add_right _ _
  obtain ⟨r', hread, hrest⟩ := readAtLeast_reached hsize hlen
  have hlow : head.length ≤ min size (reached head.length r.chunks) := le_min hsize (le_reached hlen)
  have hhigh : min size (reached head.length r.chunks) ≤ head.length + tail.length := by
    rw [← List.length_append, ← hbytes]
    exact (min_le_right _ _).trans (reached_le _ _)
  obtain ⟨m, hm⟩ := Nat.exists_eq_add_of_le hlow
  rw [hm, hbytes] at hread hrest
  rw [List.take_length_add_append] at hread
  rw [List.drop_length_add_append] at hrest
  refine ⟨tail.take m, r', hread, ?_, ?_⟩
  · rw [hrest, List.take_append_drop]
  · rw [hm, List.length_take_of_le (by omega)]

/-- **`io.ReadAtLeast` on a stream that ends early** fails. -/
theorem readAtLeast_err {size min : Nat} {r : Reader} (hmin : min ≤ size) (hlen : r.bytes.length < min) :
    ∃ e r', readAtLeast size min r = (r.bytes, some e, r') ∧ r'.bytes = [] := by
  refine ⟨if r.bytes ≠ [] ∧ r.last = .eof then .unexpectedEof else r.last, { r with chunks := [] }, ?_, rfl⟩
  rw [readAtLeast, if_neg (by omega), fill_err size min r.last hmin r.chunks [] (by simpa [Reader.bytes] using hlen)]
  rfl

/-- **`io.ReadFull` on a long enough stream** takes exactly the first `size` bytes, however they are cut
into chunks. -/
theorem readFull_ok {size : Nat} {r : Reader} (hlen : size ≤ r.bytes.length) :
    ∃ r', readFull size r = (r.bytes.take size, none, r') ∧ r'.bytes = r.bytes.drop size ∧
      r'.last = r.last := by
  obtain ⟨n, r', hread, hrest, hlast, hlow, hhigh, _⟩ := readAtLeast_ok le_rfl hlen
  obtain rfl : n = size := le_antisymm hhigh hlow
  exact ⟨r', hread, hrest, hlast⟩

theorem readFull_append (size : Nat) {r : Reader} {data rest : Bytes} (hbytes : r.bytes = data ++ rest)
    (hsize : size = data.length) : ∃ r', readFull size r = (data, none, r') ∧ r'.bytes = rest := by
  subst hsize
  have hlen : data.length ≤ r.bytes.length := by simp [hbytes]
  obtain ⟨r', hread, hrest, _⟩ := readFull_ok hlen
  rw [hbytes, List.take_left] at hread
  rw [hbytes, List.drop_left] at hrest
  exact ⟨r', hread, hrest⟩

theorem readFull_err (size : Nat) {r : Reader} (hlen : r.bytes.length < size) :
    ∃ e r', readFull size r = (r.bytes, some e, r') ∧ r'.bytes = [] :=
  readAtLeast_err le_rfl hlen

end Go
