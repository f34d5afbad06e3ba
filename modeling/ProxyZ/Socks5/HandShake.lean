import ProxyZ.Go.Stream
import ProxyZ.Socks5.Request

/-!
# The SOCKS handshake

An application opens its connection with a greeting: a version, the number of its methods and the methods.
`Socks5HandShake` reads until it has two bytes, learns from them how long the greeting is, and reads the rest.
Whatever the transport cuts where, a greeting with nothing behind it is taken off the connection and answered,
and a greeting that is cut off or of another version is not (`socks5HandShake_greets`).

A first read that brings more than the greeting is an error, so what an application sends early makes the
chunks matter.
-/

namespace ProxyZ.Socks5

open Go

def idNmethod : Nat := 1

def errVer : Err := .text (str "socks version not supported")
def errAuthExtraData : Err := .text (str "socks authentication get extra data")

/-- The connection of an application: what it sends, and what has been written to it. A `Write` takes all its
bytes, or fails behind some of them. -/
structure Conn where
  reader : Reader
  written : Bytes := []
  broken : Option (Nat × Err) := none

def Conn.write (data : Bytes) (conn : Conn) : Option Err × Conn :=
  match conn.broken with
  | none => (none, { conn with written := conn.written ++ data })
  | some (n, err) => (some err, { conn with written := conn.written ++ data.take n })

/-- `Socks5HandShake`. -/
def socks5HandShake (conn : Conn) : Option (Option Err × Conn) :=
  match readAtLeast 258 (idNmethod + 1) conn.reader with
  | (_, some err, reader) => some (some err, { conn with reader })
  | (data, none, reader) => do
      let buf := overwrite (make 258) 0 data
      let ver ← buf[idVer]?
      if ver ≠ socksVer5 ∧ ver ≠ socksVer4 then return (some errVer, { conn with reader })
      else do
        let nmethod ← buf[idNmethod]?
        let msgLen := nmethod.toNat + 2
        if data.length = msgLen then return Conn.write [socksVer5, 0] { conn with reader }
        else if data.length < msgLen then do
          let _ ← slice? buf data.length msgLen
          match readFull (msgLen - data.length) reader with
          | (_, some err, reader) => return (some err, { conn with reader })
          | (_, none, reader) => return Conn.write [socksVer5, 0] { conn with reader }
        else return (some errAuthExtraData, { conn with reader })

/-! ### The handshake on the bytes of the connection -/

/-- The versions of a greeting. -/
def VersionOk (ver : UInt8) : Prop := ver = socksVer5 ∨ ver = socksVer4

/-- The test of the source. -/
theorem versionOk_iff {ver : UInt8} : VersionOk ver ↔ ¬(ver ≠ socksVer5 ∧ ver ≠ socksVer4) := by
  rw [not_and_or, not_not, not_not]
  rfl

section HandShake

variable {conn : Conn} {ver n : UInt8} {tail : Bytes}

theorem handShake_short (h : conn.reader.bytes.length < 2) :
    ∃ err reader, socks5HandShake conn = some (some err, { conn with reader }) := by
  obtain ⟨err, reader, hread, -⟩ := readAtLeast_err (show idNmethod + 1 ≤ 258 by decide) h
  refine ⟨err, reader, ?_⟩
  rw [socks5HandShake, hread]

/-- The first read, which brings the version and the number of methods. -/
theorem handShake_read (hbytes : conn.reader.bytes = [ver, n] ++ tail) :
    ∃ more reader, readAtLeast 258 (idNmethod + 1) conn.reader = ([ver, n] ++ more, none, reader) ∧
      tail = more ++ reader.bytes ∧ 2 + more.length = min 258 (reached 2 conn.reader.chunks) :=
  readAtLeast_head (show [ver, n].length ≤ 258 by simp) hbytes

theorem handShake_badVersion (hbytes : conn.reader.bytes = [ver, n] ++ tail) (hver : ¬VersionOk ver) :
    ∃ reader, socks5HandShake conn = some (some errVer, { conn with reader }) := by
  obtain ⟨more, reader, hread, -, -⟩ := handShake_read hbytes
  have hget : (filled 258 ([ver, n] ++ more))[idVer]? = some ver := rfl
  refine ⟨reader, ?_⟩
  simp only [socks5HandShake, hread, overwrite_make, hget, Option.bind_eq_bind, Option.bind_some]
  rw [if_pos (not_or.mp hver)]
  rfl

/-- What the handshake does once it knows the number of methods. -/
theorem handShake_read_methods (hbytes : conn.reader.bytes = [ver, n] ++ tail) (hver : VersionOk ver) :
    (n.toNat + 2 < reached 2 conn.reader.chunks ∧
      ∃ reader, socks5HandShake conn = some (some errAuthExtraData, { conn with reader })) ∨
    (reached 2 conn.reader.chunks ≤ n.toNat + 2 ∧ tail.length < n.toNat ∧
      ∃ err reader, socks5HandShake conn = some (some err, { conn with reader })) ∨
    (reached 2 conn.reader.chunks ≤ n.toNat + 2 ∧ n.toNat ≤ tail.length ∧
      ∃ reader, socks5HandShake conn = some (Conn.write [socksVer5, 0] { conn with reader }) ∧
        reader.bytes = tail.drop n.toNat) := by
  obtain ⟨more, reader, hread, htail, hmore⟩ := handShake_read hbytes
  have hn := n.toNat_lt
  have hgetVer : (filled 258 ([ver, n] ++ more))[idVer]? = some ver := rfl
  have hgetN : (filled 258 ([ver, n] ++ more))[idNmethod]? = some n := rfl
  have hlen : ([ver, n] ++ more).length = more.length + 2 := by simp
  simp only [socks5HandShake, hread, overwrite_make, hgetVer, hgetN, hlen, Option.bind_eq_bind, Option.bind_some]
  rw [if_neg (versionOk_iff.mp hver)]
  rcases Nat.lt_trichotomy (more.length + 2) (n.toNat + 2) with hlt | heq | hgt
  · right
    have hslice : slice? (filled 258 ([ver, n] ++ more)) (more.length + 2) (n.toNat + 2) ≠ none := by
      rw [slice?_eq_some hlt.le (by rw [length_filled (by omega)]; omega)]
      exact Option.some_ne_none _
    obtain ⟨_, hslice⟩ := Option.ne_none_iff_exists'.mp hslice
    rw [if_neg hlt.ne, if_pos hlt, hslice, Option.bind_some]
    rcases Nat.lt_or_ge reader.bytes.length (n.toNat + 2 - (more.length + 2)) with hshort | hlong
    · left
      obtain ⟨err, reader', hfull, -⟩ := readFull_err _ hshort
      refine ⟨by omega, ?_, err, reader', ?_⟩
      · rw [htail, List.length_append]
        omega
      · rw [hfull]
        rfl
    · right
      obtain ⟨reader', hfull, hrest, -⟩ := readFull_ok hlong
      refine ⟨by omega, ?_, reader', ?_, ?_⟩
      · rw [htail, List.length_append]
        omega
      · rw [hfull]
        rfl
      · have hdrop : more.drop n.toNat = [] := List.drop_eq_nil_of_le (by omega)
        rw [hrest, htail, List.drop_append, hdrop, List.nil_append]
        congr 1
        omega
  · right
    right
    rw [if_pos heq]
    refine ⟨by omega, ?_, reader, rfl, ?_⟩
    · rw [htail, List.length_append]
      omega
    · rw [htail, List.drop_left' (by omega)]
  · left
    rw [if_neg hgt.ne', if_neg (Nat.not_lt.mpr hgt.le)]
    exact ⟨by omega, reader, rfl⟩

end HandShake

/-! ### Greetings -/

/-- A greeting: a version and at most 255 methods. -/
structure Greeting where
  ver : UInt8
  methods : Bytes
  version : VersionOk ver
  len : methods.length ≤ 255

def Greeting.bytes (g : Greeting) : Bytes := [g.ver, UInt8.ofNat g.methods.length] ++ g.methods

theorem Greeting.count (g : Greeting) : (UInt8.ofNat g.methods.length).toNat = g.methods.length := by
  rw [UInt8.toNat_ofNat', Nat.mod_eq_of_lt (Nat.lt_succ_of_le g.len)]

/-- The handshake returns an error and writes nothing. -/
def Refused (conn : Conn) : Prop :=
  ∃ err conn', socks5HandShake conn = some (some err, conn') ∧ conn'.written = conn.written

/-- The handshake returns nil, or the error of its `Write`. It has taken all bytes of the connection, and has
written `05 00`. -/
def Greeted (conn : Conn) : Prop :=
  ∃ conn', socks5HandShake conn = some (conn.broken.map Prod.snd, conn') ∧ conn'.reader.bytes = [] ∧
    (conn.broken = none → conn'.written = conn.written ++ [5, 0])

/-- A part of a greeting. -/
theorem refused_of_prefix {g : Greeting} {conn : Conn} (hpre : conn.reader.bytes <+: g.bytes)
    (hne : conn.reader.bytes ≠ g.bytes) : Refused conn := by
  have hlen : conn.reader.bytes.length < g.bytes.length :=
    lt_of_le_of_ne hpre.length_le fun h => hne (hpre.eq_of_length h)
  rcases Nat.lt_or_ge conn.reader.bytes.length 2 with hshort | hlong
  · obtain ⟨err, reader, hres⟩ := handShake_short hshort
    exact ⟨err, _, hres, rfl⟩
  · obtain ⟨tail, hbytes⟩ : ∃ tail, conn.reader.bytes = [g.ver, UInt8.ofNat g.methods.length] ++ tail := by
      obtain ⟨rest, hrest⟩ := hpre
      match hb : conn.reader.bytes with
      | a :: b :: tail =>
        rw [hb] at hrest
        simp only [Greeting.bytes, List.cons_append, List.cons.injEq] at hrest
        exact ⟨tail, by rw [hrest.1, hrest.2.1]; rfl⟩
      | [] | [_] =>
        rw [hb] at hlong
        simp at hlong
    have htail : tail.length < g.methods.length := by
      rw [hbytes] at hlen
      simpa [Greeting.bytes] using hlen
    obtain ⟨-, reader, hres⟩ | ⟨-, -, err, reader, hres⟩ | ⟨-, hle, -⟩ := handShake_read_methods hbytes g.version
    · exact ⟨_, _, hres, rfl⟩
    · exact ⟨_, _, hres, rfl⟩
    · rw [g.count] at hle
      omega

theorem refused_of_version {conn : Conn} {ver : UInt8} {rest : Bytes} (hbytes : conn.reader.bytes = ver :: rest)
    (hver : ¬VersionOk ver) : Refused conn := by
  cases rest with
  | nil =>
    have hshort : conn.reader.bytes.length < 2 := by
      rw [hbytes]
      exact Nat.one_lt_two
    obtain ⟨err, reader, hres⟩ := handShake_short hshort
    exact ⟨err, _, hres, rfl⟩
  | cons n tail =>
    have hhead : conn.reader.bytes = [ver, n] ++ tail := hbytes
    obtain ⟨reader, hres⟩ := handShake_badVersion hhead hver
    exact ⟨_, _, hres, rfl⟩

theorem greeted_of_bytes {g : Greeting} {conn : Conn} (hbytes : conn.reader.bytes = g.bytes) : Greeted conn := by
  have hreach : reached 2 conn.reader.chunks ≤ g.methods.length + 2 := by
    apply (reached_le 2 conn.reader.chunks).trans
    rw [show conn.reader.chunks.flatten = conn.reader.bytes from rfl, hbytes]
    simp [Greeting.bytes]
  obtain ⟨hgt, -⟩ | ⟨-, hlt, -⟩ | ⟨-, -, reader, hres, hrest⟩ := handShake_read_methods hbytes g.version
  · rw [g.count] at hgt
    omega
  · rw [g.count] at hlt
    omega
  · rw [g.count, List.drop_length] at hrest
    unfold Greeted
    rw [hres, Conn.write]
    cases conn.broken with
    | none => exact ⟨_, rfl, hrest, fun _ => rfl⟩
    | some failure => exact ⟨_, rfl, hrest, nofun⟩

/-- **The handshake accepts exactly a greeting**: with nothing behind it it is answered, a part of it and
another version are refused. -/
theorem socks5HandShake_greets (conn : Conn) :
    (∀ g : Greeting, conn.reader.bytes = g.bytes → Greeted conn) ∧
    (∀ g : Greeting, conn.reader.bytes <+: g.bytes → conn.reader.bytes ≠ g.bytes → Refused conn) ∧
    (∀ ver rest, conn.reader.bytes = ver :: rest → ¬VersionOk ver → Refused conn) :=
  ⟨fun _ => greeted_of_bytes, fun _ => refused_of_prefix, fun _ _ => refused_of_version⟩

/-- One method, in two reads. -/
def oneMethod : Greeting := ⟨5, [0], Or.inl rfl, by decide⟩

theorem socks5HandShake_greets_oneMethod :
    Greeted ⟨⟨[[5], [1, 0]], .eof⟩, [], none⟩ ∧ Refused ⟨⟨[[5], [1]], .eof⟩, [], none⟩ ∧
      Refused ⟨⟨[[6], [1, 0]], .eof⟩, [], none⟩ :=
  ⟨(socks5HandShake_greets _).1 oneMethod rfl, (socks5HandShake_greets _).2.1 oneMethod ⟨[0], rfl⟩ (by decide),
    (socks5HandShake_greets _).2.2 6 [1, 0] rfl (by unfold VersionOk; decide)⟩

end ProxyZ.Socks5
