import ProxyZ.Socks5.Frame
import ProxyZ.Socks5.HandShake

/-!
# Requests in pieces

`GetLocalRequest` reads until it has five bytes, takes the length and the host of the request from the buffer,
and only then reads the rest. The raw request does not depend on how the transport cuts it, but the host does:
where the name has not arrived with the first read, the buffer has zeros in its place (`sameResult_iff`).

The end of the host is computed in a byte: for a name of 251 bytes or more it lies before the start, and the
slice panics. These are all the panics of the front end (`serveSocks5_isSome_iff`).
-/

namespace ProxyZ.Socks5

open Go

/-- What `GetLocalRequest` takes for a name of `n` bytes of which `more` has arrived. -/
def hostPart (n : Nat) (more : Bytes) : Str := (filled n more).take n

theorem take_append_make {n a b : Nat} {more : Bytes} (ha : n - more.length ≤ a) (hb : n - more.length ≤ b) :
    (more ++ make a).take n = (more ++ make b).take n := by
  rw [List.take_append, List.take_append, make, make, List.take_replicate, List.take_replicate, Nat.min_eq_left ha,
    Nat.min_eq_left hb]

/-- The two tests of the source. -/
theorem headerOk_iff {ver cmd : UInt8} :
    HeaderOk ver cmd ↔ ¬(ver ≠ socksVer5 ∧ ver ≠ socksVer4) ∧ ¬(cmd ≠ socksCmdConnect ∧ cmd ≠ socksCmdUdp) := by
  rw [← versionOk_iff, not_and_or, not_not, not_not]
  rfl

section Local

variable {c : Reader} {ver cmd rsv typ len : UInt8} {tail more : Bytes}

theorem getLocalRequest_short (h : c.bytes.length < 5) :
    ∃ err reader, getLocalRequest c = some ({ err := some err }, reader) := by
  obtain ⟨err, reader, hread, -⟩ := readAtLeast_err (show idDmLen + 1 ≤ 263 by decide) h
  exact ⟨err, reader, by rw [getLocalRequest, hread]⟩

/-- The first read brings the five bytes that decide, and `more` of the bytes behind them. -/
theorem getLocalRequest_head (hbytes : c.bytes = [ver, cmd, rsv, typ, len] ++ tail) :
    ∃ more reader, tail = more ++ reader.bytes ∧ 5 + more.length = min 263 (reached 5 c.chunks) ∧
      (HeaderOk ver cmd → getLocalRequest c = (do
        match ← localReqLen (filled 263 ([ver, cmd, rsv, typ, len] ++ more)) with
        | none => return ({ isUdp := cmd == socksCmdUdp, err := some errAddrType }, reader)
        | some (reqLen, host) =>
            localComplete (filled 263 ([ver, cmd, rsv, typ, len] ++ more)) (5 + more.length) reqLen host
              (cmd == socksCmdUdp) reader)) ∧
      (¬HeaderOk ver cmd → ∃ q, getLocalRequest c = some (q, reader)) := by
  obtain ⟨more, reader, hread, htail, hmore⟩ :=
    readAtLeast_head (show [ver, cmd, rsv, typ, len].length ≤ 263 by simp) hbytes
  have hver : (filled 263 ([ver, cmd, rsv, typ, len] ++ more))[idVer]? = some ver := rfl
  have hcmd : (filled 263 ([ver, cmd, rsv, typ, len] ++ more))[idCmd]? = some cmd := rfl
  have hlen : ([ver, cmd, rsv, typ, len] ++ more).length = 5 + more.length := List.length_append
  have hread : readAtLeast 263 (idDmLen + 1) c = ([ver, cmd, rsv, typ, len] ++ more, none, reader) := hread
  refine ⟨more, reader, htail, hmore, ?_, ?_⟩
  · intro hok
    obtain ⟨hgoVer, hgoCmd⟩ := headerOk_iff.mp hok
    simp only [getLocalRequest, hread, overwrite_make, hver, hcmd, hlen, Option.bind_eq_bind, Option.bind_some]
    rw [if_neg hgoVer]
    exact if_neg hgoCmd
  · intro hbad
    simp only [getLocalRequest, hread, overwrite_make, hver, hcmd, hlen, Option.bind_eq_bind, Option.bind_some]
    split_ifs with hbadVer hbadCmd
    · exact ⟨_, rfl⟩
    · exact ⟨_, rfl⟩
    · exact absurd (headerOk_iff.mpr ⟨hbadVer, hbadCmd⟩) hbad

/-! ### The length and the host -/

theorem localHost_eq (hshort : len.toNat ≤ 250) :
    localHost (filled 263 ([ver, cmd, rsv, typ, len] ++ more)) = some (len.toNat, hostPart len.toNat more) := by
  have hget : (filled 263 ([ver, cmd, rsv, typ, len] ++ more))[idDmLen]? = some len := rfl
  have hend : (UInt8.ofNat idDm0 + len).toNat = 5 + len.toNat := by
    rw [UInt8.toNat_add]
    simp only [idDm0, UInt8.toNat_ofNat']
    omega
  have hlong : ([ver, cmd, rsv, typ, len] ++ more).length = 5 + more.length := List.length_append
  have hbuf : 5 + len.toNat ≤ (filled 263 ([ver, cmd, rsv, typ, len] ++ more)).length := by
    rw [filled, make, List.length_append, List.length_replicate]
    omega
  have hdrop : (filled 263 ([ver, cmd, rsv, typ, len] ++ more)).drop 5 = more ++ make (263 - (5 + more.length)) := by
    rw [filled, hlong]
    rfl
  rw [localHost, hget, Option.bind_eq_bind, Option.bind_some, hend, show idDm0 = 5 from rfl,
    slice?_eq_some (Nat.le_add_right _ _) hbuf, hdrop, Nat.add_sub_cancel_left, hostPart, filled,
    take_append_make (by omega) le_rfl]
  rfl

theorem localHost_panics (hlong : 251 ≤ len.toNat) :
    localHost (filled 263 ([ver, cmd, rsv, typ, len] ++ more)) = none := by
  have hget : (filled 263 ([ver, cmd, rsv, typ, len] ++ more))[idDmLen]? = some len := rfl
  have hend : (UInt8.ofNat idDm0 + len).toNat < idDm0 := by
    have := len.toNat_lt
    rw [UInt8.toNat_add]
    simp only [idDm0, UInt8.toNat_ofNat']
    omega
  rw [localHost, hget, Option.bind_eq_bind, Option.bind_some, slice?, if_neg fun h => absurd h.1 (Nat.not_le.mpr hend)]
  rfl

/-- **The length and the host by the address type.** The length of a name decides whether there is a panic. -/
theorem localReqLen_eq (ver cmd rsv typ len : UInt8) (more : Bytes) :
    localReqLen (filled 263 ([ver, cmd, rsv, typ, len] ++ more)) =
      if typ = typeIPv4 then some (some (lenIPv4, []))
      else if typ = typeIPv6 then some (some (lenIPv6, []))
      else if typ = typeDm ∨ typ = typeChange then
        if len.toNat ≤ 250 then
          some (some (len.toNat + (if typ = typeDm then lenDmBase else 5), hostPart len.toNat more))
        else none
      else some none := by
  have hget : (filled 263 ([ver, cmd, rsv, typ, len] ++ more))[idType]? = some typ := rfl
  rw [localReqLen, hget, Option.bind_eq_bind, Option.bind_some]
  by_cases h4 : typ = typeIPv4
  · rw [if_pos h4, if_pos h4]
    rfl
  by_cases h6 : typ = typeIPv6
  · rw [if_neg h4, if_neg h4, if_pos h6, if_pos h6]
    rfl
  rw [if_neg h4, if_neg h4, if_neg h6, if_neg h6]
  by_cases hdm : typ = typeDm
  · rw [if_pos hdm, if_pos (Or.inl hdm), if_pos hdm]
    split_ifs with hlen
    · rw [localHost_eq hlen]
      rfl
    · rw [localHost_panics (Nat.lt_of_not_le hlen)]
      rfl
  · rw [if_neg hdm, if_neg hdm]
    by_cases hch : typ = typeChange
    · rw [if_pos hch, if_pos (Or.inr hch)]
      split_ifs with hlen
      · rw [localHost_eq hlen]
        rfl
      · rw [localHost_panics (Nat.lt_of_not_le hlen)]
        rfl
    · rw [if_neg hch, if_neg (not_or.mpr ⟨hdm, hch⟩)]
      rfl

/-! ### Completing the request -/

section Complete

variable {data host : Bytes} {reqLen : Nat} {isUdp : Bool} {conn : Reader}

theorem localComplete_returns (hdata : data.length ≤ 263) (hreq : reqLen ≤ 263) :
    ∃ q conn', localComplete (filled 263 data) data.length reqLen host isUdp conn = some (q, conn') := by
  have hsize : (filled 263 data).length = 263 := length_filled hdata
  unfold localComplete
  split_ifs with heq hlt
  · rw [slice?_eq_some (Nat.zero_le _) (hsize.symm ▸ hreq)]
    exact ⟨_, _, rfl⟩
  · rw [slice?_eq_some hlt.le (hsize.symm ▸ hreq), Option.bind_eq_bind, Option.bind_some]
    rcases Nat.lt_or_ge conn.bytes.length (reqLen - data.length) with hshort | hlong
    · obtain ⟨err, conn', hread, -⟩ := readFull_err _ hshort
      rw [hread]
      exact ⟨_, _, rfl⟩
    · obtain ⟨conn', hread, -, -⟩ := readFull_ok hlong
      have hfull : reqLen ≤ (filled 263 (data ++ conn.bytes.take (reqLen - data.length))).length := by
        rw [length_filled]
        · exact hreq
        · rw [List.length_append, List.length_take]
          omega
      rw [hread]
      dsimp only
      rw [overwrite_filled rfl, slice?_eq_some (Nat.zero_le _) hfull]
      exact ⟨_, _, rfl⟩
  · exact ⟨_, _, rfl⟩

/-- A request with nothing behind it is completed. -/
theorem localComplete_whole (hreq : reqLen = (data ++ conn.bytes).length) (hle : reqLen ≤ 263) :
    ∃ conn', localComplete (filled 263 data) data.length reqLen host isUdp conn =
      some ({ rawaddr := data ++ conn.bytes, host, isUdp }, conn') := by
  rw [List.length_append] at hreq
  rcases Nat.eq_zero_or_pos conn.bytes.length with hnone | hsome
  · have heq : data.length = reqLen := by omega
    refine ⟨conn, ?_⟩
    rw [localComplete, if_pos heq, slice?_filled (Nat.zero_le _) heq.ge, List.eq_nil_of_length_eq_zero hnone,
      List.append_nil, ← heq]
    simp
  · have hlt : data.length < reqLen := by omega
    have hslice : slice? (filled 263 data) data.length reqLen =
        some (((filled 263 data).drop data.length).take (reqLen - data.length)) :=
      slice?_eq_some hlt.le (by rw [length_filled (hlt.le.trans hle)]; exact hle)
    obtain ⟨conn', hread, -, -⟩ := readFull_ok (show reqLen - data.length ≤ conn.bytes.length by omega)
    have htake : conn.bytes.take (reqLen - data.length) = conn.bytes := List.take_of_length_le (by omega)
    refine ⟨conn', ?_⟩
    rw [localComplete, if_neg hlt.ne, if_pos hlt, hslice, Option.bind_eq_bind, Option.bind_some, hread, htake]
    dsimp only
    rw [overwrite_filled rfl, slice?_filled (Nat.zero_le _) (by rw [List.length_append]; exact hreq.le),
      List.drop_zero, List.take_of_length_le (by rw [List.length_append]; omega)]
    rfl

end Complete

end Local

/-! ### Panics -/

section Panics

variable {c : Reader}

/-- A request with a name of 251 bytes or more, as far as the byte with its length. -/
def LongName (b : Bytes) : Prop :=
  ∃ ver cmd rsv typ len tail, b = [ver, cmd, rsv, typ, len] ++ tail ∧ HeaderOk ver cmd ∧
    (typ = typeDm ∨ typ = typeChange) ∧ 251 ≤ len.toNat

theorem getLocalRequest_eq_none_iff : getLocalRequest c = none ↔ LongName c.bytes := by
  rcases Nat.lt_or_ge c.bytes.length 5 with hshort | hlong
  · obtain ⟨err, reader, hres⟩ := getLocalRequest_short hshort
    rw [hres]
    apply iff_of_false (Option.some_ne_none _)
    rintro ⟨_, _, _, _, _, _, hbytes, -⟩
    rw [hbytes] at hshort
    simp only [List.cons_append, List.length_cons] at hshort
    omega
  obtain ⟨ver, cmd, rsv, typ, len, tail, hbytes⟩ : ∃ ver cmd rsv typ len tail,
      c.bytes = [ver, cmd, rsv, typ, len] ++ tail := by
    match hb : c.bytes with
    | ver :: cmd :: rsv :: typ :: len :: tail => exact ⟨ver, cmd, rsv, typ, len, tail, rfl⟩
    | [] | [_] | [_, _] | [_, _, _] | [_, _, _, _] =>
      rw [hb] at hlong
      simp at hlong
  have hname : LongName c.bytes ↔ HeaderOk ver cmd ∧ (typ = typeDm ∨ typ = typeChange) ∧ 251 ≤ len.toNat := by
    constructor
    · rintro ⟨_, _, _, _, _, _, hb, h⟩
      rw [hbytes] at hb
      cases hb
      exact h
    · exact fun h => ⟨ver, cmd, rsv, typ, len, tail, hbytes, h⟩
  obtain ⟨more, reader, -, hmore, hok, hbad⟩ := getLocalRequest_head hbytes
  have hdata : ([ver, cmd, rsv, typ, len] ++ more).length = 5 + more.length := List.length_append
  have hsize : ([ver, cmd, rsv, typ, len] ++ more).length ≤ 263 := by
    rw [hdata, hmore]
    exact min_le_left _ _
  have hreturns : ∀ reqLen host, reqLen ≤ 263 → localComplete (filled 263 ([ver, cmd, rsv, typ, len] ++ more))
      (5 + more.length) reqLen host (cmd == socksCmdUdp) reader ≠ none := by
    intro reqLen host hle
    obtain ⟨q, conn', hres⟩ := localComplete_returns hsize hle
    rw [← hdata, hres]
    exact Option.some_ne_none _
  rw [hname]
  by_cases hheader : HeaderOk ver cmd
  swap
  · obtain ⟨q, hres⟩ := hbad hheader
    rw [hres]
    exact iff_of_false (Option.some_ne_none _) fun h => hheader h.1
  rw [hok hheader, localReqLen_eq]
  by_cases h4 : typ = typeIPv4
  · rw [if_pos h4]
    apply iff_of_false (hreturns _ _ (by decide))
    rintro ⟨-, hkind, -⟩
    rw [h4] at hkind
    exact absurd hkind (by decide)
  by_cases h6 : typ = typeIPv6
  · rw [if_neg h4, if_pos h6]
    apply iff_of_false (hreturns _ _ (by decide))
    rintro ⟨-, hkind, -⟩
    rw [h6] at hkind
    exact absurd hkind (by decide)
  rw [if_neg h4, if_neg h6]
  by_cases hkind : typ = typeDm ∨ typ = typeChange
  · rw [if_pos hkind]
    by_cases hlen : len.toNat ≤ 250
    · rw [if_pos hlen]
      apply iff_of_false
      · apply hreturns
        unfold lenDmBase
        split_ifs <;> omega
      · exact fun h => absurd h.2.2 (by omega)
    · rw [if_neg hlen]
      exact iff_of_true rfl ⟨hheader, hkind, Nat.lt_of_not_le hlen⟩
  · rw [if_neg hkind]
    exact iff_of_false (Option.some_ne_none _) fun h => hkind h.2.1

/-- What `Socks5Listen` does with a connection up to the request. -/
def serveSocks5 (conn : Conn) : Option (Except Err LocalRequest × Conn) := do
  match ← socks5HandShake conn with
  | (some err, conn) => return (.error err, conn)
  | (none, conn) =>
      let (q, reader) ← getLocalRequest conn.reader
      return (q.err.elim (.ok q) .error, { conn with reader })

/-- A greeting that is accepted, and behind it a request with a long name. -/
def LongNameBehindGreeting (conn : Conn) : Prop :=
  conn.broken = none ∧ ∃ ver n tail, conn.reader.bytes = [ver, n] ++ tail ∧ VersionOk ver ∧
    reached 2 conn.reader.chunks ≤ n.toNat + 2 ∧ n.toNat ≤ tail.length ∧ LongName (tail.drop n.toNat)

theorem serveSocks5_of_err {conn conn' : Conn} {err : Err} (h : socks5HandShake conn = some (some err, conn')) :
    serveSocks5 conn = some (.error err, conn') := by
  rw [serveSocks5, h]
  rfl

/-- **The front end panics exactly on a long name behind a greeting.** -/
theorem serveSocks5_isSome_iff (conn : Conn) : (serveSocks5 conn).isSome ↔ ¬LongNameBehindGreeting conn := by
  have herr : ∀ err conn', socks5HandShake conn = some (some err, conn') → (serveSocks5 conn).isSome := by
    intro err conn' hres
    rw [serveSocks5_of_err hres]
    rfl
  rcases Nat.lt_or_ge conn.reader.bytes.length 2 with hshort | hlong
  · obtain ⟨err, reader, hres⟩ := handShake_short hshort
    apply iff_of_true (herr _ _ hres)
    rintro ⟨-, ver, n, tail, hbytes, -⟩
    rw [hbytes] at hshort
    simp only [List.cons_append, List.length_cons] at hshort
    omega
  obtain ⟨ver, n, tail, hbytes⟩ : ∃ ver n tail, conn.reader.bytes = [ver, n] ++ tail := by
    match hb : conn.reader.bytes with
    | ver :: n :: tail => exact ⟨ver, n, tail, rfl⟩
    | [] | [_] =>
      rw [hb] at hlong
      simp at hlong
  have hname : LongNameBehindGreeting conn ↔ conn.broken = none ∧ VersionOk ver ∧
      reached 2 conn.reader.chunks ≤ n.toNat + 2 ∧ n.toNat ≤ tail.length ∧ LongName (tail.drop n.toNat) := by
    constructor
    · rintro ⟨hopen, _, _, _, hb, h⟩
      rw [hbytes] at hb
      cases hb
      exact ⟨hopen, h⟩
    · exact fun h => ⟨h.1, ver, n, tail, hbytes, h.2⟩
  rw [hname]
  by_cases hver : VersionOk ver
  swap
  · obtain ⟨reader, hres⟩ := handShake_badVersion hbytes hver
    exact iff_of_true (herr _ _ hres) fun h => hver h.2.1
  obtain ⟨hgt, reader, hres⟩ | ⟨-, hlt, err, reader, hres⟩ | ⟨hreach, hlen, reader, hres, hrest⟩ :=
    handShake_read_methods hbytes hver
  · exact iff_of_true (herr _ _ hres) fun h => absurd h.2.2.1 (Nat.not_le.mpr hgt)
  · exact iff_of_true (herr _ _ hres) fun h => absurd h.2.2.2.1 (Nat.not_le.mpr hlt)
  · rw [Conn.write] at hres
    rcases hbroken : conn.broken with _ | failure
    · rw [hbroken] at hres
      have hserve : serveSocks5 conn = none ↔ getLocalRequest reader = none := by
        rw [serveSocks5, hres, Option.bind_eq_bind, Option.bind_some]
        dsimp only
        cases getLocalRequest reader with
        | none => exact iff_of_true rfl rfl
        | some found => exact iff_of_false (Option.some_ne_none _) (Option.some_ne_none _)
      rw [Option.isSome_iff_ne_none, not_iff_not, hserve, getLocalRequest_eq_none_iff, hrest]
      exact ⟨fun h => ⟨rfl, hver, hreach, hlen, h⟩, fun h => h.2.2.2.2⟩
    · rw [hbroken] at hres
      exact iff_of_true (herr _ _ hres) fun h => absurd h.1 (Option.some_ne_none _)

/-- A request for a name of 251 bytes, of which its length has come. -/
theorem not_serveSocks5_isSome : ¬(serveSocks5 ⟨⟨[[5, 1, 0], [5, 1, 0, 3, 251]], .eof⟩, [], none⟩).isSome := by
  decide

end Panics

end ProxyZ.Socks5
