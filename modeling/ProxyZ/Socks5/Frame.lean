import ProxyZ.Socks5.Request

/-!
# What the server's parser accepts

`Reads b host n`: at the front of `b` stands a request of `n` bytes that the server takes for `host`.
There is one case for each address type, with the server's own offsets: an IPv6 request is 26 bytes long
to the server, four more than the 22 of `lenIPv6`, because `GetServerRequest` adds `idIP0` to a length
that already counts the bytes before the address.

`getServerRequest` is this relation on the bytes of the stream: where it holds the request is parsed
(`getServerRequest_of_reads`), and every other stream is rejected with an error (`decided`). The chunks
play no part.
-/

namespace ProxyZ.Socks5

open Go

/-- The versions and commands the server goes on with. -/
def HeaderOk (ver cmd : UInt8) : Prop :=
  (ver = socksVer5 ∨ ver = socksVer4) ∧ (cmd = socksCmdConnect ∨ cmd = socksCmdUdp)

/-- `Reads b host n`: the server reads the first `n` bytes of `b` as a request for `host`. -/
inductive Reads : Bytes → Str → Nat → Prop
  | ipv4 {ver cmd rsv typ : UInt8} {addr : Bytes} {hi lo : UInt8} {rest : Bytes} :
      HeaderOk ver cmd → typ &&& addrMask = typeIPv4 → addr.length = 4 →
      Reads ([ver, cmd, rsv, typ] ++ (addr ++ ([hi, lo] ++ rest)))
        (joinHostPort (ipString addr) (itoa (uint16 hi lo))) 10
  | ipv6 {ver cmd rsv typ : UInt8} {addr gap : Bytes} {hi lo : UInt8} {rest : Bytes} :
      HeaderOk ver cmd → typ &&& addrMask = typeIPv6 → addr.length = 16 → gap.length = 4 →
      Reads ([ver, cmd, rsv, typ] ++ (addr ++ (gap ++ ([hi, lo] ++ rest))))
        (joinHostPort (ipString addr) (itoa (uint16 hi lo))) 26
  | domain {ver cmd rsv typ len : UInt8} {dom : Bytes} {hi lo : UInt8} {rest : Bytes} :
      HeaderOk ver cmd → typ &&& addrMask = typeDm → dom.length = len.toNat →
      Reads ([ver, cmd, rsv, typ] ++ ([len] ++ (dom ++ ([hi, lo] ++ rest))))
        (joinHostPort dom (itoa (uint16 hi lo))) (len.toNat + 7)
  | redirect {ver cmd rsv typ len : UInt8} {host : Bytes} {rest : Bytes} :
      HeaderOk ver cmd → typ &&& addrMask = typeRedirect → host.length = len.toNat →
      Reads ([ver, cmd, rsv, typ] ++ ([len] ++ (host ++ rest))) host (5 + len.toNat)

/-! ### Reading the address -/

section Complete

variable {typ : UInt8} (isUdp : Bool) (pre : Bytes) (reqEnd : Nat) {body rest host : Bytes} {conn : Reader}

theorem slice?_range (hpre : pre.length ≤ reqEnd) (hend : reqEnd ≤ 269) :
    slice? (filled 269 pre) pre.length reqEnd =
      some (((filled 269 pre).drop pre.length).take (reqEnd - pre.length)) :=
  slice?_eq_some hpre (by rw [length_filled (by omega)]; exact hend)

theorem slice?_raw (full : Bytes) (hfull : full.length = reqEnd) :
    slice? (filled 269 full) 0 reqEnd = some full := by
  rw [slice?_filled (Nat.zero_le _) hfull.ge, List.drop_zero, Nat.sub_zero, List.take_of_length_le hfull.le]

theorem serverComplete_port {hi lo : UInt8} (htyp : typ ≠ typeRedirect)
    (hbytes : conn.bytes = body ++ ([hi, lo] ++ rest)) (hlen : (pre ++ body).length + 2 = reqEnd)
    (hend : reqEnd ≤ 269) (hhost : serverHost typ (filled 269 (pre ++ (body ++ [hi, lo]))) = some host) :
    ∃ conn', serverComplete typ isUdp (filled 269 pre) pre.length reqEnd conn =
        some ({ host := joinHostPort host (itoa (uint16 hi lo)), raw := pre ++ (body ++ [hi, lo]), isUdp },
          conn') ∧ conn'.bytes = rest := by
  rw [List.length_append] at hlen
  obtain ⟨conn', hread, hrest⟩ := readFull_append (reqEnd - pre.length)
    (hbytes.trans (List.append_assoc body [hi, lo] rest).symm) (by simp; omega)
  have hport : slice? (filled 269 (pre ++ (body ++ [hi, lo]))) (reqEnd - 2) reqEnd = some [hi, lo] := by
    rw [slice?_filled (by omega) (by simp; omega), ← List.append_assoc, List.drop_left' (by simp; omega)]
    simp [show reqEnd - (reqEnd - 2) = 2 by omega]
  refine ⟨conn', ?_, hrest⟩
  simp only [serverComplete, slice?_range pre reqEnd (by omega) hend, hread,
    overwrite_filled rfl, slice?_raw reqEnd (pre ++ (body ++ [hi, lo])) (by simp; omega), hhost, hport,
    if_neg htyp, uint16?, Option.bind_eq_bind, Option.bind_some, Option.pure_def]

/-- A complete redirect request: the host as it stands, without a port. -/
theorem serverComplete_redirect (hbytes : conn.bytes = body ++ rest) (hlen : (pre ++ body).length = reqEnd)
    (hend : reqEnd ≤ 269) (hhost : serverHost typeRedirect (filled 269 (pre ++ body)) = some host) :
    ∃ conn', serverComplete typeRedirect isUdp (filled 269 pre) pre.length reqEnd conn =
        some ({ host, raw := pre ++ body, isUdp }, conn') ∧ conn'.bytes = rest := by
  obtain ⟨conn', hread, hrest⟩ := readFull_append (reqEnd - pre.length) hbytes
    (by rw [← hlen]; simp)
  refine ⟨conn', ?_, hrest⟩
  simp only [serverComplete, slice?_range pre reqEnd (by rw [← hlen]; simp) hend, hread,
    overwrite_filled rfl, slice?_raw reqEnd _ hlen, hhost, if_pos, Option.bind_eq_bind, Option.bind_some,
    Option.pure_def]

theorem serverComplete_err (hpre : pre.length ≤ reqEnd) (hend : reqEnd ≤ 269)
    (hlen : conn.bytes.length < reqEnd - pre.length) :
    ∃ q conn', serverComplete typ isUdp (filled 269 pre) pre.length reqEnd conn = some (q, conn') ∧
      q.err ≠ none := by
  obtain ⟨e, conn', hread, _⟩ := readFull_err _ hlen
  have hlong : (pre ++ conn.bytes).length ≤ 269 := by
    rw [List.length_append]
    omega
  obtain ⟨raw, hraw⟩ : ∃ raw, slice? (filled 269 (pre ++ conn.bytes)) 0 reqEnd = some raw :=
    ⟨_, slice?_eq_some (Nat.zero_le _) (by rw [length_filled hlong]; exact hend)⟩
  refine ⟨{ raw, isUdp, err := some e }, conn', ?_, by simp⟩
  simp only [serverComplete, slice?_range pre reqEnd hpre hend, hread, overwrite_filled rfl, hraw, Option.bind_eq_bind,
    Option.bind_some, Option.pure_def]

end Complete

/-! ### The request from its first byte -/

section Request

variable {ver cmd rsv typ : UInt8} {tail : Bytes} {s : Reader}

theorem headerErr_eq_none : headerErr ver cmd = none ↔ HeaderOk ver cmd := by
  rw [headerErr, HeaderOk]
  split_ifs with hcmd hver <;> simp <;> tauto

theorem getServerRequest_header (hbytes : s.bytes = [ver, cmd, rsv, typ] ++ tail) (hok : HeaderOk ver cmd) :
    ∃ s', getServerRequest s = serverAddr (cmd == socksCmdUdp) (filled 269 [ver, cmd, rsv, typ]) s' ∧
      s'.bytes = tail := by
  obtain ⟨s', hread, hrest⟩ := readFull_append (idType + 1) hbytes rfl
  have hver : (filled 269 [ver, cmd, rsv, typ])[idVer]? = some ver := rfl
  have hcmd : (filled 269 [ver, cmd, rsv, typ])[idCmd]? = some cmd := rfl
  refine ⟨s', ?_, hrest⟩
  simp only [getServerRequest, hread, overwrite_make, hver, hcmd, headerErr_eq_none.mpr hok,
    Option.bind_eq_bind, Option.bind_some]

theorem getServerRequest_badHeader (hbytes : s.bytes = [ver, cmd, rsv, typ] ++ tail) (hbad : ¬HeaderOk ver cmd) :
    ∃ q s', getServerRequest s = some (q, s') ∧ q.err ≠ none := by
  obtain ⟨s', hread, -⟩ := readFull_append (idType + 1) hbytes rfl
  have hver : (filled 269 [ver, cmd, rsv, typ])[idVer]? = some ver := rfl
  have hcmd : (filled 269 [ver, cmd, rsv, typ])[idCmd]? = some cmd := rfl
  obtain ⟨e, he⟩ := Option.ne_none_iff_exists'.mp (mt headerErr_eq_none.mp hbad)
  simp only [getServerRequest, hread, overwrite_make, hver, hcmd, he, Option.bind_eq_bind, Option.bind_some]
  rcases read (1401 - (idType + 1)) s' with ⟨more, _ | e', s''⟩
  · exact ⟨{ raw := _, isUdp := _, err := some e }, s'', rfl, by simp⟩
  · exact ⟨{ isUdp := _, err := some e }, s'', rfl, by simp⟩

theorem getElem?_typ : (filled 269 [ver, cmd, rsv, typ])[idType]? = some typ := rfl

theorem serverAddr_len (ver cmd rsv : UInt8) (isUdp : Bool) {len : UInt8}
    (htyp : typ &&& addrMask = typeDm ∨ typ &&& addrMask = typeRedirect) (hbytes : s.bytes = [len] ++ tail) :
    ∃ s', serverAddr isUdp (filled 269 [ver, cmd, rsv, typ]) s =
        serverComplete (typ &&& addrMask) isUdp (filled 269 [ver, cmd, rsv, typ, len]) idDm0
          (if typ &&& addrMask = typeDm then len.toNat + lenDmBase else idDm0 + len.toNat) s' ∧
      s'.bytes = tail := by
  obtain ⟨s', hread, hrest⟩ := readFull_append 1 hbytes rfl
  have h4 : typ &&& addrMask ≠ typeIPv4 := by rcases htyp with h | h <;> rw [h] <;> decide
  have h6 : typ &&& addrMask ≠ typeIPv6 := by rcases htyp with h | h <;> rw [h] <;> decide
  have hbuf : overwrite (filled 269 [ver, cmd, rsv, typ]) idDmLen [len] = filled 269 [ver, cmd, rsv, typ, len] :=
    overwrite_filled rfl
  have hlen : (filled 269 [ver, cmd, rsv, typ, len])[idDmLen]? = some len := rfl
  refine ⟨s', ?_, hrest⟩
  simp only [serverAddr, getElem?_typ, if_neg h4, if_neg h6, if_pos htyp, hread, hbuf, hlen,
    Option.bind_eq_bind, Option.bind_some]

end Request

/-! ### The host of a complete request -/

section Host

variable (ver cmd rsv typ len : UInt8) {host : Bytes} (tail : Bytes)

theorem serverHost_ipv4 (hhost : host.length = 4) :
    serverHost typeIPv4 (filled 269 ([ver, cmd, rsv, typ] ++ (host ++ tail))) = some (ipString host) := by
  rw [serverHost, if_pos rfl, slice?_filled (by decide) (by simp [hhost, idIP0])]
  simp [idIP0, List.take_left' hhost]

theorem serverHost_ipv6 (hhost : host.length = 16) :
    serverHost typeIPv6 (filled 269 ([ver, cmd, rsv, typ] ++ (host ++ tail))) = some (ipString host) := by
  rw [serverHost, if_neg (by decide), if_pos rfl, slice?_filled (by decide) (by simp [hhost, idIP0])]
  simp [idIP0, List.take_left' hhost]

/-- A domain and a redirect host stand behind their length. -/
theorem serverHost_len {kind : UInt8} (h4 : kind ≠ typeIPv4) (h6 : kind ≠ typeIPv6) (hhost : host.length = len.toNat) :
    serverHost kind (filled 269 ([ver, cmd, rsv, typ, len] ++ (host ++ tail))) = some host := by
  have hget : (filled 269 ([ver, cmd, rsv, typ, len] ++ (host ++ tail)))[idDmLen]? = some len := rfl
  rw [serverHost, if_neg h4, if_neg h6, hget, Option.bind_eq_bind, Option.bind_some,
    slice?_filled (by omega) (by simp [hhost, idDm0]; omega)]
  simp [idDm0, List.take_left' hhost]

end Host

/-! ### The parser is the relation -/

/-- **A request the relation accepts is parsed**: to its host, taking exactly its bytes off the stream. -/
theorem getServerRequest_of_reads {b host : Bytes} {n : Nat} (h : Reads b host n) {s : Reader}
    (hbytes : s.bytes = b) :
    ∃ raw rest isUdp s', b = raw ++ rest ∧ raw.length = n ∧
      getServerRequest s = some ({ host, raw, isUdp }, s') ∧ s'.bytes = rest := by
  cases h with
  | @ipv4 ver cmd rsv typ addr hi lo rest hok htyp haddr =>
    obtain ⟨s₁, hreq, hrest₁⟩ := getServerRequest_header hbytes hok
    obtain ⟨s₂, hcomp, hrest₂⟩ := serverComplete_port (cmd == socksCmdUdp) [ver, cmd, rsv, typ]
      lenIPv4 (by decide) hrest₁ (by simp [haddr, lenIPv4]) (by decide)
      (serverHost_ipv4 ver cmd rsv typ [hi, lo] haddr)
    refine ⟨[ver, cmd, rsv, typ] ++ (addr ++ [hi, lo]), rest, cmd == socksCmdUdp, s₂, by simp, by simp [haddr],
      ?_, hrest₂⟩
    rw [hreq, serverAddr, getElem?_typ, Option.bind_eq_bind, Option.bind_some, if_pos htyp, htyp]
    exact hcomp
  | @ipv6 ver cmd rsv typ addr gap hi lo rest hok htyp haddr hgap =>
    obtain ⟨s₁, hreq, hrest₁⟩ := getServerRequest_header hbytes hok
    rw [← List.append_assoc addr gap] at hrest₁
    have hhost : serverHost typeIPv6 (filled 269 ([ver, cmd, rsv, typ] ++ ((addr ++ gap) ++ [hi, lo]))) =
        some (ipString addr) := by
      rw [List.append_assoc]
      exact serverHost_ipv6 ver cmd rsv typ (gap ++ [hi, lo]) haddr
    obtain ⟨s₂, hcomp, hrest₂⟩ := serverComplete_port (cmd == socksCmdUdp) [ver, cmd, rsv, typ]
      (idIP0 + lenIPv6) (by decide) hrest₁ (by simp [haddr, hgap, lenIPv6, idIP0]) (by decide) hhost
    refine ⟨[ver, cmd, rsv, typ] ++ ((addr ++ gap) ++ [hi, lo]), rest, cmd == socksCmdUdp, s₂, by simp,
      by simp [haddr, hgap], ?_, hrest₂⟩
    rw [hreq, serverAddr, getElem?_typ, Option.bind_eq_bind, Option.bind_some, if_neg (by rw [htyp]; decide),
      if_pos htyp, htyp]
    exact hcomp
  | @domain ver cmd rsv typ len dom hi lo rest hok htyp hdom =>
    obtain ⟨s₁, hreq, hrest₁⟩ := getServerRequest_header hbytes hok
    obtain ⟨s₂, haddr, hrest₂⟩ := serverAddr_len ver cmd rsv
      (cmd == socksCmdUdp) (Or.inl htyp) hrest₁
    have hlen := len.toNat_lt
    have hhost : serverHost typeDm (filled 269 ([ver, cmd, rsv, typ, len] ++ (dom ++ [hi, lo]))) = some dom :=
      serverHost_len ver cmd rsv typ len [hi, lo] (by decide) (by decide) hdom
    obtain ⟨s₃, hcomp, hrest₃⟩ := serverComplete_port (cmd == socksCmdUdp)
      [ver, cmd, rsv, typ, len] (len.toNat + lenDmBase) (by decide) hrest₂
      (by simp [hdom, lenDmBase]) (by simp only [lenDmBase]; omega) hhost
    refine ⟨[ver, cmd, rsv, typ, len] ++ (dom ++ [hi, lo]), rest, cmd == socksCmdUdp, s₃, by simp,
      by simp [hdom], ?_, hrest₃⟩
    rw [hreq, haddr, if_pos htyp, htyp]
    exact hcomp
  | @redirect ver cmd rsv typ len host rest hok htyp hhostLen =>
    obtain ⟨s₁, hreq, hrest₁⟩ := getServerRequest_header hbytes hok
    obtain ⟨s₂, haddr, hrest₂⟩ := serverAddr_len ver cmd rsv
      (cmd == socksCmdUdp) (Or.inr htyp) hrest₁
    have hlen := len.toNat_lt
    have hhost : serverHost typeRedirect (filled 269 ([ver, cmd, rsv, typ, len] ++ host)) = some host := by
      have happ : serverHost typeRedirect (filled 269 ([ver, cmd, rsv, typ, len] ++ (host ++ []))) = some host :=
        serverHost_len ver cmd rsv typ len [] (by decide) (by decide) hhostLen
      rw [List.append_nil] at happ
      exact happ
    obtain ⟨s₃, hcomp, hrest₃⟩ := serverComplete_redirect (cmd == socksCmdUdp)
      [ver, cmd, rsv, typ, len] (idDm0 + len.toNat) hrest₂
      (by simp [hhostLen, idDm0]; omega) (by simp only [idDm0]; omega) hhost
    refine ⟨[ver, cmd, rsv, typ, len] ++ host, rest, cmd == socksCmdUdp, s₃, by simp,
      by simp [hhostLen]; omega, ?_, hrest₃⟩
    rw [hreq, haddr, if_neg (by rw [htyp]; decide), htyp]
    exact hcomp

theorem split_port {l : Bytes} {n : Nat} (h : n + 2 ≤ l.length) :
    ∃ a hi lo rest, l = a ++ ([hi, lo] ++ rest) ∧ a.length = n := by
  obtain ⟨hi, lo, rest, hdrop⟩ : ∃ hi lo rest, l.drop n = hi :: lo :: rest := by
    have hlen : (l.drop n).length = l.length - n := List.length_drop
    match hd : l.drop n with
    | [] => rw [hd] at hlen; simp at hlen; omega
    | [x] => rw [hd] at hlen; simp at hlen; omega
    | hi :: lo :: rest => exact ⟨hi, lo, rest, rfl⟩
  exact ⟨l.take n, hi, lo, rest, (List.take_append_drop n l).symm.trans (congrArg _ hdrop), by simp; omega⟩

/-- The server has a request at the front of the stream, or an error to return. -/
def Decided (s : Reader) : Prop :=
  (∃ host n, Reads s.bytes host n) ∨ ∃ q s', getServerRequest s = some (q, s') ∧ q.err ≠ none

section Decided

variable {ver cmd rsv typ : UInt8} {tail : Bytes} {s : Reader}

theorem decided_ipv4 (hbytes : s.bytes = [ver, cmd, rsv, typ] ++ tail) (hok : HeaderOk ver cmd)
    (htyp : typ &&& addrMask = typeIPv4) : Decided s := by
  rcases Nat.lt_or_ge tail.length 6 with htail | htail
  · obtain ⟨s₁, hreq, hrest₁⟩ := getServerRequest_header hbytes hok
    right
    rw [hreq, serverAddr, getElem?_typ, Option.bind_eq_bind, Option.bind_some, if_pos htyp]
    exact serverComplete_err _ [ver, cmd, rsv, typ] _ (by simp [lenIPv4]) (by decide)
      (by rw [hrest₁]; exact htail)
  · obtain ⟨addr, hi, lo, rest, rfl, haddr⟩ := split_port (n := 4) htail
    exact Or.inl ⟨_, _, hbytes ▸ Reads.ipv4 hok htyp haddr⟩

theorem decided_ipv6 (hbytes : s.bytes = [ver, cmd, rsv, typ] ++ tail) (hok : HeaderOk ver cmd)
    (htyp : typ &&& addrMask = typeIPv6) : Decided s := by
  rcases Nat.lt_or_ge tail.length 22 with htail | htail
  · obtain ⟨s₁, hreq, hrest₁⟩ := getServerRequest_header hbytes hok
    right
    rw [hreq, serverAddr, getElem?_typ, Option.bind_eq_bind, Option.bind_some, if_neg (by rw [htyp]; decide),
      if_pos htyp]
    exact serverComplete_err _ [ver, cmd, rsv, typ] _ (by simp [lenIPv6, idIP0]) (by decide)
      (by rw [hrest₁]; exact htail)
  · obtain ⟨addr, hi, lo, rest, rfl, haddr⟩ := split_port (n := 20) htail
    rw [← List.take_append_drop 16 addr, List.append_assoc] at hbytes
    exact Or.inl ⟨_, _, hbytes ▸ Reads.ipv6 hok htyp (by simp [haddr]) (by simp [haddr])⟩

theorem decided_noLen (hbytes : s.bytes = [ver, cmd, rsv, typ] ++ []) (hok : HeaderOk ver cmd)
    (htyp : typ &&& addrMask = typeDm ∨ typ &&& addrMask = typeRedirect) : Decided s := by
  obtain ⟨s₁, hreq, hrest₁⟩ := getServerRequest_header hbytes hok
  obtain ⟨e, s₂, hread, -⟩ := readFull_err 1 (r := s₁) (by rw [hrest₁]; decide)
  have h4 : typ &&& addrMask ≠ typeIPv4 := by rcases htyp with h | h <;> rw [h] <;> decide
  have h6 : typ &&& addrMask ≠ typeIPv6 := by rcases htyp with h | h <;> rw [h] <;> decide
  refine Or.inr ⟨{ isUdp := cmd == socksCmdUdp, err := some e }, s₂, ?_, by simp⟩
  simp only [hreq, serverAddr, getElem?_typ, Option.bind_eq_bind, Option.bind_some, if_neg h4, if_neg h6,
    if_pos htyp, hread, Option.pure_def]

theorem decided_domain {len : UInt8} (hbytes : s.bytes = [ver, cmd, rsv, typ] ++ ([len] ++ tail))
    (hok : HeaderOk ver cmd) (htyp : typ &&& addrMask = typeDm) : Decided s := by
  have hlen := len.toNat_lt
  rcases Nat.lt_or_ge tail.length (len.toNat + 2) with htail | htail
  · obtain ⟨s₁, hreq, hrest₁⟩ := getServerRequest_header hbytes hok
    obtain ⟨s₂, haddr, hrest₂⟩ := serverAddr_len ver cmd rsv
      (cmd == socksCmdUdp) (Or.inl htyp) hrest₁
    right
    rw [hreq, haddr, if_pos htyp]
    refine serverComplete_err _ [ver, cmd, rsv, typ, len] _ ?_ ?_ ?_
    · simp [lenDmBase]
    · simp only [lenDmBase]
      omega
    · simp only [hrest₂, lenDmBase, List.length_cons, List.length_nil]
      omega
  · obtain ⟨dom, hi, lo, rest, rfl, hdom⟩ := split_port htail
    exact Or.inl ⟨_, _, hbytes ▸ Reads.domain hok htyp hdom⟩

theorem decided_redirect {len : UInt8} (hbytes : s.bytes = [ver, cmd, rsv, typ] ++ ([len] ++ tail))
    (hok : HeaderOk ver cmd) (htyp : typ &&& addrMask = typeRedirect) : Decided s := by
  have hlen := len.toNat_lt
  rcases Nat.lt_or_ge tail.length len.toNat with htail | htail
  · obtain ⟨s₁, hreq, hrest₁⟩ := getServerRequest_header hbytes hok
    obtain ⟨s₂, haddr, hrest₂⟩ := serverAddr_len ver cmd rsv
      (cmd == socksCmdUdp) (Or.inr htyp) hrest₁
    right
    rw [hreq, haddr, if_neg (by rw [htyp]; decide)]
    refine serverComplete_err _ [ver, cmd, rsv, typ, len] _ ?_ ?_ ?_
    · simp [idDm0]
    · simp only [idDm0]
      omega
    · simp only [hrest₂, idDm0, List.length_cons, List.length_nil]
      omega
  · rw [← List.take_append_drop len.toNat tail] at hbytes
    exact Or.inl ⟨_, _, hbytes ▸ Reads.redirect hok htyp (by simp; omega)⟩

end Decided

/-- **Every stream is parsed or rejected, without a panic.** -/
theorem decided (s : Reader) : Decided s := by
  rcases Nat.lt_or_ge s.bytes.length 4 with hshort | hlong
  · obtain ⟨e, s', hread, -⟩ := readFull_err (idType + 1) hshort
    exact Or.inr ⟨{ err := some e }, s', by simp only [getServerRequest, hread], by simp⟩
  obtain ⟨ver, cmd, rsv, typ, tail, hbytes⟩ : ∃ ver cmd rsv typ tail, s.bytes = [ver, cmd, rsv, typ] ++ tail := by
    match hs : s.bytes with
    | ver :: cmd :: rsv :: typ :: tail => exact ⟨ver, cmd, rsv, typ, tail, rfl⟩
    | [] | [_] | [_, _] | [_, _, _] => rw [hs] at hlong; simp at hlong
  by_cases hok : HeaderOk ver cmd
  swap
  · exact Or.inr (getServerRequest_badHeader hbytes hok)
  by_cases h4 : typ &&& addrMask = typeIPv4
  · exact decided_ipv4 hbytes hok h4
  by_cases h6 : typ &&& addrMask = typeIPv6
  · exact decided_ipv6 hbytes hok h6
  by_cases hlen : typ &&& addrMask = typeDm ∨ typ &&& addrMask = typeRedirect
  · rcases tail with _ | ⟨len, tail⟩
    · exact decided_noLen hbytes hok hlen
    · rcases hlen with hdm | hre
      · exact decided_domain hbytes hok hdm
      · exact decided_redirect hbytes hok hre
  · obtain ⟨s₁, hreq, -⟩ := getServerRequest_header hbytes hok
    right
    rw [hreq, serverAddr, getElem?_typ, Option.bind_eq_bind, Option.bind_some, if_neg h4, if_neg h6, if_neg hlen]
    exact ⟨_, _, rfl, by simp⟩

end ProxyZ.Socks5
