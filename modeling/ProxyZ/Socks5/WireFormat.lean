import ProxyZ.Socks5.Frame

/-!
# The client's requests on the server

The client reads an application's CONNECT request and sends the bytes it read down the tunnel, where the
server parses them again. `WireAgrees m payload` says that the two parsers agree on the request `m`: what
the client hands on is taken off the tunnel exactly, for the same address and port, whatever the
transport cuts where.

They agree on IPv4 and domain requests and on no IPv6 request (`wireAgrees_iff`): the client's request is
22 bytes long, the server takes 26 off the stream, so it eats four bytes of the payload, or waits for
them, and takes the port from there.
-/

namespace ProxyZ.Socks5

open Go

/-! ### What the client hands on -/

/-- The length of a request of each address type, as the client counts it. -/
def LocalLen (typ len : UInt8) (n : Nat) : Prop :=
  typ = typeIPv4 ∧ n = lenIPv4 ∨ typ = typeIPv6 ∧ n = lenIPv6 ∨ typ = typeDm ∧ n = len.toNat + lenDmBase ∨
    typ = typeChange ∧ n = len.toNat + lenDmBase - 2

theorem LocalLen.le {typ len : UInt8} {n : Nat} (h : LocalLen typ len n) : n ≤ 263 := by
  have hlen := len.toNat_lt
  rcases h with ⟨-, rfl⟩ | ⟨-, rfl⟩ | ⟨-, rfl⟩ | ⟨-, rfl⟩
  · decide
  · decide
  · simp only [lenDmBase]
    omega
  · simp only [lenDmBase]
    omega

theorem localReqLen_some {typ len : UInt8} {buf host : Bytes} {n : Nat} (htyp : buf[idType]? = some typ)
    (hlen : buf[idDmLen]? = some len) (h : localReqLen buf = some (some (n, host))) : LocalLen typ len n := by
  rw [localReqLen, htyp] at h
  simp only [localHost, hlen, Option.bind_eq_bind, Option.bind_some, Option.pure_def] at h
  split_ifs at h with h4 h6 hdm hch
  · cases h
    exact Or.inl ⟨h4, rfl⟩
  · cases h
    exact Or.inr (Or.inl ⟨h6, rfl⟩)
  · obtain ⟨⟨l, d⟩, hl, hd⟩ := Option.bind_eq_some_iff.mp h
    obtain ⟨x, -, hx⟩ := Option.bind_eq_some_iff.mp hl
    cases hx
    cases hd
    exact Or.inr (Or.inr (Or.inl ⟨hdm, rfl⟩))
  · obtain ⟨⟨l, d⟩, hl, hd⟩ := Option.bind_eq_some_iff.mp h
    obtain ⟨x, -, hx⟩ := Option.bind_eq_some_iff.mp hl
    cases hx
    cases hd
    exact Or.inr (Or.inr (Or.inr ⟨hch, rfl⟩))
  · cases h

/-- A completed request is the first `reqLen` bytes of the stream, and the rest stays on it. -/
theorem localComplete_raw {data host : Bytes} {reqLen : Nat} {isUdp : Bool} {conn conn' : Reader}
    {q : LocalRequest} (hreq : reqLen ≤ 263)
    (h : localComplete (filled 263 data) data.length reqLen host isUdp conn = some (q, conn'))
    (herr : q.err = none) :
    q.rawaddr = (data ++ conn.bytes).take reqLen ∧ conn'.bytes = (data ++ conn.bytes).drop reqLen ∧
      reqLen ≤ (data ++ conn.bytes).length := by
  rw [localComplete] at h
  split_ifs at h with heq hlt
  · rw [slice?_filled (Nat.zero_le _) heq.ge] at h
    cases h
    subst heq
    simp
  · rw [slice?_eq_some hlt.le (by rw [length_filled (by omega)]; exact hreq), Option.bind_eq_bind,
      Option.bind_some] at h
    rcases Nat.lt_or_ge conn.bytes.length (reqLen - data.length) with hshort | hlong
    · obtain ⟨e, s', hread, -⟩ := readFull_err _ hshort
      simp only [hread] at h
      cases h
      simp at herr
    · obtain ⟨s', hread, hrest, -⟩ := readFull_ok hlong
      have hfull : reqLen = (data ++ conn.bytes.take (reqLen - data.length)).length := by
        simp only [List.length_append, List.length_take]
        omega
      simp only [hread, overwrite_filled rfl] at h
      rw [slice?_filled (Nat.zero_le _) hfull.le] at h
      cases h
      refine ⟨?_, ?_, by simp; omega⟩
      · rw [List.drop_zero, Nat.sub_zero, List.take_of_length_le hfull.ge, List.take_append,
          List.take_of_length_le hlt.le]
      · rw [hrest, List.drop_append, List.drop_eq_nil_of_le hlt.le, List.nil_append]
  · cases h
    simp at herr

/-- **What the client hands on** is the request at the front of the stream, cut where its address type
says it ends. -/
theorem getLocalRequest_raw {c c' : Reader} {q : LocalRequest} (h : getLocalRequest c = some (q, c'))
    (herr : q.err = none) {ver cmd rsv typ len : UInt8} {rest : Bytes}
    (hbytes : c.bytes = ver :: cmd :: rsv :: typ :: len :: rest) :
    ∃ n, LocalLen typ len n ∧ q.rawaddr = c.bytes.take n ∧ n ≤ c.bytes.length := by
  have henough : idDmLen + 1 ≤ c.bytes.length := by
    rw [hbytes]
    simp [idDmLen]
  obtain ⟨n, c₁, hread, hrest, -, hlow, hhigh, hle⟩ := readAtLeast_ok (show idDmLen + 1 ≤ 263 by decide) henough
  have hdata : (c.bytes.take n).length = n := List.length_take_of_le hle
  have hget : ∀ i < 5, (filled 263 (c.bytes.take n))[i]? = c.bytes[i]? := by
    intro i hi
    rw [getElem?_filled (by rw [hdata]; simp only [idDmLen] at hlow; omega),
      List.getElem?_take_of_lt (by simp only [idDmLen] at hlow; omega)]
  have hver : (filled 263 (c.bytes.take n))[idVer]? = some ver := by rw [hget _ (by decide), hbytes]; rfl
  have hcmd : (filled 263 (c.bytes.take n))[idCmd]? = some cmd := by rw [hget _ (by decide), hbytes]; rfl
  have htyp : (filled 263 (c.bytes.take n))[idType]? = some typ := by rw [hget _ (by decide), hbytes]; rfl
  have hlen : (filled 263 (c.bytes.take n))[idDmLen]? = some len := by rw [hget _ (by decide), hbytes]; rfl
  simp only [getLocalRequest, hread, overwrite_make, hver, hcmd, Option.bind_eq_bind, Option.bind_some] at h
  split_ifs at h with hbadVer hbadCmd
  · cases h
    simp at herr
  · cases h
    simp at herr
  · obtain ⟨found, hfound, h⟩ := Option.bind_eq_some_iff.mp h
    rcases found with _ | ⟨reqLen, host⟩
    · cases h
      simp at herr
    · have hlocal := localReqLen_some htyp hlen hfound
      obtain ⟨hraw, -, hbound⟩ := localComplete_raw hlocal.le h herr
      rw [hrest, List.take_append_drop] at hraw hbound
      exact ⟨reqLen, hlocal, hraw, hbound⟩

/-! ### Requests -/

inductive Addr
  | ipv4 (ip : Bytes) (len : ip.length = 4)
  | domain (name : Bytes) (len : 1 ≤ name.length ∧ name.length ≤ 255)
  | ipv6 (ip : Bytes) (len : ip.length = 16)

def Addr.atyp : Addr → UInt8
  | .ipv4 .. => typeIPv4
  | .domain .. => typeDm
  | .ipv6 .. => typeIPv6

def Addr.body : Addr → Bytes
  | .ipv4 ip _ => ip
  | .domain name _ => [UInt8.ofNat name.length] ++ name
  | .ipv6 ip _ => ip

/-- The address as text. -/
def Addr.text : Addr → Str
  | .ipv4 ip _ => ipString ip
  | .domain name _ => name
  | .ipv6 ip _ => ipString ip

/-- A well-formed SOCKS5 CONNECT request. -/
structure Connect where
  addr : Addr
  port : UInt16

/-- `05 01 00 ATYP ADDR PORT`. -/
def Connect.encode (m : Connect) : Bytes :=
  [5, 1, 0, m.addr.atyp] ++ (m.addr.body ++ be16 m.port.toNat)

def Connect.target (m : Connect) : Str := joinHostPort m.addr.text (itoa m.port.toNat)

/-- Client and server agree on `m` before `payload`: for every chunking on both connections and whatever
the application sent behind its request, the bytes the client hands on are read back by the server as
the same target, and exactly the payload is left on the stream. -/
def WireAgrees (m : Connect) (payload : Bytes) : Prop :=
  ∀ (early : Bytes) (c c' s : Reader) (q : LocalRequest), c.bytes = m.encode ++ early →
    getLocalRequest c = some (q, c') → q.err = none → s.bytes = q.rawaddr ++ payload →
    ∃ r s', getServerRequest s = some (r, s') ∧ r.err = none ∧ r.host = m.target ∧ r.raw = q.rawaddr ∧
      s'.bytes = payload

theorem Connect.encode_head (m : Connect) :
    ∃ len rest, m.encode = 5 :: 1 :: 0 :: m.addr.atyp :: len :: rest ∧
      LocalLen m.addr.atyp len m.encode.length := by
  obtain ⟨addr, port⟩ := m
  cases addr with
  | ipv4 ip len =>
    obtain ⟨b, t, rfl⟩ : ∃ b t, ip = b :: t := List.exists_cons_of_length_pos (by omega)
    exact ⟨b, _, rfl, Or.inl ⟨rfl, by simp [Connect.encode, Addr.body, lenIPv4] at len ⊢; omega⟩⟩
  | domain name len =>
    refine ⟨UInt8.ofNat name.length, _, rfl, Or.inr (Or.inr (Or.inl ⟨rfl, ?_⟩))⟩
    simp [Connect.encode, Addr.body, lenDmBase, Nat.mod_eq_of_lt (show name.length < 256 by omega)]
  | ipv6 ip len =>
    obtain ⟨b, t, rfl⟩ : ∃ b t, ip = b :: t := List.exists_cons_of_length_pos (by omega)
    exact ⟨b, _, rfl, Or.inr (Or.inl ⟨rfl, by simp [Connect.encode, Addr.body, lenIPv6] at len ⊢; omega⟩)⟩

theorem LocalLen.unique {typ len : UInt8} {n n' : Nat} (h : LocalLen typ len n) (h' : LocalLen typ len n') :
    n = n' := by
  rcases h with ⟨rfl, rfl⟩ | ⟨rfl, rfl⟩ | ⟨rfl, rfl⟩ | ⟨rfl, rfl⟩ <;>
    simpa [LocalLen, typeIPv4, typeIPv6, typeDm, typeChange, eq_comm] using h'

theorem getLocalRequest_encode (m : Connect) (early : Bytes) {c c' : Reader} {q : LocalRequest}
    (hbytes : c.bytes = m.encode ++ early) (h : getLocalRequest c = some (q, c')) (herr : q.err = none) :
    q.rawaddr = m.encode := by
  obtain ⟨len, rest, hencode, hlen⟩ := m.encode_head
  have hhead : c.bytes = 5 :: 1 :: 0 :: m.addr.atyp :: len :: (rest ++ early) := by
    rw [hbytes, hencode]
    rfl
  obtain ⟨n, hn, hraw, -⟩ := getLocalRequest_raw h herr hhead
  rw [hraw, hn.unique hlen, hbytes, List.take_left]

/-- The server reads an IPv4 or domain request as the client meant it. -/
theorem reads_encode {m : Connect} (h : m.addr.atyp ≠ typeIPv6) (payload : Bytes) :
    Reads (m.encode ++ payload) m.target m.encode.length := by
  have hok : HeaderOk 5 1 := ⟨Or.inl rfl, Or.inl rfl⟩
  obtain ⟨addr, port⟩ := m
  have hport : uint16 (UInt8.ofNat (port.toNat / 256)) (UInt8.ofNat port.toNat) = port.toNat :=
    Option.some.inj (uint16?_be16 port.toNat_lt)
  cases addr with
  | ipv4 ip len =>
    have hreads := @Reads.ipv4 5 1 0 typeIPv4 ip (UInt8.ofNat (port.toNat / 256)) (UInt8.ofNat port.toNat) payload
      hok (by decide) len
    rw [hport] at hreads
    simpa [Connect.encode, Connect.target, Addr.atyp, Addr.body, Addr.text, be16, len] using hreads
  | domain name len =>
    have hname : (UInt8.ofNat name.length).toNat = name.length := by
      rw [UInt8.toNat_ofNat', Nat.mod_eq_of_lt (by omega)]
    have hreads := @Reads.domain 5 1 0 typeDm (UInt8.ofNat name.length) name (UInt8.ofNat (port.toNat / 256))
      (UInt8.ofNat port.toNat) payload hok (by decide) hname.symm
    rw [hport, hname] at hreads
    simpa [Connect.encode, Connect.target, Addr.atyp, Addr.body, Addr.text, be16] using hreads
  | ipv6 ip len => exact absurd rfl h

theorem Reads.length_ipv6 {b host : Bytes} {n : Nat} {ver cmd rsv : UInt8} {rest : Bytes} (h : Reads b host n)
    (hb : b = ver :: cmd :: rsv :: typeIPv6 :: rest) : n = 26 := by
  cases h with
  | ipv4 _ htyp _ =>
    simp only [List.cons_append, List.cons.injEq] at hb
    rw [hb.2.2.2.1] at htyp
    exact absurd htyp (by decide)
  | ipv6 => rfl
  | domain _ htyp _ =>
    simp only [List.cons_append, List.cons.injEq] at hb
    rw [hb.2.2.2.1] at htyp
    exact absurd htyp (by decide)
  | redirect _ htyp _ =>
    simp only [List.cons_append, List.cons.injEq] at hb
    rw [hb.2.2.2.1] at htyp
    exact absurd htyp (by decide)

theorem getLocalRequest_ipv6 {ip : Bytes} (len : ip.length = 16) (port : UInt16) :
    ∃ q, getLocalRequest ⟨[Connect.encode ⟨.ipv6 ip len, port⟩], .eof⟩ = some (q, ⟨[], .eof⟩) ∧ q.err = none := by
  have hlen : (Connect.encode ⟨.ipv6 ip len, port⟩).length = lenIPv6 := by
    simp [Connect.encode, Addr.body, len, lenIPv6]
  have hread : readAtLeast 263 (idDmLen + 1) ⟨[Connect.encode ⟨.ipv6 ip len, port⟩], .eof⟩ =
      (Connect.encode ⟨.ipv6 ip len, port⟩, none, ⟨[], .eof⟩) := by
    simp [readAtLeast, fill, idDmLen, hlen, lenIPv6]
  have hver : (filled 263 (Connect.encode ⟨.ipv6 ip len, port⟩))[idVer]? = some 5 := rfl
  have hcmd : (filled 263 (Connect.encode ⟨.ipv6 ip len, port⟩))[idCmd]? = some 1 := rfl
  have htyp : (filled 263 (Connect.encode ⟨.ipv6 ip len, port⟩))[idType]? = some typeIPv6 := rfl
  have hreq : localReqLen (filled 263 (Connect.encode ⟨.ipv6 ip len, port⟩)) = some (some (lenIPv6, [])) := by
    rw [localReqLen, htyp]
    rfl
  refine ⟨{ rawaddr := Connect.encode ⟨.ipv6 ip len, port⟩ }, ?_, rfl⟩
  simp only [getLocalRequest, hread, overwrite_make, hver, hcmd, hreq, Option.bind_eq_bind, Option.bind_some]
  rw [if_neg (by decide), if_neg (by decide), localComplete, if_pos hlen,
    slice?_filled (Nat.zero_le _) hlen.ge, ← hlen]
  simp [socksCmdUdp]

/-- On an IPv6 request the parsers disagree before every payload. -/
theorem not_wireAgrees_ipv6 {m : Connect} (h : m.addr.atyp = typeIPv6) (payload : Bytes) :
    ¬WireAgrees m payload := by
  obtain ⟨addr, port⟩ := m
  cases addr with
  | ipv4 ip len => exact absurd h (show typeIPv4 ≠ typeIPv6 by decide)
  | domain name len => exact absurd h (show typeDm ≠ typeIPv6 by decide)
  | ipv6 ip len =>
    intro hagrees
    obtain ⟨q, hclient, herr⟩ := getLocalRequest_ipv6 len port
    have hraw := getLocalRequest_encode ⟨.ipv6 ip len, port⟩ [] (by simp [Reader.bytes]) hclient herr
    obtain ⟨r, s', hserver, hnone, -, -, hrest⟩ := hagrees [] _ _ ⟨[q.rawaddr ++ payload], .eof⟩ q
      (by simp [Reader.bytes]) hclient herr (by simp [Reader.bytes])
    have hsbytes : Reader.bytes ⟨[q.rawaddr ++ payload], .eof⟩ = q.rawaddr ++ payload := by simp [Reader.bytes]
    rcases decided ⟨[q.rawaddr ++ payload], .eof⟩ with ⟨host, n, hreads⟩ | ⟨r', s'', hserver', herr'⟩
    · obtain ⟨raw, rest, isUdp, s'', hsplit, hn, hserver', hrest'⟩ := getServerRequest_of_reads hreads rfl
      rw [hserver] at hserver'
      cases hserver'
      have hn26 := hreads.length_ipv6 (hsbytes.trans (by rw [hraw]; rfl))
      have hlens := congrArg List.length (hsbytes.symm.trans hsplit)
      rw [hraw, ← hrest', hrest] at hlens
      simp only [Connect.encode, Addr.body, be16, List.length_append, List.length_cons, List.length_nil, len, hn,
        hn26] at hlens
      omega
    · rw [hserver] at hserver'
      cases hserver'
      exact herr' hnone

/-- **The two parsers agree exactly on the requests that are not IPv6.** -/
theorem wireAgrees_iff (m : Connect) (payload : Bytes) : WireAgrees m payload ↔ m.addr.atyp ≠ typeIPv6 := by
  constructor
  · exact fun hagrees h => not_wireAgrees_ipv6 h payload hagrees
  · intro h early c c' s q hbytes hclient herr hs
    have hraw := getLocalRequest_encode m early hbytes hclient herr
    rw [hraw] at hs ⊢
    obtain ⟨raw, rest, isUdp, s', hsplit, hlen, hserver, hrest⟩ :=
      getServerRequest_of_reads (reads_encode h payload) hs
    obtain ⟨rfl, rfl⟩ := List.append_inj hsplit hlen.symm
    exact ⟨_, s', hserver, rfl, rfl, rfl, hrest⟩

/-- A request for `[::1]:443`. -/
def loopback6 : Connect := ⟨.ipv6 [0, 0, 0, 0, 0, 0, 0, 0, 0, 0, 0, 0, 0, 0, 0, 1] rfl, 443⟩

theorem not_wireAgrees_loopback6 : ¬WireAgrees loopback6 (str "GET / HTTP/1.1") :=
  not_wireAgrees_ipv6 rfl _

end ProxyZ.Socks5
