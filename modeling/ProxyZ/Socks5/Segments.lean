import ProxyZ.Socks5.Local

/-!
# The same request, cut elsewhere

An application that sends the same request in other pieces should be understood the same. The raw bytes, the
flag for UDP and the error are the same for every two ways to cut a request; the host of a name is not, since
`GetLocalRequest` takes it from the buffer after the first read. Two ways to cut a request give the same result
exactly if every byte of its name, zeros apart, comes with the first read in both or in neither, and the name is
not so long that there is a panic (`sameResult_iff`).
-/

namespace ProxyZ.Socks5

open Go

/-- What an application asks for. A `change` has no port. -/
inductive Asked
  | ipv4 (ip : Bytes) (len : ip.length = 4) (port : UInt16)
  | ipv6 (ip : Bytes) (len : ip.length = 16) (port : UInt16)
  | domain (name : Bytes) (len : name.length ≤ 255) (port : UInt16)
  | change (name : Bytes) (len : name.length ≤ 255)

/-- The request: `05 01 00 ATYP ADDR PORT`. -/
def Asked.encode : Asked → Bytes
  | .ipv4 ip _ port => [5, 1, 0, typeIPv4] ++ (ip ++ be16 port.toNat)
  | .ipv6 ip _ port => [5, 1, 0, typeIPv6] ++ (ip ++ be16 port.toNat)
  | .domain name _ port => [5, 1, 0, typeDm, UInt8.ofNat name.length] ++ (name ++ be16 port.toNat)
  | .change name _ => [5, 1, 0, typeChange, UInt8.ofNat name.length] ++ name

/-- Two connections give the same raw bytes, host, flag and error. -/
def SameResult (c c' : Reader) : Prop :=
  ∃ q s s', getLocalRequest c = some (q, s) ∧ getLocalRequest c' = some (q, s')

/-- Each byte of the name that is not zero comes with the first `n` bytes and with the first `n'`, or with
neither. -/
def Together (name : Bytes) (n n' : Nat) : Prop := ∀ i b, name[i]? = some b → b ≠ 0 → (5 + i < n ↔ 5 + i < n')

/-- The name is short enough, and cut alike. -/
def Asked.CutAlike (n n' : Nat) : Asked → Prop
  | .ipv4 .. => True
  | .ipv6 .. => True
  | .domain name _ _ => name.length ≤ 250 ∧ Together name n n'
  | .change name _ => name.length ≤ 250 ∧ Together name n n'

section Host

variable {name rest : Bytes} {n k k' i : Nat} {b : UInt8}

theorem length_hostPart (more : Bytes) : (hostPart n more).length = n := by
  unfold hostPart
  rw [List.length_take, filled, make, List.length_append, List.length_replicate]
  omega

theorem getElem?_hostPart (hb : name[i]? = some b) :
    (hostPart name.length ((name ++ rest).take k))[i]? = some (if i < k then b else 0) := by
  have hi : i < name.length := (List.getElem?_eq_some_iff.mp hb).1
  rw [hostPart, List.getElem?_take_of_lt hi]
  split_ifs with hk
  · rw [getElem?_filled (by rw [List.length_take, List.length_append]; omega), List.getElem?_take_of_lt hk,
      List.getElem?_append_left hi, hb]
  · have hlen : ((name ++ rest).take k).length = k := by
      rw [List.length_take, List.length_append]
      omega
    rw [filled, hlen, List.getElem?_append_right (by omega), hlen, make, List.getElem?_replicate_of_lt (by omega)]

theorem hostPart_eq_iff :
    hostPart name.length ((name ++ rest).take k) = hostPart name.length ((name ++ rest).take k') ↔
      ∀ i b, name[i]? = some b → b ≠ 0 → (i < k ↔ i < k') := by
  constructor
  · intro h i b hb hne
    have hbyte := congrArg (fun l : Bytes => l[i]?) h
    simp only [getElem?_hostPart hb, Option.some.injEq] at hbyte
    constructor
    · intro hk
      by_contra hk'
      rw [if_pos hk, if_neg hk'] at hbyte
      exact hne hbyte
    · intro hk'
      by_contra hk
      rw [if_neg hk, if_pos hk'] at hbyte
      exact hne hbyte.symm
  · intro h
    apply List.ext_getElem?
    intro i
    rcases hb : name[i]? with _ | b
    · have hi : name.length ≤ i := List.getElem?_eq_none_iff.mp hb
      rw [List.getElem?_eq_none (by rw [length_hostPart]; exact hi),
        List.getElem?_eq_none (by rw [length_hostPart]; exact hi)]
    · rw [getElem?_hostPart hb, getElem?_hostPart hb]
      by_cases hzero : b = 0
      · rw [hzero, ite_self, ite_self]
      · rw [if_congr (h i b hb hzero) rfl rfl]

end Host

/-! ### A request on its own -/

section Whole

variable {c : Reader} {ver cmd rsv typ len : UInt8} {tail : Bytes}

/-- What is returned for a request with nothing behind it. -/
theorem getLocalRequest_whole (hbytes : c.bytes = [ver, cmd, rsv, typ, len] ++ tail) (hok : HeaderOk ver cmd)
    {host : Bytes → Str}
    (hreq : ∀ more, localReqLen (filled 263 ([ver, cmd, rsv, typ, len] ++ more)) =
      some (some (5 + tail.length, host more))) (hle : 5 + tail.length ≤ 263) :
    ∃ c', getLocalRequest c = some
      ({ rawaddr := c.bytes, host := host (tail.take (reached 5 c.chunks - 5)), isUdp := cmd == socksCmdUdp }, c') := by
  obtain ⟨more, reader, htail, hmore, hgo, -⟩ := getLocalRequest_head hbytes
  have hreach : reached 5 c.chunks ≤ 5 + tail.length := by
    have hall := reached_le 5 c.chunks
    rwa [show c.chunks.flatten = c.bytes from rfl, hbytes, List.length_append] at hall
  rw [Nat.min_eq_right (hreach.trans hle)] at hmore
  have hfirst : tail.take (reached 5 c.chunks - 5) = more := by
    rw [← hmore, Nat.add_sub_cancel_left, htail, List.take_left]
  have hdata : ([ver, cmd, rsv, typ, len] ++ more).length = 5 + more.length := List.length_append
  have hlen : 5 + tail.length = (([ver, cmd, rsv, typ, len] ++ more) ++ reader.bytes).length := by
    rw [List.append_assoc, ← htail, List.length_append]
    rfl
  have hcomplete : ∃ c', localComplete (filled 263 ([ver, cmd, rsv, typ, len] ++ more)) (5 + more.length)
      (5 + tail.length) (host more) (cmd == socksCmdUdp) reader =
      some ({ rawaddr := c.bytes, host := host more, isUdp := cmd == socksCmdUdp }, c') := by
    rw [hbytes, htail, ← List.append_assoc, ← htail, ← hdata]
    exact localComplete_whole hlen hle
  obtain ⟨c', hres⟩ := hcomplete
  refine ⟨c', ?_⟩
  rw [hgo hok, hreq, hfirst]
  exact hres

end Whole

/-! ### The two pieces of a request -/

section Asked

variable {c c' : Reader}

theorem sameResult_of_whole {ver cmd rsv typ len : UInt8} {tail : Bytes}
    (hc : c.bytes = [ver, cmd, rsv, typ, len] ++ tail)
    (hc' : c'.bytes = [ver, cmd, rsv, typ, len] ++ tail) (hok : HeaderOk ver cmd) {host : Bytes → Str}
    (hreq : ∀ more, localReqLen (filled 263 ([ver, cmd, rsv, typ, len] ++ more)) =
      some (some (5 + tail.length, host more))) (hle : 5 + tail.length ≤ 263) :
    SameResult c c' ↔
      host (tail.take (reached 5 c.chunks - 5)) = host (tail.take (reached 5 c'.chunks - 5)) := by
  obtain ⟨s, hres⟩ := getLocalRequest_whole hc hok hreq hle
  obtain ⟨s', hres'⟩ := getLocalRequest_whole hc' hok hreq hle
  rw [hc] at hres
  rw [hc'] at hres'
  constructor
  · rintro ⟨q, t, t', ht, ht'⟩
    have hq := (Prod.mk.inj (Option.some.inj (hres.symm.trans ht))).1
    have hq' := (Prod.mk.inj (Option.some.inj (hres'.symm.trans ht'))).1
    exact congrArg LocalRequest.host (hq.trans hq'.symm)
  · intro h
    refine ⟨_, s, s', hres, ?_⟩
    rw [hres', h]

theorem sameResult_ip {typ : UInt8} {ip : Bytes} {port : UInt16}
    (hkind : typ = typeIPv4 ∧ ip.length = 4 ∨ typ = typeIPv6 ∧ ip.length = 16)
    (hc : c.bytes = [5, 1, 0, typ] ++ (ip ++ be16 port.toNat))
    (hc' : c'.bytes = [5, 1, 0, typ] ++ (ip ++ be16 port.toNat)) : SameResult c c' := by
  obtain ⟨b, t, rfl⟩ : ∃ b t, ip = b :: t := by
    apply List.exists_cons_of_length_pos
    omega
  have hok : HeaderOk 5 1 := ⟨Or.inl rfl, Or.inl rfl⟩
  have hlen : 5 + (t ++ be16 port.toNat).length = (b :: t).length + 6 := by
    rw [List.length_append, length_be16, List.length_cons]
    omega
  have hreq : ∀ more, localReqLen (filled 263 ([5, 1, 0, typ, b] ++ more)) =
      some (some (5 + (t ++ be16 port.toNat).length, [])) := by
    intro more
    rw [localReqLen_eq, hlen]
    rcases hkind with ⟨rfl, h⟩ | ⟨rfl, h⟩
    · rw [if_pos rfl, h]
      rfl
    · rw [if_neg (by decide), if_pos rfl, h]
      rfl
  have hle : 5 + (t ++ be16 port.toNat).length ≤ 263 := by
    rw [hlen]
    rcases hkind with ⟨-, h⟩ | ⟨-, h⟩ <;> omega
  exact (sameResult_of_whole hc hc' hok hreq hle).mpr rfl

theorem sameResult_name {typ : UInt8} {name rest : Bytes} (hlen : name.length ≤ 255)
    (hkind : typ = typeDm ∧ rest.length = 2 ∨ typ = typeChange ∧ rest = [])
    (hc : c.bytes = [5, 1, 0, typ, UInt8.ofNat name.length] ++ (name ++ rest))
    (hc' : c'.bytes = [5, 1, 0, typ, UInt8.ofNat name.length] ++ (name ++ rest)) :
    SameResult c c' ↔ name.length ≤ 250 ∧ Together name (reached 5 c.chunks) (reached 5 c'.chunks) := by
  have hok : HeaderOk 5 1 := ⟨Or.inl rfl, Or.inl rfl⟩
  have hcount : (UInt8.ofNat name.length).toNat = name.length := by
    rw [UInt8.toNat_ofNat', Nat.mod_eq_of_lt (Nat.lt_succ_of_le hlen)]
  have hnamed : typ = typeDm ∨ typ = typeChange := hkind.imp And.left And.left
  by_cases hshort : name.length ≤ 250
  · have hreq : ∀ more, localReqLen (filled 263 ([5, 1, 0, typ, UInt8.ofNat name.length] ++ more)) =
        some (some (5 + (name ++ rest).length, hostPart name.length more)) := by
      intro more
      rw [localReqLen_eq, hcount, List.length_append]
      rcases hkind with ⟨rfl, h⟩ | ⟨rfl, rfl⟩
      · rw [if_neg (by decide), if_neg (by decide), if_pos hnamed, if_pos hshort, if_pos rfl, h]
        congr 3
        unfold lenDmBase
        omega
      · rw [if_neg (by decide), if_neg (by decide), if_pos hnamed, if_pos hshort, if_neg (by decide)]
        congr 3
        exact Nat.add_comm _ _
    have hle : 5 + (name ++ rest).length ≤ 263 := by
      rw [List.length_append]
      rcases hkind with ⟨-, h⟩ | ⟨-, rfl⟩
      · omega
      · simp only [List.length_nil]
        omega
    rw [sameResult_of_whole hc hc' hok hreq hle, hostPart_eq_iff, and_iff_right hshort]
    refine forall₂_congr fun i b => forall₂_congr fun _ _ => ?_
    rw [Nat.lt_sub_iff_add_lt', Nat.lt_sub_iff_add_lt']
  · have hpanics : getLocalRequest c = none :=
      getLocalRequest_eq_none_iff.mpr ⟨5, 1, 0, typ, _, _, hc, hok, hnamed, by rw [hcount]; omega⟩
    apply iff_of_false _ fun h => hshort h.1
    rintro ⟨q, s, s', hs, -⟩
    rw [hpanics] at hs
    cases hs

/-- **Two ways to cut a request give the same result exactly if they cut it alike.** -/
theorem sameResult_iff (m : Asked) (hc : c.bytes = m.encode) (hc' : c'.bytes = m.encode) :
    SameResult c c' ↔ m.CutAlike (reached 5 c.chunks) (reached 5 c'.chunks) := by
  cases m with
  | ipv4 ip len port => exact iff_of_true (sameResult_ip (Or.inl ⟨rfl, len⟩) hc hc') trivial
  | ipv6 ip len port => exact iff_of_true (sameResult_ip (Or.inr ⟨rfl, len⟩) hc hc') trivial
  | domain name len port => exact sameResult_name len (Or.inl ⟨rfl, length_be16 _⟩) hc hc'
  | change name len =>
    exact sameResult_name len (Or.inr ⟨rfl, rfl⟩) (hc.trans (by rw [List.append_nil]; rfl))
      (hc'.trans (by rw [List.append_nil]; rfl))

end Asked

/-- A request for port 443 of `a.io`. -/
def askedName : Asked := .domain (str "a.io") (by decide) 443

/-- Both first reads bring the whole name. -/
theorem sameResult_iff_name :
    SameResult ⟨[askedName.encode], .eof⟩ ⟨[askedName.encode.take 9, askedName.encode.drop 9], .eof⟩ := by
  refine (sameResult_iff askedName (by decide) (by decide)).mpr ⟨by decide, ?_⟩
  intro i b hb _
  have hi : i < 4 := (List.getElem?_eq_some_iff.mp hb).1
  have hwhole : reached 5 [askedName.encode] = 11 := by decide
  have hcut : reached 5 [askedName.encode.take 9, askedName.encode.drop 9] = 9 := by decide
  rw [hwhole, hcut]
  omega

/-- The name comes with the first read, or behind it: then it is read as four zeros. -/
theorem not_sameResult_cut :
    ¬SameResult ⟨[askedName.encode], .eof⟩ ⟨[askedName.encode.take 5, askedName.encode.drop 5], .eof⟩ := by
  have hwhole : (getLocalRequest ⟨[askedName.encode], .eof⟩).map (·.1.host) = some (str "a.io") := by
    decide +kernel
  have hcut : (getLocalRequest ⟨[askedName.encode.take 5, askedName.encode.drop 5], .eof⟩).map (·.1.host) =
      some [0, 0, 0, 0] := by decide +kernel
  rintro ⟨q, s, s', hs, hs'⟩
  rw [hs] at hwhole
  rw [hs'] at hcut
  exact absurd (hwhole.symm.trans hcut) (by decide)

end ProxyZ.Socks5
