import ProxyZ.Socks5.Frame

/-!
# Hosts that are framed without a parser

`HostToRaw` frames a host and a port for the server. Given both it is read back as they are, for every host of up
to 255 bytes (`hostToRaw_decoded`).

The HTTP proxy gives it the target of a CONNECT request as one string, which it splits at the first colon. The
server reads the target back exactly if its host is no bracketed IPv6 address (`forwarded_iff`): such a host has
its first colon inside, the port behind it is no number, and what is left of the host is `[` and a group or none.
-/

namespace ProxyZ.Socks5

open Go

section HostToRaw

variable {host : Str} {s : Reader}

theorem hostToRaw_port (host : Str) (port : Nat) :
    hostToRaw host port = [5, 1, 0, 3, UInt8.ofNat host.length] ++ host ++ be16 (port % 65536) := by
  have hport : ¬((port : Int) = -1 ∧ contains host (str ":") = true) := by
    rintro ⟨h, -⟩
    omega
  unfold hostToRaw
  rw [if_neg hport]
  rfl

/-- The frame of a host and a port is read as these. -/
theorem reads_hostToRaw (hlen : host.length ≤ 255) (port : UInt16) (payload : Bytes) :
    Reads (hostToRaw host port.toNat ++ payload) (joinHostPort host (itoa port.toNat)) (host.length + 7) := by
  have hport : port.toNat % 65536 = port.toNat := Nat.mod_eq_of_lt port.toNat_lt
  have hspell : uint16 (UInt8.ofNat (port.toNat / 256)) (UInt8.ofNat port.toNat) = port.toNat :=
    Option.some.inj (uint16?_be16 port.toNat_lt)
  have hname : (UInt8.ofNat host.length).toNat = host.length := by
    rw [UInt8.toNat_ofNat', Nat.mod_eq_of_lt (Nat.lt_succ_of_le hlen)]
  have hreads := @Reads.domain 5 1 0 typeDm (UInt8.ofNat host.length) host (UInt8.ofNat (port.toNat / 256))
    (UInt8.ofNat port.toNat) payload ⟨Or.inl rfl, Or.inl rfl⟩ (by decide) hname.symm
  rw [hspell, hname] at hreads
  rw [hostToRaw_port, hport]
  simpa [be16, typeDm] using hreads

/-- **`HostToRaw` is decoded back**: the server returns the host and the port and the frame, and leaves exactly
the payload. -/
theorem hostToRaw_decoded (hlen : host.length ≤ 255) (port : UInt16) (payload : Bytes)
    (hs : s.bytes = hostToRaw host port.toNat ++ payload) :
    ∃ isUdp s', getServerRequest s =
        some (⟨joinHostPort host (itoa port.toNat), hostToRaw host port.toNat, isUdp, none⟩, s') ∧
      s'.bytes = payload := by
  obtain ⟨raw, rest, isUdp, s', hsplit, hraw, hserver, hrest⟩ :=
    getServerRequest_of_reads (reads_hostToRaw hlen port payload) hs
  have hframe : (hostToRaw host port.toNat).length = host.length + 7 := by
    rw [hostToRaw_port]
    simp
  obtain ⟨rfl, rfl⟩ := List.append_inj hsplit (hframe.trans hraw.symm)
  exact ⟨isUdp, s', hserver, hrest⟩

theorem hostToRaw_decoded_sample : ∃ isUdp s',
    getServerRequest ⟨[hostToRaw (str "a.io") 443, str "GET"], .eof⟩ =
        some (⟨str "a.io:443", hostToRaw (str "a.io") 443, isUdp, none⟩, s') ∧
      s'.bytes = str "GET" :=
  hostToRaw_decoded (show (str "a.io").length ≤ 255 by decide) 443 (str "GET") rfl

end HostToRaw

/-! ### CONNECT targets -/

/-- The host of a CONNECT target. An IPv6 address has a colon in its text. -/
inductive TargetHost
  | name (text : Str) (colon : (58 : UInt8) ∉ text) (len : text.length ≤ 255)
  | ipv4 (ip : IP) (len : ip.length = 4)
  | ipv6 (text : Str) (colon : (58 : UInt8) ∈ text) (len : text.length ≤ 255)

/-- The host without brackets. -/
def TargetHost.text : TargetHost → Str
  | .name text _ _ => text
  | .ipv4 ip _ => dotted ip
  | .ipv6 text _ _ => text

/-- The port of a CONNECT target in decimal digits. -/
structure TargetPort where
  digits : Str
  nonempty : digits ≠ []
  decimal : digits.all isDigit
  range : Go.decimal digits < 65536

def TargetPort.port (p : TargetPort) : Nat := Go.decimal p.digits

/-- The authority `host:port`, an IPv6 address in brackets. -/
def authority (h : TargetHost) (p : TargetPort) : Str :=
  match h with
  | .ipv6 text _ _ => str "[" ++ text ++ str "]" ++ str ":" ++ p.digits
  | h => h.text ++ str ":" ++ p.digits

/-- **The target is forwarded unchanged**: what the server decodes is the host and the port of the authority. -/
def Forwarded (h : TargetHost) (p : TargetPort) : Prop :=
  ∀ (payload : Bytes) (s : Reader), s.bytes = hostToRaw (authority h p) (-1) ++ payload →
    ∃ r s', getServerRequest s = some (r, s') ∧ r.err = none ∧ r.host = joinHostPort h.text (itoa p.port)

/-- A bracketed address. -/
def TargetHost.Bracketed : TargetHost → Prop
  | .ipv6 .. => True
  | _ => False

section Forwarded

/-- With the port -1 the port is what stands behind the first colon. -/
theorem hostToRaw_split {host rest : Str} (hhost : (58 : UInt8) ∉ host) :
    hostToRaw (host ++ 58 :: rest) (-1) = [5, 1, 0, 3, UInt8.ofNat host.length] ++ host ++
      be16 ((atoi rest).1 % 65536).toNat := by
  have hcontains : contains (host ++ 58 :: rest) (str ":") = true := by
    rw [contains, show str ":" = [58] from rfl, cut_singleton rest hhost]
    rfl
  have hsplit : splitN (str ":") (host ++ 58 :: rest) 2 = [host, rest] := by
    show splitUpTo [58] 1 (host ++ 58 :: rest) = _
    rw [splitUpTo, cut_singleton rest hhost]
    rfl
  unfold hostToRaw
  rw [if_pos ⟨rfl, hcontains⟩, hsplit]

/-- What the server makes of a target split at its first colon. -/
theorem decoded_split {host rest : Str} (hhost : (58 : UInt8) ∉ host) (hlen : host.length ≤ 255) (payload : Bytes)
    {s : Reader} (hs : s.bytes = hostToRaw (host ++ 58 :: rest) (-1) ++ payload) :
    ∃ r s', getServerRequest s = some (r, s') ∧ r.err = none ∧
      r.host = joinHostPort host (itoa ((atoi rest).1 % 65536).toNat) := by
  have hrange : ((atoi rest).1 % 65536).toNat < 65536 := by omega
  obtain ⟨port, hport⟩ : ∃ port : UInt16, port.toNat = ((atoi rest).1 % 65536).toNat :=
    ⟨UInt16.ofNatLT _ hrange, rfl⟩
  have hframe : hostToRaw (host ++ 58 :: rest) (-1) = hostToRaw host port.toNat := by
    rw [hostToRaw_split hhost, hostToRaw_port, hport, Nat.mod_eq_of_lt hrange]
  rw [hframe] at hs
  obtain ⟨raw, tail, isUdp, s', -, -, hserver, -⟩ := getServerRequest_of_reads (reads_hostToRaw hlen port payload) hs
  exact ⟨_, s', hserver, rfl, by rw [hport]⟩

theorem forwarded_of_noColon {h : TargetHost} {p : TargetPort} (hcolon : (58 : UInt8) ∉ h.text)
    (hlen : h.text.length ≤ 255) (hauthority : authority h p = h.text ++ str ":" ++ p.digits) : Forwarded h p := by
  intro payload s hs
  have hport : ((atoi p.digits).1 % 65536).toNat = p.port := by
    have hrange := p.range
    rw [atoi_of_digits p.nonempty p.decimal (by omega)]
    show ((Go.decimal p.digits : Int) % 65536).toNat = Go.decimal p.digits
    omega
  rw [hauthority, List.append_assoc] at hs
  rw [← hport]
  exact decoded_split hcolon hlen payload hs

theorem not_forwarded_ipv6 {text : Str} (colon : (58 : UInt8) ∈ text) (len : text.length ≤ 255) (p : TargetPort) :
    ¬Forwarded (.ipv6 text colon len) p := by
  intro hforwarded
  obtain ⟨pre, post, rfl, hpre⟩ := List.eq_append_cons_of_mem colon
  have hhost : (58 : UInt8) ∉ str "[" ++ pre := by
    rw [List.mem_append, not_or]
    exact ⟨by decide, hpre⟩
  have hlen : (str "[" ++ pre).length ≤ 255 := by
    simp only [List.length_append, List.length_cons] at len ⊢
    exact (Nat.add_comm _ _).trans_le ((Nat.add_le_add_left (Nat.le_add_left 1 _) _).trans len)
  have hauthority : authority (.ipv6 (pre ++ 58 :: post) colon len) p =
      (str "[" ++ pre) ++ 58 :: (post ++ str "]:" ++ p.digits) := by
    show str "[" ++ (pre ++ 58 :: post) ++ str "]" ++ str ":" ++ p.digits = _
    rw [show str "]:" = str "]" ++ str ":" from rfl]
    simp only [List.append_assoc, List.cons_append]
  obtain ⟨s, hs⟩ : ∃ s : Reader, s.bytes = hostToRaw (authority (.ipv6 (pre ++ 58 :: post) colon len) p) (-1) ++ [] :=
    ⟨⟨[_], .eof⟩, rfl⟩
  obtain ⟨r, s', hserver, -, hwant⟩ := hforwarded [] s hs
  rw [hauthority] at hs
  obtain ⟨r', s'', hserver', -, hgot⟩ := decoded_split hhost hlen [] hs
  cases hserver.symm.trans hserver'
  have htext : (TargetHost.ipv6 (pre ++ 58 :: post) colon len).text = pre ++ 58 :: post := rfl
  rw [hwant, htext, joinHostPort_of_notMem _ hhost, joinHostPort_of_mem _ colon] at hgot
  -- behind the first colon stands a number in one of them and the rest of the address in the other
  have hrest : post ++ str "]:" ++ itoa p.port =
      itoa ((atoi (post ++ str "]:" ++ p.digits)).1 % 65536).toNat := by
    have happend : str "[" ++ pre ++ str ":" ++ (post ++ str "]:" ++ itoa p.port) =
        str "[" ++ pre ++ str ":" ++ itoa ((atoi (post ++ str "]:" ++ p.digits)).1 % 65536).toNat := by
      rw [← hgot]
      simp only [show str ":" = [58] from rfl, List.append_assoc, List.cons_append, List.nil_append]
    exact List.append_cancel_left happend
  have hbracket : (93 : UInt8) ∈ itoa ((atoi (post ++ str "]:" ++ p.digits)).1 % 65536).toNat := by
    rw [← hrest]
    exact List.mem_append_left _ (List.mem_append_right _ (by decide))
  exact notMem_itoa (by decide) hbracket

/-- **A target is forwarded unchanged exactly if its host is not bracketed.** -/
theorem forwarded_iff (h : TargetHost) (p : TargetPort) : Forwarded h p ↔ ¬h.Bracketed := by
  cases h with
  | name text colon len => exact iff_of_true (forwarded_of_noColon colon len rfl) id
  | ipv4 ip len =>
    have hcolon := notMem_dotted (show isDigit 58 = false by decide) (by decide) len
    exact iff_of_true (forwarded_of_noColon hcolon ((length_dotted_le len).trans (by decide)) rfl) id
  | ipv6 text colon len => exact iff_of_false (not_forwarded_ipv6 colon len p) fun h => h trivial

/-- Port 443. -/
def port443 : TargetPort := ⟨str "443", by decide, by decide, by decide⟩

theorem not_forwarded_loopback : ¬Forwarded (.ipv6 (str "::1") (by decide) (by decide)) port443 :=
  not_forwarded_ipv6 _ _ _

end Forwarded

end ProxyZ.Socks5
