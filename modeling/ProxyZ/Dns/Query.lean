import ProxyZ.Tunnel.Handle

/-!
# A DNS query through the tunnel

`ResolveRemoteOld` sends the text of a query as the domain of a SOCKS request for port 99. At the server that
request parses to the text in brackets and a port, and `HandleConnAsync` takes the text out of the brackets.

The length byte of the request is what the domain's length leaves modulo 256. So the query arrives exactly if
the text fits into 255 bytes, that is for messages of at most 186 (`recovered_iff`): of a longer one the server
reads the front only and leaves bytes of the frame unread.
-/

namespace ProxyZ.Dns

open Go ProxyZ.Socks5 ProxyZ.Tunnel

variable {ρ : Type} (codec : Codec ρ)

/-- The frame `ResolveRemoteOld` sends for a message. -/
def queryFrame (msg : Msg ρ) : Bytes := hostToRaw (packDNS codec msg) 99

/-- The message arrives: however the frame is cut into chunks, the server takes all of it and hands `DnsNormal`
a text that is the message. -/
def Recovered (msg : Msg ρ) : Prop :=
  ∀ con : Reader, con.bytes = queryFrame codec msg →
    ∃ host raw isUdp con', getServerRequest con = some ({ host, raw, isUdp, err := none }, con') ∧
      con'.bytes = [] ∧
      ∃ query, route host = some (.dns query) ∧ unpackDNS codec query = some (.ok msg)

section Frame

variable {codec} {msg : Msg ρ} {buf : Bytes}

theorem packDNS_of_pack (hpack : codec.pack msg = .ok buf) :
    packDNS codec msg = str "dns://" ++ encodeToString buf := by
  unfold packDNS
  rw [hpack]

theorem length_packDNS (hpack : codec.pack msg = .ok buf) :
    (packDNS codec msg).length = 6 + 4 * ((buf.length + 2) / 3) := by
  rw [packDNS_of_pack hpack, List.length_append, length_encodeToString]
  rfl

theorem notMem_packDNS {c : UInt8} (hpack : codec.pack msg = .ok buf) (hc : isBase64 c = false)
    (hscheme : c ∉ str "dns://") : c ∉ packDNS codec msg := by
  rw [packDNS_of_pack hpack, List.mem_append]
  exact not_or.mpr ⟨hscheme, notMem_encodeToString buf hc⟩

theorem queryFrame_eq (msg : Msg ρ) :
    queryFrame codec msg =
      [5, 1, 0, 3] ++ ([UInt8.ofNat (packDNS codec msg).length] ++ (packDNS codec msg ++ [0, 99])) := by
  unfold queryFrame hostToRaw
  rw [if_neg (by simp)]
  simp only [List.append_assoc]
  rfl

theorem header_ok : HeaderOk 5 1 := ⟨Or.inl rfl, Or.inl rfl⟩

/-- The branch the server takes for a query that has arrived whole. -/
theorem route_packDNS (hpack : codec.pack msg = .ok buf) :
    route (joinHostPort (packDNS codec msg) (itoa 99)) = some (.dns (packDNS codec msg)) := by
  have hcolon : (58 : UInt8) ∈ packDNS codec msg := by
    rw [packDNS_of_pack hpack]
    exact List.mem_append_left _ (by decide)
  have hopen : (91 : UInt8) ∉ packDNS codec msg := notMem_packDNS hpack (by decide) (by decide)
  have hclose : (93 : UInt8) ∉ packDNS codec msg := notMem_packDNS hpack (by decide) (by decide)
  have hhost : joinHostPort (packDNS codec msg) (itoa 99) = [] ++ 91 :: (packDNS codec msg ++ 93 :: str ":99") := by
    rw [joinHostPort_of_mem _ hcolon, List.append_assoc, List.append_assoc]
    rfl
  have hdns : isDns ([] ++ 91 :: (packDNS codec msg ++ 93 :: str ":99")) = true := by
    rw [packDNS_of_pack hpack, isDns, Bool.or_eq_true_iff]
    apply Or.inr
    rw [hasPrefix_iff]
    exact ⟨encodeToString buf ++ 93 :: str ":99", by simp [str]⟩
  rw [hhost, route_dns (by simp [str]) hdns, bracketed_append (str ":99") List.not_mem_nil hopen hclose (by decide)]
  rfl

theorem recovered_of_le (hinv : codec.Inverse) (hpack : codec.pack msg = .ok buf) (hlen : buf.length ≤ 186) :
    Recovered codec msg := by
  intro con hbytes
  rw [queryFrame_eq] at hbytes
  have hfits : (packDNS codec msg).length < 256 := by
    rw [length_packDNS hpack]
    omega
  have hbyte : (packDNS codec msg).length = (UInt8.ofNat (packDNS codec msg).length).toNat :=
    (UInt8.toNat_ofNat_of_lt' hfits).symm
  have hreads : Reads ([5, 1, 0, 3] ++ ([UInt8.ofNat (packDNS codec msg).length] ++
      (packDNS codec msg ++ ([0, 99] ++ [])))) (joinHostPort (packDNS codec msg) (itoa (uint16 0 99)))
      ((UInt8.ofNat (packDNS codec msg).length).toNat + 7) :=
    .domain header_ok rfl hbyte
  obtain ⟨raw, rest, isUdp, con', happ, hraw, hreq, hrest⟩ := getServerRequest_of_reads hreads hbytes
  refine ⟨_, raw, isUdp, con', hreq, ?_, packDNS codec msg, route_packDNS hpack, unpackDNS_packDNS codec hinv hpack⟩
  have hlength := congrArg List.length happ
  simp only [List.length_append, List.length_cons, List.length_nil, hraw] at hlength
  rw [hrest]
  exact List.eq_nil_of_length_eq_zero (by omega)

theorem not_recovered_of_lt (hpack : codec.pack msg = .ok buf) (hlen : 186 < buf.length) : ¬Recovered codec msg := by
  intro hrec
  obtain ⟨host, raw, isUdp, con', hreq, hnil, -⟩ := hrec ⟨[queryFrame codec msg], .eof⟩ (List.append_nil _)
  have hlong : 256 ≤ (packDNS codec msg).length := by
    rw [length_packDNS hpack]
    omega
  have hlt := (UInt8.ofNat (packDNS codec msg).length).toNat_lt
  obtain ⟨dom, hi, lo, rest, hsplit, hdom⟩ :
      ∃ dom hi lo rest, packDNS codec msg ++ [0, 99] = dom ++ ([hi, lo] ++ rest) ∧
        dom.length = (UInt8.ofNat (packDNS codec msg).length).toNat :=
    split_port (by rw [List.length_append]; simp only [List.length_cons, List.length_nil]; omega)
  have hbytes : (⟨[queryFrame codec msg], .eof⟩ : Reader).bytes =
      [5, 1, 0, 3] ++ ([UInt8.ofNat (packDNS codec msg).length] ++ (dom ++ ([hi, lo] ++ rest))) := by
    rw [← hsplit, ← queryFrame_eq]
    exact List.append_nil _
  obtain ⟨raw', rest', isUdp', con'', happ, hraw, hreq', hrest'⟩ :=
    getServerRequest_of_reads (.domain header_ok rfl hdom) hbytes
  rw [hreq] at hreq'
  cases hreq'
  rw [hnil] at hrest'
  rw [← hrest', List.append_nil] at happ
  have hlength := congrArg List.length happ
  have hsplit := congrArg List.length hsplit
  simp only [List.length_append, List.length_cons, List.length_nil, hraw, hdom] at hlength hsplit
  omega

end Frame

/-- **A query arrives exactly if its message has at most 186 bytes.** -/
theorem recovered_iff (hinv : codec.Inverse) {msg : Msg ρ} {buf : Bytes} (hpack : codec.pack msg = .ok buf) :
    Recovered codec msg ↔ buf.length ≤ 186 := by
  constructor
  · intro hrec
    by_contra hlong
    exact not_recovered_of_lt hpack (Nat.lt_of_not_le hlong) hrec
  · intro hlen
    exact recovered_of_le hinv hpack hlen

/-- The DNS library on one message, whose ID and flags are all there is beside the question. -/
def codecOf (msg : Msg (Nat × Nat)) (wire : Bytes) : Codec (Nat × Nat) where
  pack m := if m = msg then .ok wire else .error (.text (str "dns: not packed here"))
  unpack b := if b = wire then .ok msg else .error (.text (str "dns: not unpacked here"))

theorem codecOf_inverse (msg : Msg (Nat × Nat)) (wire : Bytes) : (codecOf msg wire).Inverse := by
  intro m buf h
  simp only [codecOf] at h ⊢
  split_ifs at h with hm
  cases h
  rw [if_pos rfl, hm]

theorem codecOf_pack (msg : Msg (Nat × Nat)) (wire : Bytes) : (codecOf msg wire).pack msg = .ok wire := if_pos rfl

/-- A query for the addresses of `a.example.`, and its wire form. -/
def shortQuery : Msg (Nat × Nat) := ⟨[⟨str "a.example.", 1, 1⟩], [], (0x1234, 0x8500)⟩

def shortWire : Bytes :=
  [0x12, 0x34, 0x85, 0, 0, 1, 0, 0, 0, 0, 0, 0] ++ (1 :: str "a") ++ (7 :: str "example") ++ [0, 0, 1, 0, 1]

theorem recovered_iff_short : shortWire.length = 27 ∧ Recovered (codecOf shortQuery shortWire) shortQuery :=
  ⟨rfl, (recovered_iff _ (codecOf_inverse _ _) (codecOf_pack _ _)).mpr (by decide)⟩

/-- A query for a name of three labels of 63 letters. -/
def longLabel : Str := List.replicate 63 97

def longQuery : Msg (Nat × Nat) :=
  ⟨[⟨longLabel ++ str "." ++ longLabel ++ str "." ++ longLabel ++ str ".", 1, 1⟩], [], (0x1234, 0x8500)⟩

def longWire : Bytes :=
  [0x12, 0x34, 0x85, 0, 0, 1, 0, 0, 0, 0, 0, 0] ++ (63 :: longLabel) ++ (63 :: longLabel) ++ (63 :: longLabel) ++
    [0, 0, 1, 0, 1]

theorem length_longWire : longWire.length = 209 := by
  have hlabel : longLabel.length = 63 := List.length_replicate
  simp only [longWire, List.length_append, List.length_cons, List.length_nil, hlabel]

theorem not_recovered_long :
    (codecOf longQuery longWire).pack longQuery = .ok longWire ∧ ¬Recovered (codecOf longQuery longWire) longQuery :=
  ⟨codecOf_pack _ _, not_recovered_of_lt (codecOf_pack _ _) (by rw [length_longWire]; decide)⟩

end ProxyZ.Dns
