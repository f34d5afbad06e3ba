import ProxyZ.Dns.Lan

/-!
# The reply to a query through the tunnel

`DnsNormal` writes the text of its reply, and `ResolveRemoteOld` calls `Read` once, with a buffer of 4096 bytes, and
decodes what that has brought. Nothing says how long a reply is. So the reply is decoded as a whole, and the client
gets the message that was packed, exactly if the transport delivers all of it at once and its wire form has at most
3066 bytes (`replied_iff`). Of a reply in two pieces the front is decoded, which fails, or gives a message with
fewer answers where the DNS library takes that for one.
-/

namespace ProxyZ.Dns

open Go Method

variable {ρ : Type}

/-- What one call of `conn.Read(replyB)` returns. -/
def readOnce (con : Reader) : Except Err Bytes :=
  match Go.read 4096 con with
  | (replyB, none, _) => .ok replyB
  | (_, some err, _) => .error err

/-- The DNS library takes no part of a message for the message. -/
def Codec.Tight (codec : Codec ρ) : Prop :=
  ∀ msg buf front, codec.pack msg = .ok buf → front <+: buf → codec.unpack front = .ok msg → front = buf

/-- The server answers the query with the message `m`, whose wire form is `buf`; `con` is the reply as it comes out
of the tunnel, in the attempt `i` of `ResolveRemoteOld` for `msg`. -/
structure ReplyLeg (v : Tunnel.World ρ) (w : World ρ) (query : Str) (m : Msg ρ) (buf : Bytes) (con : Reader) (i : Nat)
    (msg : Msg ρ) : Prop where
  answer : ∃ r q rest, unpackDNS v.codec query = some (.ok r) ∧ r.question = q :: rest ∧ m = replyMsg v.lookupIP r q
  packed : v.codec.pack m = .ok buf
  sent : ∀ s, (Tunnel.dnsNormal v query s).written = s.written ++ con.bytes
  codec : w.codec = v.codec
  connected : ∃ eid, w.connectRemote i = .ok eid
  received : w.read i (queryFrame w.codec (rewriteLan msg)) = readOnce con
  asked : msg.question ≠ []

/-- The client gets the message. -/
def Written (w : World ρ) (i : Nat) (msg m : Msg ρ) : Prop :=
  ∀ s, ∃ s', resolveRemoteOld w i msg s = .ok (true, s') ∧ s'.written = s.written ++ [m]

/-- The complete reply is decoded, and the client gets the message. -/
def Replied (w : World ρ) (con : Reader) (i : Nat) (msg m : Msg ρ) : Prop :=
  readOnce con = .ok con.bytes ∧ Written w i msg m

/-- The first read brings all of the reply. -/
def AtOnce (con : Reader) (buf : Bytes) : Prop := con.chunks.head? = some con.bytes ∧ buf.length ≤ 3066

section Reply

variable {v : Tunnel.World ρ} {w : World ρ} {query : Str} {m msg : Msg ρ} {buf : Bytes} {con : Reader} {i : Nat}

/-- What the server writes is the text of the message. -/
theorem ReplyLeg.bytes (h : ReplyLeg v w query m buf con i msg) : con.bytes = packDNS v.codec m := by
  obtain ⟨r, q, rest, hquery, hquestion, rfl⟩ := h.answer
  have hreply : replyDNS v.codec v.lookupIP query = some (packDNS v.codec (replyMsg v.lookupIP r q), none) := by
    unfold replyDNS
    rw [hquery]
    simp only [Option.bind_eq_bind, Option.bind_some, hquestion]
    rfl
  have hne : packDNS v.codec (replyMsg v.lookupIP r q) ≠ [] := by
    rw [packDNS_of_pack h.packed]
    exact List.append_ne_nil_of_left_ne_nil (by decide) _
  have hsent := h.sent { alive := 0, cons := 0 }
  obtain ⟨res, hres⟩ := unpackDNS_isSome v.codec (packDNS v.codec (replyMsg v.lookupIP r q))
  unfold Tunnel.dnsNormal at hsent
  rw [hreply] at hsent
  dsimp only at hsent
  rw [if_neg hne, hres] at hsent
  exact (List.append_cancel_left hsent).symm

theorem ReplyLeg.length_bytes (h : ReplyLeg v w query m buf con i msg) :
    con.bytes.length = 6 + 4 * ((buf.length + 2) / 3) := by
  rw [h.bytes, length_packDNS h.packed]

/-- One read brings a front of the stream: its first chunk, as far as the buffer holds. -/
theorem readOnce_ok {got : Bytes} (h : readOnce con = .ok got) :
    ∃ c rest, con.chunks = c :: rest ∧ got = c.take 4096 ∧ got <+: con.bytes := by
  rcases hchunks : con.chunks with _ | ⟨c, rest⟩
  · unfold readOnce Go.read at h
    rw [hchunks] at h
    cases h
  · have hgot : got = c.take 4096 := by
      unfold readOnce Go.read at h
      rw [hchunks] at h
      dsimp only at h
      split_ifs at h with hfits
      · rw [List.take_of_length_le hfits]
        exact (Except.ok.inj h).symm
      · exact (Except.ok.inj h).symm
    refine ⟨c, rest, rfl, hgot, ?_⟩
    unfold Reader.bytes
    rw [hgot, hchunks, List.flatten_cons]
    exact (List.take_prefix _ _).trans (List.prefix_append _ _)

/-- It brings all of the stream if that is one chunk and fits into the buffer. -/
theorem readOnce_bytes_iff :
    readOnce con = .ok con.bytes ↔ con.chunks.head? = some con.bytes ∧ con.bytes.length ≤ 4096 := by
  constructor
  · intro h
    obtain ⟨c, rest, hchunks, hgot, -⟩ := readOnce_ok h
    have hlength : con.bytes.length ≤ 4096 := by
      rw [hgot]
      exact List.length_take_le _ _
    refine ⟨?_, hlength⟩
    have hc : c.length ≤ con.bytes.length := by
      unfold Reader.bytes
      rw [hchunks, List.flatten_cons, List.length_append]
      exact Nat.le_add_right _ _
    rw [hchunks, List.head?_cons, hgot, List.take_of_length_le (hc.trans hlength)]
  · rintro ⟨hhead, hlength⟩
    obtain ⟨rest, hchunks⟩ := List.head?_eq_some_iff.mp hhead
    unfold readOnce Go.read
    rw [hchunks]
    dsimp only
    rw [if_pos hlength]

theorem replied_iff_atOnce (h : ReplyLeg v w query m buf con i msg) :
    readOnce con = .ok con.bytes ↔ AtOnce con buf := by
  rw [readOnce_bytes_iff, AtOnce, h.length_bytes]
  exact and_congr_right fun _ => by omega

/-- A front of the text that unpacks to the message is all of it. -/
theorem eq_packDNS_of_front {codec : Codec ρ} (htight : codec.Tight) (hpack : codec.pack m = .ok buf) {front : Str}
    (hfront : front <+: packDNS codec m) (hunpack : unpackDNS codec front = some (.ok m)) :
    front = packDNS codec m := by
  rw [packDNS_of_pack hpack] at hfront ⊢
  unfold unpackDNS at hunpack
  split_ifs at hunpack with hscheme
  · obtain ⟨body, rfl⟩ := hasPrefix_iff.mp hscheme
    rw [List.prefix_append_right_inj] at hfront
    have hcolon : (58 : UInt8) ∉ body := fun hmem => notMem_encodeToString buf (by decide) (hfront.subset hmem)
    have hcut : cut (str "dns://") body = none := by
      rw [cut_eq_none_iff]
      exact fun hpart => hcolon (hpart.subset (by decide))
    rw [split_scheme, split_of_cut_none hcut] at hunpack
    simp only [List.getElem?_cons_succ, List.getElem?_cons_zero, Option.bind_eq_bind, Option.bind_some] at hunpack
    rcases hdecode : decodeString body with at' | b
    · rw [hdecode] at hunpack
      cases hunpack
    · rw [hdecode] at hunpack
      have hbody := List.prefix_iff_eq_take.mp hfront
      rw [hbody] at hdecode
      obtain ⟨hb, hencode⟩ := encodeToString_of_take hdecode
      have heq : b = buf := htight m buf b hpack hb (Option.some.inj hunpack)
      rw [hbody, ← hencode, heq]
  · cases hunpack

/-- What is read is decoded, and written if it is a message. -/
theorem resolveRemoteOld_read (h : ReplyLeg v w query m buf con i msg) {got : Bytes} (hread : readOnce con = .ok got)
    (hunpack : unpackDNS w.codec got = some (.ok m)) : Written w i msg m := by
  obtain ⟨eid, heid⟩ := h.connected
  obtain ⟨q, rest, hq⟩ := List.exists_cons_of_ne_nil h.asked
  intro s
  unfold resolveRemoteOld
  rw [bind_apply_ok _ (firstQuestion_eq hq s), heid]
  dsimp only
  rw [h.received, hread]
  dsimp only
  rw [hunpack]
  dsimp only
  split_ifs
  · exact ⟨_, rfl, rfl⟩
  · exact ⟨_, rfl, rfl⟩

theorem resolveRemoteOld_written (h : ReplyLeg v w query m buf con i msg) (hwritten : Written w i msg m) :
    ∃ got, readOnce con = .ok got ∧ unpackDNS w.codec got = some (.ok m) := by
  obtain ⟨eid, heid⟩ := h.connected
  obtain ⟨q, rest, hq⟩ := List.exists_cons_of_ne_nil h.asked
  obtain ⟨s', hcall, hmessage⟩ := hwritten {}
  unfold resolveRemoteOld at hcall
  rw [bind_apply_ok _ (firstQuestion_eq hq _), heid] at hcall
  dsimp only at hcall
  rw [h.received] at hcall
  rcases hread : readOnce con with err | got
  · rw [hread] at hcall
    cases hcall
  rw [hread] at hcall
  dsimp only at hcall
  obtain ⟨res, hres⟩ := unpackDNS_isSome w.codec got
  rw [hres] at hcall
  rcases res with err | replymsg
  · cases hcall
  · have hsame : s'.written = [replymsg] := by
      dsimp only at hcall
      split_ifs at hcall
      · cases hcall
        rfl
      · cases hcall
        rfl
    rw [hsame] at hmessage
    cases hmessage
    exact ⟨got, rfl, hres⟩

/-- **The reply is decoded as a whole and the client gets the message exactly if the first read brings all of it;
with a DNS library that takes no part of a message for the message, the client gets the message in no other
case.** -/
theorem replied_iff (hinv : v.codec.Inverse) (h : ReplyLeg v w query m buf con i msg) :
    (Replied w con i msg m ↔ AtOnce con buf) ∧ (v.codec.Tight → (Written w i msg m ↔ AtOnce con buf)) := by
  have hwhole : readOnce con = .ok con.bytes → Written w i msg m := by
    intro hread
    refine resolveRemoteOld_read h hread ?_
    rw [h.codec, h.bytes]
    exact unpackDNS_packDNS v.codec hinv h.packed
  rw [← replied_iff_atOnce h]
  refine ⟨and_iff_left_of_imp hwhole, fun htight => ⟨fun hwritten => ?_, hwhole⟩⟩
  obtain ⟨got, hread, hunpack⟩ := resolveRemoteOld_written h hwritten
  obtain ⟨c, rest, -, -, hfront⟩ := readOnce_ok hread
  rw [h.codec] at hunpack
  rw [h.bytes] at hfront
  rw [hread, h.bytes, eq_packDNS_of_front htight h.packed hfront hunpack]

end Reply

/-- The server of the two. -/
def answeringServer : Tunnel.World (Nat × Nat) where
  codec := codecOf shortQuery shortWire
  lookupIP _ := .ok []
  dial _ := none
  confirmWrite := none
  remote _ := []
  controllFunc := none

/-- A reply in the given chunks. -/
def repliedWorld (con : Reader) : World (Nat × Nat) := { echoWorld with read := fun _ _ => readOnce con }

/-- The reply to `shortQuery`. -/
def shortReply : Bytes := packDNS (codecOf shortQuery shortWire) shortQuery

theorem replyLeg_short (con : Reader) (hcon : con.bytes = shortReply) :
    ReplyLeg answeringServer (repliedWorld con) shortReply shortQuery shortWire con 0 shortQuery where
  answer := ⟨shortQuery, _, _, unpackDNS_packDNS _ (codecOf_inverse _ _) (codecOf_pack _ _), rfl, by decide⟩
  packed := codecOf_pack _ _
  sent := by
    intro s
    have hunpack : unpackDNS (codecOf shortQuery shortWire) shortReply = some (.ok shortQuery) :=
      unpackDNS_packDNS _ (codecOf_inverse _ _) (codecOf_pack _ _)
    have hreply : replyDNS (codecOf shortQuery shortWire) (fun _ => .ok []) shortReply = some (shortReply, none) := by
      unfold replyDNS
      rw [hunpack]
      rfl
    unfold Tunnel.dnsNormal answeringServer
    rw [hcon, hreply]
    dsimp only
    rw [if_neg (by decide), hunpack]
    rfl
  codec := rfl
  connected := ⟨_, rfl⟩
  received := rfl
  asked := by decide

theorem replied_iff_oneChunk :
    Replied (repliedWorld ⟨[shortReply], .eof⟩) ⟨[shortReply], .eof⟩ 0 shortQuery shortQuery :=
  (replied_iff (codecOf_inverse _ _) (replyLeg_short ⟨[shortReply], .eof⟩ (List.append_nil _))).1.mpr
    ⟨congrArg some (List.append_nil _).symm, by decide⟩

/-- The reply in two chunks. -/
def cutReply : Reader := ⟨[shortReply.take 10, shortReply.drop 10], .eof⟩

theorem cutReply_bytes : cutReply.bytes = shortReply := by
  unfold cutReply Reader.bytes
  rw [List.flatten_cons, List.flatten_cons, List.flatten_nil, List.append_nil, List.take_append_drop]

theorem not_replied_cut :
    ReplyLeg answeringServer (repliedWorld cutReply) shortReply shortQuery shortWire cutReply 0 shortQuery ∧
      ¬Written (repliedWorld cutReply) 0 shortQuery shortQuery := by
  have hleg := replyLeg_short cutReply cutReply_bytes
  refine ⟨hleg, fun hwritten => ?_⟩
  obtain ⟨got, hread, hunpack⟩ := resolveRemoteOld_written hleg hwritten
  have hfront : got = shortReply.take 10 := (Except.ok.inj hread).symm
  rw [hfront] at hunpack
  exact absurd hunpack (by decide +kernel)

end ProxyZ.Dns
