import ProxyZ.Dns.Fresh
import ProxyZ.Dns.Reply

/-!
# A name resolved through a tunnel

`ResolveRemoteOld` sends its query as the domain of a SOCKS request. The server reads the request as any other, finds a
DNS query in the host, looks the name up and writes the reply, which the client reads at once.

So the client is answered with what the server has looked up exactly if the query has at most 186 bytes and the reply
comes in one piece of at most 3066 (`resolves_iff`). Of a longer query the server reads a front, which the DNS library
does not take for the query; so nothing it writes is the reply.
-/

namespace ProxyZ.System

open Go Method ProxyZ.Socks5 ProxyZ.Dns ProxyZ.Tunnel

variable {ρ : Type}

/-- What the server has looked up for a query. -/
def lookedUp (v : Tunnel.World ρ) (x : Query ρ) : Msg ρ := replyMsg v.lookupIP x.rewrite.msg x.rewrite.q

/-- The attempt `i` of the client `w` for a query goes through a tunnel of the server `v`, which reads `request` and
whose reply is read as `reply`. -/
structure Tunnelled (v : Tunnel.World ρ) (w : Dns.World ρ) (i : Nat) (x : Query ρ) (request reply : Reader) : Prop where
  codec : w.codec = v.codec
  connected : ∃ eid, w.connectRemote i = .ok eid
  carried : request.bytes = queryFrame v.codec x.rewrite.msg
  served : reply.bytes = (handleConnAsync v request { alive := 0, cons := 0 }).written
  received : w.read i (queryFrame v.codec x.rewrite.msg) = readOnce reply

/-! ### What the server writes -/

section Server

variable {v : Tunnel.World ρ} {query : Str} {s : Tunnel.Conn} {msg r r' : Msg ρ} {q q' : Question}
  {rest rest' : List Question} {buf : Bytes}

/-- The reply to what unpacks to a message with a question. -/
theorem replyDNS_of_unpack {codec : Codec ρ} {lookupIP : Str → Except Err (List IP)}
    (hunpack : unpackDNS codec query = some (.ok r)) (hr : r.question = q :: rest) :
    replyDNS codec lookupIP query = some (packDNS codec (replyMsg lookupIP r q), none) := by
  unfold replyDNS
  rw [hunpack]
  simp only [Option.bind_eq_bind, Option.bind_some, hr]
  rfl

theorem replyDNS_eq_ok {codec : Codec ρ} {lookupIP : Str → Except Err (List IP)} {text : Str}
    (h : replyDNS codec lookupIP query = some (text, none)) :
    ∃ r q rest, unpackDNS codec query = some (.ok r) ∧ r.question = q :: rest ∧
      text = packDNS codec (replyMsg lookupIP r q) := by
  unfold replyDNS at h
  obtain ⟨res, hres, h⟩ := Option.bind_eq_some_iff.mp h
  rcases res with err | r
  · cases h
  · dsimp only at h
    split at h
    · cases h
    · rename_i q rest hr
      cases h
      exact ⟨r, q, rest, hres, hr, rfl⟩

theorem dnsNormal_written (hunpack : unpackDNS v.codec query = some (.ok r)) (hr : r.question = q :: rest)
    (hpack : v.codec.pack (replyMsg v.lookupIP r q) = .ok buf) :
    (dnsNormal v query s).written = s.written ++ packDNS v.codec (replyMsg v.lookupIP r q) := by
  have hne : packDNS v.codec (replyMsg v.lookupIP r q) ≠ [] := by
    rw [packDNS_of_pack hpack]
    exact List.append_ne_nil_of_left_ne_nil (by decide) _
  obtain ⟨res, hres⟩ := unpackDNS_isSome v.codec (packDNS v.codec (replyMsg v.lookupIP r q))
  unfold dnsNormal
  rw [replyDNS_of_unpack hunpack hr]
  dsimp only
  rw [if_neg hne, hres]
  rfl

/-- What serving a host can write: nothing, a reply to the query in it, or the confirmation and what is relayed. -/
theorem serveHost_written (v : Tunnel.World ρ) (host : Str) (con : Reader) (s : Tunnel.Conn) :
    (serveHost v host con s).written = s.written ∨
      (∃ query r q rest, route host = some (.dns query) ∧ unpackDNS v.codec query = some (.ok r) ∧
        r.question = q :: rest ∧
        (serveHost v host con s).written = s.written ++ packDNS v.codec (replyMsg v.lookupIP r q)) ∨
      ∃ relayed, (serveHost v host con s).written = s.written ++ (socks5Confirm ++ relayed) := by
  unfold serveHost
  rcases hroute : route host with _ | _ | query | _
  · exact Or.inl rfl
  · dsimp only
    split <;> exact Or.inl rfl
  · dsimp only
    unfold dnsNormal
    rcases hreply : replyDNS v.codec v.lookupIP query with _ | ⟨text, _ | err⟩
    · exact Or.inl rfl
    · dsimp only
      split_ifs
      · exact Or.inl rfl
      · obtain ⟨r, q, rest, hunpack, hr, rfl⟩ := replyDNS_eq_ok hreply
        refine Or.inr (Or.inl ⟨query, r, q, rest, rfl, hunpack, hr, ?_⟩)
        split <;> rfl
    · exact Or.inl rfl
  · dsimp only
    unfold tcpNormal
    rcases v.dial host with _ | err
    · rcases v.confirmWrite with _ | err
      · exact Or.inr (Or.inr ⟨v.remote host, List.append_assoc _ _ _⟩)
      · exact Or.inl rfl
    · exact Or.inl rfl

/-- What a reply adds to a message depends on its question only. -/
theorem replyMsg_eq (lookupIP : Str → Except Err (List IP)) (q : Question) :
    ∃ found : List (Rr ρ), ∀ r, replyMsg lookupIP r q = { r with answer := r.answer ++ found } := by
  rcases hlookup : lookupIP (lookupName q) with err | ips
  · refine ⟨[], fun r => ?_⟩
    unfold replyMsg
    rw [hlookup, List.append_nil]
  · refine ⟨addressRecords (lookupName q) ips, fun r => ?_⟩
    unfold replyMsg
    rw [hlookup]

/-- A reply tells the message it is for. -/
theorem replyMsg_injective {lookupIP : Str → Except Err (List IP)} (hr : r.question = q :: rest)
    (hr' : r'.question = q' :: rest') (h : replyMsg lookupIP r q = replyMsg lookupIP r' q') : r = r' := by
  obtain ⟨found, hfound⟩ := replyMsg_eq (ρ := ρ) lookupIP q
  obtain ⟨found', hfound'⟩ := replyMsg_eq (ρ := ρ) lookupIP q'
  have hquestion : r.question = r'.question := by
    have := congrArg Msg.question h
    rwa [hfound, hfound'] at this
  have hq : q = q' := (List.cons.inj (hr.symm.trans (hquestion.trans hr'))).1
  subst hq
  rw [hfound, hfound] at h
  injection h with hquestions hanswers hheaders
  have hanswer := List.append_cancel_right hanswers
  cases r
  cases r'
  cases hquestions
  cases hanswer
  cases hheaders
  rfl

end Server

/-! ### The request -/

section Request

variable {v : Tunnel.World ρ} {w : Dns.World ρ} {i : Nat} {x : Query ρ} {request reply : Reader} {msg : Msg ρ}
  {query buf : Bytes}

/-- Of a query that is too long the server takes a front for the host. -/
theorem getServerRequest_long (hpack : v.codec.pack msg = .ok query) (hlen : 186 < query.length)
    (hbytes : request.bytes = queryFrame v.codec msg) :
    ∃ dom n req con', getServerRequest request = some (req, con') ∧ req.err = none ∧
      req.host = joinHostPort dom (itoa n) ∧ dom <+: packDNS v.codec msg ∧ dom ≠ packDNS v.codec msg := by
  have hlong : 256 ≤ (packDNS v.codec msg).length := by
    rw [length_packDNS hpack]
    omega
  have hlt := (UInt8.ofNat (packDNS v.codec msg).length).toNat_lt
  obtain ⟨dom, hi, lo, rest, hsplit, hdom⟩ :
      ∃ dom hi lo rest, packDNS v.codec msg ++ [0, 99] = dom ++ ([hi, lo] ++ rest) ∧
        dom.length = (UInt8.ofNat (packDNS v.codec msg).length).toNat :=
    split_port (by rw [List.length_append]; simp only [List.length_cons, List.length_nil]; omega)
  rw [queryFrame_eq, hsplit] at hbytes
  obtain ⟨raw, rest', isUdp, con', -, -, hreq, -⟩ := getServerRequest_of_reads (.domain header_ok rfl hdom) hbytes
  refine ⟨dom, uint16 hi lo, _, con', hreq, rfl, rfl, ?_, ?_⟩
  · have hfront : dom <+: packDNS v.codec msg ++ [0, 99] := ⟨[hi, lo] ++ rest, hsplit.symm⟩
    exact List.prefix_of_prefix_length_le hfront (List.prefix_append _ _) (by omega)
  · intro heq
    rw [heq] at hdom
    omega

/-- A front of a query, where it is taken for a query, is taken as it is. -/
theorem query_of_route {dom text : Str} {n : Nat} (hpack : v.codec.pack msg = .ok query)
    (hdom : dom <+: packDNS v.codec msg) (hroute : route (joinHostPort dom (itoa n)) = some (.dns text)) :
    text = dom := by
  have hopen : (91 : UInt8) ∉ dom := fun h => notMem_packDNS hpack (by decide) (by decide) (hdom.subset h)
  have hclose : (93 : UInt8) ∉ dom := fun h => notMem_packDNS hpack (by decide) (by decide) (hdom.subset h)
  have hport : (91 : UInt8) ∉ itoa n := notMem_itoa (by decide)
  have hbracketed : bracketed (joinHostPort dom (itoa n)) = some text := by
    unfold route at hroute
    split_ifs at hroute
    · cases hroute
    · obtain ⟨text', htext', heq⟩ := Option.map_eq_some_iff.mp hroute
      cases heq
      exact htext'
    · cases hroute
  by_cases hcolon : (58 : UInt8) ∈ dom
  · have hhost : joinHostPort dom (itoa n) = [] ++ 91 :: (dom ++ 93 :: (58 :: itoa n)) := by
      rw [joinHostPort_of_mem _ hcolon]
      simp [str]
    rw [hhost, bracketed_append _ List.not_mem_nil hopen hclose (by simp [hport])] at hbracketed
    exact (Option.some.inj hbracketed).symm
  · have hnone : bracketed (joinHostPort dom (itoa n)) = none := by
      rw [bracketed_eq_none, joinHostPort_of_notMem _ hcolon]
      simp [hopen, hport, str]
    cases hnone.symm.trans hbracketed

/-- What the reply is, behind the request. -/
theorem Tunnelled.reply_eq (h : Tunnelled v w i x request reply) {req : ServerRequest} {con' : Reader}
    (hreq : getServerRequest request = some (req, con')) (herr : req.err = none) :
    reply.bytes = (serveHost v req.host con' { alive := 1, cons := 1 }).written := by
  obtain ⟨host, raw, isUdp, err⟩ := req
  cases herr
  rw [h.served]
  unfold handleConnAsync
  rw [hreq]
  rfl

/-- The client writes what the tunnel replies. -/
theorem written_iff (w : Dns.World ρ) (i : Nat) (x : Query ρ) (m : Msg ρ) :
    Written w i x.msg m ↔ ∃ eid, tunnelReply w i x.msg = .ok (eid, m) := by
  constructor
  · intro h
    obtain ⟨s', hcall, hwritten⟩ := h {}
    rw [resolveRemoteOld_eq] at hcall
    rcases hreply : tunnelReply w i x.msg with errs | ⟨eid, reply⟩
    · rw [hreply] at hcall
      cases hcall
    · rw [hreply] at hcall
      dsimp only at hcall
      split_ifs at hcall
      all_goals
        cases hcall
        cases hwritten
        exact ⟨eid, rfl⟩
  · rintro ⟨eid, hreply⟩ s
    rw [resolveRemoteOld_eq, hreply]
    dsimp only
    split_ifs
    · exact ⟨_, rfl, rfl⟩
    · exact ⟨_, rfl, rfl⟩

/-- What the tunnel replies is what the reply, read once, unpacks to. -/
theorem Tunnelled.tunnelReply_iff (h : Tunnelled v w i x request reply) (m : Msg ρ) :
    (∃ eid, tunnelReply w i x.msg = .ok (eid, m)) ↔
      ∃ got, readOnce reply = .ok got ∧ unpackDNS v.codec got = some (.ok m) := by
  obtain ⟨eid, heid⟩ := h.connected
  have hframe : queryFrame w.codec (rewriteLan x.msg) = queryFrame v.codec x.rewrite.msg := by
    rw [h.codec]
    rfl
  unfold tunnelReply
  rw [heid]
  dsimp only
  rw [hframe, h.received, h.codec]
  rcases readOnce reply with err | got
  · simp
  · obtain ⟨res, hres⟩ := unpackDNS_isSome v.codec got
    rcases res with err | reply
    · simp [hres]
    · simp [hres, eq_comm]

/-- **A name is resolved through a tunnel exactly if the query has at most 186 bytes and the reply comes in one piece of
at most 3066**: then the client reads all of the reply and is answered with what the server has looked up, and
otherwise it is not. -/
theorem resolves_iff (hinv : v.codec.Inverse) (htight : v.codec.Tight) (h : Tunnelled v w i x request reply)
    (hquery : v.codec.pack x.rewrite.msg = .ok query) (hreply : v.codec.pack (lookedUp v x) = .ok buf) :
    Replied w reply i x.msg (lookedUp v x) ↔ query.length ≤ 186 ∧ AtOnce reply buf := by
  have hread : ∀ m, Written w i x.msg m ↔ ∃ got, readOnce reply = .ok got ∧ unpackDNS v.codec got = some (.ok m) :=
    fun m => (written_iff w i x m).trans (h.tunnelReply_iff m)
  by_cases hshort : query.length ≤ 186
  · -- the query arrives, and the reply is the text of what has been looked up
    obtain ⟨host, raw, isUdp, con', hreq, -, text, hroute, hunpack⟩ :=
      recovered_of_le hinv hquery hshort request h.carried
    have hbytes : reply.bytes = packDNS v.codec (lookedUp v x) := by
      rw [h.reply_eq hreq rfl]
      unfold serveHost
      dsimp only
      rw [hroute]
      exact dnsNormal_written hunpack rfl hreply
    have hatOnce : readOnce reply = .ok reply.bytes ↔ AtOnce reply buf := by
      rw [readOnce_bytes_iff, AtOnce, hbytes, length_packDNS hreply]
      exact and_congr_right fun _ => by omega
    rw [and_iff_right hshort, ← hatOnce]
    refine and_iff_left_of_imp fun hall => (hread _).mpr ⟨_, hall, ?_⟩
    rw [hbytes]
    exact unpackDNS_packDNS v.codec hinv hreply
  · -- the server has read a front of the query
    refine iff_of_false ?_ fun hboth => hshort hboth.1
    rintro ⟨hall, hwritten⟩
    obtain ⟨got, hgot, hunpack⟩ := (hread _).mp hwritten
    cases hall.symm.trans hgot
    obtain ⟨dom, n, req, con', hreq, herr, hhost, hfront, hne⟩ :=
      getServerRequest_long hquery (Nat.lt_of_not_le hshort) h.carried
    rw [h.reply_eq hreq herr] at hunpack
    rcases serveHost_written v req.host con' { alive := 1, cons := 1 } with
      hnone | ⟨text, r, q, rest, hroute, htext, hr, hsome⟩ | ⟨relayed, hsome⟩
    · rw [hnone] at hunpack
      cases hunpack
    · rw [hsome, List.nil_append] at hunpack
      have hsame := eq_of_unpackDNS_packDNS v.codec hinv hunpack
      have hmsg : x.rewrite.msg = r := replyMsg_injective rfl hr hsame
      rw [hhost] at hroute
      rw [query_of_route hquery hfront hroute, ← hmsg] at htext
      exact hne (eq_packDNS_of_front htight hquery hfront htext)
    · rw [hsome, List.nil_append] at hunpack
      cases hunpack

end Request

/-- A server that finds the address of `a`. -/
def namesServer : Tunnel.World (Nat × Nat) where
  codec := lanCodec
  lookupIP _ := .ok [[192, 0, 2, 1]]
  dial _ := none
  confirmWrite := none
  remote _ := []
  controllFunc := none

def namesRequest : Reader := ⟨[queryFrame lanCodec lanAsked], .eof⟩

def namesReply : Reader := ⟨[packDNS lanCodec lanAnswer], .eof⟩

/-- A client with a tunnel to it. -/
def namesClient : Dns.World (Nat × Nat) :=
  { lanWorld true with connectRemote := fun _ => .ok (str "e"), read := fun _ _ => readOnce namesReply }

theorem lanCodec_tight : lanCodec.Tight := by
  intro msg buf front hpack _ hunpack
  simp only [lanCodec] at hpack hunpack
  split_ifs at hpack with hasked hanswer
  · cases hpack
    split_ifs at hunpack with hone
    · exact hone
    · rw [hasked] at hunpack
      exact absurd (Except.ok.inj hunpack) (by decide)
  · cases hpack
    split_ifs at hunpack with _ htwo
    · exact absurd (Except.ok.inj hunpack).symm hasked
    · exact htwo

theorem resolves_iff_lan :
    Replied namesClient namesReply 0 (⟨⟨str "a.lan.", 1, 1⟩, (0x1234, 0x8500)⟩ : Query (Nat × Nat)).msg lanAnswer := by
  have hlink : Tunnelled namesServer namesClient 0 ⟨⟨str "a.lan.", 1, 1⟩, (0x1234, 0x8500)⟩ namesRequest namesReply :=
    ⟨rfl, ⟨_, rfl⟩, List.append_nil _, by decide +kernel, rfl⟩
  have hquery : lanCodec.pack lanAsked = .ok [1] := rfl
  have hreply : lanCodec.pack lanAnswer = .ok [2] := rfl
  exact (resolves_iff lanCodec_inverse lanCodec_tight hlink hquery hreply).mpr
    ⟨by decide, congrArg some (List.append_nil _).symm, by decide⟩

end ProxyZ.System
