import ProxyZ.Tunnel.Handle

/-!
# Which streams are served robustly

A stream is served robustly if the call ends without a panic, calls `DelCon` once and leaves the counter of
living connections as it was. A stream without a request always is, and so is every host that is dialed
(`robust_iff_served`).

Three streams are not: a redirect request for a controll host, as `ControllFunc` is never set and nothing else
closes the connection; a redirect request for a DNS query without brackets, where the split is indexed out of
range; and a query whose reply cannot be packed, where `Error()` of a nil error is called. Any other stream is
(`robust_iff`). The hosts of the other requests cannot pass for the first two (`hasPrefix_joinHostPort`).
-/

namespace ProxyZ.Tunnel

open Go ProxyZ.Socks5 ProxyZ.Dns

variable {ρ : Type} (w : World ρ)

/-- The stream is served robustly. -/
def Robust (con : Reader) (alive : Int) (cons : Nat) : Prop :=
  (handleConnAsync w con { alive, cons }).panicked = false ∧
    (handleConnAsync w con { alive, cons }).delCons = 1 ∧
    (handleConnAsync w con { alive, cons }).alive = alive

/-- A query that is no message, has no question or has a reply that can be packed. -/
def Answered (query : Str) : Prop :=
  ∀ r q qs, unpackDNS w.codec query = some (.ok r) → r.question = q :: qs →
    ∃ buf, w.codec.pack (replyMsg w.lookupIP r q) = .ok buf

/-! ### The three ways to serve a host -/

section Hosts

variable {w}

theorem packDNS_eq_nil {codec : Codec ρ} {msg : Msg ρ} : packDNS codec msg = [] ↔ ∀ buf, codec.pack msg ≠ .ok buf := by
  unfold packDNS
  cases codec.pack msg with
  | error err => simp
  | ok buf => simp [str]

theorem dnsNormal_delCons (query : Str) (s : Conn) :
    (dnsNormal w query s).delCons = s.delCons + 1 ∧ (dnsNormal w query s).alive = s.alive := by
  unfold dnsNormal
  split
  · exact ⟨rfl, rfl⟩
  · exact ⟨rfl, rfl⟩
  · split_ifs
    · exact ⟨rfl, rfl⟩
    · dsimp only
      split <;> exact ⟨rfl, rfl⟩

theorem replyDNS_cases (query : Str) :
    (∃ err, replyDNS w.codec w.lookupIP query = some ([], some err) ∧ Answered w query) ∨
      ∃ r q qs, unpackDNS w.codec query = some (.ok r) ∧ r.question = q :: qs ∧
        replyDNS w.codec w.lookupIP query = some (packDNS w.codec (replyMsg w.lookupIP r q), none) := by
  obtain ⟨res, hres⟩ := unpackDNS_isSome w.codec query
  unfold replyDNS
  rw [hres]
  cases res with
  | error err =>
    refine Or.inl ⟨err, rfl, ?_⟩
    intro r q qs hr
    rw [hres] at hr
    cases hr
  | ok r =>
    cases hq : r.question with
    | nil =>
      refine Or.inl ⟨.text (str "no question in dns req"), ?_, ?_⟩
      · simp only [Option.bind_eq_bind, Option.bind_some, hq]
        rfl
      · intro r' q qs hr hcons
        rw [hres] at hr
        cases hr
        rw [hq] at hcons
        cases hcons
    | cons q qs =>
      refine Or.inr ⟨r, q, qs, rfl, hq, ?_⟩
      simp only [Option.bind_eq_bind, Option.bind_some, hq]
      rfl

theorem dnsNormal_panicked {query : Str} {s : Conn} (hs : s.panicked = false) :
    (dnsNormal w query s).panicked = false ↔ Answered w query := by
  unfold dnsNormal
  obtain ⟨err, hreply, hanswered⟩ | ⟨r, q, qs, hr, hq, hreply⟩ := replyDNS_cases (w := w) query
  · rw [hreply]
    exact ⟨fun _ => hanswered, fun _ => hs⟩
  · rw [hreply]
    dsimp only
    split_ifs with hnil
    · refine ⟨fun h => Bool.noConfusion h, fun hanswered => ?_⟩
      obtain ⟨buf, hbuf⟩ := hanswered r q qs hr hq
      exact absurd hbuf (packDNS_eq_nil.mp hnil buf)
    · obtain ⟨res, hres⟩ := unpackDNS_isSome w.codec (packDNS w.codec (replyMsg w.lookupIP r q))
      rw [hres]
      refine ⟨fun _ => ?_, fun _ => hs⟩
      intro r' q' qs' hr' hq'
      cases hr.symm.trans hr'
      cases hq.symm.trans hq'
      by_contra hnone
      exact hnil (packDNS_eq_nil.mpr fun buf hbuf => hnone ⟨buf, hbuf⟩)

theorem tcpNormal_spec (host : Str) (con : Reader) (s : Conn) :
    (tcpNormal w host con s).panicked = s.panicked ∧ (tcpNormal w host con s).delCons = s.delCons + 1 ∧
      (tcpNormal w host con s).alive = s.alive := by
  unfold tcpNormal
  split
  · exact ⟨rfl, rfl, rfl⟩
  · split <;> exact ⟨rfl, rfl, rfl⟩

/-- A host that is served without a panic and with one `DelCon`. -/
def Served (w : World ρ) (host : Str) : Prop :=
  match route host with
  | none => False
  | some .controll => ∃ f, w.controllFunc = some f ∧ f host = 1
  | some (.dns query) => Answered w query
  | some .tcp => True

theorem serveHost_iff (host : Str) (con : Reader) {s : Conn} (hs : s.panicked = false) :
    ((serveHost w host con s).panicked = false ∧ (serveHost w host con s).delCons = s.delCons + 1 ∧
      (serveHost w host con s).alive = s.alive) ↔ Served w host := by
  unfold serveHost Served
  cases route host with
  | none => exact ⟨fun h => Bool.noConfusion h.1, False.elim⟩
  | some r =>
    cases r with
    | controll =>
      dsimp only
      cases w.controllFunc with
      | none =>
        constructor
        · rintro ⟨-, hdel, -⟩
          exact absurd hdel (Nat.ne_of_lt (Nat.lt_succ_self _))
        · rintro ⟨f, hf, -⟩
          cases hf
      | some f =>
        constructor
        · rintro ⟨-, hdel, -⟩
          exact ⟨f, rfl, Nat.add_left_cancel hdel⟩
        · rintro ⟨g, hg, hone⟩
          cases hg
          exact ⟨hs, congrArg _ hone, rfl⟩
    | dns query =>
      obtain ⟨hdel, halive⟩ := dnsNormal_delCons (w := w) query s
      exact ⟨fun h => (dnsNormal_panicked hs).mp h.1, fun h => ⟨(dnsNormal_panicked hs).mpr h, hdel, halive⟩⟩
    | tcp =>
      obtain ⟨hpanic, hdel, halive⟩ := tcpNormal_spec (w := w) host con s
      exact ⟨fun _ => trivial, fun _ => ⟨hpanic.trans hs, hdel, halive⟩⟩

end Hosts

/-- **A stream is served robustly if and only if the host it asks for is served**, and a stream without a
request is always. -/
theorem robust_iff_served (con : Reader) (alive : Int) (cons : Nat) :
    Robust w con alive cons ↔ ∀ host n, Reads con.bytes host n → Served w host := by
  unfold Robust handleConnAsync
  obtain ⟨host, n, hreads⟩ | ⟨q, con', hreq, herr⟩ := decided con
  · obtain ⟨raw, rest, isUdp, con', -, -, hreq, -⟩ := getServerRequest_of_reads hreads rfl
    have hunique : ∀ host' n', Reads con.bytes host' n' → host' = host := by
      intro host' n' hreads'
      obtain ⟨_, _, _, _, -, -, hreq', -⟩ := getServerRequest_of_reads hreads' rfl
      rw [hreq] at hreq'
      cases hreq'
      rfl
    rw [hreq]
    dsimp only
    have hserve := serveHost_iff (w := w) host con' (s := { alive := alive + 1, cons := cons + 1 }) rfl
    constructor
    · rintro ⟨hpanic, hdel, halive⟩ host' n' hreads'
      rw [hunique host' n' hreads']
      exact hserve.mp ⟨hpanic, hdel, Int.sub_eq_iff_eq_add.mp halive⟩
    · intro hserved
      obtain ⟨hpanic, hdel, halive⟩ := hserve.mpr (hserved host n hreads)
      exact ⟨hpanic, hdel, Int.sub_eq_iff_eq_add.mpr halive⟩
  · rw [hreq]
    obtain ⟨err, herr⟩ := Option.ne_none_iff_exists'.mp herr
    obtain ⟨host, raw, isUdp, qerr⟩ := q
    cases herr
    refine ⟨fun _ host' n' hreads' => ?_, fun _ => ⟨rfl, rfl, rfl⟩⟩
    obtain ⟨_, _, _, _, -, -, hreq', -⟩ := getServerRequest_of_reads hreads' rfl
    rw [hreq] at hreq'
    cases hreq'

/-! ### The condition on the bytes of the stream -/

/-- The stream begins with a redirect request for `host`. -/
def Redirects (b : Bytes) (host : Str) : Prop :=
  ∃ ver cmd rsv typ len rest, b = [ver, cmd, rsv, typ] ++ ([len] ++ (host ++ rest)) ∧ HeaderOk ver cmd ∧
    typ &&& addrMask = typeRedirect ∧ host.length = len.toNat

/-- The stream asks for nothing that the server fails at. -/
structure Harmless (b : Bytes) : Prop where
  controll : ∀ host, Redirects b host → hasPrefix host (str "R://") = true →
    ∃ f, w.controllFunc = some f ∧ f host = 1
  brackets : ∀ host, Redirects b host → hasPrefix host (str "dns://") = true → (91 : UInt8) ∈ host
  reply : ∀ host n query, Reads b host n → route host = some (.dns query) → Answered w query

/-- A joined address never begins with a scheme. -/
theorem hasPrefix_joinHostPort (host : Str) (n : Nat) {scheme : Str} (hscheme : (58 : UInt8) ∉ scheme)
    (hne : scheme ≠ []) (hopen : (91 : UInt8) ∉ scheme) :
    hasPrefix (joinHostPort host (itoa n)) (scheme ++ str "://") = false := by
  rw [Bool.eq_false_iff, ne_eq, hasPrefix_iff]
  rintro ⟨t, ht⟩
  by_cases hcolon : (58 : UInt8) ∈ host
  · rw [joinHostPort_of_mem _ hcolon] at ht
    cases scheme with
    | nil => exact hne rfl
    | cons c scheme =>
      have hc : c = 91 := (List.cons.inj ht).1
      exact hopen (hc ▸ List.mem_cons_self)
  · rw [joinHostPort_of_notMem _ hcolon] at ht
    have hleft : scheme ++ 58 :: (str "//" ++ t) = scheme ++ str "://" ++ t := by
      rw [List.append_assoc]
      rfl
    have hright : host ++ 58 :: itoa n = host ++ str ":" ++ itoa n := by
      rw [List.append_assoc]
      rfl
    have hcut := congrArg (cut [58]) (hleft.trans (ht.trans hright.symm))
    rw [cut_singleton _ hscheme, cut_singleton _ hcolon] at hcut
    have hport : str "//" ++ t = itoa n := (Prod.mk.inj (Option.some.inj hcut)).2
    have hslash : (47 : UInt8) ∈ itoa n := by
      rw [← hport]
      exact List.mem_cons_self
    exact absurd (isDigit_of_mem_itoa hslash) (by decide)

theorem Reads.redirects_or {b host : Bytes} {n : Nat} (h : Reads b host n) :
    Redirects b host ∨ ∃ addr port, host = joinHostPort addr (itoa port) := by
  cases h with
  | ipv4 => exact Or.inr ⟨_, _, rfl⟩
  | ipv6 => exact Or.inr ⟨_, _, rfl⟩
  | domain => exact Or.inr ⟨_, _, rfl⟩
  | redirect hok htyp hlen => exact Or.inl ⟨_, _, _, _, _, _, rfl, hok, htyp, hlen⟩

/-- Only a redirect request has a host that begins with a scheme. -/
theorem Reads.redirects {b host : Bytes} {n : Nat} (h : Reads b host n) (scheme : Str) (hscheme : (58 : UInt8) ∉ scheme)
    (hne : scheme ≠ []) (hopen : (91 : UInt8) ∉ scheme) (hpre : hasPrefix host (scheme ++ str "://") = true) :
    Redirects b host := by
  rcases Reads.redirects_or h with hred | ⟨addr, port, rfl⟩
  · exact hred
  · rw [hasPrefix_joinHostPort addr port hscheme hne hopen] at hpre
    exact Bool.noConfusion hpre

theorem Redirects.reads {b host : Bytes} (h : Redirects b host) : ∃ n, Reads b host n := by
  obtain ⟨ver, cmd, rsv, typ, len, rest, rfl, hok, htyp, hlen⟩ := h
  exact ⟨_, .redirect hok htyp hlen⟩

theorem harmless_iff (b : Bytes) : Harmless w b ↔ ∀ host n, Reads b host n → Served w host := by
  constructor
  · intro h host n hreads
    unfold Served
    by_cases hR : hasPrefix host (str "R://") = true
    · rw [route_controll hR]
      exact h.controll host (Reads.redirects hreads (str "R") (by decide) (by decide) (by decide) hR) hR
    · by_cases hdns : isDns host = true
      · have hroute := route_dns hR hdns
        cases hq : bracketed host with
        | some query =>
          rw [hq] at hroute
          rw [hroute]
          exact h.reply host n query hreads hroute
        | none =>
          have hno := bracketed_eq_none.mp hq
          rcases Bool.or_eq_true_iff.mp hdns with hpre | hpre
          · exact absurd (h.brackets host
              (Reads.redirects hreads (str "dns") (by decide) (by decide) (by decide) hpre) hpre) hno
          · exact absurd ((hasPrefix_iff.mp hpre).subset (by decide : (91 : UInt8) ∈ str "[dns://")) hno
      · rw [route_tcp hR hdns]
        trivial
  · intro h
    refine ⟨?_, ?_, ?_⟩
    · intro host hred hR
      obtain ⟨n, hreads⟩ := Redirects.reads hred
      have hserved := h host n hreads
      unfold Served at hserved
      rw [route_controll hR] at hserved
      exact hserved
    · intro host hred hdns
      obtain ⟨n, hreads⟩ := Redirects.reads hred
      by_contra hno
      have hserved := h host n hreads
      have hR : hasPrefix host (str "R://") ≠ true := by
        intro hR
        obtain ⟨t, rfl⟩ := hasPrefix_iff.mp hR
        exact absurd hdns (by simp [str])
      have hroute : route host = none := by
        rw [route_dns hR (by rw [isDns, hdns, Bool.true_or]), bracketed_eq_none.mpr hno]
        rfl
      unfold Served at hserved
      rw [hroute] at hserved
      exact hserved
    · intro host n query hreads hroute
      have hserved := h host n hreads
      unfold Served at hserved
      rw [hroute] at hserved
      exact hserved

/-- **A stream is served robustly exactly if it is harmless.** -/
theorem robust_iff (con : Reader) (alive : Int) (cons : Nat) : Robust w con alive cons ↔ Harmless w con.bytes := by
  rw [robust_iff_served, harmless_iff]

/-! ### Streams that are not -/

/-- A server as it runs, with a resolver that finds nothing and hosts that cannot be dialed. -/
def plainWorld : World Unit where
  codec := { pack := fun _ => .error (.text (str "pack")), unpack := fun _ => .error (.text (str "unpack")) }
  lookupIP := fun _ => .error (.text (str "no such host"))
  dial := fun _ => some (.text (str "connection refused"))
  confirmWrite := none
  remote := fun _ => []
  controllFunc := none

def redirectRequest (host : Str) : Bytes := [5, 1, 0, 9, UInt8.ofNat host.length] ++ host

/-- A controll host keeps the connection, and a DNS query without brackets is a panic. -/
theorem not_robust :
    ¬Robust plainWorld ⟨[redirectRequest (str "R://x")], .eof⟩ 0 0 ∧
      ¬Robust plainWorld ⟨[redirectRequest (str "dns://x")], .eof⟩ 0 0 := by
  unfold Robust
  constructor
  · decide +kernel
  · decide +kernel

end ProxyZ.Tunnel
