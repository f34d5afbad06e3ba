import ProxyZ.Go.Base64
import ProxyZ.Go.Text
import ProxyZ.Socks5.Authority
import ProxyZ.System.Path

/-!
# The HTTP proxy

`Proxy.ServeHTTP` asks for a user and a password if both are set, refuses the hosts to avoid, forwards plain HTTP,
and takes over the connection of a CONNECT request, which then goes down the tunnel as a SOCKS request does.

The credentials are those of `Basic` authentication, and the user ends at the first colon. So a request passes
exactly if it brings the user and the password and the user has no colon (`passes_iff`).
-/

namespace ProxyZ.System

open Go Method ProxyZ.Client ProxyZ.Socks5

/-- The fields of `Proxy` that `ServeHTTP` looks at. -/
structure Proxy where
  authUser : Str := []
  authPass : Str := []
  avoid : Str := []

/-- What `ServeHTTP` looks at in a request. A header that is missing is empty. -/
structure HttpRequest where
  method : Str
  scheme : Str := []
  host : Str
  proxyAuthorization : Str := []

/-- What taking over the connection gives. -/
inductive Hijack
  | unsupported
  | failed (err : Err)
  | taken

/-- What becomes of a request: it is answered with a status and a text, forwarded, or its connection is handed to
`HandleBody`. -/
inductive Handled
  | answered (status : Nat) (text : Str)
  | forwarded
  | tunneled (host : Str)
  deriving DecidableEq

/-- `http.Error` with the text of the status. -/
def refuse (text : String) (status : Nat) : Handled := .answered status (str text ++ str "\n")

def parseBasicProxyAuth (authz : Str) : Option (Str × Str) :=
  if hasPrefix authz (str "Basic ") then
    match decodeString (authz.drop (str "Basic ").length) with
    | .error _ => none
    | .ok cs => cut (str ":") cs
  else none

section Proxy

variable (p : Proxy) (hijack : Hijack) (r : HttpRequest)

def avoids : Bool := p.avoid ≠ [] && contains r.host p.avoid

def handleHTTP : Handled := if avoids p r then refuse "Forbidden" 405 else .forwarded

/-- `handleTunneling`. Behind `WriteHeader` the status stays. -/
def handleTunneling : Handled :=
  if avoids p r then refuse "Forbidden" 405
  else if r.method ≠ str "CONNECT" then refuse "Method Not Allowed" 405
  else
    match hijack with
    | .unsupported => refuse "Hijacking not supported" 200
    | .failed err => .answered 200 (err.error ++ str "\n")
    | .taken => .tunneled r.host

def unauthorized : Bool :=
  p.authUser ≠ [] && p.authPass ≠ [] &&
    match parseBasicProxyAuth r.proxyAuthorization with
    | none => true
    | some (user, pass) => user ≠ p.authUser || pass ≠ p.authPass

/-- `ServeHTTP`. Nothing is ever sent to `WaitClose`. -/
def serveHTTP : Handled :=
  if unauthorized p r then refuse "Proxy Authentication Required" 407
  else if r.scheme = str "http" then handleHTTP p r
  else handleTunneling p hijack r

end Proxy

/-- A request to the HTTP proxy, with both ends of the tunnel; `HandleBody` is that of `listenHttpProxy`. -/
def httpCon {ρ : Type} (o : Outside ρ) (p : Proxy) (hijack : Hijack) (r : HttpRequest) (payload : Bytes) :
    Call (Handled × Trip) :=
  match serveHTTP p hijack r with
  | .tunneled host => do
      let trip ← onBodyBeforeGetRemote o false (hostToRaw host (-1)) host payload
      return (.tunneled host, trip)
  | handled => return (handled, {})

/-! ### Credentials -/

section Credentials

variable {p : Proxy} {r : HttpRequest} {hijack : Hijack}

/-- The text of `Basic` authentication. -/
def basic (user pass : Str) : Str := str "Basic " ++ encodeToString (user ++ str ":" ++ pass)

theorem parseBasicProxyAuth_eq_some_iff {authz user pass : Str} :
    parseBasicProxyAuth authz = some (user, pass) ↔
      (58 : UInt8) ∉ user ∧ ∃ t, authz = str "Basic " ++ t ∧ decodeString t = .ok (user ++ str ":" ++ pass) := by
  have hjoin : user ++ str ":" ++ pass = user ++ 58 :: pass := List.append_assoc _ _ _
  rw [hjoin]
  unfold parseBasicProxyAuth
  constructor
  · intro h
    split_ifs at h with hpre
    obtain ⟨t, rfl⟩ := hasPrefix_iff.mp hpre
    rw [List.drop_left] at h
    rcases ht : decodeString t with n | cs
    · rw [ht] at h
      cases h
    · rw [ht] at h
      obtain ⟨rfl, huser⟩ := cut_singleton_eq_some_iff.mp h
      exact ⟨huser, t, rfl, ht⟩
  · rintro ⟨huser, t, rfl, ht⟩
    rw [if_pos (hasPrefix_append _ _), List.drop_left, ht]
    exact cut_singleton_eq_some_iff.mpr ⟨rfl, huser⟩

/-- **The user and the password come back** exactly if the user has no colon. -/
theorem parseBasicProxyAuth_basic (user pass : Str) :
    parseBasicProxyAuth (basic user pass) = some (user, pass) ↔ (58 : UInt8) ∉ user := by
  rw [parseBasicProxyAuth_eq_some_iff]
  exact and_iff_left ⟨_, rfl, decodeString_encodeToString _⟩

/-- The request is not answered for its credentials. -/
def Passes (p : Proxy) (r : HttpRequest) : Prop :=
  p.authUser = [] ∨ p.authPass = [] ∨
    (58 : UInt8) ∉ p.authUser ∧
      ∃ t, r.proxyAuthorization = str "Basic " ++ t ∧ decodeString t = .ok (p.authUser ++ str ":" ++ p.authPass)

theorem not_unauthorized_iff : unauthorized p r = false ↔ Passes p r := by
  unfold Passes
  rw [← parseBasicProxyAuth_eq_some_iff]
  unfold unauthorized
  by_cases huser : p.authUser = []
  · simp [huser]
  by_cases hpass : p.authPass = []
  · simp [hpass]
  rcases parseBasicProxyAuth r.proxyAuthorization with _ | ⟨user, pass⟩
  · simp [huser, hpass]
  · simp [huser, hpass]

/-- **A request is answered with 407 exactly if it does not pass**, and with a user that has a colon no request
passes. -/
theorem passes_iff (p : Proxy) (hijack : Hijack) (r : HttpRequest) :
    (serveHTTP p hijack r = refuse "Proxy Authentication Required" 407 ↔ ¬Passes p r) ∧
      ((∃ authz, Passes p { r with proxyAuthorization := authz }) ↔
        p.authUser = [] ∨ p.authPass = [] ∨ (58 : UInt8) ∉ p.authUser) := by
  have hstatus : ∀ text status, status ≠ 407 → refuse text status ≠ refuse "Proxy Authentication Required" 407 :=
    fun text status hne h => hne (Handled.answered.inj h).1
  refine ⟨⟨fun h hpasses => ?_, fun h => ?_⟩, ?_, ?_⟩
  · revert h
    unfold serveHTTP handleHTTP handleTunneling
    rw [not_unauthorized_iff.mpr hpasses, if_neg Bool.false_ne_true]
    split_ifs
    · exact hstatus _ _ (by decide)
    · exact nofun
    · exact hstatus _ _ (by decide)
    · exact hstatus _ _ (by decide)
    · cases hijack with
      | unsupported => exact hstatus _ _ (by decide)
      | failed err => exact fun h => absurd (Handled.answered.inj h).1 (by decide)
      | taken => exact nofun
  · rw [← not_unauthorized_iff, Bool.not_eq_false] at h
    exact if_pos h
  · rintro ⟨authz, h⟩
    exact h.imp_right fun h => h.imp_right And.left
  · intro h
    refine ⟨basic p.authUser p.authPass, h.imp_right fun h => h.imp_right fun huser => ⟨huser, _, rfl, ?_⟩⟩
    exact decodeString_encodeToString _

end Credentials

/-! ### CONNECT -/

section Connect

variable {ρ : Type} {o : Outside ρ} {h : TargetHost} {p : TargetPort}

/-- The authority at its first colon. -/
theorem authority_split (h : TargetHost) (p : TargetPort) :
    ∃ a rest, authority h p = a ++ 58 :: rest ∧ (58 : UInt8) ∉ a ∧ a.length ≤ 255 ∧
      (a ≠ str "c" ∨ (47 : UInt8) ∉ rest) := by
  have hdigits : (47 : UInt8) ∉ p.digits := fun hmem =>
    absurd (List.all_eq_true.mp p.decimal _ hmem) (by decide)
  cases h with
  | name text colon len => exact ⟨text, p.digits, List.append_assoc _ _ _, colon, len, Or.inr hdigits⟩
  | ipv4 ip len =>
    refine ⟨dotted ip, p.digits, List.append_assoc _ _ _, notMem_dotted (by decide) (by decide) len, ?_, Or.inr hdigits⟩
    exact (length_dotted_le len).trans (by decide)
  | ipv6 text colon len =>
    obtain ⟨pre, post, rfl, hpre⟩ := List.eq_append_cons_of_mem colon
    refine ⟨str "[" ++ pre, post ++ str "]:" ++ p.digits, ?_, ?_, ?_, Or.inl fun hc => ?_⟩
    · show str "[" ++ (pre ++ 58 :: post) ++ str "]" ++ str ":" ++ p.digits = _
      rw [show str "]:" = str "]" ++ str ":" from rfl]
      simp only [List.append_assoc, List.cons_append]
    · rw [List.mem_append, not_or]
      exact ⟨by decide, hpre⟩
    · rw [List.length_append, List.length_cons] at len
      rw [List.length_append, show (str "[").length = 1 from rfl]
      omega
    · exact absurd (List.cons.inj hc).1 (by decide)

/-- The server reads a target as some address, and that is the address of the target exactly if it has no
brackets. -/
theorem reads_authority (h : TargetHost) (p : TargetPort) :
    ∃ a port, (∀ payload, Reads (hostToRaw (authority h p) (-1) ++ payload) (joinHostPort a (itoa port))
        (hostToRaw (authority h p) (-1)).length) ∧ (58 : UInt8) ∉ a ∧
      hasPrefix (authority h p) (str "c://") = false ∧
      (joinHostPort a (itoa port) = joinHostPort h.text (itoa p.port) ↔ ¬h.Bracketed) := by
  obtain ⟨a, rest, hauthority, hcolon, hlen, hcode⟩ := authority_split h p
  have hrange : ((atoi rest).1 % 65536).toNat < 65536 := by omega
  obtain ⟨port, hport⟩ : ∃ port : UInt16, port.toNat = ((atoi rest).1 % 65536).toNat :=
    ⟨UInt16.ofNatLT _ hrange, rfl⟩
  have hraw : hostToRaw (authority h p) (-1) = hostToRaw a port.toNat := by
    rw [hauthority, hostToRaw_split hcolon, hostToRaw_port, hport, Nat.mod_eq_of_lt hrange]
  have hreads : ∀ payload, Reads (hostToRaw (authority h p) (-1) ++ payload) (joinHostPort a (itoa port.toNat))
      (hostToRaw (authority h p) (-1)).length := by
    intro payload
    have hsize : (hostToRaw a port.toNat).length = a.length + 7 := by
      rw [hostToRaw_port]
      simp
    rw [hraw, hsize]
    exact reads_hostToRaw hlen port payload
  refine ⟨a, port.toNat, hreads, hcolon, ?_, ?_⟩
  · rw [← Bool.not_eq_true, hasPrefix_iff, hauthority]
    rintro ⟨t, ht⟩
    have hcut := congrArg (cut [58]) ht
    rw [show str "c://" ++ t = str "c" ++ 58 :: (str "//" ++ t) from rfl, cut_singleton _ (by decide),
      cut_singleton _ hcolon] at hcut
    obtain ⟨rfl, rfl⟩ := Prod.mk.inj (Option.some.inj hcut)
    exact hcode.elim (fun hne => hne rfl) fun hslash => hslash List.mem_cons_self
  · have hforwarded : Forwarded h p → joinHostPort a (itoa port.toNat) = joinHostPort h.text (itoa p.port) := by
      intro hforwarded
      obtain ⟨s, hs⟩ : ∃ s : Reader, s.bytes = hostToRaw (authority h p) (-1) ++ [] := ⟨⟨[_], .eof⟩, rfl⟩
      obtain ⟨r, s', hserver, -, hhost⟩ := hforwarded [] s hs
      obtain ⟨_, _, _, _, -, -, hserver', -⟩ := getServerRequest_of_reads (hreads []) hs
      cases hserver.symm.trans hserver'
      exact hhost
    constructor
    · intro heq hbracketed
      cases h with
      | name text colon len => exact hbracketed
      | ipv4 ip len => exact hbracketed
      | ipv6 text colon len =>
        refine not_forwarded_ipv6 colon len p fun payload s hs => ?_
        obtain ⟨_, _, _, s', -, -, hserver, -⟩ := getServerRequest_of_reads (hreads payload) hs
        exact ⟨_, s', hserver, rfl, heq⟩
    · intro hplain
      apply hforwarded
      cases h with
      | name text colon len => exact forwarded_of_noColon colon len rfl
      | ipv4 ip len =>
        exact forwarded_of_noColon (notMem_dotted (by decide) (by decide) len)
          ((length_dotted_le len).trans (by decide)) rfl
      | ipv6 text colon len => exact absurd trivial hplain

/-- The way to `HandleBody`. -/
theorem tunneled_of_serveHTTP {proxy : Proxy} {hijack : Hijack} {r : HttpRequest} {host : Str}
    (h : serveHTTP proxy hijack r = .tunneled host) :
    Passes proxy r ∧ avoids proxy r = false ∧ hijack = .taken := by
  unfold serveHTTP handleHTTP handleTunneling at h
  split_ifs at h with hunauthorized hscheme havoid havoid hmethod
  · exact nomatch h
  · exact nomatch h
  · exact nomatch h
  · exact nomatch h
  · refine ⟨not_unauthorized_iff.mp (Bool.eq_false_iff.mpr hunauthorized), Bool.eq_false_iff.mpr havoid, ?_⟩
    cases hijack with
    | unsupported => cases h
    | failed err => cases h
    | taken => rfl

/-- **A CONNECT request is served exactly if** it passes, its host is not to be avoided and has no brackets, the
connection can be taken over, and the server reaches the host with its confirmation in one piece. -/
theorem httpCon_serves_iff {r : HttpRequest} (proxy : Proxy) (hijack : Hijack) (hmethod : r.method = str "CONNECT")
    (hscheme : r.scheme ≠ str "http") (hhost : r.host = authority h p) (payload : Bytes) {c c' : ClientControl}
    {s : Session} (hsession : connectRemote o.client c = .ok (s, c')) (herr : s.err = none) :
    ∃ handled t c₁, httpCon o proxy hijack r payload c = .ok ((handled, t), c₁) ∧
      (Serves o (joinHostPort h.text (itoa p.port)) payload (o.server.remote (joinHostPort h.text (itoa p.port))) t ↔
        Passes proxy r ∧ avoids proxy r = false ∧ hijack = .taken ∧ ¬h.Bracketed ∧
          Reaches o.server (joinHostPort h.text (itoa p.port)) ∧ KeepsConfirm o (joinHostPort h.text (itoa p.port))) := by
  by_cases htunnel : Passes proxy r ∧ avoids proxy r = false ∧ hijack = .taken
  · obtain ⟨hpasses, havoids, rfl⟩ := htunnel
    have hserve : serveHTTP proxy .taken r = .tunneled r.host := by
      unfold serveHTTP handleTunneling
      rw [not_unauthorized_iff.mpr hpasses, if_neg Bool.false_ne_true, if_neg hscheme, havoids,
        if_neg Bool.false_ne_true, if_neg (not_not.mpr hmethod)]
    obtain ⟨a, port, hreads, hcolon, hcode, hsame⟩ := reads_authority h p
    have hdns : hasPrefix a (str "dns://") = false := by
      rw [← Bool.not_eq_true, hasPrefix_iff]
      exact fun hpre => hcolon (hpre.subset (by decide))
    have hraw : 4 ≤ (hostToRaw (authority h p) (-1)).length := by
      unfold hostToRaw
      simp
    obtain ⟨t, c₁, hres, hserves⟩ := onBodyBeforeGetRemote_serves false payload hreads (route_joinHostPort port hdns)
      hcode hraw hsession herr
    refine ⟨.tunneled r.host, t, c₁, ?_, ?_⟩
    · unfold httpCon
      rw [hserve]
      dsimp only
      rw [hhost, bind_apply_ok _ hres]
      rfl
    · rw [and_iff_right hpasses, and_iff_right havoids, and_iff_right rfl, ← hsame]
      exact hserves _
  · refine ⟨serveHTTP proxy hijack r, {}, c, ?_, iff_of_false ?_ fun h => htunnel ⟨h.1, h.2.1, h.2.2.1⟩⟩
    · unfold httpCon
      cases hserve : serveHTTP proxy hijack r with
      | answered status text => rfl
      | forwarded => rfl
      | tunneled host => exact absurd (tunneled_of_serveHTTP hserve) htunnel
    · rintro ⟨-, -, _, hnone, -⟩
      cases hnone

/-- A request for `a.io:443`, with the credentials. -/
def plainRequest : HttpRequest where
  method := str "CONNECT"
  host := str "a.io:443"
  proxyAuthorization := basic (str "user") (str "pass")

theorem httpCon_serves_iff_plain : ∃ handled t c₁,
    httpCon plainOutside ⟨str "user", str "pass", []⟩ .taken plainRequest (str "GET /") plainClient =
      .ok ((handled, t), c₁) ∧
    (Serves plainOutside (joinHostPort (str "a.io") (itoa port443.port)) (str "GET /")
        (plainOutside.server.remote (joinHostPort (str "a.io") (itoa port443.port))) t ↔
      Passes ⟨str "user", str "pass", []⟩ plainRequest ∧ avoids ⟨str "user", str "pass", []⟩ plainRequest = false ∧
        Hijack.taken = .taken ∧ ¬(TargetHost.name (str "a.io") (by decide) (by decide)).Bracketed ∧
        Reaches plainOutside.server (joinHostPort (str "a.io") (itoa port443.port)) ∧
        KeepsConfirm plainOutside (joinHostPort (str "a.io") (itoa port443.port))) :=
  httpCon_serves_iff (h := .name (str "a.io") (by decide) (by decide)) (p := port443) _ _ rfl (by decide) rfl _ rfl rfl

end Connect

end ProxyZ.System
