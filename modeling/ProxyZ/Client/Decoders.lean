import ProxyZ.Client.Contract

/-!
# Three decoders of a profile

A reply with a profile is decoded in three places: by `GetAviableProxy`, by `ErrSoGetNew` and by
`GetProxyConfig`, which is used to test the speed of a server. Each puts the control server's own host in the
place of `0.0.0.0`, and each cuts it out of the address in a way of its own. Only `GetAviableProxy` gets it
right (`decoders_disagree`).
-/

namespace ProxyZ.Client

open Go ProxyZ.Control Method

/-- `%d`. -/
def decimal (n : Int) : Str := if n < 0 then str "-" ++ itoa n.natAbs else itoa n.toNat

/-- `RemoteAddr` of a profile whose server is a text. -/
def ProtocolConfig.remoteAddr (conf : ProtocolConfig) : Option Str :=
  match conf.server with
  | .str s => some (s ++ str ":" ++ decimal conf.serverPort)
  | _ => none

/-- What `GetProxyConfig` makes of a reply; `none` is a panic, on a status that is no text. -/
def decodeConfig (w : World) (server reply : Str) : Option (Option ProtocolConfig) :=
  match w.unmarshal reply with
  | none => some none
  | some d =>
      match d.lookup (str "status") with
      | none => some none
      | some (.str status) =>
          if status = str "ok" then
            match w.profile ((d.lookup (str "msg")).getD .null) with
            | none => some none
            | some conf =>
                let _conf := conf.at server
                -- there is no `return conf` here
                some none
          else some none
      | some _ => none

/-- `GetProxyConfig`, which also panics on an address without a slash. -/
def getProxyConfig (w : World) (host tp : Str) : Option (Option ProtocolConfig) := do
  let url := if hasPrefix host (str "http") then host else str "https://" ++ host
  let url := if contains host (str ":55443") then url else url ++ str ":55443"
  let authority ← (split (str "/") url)[1]?
  let server := (split (str ":") authority).headD []
  let (reply, err) := w.post 0 { url := url ++ str "/proxy-get", data := [(str "type", tp)] }
  if err.isSome then some none else decodeConfig w server reply

/-- The control server answers every request with a profile whose server is `0.0.0.0`. -/
structure Replies (w : World) (reply : Str) (obj : Json) (conf : ProtocolConfig) : Prop where
  post : ∀ n req, w.post n req = (reply, none)
  nonempty : reply ≠ []
  recvMsg : recvMsg w.unmarshal reply = some (obj, true)
  profile : w.profile obj = some conf
  server : conf.server.isStr (str "0.0.0.0") = true

/-- A host without scheme and port, and what `url.Parse` finds in it and in its address. -/
structure IsHost (parseUrl : Str → Except Str Url) (h : Str) : Prop where
  plain : (58 : UInt8) ∉ h
  bare : ∃ u, parseUrl h = .ok u ∧ u.scheme = [] ∧ u.port = []
  wrapped : ∃ u, parseUrl (str "https://" ++ h ++ str ":55443") = .ok u ∧ u.scheme = str "https" ∧
    u.host = h ++ str ":55443" ∧ u.port = str "55443"

/-- The profile on the host `h`. -/
def ProtocolConfig.on (conf : ProtocolConfig) (h : Str) : ProtocolConfig := { conf with server := .str h }

/-- `conf'` has the fields of `conf`, the server `h`, and so the address of the port on `h`. -/
def OnHost (h : Str) (conf conf' : ProtocolConfig) : Prop :=
  conf' = conf.on h ∧ conf'.remoteAddr = some (h ++ str ":" ++ decimal conf.serverPort)

def GetAviableProxyAgrees (w : World) (h : Str) (conf : ProtocolConfig) : Prop :=
  ∀ c tp, c.addr = wrap w.parseUrl h → c.initProfiles < c.confNum →
    ∃ conf' c', getAviableProxy w tp c = .ok (some conf', c') ∧ OnHost h conf conf'

def ErrSoGetNewAgrees (w : World) (h : Str) (conf : ProtocolConfig) : Prop :=
  ∀ c id, c.addr = wrap w.parseUrl h → ∃ conf' c', askReplacement w id c = .ok (some conf', c') ∧ OnHost h conf conf'

def GetProxyConfigAgrees (w : World) (h : Str) (conf : ProtocolConfig) : Prop :=
  ∀ tp, ∃ conf', getProxyConfig w h tp = some (some conf') ∧ OnHost h conf conf'

/-- The three decoders make the same of a reply: its profile, on the host. -/
def DecodersAgree (w : World) (h : Str) (conf : ProtocolConfig) : Prop :=
  GetAviableProxyAgrees w h conf ∧ ErrSoGetNewAgrees w h conf ∧ GetProxyConfigAgrees w h conf

section Decoders

variable {w : World} {parseUrl : Str → Except Str Url} {h reply : Str} {obj : Json} {conf : ProtocolConfig}

theorem onHost (h : Str) (conf : ProtocolConfig) : OnHost h conf (conf.on h) := ⟨rfl, rfl⟩

theorem Replies.at_eq (hw : Replies w reply obj conf) (server : Str) : conf.at server = conf.on server :=
  if_pos hw.server

theorem IsHost.wrap_eq (hh : IsHost parseUrl h) :
    wrap parseUrl h = str "https://" ++ h ++ str ":55443" ∧
      wrap parseUrl (str "https://" ++ h ++ str ":55443") = str "https://" ++ h ++ str ":55443" := by
  obtain ⟨u, hu, hscheme, hport⟩ := hh.bare
  obtain ⟨u', hu', hscheme', -, hport'⟩ := hh.wrapped
  constructor
  · unfold wrap
    rw [hu]
    dsimp only
    rw [if_pos hscheme, if_pos hport]
  · unfold wrap
    rw [hu']
    dsimp only
    rw [if_neg (by rw [hport']; decide), if_neg (by rw [hscheme']; decide)]

/-- `GetAviableProxy` finds the host behind the scheme and before the port. -/
theorem IsHost.wrapIPPort_eq (hh : IsHost parseUrl h) :
    wrapIPPort parseUrl (str "https://" ++ h ++ str ":55443") = h := by
  obtain ⟨u, hu, -, hhost, -⟩ := hh.wrapped
  unfold wrapIPPort
  rw [hu]
  dsimp only
  rw [hhost]
  show (split [58] (h ++ 58 :: str "55443")).headD [] = h
  rw [split_singleton _ hh.plain]
  rfl

/-- `ErrSoGetNew` cuts the address at its first colon, which is the one of the scheme. -/
theorem head_split_address (h : Str) :
    trim ((split (str ":") (str "https://" ++ h ++ str ":55443")).headD []) = str "https" := by
  have haddress : str "https://" ++ h ++ str ":55443" = str "https" ++ 58 :: (str "//" ++ h ++ str ":55443") := rfl
  rw [haddress]
  show trim ((split [58] (str "https" ++ 58 :: (str "//" ++ h ++ str ":55443"))).headD []) = _
  rw [split_singleton _ (by decide)]
  rfl

theorem Replies.httpsPost (hw : Replies w reply obj conf) (req : Request) (s : ClientControl) :
    httpsPost w req s = .ok ((reply, none), { s with trace := .post req reply none :: s.trace }) := by
  show Except.ok (w.post s.trace.length req, _) = _
  rw [hw.post]

theorem Replies.retryPost (hw : Replies w reply obj conf) (req : Request) (s : ClientControl) :
    retryPost w req 1 s = .ok ((reply, none), { s with trace := .post req reply none :: s.trace }) := by
  unfold Client.retryPost
  rw [bind_apply_ok _ (hw.httpsPost req s)]
  rfl

theorem getAviableProxy_agrees (hw : Replies w reply obj conf) (hh : IsHost w.parseUrl h) :
    GetAviableProxyAgrees w h conf := by
  intro c tp haddr hroom
  have hserver : wrapIPPort w.parseUrl (wrap w.parseUrl c.addr) = h := by
    rw [haddr, hh.wrap_eq.1, hh.wrap_eq.2]
    exact hh.wrapIPPort_eq
  have hfetch : fetchProxy w tp c = .ok (some (conf.on h), { c with
      initProfiles := c.initProfiles + 1
      errorid := c.errorid.insert conf.id 0
      trace := .post (proxyGet w c.addr tp) reply none :: c.trace }) := by
    unfold fetchProxy
    rw [get_bind_apply, bind_apply_ok _ rfl, bind_apply_ok _ (hw.retryPost _ _)]
    dsimp only
    rw [if_neg (by simp [hw.nonempty]), hw.recvMsg]
    dsimp only
    rw [hw.profile, hserver, ← hw.at_eq]
    rfl
  refine ⟨conf.on h, _, Eq.trans ?_ hfetch, onHost h conf⟩
  show (if (c.confNum : Int) ≤ c.initProfiles then _ else fetchProxy w tp : Call _) c = _
  rw [if_neg (not_le.mpr hroom)]

theorem errSoGetNew_result (hw : Replies w reply obj conf) (hh : IsHost w.parseUrl h) {c : ClientControl} (id : Str)
    (haddr : c.addr = wrap w.parseUrl h) :
    askReplacement w id c = .ok (some (conf.on (str "https")), { c with
      trace := .post (proxyErr w c.addr id) reply none :: c.trace }) := by
  unfold askReplacement
  rw [get_bind_apply, bind_apply_ok _ (hw.httpsPost _ c)]
  show (if reply = [] then _ else _ : Call _) _ = _
  rw [if_neg hw.nonempty, hw.recvMsg]
  dsimp only
  rw [hw.profile, haddr, hh.wrap_eq.1, hh.wrap_eq.2, head_split_address, ← hw.at_eq]
  rfl

/-- `GetProxyConfig` returns no profile, whatever it decodes. -/
theorem decodeConfig_ne (w : World) (server reply : Str) (conf : ProtocolConfig) :
    decodeConfig w server reply ≠ some (some conf) := by
  unfold decodeConfig
  split
  · nofun
  · split
    · nofun
    · split_ifs
      · split <;> nofun
      · nofun
    · nofun

theorem getProxyConfig_ne (w : World) (host tp : Str) (conf : ProtocolConfig) :
    getProxyConfig w host tp ≠ some (some conf) := by
  have hend : ∀ (answer : Str × Option Err) (server : Str),
      (if answer.2.isSome then some none else decodeConfig w server answer.1) ≠ some (some conf) := by
    intro answer server
    split_ifs
    · nofun
    · exact decodeConfig_ne w server answer.1 conf
  intro heq
  obtain ⟨authority, -, heq⟩ := Option.bind_eq_some_iff.mp heq
  exact hend _ _ heq

/-- **The decoders never agree**: `GetAviableProxy` puts the host into the profile, `ErrSoGetNew` puts `https`
there, and `GetProxyConfig` returns no profile. -/
theorem decoders_disagree (hw : Replies w reply obj conf) (hh : IsHost w.parseUrl h) :
    GetAviableProxyAgrees w h conf ∧ (ErrSoGetNewAgrees w h conf ↔ h = str "https") ∧
      ¬GetProxyConfigAgrees w h conf ∧ ¬DecodersAgree w h conf := by
  have hnone : ¬GetProxyConfigAgrees w h conf := by
    intro hagrees
    obtain ⟨conf', hconf', -⟩ := hagrees []
    exact getProxyConfig_ne w h [] conf' hconf'
  refine ⟨getAviableProxy_agrees hw hh, ⟨fun hagrees => ?_, ?_⟩, hnone, fun hagrees => hnone hagrees.2.2⟩
  · obtain ⟨conf', c', hc', hon, -⟩ := hagrees (newClientControll w h 0 false) [] rfl
    rw [errSoGetNew_result hw hh [] rfl] at hc'
    have hconf : conf.on (str "https") = conf.on h := (Option.some.inj (Prod.mk.inj (Except.ok.inj hc')).1).trans hon
    exact (Json.str.inj (congrArg ProtocolConfig.server hconf)).symm
  · rintro rfl c id haddr
    exact ⟨_, _, errSoGetNew_result hw hh id haddr, onHost _ conf⟩

end Decoders

def sampleHost : Str := str "192.0.2.9"

/-- The profile `a` with the server `0.0.0.0`. -/
def zeroReply : Str :=
  str "\x7b\"msg\":\x7b\"id\":\"a\",\"proxy-type\":\"tls\",\"server\":\"0.0.0.0\"\x7d,\"status\":\"ok\"\x7d"

def zeroObj : Json :=
  .obj [(str "id", .str (str "a")), (str "proxy-type", .str (str "tls")), (str "server", .str (str "0.0.0.0"))]

def zeroConf : ProtocolConfig where
  id := str "a"
  server := .str (str "0.0.0.0")
  proxyType := str "tls"

/-- A control server at `192.0.2.9` that hands it out. -/
def zeroWorld : World :=
  { sampleWorld fun _ _ => (zeroReply, none) with
    unmarshal := fun s => if s = zeroReply then some [(str "msg", zeroObj), (str "status", .str (str "ok"))] else none
    parseUrl := fun s =>
      if s = sampleHost then .ok ⟨[], [], []⟩ else .ok ⟨str "https", str "192.0.2.9:55443", str "55443"⟩ }

theorem replies_zeroWorld : Replies zeroWorld zeroReply zeroObj zeroConf := ⟨fun _ _ => rfl, by decide, rfl, rfl, rfl⟩

theorem isHost_sampleHost : IsHost zeroWorld.parseUrl sampleHost :=
  ⟨by decide, ⟨_, rfl, rfl, rfl⟩, ⟨_, rfl, rfl, rfl, rfl⟩⟩

theorem decoders_disagree_sample :
    GetAviableProxyAgrees zeroWorld sampleHost zeroConf ∧ ¬ErrSoGetNewAgrees zeroWorld sampleHost zeroConf := by
  obtain ⟨haviable, herr, -, -⟩ := decoders_disagree replies_zeroWorld isHost_sampleHost
  exact ⟨haviable, fun h => absurd (herr.mp h) (by decide)⟩

/-- The replacement is at the server `https`, and the speed test gets no profile. -/
theorem not_decodersAgree :
    Replies zeroWorld zeroReply zeroObj zeroConf ∧ IsHost zeroWorld.parseUrl sampleHost ∧
      (∃ c', askReplacement zeroWorld (str "a") (newClientControll zeroWorld sampleHost 1 false) =
        .ok (some (zeroConf.on (str "https")), c')) ∧
      getProxyConfig zeroWorld sampleHost (str "tls") = some none ∧ ¬DecodersAgree zeroWorld sampleHost zeroConf := by
  refine ⟨replies_zeroWorld, isHost_sampleHost, ⟨_, rfl⟩, rfl, fun hagrees => ?_⟩
  obtain ⟨conf', hconf', -⟩ := hagrees.2.2 (str "tls")
  exact getProxyConfig_ne _ _ _ conf' hconf'

end ProxyZ.Client
