import ProxyZ.Control.Message
import ProxyZ.Go.Chan
import ProxyZ.Go.Dict
import ProxyZ.Go.Program

/-!
# The client controller

`ClientControl` keeps a pool of tunnel profiles in a channel, one session slot for each tunnel, and two
records of errors: the counters `errCount` and `routeErrCount` and the table `errorid` of errors for each
profile. The methods below are those that fill the pool, build sessions from it, count errors and replace
profiles.

Everything outside the client is a `World`: what the control server answers, whether a dial succeeds,
whether a session is still open, in which order Go ranges over a map and runs goroutines. Each question is
put with the number of questions before it, so that the same question may get another answer next time,
and is recorded in `trace`. The methods run one at a time; the goroutines of `initializationTunnels` run
to their end one after the other, in any order.
-/

namespace ProxyZ.Client

open Go ProxyZ.Control

/-- A tunnel profile, `base.ProtocolConfig`, with the fields the controller looks at; `Server` is any JSON
value. -/
structure ProtocolConfig where
  id : Str
  server : Json
  proxyType : Str
  serverPort : Int := 0

/-- A session to a tunnel: an smux session, or a QUIC connection where `quic` holds. -/
structure SmuxClient where
  quic : Bool
  eid : Str
  proxyType : Str
  conf : ProtocolConfig
  closed : Bool

/-- A question to the world, with the answer where a later condition speaks of it. -/
inductive Event
  | post (req : Request) (reply : Str) (err : Option Err)
  | replace (id : Str) (errnum : Int)
  | dial (conf : ProtocolConfig)
  | isClosed
  | openStream
  | newRoute
  | range
  | goroutines

/-- What the client does not decide itself. -/
structure World where
  /-- `servercontroll.HTTPSPost` -/
  post : Nat → Request → Str × Option Err
  /-- `json.Unmarshal` into a `Dict[any]` -/
  unmarshal : Str → Option Fields
  /-- `json.Marshal` of a message and `json.Unmarshal` of the result into a profile -/
  profile : Json → Option ProtocolConfig
  /-- `ConnectTls`, `ConnectKcp` and `quic.DialAddr` -/
  dial : Nat → ProtocolConfig → Option Err
  /-- `Session.IsClosed` of a session the client did not close itself -/
  isClosed : Nat → Bool
  /-- `OpenStream` -/
  openStream : Nat → Option Err
  /-- `GetNewRoute` -/
  newRoute : Nat → Str
  /-- `url.Parse` -/
  parseUrl : Str → Except Str Url
  /-- the order of `range` over a map -/
  range : Nat → List (Str × Int) → List (Str × Int)
  range_perm : ∀ n l, (range n l).Perm l
  /-- the order in which goroutines run -/
  goroutines : Nat → List Nat → List Nat
  goroutines_perm : ∀ n l, (goroutines n l).Perm l

/-- The client's state. `smuxClients` points into `built`, the list of all sessions built so far. -/
structure ClientControl where
  smuxClients : List (Option Nat)
  built : List SmuxClient
  loc : Str
  clientNum : Nat
  errCount : Int
  routeErrCount : Int
  aliveCount : Int
  lastUse : Int
  acceptCount : Int
  addr : Str
  dnsservice : Bool
  inited : Bool
  isBreak : Bool
  isRunning : Bool
  getNewRoute : Bool
  proxyProfiles : Chan ProtocolConfig
  initProfiles : Int
  confNum : Nat
  errCon : Int
  errorid : Dict Int
  reportingMark : Dict Bool
  trace : List Event

/-- A method of `ClientControl`. -/
abbrev Call (α : Type) := Method ClientControl α

def newClientControll (w : World) (addr : Str) (channelNum : Nat) (getNewRoute : Bool) : ClientControl where
  smuxClients := List.replicate channelNum none
  built := []
  loc := []
  clientNum := channelNum
  errCount := 0
  routeErrCount := 0
  aliveCount := 0
  lastUse := -1
  acceptCount := 0
  addr := wrap w.parseUrl addr
  dnsservice := false
  inited := false
  isBreak := false
  isRunning := false
  getNewRoute := getNewRoute
  proxyProfiles := Chan.make channelNum
  initProfiles := 0
  confNum := channelNum
  errCon := 0
  errorid := ∅
  reportingMark := ∅
  trace := []

/-- `Init`: a new pool and new error records. `reportingMark` stays. -/
def init (c : ClientControl) : ClientControl :=
  { c with
    lastUse := 0
    proxyProfiles := Chan.make c.confNum
    initProfiles := 0
    errorid := ∅
    errCount := 0
    inited := false
    dnsservice := false
    isRunning := false
    isBreak := false
    routeErrCount := 0 }

/-! ### Questions to the world -/

def emit (e : Event) : Call Unit := modify fun c => { c with trace := e :: c.trace }

def httpsPost (w : World) (req : Request) : Call (Str × Option Err) := do
  let c ← get
  let answer := w.post c.trace.length req
  emit (.post req answer.1 answer.2)
  return answer

/-- A request that is repeated on an error, `tries` times at most. -/
def retryPost (w : World) (req : Request) : Nat → Call (Str × Option Err)
  | 0 => httpsPost w req
  | tries + 1 => do
      let answer ← httpsPost w req
      if answer.2.isSome then retryPost w req tries else return answer

def dial (w : World) (conf : ProtocolConfig) : Call (Option Err) := do
  let c ← get
  emit (.dial conf)
  return w.dial c.trace.length conf

def openStream (w : World) : Call (Option Err) := do
  let c ← get
  emit .openStream
  return w.openStream c.trace.length

/-! ### The pool -/

def pushProfile (conf : ProtocolConfig) : Call Unit := do
  let c ← get
  match c.proxyProfiles.send conf with
  | some ch => modify fun c => { c with proxyProfiles := ch }
  | none => throw .waiting

def proxyGet (w : World) (addr : Str) (tp : Option Str) : Request where
  url := wrap w.parseUrl addr ++ str "/proxy-get"
  data := match tp with
    | some t => [(str "type", t)]
    | none => []

/-- The failure exits of `GetAviableProxy`. -/
def noProxy : Call (Option ProtocolConfig) := do
  modify fun c => { c with routeErrCount := c.routeErrCount + 1, initProfiles := c.initProfiles - 1 }
  return none

/-- `0.0.0.0` in a profile stands for the control server's own address. -/
def ProtocolConfig.at (conf : ProtocolConfig) (server : Str) : ProtocolConfig :=
  if conf.server.isStr (str "0.0.0.0") then { conf with server := .str server } else conf

/-- The part of `GetAviableProxy` that asks the control server. -/
def fetchProxy (w : World) (tp : Option Str) : Call (Option ProtocolConfig) := do
  let c ← get
  modify fun c => { c with initProfiles := c.initProfiles + 1 }
  let (reply, err) ← retryPost w (proxyGet w c.addr tp) 1
  if err.isSome ∨ reply = [] then noProxy
  else
    match recvMsg w.unmarshal reply with
    | none => throw .panic
    | some (_, false) => noProxy
    | some (obj, true) =>
        match w.profile obj with
        | none => noProxy
        | some conf => do
            modify fun c => { c with errorid := c.errorid.insert conf.id 0 }
            return some (conf.at (wrapIPPort w.parseUrl (wrap w.parseUrl c.addr)))

/-- `GetAviableProxy`: a profile of the pool once `confNum` of them were fetched, else a new one. The loop
on an empty pool never ends, since nobody else is running. -/
def getAviableProxy (w : World) (tp : Option Str) : Call (Option ProtocolConfig) := do
  let c ← get
  if (c.confNum : Int) ≤ c.initProfiles then
    match c.proxyProfiles.recv with
    | some (conf, ch) => do
        modify fun c => { c with proxyProfiles := ch }
        return some conf
    | none => throw .waiting
  else fetchProxy w tp

/-! ### Sessions -/

/-- `c.SmuxClients[no].Close()` where the slot is not nil. -/
def closeSlot (no : Nat) : Call Unit := do
  let c ← get
  match c.smuxClients[no]? with
  | none => throw .panic
  | some none => return ()
  | some (some i) =>
      modify fun c => { c with built := c.built.modify i fun e => { e with closed := true } }

/-- `c.SmuxClients[no] = e` for a session just built. -/
def setSlot (no : Nat) (e : SmuxClient) : Call Unit :=
  modify fun c =>
    { c with smuxClients := c.smuxClients.set no (some c.built.length), built := c.built ++ [e] }

/-- The errors of `RebuildSmux`: `ErrRouteISBreak`, a failed dial, a failed QUIC dial. -/
inductive RebuildErr
  | routeIsBreak
  | rebuild (e : Err) (proxyType : Str)
  | quicRebuild (e : Err) (conf : ProtocolConfig)

/-- The part of `RebuildSmux` behind the pool: dial the profile and put a session into the slot. An smux
session never gets the profile's ID: `NewSmuxClient` leaves out `eid`. -/
def connect (w : World) (no : Nat) (conf : ProtocolConfig) : Call (Option RebuildErr) := do
  if conf.proxyType = str "quic" then
    closeSlot no
    match ← dial w conf with
    | some e => return some (.quicRebuild e conf)
    | none => do
        setSlot no { quic := true, eid := conf.id, proxyType := str "quic", conf := conf, closed := false }
        return none
  else
    match ← dial w conf with
    | some e => return some (.rebuild e conf.proxyType)
    | none => do
        closeSlot no
        setSlot no { quic := false, eid := [], proxyType := conf.proxyType, conf := conf, closed := false }
        return none

/-- `RebuildSmux`. -/
def rebuildSmux (w : World) (no : Nat) : Call (Option RebuildErr × Option ProtocolConfig) := do
  match ← getAviableProxy w (some (if no % 3 = 0 then str "quic" else str "tls")) with
  | none => return (some .routeIsBreak, none)
  | some conf => do
      pushProfile conf
      let err ← connect w no conf
      return (err, some conf)

/-- `FixBuildSmux`: rebuild every session of the profile `errid`. -/
def fixBuildSmux (w : World) (errid : Str) : Call Unit := do
  let c ← get
  (List.range c.smuxClients.length).forM fun no => do
    let c ← get
    match (c.smuxClients[no]?).join.bind (c.built[·]?) with
    | some e => if e.eid = errid then discard (rebuildSmux w no) else return ()
    | none => return ()

/-- `NewConnnect` on an smux session: a second session is tried where the first opens no stream. -/
def smuxConnect (w : World) (i : Nat) (e : SmuxClient) : Call (Option Err) := do
  let c ← get
  emit .isClosed
  if e.closed ∨ w.isClosed c.trace.length then return some (.text (str "session closed"))
  else
    match ← openStream w with
    | none => return none
    | some _ => do
        modify fun c => { c with built := c.built.modify i fun e => { e with closed := false } }
        let c ← get
        emit .isClosed
        -- a new session that is closed already has no `err2` to report: `err2.Error()` panics
        if w.isClosed c.trace.length then throw .panic
        else
          match ← openStream w with
          | some err => return some (.text (str "[re open smux session err]: " ++ err.error))
          | none => return none

/-- `NewConnnect` on a QUIC connection: it is dialled again where it opens no stream. -/
def quicConnect (w : World) (i : Nat) (e : SmuxClient) : Call (Option Err) := do
  if e.closed then return some (.text (str "dia quic err"))
  else
    match ← openStream w with
    | none => return none
    | some _ => do
        match ← dial w e.conf with
        | some err => do
            modify fun c => { c with built := c.built.modify i fun e => { e with closed := true } }
            return some (.text (str "[try agin quic new connect err]: " ++ err.error))
        | none => do
            match ← openStream w with
            | some err => return some (.text (str "[try agin  quic reconnect err]: " ++ err.error))
            | none => return none

def newConnnect (w : World) (i : Nat) : Call (Option Err) := do
  let c ← get
  match c.built[i]? with
  | none => throw .panic
  | some e => if e.quic then quicConnect w i e else smuxConnect w i e

def isClosed (w : World) (e : SmuxClient) : Call Bool := do
  if e.quic then return e.closed
  else do
    let c ← get
    emit .isClosed
    return e.closed || w.isClosed c.trace.length

/-- What `GetSession` returns: the error, or none with an open connection, the profile's ID and type. -/
structure Session where
  err : Option (Err ⊕ RebuildErr)
  id : Str
  proxyType : Str

/-- The slot `GetSession` uses next, empty slots rebuilt: up to two tries. -/
def buildSlot (w : World) (no : Nat) : Nat → Str → Str → Call (Option RebuildErr × Str × Str)
  | 0, id, proxyType => return (some .routeIsBreak, id, proxyType)
  | tries + 1, id, proxyType => do
      let (err, conf) ← rebuildSmux w no
      let id := (conf.map (·.id)).getD id
      let proxyType := (conf.map (·.proxyType)).getD proxyType
      match err with
      | none => do
          let c ← get
          let e := (c.smuxClients[no]?).join.bind (c.built[·]?)
          return (none, (e.map (·.eid)).getD id, proxyType)
      | some err => if tries = 0 then return (some err, id, proxyType) else buildSlot w no tries id proxyType

/-- `GetSession` on a slot that holds the session `i`. -/
def openSession (w : World) (no i : Nat) (id proxyType : Str) : Call Session := do
  let c ← get
  match c.built[i]? with
  | none => throw .panic
  | some e => do
      let id := if e.eid = [] then id else e.eid
      if ← isClosed w e then do
        let (err, conf) ← rebuildSmux w no
        let id := (conf.map (·.id)).getD id
        let proxyType := (conf.map (·.proxyType)).getD proxyType
        match err with
        | some err => return { err := some (.inr err), id := id, proxyType := proxyType }
        | none => do
            -- the session asked is the old one, which the rebuild has closed
            let err ← newConnnect w i
            return { err := err.map .inl, id := id, proxyType := proxyType }
      else do
        let err ← newConnnect w i
        return { err := err.map .inl, id := id, proxyType := e.proxyType }

def getSession (w : World) : Call Session := do
  let c ← get
  if c.clientNum = 0 then throw .panic
  else do
    modify fun c => { c with lastUse := (c.lastUse + 1).tmod c.clientNum }
    let c ← get
    let no := c.lastUse.toNat
    match c.smuxClients[no]? with
    | none => throw .panic
    | some (some i) => openSession w no i [] []
    | some none => do
        let (err, id, proxyType) ← buildSlot w no 2 [] []
        match err with
        | some err => return { err := some (.inr err), id := id, proxyType := proxyType }
        | none => do
            let c ← get
            match (c.smuxClients[no]?).join with
            | some i => openSession w no i id proxyType
            | none =>
                return { err := some (.inl (.text (str "no session create!!"))), id := id, proxyType := proxyType }

/-! ### Errors -/

def errRecord (eid : Str) (i : Int) : Call Unit :=
  modify fun c =>
    { c with
      errorid := c.errorid.insert eid (c.errorid.get eid 0 + i)
      errCount := c.errCount + i
      routeErrCount := if 1 < i then c.routeErrCount + 1 else c.routeErrCount
      errCon := c.errCon + 1 }

def errVanish (eid : Str) : Call Unit :=
  modify fun c =>
    { c with
      errorid := if 0 < c.errorid.get eid 0 then c.errorid.insert eid (c.errorid.get eid 0 - 1) else c.errorid
      errCount := if 0 < c.errCount then c.errCount - 1 else c.errCount
      routeErrCount := if 0 < c.routeErrCount then c.routeErrCount - 1 else c.routeErrCount }

/-- The entries of `errorid` in the order Go ranges over them. -/
def rangeErrorid (w : World) : Call (List (Str × Int)) := do
  let c ← get
  emit .range
  return w.range c.trace.length c.errorid.pairs

/-! ### Replacing profiles -/

def proxyErr (w : World) (addr id : Str) : Request where
  url := wrap w.parseUrl addr ++ str "/proxy-err"
  data := [(str "ID", id)]

def routeErr : Call Unit := modify fun c => { c with routeErrCount := c.routeErrCount + 1 }

/-- The records after a profile was received in place of `id`. -/
def received (id : Str) (conf : ProtocolConfig) (c : ClientControl) : ClientControl :=
  { c with
    errorid := c.errorid.insert conf.id 0
    routeErrCount := if 0 < c.routeErrCount then c.routeErrCount - 1 else c.routeErrCount
    reportingMark := c.reportingMark.erase id }

/-- The part of `ErrSoGetNew` behind a profile received in place of `id`. -/
def replaceProfile (w : World) (id : Str) (conf : ProtocolConfig) : Call Unit := do
  pushProfile conf
  modify (received id conf)
  fixBuildSmux w id

/-- The part of `ErrSoGetNew` that asks the control server for a profile in place of `id`. -/
def askReplacement (w : World) (id : Str) : Call (Option ProtocolConfig) := do
  let c ← get
  let (reply, err) ← httpsPost w (proxyErr w c.addr id)
  (if err.isSome then routeErr else pure ())
  if reply = [] then do
    routeErr
    return none
  else
    match recvMsg w.unmarshal reply with
    | none => throw .panic
    | some (_, false) => return none
    | some (obj, true) =>
        return (w.profile obj).map (·.at (trim ((split (str ":") (wrap w.parseUrl c.addr)).headD [])))

/-- `ErrSoGetNew`: get another profile in place of `id`, which was taken out of the pool. -/
def errSoGetNew (w : World) (id : Str) (errnum : Int) : Call Unit := do
  emit (.replace id errnum)
  if id = [] then return ()
  else
    match ← askReplacement w id with
    | none => return ()
    | some conf => replaceProfile w id conf

/-- The loop of `ReportErrorProxy`: turn the pool round until `left` profiles of `ids` were replaced. On an
empty pool it waits. -/
def reportLoop (w : World) (ids : List Str) : Nat → Nat → Call Unit
  | _, 0 => return ()
  | 0, _ + 1 => throw .waiting
  | fuel + 1, left + 1 => do
      let c ← get
      match c.proxyProfiles.recv with
      | none => throw .waiting
      | some (thisconf, ch) => do
          modify fun c => { c with proxyProfiles := ch }
          if thisconf.id ∈ ids then do
            let errnum := c.errorid.get thisconf.id 0
            modify fun c => { c with errCount := c.errCount - errnum }
            errSoGetNew w thisconf.id errnum
            reportLoop w ids fuel left
          else do
            pushProfile thisconf
            reportLoop w ids fuel (left + 1)

/-- The IDs with more than four errors that are not being replaced already. -/
def overdue (mark : Dict Bool) (entries : List (Str × Int)) : List Str :=
  (entries.filter fun e => 4 < e.2 ∧ mark.has e.1 = false).map (·.1)

/-- Set the slot to nil, its session closed. -/
def dropSlot (no : Nat) : Call Unit := do
  closeSlot no
  modify fun c => { c with smuxClients := c.smuxClients.set no none }

def reportErrorProxy (w : World) (fuel : Nat) : Call Unit := do
  let entries ← rangeErrorid w
  let c ← get
  let ids := overdue c.reportingMark entries
  modify fun c => { c with reportingMark := ids.foldl (fun m id => m.insert id true) c.reportingMark }
  reportLoop w ids fuel ids.length
  (List.range c.clientNum).forM dropSlot

/-- The ID `AutoSwitchProfile` picks: `maxnum` stays 0, so it is the last one with an error. -/
def pickMaxid (entries : List (Str × Int)) : Str :=
  entries.foldl (fun maxid e => if 0 < e.2 then e.1 else maxid) []

/-- The loop of `AutoSwitchProfile`: turn the pool round until `maxid` comes, and fetch another profile for
it. -/
def switchLoop (w : World) (maxid : Str) : Nat → Call Unit
  | 0 => throw .waiting
  | fuel + 1 => do
      let c ← get
      match c.proxyProfiles.recv with
      | none => throw .waiting
      | some (conf, ch) => do
          modify fun c => { c with proxyProfiles := ch }
          if conf.id = maxid then do
            modify fun c => { c with initProfiles := c.initProfiles - 1 }
            match ← getAviableProxy w none with
            | none => return ()
            | some newconf => do
                pushProfile newconf
                modify fun c => { c with errorid := c.errorid.insert newconf.id 0 }
          else do
            pushProfile conf
            switchLoop w maxid fuel

def autoSwitchProfile (w : World) (fuel : Nat) : Call Unit := do
  let entries ← rangeErrorid w
  let maxid := pickMaxid entries
  if maxid = [] then return ()
  else do
    modify fun c => { c with errorid := c.errorid.erase maxid }
    switchLoop w maxid fuel

/-! ### Changing the route -/

/-- `BuildChannel` for each of the channels; counts those without a profile. -/
def buildChannels (w : World) : List Nat → Nat → Call Nat
  | [], errnum => return errnum
  | channelID :: rest, errnum => do
      match ← rebuildSmux w channelID with
      | (some .routeIsBreak, _) => buildChannels w rest (errnum + 1)
      | _ => buildChannels w rest errnum

/-- `InitializationTunnels`: every tunnel is built by a goroutine of its own. -/
def initializationTunnels (w : World) : Call Bool := do
  let c ← get
  emit .goroutines
  let errnum ← buildChannels w (w.goroutines c.trace.length (List.range c.clientNum)) 0
  modify fun c =>
    { c with
      inited := true
      loc := if 5 < errnum then str "this is break, try next !!!" else c.loc }
  return errnum ≤ 5

/-- Empty the pool and the table of errors. -/
def clearProfiles : Call Unit :=
  modify fun c =>
    { c with
      proxyProfiles := ⟨c.proxyProfiles.cap, [], Nat.zero_le _⟩
      initProfiles := 0
      errorid := ∅ }

/-- `ChangeProxyType`. What the `confNum` requests bring is not put into the pool. -/
def changeProxyType (w : World) (tp : Str) : Call Unit := do
  clearProfiles
  let c ← get
  (List.range c.confNum).forM fun _ => discard (getAviableProxy w (some tp))
  discard (initializationTunnels w)

def changeNewRoute (w : World) : Call Unit := do
  let c ← get
  if c.getNewRoute then do
    emit .newRoute
    let newroute := w.newRoute c.trace.length
    if newroute = [] then return ()
    else do
      let newroute := if contains newroute (str ":") then newroute else newroute ++ str ":55443"
      let newroute := if contains newroute (str "://") then newroute else str "https://" ++ newroute
      modify fun c => { c with addr := newroute }
      clearProfiles
      modify fun c => { c with routeErrCount := 0, errCount := 0 }
  else return ()

/-! ### Operations -/

/-- A call of the client's methods. -/
inductive Op
  | rebuildSmux (no : Nat)
  | getSession
  | fixBuildSmux (errid : Str)
  | reportErrorProxy
  | autoSwitchProfile
  | changeProxyType (tp : Str)
  | changeNewRoute
  | errRecord (eid : Str) (i : Int)
  | errVanish (eid : Str)
  | getAviableProxy (tp : Option Str)

/-- The call, with fuel for its loops. -/
def exec (w : World) (fuel : Nat) : Op → Call Unit
  | .rebuildSmux no => discard (rebuildSmux w no)
  | .getSession => discard (getSession w)
  | .fixBuildSmux errid => fixBuildSmux w errid
  | .reportErrorProxy => reportErrorProxy w fuel
  | .autoSwitchProfile => autoSwitchProfile w fuel
  | .changeProxyType tp => changeProxyType w tp
  | .changeNewRoute => changeNewRoute w
  | .errRecord eid i => errRecord eid i
  | .errVanish eid => errVanish eid
  | .getAviableProxy tp => discard (getAviableProxy w tp)

/-- A completed call takes the client from `c` to `c'`. -/
def Completes (w : World) (c : ClientControl) (op : Op) (c' : ClientControl) : Prop :=
  ∃ fuel, exec w fuel op c = .ok ((), c')

/-- The states a run starts in: a new client, or any client after `Init`. -/
inductive Start (w : World) : ClientControl → Prop
  | fresh (addr : Str) (channelNum : Nat) (getNewRoute : Bool) :
      Start w (newClientControll w addr channelNum getNewRoute)
  | init (c : ClientControl) : Start w (init c)

end ProxyZ.Client
