import ProxyZ.Go.Json
import ProxyZ.Go.Net
import ProxyZ.Go.Procedure
import ProxyZ.Go.Stream
import ProxyZ.Server.Proxies

/-!
# The handlers of the control server

Each handler reads the body with `Recv`, looks for its fields and replies. A handler that panics, at a type
assertion or a nil tunnel, is stopped by the HTTP server, and what it has done stays done.

`/z-info`, `/proxy-err` and `/proxy-del` do not return behind the reply to a malformed body, and `/proxy-new`
replies with a tunnel that it neither adds nor starts.
-/

namespace ProxyZ.Server

open Go Procedure

/-- The variables of the server, and what is known about its tunnels: the `On` of each, and those on which
`Start` has been called. `ports` are the ports closed otherwise than by `DelProxy`. -/
structure Control where
  globals : Globals := {}
  on : Tunnel → Bool := fun _ => false
  started : List Tunnel := []
  ports : List Int := []

/-- The body of a request as `ioutil.ReadAll` returns it. -/
structure Body where
  bytes : Bytes
  err : Option Err := none

/-- What a request finds outside of the server. `unmarshal` fills the map that `Recv` has made: where it fails
that may hold some fields, and it is nil for the text `null` only. -/
structure World extends Answer where
  unmarshal : Bytes → Except (Err × Fields) (Option Fields)
  canReachHost : Str → Bool
  lookupIP : Str → Except Err (List IP)
  getUFW : Str
  text : Json → Str

inductive Message
  | err (e : Err)
  | text (s : Str)
  | config (tu : Tunnel)
  | hosts (res : Dict Str)
  | ids (ids : List Str)
  | found (found : Bool)

/-- A reply, with the server as it is when the reply is written. -/
structure Reply where
  msg : Message
  status : Bool
  control : Control

/-- The server while a request is handled, and what has been written. -/
structure Exchange where
  control : Control
  replies : List Reply := []
  code : Nat := 200

abbrev Handler := Procedure Exchange

def reply (msg : Message) (status : Bool) : Handler PUnit :=
  modifyThe Exchange fun x => { x with replies := x.replies ++ [⟨msg, status, x.control⟩] }

def writeHeader (code : Nat) : Handler PUnit := modifyThe Exchange fun x => { x with code }

/-- `Recv`: a map, which may be nil, and an error. -/
def recv (w : World) (r : Body) : Option Fields × Option Err :=
  if r.err ≠ some .eof ∧ r.err ≠ none then (none, r.err)
  else if r.bytes = [] then (none, none)
  else
    match w.unmarshal r.bytes with
    | .ok d => (d, none)
    | .error (err, d) => (some d, some err)

/-- `d[k]` of a map that may be nil. -/
def field (d : Option Fields) (k : String) : Option Json := d.bind fun d => d.lookup (str k)

/-- The type assertion `v.(string)`. -/
def asString : Json → Handler Str
  | .str s => pure s
  | _ => panic

/-! ### The tunnels -/

def setGlobals (g : Globals) : Handler PUnit :=
  modifyThe Exchange fun x => { x with control := { x.control with globals := g } }

/-- `GetProxy`, with `none` for no type. -/
def selectProxy (gs : ListOps) (w : World) (proxyType : Option Str) : Handler Tunnel := do
  let x ← get
  match getProxy gs w.toAnswer proxyType x.control.globals with
  | some (tu, g) => do
      setGlobals g
      return tu
  | none => panic

def deleteProxy (name : Str) : Handler Bool := do
  let x ← get
  setGlobals (delProxy name x.control.globals).2
  return (delProxy name x.control.globals).1

/-- `tu.Start`, which returns no error. -/
def start (tu : Tunnel) : Handler PUnit :=
  modifyThe Exchange fun x =>
    { x with control := { x.control with on := Function.update x.control.on tu true, started := tu :: x.control.started } }

def startIfOff (tu : Tunnel) : Handler PUnit := do
  let x ← get
  if x.control.on tu then pure () else start tu

/-- The part of `/proxy-get` that is written out for each kind of request. -/
def giveProxy (gs : ListOps) (w : World) (proxyType : Option Str) : Handler PUnit := do
  let tu ← selectProxy gs w proxyType
  startIfOff tu
  reply (.config tu) true

/-! ### The handlers -/

/-- The reply to a malformed body. -/
def reject (err : Err) : Handler PUnit := do
  writeHeader 400
  reply (.err err) false

/-- The reply to a malformed body where the handler goes on behind it. -/
def rejectIf : Option Err → Handler PUnit
  | some err => reject err
  | none => pure ()

def zInfo (w : World) (r : Body) : Handler PUnit := do
  rejectIf (recv w r).2
  if (recv w r).1.isNone then reply (.text (str "alive")) true else pure ()

def zSet (w : World) (r : Body) : Handler PUnit :=
  match recv w r with
  | (_, some err) => reject err
  | (none, none) => reply (.text (str "no val")) false
  | (some d, none) =>
      match field d "name", field d "val" with
      | some name, some val => do
          let _val ← asString val
          let _name ← asString name
          reply (.text (str "Good ")) true
      | _, _ => pure ()

/-- The answer of `/z-dns` for its hosts. -/
def lookupHosts (w : World) (hosts : List Str) : Dict Str :=
  hosts.foldl (fun res host =>
    match w.lookupIP host with
    | .ok ips => (ips.filter fun ip => (to4 ip).isSome).foldl (fun res ip => res.insert (ipString ip) host) res
    | .error _ => res) ∅

def zDns (w : World) (r : Body) : Handler PUnit :=
  match recv w r with
  | (_, some err) => reply (.err err) false
  | (d, none) =>
      match field d "hosts" with
      | some hosts => do
          let hosts ← asString hosts
          reply (.hosts (lookupHosts w (split (str ",") hosts))) true
      | none => reply (.text (str "no dns")) false

def closePortUFW (port : Int) : Handler PUnit :=
  if port ∈ [22, 55443, 60053, 60001] then pure ()
  else modifyThe Exchange fun x => { x with control := { x.control with ports := x.control.ports ++ [port] } }

/-- A port is closed if its text is a number. -/
def closePortText (s : Str) : Handler PUnit := if (atoi s).2 then closePortUFW (atoi s).1 else pure ()

/-- The ports of a list of lines, or of a list with commas. -/
def closeListed (t : Str) : Handler PUnit :=
  if contains t (str "\n") then (split (str "\n") t).forM fun i => closePortText (trim i)
  else if contains t (str ",") then (split (str ",") t).forM fun i => closePortText (trim i)
  else pure ()

/-- What `/z-ufw` does with `port`. A number of a JSON document is a float64, so the case of an int is never
taken. -/
def closePorts : Option Json → Handler PUnit
  | some (.str port) => do
      closeListed port
      closePortText port
  | _ => pure ()

def zUfw (w : World) (r : Body) : Handler PUnit :=
  match recv w r with
  | (_, some err) => reply (.err err) false
  | (none, none) => reply (.text w.getUFW) true
  | (some d, none) => do
      closePorts (field d "port")
      reply (.text w.getUFW) true

def proxyGet (gs : ListOps) (w : World) (r : Body) : Handler PUnit :=
  match recv w r with
  | (_, some err) => reply (.err err) false
  | (none, none) => giveProxy gs w none
  | (some d, none) =>
      match field d "type" with
      | some (.str proxyType) => giveProxy gs w (some proxyType)
      | _ => giveProxy gs w none

def closeAll : Handler PUnit := do
  let x ← get
  if x.control.globals.tunnels.any Option.isNone then panic
  else
    let ids := x.control.globals.tunnels.reduceOption.map Tunnel.id
    ids.forM fun i => discard (deleteProxy i)
    reply (.ids ids) true

/-- What `/proxy-err` does with `Host`: whether it has replied. -/
def checkHost (w : World) (d : Option Fields) : Handler Bool :=
  match field d "Host" with
  | some (.arr items) => do
      let hosts ← items.mapM asString
      if hosts.all w.canReachHost then do
        reply (.text (str "status ok:" ++ w.text (.arr items))) false
        return true
      else return false
  | some (.str host) =>
      if w.canReachHost host then do
        reply (.text (str "status ok:" ++ host)) false
        return true
      else return false
  | _ => return false

/-- What it does with `ID`. -/
def deleteByID : Option Json → Handler PUnit
  | none => pure ()
  | some .null => pure ()
  | some id => do
      let idstr ← asString id
      discard (deleteProxy idstr)

/-- `NewProxyByErrCount` or `NewProxy`. -/
def makeTunnel (make : Globals → Tunnel × Globals) : Handler Tunnel := do
  let x ← get
  setGlobals (make x.control.globals).2
  return (make x.control.globals).1

/-- What `/proxy-err` does behind the check of the hosts. -/
def replaceProxy (w : World) (d : Option Fields) : Handler PUnit := do
  deleteByID (field d "ID")
  let tu ← makeTunnel (newProxyByErrCount w.toAnswer)
  start tu
  reply (.config tu) true

def proxyErr (w : World) (r : Body) : Handler PUnit := do
  rejectIf (recv w r).2
  let replied ← checkHost w (recv w r).1
  if replied then pure () else replaceProxy w (recv w r).1

def proxyNew (w : World) : Handler PUnit := do
  let tu ← makeTunnel (newProxy (str "tls") w.conf)
  reply (.config tu) true

def proxyDel (w : World) (r : Body) : Handler PUnit := do
  rejectIf (recv w r).2
  let configName ← asString ((field (recv w r).1 "msg").getD .null)
  let found ← deleteProxy configName
  reply (.found found) true

inductive Endpoint
  | zInfo
  | zSet
  | zDns
  | zUfw
  | proxyGet
  | closeAll
  | proxyErr
  | proxyNew
  | proxyDel
  deriving DecidableEq

def handle (gs : ListOps) (w : World) (r : Body) : Endpoint → Handler PUnit
  | .zInfo => zInfo w r
  | .zSet => zSet w r
  | .zDns => zDns w r
  | .zUfw => zUfw w r
  | .proxyGet => proxyGet gs w r
  | .closeAll => closeAll
  | .proxyErr => proxyErr w r
  | .proxyNew => proxyNew w
  | .proxyDel => proxyDel w r

/-- A request to an idle server: whether the handler returns, and what it leaves. -/
def serve (gs : ListOps) (w : World) (r : Body) (e : Endpoint) (c : Control) : Option PUnit × Exchange :=
  exec (handle gs w r e) { control := c }

/-! ### What the parts of the handlers keep -/

section Parts

variable {P : Exchange → Prop}

theorem asString_keeps (v : Json) : Keeps P (asString v) := by
  unfold asString
  split
  · exact Keeps.pure _
  · exact Keeps.panic

theorem deleteProxy_keeps {name : Str}
    (h : ∀ x, P x → P { x with control := { x.control with globals := (delProxy name x.control.globals).2 } }) :
    Keeps P (deleteProxy name) := by
  apply Contract.get
  intro x hx
  apply Contract.bind (Q := fun _ => P)
  · apply Contract.modify
    intro y hy
    rw [hy]
    exact h x hx
  · exact fun _ => Keeps.pure _

theorem deleteByID_keeps (id : Option Json)
    (h : ∀ name x, P x → P { x with control := { x.control with globals := (delProxy name x.control.globals).2 } }) :
    Keeps P (deleteByID id) := by
  unfold deleteByID
  split
  · exact Keeps.pure _
  · exact Keeps.pure _
  · apply (asString_keeps _).bind
    intro name
    exact (deleteProxy_keeps (h name)).discard

end Parts

/-- A world without other hosts. -/
def quietWorld : World :=
  { idleAnswer with
    unmarshal := fun _ => .error (.text (str "unexpected end of JSON input"), [])
    canReachHost := fun _ => false
    lookupIP := fun _ => .ok []
    getUFW := []
    text := fun _ => [] }

end ProxyZ.Server
