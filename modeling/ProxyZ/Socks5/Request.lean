import ProxyZ.Go.Stream
import ProxyZ.Go.Net

/-!
# SOCKS requests

The two parsers of `prosocks5/socks5.go`: `getLocalRequest`, which the client runs on an application's
connection, and `getServerRequest`, which the server runs on a tunnel stream; and `hostToRaw`, which
frames a host for the server without a parser.

Both work on a buffer of fixed size that starts out zeroed. A result `none` is a panic: an index or a
slice expression out of range.
-/

namespace ProxyZ.Socks5

open Go

def socksVer5 : UInt8 := 5
def socksVer4 : UInt8 := 4
def socksCmdConnect : UInt8 := 1
def socksCmdUdp : UInt8 := 3
def addrMask : UInt8 := 0xf

def idVer : Nat := 0
def idCmd : Nat := 1
def idType : Nat := 3
def idIP0 : Nat := 4
def idDmLen : Nat := 4
def idDm0 : Nat := 5

def typeIPv4 : UInt8 := 1
def typeDm : UInt8 := 3
def typeIPv6 : UInt8 := 4
def typeChange : UInt8 := 5
def typeRedirect : UInt8 := 9

/-- Version, command, reserved byte, address type, IPv4 address and port. -/
def lenIPv4 : Nat := 3 + 1 + 4 + 2
/-- Version, command, reserved byte, address type, IPv6 address and port. -/
def lenIPv6 : Nat := 3 + 1 + 16 + 2
/-- A domain request without the domain itself. -/
def lenDmBase : Nat := 3 + 1 + 1 + 2

def errCmd : Err := .text (str "socks command not supported")
def errAddrType : Err := .text (str "socks addr type not supported")
def errReqExtraData : Err := .text (str "socks request get extra data")

/-- The reply that tells the application its connection stands. -/
def socks5Confirm : Bytes := [5, 0, 0, 1, 0, 0, 0, 0, 8, 0x43]

/-- `HostToRaw`: a domain request for `host` and `port`; with port -1 the port is split off the host. -/
def hostToRaw (host : Str) (port : Int) : Bytes :=
  let (host, port) : Str × Int :=
    if port = -1 ∧ contains host (str ":") then
      match splitN (str ":") host 2 with
      | h :: p :: _ => (h, (atoi p).1)
      | _ => (host, port)
    else (host, port)
  [5, 1, 0, 3, UInt8.ofNat host.length] ++ host ++ be16 (port % 65536).toNat

/-! ### The client's parser -/

structure LocalRequest where
  rawaddr : Bytes := []
  host : Str := []
  isUdp : Bool := false
  err : Option Err := none
  deriving DecidableEq, Repr

/-- The host between a domain's start and its end, the end computed in byte arithmetic. -/
def localHost (buf : Bytes) : Option (Nat × Str) := do
  let len ← buf[idDmLen]?
  let host ← slice? buf idDm0 (UInt8.ofNat idDm0 + len).toNat
  return (len.toNat, host)

/-- The length of the request and the host its address type announces; `none` inside for an unknown
type. -/
def localReqLen (buf : Bytes) : Option (Option (Nat × Str)) := do
  let typ ← buf[idType]?
  if typ = typeIPv4 then return some (lenIPv4, [])
  else if typ = typeIPv6 then return some (lenIPv6, [])
  else if typ = typeDm then do
    let (len, host) ← localHost buf
    return some (len + lenDmBase, host)
  else if typ = typeChange then do
    let (len, host) ← localHost buf
    return some (len + lenDmBase - 2, host)
  else return none

/-- `GetLocalRequest` after its first read of `n` bytes: complete the request to `reqLen` bytes. -/
def localComplete (buf : Bytes) (n reqLen : Nat) (host : Str) (isUdp : Bool) (conn : Reader) :
    Option (LocalRequest × Reader) :=
  if n = reqLen then do
    let rawaddr ← slice? buf 0 reqLen
    return ({ rawaddr, host, isUdp }, conn)
  else if n < reqLen then do
    let _ ← slice? buf n reqLen
    match readFull (reqLen - n) conn with
    | (_, some e, conn) => return ({ host, isUdp, err := some e }, conn)
    | (data, none, conn) =>
        let rawaddr ← slice? (overwrite buf n data) 0 reqLen
        return ({ rawaddr, host, isUdp }, conn)
  else return ({ host, isUdp, err := some errReqExtraData }, conn)

/-- `GetLocalRequest`. (`debug` is false and nothing sets it, so the host of an IP address is not
filled in.) -/
def getLocalRequest (conn : Reader) : Option (LocalRequest × Reader) :=
  match readAtLeast 263 (idDmLen + 1) conn with
  | (_, some e, conn) => some ({ err := some e }, conn)
  | (data, none, conn) => do
      let buf := overwrite (make 263) 0 data
      let ver ← buf[idVer]?
      let cmd ← buf[idCmd]?
      if ver ≠ socksVer5 ∧ ver ≠ socksVer4 then
        return ({ err := some (.text (str "Sock5 error: " ++ runeStr ver)) }, conn)
      else if cmd ≠ socksCmdConnect ∧ cmd ≠ socksCmdUdp then return ({ err := some errCmd }, conn)
      else do
        let isUdp := cmd == socksCmdUdp
        match ← localReqLen buf with
        | none => return ({ isUdp, err := some errAddrType }, conn)
        | some (reqLen, host) => localComplete buf data.length reqLen host isUdp conn

/-! ### The server's parser -/

structure ServerRequest where
  host : Str := []
  raw : Bytes := []
  isUdp : Bool := false
  err : Option Err := none
  deriving DecidableEq, Repr

/-- The host of a complete request, without its port. -/
def serverHost (typ : UInt8) (buf : Bytes) : Option Str :=
  if typ = typeIPv4 then (slice? buf idIP0 (idIP0 + 4)).map ipString
  else if typ = typeIPv6 then (slice? buf idIP0 (idIP0 + 16)).map ipString
  else do
    let len ← buf[idDmLen]?
    slice? buf idDm0 (idDm0 + len.toNat)

/-- `GetServerRequest` once the bounds of the address are known: read it and form the host. -/
def serverComplete (typ : UInt8) (isUdp : Bool) (buf : Bytes) (reqStart reqEnd : Nat) (conn : Reader) :
    Option (ServerRequest × Reader) := do
  let _ ← slice? buf reqStart reqEnd
  match readFull (reqEnd - reqStart) conn with
  | (data, some e, conn) =>
      let raw ← slice? (overwrite buf reqStart data) 0 reqEnd
      return ({ raw, isUdp, err := some e }, conn)
  | (data, none, conn) =>
      let buf := overwrite buf reqStart data
      let raw ← slice? buf 0 reqEnd
      let host ← serverHost typ buf
      if typ = typeRedirect then return ({ host, raw, isUdp }, conn)
      else do
        let port ← uint16? (← slice? buf (reqEnd - 2) reqEnd)
        return ({ host := joinHostPort host (itoa port), raw, isUdp }, conn)

/-- `GetServerRequest` from the address type on. -/
def serverAddr (isUdp : Bool) (buf : Bytes) (conn : Reader) : Option (ServerRequest × Reader) := do
  let addrType ← buf[idType]?
  let typ := addrType &&& addrMask
  if typ = typeIPv4 then serverComplete typ isUdp buf idIP0 lenIPv4 conn
  else if typ = typeIPv6 then serverComplete typ isUdp buf idIP0 (idIP0 + lenIPv6) conn
  else if typ = typeDm ∨ typ = typeRedirect then
    match readFull 1 conn with
    | (_, some e, conn) => return ({ isUdp, err := some e }, conn)
    | (data, none, conn) => do
        let buf := overwrite buf idDmLen data
        let len ← buf[idDmLen]?
        let reqEnd := if typ = typeDm then len.toNat + lenDmBase else idDm0 + len.toNat
        serverComplete typ isUdp buf idDm0 reqEnd conn
  else
    return ({ isUdp, err := some (.text (str "addr type " ++ itoa typ.toNat ++ str " not supported:" ++ buf)) }, conn)

/-- The error for a wrong version or command; a wrong command overrides a wrong version. -/
def headerErr (ver cmd : UInt8) : Option Err :=
  if cmd ≠ socksCmdUdp ∧ cmd ≠ socksCmdConnect then some (.text (str "not socks5 conn or udp"))
  else if ver ≠ socksVer5 ∧ ver ≠ socksVer4 then some (.text (str "not socks5 type"))
  else none

/-- `GetServerRequest`. A wrong version or command still takes one more `Read` before it fails. -/
def getServerRequest (conn : Reader) : Option (ServerRequest × Reader) :=
  match readFull (idType + 1) conn with
  | (_, some e, conn) => some ({ err := some e }, conn)
  | (data, none, conn) => do
      let buf := overwrite (make 269) 0 data
      let ver ← buf[idVer]?
      let cmd ← buf[idCmd]?
      let isUdp := cmd == socksCmdUdp
      match headerErr ver cmd with
      | some e =>
          match read (1401 - (idType + 1)) conn with
          | (_, some _, conn) => return ({ isUdp, err := some e }, conn)
          | (more, none, conn) => return ({ raw := data ++ more, isUdp, err := some e }, conn)
      | none => serverAddr isUdp buf conn

end ProxyZ.Socks5
