import ProxyZ.Go.Json
import ProxyZ.Go.Stream

/-!
# The control channel on the client

The client asks the control server over HTTPS for tunnel profiles. Here is what it sends, how it forms the
server's address and how it reads a reply; what the server answers is not up to the client.
-/

namespace ProxyZ.Control

open Go

/-- What `url.Parse` finds in an address, as far as the client looks at it: `Host` holds the port too. -/
structure Url where
  scheme : Str
  host : Str
  port : Str

/-- `Wrap`: the address of the control server with scheme and port. -/
def wrap (parseUrl : Str → Except Str Url) (addr : Str) : Str :=
  match parseUrl addr with
  | .error _ =>
      let addr := if contains addr (str "://") then addr else str "https://" ++ addr
      if hasSuffix addr (str ":55443") then addr else addr ++ str ":55443"
  | .ok u =>
      let addr := if u.scheme = [] then str "https://" ++ addr else addr
      if u.port = [] then addr ++ str ":55443" else addr

/-- `WrapIPPort`: the host of an address; the error text where it does not parse. -/
def wrapIPPort (parseUrl : Str → Except Str Url) (addr : Str) : Str :=
  match parseUrl addr with
  | .error e => e
  | .ok u => (split (str ":") u.host).headD []

/-- A POST request: the address and the fields of the JSON body. -/
structure Request where
  url : Str
  data : List (Str × Str)

/-- `RecvMsg`: the message of a reply and whether its status is `ok`. A text that `json.Unmarshal` refuses
leaves an empty map behind; `none` is the panic of `c.(string)` on a status that is not a string. -/
def recvMsg (unmarshal : Str → Option Fields) (reply : Str) : Option (Json × Bool) :=
  let d := (unmarshal reply).getD []
  match d.lookup (str "status") with
  | none => some (.null, false)
  | some (.str s) => some ((d.lookup (str "msg")).getD .null, s == str "ok")
  | some _ => none

end ProxyZ.Control
