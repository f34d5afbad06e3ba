import ProxyZ.Go.Bytes
import ProxyZ.Go.Base64
import ProxyZ.Go.Fmt
import ProxyZ.Go.Stream
import ProxyZ.Go.Net
import ProxyZ.Go.Chan
import ProxyZ.Go.Dict
import ProxyZ.Go.Json
import ProxyZ.Go.Program
import ProxyZ.Go.Ghost
import ProxyZ.Go.Scan
import ProxyZ.Go.Text
import ProxyZ.Go.Pattern
import ProxyZ.Go.Threads
import ProxyZ.Go.Procedure
import ProxyZ.Go.Url
import ProxyZ.Go.Duration
import ProxyZ.Go.Options
import ProxyZ.Go.Fields
import ProxyZ.Go.Inherit
import ProxyZ.Socks5.Request
import ProxyZ.Socks5.Frame
import ProxyZ.Socks5.WireFormat
import ProxyZ.Socks5.HandShake
import ProxyZ.Socks5.Local
import ProxyZ.Socks5.Segments
import ProxyZ.Socks5.Authority
import ProxyZ.Dns.Message
import ProxyZ.Control.Message
import ProxyZ.Control.Reply
import ProxyZ.Client.Control
import ProxyZ.Client.Contract
import ProxyZ.Client.Pool
import ProxyZ.Client.Errors
import ProxyZ.Client.Loops
import ProxyZ.Client.Replace
import ProxyZ.Client.Relay
import ProxyZ.Client.Crowd
import ProxyZ.Client.Slots
import ProxyZ.Client.Identity
import ProxyZ.Client.Rotation
import ProxyZ.Client.Decoders
import ProxyZ.Client.Listen
import ProxyZ.Client.Worst
import ProxyZ.Client.Reopen
import ProxyZ.Client.Reported
import ProxyZ.Client.Address
import ProxyZ.Client.Copy
import ProxyZ.Client.Pipe
import ProxyZ.Server.Registry
import ProxyZ.Server.Proxies
import ProxyZ.Server.Select
import ProxyZ.Server.Launch
import ProxyZ.Server.Handlers
import ProxyZ.Server.Live
import ProxyZ.Server.Malformed
import ProxyZ.Server.Ports
import ProxyZ.Server.Typed
import ProxyZ.Server.Firewall
import ProxyZ.Server.Ledger
import ProxyZ.Server.Untyped
import ProxyZ.Server.Turns
import ProxyZ.Tunnel.Accept
import ProxyZ.Tunnel.Handle
import ProxyZ.Tunnel.Robust
import ProxyZ.Tunnel.Alive
import ProxyZ.Tunnel.Streams
import ProxyZ.Tunnel.Smux
import ProxyZ.Tunnel.Quic
import ProxyZ.Dns.Query
import ProxyZ.Dns.Local
import ProxyZ.Dns.Lan
import ProxyZ.Dns.Rules
import ProxyZ.Dns.Bypass
import ProxyZ.Dns.Fresh
import ProxyZ.Dns.Reply
import ProxyZ.Dns.Glob
import ProxyZ.Dns.Exact
import ProxyZ.Dns.Batch
import ProxyZ.Client.Counted
import ProxyZ.Client.Received
import ProxyZ.Base.Uri
import ProxyZ.Deploy.Routes
import ProxyZ.Deploy.Fastest
import ProxyZ.Deploy.Switch
import ProxyZ.Deploy.LocalApi
import ProxyZ.Deploy.Ssh
import ProxyZ.Router.Filter
import ProxyZ.Router.Listing
import ProxyZ.Net.Chains
import ProxyZ.Net.Iptables
import ProxyZ.Router.Redirect
import ProxyZ.System.Path
import ProxyZ.System.Http
import ProxyZ.System.Code
import ProxyZ.System.Names
import ProxyZ.System.Profiles
