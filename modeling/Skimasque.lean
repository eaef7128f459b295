import Skimasque.Core.Capsule
import Skimasque.Gateway.Revocation
import Skimasque.Gateway.Stack
import Skimasque.Gateway.Pinning
import Skimasque.Gateway.Metering
import Skimasque.Gateway.Session
import Skimasque.Gateway.Datagrams
import Skimasque.Gateway.AddressPool
import Skimasque.Gateway.RelayFlow
import Skimasque.Gateway.Teardown
import Skimasque.Control.CacheCrash
import Skimasque.Control.Sync
import Skimasque.Control.HotReload
import Skimasque.Platform.Isolation
import Skimasque.Platform.Mint
import Skimasque.Audit.Tenancy
import Skimasque.Gateway.AddressFloor
import Skimasque.Gateway.PoolArithmetic
import Skimasque.Gateway.Deadline
import Skimasque.Engine.Learn
import Skimasque.Engine.RoundTrip
import Skimasque.Cli.PolicyDiff
import Skimasque.Cli.SocksAssociation
import Skimasque.Deploy.Trust
import Skimasque.Deploy.Integrity
import Skimasque.Core.TargetPath
import Skimasque.Core.Framing
import Skimasque.Core.IpCapsuleRoundTrip
import Skimasque.Engine.LivePatterns
import Skimasque.Cli.ProxyStatus
import Skimasque.Gateway.SourceRate
import Skimasque.Gateway.RateLimit
import Skimasque.Core.VarintExact
import Skimasque.Core.RouteOrdering
import Skimasque.Engine.DurationExact
import Skimasque.Engine.PatternMeaning
import Skimasque.Cli.SocksExact
import Skimasque.Cli.RequestHead
import Skimasque.Cli.PlainExchange
import Skimasque.Audit.Timestamp
import Skimasque.Platform.RemoteMint
import Skimasque.Control.Pace
import Skimasque.Native.TcpStream
import Skimasque.Native.Admission
import Skimasque.Native.UdpFlows
import Skimasque.Identity.KeyRotation
import Skimasque.Engine.Review
import Skimasque.Gateway.Drain
import Skimasque.Cli.ExecSafety
