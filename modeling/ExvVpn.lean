import ExvVpn.Theorems.Chunking
import ExvVpn.Theorems.ProxyConvergence
import ExvVpn.Theorems.HostAdmission
import ExvVpn.Theorems.HostLinearization
import ExvVpn.Theorems.HostReconnect
import ExvVpn.Theorems.EngineRoutes
import ExvVpn.Theorems.DarwinStop
import ExvVpn.Theorems.DarwinRoutes
import ExvVpn.Theorems.CoreSession
import ExvVpn.Theorems.CoreOrder
import ExvVpn.Theorems.SystemClean
import ExvVpn.Theorems.HelperOwnership
import ExvVpn.Theorems.AdmissionIndex
import ExvVpn.Theorems.JournalChain
import ExvVpn.Theorems.JournalRecovery
import ExvVpn.Theorems.RouteOwnership
import ExvVpn.Theorems.BypassOrder
import ExvVpn.Theorems.BypassWildcard
import ExvVpn.Theorems.RouteHandover
import ExvVpn.Theorems.StatusHub
import ExvVpn.Theorems.DataPlane
import ExvVpn.Theorems.HostSnapshot
import ExvVpn.Theorems.HostTeardown
import ExvVpn.Theorems.EventBus
import ExvVpn.Theorems.RuntimeActor
import ExvVpn.Theorems.OwnerLease
import ExvVpn.Theorems.Retirement
import ExvVpn.Theorems.RouteAck
import ExvVpn.Theorems.RoutePlan
import ExvVpn.Theorems.RouteRetry
import ExvVpn.Theorems.SessionEnd
import ExvVpn.Theorems.Mux
import ExvVpn.Theorems.Budget
import ExvVpn.Theorems.EndpointBind
import ExvVpn.Theorems.LoginForm
import ExvVpn.Theorems.LogAggregator
import ExvVpn.Theorems.LogPaging
import ExvVpn.Theorems.ProxyFingerprint
import ExvVpn.Theorems.ProxyPayload
import ExvVpn.Theorems.ProxyRestore
import ExvVpn.Theorems.CodecRoundTrip
import ExvVpn.Theorems.StartupHygiene
import ExvVpn.Theorems.StartupRecovery
import ExvVpn.Theorems.TunnelRoutes
import ExvVpn.Theorems.ConnectEnvelope
import ExvVpn.Theorems.Connectable
import ExvVpn.Theorems.Redaction
import ExvVpn.Theorems.RuntimeDirName
import ExvVpn.Theorems.NetworkPrefix
import ExvVpn.Theorems.UiPrefs
