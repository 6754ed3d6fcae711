import TinyReverseProxy.Gateway.Attribution
import TinyReverseProxy.Gateway.Cooldown
import TinyReverseProxy.Gateway.McpServers
import TinyReverseProxy.Gateway.SemanticReplay
import TinyReverseProxy.Gateway.SemanticSteps
import TinyReverseProxy.Gateway.ToolEncodings
import TinyReverseProxy.Gateway.UsageNodes
import TinyReverseProxy.Management.Canaries
import TinyReverseProxy.Management.CanaryTraffic
import TinyReverseProxy.Management.ConfigRestore
import TinyReverseProxy.Management.EvalRecovery
import TinyReverseProxy.Management.KeysInStep
import TinyReverseProxy.Management.ProjectInterference
import TinyReverseProxy.Management.SemanticSync
import TinyReverseProxy.Management.SessionAccess
import TinyReverseProxy.Management.SessionRaces
import TinyReverseProxy.Management.UsageScope
import TinyReverseProxy.Proxy.Admission
import TinyReverseProxy.Proxy.Balancing
import TinyReverseProxy.Proxy.Branches
import TinyReverseProxy.Proxy.HopByHop
import TinyReverseProxy.Proxy.ListHeaders
import TinyReverseProxy.Proxy.RateLimit
import TinyReverseProxy.Proxy.Reuse
import TinyReverseProxy.Proxy.Sighup
import TinyReverseProxy.Server.Shutdown
