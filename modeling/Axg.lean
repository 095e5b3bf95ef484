import Axg.Telemetry
import Axg.Simulation
import Axg.Rfc8785
import Axg.AuditTamper
import Axg.Gate
import Axg.Hardening
import Axg.Shadow
import Axg.Clients
import Axg.World
import Axg.SignedContext
import Axg.AuditExact
import Axg.Introspection
import Axg.Keys
import Axg.Remote
import Axg.Verifiers
import Axg.ExecutionRecords
import Axg.Limits
import Axg.PolicyLoads
import Axg.Refusals
import Axg.Interceptor
import Axg.ClaudeHook
import Axg.Gateway
import Axg.GatewayPassports
import Axg.ForwardedCalls
import Axg.CodingAgents
import Axg.ProviderLoads
import Axg.Replay
import Axg.ApprovalRuns
import Axg.Accountability
import Axg.Jwk
import Axg.GatewayHttp
import Axg.Policies
import Axg.ApprovalClients
import Axg.ApprovalQueue
import Axg.AgtBackend
import Axg.Schemas
import Axg.Python.JsonDumps
import Axg.Python.JsonCut
import Axg.Python.JsonChars
import Axg.Python.JsonBytes
import Axg.General.HashChain
import Axg.General.Run
import Axg.General.FirstWins
import Axg.General.ReadThrough
import Axg.General.PerKey
import Axg.General.SharedFill
