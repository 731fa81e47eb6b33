import TCPunch.Lib.FiniteMap
import TCPunch.Lib.Program
import TCPunch.Lib.Linearization
import TCPunch.Lib.Machine
import TCPunch.Lib.Typestate
import TCPunch.Lib.Budget
import TCPunch.Lib.Journal
import TCPunch.Lib.Acyclic
import TCPunch.Lib.Rendezvous
import TCPunch.Lib.Matching
import TCPunch.Lib.Handover
import TCPunch.Lib.Hex
import TCPunch.Lib.Bytes
import TCPunch.Protocol.Messages
import TCPunch.Protocol.Uuid
import TCPunch.Protocol.Codec
import TCPunch.Protocol.Grammar
import TCPunch.Protocol.Utils
import TCPunch.Registry.Types
import TCPunch.Registry.InMemory
import TCPunch.Registry.Atomic
import TCPunch.Registry.Journal
import TCPunch.Registry.Inverse
import TCPunch.Registry.Isolation
import TCPunch.Registry.Resumption
import TCPunch.Registry.Expiry
import TCPunch.Registry.Growth
import TCPunch.Registry.Stages
import TCPunch.Registry.Linearizable
import TCPunch.Registry.Locks
import TCPunch.Registry.LockCycle
import TCPunch.Redis.Registry
import TCPunch.Redis.Atomic
import TCPunch.Redis.Faults
import TCPunch.Redis.Cleanup
import TCPunch.Redis.Notifications
import TCPunch.Redis.Reconnection
import TCPunch.Redis.Expiry
import TCPunch.Registry.Backends
import TCPunch.Redis.Stages
import TCPunch.Redis.FirstClients
import TCPunch.Server.Handler
import TCPunch.Protocol.Guide
import TCPunch.Server.Wire
import TCPunch.Server.HolePunching
import TCPunch.Server.World
import TCPunch.Server.Service
import TCPunch.Server.Accept
import TCPunch.Server.Drain
import TCPunch.Server.Accounting
import TCPunch.Server.Snapshot
import TCPunch.Server.Positions
import TCPunch.Server.Session
import TCPunch.Server.InMemory
import TCPunch.Server.Concurrent
import TCPunch.Server.Refinement
import TCPunch.Server.Partners
import TCPunch.Server.Conversation
import TCPunch.Server.EndedSessions
import TCPunch.Server.Agreement
import TCPunch.Server.Timeouts
import TCPunch.Server.Ghosts
import TCPunch.Server.Redis
import TCPunch.Server.Fleet
import TCPunch.Server.Returns
import TCPunch.Server.Sources
import TCPunch.Client.Documented
import TCPunch.Client.System
import TCPunch.Server.Listening
import TCPunch.Client.Pair
import TCPunch.Client.Descriptors
import TCPunch.Client.Calls
import TCPunch.Client.Listeners
import TCPunch.Client.Results
import TCPunch.Client.Servers
