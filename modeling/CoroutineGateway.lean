import CoroutineGateway.Framework.Base64
import CoroutineGateway.Framework.Census
import CoroutineGateway.Framework.Endpoint
import CoroutineGateway.Framework.FlatJson
import CoroutineGateway.Framework.HttpMessage
import CoroutineGateway.Framework.KeyedList
import CoroutineGateway.Framework.LinkedList
import CoroutineGateway.Framework.Machine
import CoroutineGateway.Framework.Memory
import CoroutineGateway.Framework.OrderedSet
import CoroutineGateway.Framework.Ownership
import CoroutineGateway.Framework.PrefixTable
import CoroutineGateway.Framework.Reactive
import CoroutineGateway.Framework.RecencyList
import CoroutineGateway.Framework.RoundRobin
import CoroutineGateway.Framework.Search
import CoroutineGateway.Framework.Semaphore
import CoroutineGateway.Framework.SlotTable
import CoroutineGateway.Framework.StackDistance
import CoroutineGateway.Framework.Subnet
import CoroutineGateway.Framework.Text
import CoroutineGateway.Framework.WorkPool
import CoroutineGateway.Construction.Address
import CoroutineGateway.Construction.ConnectionSlots
import CoroutineGateway.Construction.ContextTable
import CoroutineGateway.Construction.DoIo
import CoroutineGateway.Construction.EventRegistry
import CoroutineGateway.Construction.FdManager
import CoroutineGateway.Construction.FiberSwitch
import CoroutineGateway.Construction.FilterChain
import CoroutineGateway.Construction.FindCache
import CoroutineGateway.Construction.Forwarding
import CoroutineGateway.Construction.GatewayConfig
import CoroutineGateway.Construction.GatewayConn
import CoroutineGateway.Construction.GatewayServer
import CoroutineGateway.Construction.Jwt
import CoroutineGateway.Construction.LruCache
import CoroutineGateway.Construction.MemoryPool
import CoroutineGateway.Construction.ReadOnce
import CoroutineGateway.Construction.Scheduler
import CoroutineGateway.Construction.Sleep
import CoroutineGateway.Construction.StatusFlags
import CoroutineGateway.Construction.Stopping
import CoroutineGateway.Construction.Suspension
import CoroutineGateway.Construction.Task
import CoroutineGateway.Construction.TcpServer
import CoroutineGateway.Construction.ThreadStart
import CoroutineGateway.Construction.TimedScheduler
import CoroutineGateway.Construction.Timer
import CoroutineGateway.Construction.TimerThreads
import CoroutineGateway.Properties.AcceptLoops
import CoroutineGateway.Properties.AddressLookup
import CoroutineGateway.Properties.AddressText
import CoroutineGateway.Properties.Admission
import CoroutineGateway.Properties.Answers
import CoroutineGateway.Properties.BalancedPicks
import CoroutineGateway.Properties.Blacklist
import CoroutineGateway.Properties.BlockedClients
import CoroutineGateway.Properties.BoundedBuffering
import CoroutineGateway.Properties.ByteOrder
import CoroutineGateway.Properties.CacheCapacity
import CoroutineGateway.Properties.CacheNodes
import CoroutineGateway.Properties.CancelledTimer
import CoroutineGateway.Properties.ClaimLookup
import CoroutineGateway.Properties.ClientHandlers
import CoroutineGateway.Properties.ClosedFiles
import CoroutineGateway.Properties.ConfigFile
import CoroutineGateway.Properties.ConfigOrder
import CoroutineGateway.Properties.ConfigRoundTrip
import CoroutineGateway.Properties.Connecting
import CoroutineGateway.Properties.DoIoReturns
import CoroutineGateway.Properties.EarlyWakeUp
import CoroutineGateway.Properties.EventDispatch
import CoroutineGateway.Properties.EventRemoval
import CoroutineGateway.Properties.ExactlyOnce
import CoroutineGateway.Properties.FailedLoad
import CoroutineGateway.Properties.FaithfulRelay
import CoroutineGateway.Properties.FdTimeouts
import CoroutineGateway.Properties.FiberExclusion
import CoroutineGateway.Properties.FindCacheNodes
import CoroutineGateway.Properties.FindCacheRuns
import CoroutineGateway.Properties.FindCacheStore
import CoroutineGateway.Properties.Generations
import CoroutineGateway.Properties.HeaderLookup
import CoroutineGateway.Properties.JwtCacheTransparency
import CoroutineGateway.Properties.KeyRotation
import CoroutineGateway.Properties.LruHistory
import CoroutineGateway.Properties.LruRefinement
import CoroutineGateway.Properties.Metrics
import CoroutineGateway.Properties.Nonblocking
import CoroutineGateway.Properties.OwnConnections
import CoroutineGateway.Properties.OwnStacks
import CoroutineGateway.Properties.OwnTimers
import CoroutineGateway.Properties.RateLimit
import CoroutineGateway.Properties.RegistryInvariant
import CoroutineGateway.Properties.Reload
import CoroutineGateway.Properties.RequestFraming
import CoroutineGateway.Properties.RouteLifetime
import CoroutineGateway.Properties.Routing
import CoroutineGateway.Properties.Shutdown
import CoroutineGateway.Properties.SlotBounds
import CoroutineGateway.Properties.SlotPartition
import CoroutineGateway.Properties.StartedThreads
import CoroutineGateway.Properties.SubnetAddresses
import CoroutineGateway.Properties.Suspension
import CoroutineGateway.Properties.TableGrowth
import CoroutineGateway.Properties.TaskOrder
import CoroutineGateway.Properties.ThreadHandover
import CoroutineGateway.Properties.TimerExpiry
import CoroutineGateway.Properties.TimerIdentity
import CoroutineGateway.Properties.TimerSet
import CoroutineGateway.Properties.TimerWakeUp
import CoroutineGateway.Properties.TokenSigning
import CoroutineGateway.Properties.Waiters
import CoroutineGateway.Properties.WakeUp
