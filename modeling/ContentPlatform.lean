import ContentPlatform.Program.Concurrent
import ContentPlatform.Text.Json
import ContentPlatform.Text.IsoDateTime
import ContentPlatform.Resilience.Guard
import ContentPlatform.Api.Pagination
import ContentPlatform.Cache.Keys
import ContentPlatform.Services.ArticleService
import ContentPlatform.Services.AuthService
import ContentPlatform.Session
import ContentPlatform.Api.Requests
import ContentPlatform.World.Exec
import ContentPlatform.World.Rows
import ContentPlatform.World.Run
import ContentPlatform.Resilience.Failures
import ContentPlatform.Schemas
import ContentPlatform.Guarantees.RowHistory
import ContentPlatform.Guarantees.OptimisticConcurrency
import ContentPlatform.World.Footprint
import ContentPlatform.World.Cached
import ContentPlatform.Guarantees.CircuitBreaking
import ContentPlatform.Guarantees.LoadShedding
import ContentPlatform.Transactions
import ContentPlatform.Guarantees.WriteIndependence
import ContentPlatform.Guarantees.FailOpen
import ContentPlatform.Guarantees.ExactInvalidation
import ContentPlatform.Guarantees.BoundedStaleness
import ContentPlatform.Guarantees.LockOwnership
import ContentPlatform.Guarantees.Coalescing
import ContentPlatform.Guarantees.BreakerAccounting
import ContentPlatform.Guarantees.GuardedCalls
import ContentPlatform.Guarantees.CursorDecoding
import ContentPlatform.Guarantees.CacheLatch
import ContentPlatform.Guarantees.LostWrites
import ContentPlatform.Guarantees.LoadedAttributes
import ContentPlatform.Guarantees.Registration
import ContentPlatform.Guarantees.CursorStrictness
import ContentPlatform.Guarantees.KeyNamespaces
import ContentPlatform.Guarantees.RoutePolicy
import ContentPlatform.Guarantees.Redaction
import ContentPlatform.Guarantees.DatabaseUrl
import ContentPlatform.Guarantees.PageDecoding
import ContentPlatform.Guarantees.PageRoundTrip
import ContentPlatform.Api.Articles
import ContentPlatform.Guarantees.ConcurrencyToken
import ContentPlatform.Program.Yields
import ContentPlatform.World.Returned
import ContentPlatform.Api.Accounts
import ContentPlatform.Guarantees.RegisteredLogin
import ContentPlatform.Guarantees.BreakerAdmissions
import ContentPlatform.Rounding
import ContentPlatform.Guarantees.RetryBudget
import ContentPlatform.Resilience.Policy
import ContentPlatform.Program.LockedRead
import ContentPlatform.Guarantees.SingleFlight
import ContentPlatform.Guarantees.SeedResumption
import ContentPlatform.Guarantees.CounterFaults
import ContentPlatform.Guarantees.DetailFreshness
import ContentPlatform.Program.Recorded
import ContentPlatform.World.Carried
import ContentPlatform.Guarantees.Durability
import ContentPlatform.Keyset
import ContentPlatform.Program.Interleaved
import ContentPlatform.World.Pages
import ContentPlatform.World.Paged
import ContentPlatform.Guarantees.KeysetWalk
import ContentPlatform.Program.Chronicle
import ContentPlatform.Program.Embedding
import ContentPlatform.Observability.Context
import ContentPlatform.Api.Middleware
import ContentPlatform.World.Site
import ContentPlatform.Guarantees.RequestAccounting
import ContentPlatform.World.Tally
import ContentPlatform.World.Projection
import ContentPlatform.World.Endpoints
import ContentPlatform.Guarantees.LayerRefinement
import ContentPlatform.Guarantees.EndToEnd
import ContentPlatform.Program.Waiting
import ContentPlatform.World.Holders
import ContentPlatform.Guarantees.DeadlockFreedom
import ContentPlatform.World.Faults
import ContentPlatform.Program.Replay
import ContentPlatform.Guarantees.FaultContainment
