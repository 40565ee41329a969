import DrogonStarter.Lib.Transition
import DrogonStarter.Lib.Unwinding
import DrogonStarter.Lib.Tally
import DrogonStarter.Lib.FloatFormat
import DrogonStarter.Lib.Number
import DrogonStarter.Lib.Binary64
import DrogonStarter.Lib.Decimal
import DrogonStarter.Lib.Text
import DrogonStarter.Lib.Json
import DrogonStarter.Observability.Settings
import DrogonStarter.Observability.TelemetryQueue
import DrogonStarter.Observability.TimerLifetime
import DrogonStarter.Observability.Clock
import DrogonStarter.Observability.CircuitState
import DrogonStarter.Observability.Delivery
import DrogonStarter.Observability.Exporter
import DrogonStarter.Observability.RetryBounds
import DrogonStarter.Observability.Recovery
import DrogonStarter.Observability.Pause
import DrogonStarter.Observability.Reporter
import DrogonStarter.Observability.Metrics
import DrogonStarter.Observability.Accounting
import DrogonStarter.Pagination.PageRequest
import DrogonStarter.Pagination.PageResponse
import DrogonStarter.Cache.RedisCache
import DrogonStarter.Cache.ListCache
import DrogonStarter.Cache.CacheCoherence
import DrogonStarter.Cache.CacheKeys
import DrogonStarter.Config.EnvFile
import DrogonStarter.Config.AppConfig
import DrogonStarter.Config.SigningSecret
import DrogonStarter.Config.Precedence
import DrogonStarter.Orm.Mapper
import DrogonStarter.Users.UserService
import DrogonStarter.Users.UserController
import DrogonStarter.Users.Masking
import DrogonStarter.Users.Disclosure
import DrogonStarter.Lib.SlidingWindow
import DrogonStarter.Observability.RateLimiter
import DrogonStarter.Observability.ClockRace
import DrogonStarter.Observability.ClientLimit
import DrogonStarter.Records.RecordService
import DrogonStarter.Roles.RoleService
import DrogonStarter.Pagination.Crawl
import DrogonStarter.Lib.KeyedRows
import DrogonStarter.Records.RecordEndpoint
import DrogonStarter.Roles.RoleController
import DrogonStarter.Records.Refinement
import DrogonStarter.Records.CachedPages
import DrogonStarter.Cache.FailOpen
import DrogonStarter.Cache.CachedCrawl
import DrogonStarter.Migrations.MigrationRun
import DrogonStarter.Migrations.Ledger
import DrogonStarter.Lib.WholeNumber
import DrogonStarter.Config.Validation
import DrogonStarter.Config.ContainerStart
import DrogonStarter.Lib.FixedPoint
import DrogonStarter.Observability.Activation
import DrogonStarter.Pagination.PageArithmetic
import DrogonStarter.Pagination.PageParameters
import DrogonStarter.Lib.Arrangement
import DrogonStarter.Records.PageOrder
import DrogonStarter.Lib.Trace
import DrogonStarter.Observability.CircuitTrace
import DrogonStarter.Observability.LimiterTrace
import DrogonStarter.Observability.ProviderSelection
import DrogonStarter.Lib.Handler
import DrogonStarter.Observability.SentryDsn
import DrogonStarter.Users.AuthController
import DrogonStarter.Lib.JsonPath
import DrogonStarter.Lib.JsonText
import DrogonStarter.Observability.CapturedEvents
import DrogonStarter.Observability.OtlpPayload
import DrogonStarter.Observability.SentryEnvelope
import DrogonStarter.Records.MalformedBodies
import DrogonStarter.Schemas.AuthSchema
import DrogonStarter.Observability.BatchSize
import DrogonStarter.Observability.MalformedDsn
import DrogonStarter.Records.ListHandlers
import DrogonStarter.Lib.HexNumeral
import DrogonStarter.Observability.TraceContext
import DrogonStarter.Records.SoftDelete
import DrogonStarter.Observability.SettingTexts
import DrogonStarter.Lib.Uri
import DrogonStarter.Config.ConnectionString
import DrogonStarter.Lib.Substitution
import DrogonStarter.Generator.ProjectInit
import DrogonStarter.Generator.Manifest
import DrogonStarter.Generator.Upgrade
import DrogonStarter.Generator.Lifecycle
import DrogonStarter.Lib.InsertStatement
import DrogonStarter.Models.Column
import DrogonStarter.Models.ModelClasses
import DrogonStarter.Models.JsonForm
import DrogonStarter.Models.Validation
import DrogonStarter.Models.Statements
import DrogonStarter.Models.Schema
import DrogonStarter.Models.Timestamp
import DrogonStarter.Models.ResultRow
import DrogonStarter.Models.StoredRows
import DrogonStarter.Users.Login
import DrogonStarter.Application.RequestPipeline
import DrogonStarter.Application.Outsiders
import DrogonStarter.Records.StoredRow
import DrogonStarter.Application.UserSession
import DrogonStarter.Lib.Frontend
import DrogonStarter.Application.Resources
import DrogonStarter.Application.Freshness
import DrogonStarter.Application.Answers
import DrogonStarter.Grpc.GrpcServer
