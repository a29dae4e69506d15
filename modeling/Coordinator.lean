import Coordinator.Library.Table
import Coordinator.Library.GuardedRun
import Coordinator.Library.JsonObject
import Coordinator.Library.LockPath
import Coordinator.Library.LeaseElection
import Coordinator.Schema
import Coordinator.AgentRegistry
import Coordinator.AgentActivity
import Coordinator.Consultation
import Coordinator.RestHandlers
import Coordinator.FileTracking
import Coordinator.ImpactScorer
import Coordinator.AnnounceWorkflow
import Coordinator.ThreadEffects
import Coordinator.ThreadStep
import Coordinator.TerminalStatus
import Coordinator.AnnounceOutcome
import Coordinator.ThreadMessages
import Coordinator.Consensus
import Coordinator.ClaimExclusivity
import Coordinator.DepartureFrame
import Coordinator.ConflictDetector
import Coordinator.AuthContext
import Coordinator.AuthWorld
import Coordinator.ConflictAgreement
import Coordinator.FamilyRevocation
import Coordinator.HardReuse
import Coordinator.SweeperRetention
import Coordinator.TokenFamily
import Coordinator.GraceRetry
import Coordinator.HonestRetry
import Coordinator.IdpTokens
import Coordinator.DeviceGrant
import Coordinator.TokenEpoch
import Coordinator.MqttListener
import Coordinator.HandOutOrder
import Coordinator.WaitSettlement
import Coordinator.RevokedAgents
import Coordinator.AuditChain
import Coordinator.AuditWriters
import Coordinator.AuditBoot
import Coordinator.AuditConservation
import Coordinator.AuditForgery
import Coordinator.AuthClaims
import Coordinator.MqttTopics
import Coordinator.MqttAdmission
import Coordinator.TenantIsolation
import Coordinator.SseResume
import Coordinator.AgentIdMigration
import Coordinator.EncryptionFingerprint
import Coordinator.SingleFlight
import Coordinator.PidLock
import Coordinator.SdkRefresh
import Coordinator.RestoreCheck
import Coordinator.AdminBootstrap
import Coordinator.ResolutionEvents
import Coordinator.RetainedConsultation
import Coordinator.RegistryFrame
import Coordinator.DeferredDeparture
import Coordinator.DepartureElection
import Coordinator.ToolScopes
import Coordinator.RestSchemas
import Coordinator.RestRoutes
import Coordinator.OperationWrites
import Coordinator.ScopeEnforcement
import Coordinator.Library.EventStream
import Coordinator.Presence
import Coordinator.Library.CursorFeed
import Coordinator.ThreadUpdates
import Coordinator.ResolvedWindow
import Coordinator.PlainScorer
import Coordinator.PrimaryReason
import Coordinator.Library.TokenBucket
import Coordinator.RateLimiter
import Coordinator.LoginLockout
import Coordinator.MembershipCache
import Coordinator.Library.Base64Url
import Coordinator.Library.IdealAead
import Coordinator.EnvelopeEncryption
import Coordinator.Library.PosixPath
import Coordinator.PathNormalize
import Coordinator.PathRoots
import Coordinator.Library.Tally
import Coordinator.GitCochange
import Coordinator.PredictorCap
import Coordinator.CochangeRebuild
import Coordinator.CochangeCount
import Coordinator.StatusMerge
import Coordinator.TokenMigration
import Coordinator.Library.UrlQuery
import Coordinator.TokenRedaction
import Coordinator.Library.PosixResolve
import Coordinator.PathGuard
import Coordinator.DashboardStatic
import Coordinator.Library.Worklist
import Coordinator.BlastReach
import Coordinator.QuotaPresence
import Coordinator.TokenFile
import Coordinator.Library.JsonText
import Coordinator.ChannelNotification
import Coordinator.ProfilesToml
import Coordinator.ProfilesRendering
import Coordinator.ProfilesRoundTrip
import Coordinator.SharedLock
import Coordinator.SweeperLease
import Coordinator.Library.FixedWindow
import Coordinator.RedisRateLimiter
import Coordinator.OAuthLogin
import Coordinator.QuotaRefresh
import Coordinator.Library.Dictionary
import Coordinator.McpSessions
import Coordinator.McpSessionLaws
import Coordinator.Library.MarkedText
import Coordinator.ClaudeMd
import Coordinator.AdminOrgs
import Coordinator.SignIn
import Coordinator.SignInMoves
import Coordinator.SignInLaws
import Coordinator.RestoreCli
import Coordinator.ServiceTokens
