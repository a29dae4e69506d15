import Coordinator.Library.DecimalText
import Coordinator.RefreshTokens

namespace Coordinator

def secondsPerDay : Nat := 86400
def batchSize : Nat := 1000
def staleBufferSeconds : Nat := 60
def refreshExpiredRetentionDays : Nat := 30

/-- A retention setting that denotes a number of days. -/
structure RetentionDays where
  days : ℚ
  nonneg : 0 ≤ days

def RetentionDays.ofDays (n : Nat) : RetentionDays := { days := n, nonneg := Nat.cast_nonneg n }

inductive RetentionKey
  | refreshRetentionDays
  | auditRetentionDays
  | auditTier2RetentionDays
  | fileActivityRetentionDays
  | eventsRetentionDays
  | threadMessagesRetentionDays
  | actionSummariesRetentionDays
  | layerFiringsRetentionDays
  deriving DecidableEq, Repr

def RetentionKey.default : RetentionKey → RetentionDays
  | .refreshRetentionDays => .ofDays 180
  | .auditRetentionDays => .ofDays 365
  | .auditTier2RetentionDays => .ofDays 90
  | .fileActivityRetentionDays => .ofDays 7
  | .eventsRetentionDays => .ofDays 7
  | .threadMessagesRetentionDays => .ofDays 30
  | .actionSummariesRetentionDays => .ofDays 30
  | .layerFiringsRetentionDays => .ofDays 30

/-- The `COORDINATOR_*_RETENTION_DAYS` variables that are set (the sweeper passes
no org, so only the environment and the default are looked at), and the digits
that `String` puts after the point of a number. -/
structure SweepEnv where
  setting : RetentionKey → Option RetentionDays
  fractionDigits : ℚ → String

def getOrgSetting (env : SweepEnv) (key : RetentionKey) : RetentionDays := (env.setting key).getD key.default

/-- `now - days * SECONDS_PER_DAY`, in exact arithmetic. -/
def cutoff (now : Int) (retention : RetentionDays) : ℚ := now - retention.days * secondsPerDay

/-- `String(cutoff)`. -/
def SweepEnv.string (env : SweepEnv) (cutoff : ℚ) : String := DecimalText.decimal cutoff (env.fractionDigits cutoff)

def tier1Events : List String :=
  ["auth.refresh.chain_revoked", "auth.refresh.suspicious_replay", "auth.state.replay",
    "auth.state.provider_unregistered", "auth.state.mixup", "auth.login.denied.not_in_org", "auth.login.locked",
    "auth.token.revoked", "auth.logout.global", "auth.service_token.issued", "auth.service_token.revoked",
    "auth.admin.bootstrapped", "auth.bootstrap.admin_assigned", "auth.idp.token_revoked", "auth.idp.unknown_kid",
    "recovery.token_epoch_global_bump", "recovery.completed", "config.boot", "config.key_rotation",
    "system.shutdown.audit_loss", "migration.audit_backfill", "admin.orgs.duplicate_names_accepted",
    "admin.org.created", "admin.org.updated", "admin.user.role_changed"]

def tier2Events : List String :=
  ["auth.login.success", "auth.login.failure", "auth.refresh.rotated", "auth.refresh.idle_expired",
    "auth.device.code_issued", "auth.device.approved", "auth.device.denied", "auth.user.created",
    "auth.user.provisioned", "auth.logout.local", "auth.invalid_token", "auth.legacy_token.accepted",
    "auth.service_token.used", "auth.csrf.failed", "auth.provider.unknown", "auth.idp.stale_served"]

/-- A row of one of the coordination tables. `epoch` is the value of
`strftime('%s', …)` on its timestamp, NULL when that is missing or unreadable. -/
structure StampedRow where
  id : Nat
  epoch : Option Int
  deriving DecidableEq, Repr

structure AuditRow where
  id : Nat
  action : String
  epoch : Option Int
  deriving DecidableEq, Repr

/-- A row whose expiry is compared as an integer. -/
structure ExpiringRow where
  id : String
  expiresAt : Int
  deriving DecidableEq, Repr

/-- The coordination tables with a retention of their own; `layer_firings` has `fired_at`. -/
inductive StampedTable
  | fileActivity
  | events
  | threadMessages
  | actionSummaries
  | layerFirings
  deriving DecidableEq, Repr

def StampedTable.key : StampedTable → RetentionKey
  | .fileActivity => .fileActivityRetentionDays
  | .events => .eventsRetentionDays
  | .threadMessages => .threadMessagesRetentionDays
  | .actionSummaries => .actionSummariesRetentionDays
  | .layerFirings => .layerFiringsRetentionDays

structure SweptTables where
  oauthState : Table ExpiringRow ExpiringRow.id
  deviceAuthRequests : Table ExpiringRow ExpiringRow.id
  refreshTokens : RefreshTokens
  auditLog : Table AuditRow AuditRow.id
  stamped : StampedTable → Table StampedRow StampedRow.id

structure SweepCounts where
  oauthState : Nat
  deviceAuthRequests : Nat
  refreshTokensRevoked : Nat
  refreshTokensExpired : Nat
  auditLogTier1 : Nat
  auditLogTier2 : Nat
  stamped : StampedTable → Nat

def SweepCounts.total (n : SweepCounts) : Nat :=
  n.oauthState + n.deviceAuthRequests + n.refreshTokensRevoked + n.refreshTokensExpired + n.auditLogTier1 +
    n.auditLogTier2 + n.stamped .fileActivity + n.stamped .events + n.stamped .threadMessages +
    n.stamped .actionSummaries + n.stamped .layerFirings

def refreshRevokedExpired (env : SweepEnv) (now : Int) (r : RefreshRow) : Bool :=
  r.revokedAt.any fun t => (t : ℚ) < cutoff now (getOrgSetting env .refreshRetentionDays)

def refreshExpired (now : Int) (r : RefreshRow) : Bool :=
  r.revokedAt = none ∧ (r.expiresAt : ℚ) < cutoff now (.ofDays refreshExpiredRetentionDays)

end Coordinator
