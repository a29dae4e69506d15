import Coordinator.Library.Table

namespace Coordinator

abbrev OrgId := String
abbrev AgentId := String
abbrev ThreadId := String
abbrev ModuleId := String
abbrev FilePath := String

/-- `DEFAULT 'default'` of every `org_id` column. -/
def defaultOrg : OrgId := "default"

/-- A nullable TEXT column that should hold a JSON array of strings. All writers
go through `JSON.stringify`, so an array has one spelling; the read paths also
tolerate a hand-edited or truncated value that does not parse. -/
inductive JsonText
  | null
  | malformed (raw : String)
  | array (items : List String)
  deriving DecidableEq, Repr

def safeJsonParse : JsonText → List String → List String
  | .null, fallback => fallback
  | .malformed _, fallback => fallback
  | .array items, _ => items

/-- The two spellings of an instant that the writers leave in a TEXT column:
`CURRENT_TIMESTAMP` (`YYYY-MM-DD HH:MM:SS`) and `toISOString()`
(`YYYY-MM-DDTHH:MM:SS.mmmZ`), both in UTC. -/
inductive Stamp
  | sqlite (seconds : Nat)
  | iso (millis : Nat)
  deriving DecidableEq, Repr

namespace Stamp

/-- `strftime('%s', …)`. -/
def seconds : Stamp → Nat
  | .sqlite s => s
  | .iso ms => ms / 1000

/-- Comparison as TEXT. The dates of two stamps have the same width, so days
are compared first; on one day a blank sorts before a `T`. -/
def lt : Stamp → Stamp → Bool
  | .sqlite a, .sqlite b => a < b
  | .iso a, .iso b => a < b
  | .sqlite a, .iso b => a / 86400 ≤ b / 86400000
  | .iso a, .sqlite b => a / 86400000 < b / 86400

end Stamp

inductive AgentConnectionStatus
  | online
  | offline
  deriving DecidableEq, Repr

structure Agent where
  id : AgentId
  orgId : OrgId
  name : String
  modules : JsonText
  status : AgentConnectionStatus
  registeredAt : Stamp
  lastSeenAt : Stamp
  deriving DecidableEq, Repr

def Agent.key (a : Agent) : OrgId × AgentId := (a.orgId, a.id)

inductive ThreadStatus
  | opened
  | resolving
  | resolved
  | cancelled
  | poisoned
  deriving DecidableEq, Repr

def ThreadStatus.text : ThreadStatus → String
  | .opened => "open"
  | .resolving => "resolving"
  | .resolved => "resolved"
  | .cancelled => "cancelled"
  | .poisoned => "poisoned"

/-- `status IN ('open', 'resolving')`. -/
def ThreadStatus.active : ThreadStatus → Bool
  | .opened => true
  | .resolving => true
  | _ => false

inductive ResolutionType
  | consensus
  | autoResolved
  | timeout
  | closed
  | maxRounds
  | agentDeparture
  deriving DecidableEq, Repr

structure Thread where
  id : ThreadId
  orgId : OrgId
  initiatorId : AgentId
  subject : String
  plan : Option String
  targetModules : List ModuleId
  targetFiles : List FilePath
  status : ThreadStatus
  resolutionSummary : Option String
  conflicts : Option String
  round : Nat
  maxRounds : Nat
  timeoutSeconds : Nat
  createdAt : Stamp
  resolvedAt : Option Stamp
  expectedRespondents : JsonText
  dependsOnFiles : List FilePath
  exportsAffected : List FilePath
  claimedBy : Option AgentId
  claimedAt : Option Stamp
  unclaimCount : Option Nat
  assignedTo : Option AgentId
  runId : Option String
  deriving DecidableEq, Repr

/-- The parsed `expected_respondents` column, as every reader takes it. -/
def Thread.respondents (t : Thread) : List AgentId := safeJsonParse t.expectedRespondents []

inductive MessageType
  | context
  | suggestion
  | warning
  | resolution
  | approve
  | contest
  deriving DecidableEq, Repr

structure ThreadMessage where
  id : String
  orgId : OrgId
  threadId : ThreadId
  agentId : AgentId
  agentName : Option String
  type : MessageType
  content : String
  contextSnapshot : Option String
  inReplyTo : Option String
  round : Nat
  tokenEstimate : Nat
  createdAt : Stamp
  deriving DecidableEq, Repr

inductive IntrospectionStatus
  | pending
  | concerned
  | notConcerned
  | responded
  deriving DecidableEq, Repr

structure IntrospectionRecord where
  id : String
  orgId : OrgId
  threadId : ThreadId
  agentId : AgentId
  score : Nat
  reasons : List String
  status : IntrospectionStatus
  response : Option String
  respondedAt : Option Stamp
  deriving DecidableEq, Repr

structure FileActivity where
  id : Nat
  orgId : OrgId
  agentId : AgentId
  filePath : FilePath
  symbolsTouched : JsonText
  createdAt : Stamp
  deriving DecidableEq, Repr

structure WorkingFile where
  orgId : OrgId
  agentId : AgentId
  filePath : FilePath
  /-- Written and compared as `YYYY-MM-DDTHH:MM:SSZ`, so in whole seconds. -/
  claimUntil : Nat
  deriving DecidableEq, Repr

structure GitCochange where
  orgId : OrgId
  fileA : FilePath
  fileB : FilePath
  count : Nat
  totalCommits : Nat
  deriving DecidableEq, Repr

structure LayerFiring where
  orgId : OrgId
  threadId : ThreadId
  layer : String
  score : Nat
  agentId : AgentId
  firedAt : Stamp
  deriving DecidableEq, Repr

structure ModuleInfo where
  orgId : OrgId
  moduleId : ModuleId
  dependsOn : JsonText
  exports : JsonText
  owners : JsonText
  deriving DecidableEq, Repr

/-- What `emitResolution` hands to the `onResolve` callback. -/
structure ResolutionEvent where
  threadId : ThreadId
  orgId : OrgId
  resolutionType : ResolutionType
  resolutionSummary : Option String
  createdAt : Stamp
  resolvedAt : Stamp
  approvedBy : Option AgentId
  approvedByName : Option String
  hadMessages : Bool
  deriving DecidableEq, Repr

/-- The coordination tables, and the resolution events delivered so far. -/
structure Db where
  agents : Table Agent Agent.key
  threads : Table Thread Thread.id
  messages : List ThreadMessage
  introspections : List IntrospectionRecord
  fileActivity : List FileActivity
  workingFiles : List WorkingFile
  gitCochange : List GitCochange
  layerFirings : List LayerFiring
  dependencyMap : List ModuleInfo
  resolutions : List ResolutionEvent

/-- Freshly migrated tables. -/
def Db.empty : Db :=
  { agents := Table.empty, threads := Table.empty, messages := [], introspections := [], fileActivity := []
    workingFiles := [], gitCochange := [], layerFirings := [], dependencyMap := [], resolutions := [] }

/-- What a call takes from outside the database: the clock in milliseconds,
the ids `randomUUID` yields during the call, and the liveness setting. -/
structure Env where
  now : Nat
  uuid : Nat → String
  agentOnlineTtlSeconds : Option String

/-- `CURRENT_TIMESTAMP`. -/
def Env.currentTimestamp (env : Env) : Stamp := .sqlite (env.now / 1000)

/-- `new Date().toISOString()`. -/
def Env.isoNow (env : Env) : Stamp := .iso env.now

/-- `datetime('now', '-m minutes')`. -/
def Env.minutesAgo (env : Env) (minutes : Nat) : Stamp := .sqlite (env.now / 1000 - minutes * 60)

/-- `value || null` for a text: the empty text becomes NULL. -/
def orNull (value : Option String) : Option String := value.filter (· ≠ "")

/-- The `length` of a JavaScript string, in UTF-16 code units. -/
def utf16Length (text : String) : Nat := text.toList.foldl (fun n c => n + if c.val < 0x10000 then 1 else 2) 0

/-- `text.startsWith(head)`. -/
def startsWith (text head : String) : Bool := head.toList.isPrefixOf text.toList

/-- `text.includes(part)`. -/
def includes (text part : String) : Bool := text.toList.tails.any fun rest => part.toList.isPrefixOf rest

/-- One module is the other or lies below it in the path hierarchy. -/
def moduleOverlap (am tm : ModuleId) : Bool :=
  am = tm || startsWith am (tm ++ "/") || startsWith tm (am ++ "/")

end Coordinator
