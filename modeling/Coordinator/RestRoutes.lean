import Coordinator.RestSchemas
import Coordinator.ToolScopes

namespace Coordinator

/-- A request of the REST surface; `search` is its query, parsed. -/
structure RestRequest where
  method : String
  url : String
  search : List (String × String)
  body : ReadBody

/-- `ctx`, with the settings and the caches its handlers consult. -/
structure RestContext extends Surroundings where
  authEnabled : Bool
  nodeEnvTest : Bool
  allowReset : Bool
  workingFilesTtl : Nat
  extract : FilePath → String → Option (List String)
  quota : Option String
  refreshedQuota : Option String

abbrev RestHandler := Server → RestContext → Caller → RestRequest → Server × ServerReply

/-- How a handler that writes reads a request: its operation, or its refusal. -/
abbrev RestCommand := RestContext → RestRequest → Except ServerReply Operation

def RestRequest.validated {α : Type} (req : RestRequest) (schema : BodyMembers → Parsed α) : Except ServerReply α :=
  match req.body.safeParse schema with
  | .error paths => .error (.invalidBody paths)
  | .ok data => .ok data

/-- `body.key`; a body without members has none. -/
def RestRequest.member (req : RestRequest) (key : String) : Option MemberValue :=
  match req.body with
  | .object members => members.lookup key
  | _ => none

def endsWith (text tail : String) : Bool := tail.toList.isSuffixOf text.toList

/-- `url.split("/")[n]`. -/
def urlSegment (url : String) (n : Nat) : String := ((url.toList.splitOn '/').map String.ofList)[n]?.getD ""

def canResetDb (ctx : RestContext) : Bool := ctx.authEnabled || ctx.nodeEnvTest || ctx.allowReset

namespace RestCommand

def register : RestCommand := fun _ req => do
  let body ← req.validated registerBodySchema
  return .register body.agentId body.name (body.modules.getD [])

def sessionStop : RestCommand := fun _ req => do
  let agentId ← req.validated sessionStopBodySchema
  return .sessionStop agentId

def logFile : RestCommand := fun ctx req => do
  let body ← req.validated logFileBodySchema
  match ctx.normalizePath body.file with
  | .error message => throw (.refused 400 s!"invalid file: {message}")
  | .ok filePath => return .logFile body.agentId body.agentName body.toolName filePath

def announce : RestCommand := fun ctx req => do
  let body ← req.validated announceBodySchema
  match body.normalized ctx.normalizePath with
  | .error (path, message) => throw (.refused 400 s!"invalid path {path}: {message}")
  | .ok normalized => return .announce ctx.flowEnv body.targetFiles normalized

def postToThread : RestCommand := fun _ req => do
  let params ← req.validated postToThreadBodySchema
  return .postToThread params

def unclaimTask : RestCommand := fun _ req => do
  let (threadId, agentId) ← req.validated unclaimTaskBodySchema
  return .unclaimTask threadId agentId

def claimTask : RestCommand := fun _ req => do
  let (threadId, agentId) ← req.validated claimTaskBodySchema
  return .claimTask threadId agentId

def proposeResolution : RestCommand := fun _ req => do
  let body ← req.validated proposeResolutionBodySchema
  return .proposeResolution body.threadId body.agentId body.summary

def approveResolution : RestCommand := fun _ req => do
  let (threadId, agentId) ← req.validated approveResolutionBodySchema
  return .approveResolution threadId agentId

def introspectionResponse : RestCommand := fun _ req => do
  let body ← req.validated introspectionResponseBodySchema
  return .introspectionResponse body.introspectionId body.concerned body.reason

def maxContent : Nat := 262144

/-- The path and the content, once the other members are texts. -/
def loggedContent (ctx : RestContext) (req : RestRequest) (agentId : AgentId) (filePath : FilePath) :
    Except ServerReply Operation :=
  match ctx.normalizePath filePath with
  | .error message => .error (.refused 400 s!"invalid file_path: {message}")
  | .ok filePath =>
    match req.member "content" with
    | some (.text content) =>
      if maxContent < utf16Length content then .error (.refused 400 "content exceeds 256 KB")
      else .ok (.fileActivity agentId filePath (ctx.extract filePath content))
    | _ => .ok (.fileActivity agentId filePath none)

/-- No schema: the members are checked one by one. -/
def fileActivity : RestCommand := fun ctx req =>
  match req.member "session_id", req.member "agent_id", req.member "tool_name", req.member "file_path" with
  | some (.text _), some (.text agentId), some (.text _), some (.text filePath) =>
    match req.member "agent_name" with
    | none | some (.text _) => loggedContent ctx req agentId filePath
    | _ => .error (.refused 400 "agent_name must be string when present")
  | _, _, _, _ => .error (.refused 400 "missing required fields")

/-- What both routes of the in-flight claims check. -/
def workingFile (operation : AgentId → FilePath → Operation) : RestCommand := fun ctx req =>
  match req.member "agent_id", req.member "file_path" with
  | some (.text agentId), some (.text filePath) =>
    match ctx.normalizePath filePath with
    | .error message => .error (.refused 400 s!"invalid file_path: {message}")
    | .ok filePath => .ok (operation agentId filePath)
  | _, _ => .error (.refused 400 "agent_id and file_path required")

def workingFilesStart : RestCommand := fun ctx =>
  workingFile (fun agentId filePath => .startWorking agentId filePath ctx.workingFilesTtl) ctx

def workingFilesStop : RestCommand := workingFile .stopWorking

/-- The post answers its two refusals by status; what an operation throws is a 500. -/
def reply : Answer → ServerReply
  | .failed "thread_not_found" => .refused 404 "thread_not_found"
  | .failed "thread_cancelled" => .refused 410 "thread_cancelled"
  | .failed error => .thrown error
  | answer => .answer answer

/-- The handler of a command. -/
def perform (command : RestCommand) : RestHandler := fun s ctx caller req =>
  match command ctx req with
  | .error refusal => (s, refusal)
  | .ok op =>
    let c : Call := .operation ctx.env caller.org op
    ({ s with world := s.world.step c }, reply (s.world.reply c))

end RestCommand

/-- `DELETE FROM` ten tables; ids of events go on where they were. -/
def World.reset (w : World) : World :=
  { w with
    db := { w.db with
      agents := Table.empty, threads := Table.empty, messages := [], introspections := [], fileActivity := []
      dependencyMap := [] }
    activity := [], events := [] }

namespace Server

/-- A handler that only reads, behind its schema. -/
def validated {α : Type} (s : Server) (req : RestRequest) (schema : BodyMembers → Parsed α)
    (handler : α → Server × ServerReply) : Server × ServerReply :=
  match req.validated schema with
  | .error refusal => (s, refusal)
  | .ok data => handler data

def handleRegister : RestHandler := RestCommand.register.perform

def orNobody (names : List String) : String := (orNull (some (commaList names))).getD "aucun"

def handleSessionStart : RestHandler := fun s ctx caller _ =>
  let online := s.world.db.listOnline ctx.env caller.org
  let openThreads := s.threadsIn ctx.env caller.org .opened none
  let hotFiles := s.world.db.getHotFiles ctx.env caller.org 30
  (s, .briefing
    (s!"Agents en ligne: {orNobody (online.map (·.name))}\nConsultations ouvertes: {openThreads.length}\n" ++
      s!"Hot files: {orNobody (hotFiles.map (·.filePath))}")
    online.length openThreads.length hotFiles.length)

def handleSessionStop : RestHandler := RestCommand.sessionStop.perform

def handleCheckConflict : RestHandler := fun s ctx caller req =>
  s.validated req checkConflictBodySchema fun body =>
    match ctx.normalizePath body.file with
    | .error message => (s, .refused 400 s!"invalid file {body.file}: {message}")
    | .ok normFile =>
      match s.world.db.checkFileConflict ctx.env caller.org normFile body.agentId 30 with
      | [] => (s, .fileConflict false [])
      | agents => (s, .fileConflict true [s!"File {normFile} recently edited by: {commaList agents}"])

def handleLogFile : RestHandler := RestCommand.logFile.perform

def handleAnnounce : RestHandler := RestCommand.announce.perform

def handlePostToThread : RestHandler := RestCommand.postToThread.perform

def handleUnclaimTask : RestHandler := RestCommand.unclaimTask.perform

def handleClaimTask : RestHandler := RestCommand.claimTask.perform

def handleProposeResolution : RestHandler := RestCommand.proposeResolution.perform

def handleApproveResolution : RestHandler := RestCommand.approveResolution.perform

/-- Four fields of the thread and its messages are sent. -/
def handleConsultationStatus : RestHandler := fun s _ caller req =>
  match s.world.db.getThreadWithMessages caller.org (urlSegment req.url 3) with
  | none => (s, .refused 404 "not found")
  | some found => (s, .consultationStatus found.1.status found.2 found.1.resolutionSummary found.1.respondents)

def handleThreadsActive : RestHandler := fun s ctx caller req =>
  s.validated req threadsActiveBodySchema fun runId =>
    (s, .answer (.threads (s.threadsIn ctx.env caller.org .opened runId ++
      s.threadsIn ctx.env caller.org .resolving runId)))

def handleThreadsSummary : RestHandler := fun s _ caller req =>
  s.validated req threadsSummaryBodySchema fun runId =>
    let rows := s.world.db.threads.rows.filter fun t => t.orgId = caller.org ∧ t.runId = some runId
    (s, .threadsSummary runId rows.length
      ([.opened, .resolving, .resolved, .cancelled, .poisoned].map fun status =>
        (status, rows.countP fun t => t.status = status)))

def handleHotFiles : RestHandler := fun s ctx caller req =>
  s.validated req hotFilesBodySchema fun sinceMinutes =>
    let minutes := sinceMinutes.getD 0
    s.call (.query ctx.env caller.org (.hotFiles (if minutes = 0 then 30 else minutes)))

def quotaReply : Option String → ServerReply
  | none => .refused 503 "quota unavailable"
  | some info => .quota info

def handleQuota : RestHandler := fun s ctx _ _ => (s, quotaReply ctx.quota)

def handleQuotaRefresh : RestHandler := fun s ctx _ _ => (s, quotaReply ctx.refreshedQuota)

def handleIntrospectionResponse : RestHandler := RestCommand.introspectionResponse.perform

def handlePendingIntrospections : RestHandler := fun s ctx caller req =>
  s.call (.query ctx.env caller.org (.pendingIntrospections ((req.search.lookup "agent_id").getD "")))

def handleReset : RestHandler := fun s ctx _ _ =>
  if canResetDb ctx then ({ s with world := s.world.reset, summaries := [] }, .ok)
  else
    (s, .refused 403 ("Forbidden: /api/reset requires NODE_ENV=test, COORDINATOR_ALLOW_RESET=true, " ++
      "or COORDINATOR_AUTH_ENABLED with admin token"))

def handleCheckInterrupt : RestHandler := fun s ctx caller req =>
  s.validated req checkInterruptBodySchema fun agentId =>
    (s, .interrupt ((s.threadsIn ctx.env caller.org .opened none ++
      s.threadsIn ctx.env caller.org .resolving none).filter fun t => t.respondents.contains agentId))

def handleAgentStatus : RestHandler := fun s ctx caller req =>
  s.call (.query ctx.env caller.org (.agentStatus (urlSegment req.url 3)))

def handleAgentsOnline : RestHandler := fun s ctx caller _ => s.call (.query ctx.env caller.org .agentsOnline)

def handleFileActivity : RestHandler := RestCommand.fileActivity.perform

def handleWorkingFilesStart : RestHandler := RestCommand.workingFilesStart.perform

def handleWorkingFilesStop : RestHandler := RestCommand.workingFilesStop.perform

/-- `parseInt` stops at the unit. A window that is no number, or below zero, is NULL to the query. -/
def handleScoringStats : RestHandler := fun s ctx caller req =>
  let sinceParam := (orNull (req.search.lookup "since")).getD "24h"
  let sinceMin : Option Int :=
    if endsWith sinceParam "h" then (parseInt sinceParam).map (· * 60)
    else if endsWith sinceParam "d" then (parseInt sinceParam).map (· * 60 * 24)
    else some (60 * 24)
  match sinceMin with
  | some (.ofNat minutes) => s.call (.query ctx.env caller.org (.scoringStats minutes))
  | _ => (s, .answer (.scoringStats []))

def handleStatus : RestHandler := fun s ctx caller _ =>
  (s, .status (s.world.db.listOnline ctx.env caller.org).length (s.threadsIn ctx.env caller.org .opened none).length
    (s.world.db.getHotFiles ctx.env caller.org 30).length ctx.connected)

def routes : List (String × RestHandler) :=
  [("/api/register", handleRegister), ("/api/session-start", handleSessionStart),
    ("/api/session-stop", handleSessionStop), ("/api/check-conflict", handleCheckConflict),
    ("/api/log-file", handleLogFile), ("/api/announce", handleAnnounce), ("/api/post-to-thread", handlePostToThread),
    ("/api/unclaim-task", handleUnclaimTask), ("/api/claim-task", handleClaimTask),
    ("/api/propose-resolution", handleProposeResolution), ("/api/approve-resolution", handleApproveResolution),
    ("/api/threads-active", handleThreadsActive), ("/api/threads-summary", handleThreadsSummary),
    ("/api/hot-files", handleHotFiles), ("/api/quota", handleQuota), ("/api/quota/refresh", handleQuotaRefresh),
    ("/api/introspection-response", handleIntrospectionResponse), ("/api/reset", handleReset),
    ("/api/check-interrupt", handleCheckInterrupt), ("/api/status", handleStatus),
    ("/api/agents-online", handleAgentsOnline)]

def mutatingRoutes : List String :=
  ["/api/register", "/api/session-stop", "/api/log-file", "/api/announce", "/api/post-to-thread", "/api/unclaim-task",
    "/api/claim-task", "/api/propose-resolution", "/api/approve-resolution", "/api/quota/refresh",
    "/api/introspection-response", "/api/reset"]

def methodRoutes : List (String × RestHandler) :=
  [("POST /api/file-activity", handleFileActivity), ("POST /api/working-files/start", handleWorkingFilesStart),
    ("POST /api/working-files/stop", handleWorkingFilesStop)]

def prefixRoutes : List ((String → String → Bool) × RestHandler) :=
  [(fun url _ => startsWith url "/api/consultation/" && endsWith url "/status", handleConsultationStatus),
    (fun url _ => startsWith url "/api/pending-introspections", handlePendingIntrospections),
    (fun url _ => startsWith url "/api/agent-status/", handleAgentStatus),
    (fun url method => startsWith url "/api/scoring-stats" && method = "GET", handleScoringStats)]

/-- The tables are tried in turn. -/
def routed : RestHandler := fun s ctx caller req =>
  match routes.lookup req.url with
  | some handler =>
    if mutatingRoutes.contains req.url ∧ req.method ≠ "POST" then (s, .refused 405 "method not allowed")
    else handler s ctx caller req
  | none =>
    match methodRoutes.lookup (req.method ++ " " ++ req.url) with
    | some handler => handler s ctx caller req
    | none =>
      match prefixRoutes.find? fun route => route.1 req.url req.method with
      | some route => route.2 s ctx caller req
      | none => (s, .refused 404 "not found")

def handleRest : RestHandler := fun s ctx caller req =>
  match req.body with
  | .failed status error => (s, .refused status error)
  | .null => (s, .thrown "Cannot read properties of null (reading 'agent_id')")
  | .bare | .object _ => s.routed ctx caller req

/-- The admin routes are guarded as the request is authenticated; the rest of `/api/` goes to the table. -/
def serveRest : RestHandler := fun s ctx caller req =>
  if adminOnlyRoutes.contains (pathOnly req.url) ∧ caller.role ≠ .admin then (s, .refused 403 "Admin access required")
  else if startsWith req.url "/api/" ∧ (req.method = "POST" ∨ req.method = "GET") then s.handleRest ctx caller req
  else (s, .refused 404 "not found")

end Server

end Coordinator
