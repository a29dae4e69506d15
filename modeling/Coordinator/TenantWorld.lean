import Mathlib.Algebra.Order.Ring.Rat
import Coordinator.AgentActivity
import Coordinator.AnnounceWorkflow
import Coordinator.ConflictDetector
import Coordinator.Library.JsonObject

namespace Coordinator

/-- The type and payload of a row of `events`; `emit` adds the org of the row to every payload. -/
inductive EventBody
  | agentOnline (agentId : AgentId) (name : String) (modules : List ModuleId)
  | agentOffline (agentId : AgentId)
  | agentActivity (agentId : AgentId) (activityStatus : ActivityStatus) (currentFile : Option FilePath)
    (currentThread : Option ThreadId)
  | fileEdited (agentId : AgentId) (agentName : String) (file : FilePath) (toolName : String)
  | threadResolved (event : ResolutionEvent)
  | impactScored (threadId : ThreadId) (agentId : AgentId) (agentName : String) (score : Nat) (reasons : List String)
    (category : String)
  | introspectionRequested (threadId : ThreadId) (agentId : AgentId) (agentName : String) (score : Nat)
    (reasons : List String)
  | threadOpened (threadId : ThreadId) (subject : String) (agentId : AgentId) (agentName : String)
    (targetModules : List ModuleId) (targetFiles : List FilePath) (expectedRespondents : List AgentId)
    (conflicts : Option String) (createdAt : Stamp) (plan : Option String) (planQuality : PlanQualityResult)
  /-- The shape the MCP tool sends. -/
  | workAnnounced (threadId : ThreadId) (initiator : AgentId) (subject : String) (targetModules : List ModuleId)
    (conflicts : List ConflictReport) (expectedRespondents : List AgentId) (plan : Option String)
    (planQuality : PlanQualityResult)
  | messagePosted (threadId : ThreadId) (agentId : AgentId) (agentName : String) (type : MessageType)
    (content : String) (round : Nat) (tokenEstimate : Nat)
  | resolutionProposed (threadId : ThreadId) (agentId : AgentId) (agentName : String) (summary : String)
  | taskClaimed (threadId : ThreadId) (agentId : AgentId)
  | introspectionCompleted (introspectionId : String) (threadId : Option ThreadId) (agentId : Option AgentId)
    (agentName : Option String) (concerned : Bool) (reason : String)
  | threadCancelled (threadId : ThreadId) (reason : Option String)
  deriving DecidableEq

/-- A row of `events`. Ids come from one AUTOINCREMENT for the whole table. -/
structure EventRow where
  id : Nat
  orgId : OrgId
  body : EventBody
  createdAt : Stamp
  deriving DecidableEq

/-- The database between two calls, with its activity table and its event log;
`eventSeq` is the last id given out. -/
structure World where
  db : Db
  activity : List AgentActivity
  events : List EventRow
  eventSeq : Nat
  /-- The callback has sent every resolution on. -/
  drained : db.resolutions = []

/-- A coordinator nobody has called yet. -/
def World.unused : World := ⟨.empty, [], [], 0, rfl⟩

/-- The operations the handlers and tools run for an org. -/
inductive Operation
  | register (agentId : AgentId) (name : String) (modules : List ModuleId)
  | sessionStop (agentId : AgentId)
  | processDeparture (agentId : AgentId)
  | heartbeat (agentId : AgentId) (currentFile : Option FilePath) (currentThread : Option ThreadId)
  | logFile (agentId : AgentId) (agentName : Option String) (toolName : String) (filePath : FilePath)
  | fileActivity (agentId : AgentId) (filePath : FilePath) (symbols : Option (List String))
  | startWorking (agentId : AgentId) (filePath : FilePath) (ttlMinutes : Nat)
  | stopWorking (agentId : AgentId) (filePath : FilePath)
  | setMap (map : List ParsedModule)
  /-- `POST /api/announce`: the files as sent, and the body with its paths normalised. -/
  | announce (flowEnv : Env) (sentFiles : List FilePath) (body : AnnounceBody)
  /-- The `announce_work` tool. -/
  | announceTool (flowEnv : Env) (body : AnnounceBody)
  | postToThread (params : PostParams)
  | proposeResolution (threadId : ThreadId) (agentId : AgentId) (summary : String)
  | approveResolution (threadId : ThreadId) (agentId : AgentId)
  | contestResolution (threadId : ThreadId) (agentId : AgentId) (reason : String)
  | closeThread (threadId : ThreadId) (agentId : AgentId) (summary : String)
  | cancelThread (threadId : ThreadId) (agentId : AgentId) (reason : Option String)
  | claimTask (threadId : ThreadId) (agentId : AgentId)
  | unclaimTask (threadId : ThreadId) (agentId : AgentId)
  | introspectionResponse (introspectionId : String) (concerned : Bool) (reason : String)

/-- All the filters of `listThreads`; the scorers set the first three only. -/
structure ListingFilters extends Db.ThreadFilters where
  agentId : Option AgentId
  moduleId : Option ModuleId
  assignedToMe : Option AgentId

inductive Query
  | listThreads (filters : ListingFilters)
  | getThread (threadId : ThreadId)
  /-- The cursor is given as `normalizeSinceCursor` leaves it. -/
  | getThreadUpdates (agentId : AgentId) (since : Option Stamp)
  | listAgents (onlineOnly : Bool)
  | agentsOnline
  | agentActivity
  | agentStatus (agentId : AgentId)
  | hotFiles (sinceMinutes : Nat)
  | checkFileConflict (filePath : FilePath) (agentId : AgentId) (withinMinutes : Nat)
  | pendingIntrospections (agentId : AgentId)
  | blastRadius (moduleId : ModuleId)
  | moduleInfo (moduleId : ModuleId)
  /-- The replay of the event stream; no `Last-Event-ID` header reads as 0. -/
  | events (lastEventId : Nat)
  | scoringStats (sinceMin : Nat)

/-- An entry of `POST /api/agents-online`. -/
structure OnlineAgent where
  agentId : AgentId
  name : String
  modules : List ModuleId
  activityStatus : ActivityStatus
  currentFile : Option FilePath
  currentThread : Option ThreadId
  deriving DecidableEq, Repr

structure HotFile where
  filePath : FilePath
  agentCount : Nat
  agents : List AgentId
  deriving DecidableEq, Repr

/-- One layer of the scoring statistics, its average on the exact quotient. -/
structure LayerStats where
  layer : String
  fireCount : Nat
  avgScore : ℚ
  autoResolved : Nat
  consensus : Nat
  timeout : Nat
  cancelled : Nat
  deriving DecidableEq

/-- What a handler or tool sends back. -/
inductive Answer
  | done
  | failed (error : String)
  | agent (row : Option Agent)
  | announced (result : CommonFlowResult)
  | workAnnounced (result : CommonFlowResult) (conflicts : List ConflictReport)
  | message (row : ThreadMessage)
  | claim (response : ClaimResponse)
  | unclaim (response : UnclaimResponse)
  | introspection (row : Option IntrospectionRecord)
  | threadRow (row : Option Thread)
  | threads (rows : List Thread)
  | threadWithMessages (found : Option (Thread × List ThreadMessage))
  | messages (rows : List ThreadMessage)
  | agents (rows : List Agent)
  | agentsOnline (lastEventId : Nat) (rows : List OnlineAgent)
  | activity (row : AgentActivity)
  | activities (rows : List AgentActivity)
  | agentStatus (registered : Option (AgentConnectionStatus × ActivityStatus))
  | hotFiles (rows : List HotFile)
  | fileConflict (agents : List AgentId)
  | introspections (rows : List IntrospectionRecord)
  | blastRadius (radius : BlastRadius)
  | moduleInfo (info : Option ParsedModule)
  | events (rows : List EventRow)
  | scoringStats (layers : List LayerStats)
  deriving DecidableEq

def scoredCategory (s : ImpactScore) : String :=
  if 90 ≤ s.score then "concerned" else if 30 ≤ s.score then "gray_zone" else "pass"

def ConflictType.text : ConflictType → String
  | .moduleOverlap => "module_overlap"
  | .apiContract => "api_contract"
  | .fileOverlap => "file_overlap"
  | .dependencyChain => "dependency_chain"

def Severity.text : Severity → String
  | .error => "error"
  | .warning => "warning"
  | .info => "info"

def ConflictReport.json (report : ConflictReport) : String :=
  JsonObject.stringify [("type", some report.type.text), ("severity", some report.severity.text),
    ("agent_id", some report.agentId), ("agent_name", some report.agentName),
    ("description", some report.description), ("details", some report.details)]

/-- `JSON.stringify(conflicts)`. -/
def conflictsJson (conflicts : List ConflictReport) : String :=
  "[" ++ joinWith "," (conflicts.map ConflictReport.json) ++ "]"

/-- `UPDATE threads SET conflicts = ?`. -/
def Thread.report (conflicts : List ConflictReport) (t : Thread) : Thread :=
  { t with conflicts := some (conflictsJson conflicts) }

@[simp] theorem Thread.report_id (conflicts : List ConflictReport) (t : Thread) : (t.report conflicts).id = t.id := rfl

/-- What an operation leaves: the database, the answer, and the events it sends
itself, all with one stamp. -/
structure Served where
  db : Db
  reply : Answer
  events : List EventBody
  stamp : Stamp

namespace Db

/-- `agentInfo?.name || agent_id`. -/
def displayName (db : Db) (orgId : OrgId) (agentId : AgentId) : String :=
  (orNull ((db.getAgent orgId agentId).map (·.name))).getD agentId

def clearForAgent (orgId : OrgId) (agentId : AgentId) (db : Db) : Db :=
  { db with workingFiles := db.workingFiles.filter fun w => ¬ (w.orgId = orgId ∧ w.agentId = agentId) }

/-- One upsert of `setMap`. -/
def setModule (orgId : OrgId) (db : Db) (info : ParsedModule) : Db :=
  let row : ModuleInfo :=
    { orgId, moduleId := info.moduleId, dependsOn := .array info.dependsOn, exports := .array info.exports
      owners := .array info.owners }
  { db with
    dependencyMap :=
      if db.dependencyMap.any fun r => r.orgId = orgId ∧ r.moduleId = info.moduleId then
        db.dependencyMap.map fun r => if r.orgId = orgId ∧ r.moduleId = info.moduleId then row else r
      else db.dependencyMap ++ [row] }

def setMap (orgId : OrgId) (map : List ParsedModule) (db : Db) : Db := map.foldl (setModule orgId) db

/-- `UPDATE threads SET conflicts = ? WHERE id = ?`, which names no org. -/
def setConflicts (threadId : ThreadId) (conflicts : List ConflictReport) (db : Db) : Db :=
  if conflicts.isEmpty then db
  else { db with threads := db.threads.update (fun t => t.id = threadId) (.report conflicts) (Thread.report_id _) }

/-- The events of the shared announce flow. -/
def flowEvents (db : Db) (orgId : OrgId) (threadId : ThreadId) (agentId : AgentId) (result : CommonFlowResult) :
    List EventBody :=
  (result.categorized.concerned ++ result.categorized.grayZone ++ result.categorized.pass).map (fun s =>
    .impactScored threadId s.agentId s.agentName s.score s.reasons (scoredCategory s)) ++
  result.categorized.grayZone.map (fun s =>
    .introspectionRequested threadId s.agentId s.agentName s.score s.reasons) ++
  match result.planDowngradeReason with
  | some reason =>
    [.impactScored threadId agentId (db.displayName orgId agentId) result.planQuality.score [reason] "plan_quality"]
  | none => []

/-- `POST /api/announce`. The flow does not throw on the thread just inserted. -/
def serveAnnounce (env flowEnv : Env) (orgId : OrgId) (sentFiles : List FilePath) (body : AnnounceBody) (db : Db) :
    Served :=
  match db.announceWork env orgId body.announceParams with
  | (failed, .error e) => ⟨failed, .failed e, [], env.currentTimestamp⟩
  | (announced, .ok thread) =>
    match announced.runCommonAnnounceFlow flowEnv thread.id (body.flowParams orgId) with
    | (failed, .error e) => ⟨failed, .failed e, [], flowEnv.currentTimestamp⟩
    | (after, .ok result) =>
      ⟨after, .announced result,
        after.flowEvents orgId thread.id body.agentId result ++
          [.threadOpened thread.id body.subject body.agentId (after.displayName orgId body.agentId) body.targetModules
            sentFiles result.respondents result.updated.conflicts result.updated.createdAt (orNull body.plan)
            result.planQuality],
        flowEnv.currentTimestamp⟩

/-- The `announce_work` tool, which looks for conflicts before it inserts the thread. -/
def serveAnnounceTool (env flowEnv : Env) (orgId : OrgId) (body : AnnounceBody) (db : Db) : Served :=
  let conflicts := db.detect env
    { orgId, agentId := body.agentId, targetModules := body.targetModules, targetFiles := body.targetFiles
      runId := body.runId }
  match db.announceWork env orgId body.announceParams with
  | (failed, .error e) => ⟨failed, .failed e, [], env.currentTimestamp⟩
  | (announced, .ok thread) =>
    match (announced.setConflicts thread.id conflicts).runCommonAnnounceFlow flowEnv thread.id (body.flowParams orgId) with
    | (failed, .error e) => ⟨failed, .failed e, [], flowEnv.currentTimestamp⟩
    | (after, .ok result) =>
      ⟨after, .workAnnounced result conflicts,
        after.flowEvents orgId thread.id body.agentId result ++
          [.workAnnounced thread.id body.agentId body.subject body.targetModules conflicts result.respondents
            (orNull body.plan) result.planQuality],
        flowEnv.currentTimestamp⟩

/-- `POST /api/post-to-thread`, with its checks before the post. -/
def servePost (env : Env) (orgId : OrgId) (params : PostParams) (db : Db) : Served :=
  match db.getThread orgId params.threadId with
  | none => ⟨db, .failed "thread_not_found", [], env.currentTimestamp⟩
  | some target =>
    if target.status = .cancelled then ⟨db, .failed "thread_cancelled", [], env.currentTimestamp⟩
    else
      match (db.heartbeat env orgId params.agentId).postToThread env orgId params with
      | (failed, .error e) => ⟨failed, .failed e, [], env.currentTimestamp⟩
      | (posted, .ok m) =>
        let round := ((posted.getThread orgId params.threadId).map (·.round)).getD 1
        ⟨posted, .message m,
          [.messagePosted params.threadId params.agentId ((orNull params.agentName).getD params.agentId) params.type
            params.content (if round = 0 then 1 else round) m.tokenEstimate],
          env.currentTimestamp⟩

/-- An operation that answers on success and sends events then. -/
def concluded (env : Env) (result : Outcome Unit) (reply : Db → Answer) (events : List EventBody) : Served :=
  match result with
  | (failed, .error e) => ⟨failed, .failed e, [], env.currentTimestamp⟩
  | (after, .ok ()) => ⟨after, reply after, events, env.currentTimestamp⟩

/-- The `heartbeat` tool. The activity table refuses an agent that is not registered. -/
def serveHeartbeat (env : Env) (orgId : OrgId) (agentId : AgentId) (currentFile : Option FilePath)
    (currentThread : Option ThreadId) (activity : List AgentActivity) (db : Db) : Served :=
  let comesBack := (db.getAgent orgId agentId).any fun known => known.status = .offline ∨ db.isStale env orgId agentId
  let beaten := db.heartbeat env orgId agentId
  if db.registered orgId agentId then
    let row := AgentActivity.beat env orgId agentId (orNull currentFile) (orNull currentThread)
    let current := beaten.getActivity env orgId agentId none (row.put activity)
    ⟨beaten, .activity current,
      if row.isNews activity ∨ comesBack then
        [.agentActivity agentId current.activityStatus current.currentFile current.currentThread]
      else [],
      env.currentTimestamp⟩
  else ⟨beaten, .failed "FOREIGN KEY constraint failed", [], env.currentTimestamp⟩

/-- What an operation writes to the activity table. -/
def track (env : Env) (orgId : OrgId) (db : Db) (activity : List AgentActivity) : Operation → List AgentActivity
  | .sessionStop agentId => AgentActivity.reportOffline orgId agentId activity
  | .logFile agentId _ _ filePath =>
    if db.registered orgId agentId then AgentActivity.reportFileActivity env orgId agentId filePath activity else activity
  | .heartbeat agentId currentFile currentThread =>
    if db.registered orgId agentId then
      (AgentActivity.beat env orgId agentId (orNull currentFile) (orNull currentThread)).put activity
    else activity
  | _ => activity

def serve (env : Env) (orgId : OrgId) (activity : List AgentActivity) (db : Db) : Operation → Served
  | .register agentId name modules =>
    let after := db.register env orgId agentId name modules
    ⟨after, .agent (after.getAgent orgId agentId), [.agentOnline agentId name modules], env.currentTimestamp⟩
  | .sessionStop agentId =>
    ⟨(db.setOffline env orgId agentId).handleAgentDeparture env orgId agentId, .done, [.agentOffline agentId],
      env.currentTimestamp⟩
  | .processDeparture agentId =>
    let offline := db.setOffline env orgId agentId
    -- the record decides, as it stood before `setOffline` stamped it
    ⟨if db.isStale env orgId agentId then (offline.handleAgentDeparture env orgId agentId).clearForAgent orgId agentId
      else offline, .done, [.agentOffline agentId], env.currentTimestamp⟩
  | .heartbeat agentId currentFile currentThread => db.serveHeartbeat env orgId agentId currentFile currentThread activity
  | .logFile agentId agentName toolName filePath =>
    let logged := db.logFile env orgId agentId filePath none
    -- the file is logged before the activity table refuses an unknown agent
    if db.registered orgId agentId then
      ⟨logged, .done, [.fileEdited agentId ((orNull agentName).getD agentId) filePath toolName], env.currentTimestamp⟩
    else ⟨logged, .failed "FOREIGN KEY constraint failed", [], env.currentTimestamp⟩
  | .fileActivity agentId filePath symbols =>
    ⟨db.logFile env orgId agentId filePath symbols, .done, [], env.currentTimestamp⟩
  | .startWorking agentId filePath ttlMinutes =>
    ⟨db.startWorking env orgId agentId filePath ttlMinutes, .done, [], env.currentTimestamp⟩
  | .stopWorking agentId filePath => ⟨db.stopWorking orgId agentId filePath, .done, [], env.currentTimestamp⟩
  | .setMap map => ⟨db.setMap orgId map, .done, [], env.currentTimestamp⟩
  | .announce flowEnv sentFiles body => db.serveAnnounce env flowEnv orgId sentFiles body
  | .announceTool flowEnv body => db.serveAnnounceTool env flowEnv orgId body
  | .postToThread params => db.servePost env orgId params
  | .proposeResolution threadId agentId summary =>
    concluded env (db.proposeResolution env orgId threadId agentId summary)
      (fun after => .threadRow (after.getThread orgId threadId))
      [.resolutionProposed threadId agentId (db.displayName orgId agentId) summary]
  | .approveResolution threadId agentId =>
    concluded env (db.approveResolution env orgId threadId agentId ((db.getAgent orgId agentId).map (·.name)))
      (fun after => .threadRow (after.getThread orgId threadId)) []
  | .contestResolution threadId agentId reason =>
    concluded env (db.contestResolution env orgId threadId agentId reason)
      (fun after => .threadRow (after.getThread orgId threadId)) []
  | .closeThread threadId agentId summary =>
    concluded env (db.closeThread env orgId threadId agentId summary) (fun _ => .done) []
  | .cancelThread threadId agentId reason =>
    concluded env (db.cancelThread env orgId threadId agentId reason) (fun _ => .done) [.threadCancelled threadId reason]
  | .claimTask threadId agentId =>
    let (after, response) := db.handleClaimTask env orgId threadId agentId
    ⟨after, .claim response, if response.success then [.taskClaimed threadId agentId] else [], env.currentTimestamp⟩
  | .unclaimTask threadId agentId =>
    let (after, response) := db.handleUnclaimTask orgId threadId agentId
    ⟨after, .unclaim response, [], env.currentTimestamp⟩
  | .introspectionResponse introspectionId concerned reason =>
    let (after, intro) := db.handleIntrospectionResponse env orgId introspectionId concerned reason
    let agentInfo := after.getAgent orgId ((intro.map (·.agentId)).getD "")
    ⟨after, .introspection intro,
      [.introspectionCompleted introspectionId (intro.map (·.threadId)) (intro.map (·.agentId))
        ((orNull (agentInfo.map (·.name))).or (intro.map (·.agentId))) concerned reason],
      env.currentTimestamp⟩

/-! The answers that only read. -/

/-- `listThreads` with the filters a client may add to those of the scorers. -/
def listing (env : Env) (orgId : OrgId) (filters : ListingFilters) (db : Db) : List Thread :=
  (db.listThreads env orgId filters.toThreadFilters).filter fun t =>
    (orNull filters.agentId).all (fun agentId => t.initiatorId = agentId) ∧
      (orNull filters.moduleId).all (fun moduleId => t.targetModules.contains moduleId) ∧
      (orNull filters.assignedToMe).all fun agentId => t.assignedTo = none ∨ t.assignedTo = some agentId

/-- The join of a message with its thread, on a condition on the thread. -/
def joined (db : Db) (p : Thread → Bool) (m : ThreadMessage) : Bool :=
  db.threads.rows.any fun t => m.threadId = t.id ∧ p t

def getThreadWithMessages (orgId : OrgId) (threadId : ThreadId) (db : Db) : Option (Thread × List ThreadMessage) :=
  (db.getThread orgId threadId).map fun thread =>
    (thread, (db.messages.filter fun m => m.threadId = threadId ∧ db.joined (fun t => t.orgId = orgId) m).insertionSort
      fun a b => ¬ b.createdAt.lt a.createdAt)

def getThreadUpdates (orgId : OrgId) (agentId : AgentId) (since : Option Stamp) (db : Db) : List ThreadMessage :=
  (db.messages.filter fun m =>
    db.joined (fun t => t.orgId = orgId ∧ t.status.active) m ∧ m.agentId ≠ agentId ∧
      since.all fun cursor => ¬ m.createdAt.lt cursor).insertionSort fun a b => ¬ b.createdAt.lt a.createdAt

def listAll (orgId : OrgId) (db : Db) : List Agent :=
  (db.agents.rows.filter fun a => a.orgId = orgId).insertionSort fun a b => ¬ a.lastSeenAt.lt b.lastSeenAt

/-- Groups come out by path; `GROUP_CONCAT` and `split` rejoin the agents of a file at each comma. -/
def getHotFiles (env : Env) (orgId : OrgId) (sinceMinutes : Nat) (db : Db) : List HotFile :=
  let recent := db.fileActivity.filter fun r => r.orgId = orgId ∧ (env.minutesAgo sinceMinutes).lt r.createdAt
  let paths := (recent.map (·.filePath)).eraseDups.insertionSort (· ≤ ·)
  (paths.filterMap fun path =>
    let agents := ((recent.filter fun r => r.filePath = path).map (·.agentId)).eraseDups
    if 1 < agents.length then
      some { filePath := path, agentCount := agents.length, agents := (joinWith "," agents).splitOn "," }
    else none).insertionSort fun a b => b.agentCount ≤ a.agentCount

def checkFileConflict (env : Env) (orgId : OrgId) (filePath : FilePath) (agentId : AgentId) (withinMinutes : Nat)
    (db : Db) : List AgentId :=
  ((db.fileActivity.filter fun r =>
    r.orgId = orgId ∧ r.filePath = filePath ∧ r.agentId ≠ agentId ∧
      (env.minutesAgo withinMinutes).lt r.createdAt).map (·.agentId)).eraseDups

def getPending (orgId : OrgId) (agentId : AgentId) (db : Db) : List IntrospectionRecord :=
  db.introspections.filter fun r => r.orgId = orgId ∧ r.agentId = agentId ∧ r.status = .pending

end Db

def sseRecentEventsLimit : Nat := 50

def sseResumeCap : Nat := 1000

/-- The resolution type of a `thread_resolved` event about the thread of a firing, in its org. -/
def LayerFiring.outcome (lf : LayerFiring) (e : EventRow) : Option ResolutionType :=
  match e.body with
  | .threadResolved event =>
    if event.threadId = lf.threadId ∧ e.orgId = lf.orgId then some event.resolutionType else none
  | _ => none

namespace World

/-- `SseEmitter.emit`. -/
def emit (stamp : Stamp) (w : World) (event : OrgId × EventBody) : World :=
  { w with
    events := w.events ++ [{ id := w.eventSeq + 1, orgId := event.1, body := event.2, createdAt := stamp }]
    eventSeq := w.eventSeq + 1 }

/-- The `onResolve` callback sends the resolutions of a call to the org of their thread. -/
def publish (stamp : Stamp) (db : Db) (own : List (OrgId × EventBody)) (w : World) : World :=
  (db.resolutions.map (fun event => (event.orgId, EventBody.threadResolved event)) ++ own).foldl (emit stamp)
    { w with db := { db with resolutions := [] }, drained := rfl }

def getEventsSince (orgId : OrgId) (lastId limit : Nat) (w : World) : List EventRow :=
  (w.events.filter fun e => e.orgId = orgId ∧ lastId < e.id).take limit

def getRecentEvents (orgId : OrgId) (limit : Nat) (w : World) : List EventRow :=
  ((w.events.filter fun e => e.orgId = orgId).reverse.take limit).reverse

/-- The rows of the LEFT JOIN: a firing once per resolution of its thread, and once alone when there is none. -/
def firedOutcomes (env : Env) (orgId : OrgId) (sinceMin : Nat) (w : World) :
    List (LayerFiring × Option ResolutionType) :=
  (w.db.layerFirings.filter fun lf => lf.orgId = orgId ∧ (env.minutesAgo sinceMin).lt lf.firedAt).flatMap fun lf =>
    match w.events.filterMap lf.outcome with
    | [] => [(lf, none)]
    | types => types.map fun type => (lf, some type)

def layerStats (layer : String) (rows : List (LayerFiring × Option ResolutionType)) : LayerStats :=
  let count (p : ResolutionType → Bool) := rows.countP fun row => row.2.any p
  { layer, fireCount := rows.length
    avgScore := (rows.map fun row => row.1.score).sum / rows.length
    autoResolved := count (· = .autoResolved)
    consensus := count (· = .consensus)
    timeout := count (· = .timeout)
    cancelled := count fun type => type = .agentDeparture ∨ type = .closed }

/-- Groups come out by layer. -/
def handleScoringStats (env : Env) (orgId : OrgId) (sinceMin : Nat) (w : World) : List LayerStats :=
  let rows := w.firedOutcomes env orgId sinceMin
  let layers := (rows.map fun row => row.1.layer).eraseDups.insertionSort (· ≤ ·)
  (layers.map fun layer => layerStats layer (rows.filter fun row => row.1.layer = layer)).insertionSort
    fun a b => b.fireCount ≤ a.fireCount

/-- `MAX(id)` of the org's events, and the online agents with what they do. -/
def handleAgentsOnline (env : Env) (orgId : OrgId) (w : World) : Answer :=
  .agentsOnline (((w.events.filter fun e => e.orgId = orgId).map (·.id)).foldl max 0)
    ((w.db.listOnline env orgId).map fun agent =>
      let activity := w.db.getActivity env orgId agent.id (some 5) w.activity
      { agentId := agent.id, name := agent.name, modules := safeJsonParse agent.modules []
        activityStatus := activity.activityStatus, currentFile := activity.currentFile
        currentThread := activity.currentThread })

def handleAgentStatus (env : Env) (orgId : OrgId) (agentId : AgentId) (w : World) : Answer :=
  .agentStatus ((w.db.getAgent orgId agentId).map fun agent =>
    (agent.status, (w.db.getActivity env orgId agentId (some 5) w.activity).activityStatus))

def answer (env : Env) (orgId : OrgId) (w : World) : Query → Answer
  | .listThreads filters => .threads (w.db.listing env orgId filters)
  | .getThread threadId => .threadWithMessages (w.db.getThreadWithMessages orgId threadId)
  | .getThreadUpdates agentId since => .messages (w.db.getThreadUpdates orgId agentId since)
  | .listAgents onlineOnly => .agents (if onlineOnly then w.db.listOnline env orgId else w.db.listAll orgId)
  | .agentsOnline => w.handleAgentsOnline env orgId
  | .agentActivity => .activities (w.db.listActivity env orgId (some 5) w.activity)
  | .agentStatus agentId => w.handleAgentStatus env orgId agentId
  | .hotFiles sinceMinutes => .hotFiles (w.db.getHotFiles env orgId sinceMinutes)
  | .checkFileConflict filePath agentId withinMinutes =>
    .fileConflict (w.db.checkFileConflict env orgId filePath agentId withinMinutes)
  | .pendingIntrospections agentId => .introspections (w.db.getPending orgId agentId)
  | .blastRadius moduleId => .blastRadius (w.db.getBlastRadius orgId moduleId)
  | .moduleInfo moduleId => .moduleInfo (w.db.getModuleInfo orgId moduleId)
  | .events lastEventId =>
    .events (if 0 < lastEventId then w.getEventsSince orgId lastEventId sseResumeCap
      else w.getRecentEvents orgId sseRecentEventsLimit)
  | .scoringStats sinceMin => .scoringStats (w.handleScoringStats env orgId sinceMin)

end World

/-- A call of the server: an operation or a query of an org, or the timeout sweep over all of them. -/
inductive Call
  | operation (env : Env) (orgId : OrgId) (op : Operation)
  | query (env : Env) (orgId : OrgId) (q : Query)
  | checkTimeouts (env : Env)

namespace World

def step (w : World) : Call → World
  | .operation env orgId op =>
    let served := w.db.serve env orgId w.activity op
    { w.publish served.stamp served.db (served.events.map fun body => (orgId, body)) with
      activity := w.db.track env orgId w.activity op }
  | .query _ _ _ => w
  | .checkTimeouts env => w.publish env.currentTimestamp (w.db.checkTimeouts env) []

/-- The answer to the org whose call it is. -/
def reply (w : World) : Call → Answer
  | .operation env orgId op => (w.db.serve env orgId w.activity op).reply
  | .query env orgId q => w.answer env orgId q
  | .checkTimeouts _ => .done

end World

end Coordinator
