import Coordinator.AgentIdMigration
import Coordinator.MqttAdmission
import Coordinator.MqttTopics
import Coordinator.TenantWorld

namespace Coordinator

inductive ServiceTokenScope
  | read
  | write
  | admin
  deriving DecidableEq, Repr

namespace ServiceTokenScope

def text : ServiceTokenScope → String
  | .read => "read"
  | .write => "write"
  | .admin => "admin"

def rank : ServiceTokenScope → Nat
  | .read => 0
  | .write => 1
  | .admin => 2

/-- The three texts that `verifyPhase2SessionCookie` lets through. -/
def ofText : String → Option ServiceTokenScope
  | "read" => some .read
  | "write" => some .write
  | "admin" => some .admin
  | _ => none

end ServiceTokenScope

def toolScopes : List (String × ServiceTokenScope) :=
  [("register_agent", .write), ("list_agents", .read), ("heartbeat", .write), ("agent_activity", .read),
    ("announce_work", .write), ("post_to_thread", .write), ("propose_resolution", .write),
    ("approve_resolution", .write), ("contest_resolution", .write), ("close_thread", .write), ("cancel_thread", .write),
    ("get_thread", .read), ("get_thread_updates", .read), ("list_threads", .read), ("log_action_summary", .write),
    ("set_dependency_map", .write), ("get_blast_radius", .read), ("get_module_info", .read), ("hot_files", .read),
    ("get_session_files", .read), ("check_file_conflict", .read), ("wait_for_message", .write),
    ("get_queued_messages", .write), ("mqtt_publish", .write), ("coordinator_status", .read), ("wait_for_peers", .read)]

def readOnlyToolList : String :=
  commaList (((toolScopes.filter fun entry => entry.2 = .read).map Prod.fst).insertionSort (· ≤ ·))

def insufficientScopeError (tool : String) (held needed : ServiceTokenScope) : String :=
  s!"This service token has scope \"{held.text}\" and {tool} requires \"{needed.text}\". " ++
  "Scopes are set when the token is minted and cannot be widened at call time — " ++
  s!"issue a new one with: mcp-coordinator service-token issue --scope {needed.text} ... " ++
  s!"Read-scoped tokens can call the read-only tools ({readOnlyToolList})."

/-- A caller without a scope, and a tool the table does not know, pass. -/
def requireScope (held : Option ServiceTokenScope) (tool : String) : Except String Unit :=
  match held, toolScopes.lookup tool with
  | some held, some needed =>
    if held.rank < needed.rank then .error (insufficientScopeError tool held needed) else .ok ()
  | _, _ => .ok ()

/-- The claims that the tools and the handlers read. -/
structure Caller where
  sub : String
  org : OrgId
  role : AuthRole
  scope : Option ServiceTokenScope
  deriving DecidableEq, Repr

/-- The caller of verified claims whose subject and org are texts. -/
def AuthClaims.caller (claims : AuthClaims) : Option Caller :=
  match ClaimValue.text (some claims.sub), ClaimValue.text (some claims.org) with
  | some sub, some org => some ⟨sub, org, claims.role, claims.scope.bind ServiceTokenScope.ofText⟩
  | _, _ => none

/-- The caller that a service token of this scope was verified for, by the claims that issuing it signs. -/
def Caller.HoldsServiceToken (caller : Caller) (scope : ServiceTokenScope) : Prop :=
  ∃ payload sub, payload.role = some (.str "service") ∧ payload.serviceAccount = some (.bool true) ∧
    payload.scope = some (.str scope.text) ∧ (sessionClaims payload sub).caller = some caller

/-- The scope that was signed into a token reaches the tools. -/
theorem Caller.HoldsServiceToken.reads {caller : Caller} {scope : ServiceTokenScope}
    (holds : caller.HoldsServiceToken scope) : caller.scope = some scope ∧ caller.role = .service := by
  obtain ⟨payload, sub, role, -, signed, verified⟩ := holds
  have carried : (sessionScope payload.scope).bind ServiceTokenScope.ofText = some scope := by
    rw [signed]
    cases scope <;> rfl
  have served : sessionRole payload.role = .service := by rw [role]; rfl
  unfold AuthClaims.caller at verified
  split at verified
  · obtain rfl := Option.some.inj verified
    exact ⟨carried, served⟩
  · cases verified

/-- What the requests of a client read and write: the tables, the action
summaries and the listeners of the bridge. -/
structure Server where
  world : World
  summaries : List ActionSummary
  bridge : Bridge

/-- A coordinator that has just started on empty tables. -/
def Server.unused : Server := ⟨.unused, [], .started⟩

/-- What a request takes from outside: its clocks and ids, whether the broker
is connected, and the path normalisation against the roots of the repository. -/
structure Surroundings where
  env : Env
  flowEnv : Env
  connected : Bool
  normalizePath : FilePath → Except String FilePath

/-- The first rejection names the path and says why. -/
def normalizeDeclaredPaths (normalizePath : FilePath → Except String FilePath) :
    List FilePath → Except (FilePath × String) (List FilePath)
  | [] => .ok []
  | p :: rest =>
    match normalizePath p with
    | .error message => .error (p, message)
    | .ok q => (normalizeDeclaredPaths normalizePath rest).map (q :: ·)

/-- All declared paths are normalised together and taken apart again. -/
def AnnounceBody.normalized (normalizePath : FilePath → Except String FilePath) (body : AnnounceBody) :
    Except (FilePath × String) AnnounceBody :=
  let nTargets := body.targetFiles.length
  let nDepends := (body.dependsOnFiles.getD []).length
  (normalizeDeclaredPaths normalizePath
    (body.targetFiles ++ body.dependsOnFiles.getD [] ++ body.exportsAffected.getD [])).map fun paths =>
      { body with
        targetFiles := paths.take nTargets
        dependsOnFiles := body.dependsOnFiles.map fun _ => (paths.drop nTargets).take nDepends
        exportsAffected := body.exportsAffected.map fun _ => paths.drop (nTargets + nDepends) }

/-- The tools with their arguments, as the input schemas leave them. -/
inductive Tool
  | registerAgent (agentId : AgentId) (name : String) (modules : List ModuleId)
  | listAgents (onlineOnly : Bool)
  | heartbeat (agentId : AgentId) (currentFile : Option FilePath) (currentThread : Option ThreadId)
  | agentActivity
  | announceWork (body : AnnounceBody)
  | postToThread (params : PostParams)
  | proposeResolution (threadId : ThreadId) (agentId : AgentId) (summary : String)
  | approveResolution (threadId : ThreadId) (agentId : AgentId)
  | contestResolution (threadId : ThreadId) (agentId : AgentId) (reason : String)
  | closeThread (threadId : ThreadId) (agentId : AgentId) (summary : String)
  | cancelThread (threadId : ThreadId) (agentId : AgentId) (reason : Option String)
  | getThread (threadId : ThreadId)
  | getThreadUpdates (agentId : AgentId) (since : Option Stamp)
  | listThreads (filters : ListingFilters)
  | logActionSummary (sessionId : String) (agentId : AgentId) (filePath : Option FilePath) (summary : String)
  /-- Nothing, where the text is not that of a JSON object. -/
  | setDependencyMap (modules : Option (List ParsedModule))
  | getBlastRadius (moduleId : ModuleId)
  | getModuleInfo (moduleId : ModuleId)
  | hotFiles (sinceMinutes : Nat)
  | getSessionFiles (sessionId : String)
  | checkFileConflict (filePath : FilePath) (agentId : AgentId) (withinMinutes : Nat)
  | waitForMessage (agentId : AgentId)
  | getQueuedMessages (agentId : AgentId) (requireAck : Bool) (ack : Option Nat)
  | mqttPublish (topic payload : String)
  | coordinatorStatus
  | waitForPeers (agentId : AgentId) (minPeers : Nat)

def Tool.name : Tool → String
  | .registerAgent .. => "register_agent"
  | .listAgents .. => "list_agents"
  | .heartbeat .. => "heartbeat"
  | .agentActivity => "agent_activity"
  | .announceWork .. => "announce_work"
  | .postToThread .. => "post_to_thread"
  | .proposeResolution .. => "propose_resolution"
  | .approveResolution .. => "approve_resolution"
  | .contestResolution .. => "contest_resolution"
  | .closeThread .. => "close_thread"
  | .cancelThread .. => "cancel_thread"
  | .getThread .. => "get_thread"
  | .getThreadUpdates .. => "get_thread_updates"
  | .listThreads .. => "list_threads"
  | .logActionSummary .. => "log_action_summary"
  | .setDependencyMap .. => "set_dependency_map"
  | .getBlastRadius .. => "get_blast_radius"
  | .getModuleInfo .. => "get_module_info"
  | .hotFiles .. => "hot_files"
  | .getSessionFiles .. => "get_session_files"
  | .checkFileConflict .. => "check_file_conflict"
  | .waitForMessage .. => "wait_for_message"
  | .getQueuedMessages .. => "get_queued_messages"
  | .mqttPublish .. => "mqtt_publish"
  | .coordinatorStatus => "coordinator_status"
  | .waitForPeers .. => "wait_for_peers"

/-- What a tool call or a route answers. -/
inductive ServerReply
  | answer (answer : Answer)
  /-- An error status of a route. -/
  | refused (status : Nat) (error : String)
  /-- A 400 with the paths of what the schema of the body found. -/
  | invalidBody (paths : List String)
  /-- An `isError` result of a tool. -/
  | toolError (text : String)
  | thrown (message : String)
  | ok
  | actionSummary (row : ActionSummary)
  | waited (message : Option QueuedMessage)
  | queued (messages : List QueuedMessage) (batchId : Option Nat)
  | systemStatus (online : List (AgentId × String × List ModuleId)) (openThreads resolvingThreads hotFiles : Nat)
    (connected : Bool)
  | peers (ready : Bool) (online : List (AgentId × String))
  | sessionFiles (sessionId : String)
  | briefing (text : String) (online openThreads hotFiles : Nat)
  | fileConflict (conflict : Bool) (warnings : List String)
  | threadsSummary (runId : String) (total : Nat) (counts : List (ThreadStatus × Nat))
  | interrupt (threads : List Thread)
  | status (online openThreads hotFiles : Nat) (connected : Bool)
  | quota (info : String)
  | consultationStatus (status : ThreadStatus) (messages : List ThreadMessage) (resolutionSummary : Option String)
    (expectedRespondents : List AgentId)
  deriving DecidableEq

namespace Server

/-- One operation or query of the coordination tables. -/
def call (s : Server) (c : Call) : Server × ServerReply :=
  ({ s with world := s.world.step c }, .answer (s.world.reply c))

/-- The threads of an org in one state, as `listThreads` lists them. -/
def threadsIn (s : Server) (env : Env) (orgId : OrgId) (status : ThreadStatus) (runId : Option String) : List Thread :=
  s.world.db.listThreads env orgId { status := some status, sinceMinutes := none, runId }

/-- The `post_to_thread` tool, which makes none of the checks of the route. -/
def toolPost (s : Server) (env : Env) (orgId : OrgId) (params : PostParams) : Server × ServerReply :=
  let (posted, result) := (s.world.db.heartbeat env orgId params.agentId).postToThread env orgId params
  match result with
  | .error e => ({ s with world := s.world.publish env.currentTimestamp posted [] }, .thrown e)
  | .ok m =>
    let round := ((posted.getThread orgId params.threadId).map (·.round)).getD 1
    let event : EventBody :=
      .messagePosted params.threadId params.agentId ((orNull params.agentName).getD params.agentId) params.type
        params.content (if round = 0 then 1 else round) m.tokenEstimate
    ({ s with world := s.world.publish env.currentTimestamp posted [(orgId, event)] }, .answer (.message m))

def logActionSummary (s : Server) (env : Env) (orgId : OrgId) (sessionId : String) (agentId : AgentId)
    (filePath : Option FilePath) (summary : String) : Server × ServerReply :=
  if s.world.db.registered orgId agentId then
    let row : ActionSummary :=
      { id := env.uuid 0, orgId, sessionId, agentId, filePath := orNull filePath, summary
        createdAt := env.currentTimestamp }
    ({ s with summaries := s.summaries ++ [row] }, .actionSummary row)
  else (s, .thrown "FOREIGN KEY constraint failed")

def mqttNotConnectedMessage : String :=
  "MQTT broker not available — no broker is connected in this session. stdio mode never starts one, and since #280 " ++
  "an HTTP daemon also keeps running when its broker cannot bind. Use get_thread_updates for delivery that does not " ++
  "depend on the bus (mqtt_publish / wait_for_message / get_queued_messages)."

/-- A message that is there at once; a call that blocks is answered later. -/
def toolWait (s : Server) (ctx : Surroundings) (orgId : OrgId) (agentId : AgentId) : Server × ServerReply :=
  if ctx.connected then
    let registered := s.bridge.registerListener orgId agentId
    let head := (registered.lookup orgId agentId).bind fun entry => entry.2.listener.queue.head?
    ({ s with bridge := s.bridge.waitForMessage orgId agentId }, .waited head)
  else (s, .toolError mqttNotConnectedMessage)

def toolQueued (s : Server) (ctx : Surroundings) (orgId : OrgId) (agentId : AgentId) (requireAck : Bool)
    (ack : Option Nat) : Server × ServerReply :=
  if ctx.connected then
    let registered := s.bridge.registerListener orgId agentId
    let handedOut := (registered.lookup orgId agentId).map fun entry =>
      (entry.2.listener.getQueuedMessages requireAck ack registered.draws).2.2
    ({ s with bridge := s.bridge.getQueuedMessages orgId agentId requireAck ack },
      .queued ((handedOut.map Prod.fst).getD []) (handedOut.bind Prod.snd))
  else (s, .toolError mqttNotConnectedMessage)

def foreignStatusRefusal (caller : Caller) (topic : String) : String :=
  s!"Refused: {topic} is another agent's status topic. Publishing \"offline\" there runs that agent's departure — " ++
  "its threads are unclaimed, a consultation it was the last respondent on can be force-resolved, and its " ++
  "working-file claims are cleared. Publish your own status " ++
  s!"(coordinator/{caller.org}/agents/{caller.sub}/status), or use broadcast / consultations/* to reach other agents."

/-- What is published comes back, if at all, as a message of the broker. -/
def toolPublish (s : Server) (ctx : Surroundings) (caller : Caller) (topic payload : String) : Server × ServerReply :=
  if ctx.connected then
    let callerAgentId := if caller.role = .agent then some caller.sub else none
    if (mqttPublish ctx.connected caller.org topic payload callerAgentId).accepted then (s, .ok)
    else (s, .thrown (foreignStatusRefusal caller topic))
  else (s, .toolError mqttNotConnectedMessage)

/-- The body of a tool's handler, behind its checks. -/
def runTool (s : Server) (ctx : Surroundings) (caller : Caller) : Tool → Server × ServerReply
  | .registerAgent agentId name modules => s.call (.operation ctx.env caller.org (.register agentId name modules))
  | .listAgents onlineOnly => s.call (.query ctx.env caller.org (.listAgents onlineOnly))
  | .heartbeat agentId currentFile currentThread =>
    s.call (.operation ctx.env caller.org (.heartbeat agentId currentFile currentThread))
  | .agentActivity => s.call (.query ctx.env caller.org .agentActivity)
  | .announceWork body =>
    match body.normalized ctx.normalizePath with
    | .error (path, message) => (s, .toolError s!"invalid path {path}: {message}")
    | .ok body => s.call (.operation ctx.env caller.org (.announceTool ctx.flowEnv body))
  | .postToThread params => s.toolPost ctx.env caller.org params
  | .proposeResolution threadId agentId summary =>
    s.call (.operation ctx.env caller.org (.proposeResolution threadId agentId summary))
  | .approveResolution threadId agentId => s.call (.operation ctx.env caller.org (.approveResolution threadId agentId))
  | .contestResolution threadId agentId reason =>
    s.call (.operation ctx.env caller.org (.contestResolution threadId agentId reason))
  | .closeThread threadId agentId summary =>
    s.call (.operation ctx.env caller.org (.closeThread threadId agentId summary))
  | .cancelThread threadId agentId reason =>
    s.call (.operation ctx.env caller.org (.cancelThread threadId agentId reason))
  | .getThread threadId => s.call (.query ctx.env caller.org (.getThread threadId))
  | .getThreadUpdates agentId since => s.call (.query ctx.env caller.org (.getThreadUpdates agentId since))
  | .listThreads filters => s.call (.query ctx.env caller.org (.listThreads filters))
  | .logActionSummary sessionId agentId filePath summary =>
    s.logActionSummary ctx.env caller.org sessionId agentId filePath summary
  | .setDependencyMap none => (s, .toolError "\"modules\" must decode to a JSON object mapping module_id -> module info")
  | .setDependencyMap (some modules) => s.call (.operation ctx.env caller.org (.setMap modules))
  | .getBlastRadius moduleId => s.call (.query ctx.env caller.org (.blastRadius moduleId))
  | .getModuleInfo moduleId => s.call (.query ctx.env caller.org (.moduleInfo moduleId))
  | .hotFiles sinceMinutes =>
    s.call (.query ctx.env caller.org (.hotFiles (if sinceMinutes = 0 then 30 else sinceMinutes)))
  | .getSessionFiles sessionId => (s, .sessionFiles sessionId)
  | .checkFileConflict filePath agentId withinMinutes =>
    match ctx.normalizePath filePath with
    | .error message => (s, .toolError s!"invalid file_path {filePath}: {message}")
    | .ok path =>
      s.call (.query ctx.env caller.org
        (.checkFileConflict path agentId (if withinMinutes = 0 then 30 else withinMinutes)))
  | .waitForMessage agentId => s.toolWait ctx caller.org agentId
  | .getQueuedMessages agentId requireAck ack => s.toolQueued ctx caller.org agentId requireAck ack
  | .mqttPublish topic payload => s.toolPublish ctx caller topic payload
  | .coordinatorStatus =>
    let online := s.world.db.listOnline ctx.env caller.org
    (s, .systemStatus (online.map fun a => (a.id, a.name, safeJsonParse a.modules []))
      (s.threadsIn ctx.env caller.org .opened none).length (s.threadsIn ctx.env caller.org .resolving none).length
      (s.world.db.getHotFiles ctx.env caller.org 30).length ctx.connected)
  | .waitForPeers agentId minPeers =>
    -- the loop reads the registry until there are enough; what it sees last is answered
    let peers := (s.world.db.listOnline ctx.env caller.org).filter fun a => a.id ≠ agentId
    (s, .peers (minPeers ≤ peers.length) (peers.map fun p => (p.id, p.name)))

/-- Every tool checks the scope under its own name before anything else. -/
def callTool (s : Server) (ctx : Surroundings) (caller : Caller) (tool : Tool) : Server × ServerReply :=
  match requireScope caller.scope tool.name with
  | .error message => (s, .thrown message)
  | .ok () => s.runTool ctx caller tool

/-- The tools that the table calls read-only do nothing but read. -/
theorem runTool_reads (s : Server) (ctx : Surroundings) (caller : Caller) {tool : Tool}
    (reads : toolScopes.lookup tool.name = some .read) : (s.runTool ctx caller tool).1 = s := by
  cases tool with
  | checkFileConflict filePath agentId withinMinutes =>
    simp only [runTool]
    cases ctx.normalizePath filePath with
    | error message => rfl
    | ok path => rfl
  | listAgents | agentActivity | getThread | getThreadUpdates | listThreads | getBlastRadius | getModuleInfo | hotFiles
  | getSessionFiles | coordinatorStatus | waitForPeers => rfl
  | _ =>
    have written : some ServiceTokenScope.write = some .read := reads
    cases written

/-- Every tool is in the table. -/
theorem toolScopes_name (tool : Tool) : (toolScopes.lookup tool.name).isSome := by
  cases tool <;> rfl

/-- A read-scoped token changes nothing through the tools. -/
theorem callTool_read {caller : Caller} (scope : caller.scope = some .read) (s : Server) (ctx : Surroundings)
    (tool : Tool) : (s.callTool ctx caller tool).1 = s := by
  obtain ⟨needed, listed⟩ := Option.isSome_iff_exists.mp (toolScopes_name tool)
  unfold callTool
  simp only [requireScope, scope, listed]
  cases needed with
  | read => exact runTool_reads s ctx caller listed
  | write => rfl
  | admin => rfl

end Server

end Coordinator
