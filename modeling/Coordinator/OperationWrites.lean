import Coordinator.AnnounceOutcome
import Coordinator.RegistryFrame
import Coordinator.TenantWorld
import Coordinator.ThreadMessages

namespace Coordinator

/-- The tables that agents coordinate through stay as they are; the claims are
columns of the threads. -/
structure Db.Kept (db db' : Db) : Prop where
  agents : db'.agents = db.agents
  threads : db'.threads = db.threads
  messages : db'.messages = db.messages
  fileActivity : db'.fileActivity = db.fileActivity
  workingFiles : db'.workingFiles = db.workingFiles
  introspections : db'.introspections = db.introspections
  dependencyMap : db'.dependencyMap = db.dependencyMap

theorem Db.Kept.refl (db : Db) : db.Kept db := ⟨rfl, rfl, rfl, rfl, rfl, rfl, rfl⟩

/-- An agent that was last seen in another spelling than a heartbeat writes. -/
def silentAgent (orgId : OrgId) (agentId : AgentId) : Agent :=
  { id := agentId, orgId, name := "", modules := .array [], status := .online
    registeredAt := .iso 0, lastSeenAt := .iso 0 }

/-- A thread of that agent, in this state and claimed by this agent. -/
def plainThread (orgId : OrgId) (threadId : ThreadId) (agentId : AgentId) (status : ThreadStatus)
    (claimedBy : Option AgentId) : Thread :=
  { id := threadId, orgId, initiatorId := agentId, subject := "", plan := none, targetModules := [], targetFiles := []
    status, resolutionSummary := none, conflicts := none, round := 1, maxRounds := 4, timeoutSeconds := 600
    createdAt := .iso 0, resolvedAt := none, expectedRespondents := .array [], dependsOnFiles := []
    exportsAffected := [], claimedBy, claimedAt := none, unclaimCount := none, assignedTo := none, runId := none }

namespace Db
variable {env : Env} {orgId : OrgId} {agentId : AgentId} {threadId : ThreadId} {threads : Table Thread Thread.id}
  {status : ThreadStatus} {claimedBy : Option AgentId} {after : Db}

/-- One agent, and these threads. -/
def attended (orgId : OrgId) (agentId : AgentId) (threads : Table Thread Thread.id) : Db :=
  { Db.empty with agents := .single Agent.key (silentAgent orgId agentId), threads }

/-- One agent and its one thread. -/
def busy (orgId : OrgId) (agentId : AgentId) (threadId : ThreadId) (status : ThreadStatus)
    (claimedBy : Option AgentId) : Db :=
  attended orgId agentId (.single Thread.id (plainThread orgId threadId agentId status claimedBy))

theorem attended_registered : (attended orgId agentId threads).registered orgId agentId := by
  rw [registered, getAgent, attended]
  exact congrArg Option.isSome (Table.find_single (silentAgent orgId agentId))

theorem busy_getThread : (busy orgId agentId threadId status claimedBy).getThread orgId threadId =
    some (plainThread orgId threadId agentId status claimedBy) := by
  simp [getThread, busy, attended, Table.find, Table.single, plainThread]

def seen (db : Db) (orgId : OrgId) (agentId : AgentId) : Option Stamp := (db.getAgent orgId agentId).map (·.lastSeenAt)

theorem stamped_writes {n : Nat} (stamped : after.seen orgId agentId = some (.sqlite n)) :
    ¬ (attended orgId agentId threads).Kept after := by
  intro kept
  rw [seen, getAgent, kept.agents] at stamped
  simp [attended, Table.find, Table.single, silentAgent, Agent.key] at stamped

/-- Whatever beats for the agent, or sets it offline, writes. -/
theorem setStatus_writes (env : Env) (status : AgentConnectionStatus)
    (same : after.agents = ((attended orgId agentId threads).setStatus status env orgId agentId).agents) :
    ¬ (attended orgId agentId threads).Kept after := by
  have stamped : after.seen orgId agentId = some env.currentTimestamp := by
    rw [seen, getAgent, same]
    simp [setStatus, attended, Table.find, Table.update, Table.single, silentAgent, Agent.key, Agent.mark]
  exact stamped_writes stamped

theorem rewrites_writes {db : Db} {g : Thread → Thread} {t : Thread} (rewrites : db.Rewrites after orgId threadId g)
    (found : db.getThread orgId threadId = some t) (moves : g t ≠ t) : ¬ db.Kept after := by
  intro kept
  have row := rewrites.at_target found
  rw [kept.threads, (getThread_eq_some.mp found).1] at row
  exact moves (Option.some.inj row).symm

theorem messages_writes {db : Db} {m : ThreadMessage} (posted : after.messages = db.messages ++ [m]) : ¬ db.Kept after := by
  intro kept
  have grown := congrArg List.length (kept.messages.symm.trans posted)
  simp at grown

theorem setModule_ne_nil (db : Db) (info : ParsedModule) : (setModule orgId db info).dependencyMap ≠ [] := by
  unfold setModule
  simp only
  split
  · rename_i present
    obtain ⟨row, member, -⟩ := List.any_eq_true.mp present
    rw [ne_eq, List.map_eq_nil_iff]
    exact List.ne_nil_of_mem member
  · simp

theorem setMap_ne_nil {map : List ParsedModule} (listed : map ≠ []) (db : Db) :
    (db.setMap orgId map).dependencyMap ≠ [] := by
  have lasts : ∀ (map : List ParsedModule) (db : Db), db.dependencyMap ≠ [] →
      (db.setMap orgId map).dependencyMap ≠ [] := by
    intro map
    induction map with
    | nil => exact fun _ held => held
    | cons info rest ih => exact fun db _ => ih _ (setModule_ne_nil _ info)
  cases map with
  | nil => exact absurd rfl listed
  | cons info rest => exact lasts rest _ (setModule_ne_nil _ info)

theorem concluded_db (result : Outcome Unit) (reply : Db → Answer) (events : List EventBody) :
    (concluded env result reply events).db = result.1 := by
  unfold concluded
  split <;> rfl

theorem attended_announces (orgId : OrgId) (env : Env) (body : AnnounceBody) : ∃ announced thread,
    (attended orgId body.agentId .empty).announceWork env orgId body.announceParams = (announced, .ok thread) ∧
      announced.agents = (attended orgId body.agentId .empty).agents := by
  rcases announceWork_outcome env orgId body.announceParams (attended orgId body.agentId .empty) with
    ⟨threads, ran, -⟩ | ⟨e, -, stranger | taken⟩
  · exact ⟨_, _, ran, rfl⟩
  · exact absurd attended_registered (Bool.not_eq_true _ ▸ stranger)
  · exact absurd (Table.find_empty _) taken

theorem setConflicts_agents (conflicts : List ConflictReport) (db : Db) :
    (db.setConflicts threadId conflicts).agents = db.agents := by
  unfold setConflicts
  split <;> rfl

/-- Either announce beats for its agent by the clock of the flow. -/
theorem flow_writes {announced : Db} (flowEnv : Env) {body : AnnounceBody} {reply : Except String CommonFlowResult}
    (same : announced.agents = (attended orgId body.agentId .empty).agents)
    (ran : announced.runCommonAnnounceFlow flowEnv threadId (body.flowParams orgId) = (after, reply)) :
    ¬ (attended orgId body.agentId .empty).Kept after := by
  have flow := runCommonAnnounceFlow_agents flowEnv threadId announced (body.flowParams orgId)
  rw [ran] at flow
  refine setStatus_writes flowEnv .online (flow.trans ?_)
  simp only [heartbeat, setStatus, same]
  rfl

theorem handleIntrospectionResponse_introspections (introspectionId : String) (concerned : Bool) (reason : String)
    (db : Db) : (db.handleIntrospectionResponse env orgId introspectionId concerned reason).1.introspections =
      (db.respondIntrospection env orgId introspectionId reason).1.introspections := by
  unfold handleIntrospectionResponse
  simp only
  split
  · rfl
  · split
    · rfl
    · split <;> rfl

/-- An operation changes some tables. -/
def Writes (env : Env) (orgId : OrgId) (op : Operation) : Prop :=
  ∃ db : Db, db.resolutions = [] ∧ ¬ db.Kept (db.serve env orgId [] op).db

theorem register_writes (name : String) (modules : List ModuleId) :
    Writes env orgId (.register agentId name modules) := by
  have stamped : ((attended orgId agentId .empty).register env orgId agentId name modules).seen orgId agentId =
      some env.currentTimestamp := by
    simp [register, seen, getAgent, attended, Table.insert, Table.find, Table.update, Table.single, silentAgent,
      Agent.key, Agent.rejoin]
  exact ⟨attended orgId agentId .empty, rfl, stamped_writes stamped⟩

theorem logFile_writes (agentName : Option String) (toolName : String) (filePath : FilePath) :
    Writes env orgId (.logFile agentId agentName toolName filePath) := by
  refine ⟨.empty, rfl, fun kept => ?_⟩
  have logged := kept.fileActivity
  simp only [serve] at logged
  split at logged <;> cases logged

theorem stopWorking_writes (filePath : FilePath) : Writes env orgId (.stopWorking agentId filePath) := by
  refine ⟨{ empty with workingFiles := [⟨orgId, agentId, filePath, 0⟩] }, rfl, fun kept => ?_⟩
  have stopped := kept.workingFiles
  simp [serve, stopWorking] at stopped

theorem announce_writes (flowEnv : Env) (sentFiles : List FilePath) (body : AnnounceBody) :
    Writes env orgId (.announce flowEnv sentFiles body) := by
  obtain ⟨announced, thread, ran, same⟩ := attended_announces orgId env body
  refine ⟨attended orgId body.agentId .empty, rfl, ?_⟩
  simp only [serve, serveAnnounce, ran]
  split
  · rename_i flows
    exact flow_writes flowEnv same flows
  · rename_i flows
    exact flow_writes flowEnv same flows

theorem announceTool_writes (flowEnv : Env) (body : AnnounceBody) :
    Writes env orgId (.announceTool flowEnv body) := by
  obtain ⟨announced, thread, ran, same⟩ := attended_announces orgId env body
  refine ⟨attended orgId body.agentId .empty, rfl, ?_⟩
  simp only [serve, serveAnnounceTool, ran]
  split
  · rename_i flows
    exact flow_writes flowEnv ((setConflicts_agents ..).trans same) flows
  · rename_i flows
    exact flow_writes flowEnv ((setConflicts_agents ..).trans same) flows

/-- The author's heartbeat comes before the post. -/
theorem postToThread_writes (params : PostParams) : Writes env orgId (.postToThread params) := by
  have posted := postToThread_agents env orgId
    ((busy orgId params.agentId params.threadId .opened none).heartbeat env orgId params.agentId) params
  refine ⟨busy orgId params.agentId params.threadId .opened none, rfl, setStatus_writes env .online ?_⟩
  simp only [serve, servePost, busy_getThread]
  rw [if_neg (by simp [plainThread])]
  split
  · rename_i ran
    rwa [ran] at posted
  · rename_i ran
    rwa [ran] at posted

theorem claimTask_writes : Writes env orgId (.claimTask threadId agentId) := by
  have free : ¬ (busy orgId agentId threadId .opened none).heldElsewhere agentId
      (plainThread orgId threadId agentId .opened none) := by
    simp [heldElsewhere, busy, attended, Table.single]
  refine ⟨busy orgId agentId threadId .opened none, rfl, ?_⟩
  refine rewrites_writes (handleClaimTask_rewrites env orgId threadId agentId _) busy_getThread ?_
  rw [if_pos ⟨rfl, rfl, .inl rfl, free⟩]
  simp [plainThread, Thread.claim]

theorem introspectionResponse_writes (introspectionId : String) (concerned : Bool) (reason : String) :
    Writes env orgId (.introspectionResponse introspectionId concerned reason) := by
  refine ⟨{ empty with introspections := [⟨introspectionId, orgId, "", "", 0, [], .pending, none, none⟩] }, rfl,
    fun kept => ?_⟩
  have answered := kept.introspections
  simp only [serve] at answered
  rw [handleIntrospectionResponse_introspections] at answered
  simp [respondIntrospection] at answered

/-- Every operation but the empty dependency map writes. -/
theorem serve_writes (env : Env) (orgId : OrgId) {op : Operation} (nonempty : op ≠ .setMap []) :
    Writes env orgId op := by
  cases op with
  | register agentId name modules => exact register_writes name modules
  | sessionStop agentId =>
    exact ⟨attended orgId agentId .empty, rfl, setStatus_writes env .offline (handleAgentDeparture_agents ..)⟩
  | processDeparture agentId =>
    refine ⟨attended orgId agentId .empty, rfl, setStatus_writes env .offline ?_⟩
    simp only [serve]
    split
    · exact handleAgentDeparture_agents ..
    · rfl
  | heartbeat agentId currentFile currentThread =>
    refine ⟨attended orgId agentId .empty, rfl, setStatus_writes env .online ?_⟩
    simp only [serve, serveHeartbeat]
    split <;> rfl
  | logFile agentId agentName toolName filePath => exact logFile_writes agentName toolName filePath
  | fileActivity agentId filePath symbols =>
    refine ⟨.empty, rfl, fun kept => ?_⟩
    cases kept.fileActivity
  | startWorking agentId filePath ttlMinutes =>
    refine ⟨.empty, rfl, fun kept => ?_⟩
    cases kept.workingFiles
  | stopWorking agentId filePath => exact stopWorking_writes filePath
  | setMap map =>
    have listed : map ≠ [] := fun none => nonempty (congrArg _ none)
    exact ⟨.empty, rfl, fun kept => setMap_ne_nil listed .empty kept.dependencyMap⟩
  | announce flowEnv sentFiles body => exact announce_writes flowEnv sentFiles body
  | announceTool flowEnv body => exact announceTool_writes flowEnv body
  | postToThread params => exact postToThread_writes params
  | proposeResolution threadId agentId summary =>
    refine ⟨busy orgId agentId threadId .opened none, rfl, ?_⟩
    rw [serve, concluded_db]
    refine rewrites_writes (proposeResolution_rewrites env orgId threadId agentId summary _) busy_getThread ?_
    simp [plainThread, Thread.propose]
  | approveResolution threadId agentId =>
    refine ⟨busy orgId agentId threadId .resolving none, rfl, ?_⟩
    rw [serve, concluded_db]
    exact messages_writes ((approveResolution_messages busy_getThread).trans (if_pos ⟨rfl, attended_registered⟩))
  | contestResolution threadId agentId reason =>
    refine ⟨busy orgId agentId threadId .resolving none, rfl, ?_⟩
    rw [serve, concluded_db]
    exact messages_writes ((contestResolution_messages busy_getThread).trans (if_pos ⟨rfl, attended_registered⟩))
  | closeThread threadId agentId summary =>
    refine ⟨busy orgId agentId threadId .opened none, rfl, ?_⟩
    rw [serve, concluded_db]
    refine rewrites_writes (closeThread_rewrites env orgId threadId agentId summary _) busy_getThread ?_
    simp [plainThread, Thread.close, ThreadStatus.active]
  | cancelThread threadId agentId reason =>
    refine ⟨busy orgId agentId threadId .opened none, rfl, ?_⟩
    rw [serve, concluded_db]
    refine rewrites_writes (cancelThread_rewrites env orgId threadId agentId reason _) busy_getThread ?_
    simp [plainThread, Thread.cancel]
  | claimTask threadId agentId => exact claimTask_writes
  | unclaimTask threadId agentId =>
    refine ⟨busy orgId agentId threadId .opened (some agentId), rfl, ?_⟩
    refine rewrites_writes (handleUnclaimTask_rewrites orgId threadId agentId _) busy_getThread ?_
    simp [plainThread, Thread.release, poisonThreshold]
  | introspectionResponse introspectionId concerned reason =>
    exact introspectionResponse_writes introspectionId concerned reason

end Db

end Coordinator
