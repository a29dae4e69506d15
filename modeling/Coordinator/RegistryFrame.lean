import Coordinator.ThreadStep

namespace Coordinator

/-- The calls that may write `agents`. -/
def Op.onRegistry : Op → Bool
  | .register .. | .setStatus .. | .runCommonAnnounceFlow .. => true
  | _ => false

namespace Db
variable (env : Env) (orgId : OrgId) (threadId : ThreadId) (agentId : AgentId) (db : Db)

@[simp] theorem insertMessage_agents (m : ThreadMessage) : (db.insertMessage m).1.agents = db.agents := by
  unfold insertMessage
  split <;> rfl

@[simp] theorem postResolutionMessage_agents (type : MessageType) (content : String) :
    (db.postResolutionMessage env orgId threadId agentId type content).1.agents = db.agents := by
  unfold postResolutionMessage
  split
  · rfl
  · exact insertMessage_agents ..

@[simp] theorem updateThread_agents (f : Thread → Thread) (keeps : ∀ t, (f t).id = t.id) :
    (db.updateThread orgId threadId f keeps).agents = db.agents := rfl

@[simp] theorem announceWork_agents (params : AnnounceParams) :
    (db.announceWork env orgId params).1.agents = db.agents := by
  unfold announceWork
  simp only
  split
  · split <;> rfl
  · rfl

@[simp] theorem postToThread_agents (params : PostParams) : (db.postToThread env orgId params).1.agents = db.agents := by
  unfold postToThread
  split
  · rfl
  · split
    · rfl
    · exact insertMessage_agents ..

@[simp] theorem proposeResolution_agents (summary : String) :
    (db.proposeResolution env orgId threadId agentId summary).1.agents = db.agents := by
  unfold proposeResolution
  split
  · rfl
  · split
    · rfl
    · exact postResolutionMessage_agents ..

@[simp] theorem approveResolution_agents (agentName : Option String) :
    (db.approveResolution env orgId threadId agentId agentName).1.agents = db.agents := by
  unfold approveResolution
  split
  · rfl
  · split
    · rfl
    · have posted := postResolutionMessage_agents env orgId threadId agentId db .approve "Approved"
      split
      · rfl
      · rename_i after m posts
        rw [posts] at posted
        simp only
        split
        · split
          · exact (emitResolution_agents ..).trans posted
          · exact posted
        · exact posted

@[simp] theorem contestResolution_agents (reason : String) :
    (db.contestResolution env orgId threadId agentId reason).1.agents = db.agents := by
  unfold contestResolution
  split
  · rfl
  · split
    · rfl
    · have posted := postResolutionMessage_agents env orgId threadId agentId db .contest reason
      split
      · rename_i failed e posts
        rw [posts] at posted
        exact posted
      · rename_i after m posts
        rw [posts] at posted
        simp only
        split
        · exact (emitResolution_agents ..).trans posted
        · exact posted

@[simp] theorem cancelThread_agents (reason : Option String) :
    (db.cancelThread env orgId threadId agentId reason).1.agents = db.agents := by
  unfold cancelThread
  split
  · rfl
  · split
    · rfl
    · simp only
      split
      · rfl
      · exact postResolutionMessage_agents ..

@[simp] theorem closeThread_agents (summary : String) :
    (db.closeThread env orgId threadId agentId summary).1.agents = db.agents := by
  unfold closeThread
  split
  · rfl
  · split
    · rfl
    · split
      · rfl
      · exact emitResolution_agents ..

theorem departThread_agents (thread : Thread) : (departThread env agentId db thread).agents = db.agents := by
  unfold departThread
  simp only
  split
  · rfl
  · split <;> split <;> simp

@[simp] theorem handleAgentDeparture_agents : (db.handleAgentDeparture env orgId agentId).agents = db.agents := by
  have loop : ∀ (rows : List Thread) (db : Db), (rows.foldl (departThread env agentId) db).agents = db.agents := by
    intro rows
    induction rows with
    | nil => exact fun _ => rfl
    | cons row rest ih => exact fun db => (ih _).trans (departThread_agents ..)
  exact loop _ _

@[simp] theorem checkTimeouts_agents : (db.checkTimeouts env).agents = db.agents := by
  have emitted : ∀ (rows : List Thread) (db : Db),
      (rows.foldl (fun db t => db.emitResolution env t.id .timeout none none) db).agents = db.agents := by
    intro rows
    induction rows with
    | nil => exact fun _ => rfl
    | cons row rest ih => exact fun db => (ih _).trans (emitResolution_agents ..)
  unfold checkTimeouts
  simp only
  split
  · rfl
  · exact emitted _ _

@[simp] theorem handleClaimTask_agents : (db.handleClaimTask env orgId threadId agentId).1.agents = db.agents := by
  unfold handleClaimTask
  simp only
  split <;> rfl

@[simp] theorem handleUnclaimTask_agents : (db.handleUnclaimTask orgId threadId agentId).1.agents = db.agents := by
  unfold handleUnclaimTask
  simp only
  split
  · rfl
  · split <;> rfl

@[simp] theorem handleIntrospectionResponse_agents (introspectionId : String) (concerned : Bool) (reason : String) :
    (db.handleIntrospectionResponse env orgId introspectionId concerned reason).1.agents = db.agents := by
  unfold handleIntrospectionResponse
  simp only
  split
  · rfl
  · split
    · rfl
    · split <;> rfl

@[simp] theorem createIntrospections_agents (scores : List ImpactScore) (n : Nat) :
    (db.createIntrospections env orgId threadId scores n).1.agents = db.agents := by
  induction scores generalizing n db with
  | nil => rfl
  | cons s rest ih =>
    unfold createIntrospections createIntrospection
    by_cases allowed : db.registered orgId s.agentId ∧ (db.getThreadCrossOrg threadId).isSome
    · rw [if_pos allowed]
      exact ih _ _
    · rw [if_neg allowed]

theorem finishFlow_agents (params : CommonFlowParams) (categorized : CategorizedImpact) :
    (db.finishFlow env threadId params categorized).1.agents = db.agents := by
  have rows := createIntrospections_agents env params.orgId threadId db categorized.grayZone 0
  unfold finishFlow
  simp only
  split
  · rename_i failed _ asked
    rw [← rows, asked]
  · rename_i asked result
    have same : asked.agents = db.agents := by rw [← rows, result]
    split <;> exact same

/-- The announce flow writes the announcer's heartbeat and nothing else of the registry. -/
theorem runCommonAnnounceFlow_agents (params : CommonFlowParams) :
    (db.runCommonAnnounceFlow env threadId params).1.agents = (db.heartbeat env params.orgId params.agentId).agents := by
  have overridden : (db.overrideRespondents env threadId params).1.agents =
      (db.heartbeat env params.orgId params.agentId).agents := rfl
  unfold runCommonAnnounceFlow
  simp only
  split
  · split
    · rw [finishFlow_agents, emitResolution_agents, updateThread_agents, overridden]
    · rw [finishFlow_agents, overridden]
  · split
    · exact overridden
    · rw [finishFlow_agents, overridden]

/-- The other calls leave the registry as it is. -/
theorem step_agents {op : Op} (elsewhere : ¬ op.onRegistry) : (db.step (env, op)).agents = db.agents := by
  cases op with
  | register orgId agentId name modules => exact absurd rfl elsewhere
  | setStatus status orgId agentId => exact absurd rfl elsewhere
  | runCommonAnnounceFlow threadId params => exact absurd rfl elsewhere
  | logFile orgId agentId filePath symbols => rfl
  | startWorking orgId agentId filePath ttlMinutes => rfl
  | stopWorking orgId agentId filePath => rfl
  | _ => simp [step]

end Db

end Coordinator
