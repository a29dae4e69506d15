import Coordinator.ThreadStep

namespace Coordinator

namespace Db

theorem createIntrospections_messages (env : Env) (orgId : OrgId) (threadId : ThreadId) (scores : List ImpactScore)
    (n : Nat) (db : Db) : (db.createIntrospections env orgId threadId scores n).1.messages = db.messages := by
  induction scores generalizing n db with
  | nil => rfl
  | cons s rest ih =>
    unfold createIntrospections createIntrospection
    split
    · rename_i created result
      split at result
      · cases result; exact ih _ _
      · simp at result
    · rename_i failed e result
      split at result
      · simp at result
      · cases result; rfl

theorem finishFlow_messages (env : Env) (threadId : ThreadId) (params : CommonFlowParams)
    (categorized : CategorizedImpact) (db : Db) :
    (db.finishFlow env threadId params categorized).1.messages = db.messages := by
  have rows := createIntrospections_messages env params.orgId threadId categorized.grayZone 0 db
  unfold finishFlow
  simp only
  split
  · rename_i failed _ asked
    rw [← rows, asked]
  · rename_i asked result
    have same : asked.messages = db.messages := by rw [← rows, result]
    split <;> exact same

theorem runCommonAnnounceFlow_messages (env : Env) (threadId : ThreadId) (params : CommonFlowParams) (db : Db) :
    (db.runCommonAnnounceFlow env threadId params).1.messages = db.messages := by
  have overridden : (db.overrideRespondents env threadId params).1.messages = db.messages := rfl
  unfold runCommonAnnounceFlow
  simp only
  split
  · split
    · rw [finishFlow_messages, emitResolution_messages, updateThread_messages, overridden]
    · rw [finishFlow_messages, overridden]
  · split
    · exact overridden
    · rw [finishFlow_messages, overridden]

theorem announceWork_messages (env : Env) (orgId : OrgId) (params : AnnounceParams) (db : Db) :
    (db.announceWork env orgId params).1.messages = db.messages := by
  unfold announceWork
  simp only
  split
  · split <;> rfl
  · rfl

theorem handleUnclaimTask_messages (orgId : OrgId) (threadId : ThreadId) (agentId : AgentId) (db : Db) :
    (db.handleUnclaimTask orgId threadId agentId).1.messages = db.messages := by
  unfold handleUnclaimTask
  simp only
  split
  · rfl
  · split <;> rfl

theorem handleIntrospectionResponse_messages (env : Env) (orgId : OrgId) (introspectionId : String)
    (concerned : Bool) (reason : String) (db : Db) :
    (db.handleIntrospectionResponse env orgId introspectionId concerned reason).1.messages = db.messages := by
  unfold handleIntrospectionResponse
  simp only
  split
  · rfl
  · split
    · rfl
    · split <;> rfl

theorem register_messages (env : Env) (orgId : OrgId) (agentId : AgentId) (name : String)
    (modules : List ModuleId) (db : Db) : (db.register env orgId agentId name modules).messages = db.messages := by
  unfold register
  simp only
  split <;> rfl

theorem closeThread_messages (env : Env) (orgId : OrgId) (threadId : ThreadId) (agentId : AgentId)
    (summary : String) (db : Db) :
    (db.closeThread env orgId threadId agentId summary).1.messages = db.messages := by
  unfold closeThread
  split
  · rfl
  · split
    · rfl
    · split
      · rfl
      · exact emitResolution_messages ..

theorem proposeResolution_messages {env : Env} {orgId : OrgId} {threadId : ThreadId} {agentId : AgentId}
    {summary : String} {db : Db} {t : Thread} (target : db.getThread orgId threadId = some t) :
    (db.proposeResolution env orgId threadId agentId summary).1.messages =
      if (t.initiatorId = agentId ∨ t.claimedBy = some agentId) ∧ db.registered orgId agentId then
        db.messages ++ [resolutionMessage env orgId t agentId .resolution summary]
      else db.messages := by
  obtain ⟨found, atOrg⟩ := getThread_eq_some.mp target
  subst atOrg
  have atId := find_id found
  subst atId
  unfold proposeResolution
  rw [target]
  simp only
  split
  · rename_i stranger
    rw [if_neg (by tauto)]
  · rename_i entitled
    have proposed : (db.updateThread t.orgId t.id (.propose summary) (Thread.propose_id _)).getThread t.orgId t.id =
        some (t.propose summary) := updateThread_getThread found rfl
    rw [Outcome.void, postResolutionMessage_found proposed, insertMessage_messages]
    have allowed : t.initiatorId = agentId ∨ t.claimedBy = some agentId := by tauto
    simp only [allowed, true_and]
    rfl

theorem approveResolution_messages {env : Env} {orgId : OrgId} {threadId : ThreadId} {agentId : AgentId}
    {agentName : Option String} {db : Db} {t : Thread} (target : db.getThread orgId threadId = some t) :
    (db.approveResolution env orgId threadId agentId agentName).1.messages =
      if t.status = .resolving ∧ db.registered orgId agentId then
        db.messages ++ [resolutionMessage env orgId t agentId .approve "Approved"]
      else db.messages := by
  rcases approveResolution_cases target with ⟨refused, after⟩ | ⟨granted, after⟩
  · rw [after, if_neg refused]
  · rw [after, if_pos granted]
    simp only
    split
    · exact emitResolution_messages ..
    · rfl

theorem contestResolution_messages {env : Env} {orgId : OrgId} {threadId : ThreadId} {agentId : AgentId}
    {reason : String} {db : Db} {t : Thread} (target : db.getThread orgId threadId = some t) :
    (db.contestResolution env orgId threadId agentId reason).1.messages =
      if t.status = .resolving ∧ db.registered orgId agentId then
        db.messages ++ [resolutionMessage env orgId t agentId .contest reason]
      else db.messages := by
  rcases contestResolution_cases target with ⟨refused, after⟩ | ⟨granted, after⟩
  · rw [after, if_neg refused]
  · rw [after, if_pos granted]
    simp only
    split
    · exact emitResolution_messages ..
    · rfl

/-- The messages a call may write on a thread it has found: their thread,
round and author side is the same for all, their type is the call's own. -/
inductive Posts : Op → Thread → ThreadMessage → Prop
  | post (t : Thread) (params : PostParams) (m : ThreadMessage) : m.threadId = t.id → m.round = t.round →
    m.type = params.type → Posts (.postToThread t.orgId params) t m
  | propose (t : Thread) (agentId : AgentId) (summary : String) (m : ThreadMessage) : m.threadId = t.id →
    m.round = t.round → m.type = .resolution → m.content = summary →
    t.initiatorId = agentId ∨ t.claimedBy = some agentId →
    Posts (.proposeResolution t.orgId t.id agentId summary) t m
  | approve (t : Thread) (agentId : AgentId) (agentName : Option String) (m : ThreadMessage) : m.threadId = t.id →
    m.round = t.round → m.type = .approve → Posts (.approveResolution t.orgId t.id agentId agentName) t m
  | contest (t : Thread) (agentId : AgentId) (reason : String) (m : ThreadMessage) : m.threadId = t.id →
    m.round = t.round → m.type = .contest → Posts (.contestResolution t.orgId t.id agentId reason) t m
  | cancel (t : Thread) (agentId : AgentId) (reason : Option String) (m : ThreadMessage) : m.threadId = t.id →
    m.round = t.round → m.type = .context → Posts (.cancelThread t.orgId t.id agentId reason) t m

theorem target_eq {db : Db} {orgId : OrgId} {threadId : ThreadId} {t : Thread}
    (target : db.getThread orgId threadId = some t) :
    db.threads.find t.id = some t ∧ orgId = t.orgId ∧ threadId = t.id := by
  obtain ⟨found, atOrg⟩ := getThread_eq_some.mp target
  exact ⟨(find_id found).symm ▸ found, atOrg.symm, (find_id found).symm⟩

/-- A call that posts under a condition posts one message or none. -/
theorem posts_if {db : Db} {env : Env} {op : Op} {t : Thread} {m : ThreadMessage} {allowed : Prop}
    [Decidable allowed] (found : db.threads.find t.id = some t)
    (messages : (db.step (env, op)).messages = if allowed then db.messages ++ [m] else db.messages)
    (posts : allowed → Posts op t m) :
    (db.step (env, op)).messages = db.messages ∨
      ∃ t m, db.threads.find t.id = some t ∧ (db.step (env, op)).messages = db.messages ++ [m] ∧ Posts op t m := by
  split at messages
  · rename_i granted
    exact .inr ⟨t, m, found, messages, posts granted⟩
  · exact .inl messages

/-- A call adds at most one message, at the end. -/
theorem step_messages (db : Db) (env : Env) (op : Op) :
    (db.step (env, op)).messages = db.messages ∨
      ∃ t m, db.threads.find t.id = some t ∧ (db.step (env, op)).messages = db.messages ++ [m] ∧ Posts op t m := by
  cases op with
  | announceWork orgId params => exact .inl (announceWork_messages env orgId params db)
  | runCommonAnnounceFlow threadId params => exact .inl (runCommonAnnounceFlow_messages env threadId params db)
  | postToThread orgId params =>
    simp only [step, postToThread]
    cases target : db.getThread orgId params.threadId with
    | none => exact .inl rfl
    | some t =>
      obtain ⟨found, rfl, atId⟩ := target_eq target
      simp only
      split
      · exact .inl rfl
      · rw [insertMessage_messages]
        split
        · exact .inr ⟨t, _, found, rfl, .post t params _ atId rfl rfl⟩
        · exact .inl rfl
  | proposeResolution orgId threadId agentId summary =>
    cases target : db.getThread orgId threadId with
    | none => exact .inl (by rw [step, proposeResolution, target])
    | some t =>
      obtain ⟨found, rfl, rfl⟩ := target_eq target
      exact posts_if found (proposeResolution_messages target) fun allowed =>
        .propose t agentId summary _ rfl rfl rfl rfl allowed.1
  | approveResolution orgId threadId agentId agentName =>
    cases target : db.getThread orgId threadId with
    | none => exact .inl (by rw [step, approveResolution, target])
    | some t =>
      obtain ⟨found, rfl, rfl⟩ := target_eq target
      exact posts_if found (approveResolution_messages target) fun _ => .approve t agentId agentName _ rfl rfl rfl
  | contestResolution orgId threadId agentId reason =>
    cases target : db.getThread orgId threadId with
    | none => exact .inl (by rw [step, contestResolution, target])
    | some t =>
      obtain ⟨found, rfl, rfl⟩ := target_eq target
      exact posts_if found (contestResolution_messages target) fun _ => .contest t agentId reason _ rfl rfl rfl
  | cancelThread orgId threadId agentId reason =>
    simp only [step, cancelThread]
    cases target : db.getThread orgId threadId with
    | none => exact .inl rfl
    | some t =>
      obtain ⟨found, rfl, rfl⟩ := target_eq target
      simp only
      split
      · exact .inl rfl
      · split
        · exact .inl rfl
        · have cancelled : (db.updateThread t.orgId t.id (.cancel env.isoNow) (Thread.cancel_id _)).getThread
              t.orgId t.id = some (t.cancel env.isoNow) := updateThread_getThread found rfl
          rw [Outcome.void, postResolutionMessage_found cancelled, insertMessage_messages]
          split
          · exact .inr ⟨t, _, found, rfl, .cancel t agentId reason _ rfl rfl rfl⟩
          · exact .inl rfl
  | closeThread orgId threadId agentId summary =>
    exact .inl (closeThread_messages env orgId threadId agentId summary db)
  | handleAgentDeparture orgId agentId => exact .inl (handleAgentDeparture_messages env orgId agentId db)
  | checkTimeouts => exact .inl (checkTimeouts_messages env db)
  | handleClaimTask orgId threadId agentId =>
    refine .inl ?_
    simp only [step, handleClaimTask]
    split <;> rfl
  | handleUnclaimTask orgId threadId agentId => exact .inl (handleUnclaimTask_messages orgId threadId agentId db)
  | handleIntrospectionResponse orgId introspectionId concerned reason =>
    exact .inl (handleIntrospectionResponse_messages env orgId introspectionId concerned reason db)
  | register orgId agentId name modules => exact .inl (register_messages env orgId agentId name modules db)
  | setStatus status orgId agentId => exact .inl rfl
  | logFile orgId agentId filePath symbols => exact .inl rfl
  | startWorking orgId agentId filePath ttlMinutes => exact .inl rfl
  | stopWorking orgId agentId filePath => exact .inl rfl

end Db

end Coordinator
