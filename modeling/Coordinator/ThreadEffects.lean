import Coordinator.AnnounceWorkflow

namespace Coordinator

namespace Db

theorem getThread_eq_some {db : Db} {orgId : OrgId} {threadId : ThreadId} {t : Thread} :
    db.getThread orgId threadId = some t ↔ db.threads.find threadId = some t ∧ t.orgId = orgId := by
  simp [getThread]

theorem find_id {db : Db} {threadId : ThreadId} {t : Thread} (found : db.threads.find threadId = some t) :
    t.id = threadId := (Table.find_eq_some.mp found).2

@[simp] theorem updateThread_find (db : Db) (orgId : OrgId) (threadId : ThreadId) (f : Thread → Thread)
    (keeps : ∀ t, (f t).id = t.id) (k : ThreadId) :
    (db.updateThread orgId threadId f keeps).threads.find k =
      (db.threads.find k).map fun t => if t.id = threadId ∧ t.orgId = orgId then f t else t := by
  simp [updateThread]

@[simp] theorem updateThread_messages (db : Db) (orgId : OrgId) (threadId : ThreadId) (f : Thread → Thread)
    (keeps : ∀ t, (f t).id = t.id) : (db.updateThread orgId threadId f keeps).messages = db.messages := rfl

@[simp] theorem emitResolution_threads (env : Env) (threadId : ThreadId) (type : ResolutionType)
    (by' name : Option String) (db : Db) : (db.emitResolution env threadId type by' name).threads = db.threads := by
  unfold emitResolution
  split <;> rfl

@[simp] theorem emitResolution_messages (env : Env) (threadId : ThreadId) (type : ResolutionType)
    (by' name : Option String) (db : Db) :
    (db.emitResolution env threadId type by' name).messages = db.messages := by
  unfold emitResolution
  split <;> rfl

@[simp] theorem emitResolution_agents (env : Env) (threadId : ThreadId) (type : ResolutionType)
    (by' name : Option String) (db : Db) : (db.emitResolution env threadId type by' name).agents = db.agents := by
  unfold emitResolution
  split <;> rfl

@[simp] theorem insertMessage_threads (db : Db) (m : ThreadMessage) : (db.insertMessage m).1.threads = db.threads := by
  unfold insertMessage
  split <;> rfl

@[simp] theorem postResolutionMessage_threads (env : Env) (orgId : OrgId) (threadId : ThreadId) (agentId : AgentId)
    (type : MessageType) (content : String) (db : Db) :
    (db.postResolutionMessage env orgId threadId agentId type content).1.threads = db.threads := by
  unfold postResolutionMessage
  split
  · rfl
  · exact insertMessage_threads ..

@[simp] theorem createIntrospections_threads (env : Env) (orgId : OrgId) (threadId : ThreadId)
    (scores : List ImpactScore) (n : Nat) (db : Db) :
    (db.createIntrospections env orgId threadId scores n).1.threads = db.threads := by
  induction scores generalizing n db with
  | nil => rfl
  | cons s rest ih =>
    unfold createIntrospections createIntrospection
    split
    · rename_i created result
      split at result
      · cases result; exact ih _ _
      · simp at result
    · rename_i failed e result
      split at result
      · simp at result
      · cases result; rfl

/-- The author is registered exactly when the message lands. -/
theorem insertMessage_messages (db : Db) (m : ThreadMessage) :
    (db.insertMessage m).1.messages = if db.registered m.orgId m.agentId then db.messages ++ [m] else db.messages := by
  unfold insertMessage
  split <;> rfl

/-- The message `postResolutionMessage` writes on a thread it has found. -/
def resolutionMessage (env : Env) (orgId : OrgId) (thread : Thread) (agentId : AgentId) (type : MessageType)
    (content : String) : ThreadMessage :=
  { id := env.uuid 0, orgId, threadId := thread.id, agentId, agentName := none, type, content
    contextSnapshot := none, inReplyTo := none, round := thread.round, tokenEstimate := 0
    createdAt := env.currentTimestamp }

theorem postResolutionMessage_found {env : Env} {orgId : OrgId} {threadId : ThreadId} {agentId : AgentId}
    {type : MessageType} {content : String} {db : Db} {t : Thread} (found : db.getThread orgId threadId = some t) :
    db.postResolutionMessage env orgId threadId agentId type content =
      db.insertMessage (resolutionMessage env orgId t agentId type content) := by
  have atId := find_id (getThread_eq_some.mp found).1
  simp [postResolutionMessage, found, resolutionMessage, atId]

theorem allRespondentsApproved_found {db : Db} {orgId : OrgId} {threadId : ThreadId} {t : Thread}
    (found : db.getThread orgId threadId = some t) :
    db.allRespondentsApproved orgId threadId =
      t.respondents.all fun id => (db.approvals threadId t.round).contains id := by
  simp [allRespondentsApproved, found]

theorem mem_approvals {db : Db} {threadId : ThreadId} {round : Nat} {agentId : AgentId} :
    agentId ∈ db.approvals threadId round ↔
      ∃ m ∈ db.messages, m.threadId = threadId ∧ m.type = .approve ∧ m.round = round ∧ m.agentId = agentId := by
  simp only [approvals, List.mem_eraseDups, List.mem_map, List.mem_filter, decide_eq_true_eq]
  constructor
  · intro approved
    obtain ⟨m, ⟨member, atThread, approve, atRound⟩, author⟩ := approved
    exact ⟨m, member, atThread, approve, atRound, author⟩
  · intro approved
    obtain ⟨m, member, atThread, approve, atRound, author⟩ := approved
    exact ⟨m, ⟨member, atThread, approve, atRound⟩, author⟩

/-- A call that changes the rows of `threads` only at one id of one org, and there by `g`. -/
def Rewrites (db after : Db) (orgId : OrgId) (threadId : ThreadId) (g : Thread → Thread) : Prop :=
  ∀ k, after.threads.find k =
    (db.threads.find k).map fun t => if t.id = threadId ∧ t.orgId = orgId then g t else t

namespace Rewrites
variable {db after : Db} {orgId : OrgId} {threadId : ThreadId} {f g : Thread → Thread}

/-- Two assignments that agree on the thread found, if any, rewrite the table alike. -/
theorem congr (agree : ∀ u, db.getThread orgId threadId = some u → f u = g u)
    (rewrites : db.Rewrites after orgId threadId f) : db.Rewrites after orgId threadId g := by
  intro k
  rw [rewrites k]
  cases found : db.threads.find k with
  | none => rfl
  | some t =>
    simp only [Option.map_some, Option.some.injEq]
    by_cases hit : t.id = threadId ∧ t.orgId = orgId
    · have row := find_id found
      rw [← row, hit.1] at found
      rw [if_pos hit, if_pos hit, agree t (getThread_eq_some.mpr ⟨found, hit.2⟩)]
    · rw [if_neg hit, if_neg hit]

theorem congr_missing (missing : db.getThread orgId threadId = none) (rewrites : db.Rewrites after orgId threadId f) :
    db.Rewrites after orgId threadId g := by
  refine rewrites.congr fun u found => ?_
  rw [missing] at found
  cases found

theorem congr_found {u : Thread} (target : db.getThread orgId threadId = some u) (agree : f u = g u)
    (rewrites : db.Rewrites after orgId threadId f) : db.Rewrites after orgId threadId g := by
  refine rewrites.congr fun v found => ?_
  rw [target] at found
  cases found
  exact agree

theorem of_same (same : after.threads = db.threads) : db.Rewrites after orgId threadId id := by
  intro k
  rw [same]
  cases db.threads.find k <;> simp

theorem of_missing (missing : db.getThread orgId threadId = none) (same : after.threads = db.threads) :
    db.Rewrites after orgId threadId g := (of_same same).congr_missing missing

theorem of_refused {u : Thread} (target : db.getThread orgId threadId = some u) (keeps : g u = u)
    (same : after.threads = db.threads) : db.Rewrites after orgId threadId g :=
  (of_same same).congr_found target keeps.symm

theorem of_update {u : Thread} (keeps : ∀ t, (f t).id = t.id) (target : db.getThread orgId threadId = some u)
    (agree : f u = g u) (rows : after.threads = (db.updateThread orgId threadId f keeps).threads) :
    db.Rewrites after orgId threadId g := by
  refine congr_found target agree fun k => ?_
  rw [rows, updateThread_find]

/-- `UPDATE threads SET f WHERE id = ? AND org_id = ? AND p`. -/
theorem of_where {p : Thread → Prop} [DecidablePred p] (keeps : ∀ t, (f t).id = t.id)
    (rows : after.threads =
      db.threads.update (fun t => t.id = threadId ∧ t.orgId = orgId ∧ p t) f keeps) :
    db.Rewrites after orgId threadId fun t => if p t then f t else t := by
  intro k
  rw [rows, Table.find_update]
  congr 1
  funext t
  by_cases hit : t.id = threadId ∧ t.orgId = orgId
  · simp [hit]
  · rw [if_neg hit, if_neg]
    simp only [decide_eq_true_eq]
    exact fun all => hit ⟨all.1, all.2.1⟩

theorem trans {mid : Db} (first : db.Rewrites mid orgId threadId f) (later : mid.Rewrites after orgId threadId g)
    (sameId : ∀ t, (f t).id = t.id) (sameOrg : ∀ t, (f t).orgId = t.orgId) :
    db.Rewrites after orgId threadId (g ∘ f) := by
  intro k
  rw [later k, first k, Option.map_map]
  congr 1
  funext t
  simp only [Function.comp_apply]
  by_cases hit : t.id = threadId ∧ t.orgId = orgId
  · simp [hit, sameId, sameOrg]
  · simp [hit]

/-- Other ids and other orgs keep their rows. -/
theorem frame (rewrites : db.Rewrites after orgId threadId g) {k : ThreadId} (elsewhere : k ≠ threadId) :
    after.threads.find k = db.threads.find k := by
  rw [rewrites k]
  cases found : db.threads.find k with
  | none => rfl
  | some t =>
    rw [Option.map_some, if_neg]
    intro target
    obtain ⟨atId, -⟩ := target
    exact elsewhere ((find_id found).symm.trans atId)

theorem at_target (rewrites : db.Rewrites after orgId threadId g) {u : Thread}
    (target : db.getThread orgId threadId = some u) : after.threads.find threadId = some (g u) := by
  obtain ⟨found, atOrg⟩ := getThread_eq_some.mp target
  rw [rewrites threadId, found, Option.map_some, if_pos ⟨find_id found, atOrg⟩]

theorem getThread (rewrites : db.Rewrites after orgId threadId g) (sameOrg : ∀ t, (g t).orgId = t.orgId) :
    after.getThread orgId threadId = (db.getThread orgId threadId).map g := by
  rw [Db.getThread, Db.getThread, rewrites threadId]
  cases found : db.threads.find threadId with
  | none => rfl
  | some t =>
    by_cases atOrg : t.orgId = orgId
    · simp [find_id found, atOrg, sameOrg, Option.filter]
    · simp [atOrg, Option.filter]

end Rewrites

theorem resolve_rewrites (env : Env) (orgId : OrgId) (threadId : ThreadId) (type : ResolutionType)
    (approvedBy approvedByName : Option String) (db : Db) :
    db.Rewrites ((db.updateThread orgId threadId (.resolve env.isoNow) (Thread.resolve_id _)).emitResolution env
      threadId type approvedBy approvedByName) orgId threadId (.resolve env.isoNow) := by
  intro k
  rw [emitResolution_threads]
  exact updateThread_find ..

@[simp] theorem postToThread_threads (env : Env) (orgId : OrgId) (params : PostParams) (db : Db) :
    (db.postToThread env orgId params).1.threads = db.threads := by
  unfold postToThread
  split
  · rfl
  · split
    · rfl
    · exact insertMessage_threads ..

theorem proposeResolution_rewrites (env : Env) (orgId : OrgId) (threadId : ThreadId) (agentId : AgentId)
    (summary : String) (db : Db) :
    db.Rewrites (db.proposeResolution env orgId threadId agentId summary).1 orgId threadId fun t =>
      if t.initiatorId = agentId ∨ t.claimedBy = some agentId then t.propose summary else t := by
  unfold proposeResolution
  cases target : db.getThread orgId threadId with
  | none => exact .of_missing target rfl
  | some thread =>
    simp only
    split
    · rename_i stranger
      exact .of_refused target (if_neg (by tauto)) rfl
    · rename_i entitled
      exact .of_update (Thread.propose_id _) target (if_pos (by tauto)).symm (postResolutionMessage_threads ..)

/-- The approval is posted, and it is the one that completes the round. -/
def approvalCompletes (env : Env) (orgId : OrgId) (threadId : ThreadId) (agentId : AgentId) (db : Db) : Bool :=
  db.registered orgId agentId &&
    (db.postResolutionMessage env orgId threadId agentId .approve "Approved").1.allRespondentsApproved orgId threadId

/-- What `approveResolution` does to the database where it finds the thread: the approval is posted on a
resolving thread, and resolves it if it completes the round. -/
theorem approveResolution_cases {env : Env} {orgId : OrgId} {threadId : ThreadId} {agentId : AgentId}
    {agentName : Option String} {db : Db} {t : Thread} (target : db.getThread orgId threadId = some t) :
    (¬ (t.status = .resolving ∧ db.registered orgId agentId) ∧
        (db.approveResolution env orgId threadId agentId agentName).1 = db) ∨
      (t.status = .resolving ∧ db.registered orgId agentId) ∧
        (db.approveResolution env orgId threadId agentId agentName).1 =
          let posted : Db :=
            { db with messages := db.messages ++ [resolutionMessage env orgId t agentId .approve "Approved"] }
          if db.approvalCompletes env orgId threadId agentId then
            (posted.updateThread orgId threadId (.resolve env.isoNow) (Thread.resolve_id _)).emitResolution env threadId
              .consensus (some agentId) (some ((orNull agentName).getD agentId))
          else posted := by
  unfold approveResolution
  rw [target]
  simp only
  by_cases resolving : t.status = .resolving
  · rw [if_neg (not_not.mpr resolving), approvalCompletes, postResolutionMessage_found target, insertMessage]
    by_cases author : db.registered orgId agentId
    · obtain ⟨found, atOrg⟩ := getThread_eq_some.mp target
      have member := (Table.find_eq_some.mp found).1
      have wins : 0 < db.threads.changes fun t => t.id = threadId ∧ t.orgId = orgId ∧ t.status = .resolving :=
        Table.changes_pos.mpr ⟨t, member, by simp [find_id found, atOrg, resolving]⟩
      -- the row at the id is the one found, so the condition on its status changes nothing
      have same : (db.threads.update (fun t => t.id = threadId ∧ t.orgId = orgId ∧ t.status = .resolving)
          (.resolve env.isoNow) (Thread.resolve_id _)) =
            db.threads.update (fun t => t.id = threadId ∧ t.orgId = orgId) (.resolve env.isoNow) (Thread.resolve_id _) := by
        refine Table.update_congr fun r listed => ?_
        by_cases here : r.id = threadId
        · have own := Table.find_self listed
          rw [here, found] at own
          cases own
          simp [resolving]
        · simp [here]
      refine .inr ⟨⟨resolving, author⟩, ?_⟩
      simp only [resolutionMessage, author, if_true, Bool.true_and, same, if_pos wins]
      split <;> rfl
    · refine .inl ⟨fun both => author both.2, ?_⟩
      simp [resolutionMessage, author]
  · rw [if_pos resolving]
    exact .inl ⟨fun both => resolving both.1, rfl⟩

theorem approveResolution_rewrites (env : Env) (orgId : OrgId) (threadId : ThreadId) (agentId : AgentId)
    (agentName : Option String) (db : Db) :
    db.Rewrites (db.approveResolution env orgId threadId agentId agentName).1 orgId threadId fun t =>
      if t.status = .resolving ∧ db.approvalCompletes env orgId threadId agentId then t.resolve env.isoNow
      else t := by
  cases target : db.getThread orgId threadId with
  | none =>
    unfold approveResolution
    rw [target]
    exact .of_missing target rfl
  | some thread =>
    rcases approveResolution_cases target with ⟨refused, after⟩ | ⟨granted, after⟩ <;> rw [after]
    · exact .of_refused target (if_neg fun both => refused ⟨both.1, (Bool.and_eq_true_iff.mp both.2).1⟩) rfl
    · simp only
      split
      · rename_i completes
        exact .of_update (Thread.resolve_id _) target (if_pos ⟨granted.1, completes⟩).symm (emitResolution_threads ..)
      · rename_i waiting
        exact .of_refused target (if_neg fun both => waiting both.2) rfl

/-- What `contestResolution` does to the database where it finds the thread: the objection is posted on a
resolving thread, and opens it for another round unless that was the last. -/
theorem contestResolution_cases {env : Env} {orgId : OrgId} {threadId : ThreadId} {agentId : AgentId}
    {reason : String} {db : Db} {t : Thread} (target : db.getThread orgId threadId = some t) :
    (¬ (t.status = .resolving ∧ db.registered orgId agentId) ∧
        (db.contestResolution env orgId threadId agentId reason).1 = db) ∨
      (t.status = .resolving ∧ db.registered orgId agentId) ∧
        (db.contestResolution env orgId threadId agentId reason).1 =
          let posted : Db :=
            { db with messages := db.messages ++ [resolutionMessage env orgId t agentId .contest reason] }
          if t.maxRounds < t.round + 1 then
            (posted.updateThread orgId threadId (.resolve env.isoNow) (Thread.resolve_id _)).emitResolution env threadId
              .maxRounds none none
          else posted.updateThread orgId threadId (.reopen (t.round + 1)) (Thread.reopen_id _) := by
  unfold contestResolution
  rw [target]
  simp only
  by_cases resolving : t.status = .resolving
  · rw [if_neg (not_not.mpr resolving), postResolutionMessage_found target, insertMessage]
    by_cases author : db.registered orgId agentId
    · refine .inr ⟨⟨resolving, author⟩, ?_⟩
      simp only [resolutionMessage, author, if_true]
      split <;> rfl
    · refine .inl ⟨fun both => author both.2, ?_⟩
      simp [resolutionMessage, author]
  · rw [if_pos resolving]
    exact .inl ⟨fun both => resolving both.1, rfl⟩

theorem contestResolution_rewrites (env : Env) (orgId : OrgId) (threadId : ThreadId) (agentId : AgentId)
    (reason : String) (db : Db) :
    db.Rewrites (db.contestResolution env orgId threadId agentId reason).1 orgId threadId fun t =>
      if t.status = .resolving ∧ db.registered orgId agentId then
        (if t.maxRounds < t.round + 1 then t.resolve env.isoNow else t.reopen (t.round + 1)) else t := by
  cases target : db.getThread orgId threadId with
  | none =>
    unfold contestResolution
    rw [target]
    exact .of_missing target rfl
  | some thread =>
    rcases contestResolution_cases target with ⟨refused, after⟩ | ⟨granted, after⟩ <;> rw [after]
    · exact .of_refused target (if_neg refused) rfl
    · simp only
      split
      · rename_i last
        exact .of_update (Thread.resolve_id _) target (by simp [granted, last]) (emitResolution_threads ..)
      · rename_i room
        exact .of_update (Thread.reopen_id _) target (by simp [granted, room]) rfl

theorem cancelThread_rewrites (env : Env) (orgId : OrgId) (threadId : ThreadId) (agentId : AgentId)
    (reason : Option String) (db : Db) :
    db.Rewrites (db.cancelThread env orgId threadId agentId reason).1 orgId threadId fun t =>
      if t.initiatorId = agentId then t.cancel env.isoNow else t := by
  unfold cancelThread
  cases target : db.getThread orgId threadId with
  | none => exact .of_missing target rfl
  | some thread =>
    simp only
    split
    · rename_i stranger
      exact .of_refused target (if_neg stranger) rfl
    · rename_i initiator
      rw [not_not] at initiator
      split
      · exact .of_update (Thread.cancel_id _) target (if_pos initiator).symm rfl
      · exact .of_update (Thread.cancel_id _) target (if_pos initiator).symm (postResolutionMessage_threads ..)

theorem closeThread_rewrites (env : Env) (orgId : OrgId) (threadId : ThreadId) (agentId : AgentId)
    (summary : String) (db : Db) :
    db.Rewrites (db.closeThread env orgId threadId agentId summary).1 orgId threadId fun t =>
      if t.initiatorId = agentId ∧ t.status.active then t.close summary env.isoNow else t := by
  unfold closeThread
  cases target : db.getThread orgId threadId with
  | none => exact .of_missing target rfl
  | some thread =>
    simp only
    split
    · rename_i stranger
      exact .of_refused target (if_neg fun both => stranger both.1) rfl
    · rename_i initiator
      rw [not_not] at initiator
      split
      · rename_i settled
        exact .of_refused target (if_neg fun both => settled both.2) rfl
      · rename_i active
        rw [not_not] at active
        exact .of_update (Thread.close_id _ _) target (if_pos ⟨initiator, active⟩).symm (emitResolution_threads ..)

/-- What the departure loop makes of an active thread, as a function of its
row and of the messages alone. -/
def departed (env : Env) (agentId : AgentId) (db : Db) (t : Thread) : Thread :=
  let kept := t.respondents.filter (· ≠ agentId)
  if (t.status = .resolving ∧ kept.all fun id => (db.approvals t.id t.round).contains id) ∨
      (t.status = .opened ∧ kept.isEmpty) then
    (t.expect kept).resolve env.isoNow
  else t.expect kept

theorem updateThread_getThread {db : Db} {t : Thread} {f : Thread → Thread} {keeps : ∀ t, (f t).id = t.id}
    (found : db.threads.find t.id = some t) (sameOrg : (f t).orgId = t.orgId) :
    (db.updateThread t.orgId t.id f keeps).getThread t.orgId t.id = some (f t) := by
  simp [getThread_eq_some, found, sameOrg]

/-- The loop body as one decision on the row it was given. -/
theorem departThread_eq (env : Env) (agentId : AgentId) {db : Db} {thread : Thread}
    (found : db.threads.find thread.id = some thread) :
    (departThread env agentId db thread).threads =
      if (thread.status = .resolving ∧ (thread.respondents.filter (· ≠ agentId)).all fun id =>
            (db.approvals thread.id thread.round).contains id) ∨
          (thread.status = .opened ∧ (thread.respondents.filter (· ≠ agentId)).isEmpty) then
        ((db.updateThread thread.orgId thread.id (.expect (thread.respondents.filter (· ≠ agentId)))
          (Thread.expect_id _)).updateThread thread.orgId thread.id (.resolve env.isoNow) (Thread.resolve_id _)).threads
      else (db.updateThread thread.orgId thread.id (.expect (thread.respondents.filter (· ≠ agentId)))
          (Thread.expect_id _)).threads := by
  have filtered : (db.updateThread thread.orgId thread.id (.expect (thread.respondents.filter (· ≠ agentId)))
      (Thread.expect_id _)).getThread thread.orgId thread.id = some (thread.expect _) :=
    updateThread_getThread found rfl
  have row := (getThread_eq_some.mp filtered).1
  have consent := allRespondentsApproved_found filtered
  have approvals : ∀ round, (db.updateThread thread.orgId thread.id
      (.expect (thread.respondents.filter (· ≠ agentId))) (Thread.expect_id _)).approvals thread.id round =
        db.approvals thread.id round := fun _ => rfl
  simp only [departThread, getThreadCrossOrg, row, consent, approvals]
  cases status : thread.status <;> simp [Thread.expect, Thread.respondents, safeJsonParse, status] <;> split <;>
    simp_all

/-- One round of the loop rewrites the row it was given and no other. -/
theorem departThread_rewrites (env : Env) (agentId : AgentId) {db : Db} {thread : Thread}
    (found : db.threads.find thread.id = some thread) :
    db.Rewrites (departThread env agentId db thread) thread.orgId thread.id (departed env agentId db) := by
  have target : db.getThread thread.orgId thread.id = some thread := getThread_eq_some.mpr ⟨found, rfl⟩
  have rows := departThread_eq env agentId found
  split at rows
  · rename_i settles
    have first : db.Rewrites (db.updateThread thread.orgId thread.id
        (.expect (thread.respondents.filter (· ≠ agentId))) (Thread.expect_id _)) thread.orgId thread.id (.expect _) :=
      fun k => updateThread_find ..
    have later : (db.updateThread thread.orgId thread.id (.expect (thread.respondents.filter (· ≠ agentId)))
        (Thread.expect_id _)).Rewrites (departThread env agentId db thread) thread.orgId thread.id
          (.resolve env.isoNow) := by
      intro k
      rw [rows]
      exact updateThread_find ..
    exact (first.trans later (fun _ => rfl) fun _ => rfl).congr_found target (if_pos settles).symm
  · rename_i stays
    exact .of_update (Thread.expect_id _) target (if_neg stays).symm rows

@[simp] theorem departThread_messages (env : Env) (agentId : AgentId) (db : Db) (thread : Thread) :
    (departThread env agentId db thread).messages = db.messages := by
  unfold departThread
  simp only
  split
  · rfl
  · split <;> split <;> simp

theorem foldl_departThread_messages (env : Env) (agentId : AgentId) (rows : List Thread) (db : Db) :
    (rows.foldl (departThread env agentId) db).messages = db.messages := by
  induction rows generalizing db with
  | nil => rfl
  | cons row rest ih => rw [List.foldl_cons, ih, departThread_messages]

theorem departed_congr {env : Env} {agentId : AgentId} {db other : Db} (same : other.messages = db.messages) :
    departed env agentId other = departed env agentId db := by
  have sameApprovals : ∀ id round, other.approvals id round = db.approvals id round := by
    intro id round
    rw [approvals, approvals, same]
  funext t
  simp only [departed, sameApprovals]

theorem departed_cases (env : Env) (agentId : AgentId) (db : Db) (t : Thread) :
    departed env agentId db t = (t.expect (t.respondents.filter (· ≠ agentId))).resolve env.isoNow ∨
      departed env agentId db t = t.expect (t.respondents.filter (· ≠ agentId)) := by
  unfold departed
  exact ite_eq_or_eq ..

@[simp] theorem departed_id (env : Env) (agentId : AgentId) (db : Db) (t : Thread) :
    (departed env agentId db t).id = t.id := by
  rcases departed_cases env agentId db t with settled | stays
  · rw [settled]; rfl
  · rw [stays]; rfl

/-- The loop over rows read beforehand: each is still as it was read when its
turn comes, because the rounds before it rewrote other ids. -/
theorem foldl_departThread_find (env : Env) (agentId : AgentId) (rows : List Thread) (db : Db)
    (distinct : (rows.map Thread.id).Nodup) (current : ∀ r ∈ rows, db.threads.find r.id = some r) (k : ThreadId) :
    (rows.foldl (departThread env agentId) db).threads.find k =
      (db.threads.find k).map fun t => if t ∈ rows then departed env agentId db t else t := by
  induction rows generalizing db with
  | nil => simp
  | cons row rest ih =>
    rw [List.map_cons, List.nodup_cons] at distinct
    have found := current row (by simp)
    have rewrites := departThread_rewrites env agentId found
    have later : ∀ r ∈ rest, (departThread env agentId db row).threads.find r.id = some r := by
      intro r member
      have apart : r.id ≠ row.id := fun same => distinct.1 (same ▸ List.mem_map_of_mem member)
      rw [rewrites.frame apart]
      exact current r (List.mem_cons_of_mem _ member)
    rw [List.foldl_cons, ih _ distinct.2 later, departed_congr (departThread_messages ..)]
    by_cases here : k = row.id
    · subst here
      rw [rewrites.at_target (getThread_eq_some.mpr ⟨found, rfl⟩), found]
      have unread : departed env agentId db row ∉ rest := by
        intro member
        have twice := List.mem_map_of_mem (f := Thread.id) member
        rw [departed_id] at twice
        exact distinct.1 twice
      simp [unread]
    · rw [rewrites.frame here]
      cases atKey : db.threads.find k with
      | none => rfl
      | some t =>
        have other : t ≠ row := fun same => here (by rw [← same]; exact (find_id atKey).symm)
        simp [other]

@[simp] theorem unclaimAll_messages (orgId : OrgId) (agentId : AgentId) (db : Db) :
    (db.unclaimAll orgId agentId).messages = db.messages := rfl

theorem handleAgentDeparture_find (env : Env) (orgId : OrgId) (agentId : AgentId) (db : Db) (k : ThreadId) :
    (db.handleAgentDeparture env orgId agentId).threads.find k =
      (db.threads.find k).map fun t =>
        if t.orgId = orgId ∧ t.status.active then
          departed env agentId db (if t.claimedBy = some agentId ∧ t.status = .opened then t.unclaim else t)
        else t := by
  have rows : (db.unclaimAll orgId agentId).threads.find k = (db.threads.find k).map fun t =>
      if t.claimedBy = some agentId ∧ t.status = .opened ∧ t.orgId = orgId then t.unclaim else t := by
    simp [unclaimAll]
  have distinct : (((db.unclaimAll orgId agentId).threads.rows.filter fun t =>
      t.status.active ∧ t.orgId = orgId).map Thread.id).Nodup :=
    (db.unclaimAll orgId agentId).threads.keyed.sublist (List.filter_sublist.map _)
  rw [handleAgentDeparture, foldl_departThread_find env agentId _ _ distinct fun r member =>
    Table.find_self (List.mem_filter.mp member).1, rows, Option.map_map,
    departed_congr (unclaimAll_messages orgId agentId db)]
  cases found : db.threads.find k with
  | none => rfl
  | some t =>
    rw [found, Option.map_some] at rows
    have member := (Table.find_eq_some.mp rows).1
    simp only [Option.map_some, Function.comp_apply, Option.some.injEq, List.mem_filter, member, true_and]
    by_cases sameOrg : t.orgId = orgId
    · by_cases claimed : t.claimedBy = some agentId ∧ t.status = .opened
      · simp [sameOrg, claimed, Thread.unclaim, ThreadStatus.active]
      · simp [sameOrg, claimed]
    · simp [sameOrg]

@[simp] theorem handleAgentDeparture_messages (env : Env) (orgId : OrgId) (agentId : AgentId) (db : Db) :
    (db.handleAgentDeparture env orgId agentId).messages = db.messages := foldl_departThread_messages ..

theorem checkTimeouts_find (env : Env) (db : Db) (k : ThreadId) :
    (db.checkTimeouts env).threads.find k =
      (db.threads.find k).map fun t =>
        if timedOut env t then t.close "Résolu par timeout — pas de réponse dans le délai" env.currentTimestamp
        else t := by
  have emitted : ∀ (rows : List Thread) (db : Db),
      (rows.foldl (fun db t => db.emitResolution env t.id .timeout none none) db).threads = db.threads := by
    intro rows
    induction rows with
    | nil => exact fun _ => rfl
    | cons row rest ih => exact fun db => (ih _).trans (emitResolution_threads ..)
  unfold checkTimeouts
  simp only
  split
  · rename_i nobody
    cases found : db.threads.find k with
    | none => rfl
    | some t =>
      have member := (Table.find_eq_some.mp found).1
      have waiting : ¬ timedOut env t := by
        intro late
        have expired := List.mem_filter.mpr ⟨member, late⟩
        rw [List.isEmpty_iff] at nobody
        rw [nobody] at expired
        simp at expired
      simp [waiting]
  · rw [emitted]
    exact Table.find_update _ _ _ (Thread.close_id _ _) k

@[simp] theorem checkTimeouts_messages (env : Env) (db : Db) : (db.checkTimeouts env).messages = db.messages := by
  have emitted : ∀ (rows : List Thread) (db : Db),
      (rows.foldl (fun db t => db.emitResolution env t.id .timeout none none) db).messages = db.messages := by
    intro rows
    induction rows with
    | nil => exact fun _ => rfl
    | cons row rest ih => exact fun db => (ih _).trans (emitResolution_messages ..)
  unfold checkTimeouts
  simp only
  split
  · rfl
  · rw [emitted]

theorem handleClaimTask_rewrites (env : Env) (orgId : OrgId) (threadId : ThreadId) (agentId : AgentId) (db : Db) :
    db.Rewrites (db.handleClaimTask env orgId threadId agentId).1 orgId threadId fun t =>
      if t.claimedBy = none ∧ t.status = .opened ∧ (t.assignedTo = none ∨ t.assignedTo = some agentId) ∧
        ¬ db.heldElsewhere agentId t then t.claim agentId env.isoNow else t := by
  refine .of_where (Thread.claim_id _ _) ?_
  unfold handleClaimTask
  simp only
  split <;> rfl

theorem changes_unclaimable (orgId : OrgId) (threadId : ThreadId) (agentId : AgentId) (db : Db) :
    db.threads.changes (unclaimable orgId threadId agentId) = 1 ↔
      ∃ t, db.getThread orgId threadId = some t ∧ t.claimedBy = some agentId ∧ t.status = .opened := by
  have fixes : ∀ t : Thread, unclaimable orgId threadId agentId t → t.id = threadId := by
    intro t held
    simp only [unclaimable, decide_eq_true_eq] at held
    exact held.1
  rw [Table.changes_eq_one fixes]
  constructor
  · intro claimed
    obtain ⟨t, found, held⟩ := claimed
    simp only [unclaimable, decide_eq_true_eq] at held
    exact ⟨t, getThread_eq_some.mpr ⟨found, held.2.1⟩, held.2.2⟩
  · intro claimed
    obtain ⟨t, target, held⟩ := claimed
    obtain ⟨found, atOrg⟩ := getThread_eq_some.mp target
    refine ⟨t, found, ?_⟩
    simp only [unclaimable, decide_eq_true_eq]
    exact ⟨find_id found, atOrg, held⟩

theorem release_rewrites (orgId : OrgId) (threadId : ThreadId) (agentId : AgentId) (db : Db) :
    db.Rewrites { db with
      threads := db.threads.update (unclaimable orgId threadId agentId) .release Thread.release_id } orgId threadId
      fun t => if t.claimedBy = some agentId ∧ t.status = .opened then t.release else t :=
  .of_where Thread.release_id rfl

theorem poison_rewrites (orgId : OrgId) (threadId : ThreadId) (db : Db) :
    db.Rewrites { db with
      threads := db.threads.update (fun t => t.id = threadId ∧ t.orgId = orgId ∧ t.status = .opened) .poison
        Thread.poison_id } orgId threadId fun t => if t.status = .opened then t.poison else t :=
  .of_where Thread.poison_id rfl

theorem handleUnclaimTask_rewrites (orgId : OrgId) (threadId : ThreadId) (agentId : AgentId) (db : Db) :
    db.Rewrites (db.handleUnclaimTask orgId threadId agentId).1 orgId threadId fun t =>
      if t.claimedBy = some agentId ∧ t.status = .opened then
        (if poisonThreshold ≤ t.unclaimCount.getD 0 + 1 then t.release.poison else t.release) else t := by
  unfold handleUnclaimTask
  simp only [decide_eq_true_eq, changes_unclaimable]
  have first := release_rewrites orgId threadId agentId db
  generalize hreleased : ({ db with
    threads := db.threads.update (unclaimable orgId threadId agentId) .release Thread.release_id } : Db) = released
    at first ⊢
  cases target : db.getThread orgId threadId with
  | none =>
    split
    · exact first.congr_missing target
    · rw [if_neg (by simp)]
      exact first.congr_missing target
  | some t =>
    by_cases held : t.claimedBy = some agentId ∧ t.status = .opened
    · have row := first.at_target target
      rw [if_pos held] at row
      have current : released.getThread orgId threadId = some t.release :=
        getThread_eq_some.mpr ⟨row, (getThread_eq_some.mp target).2⟩
      have count : t.release.unclaimCount.getD 0 = t.unclaimCount.getD 0 + 1 := rfl
      simp only [current, count, Option.some.injEq, exists_eq_left', held, and_self, true_and]
      split
      · rename_i poisoned
        subst hreleased
        refine (first.trans (poison_rewrites orgId threadId _) ?_ ?_).congr_found target ?_
        · intro u
          split <;> rfl
        · intro u
          split <;> rfl
        · simp [held, poisoned, Thread.release]
      · rename_i room
        exact first.congr_found target (by simp [room])
    · have refused : ¬ ∃ u, some t = some u ∧ u.claimedBy = some agentId ∧ u.status = .opened := by
        intro claimed
        obtain ⟨u, same, holds⟩ := claimed
        cases same
        exact held holds
      split
      · exact first.congr_found target (by rw [if_neg held, if_neg held])
      · rw [if_neg fun both => refused both.1]
        exact first.congr_found target (by rw [if_neg held, if_neg held])

/-- The answered request is still the one that was found. -/
theorem respondIntrospection_record {env : Env} {orgId : OrgId} {id response : String} {db : Db}
    {record : IntrospectionRecord} (found : (db.respondIntrospection env orgId id response).2 = some record) :
    ∃ asked, db.introspections.find? (fun r => r.orgId = orgId ∧ r.id = id) = some asked ∧
      record.threadId = asked.threadId ∧ record.agentId = asked.agentId := by
  simp only [respondIntrospection, List.find?_map, Option.map_eq_some_iff] at found
  obtain ⟨asked, listed, rfl⟩ := found
  refine ⟨asked, ?_, ?_⟩
  · rw [← listed]
    congr 1
    funext r
    simp only [Function.comp_apply]
    split <;> rfl
  · split <;> exact ⟨rfl, rfl⟩

/-- The agent who was asked, and nobody else, joins the respondents. -/
theorem handleIntrospectionResponse_find (env : Env) (orgId : OrgId) (introspectionId : String) (concerned : Bool)
    (reason : String) (db : Db) :
    (db.handleIntrospectionResponse env orgId introspectionId concerned reason).1.threads = db.threads ∨
      ∃ asked, db.introspections.find? (fun r => r.orgId = orgId ∧ r.id = introspectionId) = some asked ∧ concerned ∧
        db.Rewrites (db.handleIntrospectionResponse env orgId introspectionId concerned reason).1 orgId asked.threadId
          fun t => if t.status.active ∧ asked.agentId ∉ t.respondents then t.expect (t.respondents ++ [asked.agentId])
            else t := by
  unfold handleIntrospectionResponse
  simp only
  split
  · exact .inl rfl
  · rename_i record answered
    obtain ⟨asked, listed, sameThread, sameAgent⟩ := respondIntrospection_record answered
    split
    · exact .inl rfl
    · rename_i thread target
      split
      · rename_i adds
        have same : db.getThread orgId record.threadId = some thread := target
        have atId := find_id (getThread_eq_some.mp same).1
        rw [sameThread] at same atId
        rw [sameAgent] at adds ⊢
        refine .inr ⟨asked, listed, adds.1, .of_update (Thread.expect_id _) same (if_pos adds.2).symm ?_⟩
        rw [atId]
        rfl
      · exact .inl rfl

/-- The second auto-resolution test of an announce: nobody concerned, nobody else online. -/
def flowAlone (env : Env) (threadId : ThreadId) (params : CommonFlowParams) (db : Db) : Bool :=
  (db.overrideRespondents env threadId params).2.concerned.isEmpty &&
    ((db.overrideRespondents env threadId params).1.otherOnline env params.orgId params.agentId).length = 0

/-- The concerned agents of the flow, as they are written to the thread. -/
def flowConcerned (env : Env) (params : CommonFlowParams) (db : Db) : List AgentId :=
  ((db.heartbeat env params.orgId params.agentId).categorize env params.scoreParams).concerned.map (·.agentId)

@[simp] theorem finishFlow_threads (env : Env) (threadId : ThreadId) (params : CommonFlowParams)
    (categorized : CategorizedImpact) (db : Db) :
    (db.finishFlow env threadId params categorized).1.threads = db.threads := by
  have rows := createIntrospections_threads env params.orgId threadId categorized.grayZone 0 db
  unfold finishFlow
  simp only
  split
  · rename_i failed _ asked
    rw [← rows, asked]
  · rename_i asked result
    have same : asked.threads = db.threads := by rw [← rows, result]
    split <;> exact same

theorem overrideRespondents_rewrites (env : Env) (threadId : ThreadId) (params : CommonFlowParams) (db : Db) :
    db.Rewrites (db.overrideRespondents env threadId params).1 params.orgId threadId
      (.expect (db.flowConcerned env params)) := fun _ => updateThread_find ..

theorem overrideRespondents_getThread (env : Env) (threadId : ThreadId) (params : CommonFlowParams) (db : Db) :
    (db.overrideRespondents env threadId params).1.getThread params.orgId threadId =
      (db.getThread params.orgId threadId).map (.expect (db.flowConcerned env params)) :=
  (overrideRespondents_rewrites env threadId params db).getThread fun _ => rfl

theorem runCommonAnnounceFlow_rewrites (env : Env) (threadId : ThreadId) (params : CommonFlowParams) (db : Db) :
    db.Rewrites (db.runCommonAnnounceFlow env threadId params).1 params.orgId threadId fun t =>
      if db.flowAlone env threadId params ∧ t.status = .opened ∧ ¬ params.keepOpen then
        (t.expect (db.flowConcerned env params)).resolve env.isoNow
      else t.expect (db.flowConcerned env params) := by
  have first := overrideRespondents_rewrites env threadId params db
  have finished : ∀ (mid : Db) (categorized : CategorizedImpact) (g : Thread → Thread),
      db.Rewrites mid params.orgId threadId g →
      db.Rewrites (mid.finishFlow env threadId params categorized).1 params.orgId threadId g := by
    intro mid categorized g rewrites k
    rw [finishFlow_threads]
    exact rewrites k
  have alone : db.flowAlone env threadId params =
      ((db.overrideRespondents env threadId params).2.concerned.isEmpty &&
        ((db.overrideRespondents env threadId params).1.otherOnline env params.orgId params.agentId).length = 0) := rfl
  rw [runCommonAnnounceFlow]
  simp only [← alone]
  cases target : db.getThread params.orgId threadId with
  | none =>
    have missing := overrideRespondents_getThread env threadId params db
    rw [target, Option.map_none] at missing
    rw [missing]
    simp only
    split
    · exact first.congr_missing target
    · exact finished _ _ _ (first.congr_missing target)
  | some t =>
    have found := overrideRespondents_getThread env threadId params db
    rw [target, Option.map_some] at found
    rw [found]
    simp only
    split
    · rename_i lone
      have later := resolve_rewrites env params.orgId threadId .autoResolved none none
        (db.overrideRespondents env threadId params).1
      have both := first.trans later (fun _ => rfl) fun _ => rfl
      exact finished _ _ _ (both.congr_found target (if_pos lone).symm)
    · rename_i crowded
      exact finished _ _ _ (first.congr_found target (if_neg crowded).symm)

theorem announceWork_find (env : Env) (orgId : OrgId) (params : AnnounceParams) (db : Db) (k : ThreadId) :
    (db.announceWork env orgId params).1.threads.find k =
      if db.registered orgId params.agentId ∧ k = env.uuid 0 ∧ db.threads.find (env.uuid 0) = none then
        some (announcedThread env orgId params (db.moduleRespondents orgId params.agentId params.targetModules))
      else db.threads.find k := by
  unfold announceWork
  simp only
  split
  · rename_i author
    split
    · rename_i threads inserted
      have fresh : db.threads.find (env.uuid 0) = none := Table.insert_fresh inserted
      have atId : ∀ ids, (announcedThread env orgId params ids).id = env.uuid 0 := fun _ => rfl
      rw [Table.find_insert inserted, atId]
      simp [author, fresh, eq_comm]
    · rename_i refused
      have taken : db.threads.find (env.uuid 0) ≠ none := by
        intro fresh
        have inserted : (db.threads.insert (announcedThread env orgId params
            (db.moduleRespondents orgId params.agentId params.targetModules))).isSome := Table.insert_isSome.mpr fresh
        rw [refused] at inserted
        simp at inserted
      simp [taken]
  · rename_i stranger
    simp [stranger]

end Db

end Coordinator
