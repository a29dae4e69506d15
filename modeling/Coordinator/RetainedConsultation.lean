import Mathlib.Logic.Function.Basic
import Coordinator.AnnounceOutcome
import Coordinator.ResolutionEvents
import Coordinator.TenantWorld

namespace Coordinator

/-- The payload retained on `coordinator/<org>/consultations/new`. -/
structure ConsultationNotice where
  threadId : ThreadId
  agentId : AgentId
  subject : String
  targetModules : List ModuleId
  deriving DecidableEq, Repr

/-- The tables between two calls, the memory of the bridge, and what the broker
retains for each org. -/
structure NoticeBoard where
  db : Db
  /-- The callback has been handed every resolution. -/
  drained : db.resolutions = []
  connected : Bool
  lastRetainedConsultationThreadId : OrgId → Option ThreadId
  retained : OrgId → Option ConsultationNotice

/-- A call of the `announce_work` tool, or any other call on the tables. -/
inductive NoticeCall
  | announceTool (env flowEnv : Env) (orgId : OrgId) (body : AnnounceBody)
  | service (env : Env) (op : Op)

namespace NoticeBoard

theorem emptied_resolutions (db : Db) : ({ db with resolutions := [] } : Db).resolutions = [] := rfl

/-- A coordinator that has just connected to an empty broker, with whatever its tables hold. -/
def opening (db : Db) : NoticeBoard :=
  ⟨{ db with resolutions := [] }, emptied_resolutions db, true, fun _ => none, fun _ => none⟩

def publishConsultation (orgId : OrgId) (threadId : ThreadId) (agentId : AgentId) (subject : String)
    (targetModules : List ModuleId) (w : NoticeBoard) : NoticeBoard :=
  if ¬ w.connected then w
  else { w with
    lastRetainedConsultationThreadId := Function.update w.lastRetainedConsultationThreadId orgId (some threadId)
    retained := Function.update w.retained orgId (some ⟨threadId, agentId, subject, targetModules⟩) }

def clearRetainedConsultation (orgId : OrgId) (threadId : ThreadId) (w : NoticeBoard) : NoticeBoard :=
  if ¬ w.connected then w
  else if w.lastRetainedConsultationThreadId orgId ≠ some threadId then w
  else { w with
    retained := Function.update w.retained orgId none
    lastRetainedConsultationThreadId := Function.update w.lastRetainedConsultationThreadId orgId none }

/-- `consultation.onResolve`, as far as it touches the retained topic. -/
def onResolve (w : NoticeBoard) (event : ResolutionEvent) : NoticeBoard :=
  w.clearRetainedConsultation event.orgId event.threadId

/-- The callback runs for each resolution of a call. -/
def deliver (after : Db) (w : NoticeBoard) : NoticeBoard :=
  after.resolutions.foldl onResolve { w with
    db := { after with resolutions := [] }, drained := emptied_resolutions after }

def step (w : NoticeBoard) : NoticeCall → NoticeBoard
  | .announceTool env flowEnv orgId body =>
    let conflicts := w.db.detect env
      { orgId, agentId := body.agentId, targetModules := body.targetModules, targetFiles := body.targetFiles
        runId := body.runId }
    match w.db.announceWork env orgId body.announceParams with
    | (failed, .error _) => w.deliver failed
    | (announced, .ok thread) =>
      match (announced.setConflicts thread.id conflicts).runCommonAnnounceFlow flowEnv thread.id (body.flowParams orgId) with
      | (failed, .error _) => w.deliver failed
      | (after, .ok _) =>
        (w.deliver after).publishConsultation orgId thread.id body.agentId body.subject body.targetModules
  | .service env op => w.deliver (w.db.step (env, op))

/-- What is retained for an org names a thread of it that is neither resolved nor cancelled. -/
def Unfinished (w : NoticeBoard) : Prop :=
  ∀ orgId notice, w.retained orgId = some notice → ∃ t, w.db.getThread orgId notice.threadId = some t ∧
    t.status ≠ .resolved ∧ t.status ≠ .cancelled

/-- The call does not finish a thread that is, or comes to be, retained: an announce
that creates its thread leaves it open, and the initiator does not cancel the thread retained. -/
def Spares (w : NoticeBoard) : NoticeCall → Prop
  | .announceTool env flowEnv orgId body =>
    w.db.registered orgId body.agentId → w.db.threads.find (env.uuid 0) = none →
      ¬ w.db.resolvesAtInsert orgId body ∧ (body.keepOpen ∨ w.db.otherOnline flowEnv orgId body.agentId ≠ [])
  | .service _ (.cancelThread orgId threadId agentId _) =>
    ∀ t, w.db.getThread orgId threadId = some t → t.initiatorId = agentId →
      ∀ notice, w.retained orgId = some notice → notice.threadId ≠ threadId
  | .service _ _ => True

/-- The bridge is connected and remembers what the broker retains. -/
structure Synced (w : NoticeBoard) : Prop where
  connected : w.connected = true
  last : ∀ orgId, w.lastRetainedConsultationThreadId orgId = (w.retained orgId).map (·.threadId)

variable {w : NoticeBoard}

theorem Synced.clear (synced : w.Synced) (orgId : OrgId) (threadId : ThreadId) :
    let cleared := w.clearRetainedConsultation orgId threadId
    cleared.Synced ∧ cleared.db = w.db ∧ ∀ o notice, cleared.retained o = some notice ↔
      w.retained o = some notice ∧ (o, notice.threadId) ≠ (orgId, threadId) := by
  intro cleared
  unfold cleared clearRetainedConsultation
  rw [if_neg (by simp [synced.connected])]
  split
  · rename_i other
    refine ⟨synced, rfl, ?_⟩
    intro o notice
    constructor
    · intro held
      refine ⟨held, ?_⟩
      intro same
      obtain ⟨rfl, rfl⟩ := Prod.mk.inj same
      exact other (by rw [synced.last, held]; rfl)
    · intro held
      exact held.1
  · rename_i here
    rw [not_not] at here
    refine ⟨⟨synced.connected, ?_⟩, rfl, ?_⟩
    · intro o
      by_cases same : o = orgId
      · simp [same]
      · simp [same, synced.last]
    · intro o notice
      by_cases same : o = orgId
      · subst same
        rw [synced.last, Option.map_eq_some_iff] at here
        obtain ⟨held, listed, atThread⟩ := here
        simp only [Function.update_self, reduceCtorEq, false_iff, not_and, ne_eq, not_not]
        intro retained
        rw [listed] at retained
        obtain rfl := Option.some.inj retained
        rw [atThread]
      · simp [same]

theorem Synced.onResolve_all (synced : w.Synced) (events : List ResolutionEvent) :
    let cleared := events.foldl onResolve w
    cleared.Synced ∧ cleared.db = w.db ∧ ∀ o notice, cleared.retained o = some notice ↔
      w.retained o = some notice ∧ (o, notice.threadId) ∉ events.map (·.topic) := by
  induction events generalizing w with
  | nil => exact ⟨synced, rfl, fun o notice => by simp⟩
  | cons event rest ih =>
    obtain ⟨first, same, kept⟩ := synced.clear event.orgId event.threadId
    obtain ⟨later, same', kept'⟩ := ih first
    refine ⟨later, same'.trans same, ?_⟩
    intro o notice
    rw [List.foldl_cons, List.map_cons, List.mem_cons, not_or, ← and_assoc]
    exact (kept' o notice).trans (and_congr_left' (kept o notice))

/-- After a call the retained threads are those that no event of it is about. -/
theorem Synced.deliver (synced : w.Synced) (after : Db) :
    (w.deliver after).Synced ∧ (w.deliver after).db = { after with resolutions := [] } ∧
      ∀ o notice, (w.deliver after).retained o = some notice ↔
        w.retained o = some notice ∧ after.delivered o notice.threadId = 0 := by
  have start : ({ w with
    db := { after with resolutions := [] }, drained := emptied_resolutions after } : NoticeBoard).Synced :=
    ⟨synced.connected, synced.last⟩
  obtain ⟨done, same, kept⟩ := start.onResolve_all after.resolutions
  refine ⟨done, same, ?_⟩
  intro o notice
  rw [Db.delivered, List.count_eq_zero]
  exact kept o notice

/-- Only its initiator brings a thread to the status `cancelled`. -/
theorem ThreadChange_cancelled {db : Db} {env : Env} {op : Op} {t t' : Thread} (change : db.ThreadChange env op t t')
    (going : t.status ≠ .cancelled) (cancelled : t'.status = .cancelled) :
    ∃ reason, op = .cancelThread t.orgId t.id t.initiatorId reason := by
  cases change with
  | cancel _ reason => exact ⟨reason, rfl⟩
  | keep | override | claim | unclaim | concern => exact absurd cancelled going
  | depart _ agentId =>
    rcases Db.departed_cases env agentId db
      (if t.claimedBy = some agentId ∧ t.status = .opened then t.unclaim else t) with settled | stays
    · rw [settled] at cancelled
      cases cancelled
    · rw [stays, Thread.expect_status] at cancelled
      split at cancelled <;> exact absurd cancelled going
  | _ => cases cancelled

theorem service_unfinished (synced : w.Synced) (unfinished : w.Unfinished) {env : Env} {op : Op}
    (spares : w.Spares (.service env op)) : (w.step (.service env op)).Unfinished := by
  intro orgId notice retained
  obtain ⟨-, same, kept⟩ := synced.deliver (w.db.step (env, op))
  obtain ⟨held, unsent⟩ := (kept orgId notice).mp retained
  obtain ⟨t, found, unresolved, uncancelled⟩ := unfinished orgId notice held
  obtain ⟨row, atOrg⟩ := Db.getThread_eq_some.mp found
  obtain ⟨t', later, change⟩ := Db.step_change env op row
  have here : (w.db.step (env, op)).getThread orgId notice.threadId = some t' :=
    Db.getThread_eq_some.mpr ⟨later, change.identity.2.1.trans atOrg⟩
  refine ⟨t', ?_, ?_, ?_⟩
  · rw [step, same]
    exact here
  · intro resolved
    have sent := Db.step_resolved_sent found unresolved here resolved
    omega
  · intro cancelled
    obtain ⟨reason, rfl⟩ := ThreadChange_cancelled change uncancelled cancelled
    rw [atOrg, Db.find_id row] at spares
    exact spares t found rfl notice held rfl

/-- What an announce does to the tables, once it has inserted its thread. -/
structure Announced (db after : Db) (flowEnv : Env) (orgId : OrgId) (body : AnnounceBody) (threadId : ThreadId)
    (t : Thread) : Prop where
  found : after.getThread orgId threadId = some t
  status : t.status = if db.resolvesAtInsert orgId body ∨
    db.otherOnline flowEnv orgId body.agentId = [] ∧ ¬ body.keepOpen then .resolved else .opened
  others : ∀ o k, (o, k) ≠ (orgId, threadId) →
    after.getThread o k = db.getThread o k ∧ after.delivered o k = db.delivered o k

/-- The statement names no org, but an id has one row. -/
theorem setConflicts_rewrites {orgId : OrgId} {threadId : ThreadId} (conflicts : List ConflictReport) {db : Db}
    {u : Thread} (target : db.getThread orgId threadId = some u) :
    db.Rewrites (db.setConflicts threadId conflicts) orgId threadId
      fun t => if conflicts.isEmpty then t else t.report conflicts := by
  intro k
  unfold Db.setConflicts
  split
  · cases db.threads.find k <;> simp
  · rw [Table.find_update]
    cases found : db.threads.find k with
    | none => rfl
    | some t =>
      have atOrg : t.id = threadId → t.orgId = orgId := by
        rintro rfl
        obtain ⟨row, atOrg⟩ := Db.getThread_eq_some.mp target
        rw [Db.find_id found, found] at row
        obtain rfl := Option.some.inj row
        exact atOrg
      by_cases here : t.id = threadId
      · simp [here, atOrg here]
      · simp [here]

theorem setConflicts_frame (threadId : ThreadId) (conflicts : List ConflictReport) (db : Db) :
    (db.setConflicts threadId conflicts).agents = db.agents ∧
      (db.setConflicts threadId conflicts).resolutions = db.resolutions := by
  unfold Db.setConflicts
  split <;> exact ⟨rfl, rfl⟩

theorem announcedThread_status (env : Env) (orgId : OrgId) (body : AnnounceBody) (db : Db) :
    (Db.announcedThread env orgId body.announceParams
      (db.moduleRespondents orgId body.agentId body.targetModules)).status =
        if db.resolvesAtInsert orgId body then .resolved else .opened := rfl

theorem flowRow_orgId (env : Env) (params : CommonFlowParams) (db : Db) (t : Thread) :
    (db.flowRow env params t).orgId = t.orgId := by
  unfold Db.flowRow
  split <;> rfl

theorem flowRow_rewrites (env : Env) (threadId : ThreadId) (params : CommonFlowParams) (db : Db) :
    db.Rewrites (db.runCommonAnnounceFlow env threadId params).1 params.orgId threadId (db.flowRow env params) := by
  refine (Db.runCommonAnnounceFlow_rewrites env threadId params db).congr ?_
  intro t _
  simp only [Db.flowRow, Db.flowAlone_iff]

/-- The thread is resolved by one of the two tests, or it is open. -/
theorem flowRow_status {db mid : Db} {flowEnv : Env} {orgId : OrgId} {body : AnnounceBody} {t : Thread}
    (status : t.status = if db.resolvesAtInsert orgId body then .resolved else .opened)
    (sameAgents : mid.agents = db.agents) :
    (mid.flowRow flowEnv (body.flowParams orgId) t).status = if db.resolvesAtInsert orgId body ∨
      db.otherOnline flowEnv orgId body.agentId = [] ∧ ¬ body.keepOpen then .resolved else .opened := by
  have online : mid.otherOnline flowEnv orgId body.agentId = db.otherOnline flowEnv orgId body.agentId := by
    simp only [Db.otherOnline, Db.listOnline, sameAgents]
  simp only [Db.flowRow, AnnounceBody.flowParams, online]
  by_cases early : db.resolvesAtInsert orgId body
  · rw [if_pos early] at status
    simp [early, status]
  · rw [if_neg early] at status
    by_cases lone : db.otherOnline flowEnv orgId body.agentId = [] ∧ ¬ body.keepOpen
    · rw [if_pos ⟨lone.1, status, lone.2⟩, if_pos (.inr lone)]
      rfl
    · rw [if_neg fun all => lone ⟨all.1, all.2.2⟩, if_neg (not_or.mpr ⟨early, lone⟩), Thread.expect_status, status]

/-- The flow runs on the thread just inserted, and on no other. -/
theorem flow_announced (db : Db) (flowEnv : Env) {mid : Db} {orgId : OrgId} {body : AnnounceBody} {threadId : ThreadId}
    {t : Thread} (found : mid.getThread orgId threadId = some t)
    (status : t.status = if db.resolvesAtInsert orgId body then .resolved else .opened) (sameAgents : mid.agents = db.agents)
    (others : ∀ o k, (o, k) ≠ (orgId, threadId) → mid.getThread o k = db.getThread o k)
    (silent : mid.resolutions = db.resolutions) :
    ∃ after R t', mid.runCommonAnnounceFlow flowEnv threadId (body.flowParams orgId) = (after, .ok R) ∧
      Announced db after flowEnv orgId body threadId t' := by
  have opened : mid.getThread (body.flowParams orgId).orgId threadId = some t := found
  obtain ⟨after, R, done, -⟩ := Db.runCommonAnnounceFlow_ok flowEnv opened
  have rewrites := flowRow_rewrites flowEnv threadId (body.flowParams orgId) mid
  have awaited : mid.Awaited (flowEnv, .runCommonAnnounceFlow threadId (body.flowParams orgId)) := trivial
  have paired : Db.Paired mid (mid.runCommonAnnounceFlow flowEnv threadId (body.flowParams orgId)).1 :=
    Db.step_paired awaited
  rw [done] at rewrites paired
  have sameOrg := flowRow_orgId flowEnv (body.flowParams orgId) mid
  have target : after.getThread orgId threadId = some (mid.flowRow flowEnv (body.flowParams orgId) t) :=
    (rewrites.getThread sameOrg).trans (congrArg _ found)
  refine ⟨after, R, _, done, target, flowRow_status status sameAgents, ?_⟩
  intro o k elsewhere
  have frame := rewrites.getThread_frame sameOrg elsewhere
  have still := Db.isResolved_getThread frame
  refine ⟨frame.trans (others o k elsewhere), ?_⟩
  rw [paired, Db.enters_of_same fun resolved => still ▸ resolved, Db.delivered, Db.delivered, silent]
  rfl

/-- The threads that were there before an announce are as they were. -/
theorem announceWork_others {env : Env} {orgId : OrgId} {params : AnnounceParams} {db : Db} {o : OrgId} {k : ThreadId}
    (elsewhere : (o, k) ≠ (orgId, env.uuid 0)) :
    (db.announceWork env orgId params).1.getThread o k = db.getThread o k := by
  rw [Db.getThread, Db.announceWork_find, Db.getThread]
  split
  · rename_i new
    obtain ⟨-, rfl, fresh⟩ := new
    have otherOrg : ∀ ids, (Db.announcedThread env orgId params ids).orgId ≠ o := by
      rintro ids rfl
      exact elsewhere rfl
    simp [fresh, Option.filter, otherOrg]
  · rfl

theorem announceWork_made {env : Env} {orgId : OrgId} {params : AnnounceParams} {db after : Db} {row : Thread}
    (made : db.announceWork env orgId params = (after, .ok row)) :
    db.registered orgId params.agentId ∧ db.threads.find (env.uuid 0) = none := by
  unfold Db.announceWork at made
  simp only at made
  split at made
  · rename_i author
    split at made
    · rename_i inserted
      exact ⟨author, Table.insert_fresh inserted⟩
    · cases made
  · cases made

/-- The tool inserts, reports and flows, and then publishes; or it inserts nothing. -/
theorem announceTool_step (w : NoticeBoard) (env flowEnv : Env) (orgId : OrgId) (body : AnnounceBody) :
    (w.step (.announceTool env flowEnv orgId body) = w.deliver w.db ∧
      (w.db.registered orgId body.agentId = false ∨ w.db.threads.find (env.uuid 0) ≠ none)) ∨
    (w.db.registered orgId body.agentId ∧ w.db.threads.find (env.uuid 0) = none) ∧
      ∃ after t, w.step (.announceTool env flowEnv orgId body) =
        (w.deliver after).publishConsultation orgId (env.uuid 0) body.agentId body.subject body.targetModules ∧
      Announced w.db after flowEnv orgId body (env.uuid 0) t := by
  rcases Db.announceWork_outcome env orgId body.announceParams w.db with ⟨threads, made, found⟩ | ⟨e, failed, why⟩
  · right
    have target : (w.db.announceWork env orgId body.announceParams).1.getThread orgId (env.uuid 0) = some _ :=
      Db.getThread_eq_some.mpr ⟨by rw [made]; exact found, rfl⟩
    generalize reported : w.db.detect env
      { orgId, agentId := body.agentId, targetModules := body.targetModules, targetFiles := body.targetFiles
        runId := body.runId } = conflicts
    have rewrites := setConflicts_rewrites conflicts target
    have sameOrg : ∀ t : Thread, (if conflicts.isEmpty then t else t.report conflicts).orgId = t.orgId := by
      intro t
      split <;> rfl
    obtain ⟨agents, silent⟩ := setConflicts_frame (env.uuid 0) conflicts (w.db.announceWork env orgId body.announceParams).1
    obtain ⟨after, R, t, done, announced⟩ := flow_announced w.db flowEnv
      ((rewrites.getThread sameOrg).trans (congrArg _ target)) (by
        split <;> exact announcedThread_status env orgId body w.db) (by rw [agents, made])
      (fun o k elsewhere => (rewrites.getThread_frame sameOrg elsewhere).trans (announceWork_others elsewhere))
      (by rw [silent, made])
    refine ⟨announceWork_made made, after, t, ?_, announced⟩
    rw [made] at done
    rw [step]
    simp only [reported, made]
    change (match Db.runCommonAnnounceFlow flowEnv (env.uuid 0) (body.flowParams orgId) (Db.setConflicts (env.uuid 0)
      conflicts _) with
      | (failed, .error _) => w.deliver failed
      | (after, .ok _) => (w.deliver after).publishConsultation orgId (env.uuid 0) body.agentId body.subject
          body.targetModules) = _
    rw [done]
  · refine .inl ⟨?_, why⟩
    rw [step, failed]

theorem publishConsultation_connected (w : NoticeBoard) (connected : w.connected = true) (orgId : OrgId)
    (threadId : ThreadId) (agentId : AgentId) (subject : String) (targetModules : List ModuleId) :
    w.publishConsultation orgId threadId agentId subject targetModules = { w with
      lastRetainedConsultationThreadId := Function.update w.lastRetainedConsultationThreadId orgId (some threadId)
      retained := Function.update w.retained orgId (some ⟨threadId, agentId, subject, targetModules⟩) } :=
  if_neg (by simp [connected])

theorem Synced.publish (synced : w.Synced) (orgId : OrgId) (threadId : ThreadId) (agentId : AgentId) (subject : String)
    (targetModules : List ModuleId) : (w.publishConsultation orgId threadId agentId subject targetModules).Synced := by
  rw [publishConsultation_connected w synced.connected]
  refine ⟨synced.connected, ?_⟩
  intro o
  by_cases here : o = orgId
  · simp [here]
  · simp [here, synced.last]

theorem Synced.step (synced : w.Synced) (call : NoticeCall) : (w.step call).Synced := by
  cases call with
  | announceTool env flowEnv orgId body =>
    rcases announceTool_step w env flowEnv orgId body with ⟨same, -⟩ | ⟨-, after, t, same, -⟩
    · rw [same]
      exact (synced.deliver w.db).1
    · rw [same]
      exact (synced.deliver after).1.publish ..
  | service env op => exact (synced.deliver _).1

theorem delivered_drained (w : NoticeBoard) (o : OrgId) (k : ThreadId) : w.db.delivered o k = 0 := by
  rw [Db.delivered, w.drained]
  rfl

theorem announceTool_unfinished_iff (synced : w.Synced) (unfinished : w.Unfinished) (env flowEnv : Env) (orgId : OrgId)
    (body : AnnounceBody) :
    (w.step (.announceTool env flowEnv orgId body)).Unfinished ↔ w.Spares (.announceTool env flowEnv orgId body) := by
  rcases announceTool_step w env flowEnv orgId body with ⟨same, refused⟩ | ⟨made, after, t, same, announced⟩
  · obtain ⟨-, db, kept⟩ := synced.deliver w.db
    refine iff_of_true ?_ ?_
    · intro o notice retained
      rw [same] at retained
      rw [same, db]
      exact unfinished o notice ((kept o notice).mp retained).1
    · intro author fresh
      rcases refused with stranger | taken
      · rw [author] at stranger
        cases stranger
      · exact absurd fresh taken
  · obtain ⟨delivered, db, kept⟩ := synced.deliver after
    rw [same, publishConsultation_connected _ delivered.connected]
    constructor
    · intro unfinished' _ _
      obtain ⟨u, found, unresolved, -⟩ := unfinished' orgId _ (Function.update_self ..)
      rw [db] at found
      have row : some t = some u := announced.found.symm.trans found
      obtain rfl := Option.some.inj row
      rw [announced.status] at unresolved
      by_cases early : w.db.resolvesAtInsert orgId body
      · exact absurd (if_pos (.inl early)) unresolved
      · refine ⟨early, ?_⟩
        by_contra lone
        rw [not_or, not_not] at lone
        exact unresolved (if_pos (.inr ⟨lone.2, lone.1⟩))
    · intro spares o notice retained
      obtain ⟨late, company⟩ := spares made.1 made.2
      dsimp only at retained ⊢
      by_cases here : o = orgId
      · subst here
        rw [Function.update_self] at retained
        obtain rfl := Option.some.inj retained
        refine ⟨t, by rw [db]; exact announced.found, ?_⟩
        rw [announced.status, if_neg]
        · exact ⟨by decide, by decide⟩
        · rintro (early | alone)
          · exact late early
          · rcases company with kept | peers
            · exact alone.2 kept
            · exact peers alone.1
      · rw [Function.update_of_ne here] at retained
        obtain ⟨held, -⟩ := (kept o notice).mp retained
        obtain ⟨u, found, status⟩ := unfinished o notice held
        have frame := (announced.others o notice.threadId fun both => here (Prod.mk.inj both).1).1
        exact ⟨u, by rw [db]; exact frame.trans found, status⟩

/-- The initiator who cancels the thread retained leaves it there. -/
theorem cancel_spares (synced : w.Synced) {env : Env} {orgId : OrgId} {threadId : ThreadId} {agentId : AgentId}
    {reason : Option String} (unfinished : (w.step (.service env (.cancelThread orgId threadId agentId reason))).Unfinished) :
    w.Spares (.service env (.cancelThread orgId threadId agentId reason)) := by
  rintro t found initiator notice held rfl
  have silent := Db.cancelThread_resolutions env orgId notice.threadId agentId reason w.db
  have unsent : (w.db.step (env, .cancelThread orgId notice.threadId agentId reason)).delivered orgId notice.threadId =
      0 := by
    rw [← w.delivered_drained orgId notice.threadId, Db.delivered, Db.delivered]
    exact congrArg _ (congrArg _ silent)
  obtain ⟨-, db, kept⟩ := synced.deliver (w.db.step (env, .cancelThread orgId notice.threadId agentId reason))
  obtain ⟨u, later, -, uncancelled⟩ := unfinished orgId notice ((kept orgId notice).mpr ⟨held, unsent⟩)
  have row := (Db.cancelThread_rewrites env orgId notice.threadId agentId reason w.db).at_target found
  rw [if_pos initiator] at row
  rw [step, db] at later
  have cancelled := (Db.getThread_eq_some.mp later).1.symm.trans row
  obtain rfl := Option.some.inj cancelled
  exact uncancelled rfl

/-- A call keeps what is retained unfinished exactly when it finishes no such thread. -/
theorem step_unfinished_iff (synced : w.Synced) (unfinished : w.Unfinished) (call : NoticeCall) :
    (w.step call).Unfinished ↔ w.Spares call := by
  cases call with
  | announceTool env flowEnv orgId body => exact announceTool_unfinished_iff synced unfinished env flowEnv orgId body
  | service env op =>
    refine ⟨fun unfinished' => ?_, service_unfinished synced unfinished⟩
    cases op with
    | cancelThread orgId threadId agentId reason => exact cancel_spares synced unfinished'
    | _ => trivial

/-- After every call of a run the broker retains no finished thread exactly when
no call announces a thread that it resolves, or cancels the thread retained. -/
theorem retained_unfinished_iff (db : Db) (calls : List NoticeCall) :
    (∀ done, done <+: calls → (done.foldl step (opening db)).Unfinished) ↔
      GuardedRun.Meets step Spares (opening db) calls := by
  refine GuardedRun.Meets.iff_always (P := fun w => w.Synced ∧ w.Unfinished) ?_ (fun _ kept => kept.2) ?_ ?_
  · exact ⟨⟨rfl, fun _ => rfl⟩, fun _ _ retained => by cases retained⟩
  · intro w call kept spares
    exact ⟨kept.1.step call, (step_unfinished_iff kept.1 kept.2 call).mpr spares⟩
  · intro w call kept unfinished
    exact (step_unfinished_iff kept.1 kept.2 call).mp unfinished

/-- Ada's call of the tool, with nobody else registered. -/
def loneAnnounce : NoticeCall :=
  .announceTool (.drawing "t1") (.drawing "i1") "acme"
    { agentId := "ada", subject := "solo", plan := none, targetModules := [], targetFiles := ["a.ts"]
      dependsOnFiles := none, exportsAffected := none, keepOpen := false, assignedTo := none, targetSymbols := none
      runId := none }

/-- Her thread is resolved as it is created, and published after that. -/
theorem loneAnnounce_finished : ¬ ((opening (Db.team [("ada", [])])).step loneAnnounce).Unfinished := by
  generalize board : (opening (Db.team [("ada", [])])).step loneAnnounce = w
  have retained : w.retained "acme" = some ⟨"t1", "ada", "solo", []⟩ := by
    rw [← board]
    decide +kernel
  have resolved : (w.db.getThread "acme" "t1").map Thread.status = some .resolved := by
    rw [← board]
    decide +kernel
  intro unfinished
  obtain ⟨t, found, unresolved, -⟩ := unfinished "acme" _ retained
  rw [found] at resolved
  exact unresolved (Option.some.inj resolved)

theorem not_retained_unfinished : ¬ ∀ (db : Db) (calls : List NoticeCall),
    ∀ done, done <+: calls → (done.foldl step (opening db)).Unfinished := by
  intro unfinished
  exact loneAnnounce_finished (unfinished (Db.team [("ada", [])]) [loneAnnounce] [loneAnnounce] (List.prefix_refl _))

end NoticeBoard

end Coordinator
