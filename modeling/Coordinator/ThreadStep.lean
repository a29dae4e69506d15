import Coordinator.Library.GuardedRun
import Coordinator.ThreadEffects

namespace Coordinator

/-- The calls that run against the coordination tables, with their arguments. -/
inductive Op
  | announceWork (orgId : OrgId) (params : AnnounceParams)
  | runCommonAnnounceFlow (threadId : ThreadId) (params : CommonFlowParams)
  | postToThread (orgId : OrgId) (params : PostParams)
  | proposeResolution (orgId : OrgId) (threadId : ThreadId) (agentId : AgentId) (summary : String)
  | approveResolution (orgId : OrgId) (threadId : ThreadId) (agentId : AgentId) (agentName : Option String)
  | contestResolution (orgId : OrgId) (threadId : ThreadId) (agentId : AgentId) (reason : String)
  | cancelThread (orgId : OrgId) (threadId : ThreadId) (agentId : AgentId) (reason : Option String)
  | closeThread (orgId : OrgId) (threadId : ThreadId) (agentId : AgentId) (summary : String)
  | handleAgentDeparture (orgId : OrgId) (agentId : AgentId)
  | checkTimeouts
  | handleClaimTask (orgId : OrgId) (threadId : ThreadId) (agentId : AgentId)
  | handleUnclaimTask (orgId : OrgId) (threadId : ThreadId) (agentId : AgentId)
  | handleIntrospectionResponse (orgId : OrgId) (introspectionId : String) (concerned : Bool) (reason : String)
  | register (orgId : OrgId) (agentId : AgentId) (name : String) (modules : List ModuleId)
  | setStatus (status : AgentConnectionStatus) (orgId : OrgId) (agentId : AgentId)
  | logFile (orgId : OrgId) (agentId : AgentId) (filePath : FilePath) (symbols : Option (List String))
  | startWorking (orgId : OrgId) (agentId : AgentId) (filePath : FilePath) (ttlMinutes : Nat)
  | stopWorking (orgId : OrgId) (agentId : AgentId) (filePath : FilePath)

/-- The calls that may write `threads`; the others keep the registry and the file trackers. -/
def Op.onThreads : Op → Bool
  | .register .. | .setStatus .. | .logFile .. | .startWorking .. | .stopWorking .. => false
  | _ => true

namespace Db

/-- One call; a call that throws leaves the statements it had executed behind. -/
def step (db : Db) : Env × Op → Db
  | (env, .announceWork orgId params) => (db.announceWork env orgId params).1
  | (env, .runCommonAnnounceFlow threadId params) => (db.runCommonAnnounceFlow env threadId params).1
  | (env, .postToThread orgId params) => (db.postToThread env orgId params).1
  | (env, .proposeResolution orgId threadId agentId summary) =>
    (db.proposeResolution env orgId threadId agentId summary).1
  | (env, .approveResolution orgId threadId agentId agentName) =>
    (db.approveResolution env orgId threadId agentId agentName).1
  | (env, .contestResolution orgId threadId agentId reason) =>
    (db.contestResolution env orgId threadId agentId reason).1
  | (env, .cancelThread orgId threadId agentId reason) => (db.cancelThread env orgId threadId agentId reason).1
  | (env, .closeThread orgId threadId agentId summary) => (db.closeThread env orgId threadId agentId summary).1
  | (env, .handleAgentDeparture orgId agentId) => db.handleAgentDeparture env orgId agentId
  | (env, .checkTimeouts) => db.checkTimeouts env
  | (env, .handleClaimTask orgId threadId agentId) => (db.handleClaimTask env orgId threadId agentId).1
  | (_, .handleUnclaimTask orgId threadId agentId) => (db.handleUnclaimTask orgId threadId agentId).1
  | (env, .handleIntrospectionResponse orgId introspectionId concerned reason) =>
    (db.handleIntrospectionResponse env orgId introspectionId concerned reason).1
  | (env, .register orgId agentId name modules) => db.register env orgId agentId name modules
  | (env, .setStatus status orgId agentId) => db.setStatus status env orgId agentId
  | (env, .logFile orgId agentId filePath symbols) => db.logFile env orgId agentId filePath symbols
  | (env, .startWorking orgId agentId filePath ttlMinutes) => db.startWorking env orgId agentId filePath ttlMinutes
  | (_, .stopWorking orgId agentId filePath) => db.stopWorking orgId agentId filePath

/-- Everything one call can do to one row of `threads`, with the checks it has passed. -/
inductive ThreadChange (db : Db) (env : Env) : Op → Thread → Thread → Prop
  | keep (op : Op) (t : Thread) : ThreadChange db env op t t
  | override (t : Thread) (params : CommonFlowParams) (ids : List AgentId) :
    ThreadChange db env (.runCommonAnnounceFlow t.id params) t (t.expect ids)
  | autoResolve (t : Thread) (params : CommonFlowParams) (ids : List AgentId) : t.status = .opened →
    ThreadChange db env (.runCommonAnnounceFlow t.id params) t ((t.expect ids).resolve env.isoNow)
  | propose (t : Thread) (agentId : AgentId) (summary : String) :
    t.initiatorId = agentId ∨ t.claimedBy = some agentId →
    ThreadChange db env (.proposeResolution t.orgId t.id agentId summary) t (t.propose summary)
  | approve (t : Thread) (agentId : AgentId) (agentName : Option String) : t.status = .resolving →
    db.approvalCompletes env t.orgId t.id agentId →
    ThreadChange db env (.approveResolution t.orgId t.id agentId agentName) t (t.resolve env.isoNow)
  | contestLast (t : Thread) (agentId : AgentId) (reason : String) : t.status = .resolving →
    t.maxRounds < t.round + 1 →
    ThreadChange db env (.contestResolution t.orgId t.id agentId reason) t (t.resolve env.isoNow)
  | contest (t : Thread) (agentId : AgentId) (reason : String) : t.status = .resolving →
    db.registered t.orgId agentId → t.round + 1 ≤ t.maxRounds →
    ThreadChange db env (.contestResolution t.orgId t.id agentId reason) t (t.reopen (t.round + 1))
  | cancel (t : Thread) (reason : Option String) :
    ThreadChange db env (.cancelThread t.orgId t.id t.initiatorId reason) t (t.cancel env.isoNow)
  | close (t : Thread) (summary : String) : t.status.active →
    ThreadChange db env (.closeThread t.orgId t.id t.initiatorId summary) t (t.close summary env.isoNow)
  | depart (t : Thread) (agentId : AgentId) : t.status.active →
    ThreadChange db env (.handleAgentDeparture t.orgId agentId) t
      (departed env agentId db (if t.claimedBy = some agentId ∧ t.status = .opened then t.unclaim else t))
  | timeout (t : Thread) : t.status.active →
    ThreadChange db env .checkTimeouts t
      (t.close "Résolu par timeout — pas de réponse dans le délai" env.currentTimestamp)
  | claim (t : Thread) (agentId : AgentId) : t.claimedBy = none → t.status = .opened →
    ¬ db.heldElsewhere agentId t →
    ThreadChange db env (.handleClaimTask t.orgId t.id agentId) t (t.claim agentId env.isoNow)
  | unclaim (t : Thread) (agentId : AgentId) : t.claimedBy = some agentId → t.status = .opened →
    ThreadChange db env (.handleUnclaimTask t.orgId t.id agentId) t t.release
  | poison (t : Thread) (agentId : AgentId) : t.claimedBy = some agentId → t.status = .opened →
    ThreadChange db env (.handleUnclaimTask t.orgId t.id agentId) t t.release.poison
  | concern (t : Thread) (introspectionId : String) (reason : String) (agentId : AgentId) : t.status.active →
    ThreadChange db env (.handleIntrospectionResponse t.orgId introspectionId true reason) t
      (t.expect (t.respondents ++ [agentId]))

theorem ThreadChange.identity {db : Db} {env : Env} {op : Op} {t t' : Thread} (change : db.ThreadChange env op t t') :
    t'.id = t.id ∧ t'.orgId = t.orgId ∧ t'.targetFiles = t.targetFiles := by
  cases change with
  | depart _ agentId =>
    rcases departed_cases env agentId db
      (if t.claimedBy = some agentId ∧ t.status = .opened then t.unclaim else t) with settled | stays
    · rw [settled]
      split <;> exact ⟨rfl, rfl, rfl⟩
    · rw [stays]
      split <;> exact ⟨rfl, rfl, rfl⟩
  | _ => exact ⟨rfl, rfl, rfl⟩

/-- A call that treats each row of `threads` by itself and changes it in one of the listed ways. -/
def Rowwise (db : Db) (env : Env) (op : Op) : Prop :=
  ∃ g : Thread → Thread, (∀ k, (db.step (env, op)).threads.find k = (db.threads.find k).map g) ∧
    ∀ t, db.ThreadChange env op t (g t)

theorem Rowwise.of_same {db : Db} {env : Env} {op : Op} (same : (db.step (env, op)).threads = db.threads) :
    db.Rowwise env op := by
  refine ⟨id, fun k => ?_, fun t => .keep op t⟩
  rw [same, Option.map_id, id]

/-- A call that rewrites the row at one id is judged there. -/
theorem Rowwise.of_rewrites {db : Db} {env : Env} {op : Op} {orgId : OrgId} {threadId : ThreadId}
    {g : Thread → Thread} (rewrites : db.Rewrites (db.step (env, op)) orgId threadId g)
    (here : ∀ t, t.id = threadId → t.orgId = orgId → db.ThreadChange env op t (g t)) : db.Rowwise env op := by
  refine ⟨_, rewrites, fun t => ?_⟩
  split
  · rename_i hit
    exact here t hit.1 hit.2
  · exact .keep op t

/-- Every call but an announce goes row by row. -/
theorem step_rowwise (db : Db) (env : Env) {op : Op} (other : ∀ orgId params, op ≠ .announceWork orgId params) :
    db.Rowwise env op := by
  cases op with
  | announceWork orgId params => exact absurd rfl (other orgId params)
  | runCommonAnnounceFlow threadId params =>
    refine .of_rewrites (runCommonAnnounceFlow_rewrites env threadId params db) fun t atId atOrg => ?_
    subst atId
    split
    · rename_i alone
      exact .autoResolve t params _ alone.2.1
    · exact .override t params _
  | postToThread orgId params => exact .of_same (postToThread_threads ..)
  | proposeResolution orgId threadId agentId summary =>
    refine .of_rewrites (proposeResolution_rewrites env orgId threadId agentId summary db) fun t atId atOrg => ?_
    subst atId atOrg
    split
    · rename_i entitled
      exact .propose t agentId summary entitled
    · exact .keep _ t
  | approveResolution orgId threadId agentId agentName =>
    refine .of_rewrites (approveResolution_rewrites env orgId threadId agentId agentName db) fun t atId atOrg => ?_
    subst atId atOrg
    split
    · rename_i completes
      exact .approve t agentId agentName completes.1 completes.2
    · exact .keep _ t
  | contestResolution orgId threadId agentId reason =>
    refine .of_rewrites (contestResolution_rewrites env orgId threadId agentId reason db) fun t atId atOrg => ?_
    subst atId atOrg
    split
    · rename_i contested
      split
      · rename_i last
        exact .contestLast t agentId reason contested.1 last
      · rename_i room
        exact .contest t agentId reason contested.1 contested.2 (by omega)
    · exact .keep _ t
  | cancelThread orgId threadId agentId reason =>
    refine .of_rewrites (cancelThread_rewrites env orgId threadId agentId reason db) fun t atId atOrg => ?_
    subst atId atOrg
    split
    · rename_i initiator
      subst initiator
      exact .cancel t reason
    · exact .keep _ t
  | closeThread orgId threadId agentId summary =>
    refine .of_rewrites (closeThread_rewrites env orgId threadId agentId summary db) fun t atId atOrg => ?_
    subst atId atOrg
    split
    · rename_i allowed
      obtain ⟨rfl, active⟩ := allowed
      exact .close t summary active
    · exact .keep _ t
  | handleAgentDeparture orgId agentId =>
    refine ⟨_, handleAgentDeparture_find env orgId agentId db, fun t => ?_⟩
    split
    · rename_i swept
      obtain ⟨rfl, active⟩ := swept
      exact .depart t agentId active
    · exact .keep _ t
  | checkTimeouts =>
    refine ⟨_, checkTimeouts_find env db, fun t => ?_⟩
    split
    · rename_i late
      simp only [timedOut, decide_eq_true_eq] at late
      exact .timeout t late.1
    · exact .keep _ t
  | handleClaimTask orgId threadId agentId =>
    refine .of_rewrites (handleClaimTask_rewrites env orgId threadId agentId db) fun t atId atOrg => ?_
    subst atId atOrg
    split
    · rename_i free
      exact .claim t agentId free.1 free.2.1 free.2.2.2
    · exact .keep _ t
  | handleUnclaimTask orgId threadId agentId =>
    refine .of_rewrites (handleUnclaimTask_rewrites orgId threadId agentId db) fun t atId atOrg => ?_
    subst atId atOrg
    split
    · rename_i held
      split
      · exact .poison t agentId held.1 held.2
      · exact .unclaim t agentId held.1 held.2
    · exact .keep _ t
  | handleIntrospectionResponse orgId introspectionId concerned reason =>
    rcases handleIntrospectionResponse_find env orgId introspectionId concerned reason db with
      same | ⟨asked, -, isConcerned, rewrites⟩
    · exact .of_same same
    · refine .of_rewrites rewrites fun t _ atOrg => ?_
      subst atOrg isConcerned
      split
      · rename_i adds
        exact .concern t introspectionId reason asked.agentId adds.1
      · exact .keep _ t
  | register orgId agentId name modules => exact .of_same (register_threads ..)
  | setStatus status orgId agentId => exact .of_same rfl
  | logFile orgId agentId filePath symbols => exact .of_same rfl
  | startWorking orgId agentId filePath ttlMinutes => exact .of_same rfl
  | stopWorking orgId agentId filePath => exact .of_same rfl

/-- A thread that exists goes on existing, changed in one of the listed ways. -/
theorem step_change (env : Env) (op : Op) {db : Db} {k : ThreadId} {t : Thread} (found : db.threads.find k = some t) :
    ∃ t', (db.step (env, op)).threads.find k = some t' ∧ db.ThreadChange env op t t' := by
  by_cases announces : ∃ orgId params, op = .announceWork orgId params
  · obtain ⟨orgId, params, rfl⟩ := announces
    refine ⟨t, ?_, .keep _ t⟩
    show (db.announceWork env orgId params).1.threads.find k = some t
    rw [announceWork_find, if_neg, found]
    intro unborn
    obtain ⟨-, atNew, fresh⟩ := unborn
    rw [← atNew, found] at fresh
    cases fresh
  · obtain ⟨g, rows, changes⟩ := step_rowwise db env fun orgId params same => announces ⟨orgId, params, same⟩
    exact ⟨g t, by rw [rows, found, Option.map_some], changes t⟩

/-- Only `announceWork` creates threads. -/
theorem step_birth {env : Env} {op : Op} {db : Db} {k : ThreadId} {t : Thread} (fresh : db.threads.find k = none)
    (born : (db.step (env, op)).threads.find k = some t) :
    ∃ orgId params, op = .announceWork orgId params ∧
      t = announcedThread env orgId params (db.moduleRespondents orgId params.agentId params.targetModules) := by
  by_cases announces : ∃ orgId params, op = .announceWork orgId params
  · obtain ⟨orgId, params, rfl⟩ := announces
    refine ⟨orgId, params, rfl, ?_⟩
    have row : (db.announceWork env orgId params).1.threads.find k = some t := born
    rw [announceWork_find, fresh] at row
    split at row
    · exact (Option.some.inj row).symm
    · cases row
  · obtain ⟨g, rows, -⟩ := step_rowwise db env fun orgId params same => announces ⟨orgId, params, same⟩
    rw [rows, fresh, Option.map_none] at born
    cases born

/-- Where a row of the next state comes from. -/
theorem step_origin {env : Env} {op : Op} {db : Db} {k : ThreadId} {t' : Thread}
    (found : (db.step (env, op)).threads.find k = some t') :
    (∃ t, db.threads.find k = some t ∧ db.ThreadChange env op t t') ∨
      db.threads.find k = none ∧ ∃ orgId params, op = .announceWork orgId params ∧
        t' = announcedThread env orgId params (db.moduleRespondents orgId params.agentId params.targetModules) := by
  cases before : db.threads.find k with
  | none => exact .inr ⟨rfl, step_birth before found⟩
  | some t =>
    obtain ⟨u, later, change⟩ := step_change env op before
    rw [found] at later
    cases later
    exact .inl ⟨t, rfl, change⟩

/-- Runs of the coordination tables whose calls all meet a guard. -/
abbrev Run (guard : Db → Env × Op → Prop) : Db → Db → Prop := GuardedRun step guard

/-- The state after a list of calls. -/
def after (db : Db) (calls : List (Env × Op)) : Db := calls.foldl step db

/-- Runs of thread calls alone. -/
abbrev ThreadRun : Db → Db → Prop := Run fun _ call => call.2.onThreads

theorem threadRun_after (db : Db) {calls : List (Env × Op)} (onThreads : ∀ call ∈ calls, call.2.onThreads) :
    db.ThreadRun (db.after calls) := GuardedRun.of_inputs onThreads

end Db

/-- A call at the epoch that draws one id, with the default liveness window. -/
def Env.drawing (id : String) : Env := { now := 0, uuid := fun _ => id, agentOnlineTtlSeconds := none }

/-- Tables in which these agents are registered, each with its modules. -/
def Db.team (agents : List (AgentId × List ModuleId)) : Db :=
  Db.empty.after (agents.map fun (id, modules) => (.drawing "m0", .register "acme" id id modules))

/-- An announce that names files and nothing else. -/
def AnnounceParams.ofFiles (agentId : AgentId) (targetFiles : List FilePath) (keepOpen : Bool) : AnnounceParams :=
  { agentId, subject := "", plan := none, targetModules := [], targetFiles, dependsOnFiles := none
    exportsAffected := none, keepOpen, assignedTo := none, runId := none }

end Coordinator
