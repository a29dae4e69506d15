import Coordinator.AgentRegistry

namespace Coordinator

/-- A call leaves a database behind and either answers or throws; statements
executed before a throw outside a transaction stay executed. -/
abbrev Outcome (α : Type) := Db × Except String α

/-- A call whose answer is not used. -/
def Outcome.void {α : Type} (result : Outcome α) : Outcome Unit := (result.1, result.2.map fun _ => ())

structure AnnounceParams where
  agentId : AgentId
  subject : String
  plan : Option String
  targetModules : List ModuleId
  targetFiles : List FilePath
  dependsOnFiles : Option (List FilePath)
  exportsAffected : Option (List FilePath)
  /-- Only its truth value is read, so an absent flag is `false`. -/
  keepOpen : Bool
  assignedTo : Option AgentId
  runId : Option String
  deriving DecidableEq, Repr

structure PostParams where
  threadId : ThreadId
  agentId : AgentId
  agentName : Option String
  type : MessageType
  content : String
  contextSnapshot : Option String
  inReplyTo : Option String
  deriving DecidableEq, Repr

/-! The column assignments of the `UPDATE threads` statements. -/
namespace Thread

def propose (summary : String) (t : Thread) : Thread :=
  { t with status := .resolving, resolutionSummary := some summary }

def resolve (resolvedAt : Stamp) (t : Thread) : Thread :=
  { t with status := .resolved, resolvedAt := some resolvedAt }

def reopen (nextRound : Nat) (t : Thread) : Thread :=
  { t with status := .opened, round := nextRound, resolutionSummary := none }

def cancel (resolvedAt : Stamp) (t : Thread) : Thread :=
  { t with status := .cancelled, resolvedAt := some resolvedAt }

def close (summary : String) (resolvedAt : Stamp) (t : Thread) : Thread :=
  { t with status := .resolved, resolutionSummary := some summary, resolvedAt := some resolvedAt }

def expect (respondents : List AgentId) (t : Thread) : Thread :=
  { t with expectedRespondents := .array respondents }

def claim (agentId : AgentId) (claimedAt : Stamp) (t : Thread) : Thread :=
  { t with claimedBy := some agentId, claimedAt := some claimedAt }

def unclaim (t : Thread) : Thread := { t with claimedBy := none, claimedAt := none }

def release (t : Thread) : Thread :=
  { t with claimedBy := none, claimedAt := none, unclaimCount := some (t.unclaimCount.getD 0 + 1) }

def poison (t : Thread) : Thread := { t with status := .poisoned }

@[simp] theorem propose_id (summary : String) (t : Thread) : (t.propose summary).id = t.id := rfl

@[simp] theorem resolve_id (resolvedAt : Stamp) (t : Thread) : (t.resolve resolvedAt).id = t.id := rfl

@[simp] theorem reopen_id (nextRound : Nat) (t : Thread) : (t.reopen nextRound).id = t.id := rfl

@[simp] theorem cancel_id (resolvedAt : Stamp) (t : Thread) : (t.cancel resolvedAt).id = t.id := rfl

@[simp] theorem close_id (summary : String) (resolvedAt : Stamp) (t : Thread) : (t.close summary resolvedAt).id = t.id := rfl

@[simp] theorem expect_id (respondents : List AgentId) (t : Thread) : (t.expect respondents).id = t.id := rfl

@[simp] theorem expect_status (respondents : List AgentId) (t : Thread) :
    (t.expect respondents).status = t.status := rfl

@[simp] theorem claim_id (agentId : AgentId) (claimedAt : Stamp) (t : Thread) : (t.claim agentId claimedAt).id = t.id := rfl

@[simp] theorem unclaim_id (t : Thread) : (t.unclaim).id = t.id := rfl

@[simp] theorem release_id (t : Thread) : (t.release).id = t.id := rfl

@[simp] theorem poison_id (t : Thread) : (t.poison).id = t.id := rfl

end Thread

namespace Db

def getThread (db : Db) (orgId : OrgId) (threadId : ThreadId) : Option Thread :=
  (db.threads.find threadId).filter fun t => t.orgId = orgId

def getThreadCrossOrg (db : Db) (threadId : ThreadId) : Option Thread := db.threads.find threadId

/-- `UPDATE threads SET … WHERE id = ? AND org_id = ?`. -/
def updateThread (db : Db) (orgId : OrgId) (threadId : ThreadId) (f : Thread → Thread)
    (keeps : ∀ t, (f t).id = t.id) : Db :=
  { db with threads := db.threads.update (fun t => t.id = threadId ∧ t.orgId = orgId) f keeps }

/-- `INSERT INTO thread_messages`, under the foreign key on the author. -/
def insertMessage (db : Db) (m : ThreadMessage) : Outcome ThreadMessage :=
  if db.registered m.orgId m.agentId then ({ db with messages := db.messages ++ [m] }, .ok m)
  else (db, .error "FOREIGN KEY constraint failed")

def emitResolution (env : Env) (threadId : ThreadId) (type : ResolutionType) (approvedBy approvedByName : Option String)
    (db : Db) : Db :=
  match db.getThreadCrossOrg threadId with
  | none => db
  | some thread =>
    { db with
      resolutions := db.resolutions ++ [
        { threadId, orgId := thread.orgId, resolutionType := type, resolutionSummary := thread.resolutionSummary,
          createdAt := thread.createdAt, resolvedAt := thread.resolvedAt.getD env.isoNow, approvedBy,
          approvedByName, hadMessages := db.messages.any fun m => m.threadId = threadId }] }

/-- The online agents whose modules overlap the announced ones. No liveness
window applies here: the registry flag alone decides. -/
def moduleRespondents (db : Db) (orgId : OrgId) (agentId : AgentId) (targetModules : List ModuleId) : List AgentId :=
  let onlineAgents := db.agents.rows.filter fun a => a.status = .online ∧ a.id ≠ agentId ∧ a.orgId = orgId
  let respondents := onlineAgents.filter fun a =>
    targetModules.any fun tm => (safeJsonParse a.modules []).any fun am => moduleOverlap am tm
  respondents.map (·.id)

/-- The row `announceWork` inserts. -/
def announcedThread (env : Env) (orgId : OrgId) (params : AnnounceParams) (respondentIds : List AgentId) : Thread :=
  let keepOpen := params.keepOpen || params.assignedTo.isSome
  let autoResolve := respondentIds.isEmpty && !keepOpen
  { id := env.uuid 0, orgId, initiatorId := params.agentId, subject := params.subject, plan := orNull params.plan
    targetModules := params.targetModules, targetFiles := params.targetFiles
    status := if autoResolve then .resolved else .opened
    resolutionSummary := none, conflicts := none, round := 1, maxRounds := 4
    timeoutSeconds := if keepOpen then 0 else 600
    createdAt := env.currentTimestamp
    resolvedAt := if autoResolve then some env.isoNow else none
    expectedRespondents := .array respondentIds
    dependsOnFiles := params.dependsOnFiles.getD [], exportsAffected := params.exportsAffected.getD []
    claimedBy := none, claimedAt := none, unclaimCount := some 0
    assignedTo := params.assignedTo, runId := params.runId }

def announceWork (env : Env) (orgId : OrgId) (params : AnnounceParams) (db : Db) : Outcome Thread :=
  let respondentIds := db.moduleRespondents orgId params.agentId params.targetModules
  let row := announcedThread env orgId params respondentIds
  if db.registered orgId params.agentId then
    match db.threads.insert row with
    | some threads => ({ db with threads }, .ok row)
    | none => (db, .error "UNIQUE constraint failed: threads.id")
  else (db, .error "FOREIGN KEY constraint failed")

def postToThread (env : Env) (orgId : OrgId) (params : PostParams) (db : Db) : Outcome ThreadMessage :=
  match db.getThread orgId params.threadId with
  | none => (db, .error s!"Thread {params.threadId} not found")
  | some thread =>
    if thread.status = .cancelled then (db, .error s!"Thread {params.threadId} is cancelled")
    else db.insertMessage
      { id := env.uuid 0, orgId, threadId := params.threadId, agentId := params.agentId
        agentName := orNull params.agentName, type := params.type, content := params.content
        contextSnapshot := orNull params.contextSnapshot, inReplyTo := orNull params.inReplyTo
        round := thread.round, tokenEstimate := (utf16Length params.content + 3) / 4
        createdAt := env.currentTimestamp }

def postResolutionMessage (env : Env) (orgId : OrgId) (threadId : ThreadId) (agentId : AgentId) (type : MessageType)
    (content : String) (db : Db) : Outcome ThreadMessage :=
  match db.getThread orgId threadId with
  | none => (db, .error "Cannot read properties of null (reading 'round')")
  | some thread => db.insertMessage
      { id := env.uuid 0, orgId, threadId, agentId, agentName := none, type, content, contextSnapshot := none
        inReplyTo := none, round := thread.round, tokenEstimate := 0, createdAt := env.currentTimestamp }

/-- `SELECT DISTINCT agent_id … type = 'approve' AND round = ?`. -/
def approvals (db : Db) (threadId : ThreadId) (round : Nat) : List AgentId :=
  ((db.messages.filter fun m => m.threadId = threadId ∧ m.type = .approve ∧ m.round = round).map (·.agentId)).eraseDups

def allRespondentsApproved (db : Db) (orgId : OrgId) (threadId : ThreadId) : Bool :=
  match db.getThread orgId threadId with
  | none => false
  | some thread => thread.respondents.all fun id => (db.approvals threadId thread.round).contains id

def proposeResolution (env : Env) (orgId : OrgId) (threadId : ThreadId) (agentId : AgentId) (summary : String)
    (db : Db) : Outcome Unit :=
  match db.getThread orgId threadId with
  | none => (db, .error s!"Thread {threadId} not found")
  | some thread =>
    if thread.initiatorId ≠ agentId ∧ thread.claimedBy ≠ some agentId then
      (db, .error "Only the initiator or the claimant can propose a resolution")
    else
      let proposed := db.updateThread orgId threadId (.propose summary) (Thread.propose_id _)
      (proposed.postResolutionMessage env orgId threadId agentId .resolution summary).void

def approveResolution (env : Env) (orgId : OrgId) (threadId : ThreadId) (agentId : AgentId)
    (agentName : Option String) (db : Db) : Outcome Unit :=
  match db.getThread orgId threadId with
  | none => (db, .error s!"Thread {threadId} not found")
  | some thread =>
    if thread.status ≠ .resolving then (db, .error s!"Thread is {thread.status.text}, not resolving")
    else
      match db.postResolutionMessage env orgId threadId agentId .approve "Approved" with
      -- the transaction rolls back
      | (_, .error e) => (db, .error e)
      | (posted, .ok _) =>
        if posted.allRespondentsApproved orgId threadId then
          let winning : Thread → Bool := fun t => t.id = threadId ∧ t.orgId = orgId ∧ t.status = .resolving
          let resolved : Db := { posted with
            threads := posted.threads.update winning (.resolve env.isoNow) (Thread.resolve_id _) }
          if 0 < posted.threads.changes winning then
            (resolved.emitResolution env threadId .consensus (some agentId)
              (some ((orNull agentName).getD agentId)), .ok ())
          else (resolved, .ok ())
        else (posted, .ok ())

def contestResolution (env : Env) (orgId : OrgId) (threadId : ThreadId) (agentId : AgentId) (reason : String)
    (db : Db) : Outcome Unit :=
  match db.getThread orgId threadId with
  | none => (db, .error s!"Thread {threadId} not found")
  | some thread =>
    if thread.status ≠ .resolving then (db, .error s!"Thread is {thread.status.text}, not resolving")
    else
      match db.postResolutionMessage env orgId threadId agentId .contest reason with
      | (failed, .error e) => (failed, .error e)
      | (posted, .ok _) =>
        let nextRound := thread.round + 1
        if thread.maxRounds < nextRound then
          ((posted.updateThread orgId threadId (.resolve env.isoNow) (Thread.resolve_id _)).emitResolution
            env threadId .maxRounds none none, .ok ())
        else (posted.updateThread orgId threadId (.reopen nextRound) (Thread.reopen_id _), .ok ())

def cancelThread (env : Env) (orgId : OrgId) (threadId : ThreadId) (agentId : AgentId) (reason : Option String)
    (db : Db) : Outcome Unit :=
  match db.getThread orgId threadId with
  | none => (db, .error s!"Thread {threadId} not found")
  | some thread =>
    if thread.initiatorId ≠ agentId then (db, .error "Only the initiator can cancel")
    else
      let cancelled := db.updateThread orgId threadId (.cancel env.isoNow) (Thread.cancel_id _)
      match orNull reason with
      | none => (cancelled, .ok ())
      | some why => (cancelled.postResolutionMessage env orgId threadId agentId .context s!"Cancelled: {why}").void

def closeThread (env : Env) (orgId : OrgId) (threadId : ThreadId) (agentId : AgentId) (summary : String)
    (db : Db) : Outcome Unit :=
  match db.getThread orgId threadId with
  | none => (db, .error s!"Thread {threadId} not found")
  | some thread =>
    if thread.initiatorId ≠ agentId then
      (db, .error s!"Only the initiator ({thread.initiatorId}) may close thread {threadId}, not {agentId}")
    else if ¬ thread.status.active then
      (db, .error s!"Cannot close thread {threadId} in status '{thread.status.text}'")
    else
      ((db.updateThread orgId threadId (.close summary env.isoNow) (Thread.close_id _ _)).emitResolution
        env threadId .closed none none, .ok ())

/-- One round of the departure loop, for a row read before the loop. -/
def departThread (env : Env) (agentId : AgentId) (db : Db) (thread : Thread) : Db :=
  let updated := thread.respondents.filter (· ≠ agentId)
  let filtered := db.updateThread thread.orgId thread.id (.expect updated) (Thread.expect_id _)
  let resolve (db : Db) : Db :=
    (db.updateThread thread.orgId thread.id (.resolve env.isoNow) (Thread.resolve_id _)).emitResolution
      env thread.id .agentDeparture none none
  match filtered.getThreadCrossOrg thread.id with
  | none => filtered
  | some t =>
    let consented :=
      if t.status = .resolving ∧ filtered.allRespondentsApproved thread.orgId thread.id then resolve filtered
      else filtered
    if t.status = .opened ∧ updated.isEmpty then resolve consented else consented

/-- The first statement of the departure: open tasks of the agent go back to the pool. -/
def unclaimAll (orgId : OrgId) (agentId : AgentId) (db : Db) : Db :=
  { db with
    threads := db.threads.update (fun t => t.claimedBy = some agentId ∧ t.status = .opened ∧ t.orgId = orgId)
      .unclaim Thread.unclaim_id }

def handleAgentDeparture (env : Env) (orgId : OrgId) (agentId : AgentId) (db : Db) : Db :=
  let unclaimed := db.unclaimAll orgId agentId
  let threads := unclaimed.threads.rows.filter fun t => t.status.active ∧ t.orgId = orgId
  threads.foldl (departThread env agentId) unclaimed

/-- The deadline grows with the round: `created_at + timeout_seconds * round`. -/
def timedOut (env : Env) (t : Thread) : Bool :=
  t.status.active ∧ 0 < t.timeoutSeconds ∧ t.createdAt.seconds + t.timeoutSeconds * t.round < env.now / 1000

def checkTimeouts (env : Env) (db : Db) : Db :=
  let expired := db.threads.rows.filter (timedOut env)
  if expired.isEmpty then db
  else
    let resolved : Db := { db with
      threads := db.threads.update (timedOut env)
        (.close "Résolu par timeout — pas de réponse dans le délai" env.currentTimestamp) (Thread.close_id _ _) }
    expired.foldl (fun db t => db.emitResolution env t.id .timeout none none) resolved

structure ThreadFilters where
  status : Option ThreadStatus
  sinceMinutes : Option Nat
  runId : Option String

def listThreads (env : Env) (orgId : OrgId) (filters : ThreadFilters) (db : Db) : List Thread :=
  (db.threads.rows.filter fun t =>
    t.orgId = orgId ∧ filters.status.all (fun s => t.status = s) ∧
      (orNull filters.runId).all (fun run => t.runId = none ∨ t.runId = some run) ∧
      filters.sinceMinutes.all fun m => (env.minutesAgo m).lt (t.resolvedAt.getD t.createdAt)).insertionSort
        fun a b => ¬ a.createdAt.lt b.createdAt

end Db

end Coordinator
