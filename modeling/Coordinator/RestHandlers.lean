import Coordinator.Consultation

namespace Coordinator

structure ClaimConflict where
  threadId : ThreadId
  files : List FilePath
  deriving DecidableEq, Repr

/-- The body of the claim answer; the diagnostic fields are sent on a refusal only. -/
structure ClaimResponse where
  success : Bool
  claimedBy : Option AgentId
  assignedTo : Option AgentId
  status : Option ThreadStatus
  conflict : Option ClaimConflict
  deriving DecidableEq, Repr

structure UnclaimResponse where
  success : Bool
  poisoned : Bool
  deriving DecidableEq, Repr

namespace Db

def poisonThreshold : Nat := 2

/-- The WHERE clause of the unclaim statement. -/
def unclaimable (orgId : OrgId) (threadId : ThreadId) (agentId : AgentId) (t : Thread) : Bool :=
  t.id = threadId ∧ t.orgId = orgId ∧ t.claimedBy = some agentId ∧ t.status = .opened

def handleUnclaimTask (orgId : OrgId) (threadId : ThreadId) (agentId : AgentId) (db : Db) : Db × UnclaimResponse :=
  let released : Db := { db with
    threads := db.threads.update (unclaimable orgId threadId agentId) .release Thread.release_id }
  let success : Bool := db.threads.changes (unclaimable orgId threadId agentId) = 1
  match released.getThread orgId threadId with
  | none => (released, { success, poisoned := false })
  | some row =>
    if success ∧ poisonThreshold ≤ row.unclaimCount.getD 0 then
      ({ released with
        threads := released.threads.update (fun t => t.id = threadId ∧ t.orgId = orgId ∧ t.status = .opened)
          .poison Thread.poison_id }, { success, poisoned := true })
    else (released, { success, poisoned := false })

/-- The join of two `json_each` tables on their values has a row. -/
def sharesFile (mine theirs : List FilePath) : Bool := mine.any fun f => theirs.contains f

/-- The correlated subquery of the claim statement: another thread of the org
is open and held by someone else, and touches one of these files. -/
def heldElsewhere (db : Db) (agentId : AgentId) (t : Thread) : Bool :=
  db.threads.rows.any fun other =>
    other.orgId = t.orgId ∧ other.id ≠ t.id ∧ other.status = .opened ∧ other.claimedBy.any (· ≠ agentId) ∧
      sharesFile t.targetFiles other.targetFiles

/-- The WHERE clause of the claim statement. -/
def claimable (db : Db) (orgId : OrgId) (threadId : ThreadId) (agentId : AgentId) (t : Thread) : Bool :=
  t.id = threadId ∧ t.orgId = orgId ∧ t.claimedBy = none ∧ t.status = .opened ∧
    (t.assignedTo = none ∨ t.assignedTo = some agentId) ∧ ¬ db.heldElsewhere agentId t

def findClaimFileConflict (db : Db) (orgId : OrgId) (threadId : ThreadId) (agentId : AgentId) :
    Option ClaimConflict :=
  match db.getThread orgId threadId with
  | none => none
  | some candidate =>
    let held := db.threads.rows.filter fun t =>
      t.orgId = orgId ∧ t.id ≠ threadId ∧ t.status = .opened ∧ t.claimedBy.any (· ≠ agentId)
    held.findSome? fun other =>
      match candidate.targetFiles.filter fun f => other.targetFiles.contains f with
      | [] => none
      | files => some { threadId := other.id, files }

def handleClaimTask (env : Env) (orgId : OrgId) (threadId : ThreadId) (agentId : AgentId) (db : Db) :
    Db × ClaimResponse :=
  let claimed : Db := { db with
    threads := db.threads.update (db.claimable orgId threadId agentId)
      (.claim agentId env.isoNow) (Thread.claim_id _ _) }
  if db.threads.changes (db.claimable orgId threadId agentId) = 1 then
    (claimed, { success := true, claimedBy := none, assignedTo := none, status := none, conflict := none })
  else
    let thread := claimed.getThread orgId threadId
    (claimed,
      { success := false, claimedBy := orNull (thread.bind (·.claimedBy)), assignedTo := orNull (thread.bind (·.assignedTo))
        status := thread.map (·.status), conflict := claimed.findClaimFileConflict orgId threadId agentId })

/-- `IntrospectionManager.create`, under the foreign keys of the table. -/
def createIntrospection (id : String) (orgId : OrgId) (threadId : ThreadId) (agentId : AgentId) (score : Nat)
    (reasons : List String) (db : Db) : Outcome Unit :=
  if db.registered orgId agentId ∧ (db.getThreadCrossOrg threadId).isSome then
    ({ db with
      introspections := db.introspections ++ [
        { id, orgId, threadId, agentId, score, reasons, status := .pending, response := none, respondedAt := none }] },
      .ok ())
  else (db, .error "FOREIGN KEY constraint failed")

/-- `IntrospectionManager.respond`. -/
def respondIntrospection (env : Env) (orgId : OrgId) (id : String) (response : String) (db : Db) :
    Db × Option IntrospectionRecord :=
  let answered : Db := { db with
    introspections := db.introspections.map fun r =>
      if r.orgId = orgId ∧ r.id = id then
        { r with response := some response, status := .responded, respondedAt := some env.isoNow }
      else r }
  (answered, answered.introspections.find? fun r => r.orgId = orgId ∧ r.id = id)

def handleIntrospectionResponse (env : Env) (orgId : OrgId) (introspectionId : String) (concerned : Bool)
    (reason : String) (db : Db) : Db × Option IntrospectionRecord :=
  let (answered, intro) := db.respondIntrospection env orgId introspectionId reason
  match intro with
  | none => (answered, none)
  | some record =>
    match answered.getThread orgId record.threadId with
    | none => (answered, some record)
    | some thread =>
      if concerned ∧ thread.status.active ∧ record.agentId ∉ thread.respondents then
        (answered.updateThread orgId thread.id (.expect (thread.respondents ++ [record.agentId])) (Thread.expect_id _),
          some record)
      else (answered, some record)

end Db

end Coordinator
