import Coordinator.AgentRegistry
import Coordinator.Library.OwnedRows

namespace Coordinator

inductive ActivityStatus
  | working
  | waiting
  | idle
  | offline
  deriving DecidableEq, Repr

/-- A row of `agent_activity_status`. -/
structure AgentActivity where
  orgId : OrgId
  agentId : AgentId
  activityStatus : ActivityStatus
  currentFile : Option FilePath
  currentThread : Option ThreadId
  lastActivityAt : Stamp
  deriving DecidableEq, Repr

namespace AgentActivity

/-- The key of the row. -/
def isOf (orgId : OrgId) (agentId : AgentId) (r : AgentActivity) : Bool := r.orgId = orgId ∧ r.agentId = agentId

/-- `INSERT ... ON CONFLICT(org_id, agent_id) DO UPDATE`, which sets every other column. -/
def put (row : AgentActivity) (rows : List AgentActivity) : List AgentActivity :=
  upsert (isOf row.orgId row.agentId) row rows

def reportFileActivity (env : Env) (orgId : OrgId) (agentId : AgentId) (filePath : FilePath)
    (rows : List AgentActivity) : List AgentActivity :=
  put { orgId, agentId, activityStatus := .working, currentFile := some filePath, currentThread := none
        lastActivityAt := env.currentTimestamp } rows

def clear (r : AgentActivity) : AgentActivity :=
  { r with activityStatus := .offline, currentFile := none, currentThread := none }

def reportOffline (orgId : OrgId) (agentId : AgentId) (rows : List AgentActivity) : List AgentActivity :=
  rows.map fun r => if r.isOf orgId agentId then r.clear else r

/-- The row a heartbeat writes; an empty text is no file and no thread. -/
def beat (env : Env) (orgId : OrgId) (agentId : AgentId) (currentFile : Option FilePath)
    (currentThread : Option ThreadId) : AgentActivity :=
  { orgId, agentId, currentFile, currentThread, lastActivityAt := env.currentTimestamp
    activityStatus :=
      if (orNull currentFile).isSome then .working else if (orNull currentThread).isSome then .waiting else .idle }

/-- The heartbeat differs from what is stored, or nothing is. -/
def isNews (row : AgentActivity) (rows : List AgentActivity) : Bool :=
  (rows.find? (isOf row.orgId row.agentId)).all fun previous =>
    previous.activityStatus ≠ row.activityStatus ∨ previous.currentFile ≠ row.currentFile ∨
      previous.currentThread ≠ row.currentThread

/-- The time since the last activity, where its stamp reads as a date. -/
def idleFor (env : Env) (minutes : Nat) (r : AgentActivity) : Bool :=
  match r.lastActivityAt with
  | .sqlite seconds => seconds * 1000 + minutes * 60 * 1000 < env.now
  | .iso _ => false

end AgentActivity

namespace Db

def getActivity (env : Env) (orgId : OrgId) (agentId : AgentId) (idleAfterMinutes : Option Nat)
    (rows : List AgentActivity) (db : Db) : AgentActivity :=
  let stub (activityStatus : ActivityStatus) : AgentActivity :=
    { orgId, agentId, activityStatus, currentFile := none, currentThread := none, lastActivityAt := env.isoNow }
  if (db.getAgent orgId agentId).all fun agent => agent.status = .offline then stub .offline
  else
    match rows.find? (AgentActivity.isOf orgId agentId) with
    | none => stub .idle
    | some row =>
      if row.activityStatus = .working ∧ idleAfterMinutes.any (fun minutes => 0 < minutes ∧ row.idleFor env minutes) then
        { row with activityStatus := .idle }
      else row

/-- `AgentActivityTracker.listAll`. -/
def listActivity (env : Env) (orgId : OrgId) (idleAfterMinutes : Option Nat) (rows : List AgentActivity) (db : Db) :
    List AgentActivity :=
  (db.listOnline env orgId).map fun agent => db.getActivity env orgId agent.id idleAfterMinutes rows

end Db

end Coordinator
