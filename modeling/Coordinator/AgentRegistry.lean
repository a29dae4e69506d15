import Mathlib.Data.List.Sort
import Coordinator.Schema

namespace Coordinator

def defaultOnlineTtlSeconds : Nat := 900

/-- `Number.parseInt(raw, 10)`: blanks, an optional sign, then the longest
run of digits; NaN when there is no digit. -/
def parseInt (raw : String) : Option Int :=
  let body := raw.toList.dropWhile Char.isWhitespace
  let (negative, digits) := match body with
    | '-' :: rest => (true, rest)
    | '+' :: rest => (false, rest)
    | rest => (false, rest)
  match digits.takeWhile Char.isDigit with
  | [] => none
  | found =>
    let value : Nat := found.foldl (fun n c => n * 10 + (c.toNat - '0'.toNat)) 0
    some (if negative then -(value : Int) else value)

def onlineTtlSeconds (env : Env) : Nat :=
  match env.agentOnlineTtlSeconds with
  | none => defaultOnlineTtlSeconds
  | some raw =>
    match parseInt raw with
    | some n => if 0 < n then n.toNat else defaultOnlineTtlSeconds
    | none => defaultOnlineTtlSeconds

namespace Agent

def rejoin (name : String) (modules : List ModuleId) (seenAt : Stamp) (a : Agent) : Agent :=
  { a with name, modules := .array modules, status := .online, lastSeenAt := seenAt }

def mark (status : AgentConnectionStatus) (seenAt : Stamp) (a : Agent) : Agent :=
  { a with status, lastSeenAt := seenAt }

@[simp] theorem rejoin_key (name : String) (modules : List ModuleId) (seenAt : Stamp) (a : Agent) :
    (a.rejoin name modules seenAt).key = a.key := rfl

@[simp] theorem mark_key (status : AgentConnectionStatus) (seenAt : Stamp) (a : Agent) :
    (a.mark status seenAt).key = a.key := rfl

end Agent

namespace Db

def getAgent (db : Db) (orgId : OrgId) (agentId : AgentId) : Option Agent := db.agents.find (orgId, agentId)

/-- The foreign key `(org_id, agent_id) REFERENCES agents(org_id, id)`. -/
def registered (db : Db) (orgId : OrgId) (agentId : AgentId) : Bool := (db.getAgent orgId agentId).isSome

def register (env : Env) (orgId : OrgId) (agentId : AgentId) (name : String) (modules : List ModuleId)
    (db : Db) : Db :=
  let row : Agent :=
    { id := agentId, orgId, name, modules := .array modules, status := .online,
      registeredAt := env.currentTimestamp, lastSeenAt := env.currentTimestamp }
  match db.agents.insert row with
  | some agents => { db with agents }
  | none =>
    { db with
      agents := db.agents.update (fun a => a.orgId = orgId ∧ a.id = agentId)
        (.rejoin name modules env.currentTimestamp) (Agent.rejoin_key _ _ _) }

def setStatus (status : AgentConnectionStatus) (env : Env) (orgId : OrgId) (agentId : AgentId) (db : Db) : Db :=
  { db with
    agents := db.agents.update (fun a => a.orgId = orgId ∧ a.id = agentId)
      (.mark status env.currentTimestamp) (Agent.mark_key _ _) }

def setOnline : Env → OrgId → AgentId → Db → Db := setStatus .online

def setOffline : Env → OrgId → AgentId → Db → Db := setStatus .offline

def heartbeat : Env → OrgId → AgentId → Db → Db := setStatus .online

/-- `strftime('%s', 'now') - strftime('%s', last_seen_at)`. -/
def silence (env : Env) (a : Agent) : Int := (env.now / 1000 : Nat) - (a.lastSeenAt.seconds : Int)

def listOnline (env : Env) (orgId : OrgId) (db : Db) : List Agent :=
  (db.agents.rows.filter fun a =>
    a.orgId = orgId ∧ a.status = .online ∧ silence env a ≤ onlineTtlSeconds env).insertionSort
      fun a b => a.name ≤ b.name

def isStale (env : Env) (orgId : OrgId) (agentId : AgentId) (db : Db) : Bool :=
  match db.getAgent orgId agentId with
  | none => true
  | some a => silence env a > onlineTtlSeconds env

theorem mem_listOnline {env : Env} {orgId : OrgId} {db : Db} {a : Agent} :
    a ∈ db.listOnline env orgId ↔
      a ∈ db.agents.rows ∧ a.orgId = orgId ∧ a.status = .online ∧ silence env a ≤ onlineTtlSeconds env := by
  simp [listOnline]

@[simp] theorem register_threads (env : Env) (orgId : OrgId) (agentId : AgentId) (name : String)
    (modules : List ModuleId) (db : Db) : (db.register env orgId agentId name modules).threads = db.threads := by
  unfold register
  simp only
  split <;> rfl

end Db

end Coordinator
