import Coordinator.Schema

namespace Coordinator

namespace Db

/-- `FileTracker.log`; ids come from AUTOINCREMENT. -/
def logFile (env : Env) (orgId : OrgId) (agentId : AgentId) (filePath : FilePath) (symbols : Option (List String))
    (db : Db) : Db :=
  { db with
    fileActivity := db.fileActivity ++ [
      { id := (db.fileActivity.map (·.id)).foldl max 0 + 1, orgId, agentId, filePath
        symbolsTouched := match symbols with
          | none => .null
          | some items => .array items
        createdAt := env.currentTimestamp }] }

/-- Who else edited one of these files within the window, as the distinct
(file, agent) pairs of the query; the source keys them by file afterwards. -/
def getFileToAgentsIndex (env : Env) (orgId : OrgId) (filePaths : List FilePath) (excludeAgentId : AgentId)
    (withinMinutes : Nat) (db : Db) : List (FilePath × AgentId) :=
  ((db.fileActivity.filter fun r =>
    r.orgId = orgId ∧ r.filePath ∈ filePaths ∧ r.agentId ≠ excludeAgentId ∧
      (env.minutesAgo withinMinutes).lt r.createdAt).map fun r => (r.filePath, r.agentId)).eraseDups

/-- `WorkingFilesTracker.start`: the upsert of an in-flight claim. -/
def startWorking (env : Env) (orgId : OrgId) (agentId : AgentId) (filePath : FilePath) (ttlMinutes : Nat)
    (db : Db) : Db :=
  let row : WorkingFile := { orgId, agentId, filePath, claimUntil := env.now / 1000 + ttlMinutes * 60 }
  let same (w : WorkingFile) : Bool := w.orgId = orgId ∧ w.agentId = agentId ∧ w.filePath = filePath
  { db with
    workingFiles :=
      if db.workingFiles.any same then db.workingFiles.map fun w => if same w then row else w
      else db.workingFiles ++ [row] }

def stopWorking (orgId : OrgId) (agentId : AgentId) (filePath : FilePath) (db : Db) : Db :=
  { db with
    workingFiles := db.workingFiles.filter fun w =>
      ¬ (w.orgId = orgId ∧ w.agentId = agentId ∧ w.filePath = filePath) }

/-- `WorkingFilesTracker.getIndex`: unexpired in-flight claims of the others. -/
def getWorkingIndex (env : Env) (orgId : OrgId) (filePaths : List FilePath) (excludeAgentId : AgentId) (db : Db) :
    List (FilePath × AgentId) :=
  ((db.workingFiles.filter fun w =>
    w.orgId = orgId ∧ w.filePath ∈ filePaths ∧ w.agentId ≠ excludeAgentId ∧
      env.now / 1000 < w.claimUntil).map fun w => (w.filePath, w.agentId)).eraseDups

end Db

end Coordinator
