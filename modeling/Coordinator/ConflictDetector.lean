import Coordinator.DependencyMap
import Coordinator.ImpactScorer

namespace Coordinator

inductive ConflictType
  | moduleOverlap
  | apiContract
  | fileOverlap
  | dependencyChain
  deriving DecidableEq, Repr

inductive Severity
  | error
  | warning
  | info
  deriving DecidableEq, Repr

structure ConflictReport where
  type : ConflictType
  severity : Severity
  agentId : AgentId
  agentName : String
  description : String
  details : String
  deriving DecidableEq, Repr

structure DetectParams where
  orgId : OrgId
  agentId : AgentId
  targetModules : List ModuleId
  targetFiles : List FilePath
  runId : Option String
  deriving DecidableEq, Repr

def resolvedThreadConflictWindowMinutes : Nat := 30

/-- The predicate copied from the claim statement: open, claimed, by someone else. -/
def heldByAnother (agentId : AgentId) (thread : Thread) : Bool :=
  thread.status = .opened ∧ thread.claimedBy ≠ none ∧ thread.claimedBy ≠ some agentId

def moduleOverlapReports (params : DetectParams) (thread : Thread) : List ConflictReport :=
  match params.targetModules.filter fun m => thread.targetModules.contains m with
  | [] => []
  | overlap =>
    [{ type := .moduleOverlap, severity := .warning, agentId := thread.initiatorId, agentName := thread.subject
       description := s!"Module overlap on: {commaList overlap}"
       details := s!"Thread \"{thread.subject}\" ({thread.initiatorId}) targets same modules" }]

def fileOverlapReports (params : DetectParams) (thread : Thread) : List ConflictReport :=
  let holder := thread.claimedBy.getD ""
  match params.targetFiles.filter fun f => thread.targetFiles.contains f with
  | [] => []
  | overlap =>
    [{ type := .fileOverlap, severity := if heldByAnother params.agentId thread then .error else .warning
       agentId := thread.initiatorId, agentName := thread.subject
       description := s!"File overlap on: {commaList overlap}"
       details :=
        if heldByAnother params.agentId thread then
          s!"Thread \"{thread.subject}\" is held by {holder} and targets the same files. claim_task would refuse this overlap."
        else s!"Thread \"{thread.subject}\" ({thread.initiatorId}) targets same files" }]

/-- Both directions of the dependency chain, for one target module. -/
def dependencyChainReports (thread : Thread) (targetModule : ModuleId) (deps dependents : List ModuleId) :
    List ConflictReport :=
  (deps.filter fun dep => thread.targetModules.contains dep).map (fun dep =>
    { type := .dependencyChain, severity := .info, agentId := thread.initiatorId, agentName := thread.subject
      description := s!"{targetModule} depends on {dep} which is being modified"
      details := s!"Thread \"{thread.subject}\" modifies {dep}, a dependency of {targetModule}" }) ++
  (dependents.filter fun dependent => thread.targetModules.contains dependent).map fun dependent =>
    { type := .dependencyChain, severity := .info, agentId := thread.initiatorId, agentName := thread.subject
      description := s!"{dependent} depends on {targetModule} which you are modifying"
      details := s!"Thread \"{thread.subject}\" works on {dependent}, which depends on {targetModule}" }

/-- Step 4: recent edits of a target file by agents not reported yet, one (file, agent) pair at a time. -/
def hotFileReports : List (FilePath × AgentId) → List ConflictReport → List ConflictReport
  | [], conflicts => conflicts
  | (targetFile, otherAgent) :: rest, conflicts =>
    if conflicts.any fun c => c.agentId = otherAgent ∧ c.type = .fileOverlap then hotFileReports rest conflicts
    else hotFileReports rest (conflicts ++ [
      { type := .fileOverlap, severity := .warning, agentId := otherAgent, agentName := otherAgent
        description := s!"Hot file: {targetFile} recently edited by {otherAgent}"
        details := s!"File activity shows {targetFile} was recently modified by {otherAgent}" }])

namespace Db

/-- The dependencies and dependents of a target module; none when it is not in the map. -/
def moduleNeighbours (db : Db) (orgId : OrgId) (targetModule : ModuleId) : List ModuleId × List ModuleId :=
  match db.getModuleInfo orgId targetModule with
  | none => ([], [])
  | some info =>
    let radius := db.getBlastRadius orgId targetModule
    (info.dependsOn, radius.directDependents ++ radius.indirectDependents)

/-- What one thread of another initiator contributes. -/
def threadReports (db : Db) (params : DetectParams) (thread : Thread) : List ConflictReport :=
  moduleOverlapReports params thread ++ fileOverlapReports params thread ++
    params.targetModules.flatMap fun m =>
      let (deps, dependents) := db.moduleNeighbours params.orgId m
      dependencyChainReports thread m deps dependents

def detect (env : Env) (params : DetectParams) (db : Db) : List ConflictReport :=
  let activeThreads := db.announcedThreads env params.orgId resolvedThreadConflictWindowMinutes params.runId
  let conflicts := (activeThreads.filter fun t => t.initiatorId ≠ params.agentId).flatMap (db.threadReports params)
  let fileToAgents := db.getFileToAgentsIndex env params.orgId params.targetFiles params.agentId 60
  let recentEdits := params.targetFiles.flatMap fun f => fileToAgents.filter fun pair => pair.1 = f
  hotFileReports recentEdits conflicts

end Db

end Coordinator
