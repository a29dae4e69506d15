import Coordinator.Consultation
import Coordinator.FileTracking

namespace Coordinator

structure ScoreParams where
  orgId : OrgId
  agentId : AgentId
  targetModules : List ModuleId
  targetFiles : List FilePath
  dependsOnFiles : Option (List FilePath)
  targetSymbols : Option (List String)
  deriving DecidableEq, Repr

structure ImpactScore where
  agentId : AgentId
  agentName : String
  score : Nat
  reasons : List String
  reason : String
  deriving DecidableEq, Repr

structure CategorizedImpact where
  concerned : List ImpactScore
  grayZone : List ImpactScore
  pass : List ImpactScore
  deriving DecidableEq, Repr

/-- A layer that fires raises the score and pushes its reason in one go, so a
scoring pass is the list of what fired, in order. -/
structure Finding where
  score : Nat
  reason : String
  deriving DecidableEq, Repr

def layer0WindowMinutes : Nat := 30

def fileActivityWindowMinutes : Nat := 60

/-- `list.join(sep)`. -/
def joinWith (sep : String) (items : List String) : String := String.intercalate sep items

/-- `list.join(", ")`. -/
def commaList (items : List String) : String := joinWith ", " items

/-- The first eight characters of an id. -/
def shortId (id : String) : String := String.ofList (id.toList.take 8)

/-- `(count / total).toFixed(2)`, on the exact quotient. -/
def toFixed2 (count total : Nat) : String :=
  let hundredths := (200 * count + total) / (2 * total)
  let cents := hundredths % 100
  s!"{hundredths / 100}.{cents / 10}{cents % 10}"

structure CochangeCandidate where
  partner : FilePath
  score : Nat
  count : Nat
  total : Nat
  deriving DecidableEq, Repr

namespace Db

/-- Newest non-null `symbols_touched` per (agent, file), keyed by `file|agent`. -/
def collectSymbolsTouched (db : Db) (orgId : OrgId) (files : List FilePath) : List (String × List String) :=
  let rows := db.fileActivity.filter fun r => r.orgId = orgId ∧ r.filePath ∈ files ∧ r.symbolsTouched ≠ .null
  let newest := rows.filter fun r =>
    rows.all fun other => other.agentId ≠ r.agentId ∨ other.filePath ≠ r.filePath ∨ other.id ≤ r.id
  newest.filterMap fun r =>
    match r.symbolsTouched with
    | .array items => some (s!"{r.filePath}|{r.agentId}", items)
    | _ => none

/-- `git_cochange` rows of one target file that pass a threshold. The ratio
`count / max(total, 1)` is compared with 1/2 and 1/5. -/
def layer4Candidates (db : Db) (orgId : OrgId) (targetFile : FilePath) : List CochangeCandidate :=
  let rows := db.gitCochange.filter fun r => r.orgId = orgId ∧ (r.fileA = targetFile ∨ r.fileB = targetFile)
  rows.filterMap fun r =>
    let partner := if r.fileA = targetFile then r.fileB else r.fileA
    let total := max r.totalCommits 1
    if total < 2 * r.count then some { partner, score := 60, count := r.count, total }
    else if total < 5 * r.count then some { partner, score := 40, count := r.count, total }
    else none

/-- The `file|agent` keys of recent edits of a partner file, by anybody. -/
def layer4PartnerActivity (env : Env) (orgId : OrgId) (targetFiles : List FilePath) (db : Db) : List String :=
  let partners := (targetFiles.flatMap (db.layer4Candidates orgId)).map (·.partner)
  (db.fileActivity.filter fun r =>
    r.orgId = orgId ∧ r.filePath ∈ partners ∧ (env.minutesAgo 60).lt r.createdAt).map
      fun r => s!"{r.filePath}|{r.agentId}"

/-- Open, resolving and recently resolved threads, in the order they are read. -/
def announcedThreads (env : Env) (orgId : OrgId) (windowMinutes : Nat) (runId : Option String) (db : Db) :
    List Thread :=
  db.listThreads env orgId { status := some .opened, sinceMinutes := none, runId } ++
    db.listThreads env orgId { status := some .resolving, sinceMinutes := none, runId } ++
    db.listThreads env orgId { status := some .resolved, sinceMinutes := some windowMinutes, runId }

/-- Layer 0: what the other agent has announced in one of its threads. -/
def layer0 (params : ScoreParams) (thread : Thread) : List Finding :=
  let fileOverlap := params.targetFiles.filter fun f => thread.targetFiles.contains f
  let depOverlap := (params.dependsOnFiles.getD []).filter fun f => thread.targetFiles.contains f
  let reverseDepOverlap := params.targetFiles.filter fun f => thread.dependsOnFiles.contains f
  let tag := s!"(thread {shortId thread.id})"
  (if fileOverlap.isEmpty then [] else
    [{ score := 100, reason := s!"announced same file: {commaList fileOverlap} {tag}" }]) ++
  (if depOverlap.isEmpty then [] else
    [{ score := 80, reason := s!"modifies my dependency: {commaList depOverlap} {tag}" }]) ++
  (if reverseDepOverlap.isEmpty then [] else
    [{ score := 80, reason := s!"they depend on my target: {commaList reverseDepOverlap} {tag}" }])

/-- The reason of a recent same-file edit, annotated when both sides declared
symbols and they are disjoint. -/
def sameFileReason (params : ScoreParams) (symbols : List (String × List String)) (targetFile : FilePath)
    (agentId : AgentId) : String :=
  let mine := (params.targetSymbols.getD []).eraseDups
  let theirs := ((symbols.reverse.lookup s!"{targetFile}|{agentId}").getD []).eraseDups
  if mine ≠ [] ∧ theirs ≠ [] ∧ mine.all fun s => s ∉ theirs then
    let you := joinWith "," mine
    let them := joinWith "," theirs
    s!"same file: {targetFile}; disjoint symbols: you=[{you}], them=[{them}] — verify shared module state"
  else s!"same file (recent): {targetFile}"

/-- Layer 1: a target file recently edited, or in flight, by the other agent. -/
def layer1 (params : ScoreParams) (fileToAgents inFlight : List (FilePath × AgentId))
    (symbols : List (String × List String)) (agentId : AgentId) (targetFile : FilePath) : List Finding :=
  (if (targetFile, agentId) ∈ fileToAgents then
    [{ score := 100, reason := sameFileReason params symbols targetFile agentId }] else []) ++
  (if (targetFile, agentId) ∈ inFlight then
    [{ score := 100, reason := s!"same file (in flight): {targetFile}" }] else [])

/-- Layer 2: a dependency recently edited by the other agent. -/
def layer2 (fileToAgents : List (FilePath × AgentId)) (agentId : AgentId) (depFile : FilePath) : List Finding :=
  if (depFile, agentId) ∈ fileToAgents then [{ score := 80, reason := s!"depends on: {depFile}" }] else []

/-- Layer 3: module overlap. -/
def layer3 (params : ScoreParams) (agent : Agent) : List Finding :=
  let overlapping := (safeJsonParse agent.modules []).filter fun am => params.targetModules.any fun tm => moduleOverlap am tm
  if overlapping.isEmpty then [] else [{ score := 30, reason := s!"module overlap: {commaList overlapping}" }]

/-- Layer 4: a co-change partner recently edited by the other agent. -/
def layer4 (partnerActivity : List String) (candidates : List CochangeCandidate) (agentId : AgentId)
    (targetFile : FilePath) : List Finding :=
  candidates.filterMap fun c =>
    if s!"{c.partner}|{agentId}" ∈ partnerActivity then
      some { score := c.score, reason := s!"co-change: {targetFile} ↔ {c.partner} (ratio {toFixed2 c.count c.total})" }
    else none

/-- Everything that fires for one online agent, in the order of the source. -/
def findings (env : Env) (params : ScoreParams) (db : Db) (agent : Agent) : List Finding :=
  let filesToIndex := params.targetFiles ++ params.dependsOnFiles.getD []
  let fileToAgents := db.getFileToAgentsIndex env params.orgId filesToIndex params.agentId fileActivityWindowMinutes
  let inFlight := db.getWorkingIndex env params.orgId filesToIndex params.agentId
  let symbols := db.collectSymbolsTouched params.orgId params.targetFiles
  let partnerActivity := db.layer4PartnerActivity env params.orgId params.targetFiles
  let agentThreads := (db.announcedThreads env params.orgId layer0WindowMinutes none).filter fun t => t.initiatorId = agent.id
  agentThreads.flatMap (layer0 params) ++
    params.targetFiles.flatMap (layer1 params fileToAgents inFlight symbols agent.id) ++
    (params.dependsOnFiles.getD []).flatMap (layer2 fileToAgents agent.id) ++
    layer3 params agent ++
    params.targetFiles.flatMap fun f => layer4 partnerActivity (db.layer4Candidates params.orgId f) agent.id f

def scoreAgent (env : Env) (params : ScoreParams) (db : Db) (agent : Agent) : ImpactScore :=
  let fired := db.findings env params agent
  let reasons := fired.map (·.reason)
  { agentId := agent.id, agentName := agent.name, score := fired.foldl (fun best f => max best f.score) 0
    reasons, reason := (orNull reasons.head?).getD "no link detected" }

/-- The peers the scorer and the announce flow look at. -/
def otherOnline (env : Env) (orgId : OrgId) (agentId : AgentId) (db : Db) : List Agent :=
  (db.listOnline env orgId).filter fun a => a.id ≠ agentId

def score (env : Env) (params : ScoreParams) (db : Db) : List ImpactScore :=
  (db.otherOnline env params.orgId params.agentId).map (db.scoreAgent env params)

def categorize (env : Env) (params : ScoreParams) (db : Db) : CategorizedImpact :=
  let scores := db.score env params
  { concerned := scores.filter fun s => 90 ≤ s.score
    grayZone := scores.filter fun s => 30 ≤ s.score ∧ s.score < 90
    pass := scores.filter fun s => s.score < 30 }

end Db

end Coordinator
