import Coordinator.ImpactScorer
import Coordinator.RestHandlers

namespace Coordinator

structure PlanChecks where
  mentionsFiles : Bool
  concreteApproach : Bool
  sufficientDetail : Bool
  deriving DecidableEq, Repr

inductive PlanMode
  | withPlan
  | discovery
  deriving DecidableEq, Repr

structure PlanQualityResult where
  mode : PlanMode
  score : Nat
  checks : PlanChecks
  originalPlan : Option String
  deriving DecidableEq, Repr

/-- The characters of `\s` and of `trim()`. -/
def isJsSpace (c : Char) : Bool :=
  c.val ∈ [0x9, 0xa, 0xb, 0xc, 0xd, 0x20, 0xa0, 0x1680, 0x2028, 0x2029, 0x202f, 0x205f, 0x3000, 0xfeff] ||
    (0x2000 ≤ c.val && c.val ≤ 0x200a)

/-- The characters of `\w`. -/
def isWordChar (c : Char) : Bool := c.isAlphanum || c = '_'

def trim (text : List Char) : List Char :=
  ((text.dropWhile isJsSpace).reverse.dropWhile isJsSpace).reverse

/-- `/\w+\/\w+|\.\w{2,4}\b/`. A run of word characters after a dot ends at a
boundary only where it is longest. -/
def mentionsFiles : List Char → Bool
  | [] => false
  | c :: rest =>
    (isWordChar c && match rest with
      | '/' :: d :: _ => isWordChar d
      | _ => false) ||
    (c = '.' && (2 ≤ (rest.takeWhile isWordChar).length && (rest.takeWhile isWordChar).length ≤ 4)) ||
    mentionsFiles rest

def concreteStems : List String :=
  ["ajout", "cré", "cree", "creat", "add", "split", "extract", "replac", "remplac", "implémen", "implement",
    "supprim", "delet", "remov", "migr", "wrap"]

def foldCase (c : Char) : Char := if c = 'É' then 'é' else c.toLower

/-- `/\b(…)/i`: a stem at a place not preceded by a word character. -/
def concreteApproach (afterWord : Bool) : List Char → Bool
  | [] => false
  | c :: rest =>
    (!afterWord && concreteStems.any fun stem => stem.toList.isPrefixOf ((c :: rest).map foldCase)) ||
      concreteApproach (isWordChar c) rest

/-- `trimmed.split(/\s+/).length`, for a text with no blank at either end. -/
def wordCount (afterSpace : Bool) : List Char → Nat
  | [] => 0
  | c :: rest => (if afterSpace && !isJsSpace c then 1 else 0) + wordCount (isJsSpace c) rest

def assessPlanQuality (plan : Option String) : PlanQualityResult :=
  match trim ((plan.getD "").toList) with
  | [] => { mode := .discovery, score := 0, checks := ⟨false, false, false⟩, originalPlan := none }
  | trimmed =>
    let checks : PlanChecks :=
      { mentionsFiles := mentionsFiles trimmed, concreteApproach := concreteApproach false trimmed
        sufficientDetail := 20 < wordCount true trimmed }
    let score := [checks.mentionsFiles, checks.concreteApproach, checks.sufficientDetail].countP id
    { mode := if 2 ≤ score then .withPlan else .discovery, score, checks, originalPlan := some (String.ofList trimmed) }

def planDowngradeReason (pq : PlanQualityResult) : String :=
  let flags := (if pq.checks.mentionsFiles then [] else ["no files"]) ++
    (if pq.checks.concreteApproach then [] else ["vague approach"]) ++
    (if pq.checks.sufficientDetail then [] else ["too short"])
  let listed := joinWith " " flags
  String.ofList (trim (s!"plan downgraded: score {pq.score}/3 — {listed}").toList)

/-- The layer a firing is filed under: the first reason that names one. -/
def inferLayerFromReasons : List String → String
  | [] => "L1"
  | r :: rest =>
    if includes r "disjoint symbols" then "L0.5"
    else if includes r "announced same file" || includes r "modifies my dependency" ||
      includes r "they depend on my target" then "L0"
    else if includes r "same file (in flight)" then "L1"
    else if includes r "same file" then "L1"
    else if includes r "co-change" then "L4"
    else if includes r "depends on" then "L2"
    else if includes r "module overlap" then "L3"
    else inferLayerFromReasons rest

structure CommonFlowParams where
  orgId : OrgId
  agentId : AgentId
  subject : String
  plan : Option String
  targetModules : List ModuleId
  targetFiles : List FilePath
  dependsOnFiles : Option (List FilePath)
  exportsAffected : Option (List FilePath)
  keepOpen : Bool
  targetSymbols : Option (List String)
  deriving DecidableEq, Repr

structure CommonFlowResult where
  updated : Thread
  categorized : CategorizedImpact
  respondents : List AgentId
  planQuality : PlanQualityResult
  planDowngradeReason : Option String
  deriving DecidableEq, Repr

/-- The request both transports read, after path normalisation. -/
structure AnnounceBody where
  agentId : AgentId
  subject : String
  plan : Option String
  targetModules : List ModuleId
  targetFiles : List FilePath
  dependsOnFiles : Option (List FilePath)
  exportsAffected : Option (List FilePath)
  keepOpen : Bool
  assignedTo : Option AgentId
  targetSymbols : Option (List String)
  runId : Option String
  deriving DecidableEq, Repr

def AnnounceBody.announceParams (body : AnnounceBody) : AnnounceParams :=
  { agentId := body.agentId, subject := body.subject, plan := body.plan, targetModules := body.targetModules
    targetFiles := body.targetFiles, dependsOnFiles := body.dependsOnFiles, exportsAffected := body.exportsAffected
    keepOpen := body.keepOpen, assignedTo := body.assignedTo, runId := body.runId }

def AnnounceBody.flowParams (body : AnnounceBody) (orgId : OrgId) : CommonFlowParams :=
  { orgId, agentId := body.agentId, subject := body.subject, plan := body.plan, targetModules := body.targetModules
    targetFiles := body.targetFiles, dependsOnFiles := body.dependsOnFiles, exportsAffected := body.exportsAffected
    keepOpen := body.keepOpen, targetSymbols := body.targetSymbols }

def CommonFlowParams.scoreParams (params : CommonFlowParams) : ScoreParams :=
  { orgId := params.orgId, agentId := params.agentId, targetModules := params.targetModules
    targetFiles := params.targetFiles, dependsOnFiles := params.dependsOnFiles, targetSymbols := params.targetSymbols }

namespace Db

/-- One introspection request per gray-zone agent, until one is refused. -/
def createIntrospections (env : Env) (orgId : OrgId) (threadId : ThreadId) : List ImpactScore → Nat → Db → Outcome Unit
  | [], _, db => (db, .ok ())
  | s :: rest, n, db =>
    match db.createIntrospection (env.uuid n) orgId threadId s.agentId s.score s.reasons with
    | (created, .ok ()) => createIntrospections env orgId threadId rest (n + 1) created
    | (failed, .error e) => (failed, .error e)

/-- Steps 1 and 2 of the flow up to the override: the announcer is alive, the
peers are scored, the firings logged and the respondents replaced. -/
def overrideRespondents (env : Env) (threadId : ThreadId) (params : CommonFlowParams) (db : Db) :
    Db × CategorizedImpact :=
  let alive := db.heartbeat env params.orgId params.agentId
  let categorized := alive.categorize env params.scoreParams
  let logged : Db := { alive with
    layerFirings := alive.layerFirings ++ (categorized.concerned ++ categorized.grayZone).map fun s =>
      -- the statement names neither `org_id` nor `fired_at`, so both take their column defaults
      { orgId := defaultOrg, threadId, layer := inferLayerFromReasons s.reasons, score := s.score
        agentId := s.agentId, firedAt := env.currentTimestamp } }
  (logged.updateThread params.orgId threadId (.expect (categorized.concerned.map (·.agentId))) (Thread.expect_id _),
    categorized)

/-- Steps 4 to 6: the introspection requests, then the row as it stands now. -/
def finishFlow (env : Env) (threadId : ThreadId) (params : CommonFlowParams) (categorized : CategorizedImpact)
    (db : Db) : Outcome CommonFlowResult :=
  let planQuality := assessPlanQuality params.plan
  match db.createIntrospections env params.orgId threadId categorized.grayZone 0 with
  | (failed, .error e) => (failed, .error e)
  | (asked, .ok ()) =>
    match asked.getThread params.orgId threadId with
    | none => (asked, .error "Cannot read properties of null (reading 'expected_respondents')")
    | some updated => (asked, .ok
        { updated, categorized, respondents := updated.respondents, planQuality
          planDowngradeReason :=
            if orNull params.plan ≠ none ∧ planQuality.mode = .discovery then some (planDowngradeReason planQuality)
            else none })

def runCommonAnnounceFlow (env : Env) (threadId : ThreadId) (params : CommonFlowParams) (db : Db) :
    Outcome CommonFlowResult :=
  let (overridden, categorized) := db.overrideRespondents env threadId params
  let otherOnlineCount := (overridden.otherOnline env params.orgId params.agentId).length
  let shouldAutoResolve := categorized.concerned.isEmpty && otherOnlineCount = 0
  match overridden.getThread params.orgId threadId with
  | some currentThread =>
    if shouldAutoResolve ∧ currentThread.status = .opened ∧ ¬ params.keepOpen then
      let resolvedAt := env.isoNow
      ((overridden.updateThread params.orgId threadId (.resolve resolvedAt)
        (Thread.resolve_id resolvedAt)).emitResolution env threadId .autoResolved none none).finishFlow
          env threadId params categorized
    else overridden.finishFlow env threadId params categorized
  | none =>
    if shouldAutoResolve then (overridden, .error "Cannot read properties of null (reading 'status')")
    else overridden.finishFlow env threadId params categorized

/-- `announceWork` followed by the shared flow, as both transports run them. -/
def announce (env flowEnv : Env) (orgId : OrgId) (body : AnnounceBody) (db : Db) : Outcome CommonFlowResult :=
  match db.announceWork env orgId body.announceParams with
  | (failed, .error e) => (failed, .error e)
  | (announced, .ok thread) => announced.runCommonAnnounceFlow flowEnv thread.id (body.flowParams orgId)

end Db

end Coordinator
