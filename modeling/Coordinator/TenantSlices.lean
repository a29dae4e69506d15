import Coordinator.Library.OwnedRows
import Coordinator.TenantWorld
import Coordinator.ThreadEffects

namespace Coordinator

/-- The id of a row replaced by its rank among the ids of some rows. -/
def FileActivity.ranked (rows : List FileActivity) (r : FileActivity) : FileActivity :=
  { r with id := rows.countP fun other => other.id ≤ r.id }

namespace Db

/-- The messages whose thread is of the org. -/
def messagesOf (A : OrgId) (db : Db) : List ThreadMessage := db.messages.filter (db.joined fun t => t.orgId = A)

/-- The file activity of the org. All orgs draw on one sequence of ids, of which only the order is ever read. -/
def filesOf (A : OrgId) (db : Db) : List FileActivity :=
  let mine := ownedBy FileActivity.orgId A db.fileActivity
  mine.map (FileActivity.ranked mine)

/-- Two databases that differ in the rows of other orgs only; the layer
firings are compared where statistics are asked for. -/
structure Alike (A : OrgId) (stats : Prop) (db db' : Db) : Prop where
  agents : ownedBy Agent.orgId A db.agents.rows = ownedBy Agent.orgId A db'.agents.rows
  threads : ownedBy Thread.orgId A db.threads.rows = ownedBy Thread.orgId A db'.threads.rows
  messages : db.messagesOf A = db'.messagesOf A
  introspections :
    ownedBy IntrospectionRecord.orgId A db.introspections = ownedBy IntrospectionRecord.orgId A db'.introspections
  files : db.filesOf A = db'.filesOf A
  working : ownedBy WorkingFile.orgId A db.workingFiles = ownedBy WorkingFile.orgId A db'.workingFiles
  cochange : ownedBy GitCochange.orgId A db.gitCochange = ownedBy GitCochange.orgId A db'.gitCochange
  modules : ownedBy ModuleInfo.orgId A db.dependencyMap = ownedBy ModuleInfo.orgId A db'.dependencyMap
  resolutions : ownedBy ResolutionEvent.orgId A db.resolutions = ownedBy ResolutionEvent.orgId A db'.resolutions
  firings : stats → ownedBy LayerFiring.orgId A db.layerFirings = ownedBy LayerFiring.orgId A db'.layerFirings

section Files
variable {A : OrgId} {rows : List FileActivity} {r other : FileActivity}

/-- Ranks order the rows as their ids do. -/
theorem ranked_le (member : other ∈ rows) :
    (other.ranked rows).id ≤ (r.ranked rows).id ↔ other.id ≤ r.id := by
  constructor
  · intro ranks
    by_contra above
    rw [Nat.not_le] at above
    have below : rows.filter (fun x => x.id ≤ r.id) = (rows.filter fun x => x.id ≤ other.id).filter fun x => x.id ≤ r.id := by
      rw [List.filter_filter]
      refine List.filter_congr fun x _ => ?_
      by_cases low : x.id ≤ r.id
      · simp [low, show x.id ≤ other.id by omega]
      · simp [low]
    have fewer : (rows.filter fun x => x.id ≤ r.id).length < (rows.filter fun x => x.id ≤ other.id).length := by
      rw [below, List.length_filter_lt_length_iff_exists]
      exact ⟨other, by simp [member], by simpa using above⟩
    simp only [FileActivity.ranked, List.countP_eq_length_filter] at ranks
    omega
  · intro ids
    refine List.countP_mono_left fun x _ low => ?_
    simp only [decide_eq_true_eq] at low ⊢
    omega

/-- A read that never looks at an id may read the ranked rows instead. -/
theorem filesOf_filter_map {β : Type} {db : Db} {p : FileActivity → Bool} {g : FileActivity → β}
    (blindTest : ∀ r n, p { r with id := n } = p r) (blindRead : ∀ r n, g { r with id := n } = g r) :
    ((ownedBy FileActivity.orgId A db.fileActivity).filter p).map g = ((db.filesOf A).filter p).map g := by
  simp only [filesOf, List.filter_map, List.map_map]
  have sameTest : p ∘ FileActivity.ranked (ownedBy FileActivity.orgId A db.fileActivity) = p := funext fun r => blindTest r _
  have sameRead : g ∘ FileActivity.ranked (ownedBy FileActivity.orgId A db.fileActivity) = g := funext fun r => blindRead r _
  rw [sameTest, sameRead]

/-- The newest entry of each (agent, file), with its symbols. -/
def newestSymbols (rows : List FileActivity) : List (String × List String) :=
  (rows.filter fun r => rows.all fun other =>
    other.agentId ≠ r.agentId ∨ other.filePath ≠ r.filePath ∨ other.id ≤ r.id).filterMap fun r =>
      match r.symbolsTouched with
      | .array items => some (s!"{r.filePath}|{r.agentId}", items)
      | _ => none

theorem collectSymbolsTouched_eq (db : Db) (A : OrgId) (files : List FilePath) :
    db.collectSymbolsTouched A files =
      newestSymbols ((db.filesOf A).filter fun r => r.filePath ∈ files ∧ r.symbolsTouched ≠ .null) := by
  let mine := ownedBy FileActivity.orgId A db.fileActivity
  have listed : (db.filesOf A).filter (fun r => r.filePath ∈ files ∧ r.symbolsTouched ≠ .null) =
      (mine.filter fun r => r.filePath ∈ files ∧ r.symbolsTouched ≠ .null).map (FileActivity.ranked mine) := by
    rw [filesOf, List.filter_map]
    rfl
  rw [collectSymbolsTouched, filter_scoped, listed, newestSymbols, List.filter_map, List.filterMap_map]
  refine congrArg₂ List.filterMap rfl (List.filter_congr fun r _ => ?_)
  simp only [Function.comp_apply, List.all_map]
  -- agents and files are as they were, and the ranks compare as the ids do
  rw [Bool.eq_iff_iff, List.all_eq_true, List.all_eq_true]
  refine forall₂_congr fun other member => ?_
  have ranks := ranked_le (r := r) (List.mem_of_mem_filter member : other ∈ mine)
  simp only [Function.comp_apply, decide_eq_true_eq, ranks]
  rfl

end Files

namespace Alike
variable {A : OrgId} {stats : Prop} {db db' db'' : Db}

theorem refl (db : Db) : Alike A stats db db := ⟨rfl, rfl, rfl, rfl, rfl, rfl, rfl, rfl, rfl, fun _ => rfl⟩

theorem symm (alike : Alike A stats db db') : Alike A stats db' db :=
  ⟨alike.agents.symm, alike.threads.symm, alike.messages.symm, alike.introspections.symm, alike.files.symm,
    alike.working.symm, alike.cochange.symm, alike.modules.symm, alike.resolutions.symm,
    fun asked => (alike.firings asked).symm⟩

theorem trans (alike : Alike A stats db db') (later : Alike A stats db' db'') : Alike A stats db db'' :=
  ⟨alike.agents.trans later.agents, alike.threads.trans later.threads, alike.messages.trans later.messages,
    alike.introspections.trans later.introspections, alike.files.trans later.files, alike.working.trans later.working,
    alike.cochange.trans later.cochange, alike.modules.trans later.modules,
    alike.resolutions.trans later.resolutions, fun asked => (alike.firings asked).trans (later.firings asked)⟩

/-! The org reads the same from both. -/

theorem getThread (alike : Alike A stats db db') (k : ThreadId) : db.getThread A k = db'.getThread A k := by
  simp only [Db.getThread, Table.find_filter_owner, alike.threads]

theorem getAgent (alike : Alike A stats db db') (agentId : AgentId) : db.getAgent A agentId = db'.getAgent A agentId := by
  have mine : ∀ T : Table Agent Agent.key,
      T.find (A, agentId) = (ownedBy Agent.orgId A T.rows).find? fun a => a.id = agentId := by
    intro T
    rw [← find?_scoped, Table.find]
    congr 1
    funext a
    simp [Agent.key]
  rw [Db.getAgent, Db.getAgent, mine, mine, alike.agents]

theorem registered (alike : Alike A stats db db') (agentId : AgentId) :
    db.registered A agentId = db'.registered A agentId := by
  rw [Db.registered, Db.registered, alike.getAgent]

theorem displayName (alike : Alike A stats db db') (agentId : AgentId) :
    db.displayName A agentId = db'.displayName A agentId := by
  rw [Db.displayName, Db.displayName, alike.getAgent]

theorem isStale (alike : Alike A stats db db') (env : Env) (agentId : AgentId) :
    db.isStale env A agentId = db'.isStale env A agentId := by
  rw [Db.isStale, Db.isStale, alike.getAgent]

theorem listOnline (alike : Alike A stats db db') (env : Env) : db.listOnline env A = db'.listOnline env A := by
  simp only [Db.listOnline, filter_scoped, alike.agents]

theorem otherOnline (alike : Alike A stats db db') (env : Env) (agentId : AgentId) :
    db.otherOnline env A agentId = db'.otherOnline env A agentId := by
  rw [Db.otherOnline, Db.otherOnline, alike.listOnline]

theorem listAll (alike : Alike A stats db db') : db.listAll A = db'.listAll A := by
  have rows := alike.agents
  simp only [ownedBy] at rows
  rw [Db.listAll, Db.listAll, rows]

theorem moduleRespondents (alike : Alike A stats db db') (agentId : AgentId) (targetModules : List ModuleId) :
    db.moduleRespondents A agentId targetModules = db'.moduleRespondents A agentId targetModules := by
  have mine : ∀ rows : List Agent, (rows.filter fun a => a.status = .online ∧ a.id ≠ agentId ∧ a.orgId = A) =
      (ownedBy Agent.orgId A rows).filter fun a => a.status = .online ∧ a.id ≠ agentId := by
    intro rows
    rw [← filter_scoped]
    refine List.filter_congr fun a _ => ?_
    simp only [decide_eq_decide]
    tauto
  simp only [Db.moduleRespondents, mine, alike.agents]

theorem listThreads (alike : Alike A stats db db') (env : Env) (filters : ThreadFilters) :
    db.listThreads env A filters = db'.listThreads env A filters := by
  simp only [Db.listThreads, filter_scoped, alike.threads]

theorem announcedThreads (alike : Alike A stats db db') (env : Env) (windowMinutes : Nat) (runId : Option String) :
    db.announcedThreads env A windowMinutes runId = db'.announcedThreads env A windowMinutes runId := by
  simp only [Db.announcedThreads, alike.listThreads]

theorem listing (alike : Alike A stats db db') (env : Env) (filters : ListingFilters) :
    db.listing env A filters = db'.listing env A filters := by
  rw [Db.listing, Db.listing, alike.listThreads]

/-- A read of the file activity of the org that never looks at an id. -/
theorem fileRows (alike : Alike A stats db db') {β : Type} {p : FileActivity → Prop} [DecidablePred p]
    {g : FileActivity → β} (blindTest : ∀ r n, p { r with id := n } = p r) (blindRead : ∀ r n, g { r with id := n } = g r) :
    (db.fileActivity.filter fun r => r.orgId = A ∧ p r).map g =
      (db'.fileActivity.filter fun r => r.orgId = A ∧ p r).map g := by
  have sameTest : ∀ r n, decide (p { r with id := n }) = decide (p r) := by
    intro r n
    rw [decide_eq_decide, blindTest]
  rw [filter_scoped, filter_scoped, filesOf_filter_map sameTest blindRead, alike.files,
    filesOf_filter_map sameTest blindRead]

theorem getFileToAgentsIndex (alike : Alike A stats db db') (env : Env) (filePaths : List FilePath)
    (excludeAgentId : AgentId) (withinMinutes : Nat) :
    db.getFileToAgentsIndex env A filePaths excludeAgentId withinMinutes =
      db'.getFileToAgentsIndex env A filePaths excludeAgentId withinMinutes := by
  exact congrArg List.eraseDups (alike.fileRows (fun _ _ => rfl) (fun _ _ => rfl))

theorem getWorkingIndex (alike : Alike A stats db db') (env : Env) (filePaths : List FilePath)
    (excludeAgentId : AgentId) :
    db.getWorkingIndex env A filePaths excludeAgentId = db'.getWorkingIndex env A filePaths excludeAgentId := by
  simp only [Db.getWorkingIndex, filter_scoped, alike.working]

theorem collectSymbolsTouched (alike : Alike A stats db db') (files : List FilePath) :
    db.collectSymbolsTouched A files = db'.collectSymbolsTouched A files := by
  rw [collectSymbolsTouched_eq, collectSymbolsTouched_eq, alike.files]

theorem layer4Candidates (alike : Alike A stats db db') : db.layer4Candidates A = db'.layer4Candidates A := by
  funext targetFile
  simp only [Db.layer4Candidates, filter_scoped, alike.cochange]

theorem layer4PartnerActivity (alike : Alike A stats db db') (env : Env) (targetFiles : List FilePath) :
    db.layer4PartnerActivity env A targetFiles = db'.layer4PartnerActivity env A targetFiles := by
  simp only [Db.layer4PartnerActivity, alike.layer4Candidates]
  exact alike.fileRows (fun _ _ => rfl) (fun _ _ => rfl)

theorem categorize (alike : Alike A stats db db') (env : Env) {params : ScoreParams} (own : params.orgId = A) :
    db.categorize env params = db'.categorize env params := by
  have scores : db.scoreAgent env params = db'.scoreAgent env params := by
    funext agent
    simp only [scoreAgent, findings, own, alike.getFileToAgentsIndex, alike.getWorkingIndex,
      alike.collectSymbolsTouched, alike.layer4PartnerActivity, alike.announcedThreads, alike.layer4Candidates]
  simp only [Db.categorize, score, own, alike.otherOnline, scores]

theorem getModuleInfo (alike : Alike A stats db db') (moduleId : ModuleId) :
    db.getModuleInfo A moduleId = db'.getModuleInfo A moduleId := by
  simp only [Db.getModuleInfo, find?_scoped, alike.modules]

theorem getMap (alike : Alike A stats db db') : db.getMap A = db'.getMap A := by
  have entries (own : Db) : (own.dependencyMap.filter fun row => row.orgId = A ∧ row.moduleId ≠ "__proto__") =
      (ownedBy ModuleInfo.orgId A own.dependencyMap).filter fun row => row.moduleId ≠ "__proto__" := by
    rw [ownedBy, List.filter_filter]
    refine List.filter_congr fun row _ => ?_
    rw [Bool.decide_and, Bool.and_comm]
  rw [Db.getMap, Db.getMap, entries, entries, alike.modules]

theorem getBlastRadius (alike : Alike A stats db db') (moduleId : ModuleId) :
    db.getBlastRadius A moduleId = db'.getBlastRadius A moduleId := by
  simp only [Db.getBlastRadius, alike.getMap]

theorem detect (alike : Alike A stats db db') (env : Env) {params : DetectParams} (own : params.orgId = A) :
    db.detect env params = db'.detect env params := by
  have neighbours : db.moduleNeighbours A = db'.moduleNeighbours A := by
    funext targetModule
    simp only [moduleNeighbours, alike.getModuleInfo, alike.getBlastRadius]
  have reports : db.threadReports params = db'.threadReports params := by
    funext thread
    simp only [threadReports, own, neighbours]
  simp only [Db.detect, own, alike.announcedThreads, alike.getFileToAgentsIndex, reports]

theorem getHotFiles (alike : Alike A stats db db') (env : Env) (sinceMinutes : Nat) :
    db.getHotFiles env A sinceMinutes = db'.getHotFiles env A sinceMinutes := by
  have paths := alike.fileRows (p := fun r => (env.minutesAgo sinceMinutes).lt r.createdAt) (g := (·.filePath))
    (fun _ _ => rfl) (fun _ _ => rfl)
  have narrowed : ∀ (rows : List FileActivity) (path : FilePath),
      ((rows.filter fun r => r.orgId = A ∧ (env.minutesAgo sinceMinutes).lt r.createdAt).filter
        fun r => r.filePath = path) =
      rows.filter fun r => r.orgId = A ∧ (env.minutesAgo sinceMinutes).lt r.createdAt ∧ r.filePath = path := by
    intro rows path
    rw [List.filter_filter]
    refine List.filter_congr fun r _ => ?_
    rw [Bool.and_comm, ← Bool.decide_and, decide_eq_decide, and_assoc]
  have editors : ∀ path, (db.fileActivity.filter fun r =>
        r.orgId = A ∧ (env.minutesAgo sinceMinutes).lt r.createdAt ∧ r.filePath = path).map (·.agentId) =
      (db'.fileActivity.filter fun r =>
        r.orgId = A ∧ (env.minutesAgo sinceMinutes).lt r.createdAt ∧ r.filePath = path).map (·.agentId) :=
    fun path => alike.fileRows (fun _ _ => rfl) (fun _ _ => rfl)
  simp only [Db.getHotFiles, narrowed, paths, editors]

theorem checkFileConflict (alike : Alike A stats db db') (env : Env) (filePath : FilePath) (agentId : AgentId)
    (withinMinutes : Nat) :
    db.checkFileConflict env A filePath agentId withinMinutes =
      db'.checkFileConflict env A filePath agentId withinMinutes := by
  exact congrArg List.eraseDups (alike.fileRows (fun _ _ => rfl) (fun _ _ => rfl))

theorem getPending (alike : Alike A stats db db') (agentId : AgentId) :
    db.getPending A agentId = db'.getPending A agentId := by
  simp only [Db.getPending, filter_scoped, alike.introspections]

/-! A message is read through its thread. -/

theorem joined (alike : Alike A stats db db') {p : Thread → Bool} (within : ∀ t, p t → t.orgId = A) :
    db.joined p = db'.joined p := by
  funext m
  have mine : ∀ db : Db, db.joined p m = (ownedBy Thread.orgId A db.threads.rows).any fun t => m.threadId = t.id ∧ p t := by
    intro db
    rw [← any_scoped, Db.joined]
    refine congrArg (List.any db.threads.rows) (funext fun t => ?_)
    simp only [decide_eq_decide]
    exact ⟨fun both => ⟨within t both.2, both⟩, fun both => both.2⟩
  rw [mine, mine, alike.threads]

/-- A selection of messages whose thread is of the org. -/
theorem messageRows (alike : Alike A stats db db') {p : ThreadMessage → Bool}
    (within : ∀ m, p m → db.joined (fun t => t.orgId = A) m) : db.messages.filter p = db'.messages.filter p := by
  have mine : ∀ rows : List ThreadMessage,
      rows.filter p = (rows.filter (db.joined fun t => t.orgId = A)).filter p := by
    intro rows
    rw [List.filter_filter]
    refine List.filter_congr fun m _ => ?_
    by_cases holds : p m
    · rw [holds, within m holds]
      rfl
    · simp [holds]
  have rows := alike.messages
  simp only [messagesOf, ← alike.joined fun t own => of_decide_eq_true own] at rows
  rw [mine db.messages, mine db'.messages, rows]

theorem joined_of_getThread {k : ThreadId} {t : Thread} {m : ThreadMessage} (found : db.getThread A k = some t)
    (atThread : m.threadId = k) : db.joined (fun t => t.orgId = A) m := by
  obtain ⟨row, atOrg⟩ := getThread_eq_some.mp found
  obtain ⟨member, atId⟩ := Table.find_eq_some.mp row
  simp only [Db.joined, List.any_eq_true, decide_eq_true_eq]
  exact ⟨t, member, atThread.trans atId.symm, atOrg⟩

theorem getThreadWithMessages (alike : Alike A stats db db') (threadId : ThreadId) :
    db.getThreadWithMessages A threadId = db'.getThreadWithMessages A threadId := by
  have rows := alike.messageRows
    (p := fun m => m.threadId = threadId ∧ db.joined (fun t => t.orgId = A) m) fun m both => (of_decide_eq_true both).2
  have joins := alike.joined (p := fun t => t.orgId = A) fun t own => of_decide_eq_true own
  rw [Db.getThreadWithMessages, Db.getThreadWithMessages, alike.getThread, rows, joins]

theorem getThreadUpdates (alike : Alike A stats db db') (agentId : AgentId) (since : Option Stamp) :
    db.getThreadUpdates A agentId since = db'.getThreadUpdates A agentId since := by
  have joins := alike.joined (p := fun t => t.orgId = A ∧ t.status.active) fun t own => (of_decide_eq_true own).1
  have rows := alike.messageRows
    (p := fun m => db.joined (fun t => t.orgId = A ∧ t.status.active) m ∧ m.agentId ≠ agentId ∧
      since.all fun cursor => ¬ m.createdAt.lt cursor) fun m all => by
        simp only [Db.joined, decide_eq_true_eq, List.any_eq_true] at all ⊢
        obtain ⟨⟨t, member, atThread, atOrg, -⟩, -⟩ := all
        exact ⟨t, member, atThread, atOrg⟩
  rw [Db.getThreadUpdates, Db.getThreadUpdates, rows, joins]

/-- The approvals of a thread of the org. -/
theorem approvals (alike : Alike A stats db db') {k : ThreadId} {t : Thread} (found : db.getThread A k = some t)
    (round : Nat) : db.approvals k round = db'.approvals k round := by
  rw [Db.approvals, Db.approvals, alike.messageRows fun m both => joined_of_getThread found (of_decide_eq_true both).1]

theorem allRespondentsApproved (alike : Alike A stats db db') (k : ThreadId) :
    db.allRespondentsApproved A k = db'.allRespondentsApproved A k := by
  cases found : db.getThread A k with
  | none => rw [Db.allRespondentsApproved, Db.allRespondentsApproved, ← alike.getThread, found]
  | some t =>
    rw [allRespondentsApproved_found found, allRespondentsApproved_found (alike.getThread k ▸ found),
      alike.approvals found]

theorem hadMessages (alike : Alike A stats db db') {k : ThreadId} {t : Thread} (found : db.getThread A k = some t) :
    (db.messages.any fun m => m.threadId = k) = db'.messages.any fun m => m.threadId = k := by
  have chosen : ∀ rows : List ThreadMessage,
      (rows.any fun m => m.threadId = k) = (rows.filter fun m => m.threadId = k).any fun _ => true := by
    intro rows
    simp only [List.any_filter, Bool.and_true]
  rw [chosen, chosen, alike.messageRows fun m here => joined_of_getThread found (of_decide_eq_true here)]

end Alike

end Db

end Coordinator
