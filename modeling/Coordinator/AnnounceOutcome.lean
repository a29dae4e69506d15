import Coordinator.ThreadStep

namespace Coordinator

namespace Db

theorem mem_otherOnline {env : Env} {orgId : OrgId} {agentId : AgentId} {db : Db} {a : Agent} :
    a ∈ db.otherOnline env orgId agentId ↔ a ∈ db.agents.rows ∧ a.orgId = orgId ∧ a.status = .online ∧
      silence env a ≤ onlineTtlSeconds env ∧ a.id ≠ agentId := by
  simp only [otherOnline, List.mem_filter, mem_listOnline, decide_eq_true_eq]
  tauto

theorem mem_setStatus_agents {status : AgentConnectionStatus} {env : Env} {orgId : OrgId} {agentId : AgentId} {db : Db}
    {a : Agent} (other : a.id ≠ agentId) :
    a ∈ (db.setStatus status env orgId agentId).agents.rows ↔ a ∈ db.agents.rows := by
  simp only [setStatus, Table.mem_update, decide_eq_true_eq]
  constructor
  · intro marked
    obtain ⟨old, member, same⟩ := marked
    split at same
    · rename_i marked
      subst same
      exact absurd marked.2 other
    · exact same ▸ member
  · intro member
    exact ⟨a, member, if_neg fun marked => other marked.2⟩

/-- The announcer's heartbeat changes nobody else's presence. -/
theorem mem_otherOnline_heartbeat {env : Env} {orgId : OrgId} {agentId : AgentId} {db : Db} {a : Agent} :
    a ∈ (db.heartbeat env orgId agentId).otherOnline env orgId agentId ↔ a ∈ db.otherOnline env orgId agentId := by
  rw [mem_otherOnline, mem_otherOnline]
  constructor
  · intro online
    obtain ⟨member, rest⟩ := online
    exact ⟨(mem_setStatus_agents rest.2.2.2).mp member, rest⟩
  · intro online
    obtain ⟨member, rest⟩ := online
    exact ⟨(mem_setStatus_agents rest.2.2.2).mpr member, rest⟩

theorem otherOnline_heartbeat_nil {env : Env} {orgId : OrgId} {agentId : AgentId} {db : Db} :
    (db.heartbeat env orgId agentId).otherOnline env orgId agentId = [] ↔ db.otherOnline env orgId agentId = [] := by
  simp only [List.eq_nil_iff_forall_not_mem, mem_otherOnline_heartbeat]

/-- The impact the flow works with, as the scorer sees the database after the heartbeat. -/
def flowImpact (env : Env) (params : CommonFlowParams) (db : Db) : CategorizedImpact :=
  (db.heartbeat env params.orgId params.agentId).categorize env params.scoreParams

theorem score_registered {env : Env} {params : ScoreParams} {db : Db} {s : ImpactScore}
    (member : s ∈ db.score env params) : db.registered params.orgId s.agentId := by
  simp only [score, List.mem_map] at member
  obtain ⟨a, online, rfl⟩ := member
  obtain ⟨row, atOrg, -⟩ := mem_otherOnline.mp online
  have found := Table.find_self row
  rw [Agent.key, atOrg] at found
  simp [registered, getAgent, scoreAgent, found]

theorem flowImpact_concerned_nil {env : Env} {params : CommonFlowParams} {db : Db}
    (alone : db.otherOnline env params.orgId params.agentId = []) : (db.flowImpact env params).concerned = [] := by
  have nobody : (db.heartbeat env params.orgId params.agentId).score env params.scoreParams = [] := by
    have empty := otherOnline_heartbeat_nil.mpr alone
    simp only [score, CommonFlowParams.scoreParams, empty, List.map_nil]
  simp only [flowImpact, categorize, nobody, List.filter_nil]

theorem flowAlone_iff {env : Env} {threadId : ThreadId} {params : CommonFlowParams} {db : Db} :
    db.flowAlone env threadId params ↔ db.otherOnline env params.orgId params.agentId = [] := by
  have online : (db.overrideRespondents env threadId params).1.otherOnline env params.orgId params.agentId =
      (db.heartbeat env params.orgId params.agentId).otherOnline env params.orgId params.agentId := rfl
  have concerned : (db.overrideRespondents env threadId params).2 = db.flowImpact env params := rfl
  simp only [flowAlone, online, concerned, Bool.and_eq_true, List.isEmpty_iff, decide_eq_true_eq,
    List.length_eq_zero_iff, otherOnline_heartbeat_nil]
  exact ⟨fun both => both.2, fun alone => ⟨flowImpact_concerned_nil alone, alone⟩⟩

/-- Introspection requests to registered agents about an existing thread all succeed. -/
theorem createIntrospections_ok (env : Env) {orgId : OrgId} {threadId : ThreadId} {scores : List ImpactScore}
    (n : Nat) {db : Db} (authors : ∀ s ∈ scores, db.registered orgId s.agentId)
    (exists' : (db.getThreadCrossOrg threadId).isSome) :
    ∃ asked, db.createIntrospections env orgId threadId scores n = (asked, .ok ()) := by
  induction scores generalizing n db with
  | nil => exact ⟨db, rfl⟩
  | cons s rest ih =>
    have allowed : db.registered orgId s.agentId ∧ (db.getThreadCrossOrg threadId).isSome :=
      ⟨authors s (by simp), exists'⟩
    unfold createIntrospections createIntrospection
    rw [if_pos allowed]
    exact ih (n + 1) (fun s' member => authors s' (List.mem_cons_of_mem s member)) exists'

theorem finishFlow_ok {env : Env} {threadId : ThreadId} {params : CommonFlowParams} {categorized : CategorizedImpact}
    {db : Db} {t : Thread} (target : db.getThread params.orgId threadId = some t)
    (authors : ∀ s ∈ categorized.grayZone, db.registered params.orgId s.agentId) :
    ∃ after R, db.finishFlow env threadId params categorized = (after, .ok R) ∧ R.updated = t ∧
      R.categorized = categorized := by
  obtain ⟨found, -⟩ := getThread_eq_some.mp target
  have exists' : (db.getThreadCrossOrg threadId).isSome := by rw [getThreadCrossOrg, found]; rfl
  obtain ⟨asked, request⟩ := createIntrospections_ok env 0 authors exists'
  have rows := createIntrospections_threads env params.orgId threadId categorized.grayZone 0 db
  rw [request] at rows
  have same : asked.getThread params.orgId threadId = some t := by
    rw [getThread, show asked.threads = db.threads from rows]
    exact target
  simp only [finishFlow, request, same]
  exact ⟨_, _, rfl, rfl, rfl⟩

/-- The row the flow returns for a thread it finds. -/
def flowRow (env : Env) (params : CommonFlowParams) (db : Db) (t : Thread) : Thread :=
  if db.otherOnline env params.orgId params.agentId = [] ∧ t.status = .opened ∧ ¬ params.keepOpen then
    (t.expect (db.flowConcerned env params)).resolve env.isoNow
  else t.expect (db.flowConcerned env params)

theorem flow_grayZone_registered {env : Env} {params : CommonFlowParams} {db : Db} {s : ImpactScore}
    (member : s ∈ (db.flowImpact env params).grayZone) :
    (db.heartbeat env params.orgId params.agentId).registered params.orgId s.agentId := by
  simp only [flowImpact, categorize, List.mem_filter] at member
  exact score_registered member.1

theorem runCommonAnnounceFlow_ok (env : Env) {threadId : ThreadId} {params : CommonFlowParams} {db : Db} {t : Thread}
    (target : db.getThread params.orgId threadId = some t) :
    ∃ after R, db.runCommonAnnounceFlow env threadId params = (after, .ok R) ∧
      R.updated = db.flowRow env params t ∧ R.categorized = db.flowImpact env params := by
  have overridden : (db.overrideRespondents env threadId params).1.getThread params.orgId threadId =
      some (t.expect (db.flowConcerned env params)) := by
    rw [(overrideRespondents_rewrites env threadId params db).getThread fun _ => rfl, target]
    rfl
  have impact : (db.overrideRespondents env threadId params).2 = db.flowImpact env params := rfl
  have alone : ((db.overrideRespondents env threadId params).2.concerned.isEmpty &&
      ((db.overrideRespondents env threadId params).1.otherOnline env params.orgId params.agentId).length = 0) =
        db.flowAlone env threadId params := rfl
  have sameAgents : ∀ s ∈ (db.flowImpact env params).grayZone,
      (db.overrideRespondents env threadId params).1.registered params.orgId s.agentId :=
    fun s member => flow_grayZone_registered member
  rw [runCommonAnnounceFlow]
  simp only [alone, overridden]
  rw [impact]
  by_cases resolves : db.flowAlone env threadId params ∧
      (t.expect (db.flowConcerned env params)).status = .opened ∧ ¬ params.keepOpen
  · rw [if_pos resolves]
    have settled : (((db.overrideRespondents env threadId params).1.updateThread params.orgId threadId
        (.resolve env.isoNow) (Thread.resolve_id _)).emitResolution env threadId .autoResolved none none).getThread
          params.orgId threadId = some ((t.expect (db.flowConcerned env params)).resolve env.isoNow) := by
      rw [(resolve_rewrites env params.orgId threadId .autoResolved none none _).getThread fun _ => rfl, overridden]
      rfl
    obtain ⟨after, R, done, row, categorized⟩ := finishFlow_ok settled fun s member => by
      rw [registered, getAgent, emitResolution_agents]
      exact sameAgents s member
    refine ⟨after, R, done, ?_, categorized⟩
    rw [row, flowRow, if_pos ⟨flowAlone_iff.mp resolves.1, resolves.2⟩]
  · rw [if_neg resolves]
    obtain ⟨after, R, done, row, categorized⟩ := finishFlow_ok overridden sameAgents
    refine ⟨after, R, done, ?_, categorized⟩
    rw [row, flowRow, if_neg fun both => resolves ⟨flowAlone_iff.mpr both.1, both.2⟩]

/-- The first auto-resolution test of an announce, taken at insert time. -/
def resolvesAtInsert (orgId : OrgId) (body : AnnounceBody) (db : Db) : Bool :=
  (db.moduleRespondents orgId body.agentId body.targetModules).isEmpty && !(body.keepOpen || body.assignedTo.isSome)

theorem announceWork_outcome (env : Env) (orgId : OrgId) (params : AnnounceParams) (db : Db) :
    (∃ threads, db.announceWork env orgId params = ({ db with threads }, .ok (announcedThread env orgId params
      (db.moduleRespondents orgId params.agentId params.targetModules))) ∧
      threads.find (env.uuid 0) = some (announcedThread env orgId params
        (db.moduleRespondents orgId params.agentId params.targetModules))) ∨
    (∃ e, db.announceWork env orgId params = (db, .error e) ∧
      (db.registered orgId params.agentId = false ∨ db.threads.find (env.uuid 0) ≠ none)) := by
  unfold announceWork
  simp only
  split
  · split
    · rename_i threads inserted
      refine .inl ⟨threads, rfl, ?_⟩
      rw [Table.find_insert inserted]
      exact if_pos rfl
    · rename_i refused
      refine .inr ⟨_, rfl, .inr fun fresh => ?_⟩
      have inserted : (db.threads.insert (announcedThread env orgId params
          (db.moduleRespondents orgId params.agentId params.targetModules))).isSome := Table.insert_isSome.mpr fresh
      rw [refused] at inserted
      cases inserted
  · rename_i stranger
    exact .inr ⟨_, rfl, .inl (by simpa using stranger)⟩

/-- What an announce that returns has decided: the respondents are the
concerned agents, and the row is resolved by one of the two tests or open. -/
structure Decided (flowEnv : Env) (orgId : OrgId) (body : AnnounceBody) (db : Db) (R : CommonFlowResult) : Prop where
  respondents : R.updated.expectedRespondents = .array (R.categorized.concerned.map (·.agentId))
  opened_or : R.updated.status = .opened ∨ R.updated.status = .resolved
  resolved_iff : R.updated.status = .resolved ↔
    db.resolvesAtInsert orgId body ∨ db.otherOnline flowEnv orgId body.agentId = [] ∧ ¬ body.keepOpen
  alone : db.otherOnline flowEnv orgId body.agentId = [] → R.categorized.concerned = []

theorem flowRow_decided {env flowEnv : Env} {orgId : OrgId} {body : AnnounceBody} {db announced : Db}
    {R : CommonFlowResult} (row : R.updated = announced.flowRow flowEnv (body.flowParams orgId) (announcedThread env orgId
      body.announceParams (db.moduleRespondents orgId body.agentId body.targetModules)))
    (impact : R.categorized = announced.flowImpact flowEnv (body.flowParams orgId))
    (sameAgents : announced.agents = db.agents) : db.Decided flowEnv orgId body R := by
  have online : announced.otherOnline flowEnv orgId body.agentId = db.otherOnline flowEnv orgId body.agentId := by
    simp only [otherOnline, listOnline, sameAgents]
  have status : (announcedThread env orgId body.announceParams
      (db.moduleRespondents orgId body.agentId body.targetModules)).status =
        if db.resolvesAtInsert orgId body then .resolved else .opened := rfl
  have ids : announced.flowConcerned flowEnv (body.flowParams orgId) = R.categorized.concerned.map (·.agentId) := by
    rw [impact]
    rfl
  have onlineFlow : announced.otherOnline flowEnv (body.flowParams orgId).orgId (body.flowParams orgId).agentId = [] ↔
      db.otherOnline flowEnv orgId body.agentId = [] := by rw [← online]; rfl
  constructor
  · rw [row, flowRow, ← ids]
    split <;> rfl
  · rw [row, flowRow]
    split
    · exact .inr rfl
    · rw [Thread.expect_status, status]
      split
      · exact .inr rfl
      · exact .inl rfl
  · rw [row, flowRow]
    split
    · rename_i settled
      exact iff_of_true rfl (.inr ⟨onlineFlow.mp settled.1, settled.2.2⟩)
    · rename_i kept
      rw [Thread.expect_status, status]
      by_cases early : db.resolvesAtInsert orgId body
      · simp [early]
      · rw [if_neg early]
        refine iff_of_false (by decide) ?_
        intro settled
        rcases settled with now | later
        · exact early now
        · refine kept ⟨onlineFlow.mpr later.1, ?_, later.2⟩
          rw [status, if_neg early]
  · intro alone
    rw [impact]
    exact flowImpact_concerned_nil (onlineFlow.mpr alone)

theorem announce_returns (env flowEnv : Env) (orgId : OrgId) (body : AnnounceBody) (db : Db) :
    (∃ after R, db.announce env flowEnv orgId body = (after, .ok R) ∧ db.Decided flowEnv orgId body R) ∨
    (∃ after e, db.announce env flowEnv orgId body = (after, .error e) ∧
      (db.registered orgId body.agentId = false ∨ db.threads.find (env.uuid 0) ≠ none)) := by
  rcases announceWork_outcome env orgId body.announceParams db with ⟨threads, announced, found⟩ | ⟨e, failed, why⟩
  · left
    have target : ({ db with threads } : Db).getThread (body.flowParams orgId).orgId (env.uuid 0) = some _ :=
      getThread_eq_some.mpr ⟨found, rfl⟩
    obtain ⟨after, R, done, row, impact⟩ := runCommonAnnounceFlow_ok flowEnv target
    refine ⟨after, R, ?_, flowRow_decided row impact rfl⟩
    rw [announce, announced]
    exact done
  · exact .inr ⟨db, e, by rw [announce, failed], why⟩

/-- A conflict keeps the thread open: with a concerned agent it is open and
waits for exactly the concerned ones, and it is resolved only if nobody is
concerned and nobody else is online. -/
def ConflictKept (flowEnv : Env) (orgId : OrgId) (agentId : AgentId) (db : Db) (R : CommonFlowResult) : Prop :=
  (R.categorized.concerned ≠ [] → R.updated.status = .opened ∧
    R.updated.expectedRespondents = .array (R.categorized.concerned.map (·.agentId))) ∧
  (R.updated.status = .resolved → R.categorized.concerned = [] ∧ db.otherOnline flowEnv orgId agentId = [])

theorem Decided.conflictKept_iff {flowEnv : Env} {orgId : OrgId} {body : AnnounceBody} {db : Db} {R : CommonFlowResult}
    (decided : db.Decided flowEnv orgId body R) :
    db.ConflictKept flowEnv orgId body.agentId R ↔
      (db.resolvesAtInsert orgId body → db.otherOnline flowEnv orgId body.agentId = []) := by
  constructor
  · intro kept early
    exact (kept.2 (decided.resolved_iff.mpr (.inl early))).2
  · intro spared
    have resolvedAlone : R.updated.status = .resolved → db.otherOnline flowEnv orgId body.agentId = [] := by
      intro resolved
      rcases decided.resolved_iff.mp resolved with early | alone
      · exact spared early
      · exact alone.1
    refine ⟨fun concerned => ⟨?_, decided.respondents⟩, fun resolved => ?_⟩
    · rcases decided.opened_or with opened | resolved
      · exact opened
      · exact absurd (decided.alone (resolvedAlone resolved)) concerned
    · exact ⟨decided.alone (resolvedAlone resolved), resolvedAlone resolved⟩

theorem resolvesAtInsert_iff {orgId : OrgId} {body : AnnounceBody} {db : Db} :
    db.resolvesAtInsert orgId body ↔ db.moduleRespondents orgId body.agentId body.targetModules = [] ∧
      ¬ body.keepOpen ∧ body.assignedTo = none := by
  simp [resolvesAtInsert]

/-- An announce keeps a conflict open exactly when the insert did not resolve
the thread on its own criterion while somebody else was online. -/
theorem announce_conflictKept_iff (env flowEnv : Env) (orgId : OrgId) (body : AnnounceBody) (db : Db) :
    (∃ after R, db.announce env flowEnv orgId body = (after, .ok R) ∧
      (db.ConflictKept flowEnv orgId body.agentId R ↔
        body.keepOpen ∨ body.assignedTo ≠ none ∨
          db.moduleRespondents orgId body.agentId body.targetModules ≠ [] ∨
          db.otherOnline flowEnv orgId body.agentId = [])) ∨
    (∃ after e, db.announce env flowEnv orgId body = (after, .error e) ∧
      (db.registered orgId body.agentId = false ∨ db.threads.find (env.uuid 0) ≠ none)) := by
  rcases announce_returns env flowEnv orgId body db with ⟨after, R, done, decided⟩ | refused
  · refine .inl ⟨after, R, done, ?_⟩
    rw [decided.conflictKept_iff, resolvesAtInsert_iff]
    tauto
  · exact .inr refused

/-- A thread that should wait for somebody is open after its own announce
exactly when it was kept open explicitly or somebody else is online. -/
theorem announce_directed_opened_iff (env flowEnv : Env) (orgId : OrgId) (body : AnnounceBody) (db : Db)
    (directed : body.keepOpen ∨ body.assignedTo ≠ none) :
    (∃ after R, db.announce env flowEnv orgId body = (after, .ok R) ∧
      (R.updated.status = .opened ↔ body.keepOpen ∨ db.otherOnline flowEnv orgId body.agentId ≠ [])) ∨
    (∃ after e, db.announce env flowEnv orgId body = (after, .error e) ∧
      (db.registered orgId body.agentId = false ∨ db.threads.find (env.uuid 0) ≠ none)) := by
  rcases announce_returns env flowEnv orgId body db with ⟨after, R, done, decided⟩ | refused
  · refine .inl ⟨after, R, done, ?_⟩
    have opened : R.updated.status = .opened ↔ ¬ R.updated.status = .resolved := by
      rcases decided.opened_or with atOpen | atResolved
      · simp [atOpen]
      · simp [atResolved]
    rw [opened, decided.resolved_iff, resolvesAtInsert_iff]
    tauto
  · exact .inr refused

end Db

/-- An announce that names files and, possibly, whom the work is for. -/
def AnnounceBody.ofFiles (agentId : AgentId) (targetFiles : List FilePath) (assignedTo : Option AgentId) :
    AnnounceBody :=
  { agentId, subject := "", plan := none, targetModules := [], targetFiles, dependsOnFiles := none
    exportsAffected := none, keepOpen := false, assignedTo, targetSymbols := none, runId := none }

namespace Db

theorem announce_of_row {α : Type} {result : Outcome CommonFlowResult} {columns : CommonFlowResult → α} {row : α}
    (evaluated : result.2.toOption.map columns = some row) :
    ∃ R, result = (result.1, .ok R) ∧ columns R = row := by
  cases done : result.2 with
  | error e => simp [done, Except.toOption] at evaluated
  | ok R =>
    rw [done] at evaluated
    exact ⟨R, Prod.ext rfl done, Option.some.inj evaluated⟩

/-- Bob is editing the announced file, so he is concerned, but his modules do
not overlap the announced ones: the insert has resolved the thread before he is scored. -/
theorem not_announce_conflictKept : ¬ ∀ (env flowEnv : Env) (orgId : OrgId) (body : AnnounceBody) (db after : Db)
    (R : CommonFlowResult), db.announce env flowEnv orgId body = (after, .ok R) →
      db.ConflictKept flowEnv orgId body.agentId R := by
  intro kept
  let db := (team [("ada", []), ("bob", [])]).startWorking (.drawing "m0") "acme" "bob" "a.ts" 30
  let result := db.announce (.drawing "t1") (.drawing "i1") "acme" (.ofFiles "ada" ["a.ts"] none)
  have row : result.2.toOption.map (fun R => (R.updated.status, R.categorized.concerned.map (·.agentId))) =
      some (.resolved, ["bob"]) := by decide
  obtain ⟨R, done, outcome⟩ := announce_of_row row
  rw [Prod.mk.injEq] at outcome
  have concerned : R.categorized.concerned ≠ [] := by
    intro nobody
    rw [nobody] at outcome
    cases outcome.2
  have opened := ((kept _ _ _ _ db result.1 R done).1 concerned).1
  cases opened.symm.trans outcome.1

/-- Ada's task for Bob stays open while Bob is online. -/
theorem announce_directed_opened_pair :
    ∃ after R, (team [("ada", []), ("bob", [])]).announce (.drawing "t1") (.drawing "i1") "acme"
      (.ofFiles "ada" ["a.ts"] (some "bob")) = (after, .ok R) ∧ R.updated.status = .opened := by
  rcases announce_directed_opened_iff (.drawing "t1") (.drawing "i1") "acme" (.ofFiles "ada" ["a.ts"] (some "bob"))
    (team [("ada", []), ("bob", [])]) (.inr (by decide)) with ⟨after, R, done, opened⟩ | ⟨_, _, _, why⟩
  · exact ⟨after, R, done, opened.mpr (.inr (by decide))⟩
  · rcases why with stranger | taken
    · exact absurd stranger (by decide)
    · exact absurd rfl taken

/-- Ada's task for Bob is resolved by its own announce while she is alone. -/
theorem not_announce_directed_opened : ¬ ∀ (env flowEnv : Env) (orgId : OrgId) (body : AnnounceBody) (db after : Db)
    (R : CommonFlowResult), body.keepOpen ∨ body.assignedTo ≠ none →
      db.announce env flowEnv orgId body = (after, .ok R) → R.updated.status = .opened := by
  intro opened
  let result := (team [("ada", [])]).announce (.drawing "t1") (.drawing "i1") "acme"
    (.ofFiles "ada" ["a.ts"] (some "bob"))
  have row : result.2.toOption.map (fun R => R.updated.status) = some .resolved := by decide
  obtain ⟨R, done, resolved⟩ := announce_of_row row
  cases (opened _ _ _ _ _ result.1 R (.inr (by decide)) done).symm.trans resolved

end Db

end Coordinator
