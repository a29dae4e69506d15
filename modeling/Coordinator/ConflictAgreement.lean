import Coordinator.ClaimExclusivity
import Coordinator.ConflictDetector

namespace Coordinator

/-- An open task in other hands than the agent's that touches one of the files. -/
def Thread.blocks (t : Thread) (agentId : AgentId) (files : List FilePath) : Prop :=
  (∃ b, t.heldBy b ∧ b ≠ agentId) ∧ ∃ file, file ∈ files ∧ file ∈ t.targetFiles

theorem heldByAnother_iff {agentId : AgentId} {t : Thread} :
    heldByAnother agentId t ↔ ∃ b, t.heldBy b ∧ b ≠ agentId := by
  simp only [heldByAnother, decide_eq_true_eq, Thread.heldBy]
  cases claimed : t.claimedBy with
  | none => simp
  | some holder => simp

namespace Db

theorem mem_listThreads_opened {env : Env} {orgId : OrgId} {db : Db} {t : Thread} :
    t ∈ db.listThreads env orgId { status := some .opened, sinceMinutes := none, runId := none } ↔
      t ∈ db.threads.rows ∧ t.orgId = orgId ∧ t.status = .opened := by
  simp [listThreads, orNull]

theorem listThreads_status {env : Env} {orgId : OrgId} {status : ThreadStatus} {sinceMinutes : Option Nat}
    {runId : Option String} {db : Db} {t : Thread}
    (member : t ∈ db.listThreads env orgId { status := some status, sinceMinutes, runId }) : t.status = status := by
  simp only [listThreads, List.mem_insertionSort, List.mem_filter, decide_eq_true_eq, Option.all_some] at member
  exact member.2.2.1

/-- Among the three listings, an open thread can only come from the first. -/
theorem mem_announcedThreads_opened {env : Env} {orgId : OrgId} {windowMinutes : Nat} {db : Db} {t : Thread}
    (opened : t.status = .opened) :
    t ∈ db.announcedThreads env orgId windowMinutes none ↔ t ∈ db.threads.rows ∧ t.orgId = orgId := by
  simp only [announcedThreads, List.mem_append]
  constructor
  · intro listed
    rcases listed with (inOpen | inResolving) | inResolved
    · obtain ⟨row, atOrg, -⟩ := mem_listThreads_opened.mp inOpen
      exact ⟨row, atOrg⟩
    · cases opened.symm.trans (listThreads_status inResolving)
    · cases opened.symm.trans (listThreads_status inResolved)
  · intro active
    obtain ⟨row, atOrg⟩ := active
    exact .inl (.inl (mem_listThreads_opened.mpr ⟨row, atOrg, opened⟩))

/-- Recent edits are reported as warnings, so they add no error. -/
theorem mem_hotFileReports_error {pairs : List (FilePath × AgentId)} {conflicts : List ConflictReport}
    {r : ConflictReport} (error : r.severity = .error) : r ∈ hotFileReports pairs conflicts ↔ r ∈ conflicts := by
  induction pairs generalizing conflicts with
  | nil => rfl
  | cons pair rest ih =>
    unfold hotFileReports
    split
    · exact ih
    · rw [ih, List.mem_append, List.mem_singleton]
      constructor
      · intro member
        rcases member with old | new
        · exact old
        · rw [new] at error
          cases error
      · exact Or.inl

theorem fileOverlapReports_error {params : DetectParams} {thread : Thread} :
    (∃ r ∈ fileOverlapReports params thread, r.severity = .error) ↔
      thread.blocks params.agentId params.targetFiles := by
  unfold fileOverlapReports
  simp only
  rw [Thread.blocks, ← heldByAnother_iff]
  have shared : (∃ file, file ∈ params.targetFiles ∧ file ∈ thread.targetFiles) ↔
      params.targetFiles.filter (fun f => thread.targetFiles.contains f) ≠ [] := by
    simp [List.filter_eq_nil_iff]
  rw [shared]
  split
  · rename_i none
    exact iff_of_false (by simp) fun both => both.2 none
  · rename_i overlap some
    simp only [List.mem_singleton, exists_eq_left]
    by_cases held : heldByAnother params.agentId thread
    · simpa [held] using some
    · simp [held]

/-- Module and dependency reports are never file overlaps. -/
theorem threadReports_fileOverlap {db : Db} {params : DetectParams} {thread : Thread} {r : ConflictReport}
    (overlap : r.type = .fileOverlap) (member : r ∈ db.threadReports params thread) :
    r ∈ fileOverlapReports params thread := by
  simp only [threadReports, List.mem_append, List.mem_flatMap] at member
  rcases member with (inModules | inFiles) | ⟨m, -, inChain⟩
  · unfold moduleOverlapReports at inModules
    split at inModules
    · cases inModules
    · rw [List.mem_singleton] at inModules
      rw [inModules] at overlap
      cases overlap
  · exact inFiles
  · simp only [dependencyChainReports, List.mem_append, List.mem_map] at inChain
    rcases inChain with ⟨dep, -, rfl⟩ | ⟨dependent, -, rfl⟩ <;> cases overlap

/-- The error verdict: somebody else announced a task that is in other hands and touches the files. -/
theorem detect_error_iff {env : Env} {params : DetectParams} {db : Db} (unscoped : params.runId = none) :
    (∃ r ∈ db.detect env params, r.type = .fileOverlap ∧ r.severity = .error) ↔
      ∃ t ∈ db.threads.rows, t.orgId = params.orgId ∧ t.initiatorId ≠ params.agentId ∧
        t.blocks params.agentId params.targetFiles := by
  have listed : ∀ t, t.blocks params.agentId params.targetFiles →
      (t ∈ db.announcedThreads env params.orgId resolvedThreadConflictWindowMinutes params.runId ↔
        t ∈ db.threads.rows ∧ t.orgId = params.orgId) := by
    rintro t ⟨⟨b, held, -⟩, -⟩
    rw [unscoped]
    exact mem_announcedThreads_opened held.1
  constructor
  · intro reported
    obtain ⟨r, member, overlap, error⟩ := reported
    simp only [detect, mem_hotFileReports_error error, List.mem_flatMap, List.mem_filter, decide_eq_true_eq] at member
    obtain ⟨t, ⟨active, other⟩, reported⟩ := member
    have blocks := fileOverlapReports_error.mp ⟨r, threadReports_fileOverlap overlap reported, error⟩
    obtain ⟨row, atOrg⟩ := (listed t blocks).mp active
    exact ⟨t, row, atOrg, other, blocks⟩
  · intro blocked
    obtain ⟨t, row, atOrg, other, blocks⟩ := blocked
    obtain ⟨r, reported, error⟩ := fileOverlapReports_error.mpr blocks
    refine ⟨r, ?_, ?_, error⟩
    · simp only [detect, mem_hotFileReports_error error, List.mem_flatMap, List.mem_filter, decide_eq_true_eq]
      refine ⟨t, ⟨(listed t blocks).mpr ⟨row, atOrg⟩, other⟩, ?_⟩
      simp only [threadReports, List.mem_append]
      exact .inl (.inr reported)
    · unfold fileOverlapReports at reported
      simp only at reported
      split at reported
      · cases reported
      · rw [List.mem_singleton] at reported
        rw [reported]

/-- A fresh task nobody has claimed or been assigned, added to the table. -/
structure Announces (db announced : Db) (orgId : OrgId) (files : List FilePath) (t : Thread) : Prop where
  inserted : db.threads.insert t = some announced.threads
  org : t.orgId = orgId
  opened : t.status = .opened
  unclaimed : t.claimedBy = none
  unassigned : t.assignedTo = none
  files_eq : t.targetFiles = files

/-- The claim of a fresh task fails exactly on the overlap guard. -/
theorem claim_refused_iff {db announced : Db} {orgId : OrgId} {files : List FilePath} {t : Thread}
    (fresh : db.Announces announced orgId files t) (env : Env) (agentId : AgentId) :
    (announced.handleClaimTask env orgId t.id agentId).2.success = false ↔
      ∃ u ∈ db.threads.rows, u.orgId = orgId ∧ u.blocks agentId files := by
  have rows := Table.insert_rows fresh.inserted
  have absent := Table.find_eq_none.mp (Table.insert_fresh fresh.inserted)
  have found : announced.threads.find t.id = some t := by
    rw [Table.find_insert fresh.inserted]
    exact if_pos rfl
  have fixes : ∀ u : Thread, announced.claimable orgId t.id agentId u → u.id = t.id := by
    intro u matched
    simp only [claimable, decide_eq_true_eq] at matched
    exact matched.1
  have succeeds : announced.threads.changes (announced.claimable orgId t.id agentId) = 1 ↔
      ¬ announced.heldElsewhere agentId t := by
    rw [Table.changes_eq_one fixes, found]
    simp [claimable, fresh.org, fresh.unclaimed, fresh.opened, fresh.unassigned]
  have guard : announced.heldElsewhere agentId t ↔ ∃ u ∈ db.threads.rows, u.orgId = orgId ∧ u.blocks agentId files := by
    rw [heldElsewhere_iff, rows]
    constructor
    · intro elsewhere
      obtain ⟨u, member, atOrg, apart, held, shared⟩ := elsewhere
      rcases List.mem_append.mp member with old | new
      · exact ⟨u, old, atOrg.trans fresh.org, held, fresh.files_eq ▸ shared⟩
      · rw [List.mem_singleton] at new
        exact absurd (congrArg Thread.id new) apart
    · intro blocked
      obtain ⟨u, old, atOrg, held, shared⟩ := blocked
      exact ⟨u, List.mem_append_left _ old, atOrg.trans fresh.org.symm, absent u old, held, fresh.files_eq ▸ shared⟩
  rw [← guard]
  by_cases blocked : announced.heldElsewhere agentId t
  · have refused : ¬ announced.threads.changes (announced.claimable orgId t.id agentId) = 1 :=
      fun success => succeeds.mp success blocked
    simp [handleClaimTask, refused, blocked]
  · have success := succeeds.mpr blocked
    simp [handleClaimTask, success, blocked]

/-- The detector and the claim guard agree exactly when a task announced by
the agent itself and in other hands is not the only one in its way. -/
theorem detect_agrees_claim_iff {db announced : Db} {t : Thread} (env claimEnv : Env) (params : DetectParams)
    (unscoped : params.runId = none) (fresh : db.Announces announced params.orgId params.targetFiles t) :
    ((∃ r ∈ db.detect env params, r.type = .fileOverlap ∧ r.severity = .error) ↔
      (announced.handleClaimTask claimEnv params.orgId t.id params.agentId).2.success = false) ↔
    ((∃ u ∈ db.threads.rows, u.orgId = params.orgId ∧ u.initiatorId = params.agentId ∧
        u.blocks params.agentId params.targetFiles) →
      ∃ u ∈ db.threads.rows, u.orgId = params.orgId ∧ u.initiatorId ≠ params.agentId ∧
        u.blocks params.agentId params.targetFiles) := by
  rw [detect_error_iff unscoped, claim_refused_iff fresh]
  constructor
  · rintro agree ⟨u, row, atOrg, -, blocks⟩
    exact agree.mpr ⟨u, row, atOrg, blocks⟩
  · intro covered
    constructor
    · intro blocked
      obtain ⟨u, row, atOrg, -, blocks⟩ := blocked
      exact ⟨u, row, atOrg, blocks⟩
    · intro blocked
      obtain ⟨u, row, atOrg, blocks⟩ := blocked
      by_cases own : u.initiatorId = params.agentId
      · exact covered ⟨u, row, atOrg, own, blocks⟩
      · exact ⟨u, row, atOrg, own, blocks⟩

/-- What an agent that works on one file asks the detector. -/
def fileQuery (agentId : AgentId) : DetectParams :=
  { orgId := "acme", agentId, targetModules := [], targetFiles := ["a.ts"], runId := none }

/-- A task on the file, announced by one agent and claimed by another. -/
def heldTask (initiator holder : AgentId) : Db :=
  (team [("ada", []), ("bob", [])]).after
    [(.drawing "t1", .announceWork "acme" (.ofFiles initiator ["a.ts"] true)),
      (.drawing "m1", .handleClaimTask "acme" "t1" holder)]

/-- Ada's next task on the file, announced after that. -/
def nextTask (db : Db) : Db := (db.announceWork (.drawing "t2") "acme" (.ofFiles "ada" ["a.ts"] true)).1

/-- Bob announced and holds the task: Ada is warned of exactly the refusal she would get. -/
theorem detect_agrees_claim_bob :
    (∃ r ∈ (heldTask "bob" "bob").detect (.drawing "m2") (fileQuery "ada"),
      r.type = .fileOverlap ∧ r.severity = .error) ↔
    ((nextTask (heldTask "bob" "bob")).handleClaimTask (.drawing "m2") "acme" "t2" "ada").2.success = false := by
  have fresh : (heldTask "bob" "bob").Announces (nextTask (heldTask "bob" "bob")) "acme" ["a.ts"]
      (announcedThread (.drawing "t2") "acme" (.ofFiles "ada" ["a.ts"] true) []) := ⟨rfl, rfl, rfl, rfl, rfl, rfl⟩
  refine (detect_agrees_claim_iff (.drawing "m2") (.drawing "m2") (fileQuery "ada") rfl fresh).mpr ?_
  have foreign : ∀ u ∈ (heldTask "bob" "bob").threads.rows, u.initiatorId ≠ "ada" := by decide
  intro blocked
  obtain ⟨u, row, -, own, -⟩ := blocked
  exact absurd own (foreign u row)

/-- Ada announced the task and Bob claimed it: her next claim on the file is
refused, but the detector skips the thread because she is its initiator. -/
theorem not_detect_agrees_claim : ¬ ∀ (db announced : Db) (t : Thread) (env claimEnv : Env) (params : DetectParams),
    params.runId = none → db.Announces announced params.orgId params.targetFiles t →
      ((∃ r ∈ db.detect env params, r.type = .fileOverlap ∧ r.severity = .error) ↔
        (announced.handleClaimTask claimEnv params.orgId t.id params.agentId).2.success = false) := by
  intro agree
  have silent : ∀ r ∈ (heldTask "ada" "bob").detect (.drawing "m2") (fileQuery "ada"), r.severity ≠ .error := by decide
  have refused : ((nextTask (heldTask "ada" "bob")).handleClaimTask (.drawing "m2") "acme" "t2" "ada").2.success =
      false := by decide
  obtain ⟨r, member, -, error⟩ := (agree (heldTask "ada" "bob") (nextTask (heldTask "ada" "bob"))
    (announcedThread (.drawing "t2") "acme" (.ofFiles "ada" ["a.ts"] true) []) (.drawing "m2") (.drawing "m2")
    (fileQuery "ada") rfl ⟨rfl, rfl, rfl, rfl, rfl, rfl⟩).mpr refused
  exact silent r member error

end Db

end Coordinator
