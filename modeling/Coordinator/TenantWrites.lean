import Coordinator.TenantSlices

namespace Coordinator

namespace Db
variable {A : OrgId} {stats : Prop} {db db' : Db}

/-- An update that keeps ids and orgs joins the same messages. -/
theorem joined_update {p : Thread → Bool} {f : Thread → Thread} (keeps : ∀ t, (f t).id = t.id)
    (keepsOrg : ∀ t, (f t).orgId = t.orgId) :
    ({ db with threads := db.threads.update p f keeps } : Db).joined (fun t => t.orgId = A) =
      db.joined fun t => t.orgId = A := by
  funext m
  simp only [joined, Table.update, List.any_map]
  congr 1
  funext t
  simp only [Function.comp_apply]
  split
  · rw [keeps, keepsOrg]
  · rfl

namespace Alike

/-! Statements on `threads`. -/

/-- An update acts alike on both sides when it picks the same rows of the org. -/
theorem updateRows (alike : Alike A stats db db') {p p' : Thread → Bool} (agree : ∀ t, t.orgId = A → p t = p' t)
    {f : Thread → Thread} (keeps : ∀ t, (f t).id = t.id) (keepsOrg : ∀ t, (f t).orgId = t.orgId) :
    Alike A stats { db with threads := db.threads.update p f keeps }
      { db' with threads := db'.threads.update p' f keeps } := by
  have owners : ∀ (q : Thread → Bool) (t : Thread), (if q t then f t else t).orgId = t.orgId := by
    intro q t
    split
    · exact keepsOrg t
    · rfl
  refine ⟨alike.agents, ?_, ?_, alike.introspections, alike.files, alike.working, alike.cochange, alike.modules,
    alike.resolutions, alike.firings⟩
  · simp only [Table.update]
    rw [ownedBy_map (owners p), ownedBy_map (owners p'), alike.threads]
    refine List.map_congr_left fun t member => ?_
    rw [agree t (mem_ownedBy.mp member).2]
  · have rows := alike.messages
    simp only [messagesOf] at rows ⊢
    rw [joined_update keeps keepsOrg, joined_update keeps keepsOrg, rows]

/-- An update of rows of other orgs is not seen. -/
theorem of_update {p : Thread → Bool} (foreign : ∀ t ∈ db.threads.rows, t.orgId = A → ¬ p t) {f : Thread → Thread}
    (keeps : ∀ t, (f t).id = t.id) (keepsOrg : ∀ t, (f t).orgId = t.orgId) :
    Alike A stats db { db with threads := db.threads.update p f keeps } := by
  refine ⟨rfl, ?_, ?_, rfl, rfl, rfl, rfl, rfl, rfl, fun _ => rfl⟩
  · rw [Table.update, ownedBy_map_foreign]
    · intro t
      split
      · exact keepsOrg t
      · rfl
    · intro t member own
      exact if_neg (foreign t member own)
  · simp only [messagesOf]
    rw [joined_update keeps keepsOrg]

theorem updateThread (alike : Alike A stats db db') (orgId : OrgId) (k : ThreadId) {f : Thread → Thread}
    (keeps : ∀ t, (f t).id = t.id) (keepsOrg : ∀ t, (f t).orgId = t.orgId) :
    Alike A stats (db.updateThread orgId k f keeps) (db'.updateThread orgId k f keeps) :=
  alike.updateRows (fun _ _ => rfl) keeps keepsOrg

theorem of_updateThread {o : OrgId} (apart : o ≠ A) (k : ThreadId) {f : Thread → Thread}
    (keeps : ∀ t, (f t).id = t.id) (keepsOrg : ∀ t, (f t).orgId = t.orgId) :
    Alike A stats db (db.updateThread o k f keeps) := by
  refine of_update (fun t _ own picked => ?_) keeps keepsOrg
  exact apart ((of_decide_eq_true picked).2.symm.trans own)

/-! Messages and resolutions. -/

theorem of_insertMessage {m : ThreadMessage} (foreign : ¬ db.joined (fun t => t.orgId = A) m) :
    Alike A stats db (db.insertMessage m).1 := by
  unfold Db.insertMessage
  split
  · refine ⟨rfl, rfl, ?_, rfl, rfl, rfl, rfl, rfl, rfl, fun _ => rfl⟩
    have same : ({ db with messages := db.messages ++ [m] } : Db).joined (fun t => t.orgId = A) =
        db.joined fun t => t.orgId = A := rfl
    simp [messagesOf, same, List.filter_append, foreign]
  · exact refl db

/-- A message of the org is inserted on both sides or on neither. -/
theorem insertMessage (alike : Alike A stats db db') {m : ThreadMessage} (own : m.orgId = A) :
    Alike A stats (db.insertMessage m).1 (db'.insertMessage m).1 ∧ (db.insertMessage m).2 = (db'.insertMessage m).2 := by
  have author := alike.registered m.agentId
  rw [← own] at author
  refine ⟨?_, ?_⟩
  · have joins := alike.joined (p := fun t => t.orgId = A) fun t own => of_decide_eq_true own
    by_cases here : db.joined (fun t => t.orgId = A) m
    · unfold Db.insertMessage
      rw [author]
      split
      · refine ⟨alike.agents, alike.threads, ?_, alike.introspections, alike.files, alike.working, alike.cochange,
          alike.modules, alike.resolutions, alike.firings⟩
        have rows := alike.messages
        simp only [messagesOf] at rows ⊢
        have same : ∀ db : Db, ({ db with messages := db.messages ++ [m] } : Db).joined (fun t => t.orgId = A) =
            db.joined fun t => t.orgId = A := fun _ => rfl
        rw [same, same, List.filter_append, List.filter_append, rows, joins]
      · exact alike
    · exact (of_insertMessage here).symm.trans (alike.trans (of_insertMessage (joins ▸ here)))
  · rw [Db.insertMessage, Db.insertMessage, author]
    split <;> rfl

theorem of_emitResolution {k : ThreadId} (foreign : db.getThread A k = none) (env : Env) (type : ResolutionType)
    (approvedBy approvedByName : Option String) :
    Alike A stats db (db.emitResolution env k type approvedBy approvedByName) := by
  unfold Db.emitResolution
  split
  · exact refl db
  · rename_i t found
    refine ⟨rfl, rfl, rfl, rfl, rfl, rfl, rfl, rfl, ?_, fun _ => rfl⟩
    have elsewhere : t.orgId ≠ A := by
      intro own
      have here := getThread_eq_some.mpr ⟨found, own⟩
      rw [foreign] at here
      cases here
    simp [ownedBy, elsewhere]

theorem emitResolution (alike : Alike A stats db db') (env : Env) (k : ThreadId) (type : ResolutionType)
    (approvedBy approvedByName : Option String) :
    Alike A stats (db.emitResolution env k type approvedBy approvedByName)
      (db'.emitResolution env k type approvedBy approvedByName) := by
  cases found : db.getThread A k with
  | none =>
    have missing : db'.getThread A k = none := alike.getThread k ▸ found
    exact (of_emitResolution found ..).symm.trans (alike.trans (of_emitResolution missing ..))
  | some t =>
    have found' : db'.getThread A k = some t := alike.getThread k ▸ found
    have row := (getThread_eq_some.mp found).1
    have row' := (getThread_eq_some.mp found').1
    simp only [Db.emitResolution, getThreadCrossOrg, row, row']
    refine ⟨alike.agents, alike.threads, alike.messages, alike.introspections, alike.files, alike.working,
      alike.cochange, alike.modules, ?_, alike.firings⟩
    rw [ownedBy_append, ownedBy_append, alike.resolutions, alike.hadMessages found]

/-! The other tables, one at a time. -/

theorem withAgents (alike : Alike A stats db db') {T T' : Table Agent Agent.key}
    (rows : ownedBy Agent.orgId A T.rows = ownedBy Agent.orgId A T'.rows) :
    Alike A stats { db with agents := T } { db' with agents := T' } := { alike with agents := rows }

theorem withIntrospections (alike : Alike A stats db db') {rows rows' : List IntrospectionRecord}
    (same : ownedBy IntrospectionRecord.orgId A rows = ownedBy IntrospectionRecord.orgId A rows') :
    Alike A stats { db with introspections := rows } { db' with introspections := rows' } :=
  { alike with introspections := same }

theorem withWorking (alike : Alike A stats db db') {rows rows' : List WorkingFile}
    (same : ownedBy WorkingFile.orgId A rows = ownedBy WorkingFile.orgId A rows') :
    Alike A stats { db with workingFiles := rows } { db' with workingFiles := rows' } := { alike with working := same }

theorem withModules (alike : Alike A stats db db') {rows rows' : List ModuleInfo}
    (same : ownedBy ModuleInfo.orgId A rows = ownedBy ModuleInfo.orgId A rows') :
    Alike A stats { db with dependencyMap := rows } { db' with dependencyMap := rows' } := { alike with modules := same }

theorem withFirings (alike : Alike A stats db db') {rows rows' : List LayerFiring}
    (same : stats → ownedBy LayerFiring.orgId A rows = ownedBy LayerFiring.orgId A rows') :
    Alike A stats { db with layerFirings := rows } { db' with layerFirings := rows' } := { alike with firings := same }

theorem setStatus (alike : Alike A stats db db') (status : AgentConnectionStatus) (env : Env) (orgId : OrgId)
    (agentId : AgentId) : Alike A stats (db.setStatus status env orgId agentId) (db'.setStatus status env orgId agentId) := by
  refine alike.withAgents ?_
  have owners : ∀ a : Agent, (if decide (a.orgId = orgId ∧ a.id = agentId) then a.mark status env.currentTimestamp
      else a).orgId = a.orgId := by
    intro a
    split <;> rfl
  rw [Table.update, Table.update, ownedBy_map owners, ownedBy_map owners, alike.agents]

theorem of_setStatus {o : OrgId} (apart : o ≠ A) (status : AgentConnectionStatus) (env : Env) (agentId : AgentId) :
    Alike A stats db (db.setStatus status env o agentId) := by
  refine (refl db).withAgents ?_
  rw [Table.update, ownedBy_map_foreign]
  · intro a
    split <;> rfl
  · intro a _ own
    exact if_neg fun picked => apart ((of_decide_eq_true picked).1.symm.trans own)

end Alike

/-- The row of a first registration. -/
def newAgent (env : Env) (orgId : OrgId) (agentId : AgentId) (name : String) (modules : List ModuleId) : Agent :=
  { id := agentId, orgId, name, modules := .array modules, status := .online,
    registeredAt := env.currentTimestamp, lastSeenAt := env.currentTimestamp }

/-- The rows of `agents` after a registration. -/
theorem register_eq (env : Env) (orgId : OrgId) (agentId : AgentId) (name : String) (modules : List ModuleId)
    (db : Db) : ∃ agents : Table Agent Agent.key,
      db.register env orgId agentId name modules = { db with agents } ∧ agents.rows =
        if db.registered orgId agentId then
          db.agents.rows.map fun a =>
            if a.orgId = orgId ∧ a.id = agentId then a.rejoin name modules env.currentTimestamp else a
        else db.agents.rows ++ [newAgent env orgId agentId name modules] := by
  unfold register
  simp only
  split
  · rename_i agents inserted
    have fresh : db.registered orgId agentId = false := by
      rw [registered, getAgent, Option.isSome_eq_false_iff, Option.isNone_iff_eq_none]
      exact Table.insert_fresh inserted
    exact ⟨agents, rfl, by rw [fresh]; exact Table.insert_rows inserted⟩
  · rename_i inserted
    have known : db.registered orgId agentId := by
      by_contra unknown
      have fresh : db.agents.find (orgId, agentId) = none := by simpa [registered, getAgent] using unknown
      have room : (db.agents.insert (newAgent env orgId agentId name modules)).isSome := Table.insert_isSome.mpr fresh
      rw [newAgent, inserted] at room
      cases room
    exact ⟨_, rfl, by rw [if_pos known]; simp [Table.update]⟩

namespace Alike

theorem register (alike : Alike A stats db db') (env : Env) (agentId : AgentId) (name : String) (modules : List ModuleId) :
    Alike A stats (db.register env A agentId name modules) (db'.register env A agentId name modules) := by
  obtain ⟨agents, after, rows⟩ := register_eq env A agentId name modules db
  obtain ⟨agents', after', rows'⟩ := register_eq env A agentId name modules db'
  rw [after, after']
  refine alike.withAgents ?_
  rw [rows, rows', alike.registered]
  split
  · have owners : ∀ a : Agent, (if a.orgId = A ∧ a.id = agentId then a.rejoin name modules env.currentTimestamp
        else a).orgId = a.orgId := by
      intro a
      split <;> rfl
    rw [ownedBy_map owners, ownedBy_map owners, alike.agents]
  · rw [ownedBy_append, ownedBy_append, alike.agents]

theorem of_register {o : OrgId} (apart : o ≠ A) (env : Env) (agentId : AgentId) (name : String)
    (modules : List ModuleId) : Alike A stats db (db.register env o agentId name modules) := by
  obtain ⟨agents, after, rows⟩ := register_eq env o agentId name modules db
  rw [after]
  refine (refl db).withAgents ?_
  rw [rows]
  split
  · rw [ownedBy_map_foreign]
    · intro a
      split <;> rfl
    · intro a _ own
      exact if_neg fun picked => apart (picked.1.symm.trans own)
  · exact (ownedBy_push_foreign apart).symm

/-! File activity and work in flight. -/

theorem ranked_append (rows : List FileActivity) {new : FileActivity} (newest : ∀ r ∈ rows, r.id < new.id) :
    (rows ++ [new]).map (FileActivity.ranked (rows ++ [new])) =
      rows.map (FileActivity.ranked rows) ++ [{ new with id := rows.length + 1 }] := by
  have old : ∀ r ∈ rows, r.ranked (rows ++ [new]) = r.ranked rows := by
    intro r member
    have above := newest r member
    simp only [FileActivity.ranked, List.countP_append, List.countP_singleton]
    rw [if_neg (by simpa using above), Nat.add_zero]
  have last : new.ranked (rows ++ [new]) = { new with id := rows.length + 1 } := by
    have all : rows.countP (fun r => r.id ≤ new.id) = rows.length :=
      List.countP_eq_length.mpr fun r member => decide_eq_true (newest r member).le
    simp only [FileActivity.ranked, List.countP_append, List.countP_singleton, all]
    rw [if_pos (decide_eq_true le_rfl)]
  rw [List.map_append, List.map_congr_left old, List.map_singleton, last]

theorem le_foldl_max (ids : List Nat) (start : Nat) :
    start ≤ ids.foldl max start ∧ ∀ id ∈ ids, id ≤ ids.foldl max start := by
  induction ids generalizing start with
  | nil => simp
  | cons head rest ih =>
    obtain ⟨bound, later⟩ := ih (max start head)
    rw [List.foldl_cons]
    refine ⟨by omega, fun id member => ?_⟩
    rcases List.mem_cons.mp member with rfl | inRest
    · omega
    · exact later id inRest

/-- What an entry adds to the ranked rows of its org does not depend on the ids given out. -/
theorem filesOf_logFile (env : Env) (agentId : AgentId) (filePath : FilePath) (symbols : Option (List String)) :
    (db.logFile env A agentId filePath symbols).filesOf A =
      db.filesOf A ++ [{
        id := (db.filesOf A).length + 1, orgId := A, agentId, filePath
        symbolsTouched := match symbols with
          | none => .null
          | some items => .array items
        createdAt := env.currentTimestamp }] := by
  have newest : ∀ r ∈ ownedBy FileActivity.orgId A db.fileActivity,
      r.id < (db.fileActivity.map (·.id)).foldl max 0 + 1 := by
    intro r member
    have bound := (le_foldl_max (db.fileActivity.map (·.id)) 0).2 r.id
      (List.mem_map_of_mem (mem_ownedBy.mp member).1)
    omega
  simp only [filesOf, Db.logFile, List.length_map]
  rw [ownedBy_push_own (by rfl)]
  exact ranked_append _ newest

theorem logFile (alike : Alike A stats db db') (env : Env) (agentId : AgentId) (filePath : FilePath)
    (symbols : Option (List String)) :
    Alike A stats (db.logFile env A agentId filePath symbols) (db'.logFile env A agentId filePath symbols) := by
  refine { alike with files := ?_ }
  rw [filesOf_logFile, filesOf_logFile, alike.files]

theorem of_logFile {o : OrgId} (apart : o ≠ A) (env : Env) (agentId : AgentId) (filePath : FilePath)
    (symbols : Option (List String)) : Alike A stats db (db.logFile env o agentId filePath symbols) := by
  refine { refl db with files := ?_ }
  simp only [filesOf, Db.logFile]
  rw [ownedBy_push_foreign (by exact apart)]

theorem startWorking_eq (env : Env) (orgId : OrgId) (agentId : AgentId) (filePath : FilePath) (ttlMinutes : Nat) :
    db.startWorking env orgId agentId filePath ttlMinutes = { db with
      workingFiles := upsert (fun w => w.orgId = orgId ∧ w.agentId = agentId ∧ w.filePath = filePath)
        { orgId, agentId, filePath, claimUntil := env.now / 1000 + ttlMinutes * 60 } db.workingFiles } := rfl

theorem startWorking (alike : Alike A stats db db') (env : Env) (agentId : AgentId) (filePath : FilePath)
    (ttlMinutes : Nat) :
    Alike A stats (db.startWorking env A agentId filePath ttlMinutes)
      (db'.startWorking env A agentId filePath ttlMinutes) := by
  rw [startWorking_eq, startWorking_eq]
  exact alike.withWorking (ownedBy_upsert_congr (fun w same => (of_decide_eq_true same).1) rfl alike.working)

theorem of_startWorking {o : OrgId} (apart : o ≠ A) (env : Env) (agentId : AgentId) (filePath : FilePath)
    (ttlMinutes : Nat) : Alike A stats db (db.startWorking env o agentId filePath ttlMinutes) := by
  rw [startWorking_eq]
  exact (refl db).withWorking (ownedBy_upsert_foreign (fun w same => (of_decide_eq_true same).1) apart).symm

theorem stopWorking (alike : Alike A stats db db') (orgId : OrgId) (agentId : AgentId) (filePath : FilePath) :
    Alike A stats (db.stopWorking orgId agentId filePath) (db'.stopWorking orgId agentId filePath) := by
  refine alike.withWorking ?_
  rw [ownedBy_filter, ownedBy_filter, alike.working]

theorem of_stopWorking {o : OrgId} (apart : o ≠ A) (agentId : AgentId) (filePath : FilePath) :
    Alike A stats db (db.stopWorking o agentId filePath) := by
  refine (refl db).withWorking (Eq.symm (ownedBy_filter_foreign fun w own => ?_))
  exact decide_eq_true fun same => apart (same.1.symm.trans own)

theorem clearForAgent (alike : Alike A stats db db') (orgId : OrgId) (agentId : AgentId) :
    Alike A stats (db.clearForAgent orgId agentId) (db'.clearForAgent orgId agentId) := by
  refine alike.withWorking ?_
  rw [ownedBy_filter, ownedBy_filter, alike.working]

theorem of_clearForAgent {o : OrgId} (apart : o ≠ A) (agentId : AgentId) :
    Alike A stats db (db.clearForAgent o agentId) := by
  refine (refl db).withWorking (Eq.symm (ownedBy_filter_foreign fun w own => ?_))
  exact decide_eq_true fun same => apart (same.1.symm.trans own)

end Alike

end Db

end Coordinator
