import Coordinator.AnnounceOutcome
import Coordinator.TenantWrites

namespace Coordinator

namespace Db

/-- Two calls that leave databases alike and give the same result. -/
structure Agrees (A : OrgId) (stats : Prop) {α : Type} (r r' : Db × α) : Prop where
  alike : Alike A stats r.1 r'.1
  result : r.2 = r'.2

theorem Agrees.split {A : OrgId} {stats : Prop} {α : Type} {r r' : Db × α} (agrees : Agrees A stats r r') :
    ∃ after after' result, r = (after, result) ∧ r' = (after', result) ∧ Alike A stats after after' := by
  obtain ⟨after, result⟩ := r
  obtain ⟨after', result'⟩ := r'
  obtain ⟨alike, rfl⟩ := agrees
  exact ⟨after, after', result, rfl, rfl, alike⟩

/-- The id is used nowhere: by no thread, and by no message for its thread. -/
def FreshThread (db : Db) (k : ThreadId) : Prop :=
  db.threads.find k = none ∧ ∀ m ∈ db.messages, m.threadId ≠ k

instance (db : Db) (k : ThreadId) : Decidable (db.FreshThread k) := inferInstanceAs (Decidable (_ ∧ _))

/-- The firings the announce flow logs: one per peer that scores 30 or more. -/
def announceFirings (env : Env) (k : ThreadId) (params : CommonFlowParams) (db : Db) : List LayerFiring :=
  ((db.flowImpact env params).concerned ++ (db.flowImpact env params).grayZone).map fun s =>
    { orgId := defaultOrg, threadId := k, layer := inferLayerFromReasons s.reasons, score := s.score
      agentId := s.agentId, firedAt := env.currentTimestamp }

theorem overrideRespondents_eq (env : Env) (k : ThreadId) (params : CommonFlowParams) (db : Db) :
    db.overrideRespondents env k params =
      (({ db.heartbeat env params.orgId params.agentId with
          layerFirings := db.layerFirings ++ db.announceFirings env k params } : Db).updateThread params.orgId k
            (.expect ((db.flowImpact env params).concerned.map (·.agentId))) (Thread.expect_id _),
        db.flowImpact env params) := rfl

variable {A o : OrgId} {stats : Prop} {db db' : Db}

/-- A thread of one org is none of another's. -/
theorem getThread_foreign (apart : o ≠ A) {k : ThreadId} {t : Thread} (found : db.getThread o k = some t) :
    db.getThread A k = none := by
  obtain ⟨row, atOrg⟩ := getThread_eq_some.mp found
  rw [getThread, row, Option.filter_some, if_neg]
  rw [decide_eq_true_eq, atOrg]
  exact apart

theorem getThread_mem {k : ThreadId} {t : Thread} (member : t ∈ db.threads.rows) (own : t.orgId = A) (atId : t.id = k) :
    db.getThread A k = some t :=
  getThread_eq_some.mpr ⟨Table.find_eq_some.mpr ⟨member, atId⟩, own⟩

namespace Alike

/-- The database of a result, once the result is known. -/
theorem reaches {α : Type} {r : Db × α} {after : Db} {x : α} (kept : Alike A stats db r.1) (result : r = (after, x)) :
    Alike A stats db after := by
  rw [result] at kept
  exact kept

/-! Announcing. -/

/-- Inserting a thread of the org under a fresh id. -/
theorem insertThread (alike : Alike A stats db db') {row : Thread} (fresh : db.FreshThread row.id)
    (fresh' : db'.FreshThread row.id) {T T' : Table Thread Thread.id} (rows : T.rows = db.threads.rows ++ [row])
    (rows' : T'.rows = db'.threads.rows ++ [row]) :
    Alike A stats { db with threads := T } { db' with threads := T' } := by
  have unread : ∀ {db : Db} {T : Table Thread Thread.id}, T.rows = db.threads.rows ++ [row] → db.FreshThread row.id →
      ({ db with threads := T } : Db).messagesOf A = db.messagesOf A := by
    intro db T rows fresh
    refine List.filter_congr fun m member => ?_
    simp only [Db.joined, rows, List.any_append, List.any_cons, List.any_nil, Bool.or_false, fresh.2 m member,
      false_and, decide_false]
  refine { alike with threads := ?_, messages := ?_ }
  · rw [rows, rows', ownedBy_append, ownedBy_append, alike.threads]
  · rw [unread rows fresh, unread rows' fresh', alike.messages]

theorem of_insertThread {row : Thread} (foreign : row.orgId ≠ A) {T : Table Thread Thread.id}
    (rows : T.rows = db.threads.rows ++ [row]) : Alike A stats db { db with threads := T } := by
  refine { refl db with threads := ?_, messages := ?_ }
  · rw [rows, ownedBy_push_foreign foreign]
  · refine List.filter_congr fun m _ => ?_
    simp [Db.joined, rows, foreign]

theorem announceWork (alike : Alike A stats db db') {env : Env} (fresh : db.FreshThread (env.uuid 0))
    (fresh' : db'.FreshThread (env.uuid 0)) (params : AnnounceParams) :
    Agrees A stats (db.announceWork env A params) (db'.announceWork env A params) := by
  unfold Db.announceWork
  simp only
  rw [alike.registered, alike.moduleRespondents]
  split
  · obtain ⟨T, inserted⟩ := Option.isSome_iff_exists.mp (Table.insert_isSome.mpr
      (show db.threads.find (announcedThread env A params (db'.moduleRespondents A params.agentId
        params.targetModules)).id = none from fresh.1))
    obtain ⟨T', inserted'⟩ := Option.isSome_iff_exists.mp (Table.insert_isSome.mpr
      (show db'.threads.find (announcedThread env A params (db'.moduleRespondents A params.agentId
        params.targetModules)).id = none from fresh'.1))
    rw [inserted, inserted']
    exact ⟨alike.insertThread fresh fresh' (Table.insert_rows inserted) (Table.insert_rows inserted'), rfl⟩
  · exact ⟨alike, rfl⟩

theorem of_announceWork (apart : o ≠ A) (env : Env) (params : AnnounceParams) :
    Alike A stats db (db.announceWork env o params).1 := by
  unfold Db.announceWork
  simp only
  split
  · split
    · rename_i T inserted
      exact of_insertThread apart (Table.insert_rows inserted)
    · exact refl db
  · exact refl db

theorem setConflicts (alike : Alike A stats db db') (k : ThreadId) (conflicts : List ConflictReport) :
    Alike A stats (db.setConflicts k conflicts) (db'.setConflicts k conflicts) := by
  unfold Db.setConflicts
  split
  · exact alike
  · exact alike.updateRows (fun _ _ => rfl) _ fun _ => rfl

theorem of_setConflicts {k : ThreadId} (foreign : db.getThread A k = none) (conflicts : List ConflictReport) :
    Alike A stats db (db.setConflicts k conflicts) := by
  unfold Db.setConflicts
  split
  · exact refl db
  · refine of_update (fun t member own picked => ?_) _ fun _ => rfl
    have found := getThread_mem member own (of_decide_eq_true picked)
    rw [foreign] at found
    cases found

theorem flowImpact (alike : Alike A stats db db') (env : Env) {params : CommonFlowParams} (own : params.orgId = A) :
    db.flowImpact env params = db'.flowImpact env params :=
  (alike.setStatus .online env params.orgId params.agentId).categorize env own

theorem overrideRespondents (alike : Alike A stats db db') (env : Env) (k : ThreadId) (params : CommonFlowParams)
    (own : params.orgId = A) :
    Agrees A stats (db.overrideRespondents env k params) (db'.overrideRespondents env k params) := by
  have alive := alike.setStatus .online env params.orgId params.agentId
  rw [overrideRespondents_eq, overrideRespondents_eq, announceFirings, announceFirings, alike.flowImpact env own]
  refine ⟨updateThread (alive.withFirings fun asked => ?_) _ _ _ fun _ => rfl, rfl⟩
  rw [ownedBy_append, ownedBy_append, alike.firings asked]

/-- The firings of others land in the default org, so another org does not see them. -/
theorem of_overrideRespondents {params : CommonFlowParams} (apart : params.orgId ≠ A) (env : Env) (k : ThreadId)
    (quiet : stats → A = defaultOrg → db.announceFirings env k params = []) :
    Alike A stats db (db.overrideRespondents env k params).1 := by
  have alive : Alike A stats db (db.heartbeat env params.orgId params.agentId) := of_setStatus apart ..
  have logged : Alike A stats { db with layerFirings := db.layerFirings }
      { db.heartbeat env params.orgId params.agentId with
        layerFirings := db.layerFirings ++ db.announceFirings env k params } := by
    refine alive.withFirings fun asked => ?_
    by_cases default : A = defaultOrg
    · rw [quiet asked default, List.append_nil]
    · have elsewhere : ownedBy LayerFiring.orgId A (db.announceFirings env k params) = [] := by
        rw [ownedBy, List.filter_eq_nil_iff]
        intro lf member
        obtain ⟨s, -, rfl⟩ := List.mem_map.mp member
        simpa using Ne.symm default
      rw [ownedBy_append, elsewhere, List.append_nil]
  rw [overrideRespondents_eq]
  exact logged.trans (of_updateThread apart _ _ fun _ => rfl)

theorem createIntrospection (alike : Alike A stats db db') {k : ThreadId} (found : (db.getThread A k).isSome)
    (id : String) (agentId : AgentId) (score : Nat) (reasons : List String) :
    Agrees A stats (db.createIntrospection id A k agentId score reasons)
      (db'.createIntrospection id A k agentId score reasons) := by
  have exists' : ∀ {db : Db}, (db.getThread A k).isSome → (db.getThreadCrossOrg k).isSome := by
    intro db found
    obtain ⟨t, target⟩ := Option.isSome_iff_exists.mp found
    rw [getThreadCrossOrg, (getThread_eq_some.mp target).1]
    rfl
  simp only [Db.createIntrospection, alike.registered, exists' found, exists' (alike.getThread k ▸ found)]
  split
  · refine ⟨alike.withIntrospections ?_, rfl⟩
    rw [ownedBy_append, ownedBy_append, alike.introspections]
  · exact ⟨alike, rfl⟩

theorem of_createIntrospection (apart : o ≠ A) (id : String) (k : ThreadId) (agentId : AgentId) (score : Nat)
    (reasons : List String) : Alike A stats db (db.createIntrospection id o k agentId score reasons).1 := by
  unfold Db.createIntrospection
  split
  · exact (refl db).withIntrospections (ownedBy_push_foreign apart).symm
  · exact refl db

theorem createIntrospections (alike : Alike A stats db db') (env : Env) {k : ThreadId}
    (found : (db.getThread A k).isSome) (scores : List ImpactScore) (n : Nat) :
    Agrees A stats (db.createIntrospections env A k scores n) (db'.createIntrospections env A k scores n) := by
  induction scores generalizing n db db' with
  | nil => exact ⟨alike, rfl⟩
  | cons s rest ih =>
    have asked := alike.createIntrospection found (env.uuid n) s.agentId s.score s.reasons
    have same : (db.createIntrospection (env.uuid n) A k s.agentId s.score s.reasons).1.getThread A k =
        db.getThread A k := by
      unfold Db.createIntrospection
      split <;> rfl
    unfold Db.createIntrospections
    obtain ⟨created, created', outcome, first, first', kept⟩ := asked.split
    rw [first, first']
    rw [first] at same
    cases outcome with
    | ok _ => exact ih kept (same ▸ found) (n + 1)
    | error e => exact ⟨kept, rfl⟩

theorem of_createIntrospections (apart : o ≠ A) (env : Env) (k : ThreadId) (scores : List ImpactScore) (n : Nat) :
    Alike A stats db (db.createIntrospections env o k scores n).1 := by
  induction scores generalizing n db with
  | nil => exact refl db
  | cons s rest ih =>
    have asked : Alike A stats db (db.createIntrospection (env.uuid n) o k s.agentId s.score s.reasons).1 :=
      of_createIntrospection apart ..
    unfold Db.createIntrospections
    split
    · rename_i created result
      rw [result] at asked
      exact asked.trans (ih (n + 1))
    · rename_i failed e result
      exact asked.reaches result

theorem finishFlow (alike : Alike A stats db db') (env : Env) {k : ThreadId} {params : CommonFlowParams}
    (own : params.orgId = A) (found : (db.getThread A k).isSome) (categorized : CategorizedImpact) :
    Agrees A stats (db.finishFlow env k params categorized) (db'.finishFlow env k params categorized) := by
  subst own
  obtain ⟨after, after', outcome, first, first', kept⟩ :=
    (alike.createIntrospections env found categorized.grayZone 0).split
  unfold Db.finishFlow
  simp only [first, first']
  cases outcome with
  | error e => exact ⟨kept, rfl⟩
  | ok _ =>
    simp only [kept.getThread]
    split
    · exact ⟨kept, rfl⟩
    · exact ⟨kept, rfl⟩

theorem of_finishFlow {params : CommonFlowParams} (apart : params.orgId ≠ A) (env : Env) (k : ThreadId)
    (categorized : CategorizedImpact) : Alike A stats db (db.finishFlow env k params categorized).1 := by
  have asked : Alike A stats db (db.createIntrospections env params.orgId k categorized.grayZone 0).1 :=
    of_createIntrospections apart ..
  unfold Db.finishFlow
  simp only
  split
  · rename_i failed e result
    exact asked.reaches result
  · rename_i created result
    rw [result] at asked
    split
    · exact asked
    · exact asked

/-- The flow on a thread of the org. -/
theorem runCommonAnnounceFlow (alike : Alike A stats db db') (env : Env) {k : ThreadId} (params : CommonFlowParams)
    (own : params.orgId = A) (found : (db.getThread A k).isSome) :
    Agrees A stats (db.runCommonAnnounceFlow env k params) (db'.runCommonAnnounceFlow env k params) := by
  subst own
  obtain ⟨kept, impact⟩ := alike.overrideRespondents env k params rfl
  obtain ⟨t, target⟩ := Option.isSome_iff_exists.mp found
  have row : (db.overrideRespondents env k params).1.getThread params.orgId k =
      some (t.expect (db.flowConcerned env params)) := by
    rw [(overrideRespondents_rewrites env k params db).getThread fun _ => rfl, target]
    rfl
  have row' : (db'.overrideRespondents env k params).1.getThread params.orgId k =
      some (t.expect (db.flowConcerned env params)) := kept.getThread k ▸ row
  unfold Db.runCommonAnnounceFlow
  simp only [row, row', impact, kept.otherOnline]
  split
  · have resolved := kept.updateThread params.orgId k (Thread.resolve_id env.isoNow) fun _ => rfl
    refine finishFlow (resolved.emitResolution env k _ _ _) env rfl ?_ _
    rw [(resolve_rewrites env params.orgId k .autoResolved none none _).getThread fun _ => rfl, row]
    rfl
  · exact kept.finishFlow env rfl (by rw [row]; rfl) _

theorem of_runCommonAnnounceFlow {params : CommonFlowParams} (apart : params.orgId ≠ A) {k : ThreadId}
    (foreign : db.getThread A k = none) (env : Env)
    (quiet : stats → A = defaultOrg → db.announceFirings env k params = []) :
    Alike A stats db (db.runCommonAnnounceFlow env k params).1 := by
  have overridden : Alike A stats db (db.overrideRespondents env k params).1 :=
    of_overrideRespondents apart env k quiet
  have resolved : Alike A stats db ((db.overrideRespondents env k params).1.updateThread params.orgId k
      (.resolve env.isoNow) (Thread.resolve_id _)) := overridden.trans (of_updateThread apart _ _ fun _ => rfl)
  unfold Db.runCommonAnnounceFlow
  simp only
  split
  · split
    · refine (resolved.trans (of_emitResolution ?_ ..)).trans (of_finishFlow apart ..)
      rw [← resolved.getThread, foreign]
    · exact overridden.trans (of_finishFlow apart ..)
  · split
    · exact overridden
    · exact overridden.trans (of_finishFlow apart ..)

/-! Messages and the life of a thread. -/

theorem agrees_insertMessage (alike : Alike A stats db db') {m : ThreadMessage} (own : m.orgId = A) :
    Agrees A stats (db.insertMessage m) (db'.insertMessage m) := ⟨(alike.insertMessage own).1, (alike.insertMessage own).2⟩

/-- Messages for a thread that is not of the org. -/
theorem of_message {m : ThreadMessage} (foreign : db.getThread A m.threadId = none) :
    Alike A stats db (db.insertMessage m).1 := by
  refine of_insertMessage fun joins => ?_
  simp only [Db.joined, List.any_eq_true, decide_eq_true_eq] at joins
  obtain ⟨t, member, atThread, own⟩ := joins
  have found := getThread_mem member own atThread.symm
  rw [foreign] at found
  cases found

theorem postToThread (alike : Alike A stats db db') (env : Env) (params : PostParams) :
    Agrees A stats (db.postToThread env A params) (db'.postToThread env A params) := by
  unfold Db.postToThread
  rw [alike.getThread]
  split
  · exact ⟨alike, rfl⟩
  · split
    · exact ⟨alike, rfl⟩
    · exact alike.agrees_insertMessage rfl

theorem of_postToThread (apart : o ≠ A) (env : Env) (params : PostParams) :
    Alike A stats db (db.postToThread env o params).1 := by
  unfold Db.postToThread
  split
  · exact refl db
  · rename_i t target
    split
    · exact refl db
    · exact of_message (getThread_foreign apart target)

theorem postResolutionMessage (alike : Alike A stats db db') (env : Env) (k : ThreadId) (agentId : AgentId)
    (type : MessageType) (content : String) :
    Agrees A stats (db.postResolutionMessage env A k agentId type content)
      (db'.postResolutionMessage env A k agentId type content) := by
  unfold Db.postResolutionMessage
  rw [alike.getThread]
  split
  · exact ⟨alike, rfl⟩
  · exact alike.agrees_insertMessage rfl

theorem of_postResolutionMessage (apart : o ≠ A) (env : Env) (k : ThreadId) (agentId : AgentId) (type : MessageType)
    (content : String) : Alike A stats db (db.postResolutionMessage env o k agentId type content).1 := by
  unfold Db.postResolutionMessage
  split
  · exact refl db
  · rename_i t target
    exact of_message (getThread_foreign apart target)

theorem void {r r' : Outcome ThreadMessage} (agrees : Agrees A stats r r') : Agrees A stats r.void r'.void :=
  ⟨agrees.alike, by rw [Outcome.void, Outcome.void, agrees.result]⟩

theorem proposeResolution (alike : Alike A stats db db') (env : Env) (k : ThreadId) (agentId : AgentId)
    (summary : String) :
    Agrees A stats (db.proposeResolution env A k agentId summary) (db'.proposeResolution env A k agentId summary) := by
  have proposed := alike.updateThread A k (Thread.propose_id summary) fun _ => rfl
  unfold Db.proposeResolution
  rw [alike.getThread]
  split
  · exact ⟨alike, rfl⟩
  · split
    · exact ⟨alike, rfl⟩
    · exact void (proposed.postResolutionMessage ..)

theorem of_proposeResolution (apart : o ≠ A) (env : Env) (k : ThreadId) (agentId : AgentId) (summary : String) :
    Alike A stats db (db.proposeResolution env o k agentId summary).1 := by
  have proposed : Alike A stats db (db.updateThread o k (.propose summary) (Thread.propose_id summary)) :=
    of_updateThread apart _ _ fun _ => rfl
  unfold Db.proposeResolution
  split
  · exact refl db
  · split
    · exact refl db
    · exact proposed.trans (of_postResolutionMessage apart ..)

theorem cancelThread (alike : Alike A stats db db') (env : Env) (k : ThreadId) (agentId : AgentId)
    (reason : Option String) :
    Agrees A stats (db.cancelThread env A k agentId reason) (db'.cancelThread env A k agentId reason) := by
  have cancelled := alike.updateThread A k (Thread.cancel_id env.isoNow) fun _ => rfl
  unfold Db.cancelThread
  rw [alike.getThread]
  split
  · exact ⟨alike, rfl⟩
  · split
    · exact ⟨alike, rfl⟩
    · simp only
      split
      · exact ⟨cancelled, rfl⟩
      · exact void (cancelled.postResolutionMessage ..)

theorem of_cancelThread (apart : o ≠ A) (env : Env) (k : ThreadId) (agentId : AgentId) (reason : Option String) :
    Alike A stats db (db.cancelThread env o k agentId reason).1 := by
  have cancelled : Alike A stats db (db.updateThread o k (.cancel env.isoNow) (Thread.cancel_id env.isoNow)) :=
    of_updateThread apart _ _ fun _ => rfl
  unfold Db.cancelThread
  split
  · exact refl db
  · split
    · exact refl db
    · simp only
      split
      · exact cancelled
      · exact cancelled.trans (of_postResolutionMessage apart ..)

theorem closeThread (alike : Alike A stats db db') (env : Env) (k : ThreadId) (agentId : AgentId) (summary : String) :
    Agrees A stats (db.closeThread env A k agentId summary) (db'.closeThread env A k agentId summary) := by
  have closed := alike.updateThread A k (Thread.close_id summary env.isoNow) fun _ => rfl
  unfold Db.closeThread
  rw [alike.getThread]
  split
  · exact ⟨alike, rfl⟩
  · split
    · exact ⟨alike, rfl⟩
    · split
      · exact ⟨alike, rfl⟩
      · exact ⟨closed.emitResolution .., rfl⟩

/-- A rewrite of a thread of another org, and its resolution sent on. -/
theorem of_settle (apart : o ≠ A) {k : ThreadId} {t : Thread} (target : db.getThread o k = some t) (env : Env)
    {f : Thread → Thread} (keeps : ∀ t, (f t).id = t.id) (keepsOrg : ∀ t, (f t).orgId = t.orgId)
    (type : ResolutionType) (approvedBy approvedByName : Option String) :
    Alike A stats db ((db.updateThread o k f keeps).emitResolution env k type approvedBy approvedByName) := by
  have settled : Alike A stats db (db.updateThread o k f keeps) := of_updateThread apart k keeps keepsOrg
  refine settled.trans (of_emitResolution ?_ ..)
  rw [← settled.getThread, getThread_foreign apart target]

theorem of_closeThread (apart : o ≠ A) (env : Env) (k : ThreadId) (agentId : AgentId) (summary : String) :
    Alike A stats db (db.closeThread env o k agentId summary).1 := by
  unfold Db.closeThread
  split
  · exact refl db
  · rename_i t target
    split
    · exact refl db
    · split
      · exact refl db
      · exact of_settle apart target env (Thread.close_id summary env.isoNow) (fun _ => rfl) ..

theorem changes (alike : Alike A stats db db') {p p' : Thread → Bool} (within : ∀ t, p t → t.orgId = A)
    (within' : ∀ t, p' t → t.orgId = A) (agree : ∀ t, t.orgId = A → p t = p' t) :
    db.threads.changes p = db'.threads.changes p' := by
  rw [Table.changes, Table.changes, countP_scoped within, countP_scoped within', alike.threads]
  refine List.countP_congr fun t member => ?_
  rw [agree t (mem_ownedBy.mp member).2]

theorem approveResolution (alike : Alike A stats db db') (env : Env) (k : ThreadId) (agentId : AgentId)
    (agentName : Option String) :
    Agrees A stats (db.approveResolution env A k agentId agentName)
      (db'.approveResolution env A k agentId agentName) := by
  obtain ⟨after, after', outcome, first, first', kept⟩ :=
    (alike.postResolutionMessage env k agentId .approve "Approved").split
  unfold Db.approveResolution
  rw [alike.getThread, first, first']
  split
  · exact ⟨alike, rfl⟩
  · split
    · exact ⟨alike, rfl⟩
    · cases outcome with
      | error e => exact ⟨alike, rfl⟩
      | ok m =>
        have within : ∀ t : Thread, decide (t.id = k ∧ t.orgId = A ∧ t.status = .resolving) = true → t.orgId = A :=
          fun t won => (of_decide_eq_true won).2.1
        have wins := kept.changes within within fun _ _ => rfl
        have resolved := kept.updateRows (p := fun t => t.id = k ∧ t.orgId = A ∧ t.status = .resolving)
          (fun _ _ => rfl) (Thread.resolve_id env.isoNow) fun _ => rfl
        simp only [kept.allRespondentsApproved]
        split
        · rw [wins]
          split
          · exact ⟨resolved.emitResolution .., rfl⟩
          · exact ⟨resolved, rfl⟩
        · exact ⟨kept, rfl⟩

theorem of_approveResolution (apart : o ≠ A) (env : Env) (k : ThreadId) (agentId : AgentId)
    (agentName : Option String) : Alike A stats db (db.approveResolution env o k agentId agentName).1 := by
  have posted : Alike A stats db (db.postResolutionMessage env o k agentId .approve "Approved").1 :=
    of_postResolutionMessage apart ..
  unfold Db.approveResolution
  split
  · exact refl db
  · rename_i t target
    split
    · exact refl db
    · split
      · exact refl db
      · rename_i after m result
        rw [result] at posted
        have resolved : Alike A stats db { after with
            threads := after.threads.update (fun t => t.id = k ∧ t.orgId = o ∧ t.status = .resolving)
              (.resolve env.isoNow) (Thread.resolve_id env.isoNow) } := by
          refine posted.trans (of_update (fun t _ own won => ?_) _ fun _ => rfl)
          exact apart ((of_decide_eq_true won).2.1.symm.trans own)
        split
        · simp only
          split
          · refine resolved.trans (of_emitResolution ?_ ..)
            rw [← resolved.getThread, getThread_foreign apart target]
          · exact resolved
        · exact posted

theorem contestResolution (alike : Alike A stats db db') (env : Env) (k : ThreadId) (agentId : AgentId)
    (reason : String) :
    Agrees A stats (db.contestResolution env A k agentId reason) (db'.contestResolution env A k agentId reason) := by
  obtain ⟨after, after', outcome, first, first', kept⟩ :=
    (alike.postResolutionMessage env k agentId .contest reason).split
  unfold Db.contestResolution
  rw [alike.getThread, first, first']
  split
  · exact ⟨alike, rfl⟩
  · rename_i t target
    split
    · exact ⟨alike, rfl⟩
    · cases outcome with
      | error e => exact ⟨kept, rfl⟩
      | ok m =>
        simp only
        split
        · exact ⟨(kept.updateThread A k (Thread.resolve_id env.isoNow) fun _ => rfl).emitResolution .., rfl⟩
        · exact ⟨kept.updateThread A k (Thread.reopen_id (t.round + 1)) fun _ => rfl, rfl⟩

theorem of_contestResolution (apart : o ≠ A) (env : Env) (k : ThreadId) (agentId : AgentId) (reason : String) :
    Alike A stats db (db.contestResolution env o k agentId reason).1 := by
  have posted : Alike A stats db (db.postResolutionMessage env o k agentId .contest reason).1 :=
    of_postResolutionMessage apart ..
  unfold Db.contestResolution
  split
  · exact refl db
  · rename_i t target
    split
    · exact refl db
    · split
      · rename_i failed e result
        exact posted.reaches result
      · rename_i after m result
        rw [result] at posted
        simp only
        split
        · have resolved : Alike A stats db (after.updateThread o k (.resolve env.isoNow) (Thread.resolve_id env.isoNow)) :=
            posted.trans (of_updateThread apart _ _ fun _ => rfl)
          refine resolved.trans (of_emitResolution ?_ ..)
          rw [← resolved.getThread, getThread_foreign apart target]
        · exact posted.trans (of_updateThread apart _ _ fun _ => rfl)

/-! Claims. -/

theorem heldElsewhere (alike : Alike A stats db db') (agentId : AgentId) {t : Thread} (own : t.orgId = A) :
    db.heldElsewhere agentId t = db'.heldElsewhere agentId t := by
  simp only [Db.heldElsewhere, own, any_scoped, alike.threads]

theorem claimable (alike : Alike A stats db db') (k : ThreadId) (agentId : AgentId) {t : Thread} (own : t.orgId = A) :
    db.claimable A k agentId t = db'.claimable A k agentId t := by
  simp only [Db.claimable, alike.heldElsewhere agentId own]

theorem findClaimFileConflict (alike : Alike A stats db db') (k : ThreadId) (agentId : AgentId) :
    db.findClaimFileConflict A k agentId = db'.findClaimFileConflict A k agentId := by
  simp only [Db.findClaimFileConflict, alike.getThread, filter_scoped, alike.threads]

theorem handleClaimTask (alike : Alike A stats db db') (env : Env) (k : ThreadId) (agentId : AgentId) :
    Agrees A stats (db.handleClaimTask env A k agentId) (db'.handleClaimTask env A k agentId) := by
  have within : ∀ (db : Db) (t : Thread), db.claimable A k agentId t → t.orgId = A :=
    fun db t free => (of_decide_eq_true free).2.1
  have wins := alike.changes (within db) (within db') fun t own => alike.claimable k agentId own
  have claimed := alike.updateRows (fun t own => alike.claimable k agentId own) (Thread.claim_id agentId env.isoNow)
    fun _ => rfl
  unfold Db.handleClaimTask
  simp only [wins]
  split
  · exact ⟨claimed, rfl⟩
  · refine ⟨claimed, ?_⟩
    rw [claimed.getThread, claimed.findClaimFileConflict]

theorem of_handleClaimTask (apart : o ≠ A) (env : Env) (k : ThreadId) (agentId : AgentId) :
    Alike A stats db (db.handleClaimTask env o k agentId).1 := by
  have claimed : Alike A stats db { db with
      threads := db.threads.update (db.claimable o k agentId) (.claim agentId env.isoNow) (Thread.claim_id _ _) } := by
    refine of_update (fun t _ own free => ?_) _ fun _ => rfl
    exact apart ((of_decide_eq_true free).2.1.symm.trans own)
  unfold Db.handleClaimTask
  simp only
  split
  · exact claimed
  · exact claimed

theorem handleUnclaimTask (alike : Alike A stats db db') (k : ThreadId) (agentId : AgentId) :
    Agrees A stats (db.handleUnclaimTask A k agentId) (db'.handleUnclaimTask A k agentId) := by
  have within : ∀ t : Thread, unclaimable A k agentId t → t.orgId = A := fun t held => (of_decide_eq_true held).2.1
  have wins := alike.changes within within fun _ _ => rfl
  have released := alike.updateRows (p := unclaimable A k agentId) (fun _ _ => rfl) Thread.release_id fun _ => rfl
  unfold Db.handleUnclaimTask
  simp only [wins]
  rw [released.getThread]
  split
  · exact ⟨released, rfl⟩
  · split
    · exact ⟨released.updateRows (fun _ _ => rfl) Thread.poison_id fun _ => rfl, rfl⟩
    · exact ⟨released, rfl⟩

theorem of_handleUnclaimTask (apart : o ≠ A) (k : ThreadId) (agentId : AgentId) :
    Alike A stats db (db.handleUnclaimTask o k agentId).1 := by
  have released : Alike A stats db { db with
      threads := db.threads.update (unclaimable o k agentId) .release Thread.release_id } := by
    refine of_update (fun t _ own held => ?_) _ fun _ => rfl
    exact apart ((of_decide_eq_true held).2.1.symm.trans own)
  unfold Db.handleUnclaimTask
  simp only
  split
  · exact released
  · split
    · refine released.trans (of_update (fun t _ own open' => ?_) _ fun _ => rfl)
      exact apart ((of_decide_eq_true open').2.1.symm.trans own)
    · exact released

/-! Introspections. -/

theorem respondIntrospection (alike : Alike A stats db db') (env : Env) (id : String) (response : String) :
    Agrees A stats (db.respondIntrospection env A id response) (db'.respondIntrospection env A id response) := by
  have owners : ∀ r : IntrospectionRecord, (if r.orgId = A ∧ r.id = id then
      { r with response := some response, status := .responded, respondedAt := some env.isoNow } else r).orgId =
        r.orgId := by
    intro r
    split <;> rfl
  have answered : Alike A stats (db.respondIntrospection env A id response).1
      (db'.respondIntrospection env A id response).1 := by
    refine alike.withIntrospections ?_
    rw [ownedBy_map owners, ownedBy_map owners, alike.introspections]
  refine ⟨answered, ?_⟩
  have rows := answered.introspections
  simp only [Db.respondIntrospection, find?_scoped] at rows ⊢
  rw [rows]

theorem of_respondIntrospection (apart : o ≠ A) (env : Env) (id : String) (response : String) :
    Alike A stats db (db.respondIntrospection env o id response).1 := by
  refine (refl db).withIntrospections (Eq.symm (ownedBy_map_foreign (fun r => ?_) fun r _ own => ?_))
  · split <;> rfl
  · exact if_neg fun hit => apart (hit.1.symm.trans own)

theorem handleIntrospectionResponse (alike : Alike A stats db db') (env : Env) (introspectionId : String)
    (concerned : Bool) (reason : String) :
    Agrees A stats (db.handleIntrospectionResponse env A introspectionId concerned reason)
      (db'.handleIntrospectionResponse env A introspectionId concerned reason) := by
  obtain ⟨answered, same⟩ := alike.respondIntrospection env introspectionId reason
  unfold Db.handleIntrospectionResponse
  simp only [same]
  split
  · exact ⟨answered, rfl⟩
  · rw [answered.getThread]
    split
    · exact ⟨answered, rfl⟩
    · split
      · exact ⟨answered.updateThread A _ (Thread.expect_id _) fun _ => rfl, rfl⟩
      · exact ⟨answered, rfl⟩

theorem of_handleIntrospectionResponse (apart : o ≠ A) (env : Env) (introspectionId : String) (concerned : Bool)
    (reason : String) :
    Alike A stats db (db.handleIntrospectionResponse env o introspectionId concerned reason).1 := by
  have answered : Alike A stats db (db.respondIntrospection env o introspectionId reason).1 :=
    of_respondIntrospection apart ..
  unfold Db.handleIntrospectionResponse
  simp only
  split
  · exact answered
  · split
    · exact answered
    · split
      · exact answered.trans (of_updateThread apart _ _ fun _ => rfl)
      · exact answered

/-! Departures and timeouts. -/

/-- An update by id, where the id is no thread of the org. -/
theorem of_updateThread_missing {k : ThreadId} (foreign : db.getThread A k = none) (orgId : OrgId)
    {f : Thread → Thread} (keeps : ∀ t, (f t).id = t.id) (keepsOrg : ∀ t, (f t).orgId = t.orgId) :
    Alike A stats db (db.updateThread orgId k f keeps) := by
  refine of_update (fun t member own picked => ?_) keeps keepsOrg
  have found := getThread_mem member own (of_decide_eq_true picked).1
  rw [foreign] at found
  cases found

theorem of_departThread {thread : Thread} (foreign : db.getThread A thread.id = none) (env : Env) (agentId : AgentId) :
    Alike A stats db (departThread env agentId db thread) := by
  have resolves : ∀ {mid : Db}, Alike A stats db mid → Alike A stats db
      ((mid.updateThread thread.orgId thread.id (.resolve env.isoNow) (Thread.resolve_id _)).emitResolution env thread.id
        .agentDeparture none none) := by
    intro mid kept
    have missing : mid.getThread A thread.id = none := by rw [← kept.getThread, foreign]
    have resolved : Alike A stats db (mid.updateThread thread.orgId thread.id (.resolve env.isoNow) (Thread.resolve_id _)) :=
      kept.trans (of_updateThread_missing missing _ _ fun _ => rfl)
    refine resolved.trans (of_emitResolution ?_ ..)
    rw [← resolved.getThread, foreign]
  have filtered : Alike A stats db (db.updateThread thread.orgId thread.id
      (.expect (thread.respondents.filter (· ≠ agentId))) (Thread.expect_id _)) :=
    of_updateThread_missing foreign _ _ fun _ => rfl
  unfold Db.departThread
  simp only
  split
  · exact filtered
  · split
    · split
      · exact resolves (resolves filtered)
      · exact resolves filtered
    · split
      · exact resolves filtered
      · exact filtered

theorem departThread (alike : Alike A stats db db') (env : Env) (agentId : AgentId) {thread : Thread}
    (own : thread.orgId = A) :
    Alike A stats (departThread env agentId db thread) (departThread env agentId db' thread) := by
  subst own
  cases found : db.getThread thread.orgId thread.id with
  | none =>
    have missing : db'.getThread thread.orgId thread.id = none := alike.getThread _ ▸ found
    exact (of_departThread found env agentId).symm.trans (alike.trans (of_departThread missing env agentId))
  | some t =>
    have resolves : ∀ {mid mid' : Db}, Alike thread.orgId stats mid mid' → Alike thread.orgId stats
        ((mid.updateThread thread.orgId thread.id (.resolve env.isoNow) (Thread.resolve_id _)).emitResolution env thread.id
          .agentDeparture none none)
        ((mid'.updateThread thread.orgId thread.id (.resolve env.isoNow) (Thread.resolve_id _)).emitResolution env thread.id
          .agentDeparture none none) :=
      fun kept => (kept.updateThread _ _ (Thread.resolve_id env.isoNow) fun _ => rfl).emitResolution ..
    let updated := thread.respondents.filter (· ≠ agentId)
    have filtered := alike.updateThread thread.orgId thread.id (Thread.expect_id updated) fun _ => rfl
    have rewrites : db.Rewrites (db.updateThread thread.orgId thread.id (.expect updated) (Thread.expect_id updated))
        thread.orgId thread.id (.expect updated) := fun k => updateThread_find ..
    have row := rewrites.getThread fun _ => rfl
    rw [found, Option.map_some] at row
    have cross := (getThread_eq_some.mp row).1
    have cross' := (getThread_eq_some.mp ((filtered.getThread thread.id).symm.trans row)).1
    have consent := filtered.allRespondentsApproved thread.id
    unfold Db.departThread
    simp only [getThreadCrossOrg, cross, cross', consent, updated]
    split
    · split
      · exact resolves (resolves filtered)
      · exact resolves filtered
    · split
      · exact resolves filtered
      · exact filtered

theorem unclaimAll (alike : Alike A stats db db') (orgId : OrgId) (agentId : AgentId) :
    Alike A stats (db.unclaimAll orgId agentId) (db'.unclaimAll orgId agentId) :=
  alike.updateRows (fun _ _ => rfl) Thread.unclaim_id fun _ => rfl

theorem of_unclaimAll (apart : o ≠ A) (agentId : AgentId) : Alike A stats db (db.unclaimAll o agentId) := by
  refine of_update (fun t _ own held => ?_) Thread.unclaim_id fun _ => rfl
  exact apart ((of_decide_eq_true held).2.2.symm.trans own)

theorem handleAgentDeparture (alike : Alike A stats db db') (env : Env) (agentId : AgentId) :
    Alike A stats (db.handleAgentDeparture env A agentId) (db'.handleAgentDeparture env A agentId) := by
  have unclaimed := alike.unclaimAll A agentId
  have active : ∀ rows : List Thread, (rows.filter fun t => t.status.active ∧ t.orgId = A) =
      (ownedBy Thread.orgId A rows).filter fun t => decide (t.status.active) := by
    intro rows
    rw [← filter_scoped]
    refine List.filter_congr fun t _ => ?_
    rw [decide_eq_decide, and_comm]
  have loop : ∀ (rows : List Thread) {db db' : Db}, (∀ t ∈ rows, t.orgId = A) → Alike A stats db db' →
      Alike A stats (rows.foldl (Db.departThread env agentId) db) (rows.foldl (Db.departThread env agentId) db') := by
    intro rows
    induction rows with
    | nil => exact fun _ kept => kept
    | cons t rest ih =>
      intro db db' own kept
      exact ih (fun u member => own u (List.mem_cons_of_mem t member)) (kept.departThread env agentId (own t (by simp)))
  unfold Db.handleAgentDeparture
  simp only
  rw [active, active, unclaimed.threads]
  exact loop _ (fun t member => (mem_ownedBy.mp (List.mem_filter.mp member).1).2) unclaimed

theorem of_handleAgentDeparture (apart : o ≠ A) (env : Env) (agentId : AgentId) :
    Alike A stats db (db.handleAgentDeparture env o agentId) := by
  have unclaimed : Alike A stats db (db.unclaimAll o agentId) := of_unclaimAll apart agentId
  have loop : ∀ (rows : List Thread) {mid : Db}, (∀ t ∈ rows, db.getThread A t.id = none) → Alike A stats db mid →
      Alike A stats db (rows.foldl (Db.departThread env agentId) mid) := by
    intro rows
    induction rows with
    | nil => exact fun _ kept => kept
    | cons t rest ih =>
      intro mid foreign kept
      have missing : mid.getThread A t.id = none := by rw [← kept.getThread, foreign t (by simp)]
      exact ih (fun u member => foreign u (List.mem_cons_of_mem t member)) (kept.trans (of_departThread missing env agentId))
  refine loop _ (fun t member => ?_) unclaimed
  simp only [List.mem_filter, decide_eq_true_eq] at member
  obtain ⟨inRows, -, atOrg⟩ := member
  rw [unclaimed.getThread]
  exact getThread_foreign apart (getThread_mem inRows atOrg rfl)

theorem emitTimeouts_congr (alike : Alike A stats db db') (env : Env) (rows : List Thread) :
    Alike A stats (rows.foldl (fun db t => db.emitResolution env t.id .timeout none none) db)
      (rows.foldl (fun db t => db.emitResolution env t.id .timeout none none) db') := by
  induction rows generalizing db db' with
  | nil => exact alike
  | cons t rest ih => exact ih (alike.emitResolution ..)

/-- Of a list of threads to report, the org sees those of its own. -/
theorem emitTimeouts (env : Env) (rows : List Thread) (foreign : ∀ t ∈ rows, t.orgId ≠ A → db.getThread A t.id = none) :
    Alike A stats (rows.foldl (fun db t => db.emitResolution env t.id .timeout none none) db)
      ((ownedBy Thread.orgId A rows).foldl (fun db t => db.emitResolution env t.id .timeout none none) db) := by
  induction rows generalizing db with
  | nil => exact refl db
  | cons t rest ih =>
    have later : ∀ u ∈ rest, u.orgId ≠ A → (db.emitResolution env t.id .timeout none none).getThread A u.id = none := by
      intro u member apart
      rw [Db.getThread, emitResolution_threads]
      exact foreign u (List.mem_cons_of_mem t member) apart
    rw [List.foldl_cons]
    by_cases own : t.orgId = A
    · rw [ownedBy, List.filter_cons_of_pos (by simpa using own), List.foldl_cons]
      exact ih later
    · rw [ownedBy, List.filter_cons_of_neg (by simpa using own)]
      have unseen : Alike A stats db (db.emitResolution env t.id .timeout none none) :=
        of_emitResolution (foreign t (by simp) own) ..
      exact (ih later).trans (unseen.symm.emitTimeouts_congr env _)

/-- The sweep as one update and its reports, also when no thread is late. -/
theorem checkTimeouts_swept (env : Env) (db : Db) :
    Alike A stats (db.checkTimeouts env) ((ownedBy Thread.orgId A (db.threads.rows.filter (timedOut env))).foldl
      (fun db t => db.emitResolution env t.id .timeout none none)
      { db with
        threads := db.threads.update (timedOut env)
          (.close "Résolu par timeout — pas de réponse dans le délai" env.currentTimestamp) (Thread.close_id _ _) }) := by
  unfold Db.checkTimeouts
  simp only
  split
  · rename_i nobody
    rw [List.isEmpty_iff] at nobody
    rw [nobody]
    refine of_update (fun t member _ late => ?_) _ fun _ => rfl
    exact List.filter_eq_nil_iff.mp nobody t member late
  · refine emitTimeouts env _ fun t member apart => ?_
    have found := Table.find_self (List.mem_filter.mp member).1
    simp only [Db.getThread, Table.find_update, found, Option.map_some, Option.filter_some]
    rw [if_neg]
    rw [decide_eq_true_eq]
    split
    · exact apart
    · exact apart

theorem checkTimeouts (alike : Alike A stats db db') (env : Env) :
    Alike A stats (db.checkTimeouts env) (db'.checkTimeouts env) := by
  have swept := alike.updateRows (p := timedOut env) (fun _ _ => rfl)
    (Thread.close_id "Résolu par timeout — pas de réponse dans le délai" env.currentTimestamp) fun _ => rfl
  refine (checkTimeouts_swept env db).trans (.trans ?_ (checkTimeouts_swept env db').symm)
  rw [ownedBy_filter, ownedBy_filter, alike.threads]
  exact swept.emitTimeouts_congr env _

/-! The dependency map. -/

theorem setModule_eq (orgId : OrgId) (db : Db) (info : ParsedModule) :
    db.setModule orgId info = { db with
      dependencyMap := upsert (fun r => r.orgId = orgId ∧ r.moduleId = info.moduleId)
        { orgId, moduleId := info.moduleId, dependsOn := .array info.dependsOn, exports := .array info.exports
          owners := .array info.owners } db.dependencyMap } := by
  simp only [setModule, upsert, decide_eq_true_eq]

theorem setMap (alike : Alike A stats db db') (map : List ParsedModule) :
    Alike A stats (db.setMap A map) (db'.setMap A map) := by
  unfold Db.setMap
  induction map generalizing db db' with
  | nil => exact alike
  | cons info rest ih =>
    refine ih ?_
    rw [setModule_eq, setModule_eq]
    exact alike.withModules (ownedBy_upsert_congr (fun r same => (of_decide_eq_true same).1) rfl alike.modules)

theorem of_setMap (apart : o ≠ A) (map : List ParsedModule) : Alike A stats db (db.setMap o map) := by
  unfold Db.setMap
  induction map generalizing db with
  | nil => exact refl db
  | cons info rest ih =>
    refine trans ?_ ih
    rw [setModule_eq]
    exact (refl db).withModules (ownedBy_upsert_foreign (fun r same => (of_decide_eq_true same).1) apart).symm

end Alike

end Db

end Coordinator
