import Coordinator.ThreadStep

namespace Coordinator

/-- The thread that an event is about, in its org. -/
def ResolutionEvent.topic (event : ResolutionEvent) : OrgId × ThreadId := (event.orgId, event.threadId)

def Thread.topic (t : Thread) : OrgId × ThreadId := (t.orgId, t.id)

namespace Db

/-- The events the callback has been handed for a thread. -/
def delivered (db : Db) (orgId : OrgId) (k : ThreadId) : Nat :=
  (db.resolutions.map (·.topic)).count (orgId, k)

def isResolved (db : Db) (orgId : OrgId) (k : ThreadId) : Bool :=
  (db.getThread orgId k).any fun t => t.status = .resolved

/-- One when the thread is resolved now and was not, or was not there. -/
def enters (before after : Db) (orgId : OrgId) (k : ThreadId) : Nat :=
  if after.isResolved orgId k ∧ ¬ before.isResolved orgId k then 1 else 0

/-- How often a run brings a thread to the status `resolved`. -/
def entries (orgId : OrgId) (k : ThreadId) : Db → List (Env × Op) → Nat
  | _, [] => 0
  | db, call :: rest => enters db (db.step call) orgId k + entries orgId k (db.step call) rest

/-- Each thread gets the events of its entries, one for each. -/
def Paired (db after : Db) : Prop := ∀ orgId k, after.delivered orgId k = db.delivered orgId k + enters db after orgId k

theorem enters_of_same {db after : Db} {orgId : OrgId} {k : ThreadId}
    (same : after.isResolved orgId k → db.isResolved orgId k) : enters db after orgId k = 0 := by
  rw [enters, if_neg]
  intro entered
  exact entered.2 (same entered.1)

theorem Paired.of_silent {db after : Db} (silent : after.resolutions = db.resolutions)
    (same : ∀ orgId k, after.isResolved orgId k → db.isResolved orgId k) : Paired db after := by
  intro orgId k
  rw [enters_of_same (same orgId k), delivered, silent]
  rfl

/-- Phases that keep what is resolved add up. -/
structure Settles (db after : Db) : Prop where
  paired : Paired db after
  climbs : ∀ orgId k, db.isResolved orgId k → after.isResolved orgId k

theorem Settles.refl (db : Db) : Settles db db := ⟨.of_silent rfl fun _ _ same => same, fun _ _ same => same⟩

theorem Settles.trans {db mid after : Db} (first : Settles db mid) (later : Settles mid after) : Settles db after where
  paired orgId k := by
    have climb := first.climbs orgId k
    have climb' := later.climbs orgId k
    have sum : enters db after orgId k = enters db mid orgId k + enters mid after orgId k := by
      unfold enters
      generalize db.isResolved orgId k = before at climb ⊢
      generalize mid.isResolved orgId k = between at climb climb' ⊢
      cases before <;> cases between <;> simp_all
    rw [later.paired, first.paired, sum, Nat.add_assoc]
  climbs orgId k resolved := later.climbs orgId k (first.climbs orgId k resolved)

theorem isResolved_getThread {db after : Db} {orgId : OrgId} {k : ThreadId}
    (same : after.getThread orgId k = db.getThread orgId k) : after.isResolved orgId k = db.isResolved orgId k := by
  rw [isResolved, isResolved, same]

theorem isResolved_threads {db after : Db} (same : after.threads = db.threads) (orgId : OrgId) (k : ThreadId) :
    after.isResolved orgId k = db.isResolved orgId k := by
  refine isResolved_getThread ?_
  rw [getThread, getThread, same]

/-- A call that leaves `threads` and sends nothing. -/
theorem Paired.of_threads {db after : Db} (silent : after.resolutions = db.resolutions)
    (same : after.threads = db.threads) : Paired db after :=
  .of_silent silent fun orgId k resolved => (isResolved_threads same orgId k).symm.trans resolved

section
variable {db after : Db} {orgId : OrgId} {threadId : ThreadId} {g : Thread → Thread}

/-- The other threads of an org, and the threads of other orgs, are as they were. -/
theorem Rewrites.getThread_frame (rewrites : db.Rewrites after orgId threadId g) (sameOrg : ∀ t, (g t).orgId = t.orgId)
    {o : OrgId} {k : ThreadId} (elsewhere : (o, k) ≠ (orgId, threadId)) : after.getThread o k = db.getThread o k := by
  rw [Db.getThread, Db.getThread, rewrites k]
  cases found : db.threads.find k with
  | none => rfl
  | some t =>
    rw [Option.map_some]
    split
    · rename_i target
      have otherOrg : t.orgId ≠ o := by
        rintro rfl
        exact elsewhere (by rw [← target.1, ← target.2, find_id found])
      simp [Option.filter, sameOrg, otherOrg]
    · rfl

theorem Rewrites.isResolved_target (rewrites : db.Rewrites after orgId threadId g)
    (sameOrg : ∀ t, (g t).orgId = t.orgId) :
    after.isResolved orgId threadId = (db.getThread orgId threadId).any fun t => (g t).status = .resolved := by
  rw [isResolved, rewrites.getThread sameOrg]
  cases db.getThread orgId threadId <;> rfl

/-- An update of one row that resolves nothing, sent to nobody. -/
theorem Paired.of_rewrites (rewrites : db.Rewrites after orgId threadId g) (sameOrg : ∀ t, (g t).orgId = t.orgId)
    (silent : after.resolutions = db.resolutions)
    (quiet : ∀ t, db.getThread orgId threadId = some t → (g t).status = .resolved → t.status = .resolved) :
    Paired db after := by
  refine .of_silent silent ?_
  intro o k resolved
  by_cases here : (o, k) = (orgId, threadId)
  · obtain ⟨rfl, rfl⟩ := Prod.mk.inj here
    rw [rewrites.isResolved_target sameOrg] at resolved
    obtain ⟨t, found, status⟩ := (Option.any_eq_true _ _).mp resolved
    rw [isResolved, found]
    exact decide_eq_true (quiet t found (of_decide_eq_true status))
  · rwa [← isResolved_getThread (rewrites.getThread_frame sameOrg here)]

/-- An update that resolves one row, with its event. -/
theorem Paired.of_resolved (rewrites : db.Rewrites after orgId threadId g) (sameOrg : ∀ t, (g t).orgId = t.orgId)
    {t : Thread} (found : db.getThread orgId threadId = some t) (unresolved : t.status ≠ .resolved)
    (resolves : (g t).status = .resolved) {event : ResolutionEvent} (about : event.topic = (orgId, threadId))
    (sent : after.resolutions = db.resolutions ++ [event]) : Paired db after := by
  intro o k
  rw [delivered, sent, List.map_append, List.count_append, List.map_singleton, about, List.count_singleton, ← delivered]
  by_cases here : (o, k) = (orgId, threadId)
  · obtain ⟨rfl, rfl⟩ := Prod.mk.inj here
    have now : after.isResolved o k := by
      rw [rewrites.isResolved_target sameOrg, found]
      exact decide_eq_true resolves
    have before : ¬ db.isResolved o k := by
      rw [isResolved, found]
      simpa using unresolved
    rw [if_pos BEq.rfl, enters, if_pos ⟨now, before⟩]
  · have same := isResolved_getThread (rewrites.getThread_frame sameOrg here)
    rw [enters_of_same (fun resolved => same ▸ resolved), if_neg]
    exact fun target => here (eq_of_beq target).symm

end

/-! What the calls hand to the callback. -/

@[simp] theorem insertMessage_resolutions (db : Db) (m : ThreadMessage) :
    (db.insertMessage m).1.resolutions = db.resolutions := by
  unfold insertMessage
  split <;> rfl

@[simp] theorem postResolutionMessage_resolutions (env : Env) (orgId : OrgId) (threadId : ThreadId) (agentId : AgentId)
    (type : MessageType) (content : String) (db : Db) :
    (db.postResolutionMessage env orgId threadId agentId type content).1.resolutions = db.resolutions := by
  unfold postResolutionMessage
  split
  · rfl
  · exact insertMessage_resolutions ..

theorem postToThread_resolutions (env : Env) (orgId : OrgId) (params : PostParams) (db : Db) :
    (db.postToThread env orgId params).1.resolutions = db.resolutions := by
  unfold postToThread
  split
  · rfl
  · split
    · rfl
    · exact insertMessage_resolutions ..

theorem createIntrospections_resolutions (env : Env) (orgId : OrgId) (threadId : ThreadId)
    (scores : List ImpactScore) (n : Nat) (db : Db) :
    (db.createIntrospections env orgId threadId scores n).1.resolutions = db.resolutions := by
  induction scores generalizing n db with
  | nil => rfl
  | cons s rest ih =>
    unfold createIntrospections createIntrospection
    split
    · rename_i created result
      split at result
      · cases result; exact ih _ _
      · simp at result
    · rename_i failed e result
      split at result
      · simp at result
      · cases result; rfl

theorem finishFlow_resolutions (env : Env) (threadId : ThreadId) (params : CommonFlowParams)
    (categorized : CategorizedImpact) (db : Db) :
    (db.finishFlow env threadId params categorized).1.resolutions = db.resolutions := by
  have rows := createIntrospections_resolutions env params.orgId threadId categorized.grayZone 0 db
  unfold finishFlow
  simp only
  split
  · rename_i failed _ asked
    rw [← rows, asked]
  · rename_i asked result
    have same : asked.resolutions = db.resolutions := by rw [← rows, result]
    split <;> exact same

theorem handleIntrospectionResponse_resolutions (env : Env) (orgId : OrgId) (introspectionId : String)
    (concerned : Bool) (reason : String) (db : Db) :
    (db.handleIntrospectionResponse env orgId introspectionId concerned reason).1.resolutions = db.resolutions := by
  unfold handleIntrospectionResponse
  simp only
  split
  · rfl
  · split
    · rfl
    · split <;> rfl

theorem handleClaimTask_resolutions (env : Env) (orgId : OrgId) (threadId : ThreadId) (agentId : AgentId) (db : Db) :
    (db.handleClaimTask env orgId threadId agentId).1.resolutions = db.resolutions := by
  unfold handleClaimTask
  simp only
  split <;> rfl

theorem handleUnclaimTask_resolutions (orgId : OrgId) (threadId : ThreadId) (agentId : AgentId) (db : Db) :
    (db.handleUnclaimTask orgId threadId agentId).1.resolutions = db.resolutions := by
  unfold handleUnclaimTask
  simp only
  split
  · rfl
  · split <;> rfl

theorem register_resolutions (env : Env) (orgId : OrgId) (agentId : AgentId) (name : String) (modules : List ModuleId)
    (db : Db) : (db.register env orgId agentId name modules).resolutions = db.resolutions := by
  unfold register
  simp only
  split <;> rfl

theorem emitResolution_sent (env : Env) (type : ResolutionType) (by' name : Option String) (db : Db) {k : ThreadId}
    {t : Thread} (found : db.threads.find k = some t) : ∃ event : ResolutionEvent, event.topic = (t.orgId, k) ∧
      (db.emitResolution env k type by' name).resolutions = db.resolutions ++ [event] := by
  rw [emitResolution, getThreadCrossOrg, found]
  exact ⟨_, rfl, rfl⟩

/-- One event for the thread when it meets a condition, and none otherwise. -/
def Sends (db after : Db) (orgId : OrgId) (threadId : ThreadId) (p : Thread → Prop) : Prop :=
  (∃ t, db.getThread orgId threadId = some t ∧ p t ∧
    ∃ event : ResolutionEvent, event.topic = (orgId, threadId) ∧ after.resolutions = db.resolutions ++ [event]) ∨
  ((∀ t, db.getThread orgId threadId = some t → ¬ p t) ∧ after.resolutions = db.resolutions)

section
variable {db after : Db} {orgId : OrgId} {threadId : ThreadId} {g : Thread → Thread} {p : Thread → Prop}

theorem Sends.of_missing (missing : db.getThread orgId threadId = none) (silent : after.resolutions = db.resolutions) :
    db.Sends after orgId threadId p := by
  refine .inr ⟨?_, silent⟩
  intro t found
  rw [missing] at found
  cases found

theorem Sends.of_refused {t : Thread} (target : db.getThread orgId threadId = some t) (refused : ¬ p t)
    (silent : after.resolutions = db.resolutions) : db.Sends after orgId threadId p := by
  refine .inr ⟨?_, silent⟩
  intro u found
  rw [target] at found
  cases found
  exact refused

/-- The statement that resolves the thread, then the callback. -/
theorem Sends.of_emitted {t : Thread} (target : db.getThread orgId threadId = some t) (holds : p t) {mid : Db}
    {u : Thread} (row : mid.getThread orgId threadId = some u) (silent : mid.resolutions = db.resolutions)
    (f : Thread → Thread) (keeps : ∀ t, (f t).id = t.id) (sameOrg : (f u).orgId = u.orgId) (env : Env)
    (type : ResolutionType) (by' name : Option String)
    (sent : after.resolutions =
      ((mid.updateThread orgId threadId f keeps).emitResolution env threadId type by' name).resolutions) :
    db.Sends after orgId threadId p := by
  obtain ⟨found, atOrg⟩ := getThread_eq_some.mp row
  have resolved : (mid.updateThread orgId threadId f keeps).threads.find threadId = some (f u) := by
    rw [updateThread_find, found, Option.map_some, if_pos ⟨find_id found, atOrg⟩]
  obtain ⟨event, about, appended⟩ := emitResolution_sent env type by' name _ resolved
  rw [sameOrg, atOrg] at about
  exact .inl ⟨t, target, holds, event, about, by rw [sent, appended, ← silent]; rfl⟩

/-- The event goes with the write that resolves the thread. -/
theorem Paired.of_sends (rewrites : db.Rewrites after orgId threadId g) (sameOrg : ∀ t, (g t).orgId = t.orgId)
    (sends : db.Sends after orgId threadId p) (fires : ∀ t, p t → t.status ≠ .resolved ∧ (g t).status = .resolved)
    (quiet : ∀ t, ¬ p t → (g t).status = .resolved → t.status = .resolved) : Paired db after := by
  rcases sends with ⟨t, found, holds, event, about, sent⟩ | ⟨refused, silent⟩
  · obtain ⟨unresolved, resolves⟩ := fires t holds
    exact .of_resolved rewrites sameOrg found unresolved resolves about sent
  · exact .of_rewrites rewrites sameOrg silent fun t found => quiet t (refused t found)

end

theorem proposeResolution_resolutions (env : Env) (orgId : OrgId) (threadId : ThreadId) (agentId : AgentId)
    (summary : String) (db : Db) :
    (db.proposeResolution env orgId threadId agentId summary).1.resolutions = db.resolutions := by
  unfold proposeResolution
  split
  · rfl
  · split
    · rfl
    · exact postResolutionMessage_resolutions ..

theorem cancelThread_resolutions (env : Env) (orgId : OrgId) (threadId : ThreadId) (agentId : AgentId)
    (reason : Option String) (db : Db) :
    (db.cancelThread env orgId threadId agentId reason).1.resolutions = db.resolutions := by
  unfold cancelThread
  split
  · rfl
  · split
    · rfl
    · simp only
      split
      · rfl
      · exact postResolutionMessage_resolutions ..

theorem approveResolution_sends (env : Env) (orgId : OrgId) (threadId : ThreadId) (agentId : AgentId)
    (agentName : Option String) (db : Db) :
    db.Sends (db.approveResolution env orgId threadId agentId agentName).1 orgId threadId fun t =>
      t.status = .resolving ∧ db.approvalCompletes env orgId threadId agentId := by
  cases target : db.getThread orgId threadId with
  | none =>
    unfold approveResolution
    rw [target]
    exact .of_missing target rfl
  | some thread =>
    rcases approveResolution_cases target with ⟨refused, after⟩ | ⟨granted, after⟩ <;> rw [after]
    · exact .of_refused target (fun both => refused ⟨both.1, (Bool.and_eq_true_iff.mp both.2).1⟩) rfl
    · simp only
      split
      · rename_i completes
        refine .of_emitted (u := thread) target ⟨granted.1, completes⟩ ?_ ?_ (.resolve env.isoNow)
          (Thread.resolve_id _) rfl env .consensus (some agentId) _ rfl
        · exact target
        · rfl
      · rename_i waiting
        exact .of_refused target (fun both => waiting both.2) rfl

theorem contestResolution_sends (env : Env) (orgId : OrgId) (threadId : ThreadId) (agentId : AgentId)
    (reason : String) (db : Db) :
    db.Sends (db.contestResolution env orgId threadId agentId reason).1 orgId threadId fun t =>
      t.status = .resolving ∧ db.registered orgId agentId ∧ t.maxRounds < t.round + 1 := by
  cases target : db.getThread orgId threadId with
  | none =>
    unfold contestResolution
    rw [target]
    exact .of_missing target rfl
  | some thread =>
    rcases contestResolution_cases target with ⟨refused, after⟩ | ⟨granted, after⟩ <;> rw [after]
    · exact .of_refused target (fun all => refused ⟨all.1, all.2.1⟩) rfl
    · simp only
      split
      · rename_i last
        refine .of_emitted (u := thread) target ⟨granted.1, granted.2, last⟩ ?_ ?_ (.resolve env.isoNow)
          (Thread.resolve_id _) rfl env .maxRounds none none rfl
        · exact target
        · rfl
      · rename_i room
        exact .of_refused target (fun all => room all.2.2) rfl

theorem closeThread_sends (env : Env) (orgId : OrgId) (threadId : ThreadId) (agentId : AgentId) (summary : String)
    (db : Db) : db.Sends (db.closeThread env orgId threadId agentId summary).1 orgId threadId fun t =>
      t.initiatorId = agentId ∧ t.status.active := by
  unfold closeThread
  cases target : db.getThread orgId threadId with
  | none => exact .of_missing target rfl
  | some thread =>
    simp only
    split
    · rename_i stranger
      exact .of_refused target (fun both => stranger both.1) rfl
    · rename_i initiator
      rw [not_not] at initiator
      split
      · rename_i settled
        exact .of_refused target (fun both => settled both.2) rfl
      · rename_i active
        rw [not_not] at active
        exact .of_emitted target ⟨initiator, active⟩ target rfl (.close summary env.isoNow) (Thread.close_id _ _) rfl env
          .closed none none rfl

theorem runCommonAnnounceFlow_sends (env : Env) (threadId : ThreadId) (params : CommonFlowParams) (db : Db) :
    db.Sends (db.runCommonAnnounceFlow env threadId params).1 params.orgId threadId fun t =>
      db.flowAlone env threadId params ∧ t.status = .opened ∧ ¬ params.keepOpen := by
  have alone : db.flowAlone env threadId params =
      ((db.overrideRespondents env threadId params).2.concerned.isEmpty &&
        ((db.overrideRespondents env threadId params).1.otherOnline env params.orgId params.agentId).length = 0) := rfl
  have silent : (db.overrideRespondents env threadId params).1.resolutions = db.resolutions := rfl
  rw [runCommonAnnounceFlow]
  simp only [← alone]
  cases target : db.getThread params.orgId threadId with
  | none =>
    have missing := overrideRespondents_getThread env threadId params db
    rw [target, Option.map_none] at missing
    rw [missing]
    simp only
    split
    · exact .of_missing target silent
    · exact .of_missing target ((finishFlow_resolutions ..).trans silent)
  | some t =>
    have found := overrideRespondents_getThread env threadId params db
    rw [target, Option.map_some] at found
    rw [found]
    simp only
    split
    · rename_i lone
      exact .of_emitted target lone found silent (.resolve env.isoNow) (Thread.resolve_id _) rfl env .autoResolved none
        none (finishFlow_resolutions ..)
    · rename_i crowded
      exact .of_refused target crowded ((finishFlow_resolutions ..).trans silent)

/-- When the departure loop resolves a row. -/
def departs (agentId : AgentId) (db : Db) (t : Thread) : Prop :=
  let kept := t.respondents.filter (· ≠ agentId)
  (t.status = .resolving ∧ kept.all fun id => (db.approvals t.id t.round).contains id) ∨
    (t.status = .opened ∧ kept.isEmpty)

theorem departThread_sends (env : Env) (agentId : AgentId) {db : Db} {thread : Thread}
    (found : db.threads.find thread.id = some thread) :
    db.Sends (departThread env agentId db thread) thread.orgId thread.id (departs agentId db) := by
  have target : db.getThread thread.orgId thread.id = some thread := getThread_eq_some.mpr ⟨found, rfl⟩
  have filtered : (db.updateThread thread.orgId thread.id (.expect (thread.respondents.filter (· ≠ agentId)))
      (Thread.expect_id _)).getThread thread.orgId thread.id = some (thread.expect _) :=
    updateThread_getThread found rfl
  have row := (getThread_eq_some.mp filtered).1
  have consent := allRespondentsApproved_found filtered
  simp only [departThread, getThreadCrossOrg, row, consent, Thread.expect_status]
  have settles : ∀ holds : departs agentId db thread, ∀ after : Db, after.resolutions =
      (((db.updateThread thread.orgId thread.id (.expect (thread.respondents.filter (· ≠ agentId)))
        (Thread.expect_id _)).updateThread thread.orgId thread.id (.resolve env.isoNow)
          (Thread.resolve_id _)).emitResolution env thread.id .agentDeparture none none).resolutions →
      db.Sends after thread.orgId thread.id (departs agentId db) := fun holds after sent =>
    .of_emitted target holds filtered rfl (.resolve env.isoNow) (Thread.resolve_id _) rfl env _ none none sent
  cases status : thread.status with
  | opened =>
    simp only [reduceCtorEq, false_and, if_false, true_and]
    split
    · rename_i nobody
      exact settles (.inr ⟨status, nobody⟩) _ rfl
    · rename_i expected
      refine .of_refused target ?_ rfl
      rintro (consented | alone)
      · rw [status] at consented
        cases consented.1
      · exact expected alone.2
  | resolving =>
    simp only [reduceCtorEq, false_and, if_false, true_and]
    split
    · rename_i approved
      exact settles (.inl ⟨status, approved⟩) _ rfl
    · rename_i waiting
      refine .of_refused target ?_ rfl
      rintro (consented | alone)
      · exact waiting consented.2
      · rw [status] at alone
        cases alone.1
  | _ =>
    simp only [reduceCtorEq, false_and, if_false]
    exact .of_refused target (by simp [departs, status]) rfl

theorem Settles.of_sends {db after : Db} {orgId : OrgId} {threadId : ThreadId} {g : Thread → Thread}
    {p : Thread → Prop} (rewrites : db.Rewrites after orgId threadId g) (sameOrg : ∀ t, (g t).orgId = t.orgId)
    (sends : db.Sends after orgId threadId p) (fires : ∀ t, p t → t.status ≠ .resolved ∧ (g t).status = .resolved)
    (quiet : ∀ t, ¬ p t → (g t).status = t.status) : Settles db after where
  paired := .of_sends rewrites sameOrg sends fires fun t refused resolved => (quiet t refused).symm.trans resolved
  climbs o k resolved := by
    by_cases here : (o, k) = (orgId, threadId)
    · obtain ⟨rfl, rfl⟩ := Prod.mk.inj here
      obtain ⟨t, found, status⟩ := (Option.any_eq_true _ _).mp resolved
      have atResolved := of_decide_eq_true status
      rw [rewrites.isResolved_target sameOrg, found]
      refine decide_eq_true ?_
      by_cases holds : p t
      · exact (fires t holds).2
      · rw [quiet t holds, atResolved]
    · rwa [isResolved_getThread (rewrites.getThread_frame sameOrg here)]

@[simp] theorem departed_orgId (env : Env) (agentId : AgentId) (db : Db) (t : Thread) :
    (departed env agentId db t).orgId = t.orgId := by
  rcases departed_cases env agentId db t with settled | stays
  · rw [settled]; rfl
  · rw [stays]; rfl

theorem departThread_settles (env : Env) (agentId : AgentId) {db : Db} {thread : Thread}
    (found : db.threads.find thread.id = some thread) : Settles db (departThread env agentId db thread) := by
  refine .of_sends (departThread_rewrites env agentId found) (departed_orgId env agentId db)
    (departThread_sends env agentId found) ?_ ?_
  · intro t settles
    have row : departed env agentId db t = (t.expect _).resolve env.isoNow := if_pos settles
    refine ⟨?_, by rw [row]; rfl⟩
    rcases settles with consented | alone
    · simp [consented.1]
    · simp [alone.1]
  · intro t waits
    have row : departed env agentId db t = t.expect _ := if_neg waits
    rw [row, Thread.expect_status]

/-- The rounds of the loop find their rows as they were read. -/
theorem foldl_departThread_settles (env : Env) (agentId : AgentId) (rows : List Thread) (db : Db)
    (distinct : (rows.map Thread.id).Nodup) (current : ∀ r ∈ rows, db.threads.find r.id = some r) :
    Settles db (rows.foldl (departThread env agentId) db) := by
  induction rows generalizing db with
  | nil => exact .refl db
  | cons row rest ih =>
    rw [List.map_cons, List.nodup_cons] at distinct
    have found := current row (by simp)
    refine (departThread_settles env agentId found).trans (ih _ distinct.2 ?_)
    intro r member
    have apart : r.id ≠ row.id := fun same => distinct.1 (same ▸ List.mem_map_of_mem member)
    rw [(departThread_rewrites env agentId found).frame apart]
    exact current r (List.mem_cons_of_mem _ member)

theorem unclaimAll_isResolved (orgId : OrgId) (agentId : AgentId) (db : Db) (o : OrgId) (k : ThreadId) :
    (db.unclaimAll orgId agentId).isResolved o k = db.isResolved o k := by
  simp only [isResolved, getThread, unclaimAll, Table.find_update]
  cases found : db.threads.find k with
  | none => rfl
  | some t =>
    simp only [Option.map_some, Option.filter]
    by_cases atOrg : t.orgId = o
    · split <;> simp [Thread.unclaim, atOrg]
    · split <;> simp [Thread.unclaim, atOrg]

theorem handleAgentDeparture_settles (env : Env) (orgId : OrgId) (agentId : AgentId) (db : Db) :
    Settles db (db.handleAgentDeparture env orgId agentId) := by
  have unclaimed : Settles db (db.unclaimAll orgId agentId) :=
    ⟨.of_silent rfl fun o k resolved => (unclaimAll_isResolved orgId agentId db o k).symm.trans resolved,
      fun o k resolved => (unclaimAll_isResolved orgId agentId db o k).trans resolved⟩
  refine unclaimed.trans (foldl_departThread_settles env agentId _ _ ?_ ?_)
  · exact (db.unclaimAll orgId agentId).threads.keyed.sublist (List.filter_sublist.map _)
  · intro r member
    exact Table.find_self (List.mem_filter.mp member).1

/-- The sweep hands over one event for each late row, in the order of the rows. -/
theorem emitTimeouts_topics (env : Env) (rows : List Thread) {db : Db}
    (found : ∀ t ∈ rows, ∃ u, db.threads.find t.id = some u ∧ u.orgId = t.orgId) :
    (rows.foldl (fun db t => db.emitResolution env t.id .timeout none none) db).resolutions.map (·.topic) =
      db.resolutions.map (·.topic) ++ rows.map Thread.topic := by
  induction rows generalizing db with
  | nil => simp
  | cons t rest ih =>
    obtain ⟨u, row, sameOrg⟩ := found t (by simp)
    have later : ∀ t' ∈ rest, ∃ u, (db.emitResolution env t.id .timeout none none).threads.find t'.id = some u ∧
        u.orgId = t'.orgId := by
      intro t' member
      rw [emitResolution_threads]
      exact found t' (List.mem_cons_of_mem t member)
    obtain ⟨event, about, sent⟩ := emitResolution_sent env .timeout none none _ row
    rw [List.foldl_cons, ih later, sent, List.map_append, List.map_cons, about, sameOrg, List.map_cons,
      List.append_assoc]
    rfl

theorem checkTimeouts_topics (env : Env) (db : Db) :
    (db.checkTimeouts env).resolutions.map (·.topic) =
      db.resolutions.map (·.topic) ++ (db.threads.rows.filter (timedOut env)).map Thread.topic := by
  unfold checkTimeouts
  simp only
  split
  · rename_i nobody
    rw [List.isEmpty_iff] at nobody
    rw [nobody, List.map_nil, List.append_nil]
  · refine emitTimeouts_topics env _ fun t member => ?_
    rw [Table.find_update, Table.find_self (List.mem_filter.mp member).1]
    refine ⟨_, rfl, ?_⟩
    beta_reduce
    split
    · rfl
    · rfl

theorem checkTimeouts_paired (env : Env) (db : Db) : Paired db (db.checkTimeouts env) := by
  intro orgId k
  have here : ((db.threads.rows.filter (timedOut env)).map Thread.topic).count (orgId, k) =
      db.threads.changes fun t => timedOut env t ∧ t.topic = (orgId, k) := by
    rw [List.count, List.countP_map, List.countP_filter, Table.changes]
    congr 1
    funext t
    cases timedOut env t <;> simp [beq_eq_decide]
  have fixes : ∀ t : Thread, (decide (timedOut env t ∧ t.topic = (orgId, k))) = true → t.id = k := by
    intro t late
    exact (Prod.mk.inj (of_decide_eq_true late).2).2
  rw [delivered, delivered, checkTimeouts_topics, List.count_append, here,
    Table.changes_of_key fixes, enters, isResolved, isResolved, getThread, getThread, checkTimeouts_find]
  cases found : db.threads.find k with
  | none => rfl
  | some t =>
    have atId := find_id found
    by_cases late : timedOut env t
    · have active : t.status.active := by
        simp only [timedOut, decide_eq_true_eq] at late
        exact late.1
      have unresolved : t.status ≠ .resolved := fun status => by rw [status] at active; cases active
      by_cases atOrg : t.orgId = orgId
      · simp [late, atOrg, atId, Thread.topic, Option.filter, unresolved, Thread.close]
      · simp [late, atOrg, Thread.topic, Option.filter, Thread.close]
    · simp [late]

theorem announceWork_resolutions (env : Env) (orgId : OrgId) (params : AnnounceParams) (db : Db) :
    (db.announceWork env orgId params).1.resolutions = db.resolutions := by
  unfold announceWork
  simp only
  split
  · split <;> rfl
  · rfl

/-- An announce that creates its thread leaves it open: it is kept open, it is
directed to an agent, or an online agent works on one of its modules. -/
def Awaited (db : Db) : Env × Op → Prop
  | (env, .announceWork orgId params) =>
    db.registered orgId params.agentId → db.threads.find (env.uuid 0) = none →
      params.keepOpen ∨ params.assignedTo.isSome ∨
        db.moduleRespondents orgId params.agentId params.targetModules ≠ []
  | _ => True

theorem announcedThread_resolved_iff (env : Env) (orgId : OrgId) (params : AnnounceParams) (ids : List AgentId) :
    (announcedThread env orgId params ids).status = .resolved ↔
      ¬ (params.keepOpen ∨ params.assignedTo.isSome ∨ ids ≠ []) := by
  simp only [announcedThread]
  cases params.keepOpen <;> cases params.assignedTo.isSome <;> cases ids <;> simp

theorem announceWork_paired {env : Env} {orgId : OrgId} {params : AnnounceParams} {db : Db}
    (awaited : db.Awaited (env, .announceWork orgId params)) : Paired db (db.announceWork env orgId params).1 := by
  refine .of_silent (announceWork_resolutions ..) ?_
  intro o k resolved
  rw [isResolved, getThread, announceWork_find] at resolved
  split at resolved
  · rename_i made
    obtain ⟨author, -, fresh⟩ := made
    have opened := awaited author fresh
    obtain ⟨t, found, status⟩ := (Option.any_eq_true _ _).mp resolved
    obtain ⟨row, -⟩ := Option.filter_eq_some_iff.mp found
    obtain rfl := Option.some.inj row
    exact absurd opened ((announcedThread_resolved_iff ..).mp (of_decide_eq_true status))
  · exact resolved

/-- A thread that is created as resolved is handed to nobody. -/
theorem announceWork_unpaired {env : Env} {orgId : OrgId} {params : AnnounceParams} {db : Db}
    (alone : ¬ db.Awaited (env, .announceWork orgId params)) :
    ∃ k, (db.announceWork env orgId params).1.delivered orgId k <
      db.delivered orgId k + enters db (db.announceWork env orgId params).1 orgId k := by
  simp only [Awaited, not_forall] at alone
  obtain ⟨author, fresh, unawaited⟩ := alone
  have row := announceWork_find env orgId params db (env.uuid 0)
  rw [if_pos ⟨author, rfl, fresh⟩] at row
  have now : (db.announceWork env orgId params).1.isResolved orgId (env.uuid 0) := by
    have target : (db.announceWork env orgId params).1.getThread orgId (env.uuid 0) =
        some (announcedThread env orgId params _) := getThread_eq_some.mpr ⟨row, rfl⟩
    rw [isResolved, target]
    exact decide_eq_true ((announcedThread_resolved_iff env orgId params _).mpr unawaited)
  have before : ¬ db.isResolved orgId (env.uuid 0) := by simp [isResolved, getThread, fresh]
  refine ⟨env.uuid 0, ?_⟩
  rw [enters, if_pos ⟨now, before⟩, delivered, delivered, announceWork_resolutions]
  omega

theorem runCommonAnnounceFlow_paired (env : Env) (threadId : ThreadId) (params : CommonFlowParams) (db : Db) :
    Paired db (db.runCommonAnnounceFlow env threadId params).1 := by
  refine .of_sends (runCommonAnnounceFlow_rewrites env threadId params db) ?_
    (runCommonAnnounceFlow_sends env threadId params db) ?_ ?_
  · intro t
    split <;> rfl
  · intro t lone
    rw [if_pos lone]
    exact ⟨by simp [lone.2.1], rfl⟩
  · intro t crowded resolved
    rwa [if_neg crowded] at resolved

theorem proposeResolution_paired (env : Env) (orgId : OrgId) (threadId : ThreadId) (agentId : AgentId)
    (summary : String) (db : Db) : Paired db (db.proposeResolution env orgId threadId agentId summary).1 := by
  refine .of_rewrites (proposeResolution_rewrites env orgId threadId agentId summary db) ?_
    (proposeResolution_resolutions ..) ?_
  · intro t
    split <;> rfl
  · intro t _ resolved
    split at resolved
    · cases resolved
    · exact resolved

theorem approveResolution_paired (env : Env) (orgId : OrgId) (threadId : ThreadId) (agentId : AgentId)
    (agentName : Option String) (db : Db) : Paired db (db.approveResolution env orgId threadId agentId agentName).1 := by
  refine .of_sends (approveResolution_rewrites env orgId threadId agentId agentName db) ?_
    (approveResolution_sends env orgId threadId agentId agentName db) ?_ ?_
  · intro t
    split <;> rfl
  · intro t completes
    rw [if_pos completes]
    exact ⟨by simp [completes.1], rfl⟩
  · intro t waits resolved
    rwa [if_neg waits] at resolved

theorem contestResolution_paired (env : Env) (orgId : OrgId) (threadId : ThreadId) (agentId : AgentId)
    (reason : String) (db : Db) : Paired db (db.contestResolution env orgId threadId agentId reason).1 := by
  refine .of_sends (contestResolution_rewrites env orgId threadId agentId reason db) ?_
    (contestResolution_sends env orgId threadId agentId reason db) ?_ ?_
  · intro t
    split
    · split <;> rfl
    · rfl
  · intro t last
    rw [if_pos ⟨last.1, last.2.1⟩, if_pos last.2.2]
    exact ⟨by simp [last.1], rfl⟩
  · intro t goesOn resolved
    split at resolved
    · rename_i contested
      rw [if_neg fun last => goesOn ⟨contested.1, contested.2, last⟩] at resolved
      cases resolved
    · exact resolved

theorem cancelThread_paired (env : Env) (orgId : OrgId) (threadId : ThreadId) (agentId : AgentId)
    (reason : Option String) (db : Db) : Paired db (db.cancelThread env orgId threadId agentId reason).1 := by
  refine .of_rewrites (cancelThread_rewrites env orgId threadId agentId reason db) ?_ (cancelThread_resolutions ..) ?_
  · intro t
    split <;> rfl
  · intro t _ resolved
    split at resolved
    · cases resolved
    · exact resolved

theorem closeThread_paired (env : Env) (orgId : OrgId) (threadId : ThreadId) (agentId : AgentId)
    (summary : String) (db : Db) : Paired db (db.closeThread env orgId threadId agentId summary).1 := by
  refine .of_sends (closeThread_rewrites env orgId threadId agentId summary db) ?_
    (closeThread_sends env orgId threadId agentId summary db) ?_ ?_
  · intro t
    split <;> rfl
  · intro t allowed
    rw [if_pos allowed]
    refine ⟨?_, rfl⟩
    intro resolved
    rw [resolved] at allowed
    cases allowed.2
  · intro t refused resolved
    rwa [if_neg refused] at resolved

theorem handleClaimTask_paired (env : Env) (orgId : OrgId) (threadId : ThreadId) (agentId : AgentId) (db : Db) :
    Paired db (db.handleClaimTask env orgId threadId agentId).1 := by
  refine .of_rewrites (handleClaimTask_rewrites env orgId threadId agentId db) ?_ ?_ ?_
  · intro t
    split <;> rfl
  · exact handleClaimTask_resolutions env orgId threadId agentId db
  · intro t _ resolved
    split at resolved <;> exact resolved

theorem handleUnclaimTask_paired (orgId : OrgId) (threadId : ThreadId) (agentId : AgentId) (db : Db) :
    Paired db (db.handleUnclaimTask orgId threadId agentId).1 := by
  refine .of_rewrites (handleUnclaimTask_rewrites orgId threadId agentId db) ?_ ?_ ?_
  · intro t
    split
    · split <;> rfl
    · rfl
  · exact handleUnclaimTask_resolutions orgId threadId agentId db
  · intro t _ resolved
    split at resolved
    · split at resolved
      · cases resolved
      · exact resolved
    · exact resolved

theorem handleIntrospectionResponse_paired (env : Env) (orgId : OrgId) (introspectionId : String) (concerned : Bool)
    (reason : String) (db : Db) : Paired db (db.handleIntrospectionResponse env orgId introspectionId concerned reason).1 := by
  rcases handleIntrospectionResponse_find env orgId introspectionId concerned reason db with
    same | ⟨asked, -, -, rewrites⟩
  · exact .of_threads (handleIntrospectionResponse_resolutions ..) same
  · refine .of_rewrites rewrites ?_ (handleIntrospectionResponse_resolutions ..) ?_
    · intro t
      split <;> rfl
    · intro t _ resolved
      split at resolved <;> exact resolved

/-- Each call but a lonely announce hands over an event for each thread it resolves, and no other. -/
theorem step_paired {db : Db} {env : Env} {op : Op} (awaited : db.Awaited (env, op)) : Paired db (db.step (env, op)) := by
  cases op with
  | announceWork orgId params => exact announceWork_paired awaited
  | runCommonAnnounceFlow threadId params => exact runCommonAnnounceFlow_paired env threadId params db
  | postToThread orgId params => exact .of_threads (postToThread_resolutions ..) (postToThread_threads ..)
  | proposeResolution orgId threadId agentId summary =>
    exact proposeResolution_paired env orgId threadId agentId summary db
  | approveResolution orgId threadId agentId agentName =>
    exact approveResolution_paired env orgId threadId agentId agentName db
  | contestResolution orgId threadId agentId reason =>
    exact contestResolution_paired env orgId threadId agentId reason db
  | cancelThread orgId threadId agentId reason => exact cancelThread_paired env orgId threadId agentId reason db
  | closeThread orgId threadId agentId summary => exact closeThread_paired env orgId threadId agentId summary db
  | handleAgentDeparture orgId agentId => exact (handleAgentDeparture_settles env orgId agentId db).paired
  | checkTimeouts => exact checkTimeouts_paired env db
  | handleClaimTask orgId threadId agentId => exact handleClaimTask_paired env orgId threadId agentId db
  | handleUnclaimTask orgId threadId agentId => exact handleUnclaimTask_paired orgId threadId agentId db
  | handleIntrospectionResponse orgId introspectionId concerned reason =>
    exact handleIntrospectionResponse_paired env orgId introspectionId concerned reason db
  | register orgId agentId name modules =>
    exact .of_threads (register_resolutions env orgId agentId name modules db) (register_threads ..)
  | setStatus status orgId agentId => exact .of_threads rfl rfl
  | logFile orgId agentId filePath symbols => exact .of_threads rfl rfl
  | startWorking orgId agentId filePath ttlMinutes => exact .of_threads rfl rfl
  | stopWorking orgId agentId filePath => exact .of_threads rfl rfl

/-- A thread that a call resolves is handed over by that call. -/
theorem step_resolved_sent {db : Db} {env : Env} {op : Op} {orgId : OrgId} {k : ThreadId} {t t' : Thread}
    (found : db.getThread orgId k = some t) (unresolved : t.status ≠ .resolved)
    (later : (db.step (env, op)).getThread orgId k = some t') (resolved : t'.status = .resolved) :
    (db.step (env, op)).delivered orgId k = db.delivered orgId k + 1 := by
  have entered : enters db (db.step (env, op)) orgId k = 1 := by
    rw [enters, isResolved, isResolved, found, later]
    simp [unresolved, resolved]
  by_cases awaited : db.Awaited (env, op)
  · rw [step_paired awaited, entered]
  · cases op with
    | announceWork o params =>
      exfalso
      have row : (db.announceWork env o params).1.threads.find k = some t' := (getThread_eq_some.mp later).1
      rw [announceWork_find, (getThread_eq_some.mp found).1] at row
      split at row
      · rename_i made
        rw [← made.2.1, (getThread_eq_some.mp found).1] at made
        cases made.2.2
      · obtain rfl := Option.some.inj row
        exact unresolved resolved
    | _ => exact absurd trivial awaited

/-- No thread is handed over more often than it is resolved. -/
theorem step_delivered_le (db : Db) (call : Env × Op) (orgId : OrgId) (k : ThreadId) :
    (db.step call).delivered orgId k ≤ db.delivered orgId k + enters db (db.step call) orgId k := by
  obtain ⟨env, op⟩ := call
  by_cases awaited : db.Awaited (env, op)
  · exact (step_paired awaited orgId k).le
  · cases op with
    | announceWork o params =>
      have silent : (db.step (env, .announceWork o params)).resolutions = db.resolutions := announceWork_resolutions ..
      rw [delivered, silent]
      exact Nat.le_add_right _ _
    | _ => exact absurd trivial awaited

theorem delivered_le_entries (db : Db) (calls : List (Env × Op)) (orgId : OrgId) (k : ThreadId) :
    (db.after calls).delivered orgId k ≤ db.delivered orgId k + db.entries orgId k calls := by
  induction calls generalizing db with
  | nil => exact Nat.le_add_right _ _
  | cons call rest ih =>
    have first := step_delivered_le db call orgId k
    have later := ih (db.step call)
    rw [after, List.foldl_cons, ← after, entries]
    omega

/-- In a run, each thread gets one event for each time it is resolved exactly
when no announce creates its thread as resolved. -/
theorem resolutions_paired_iff (db : Db) (calls : List (Env × Op)) :
    (∀ orgId k, (db.after calls).delivered orgId k = db.delivered orgId k + db.entries orgId k calls) ↔
      GuardedRun.Meets step Awaited db calls := by
  induction calls generalizing db with
  | nil => exact iff_of_true (fun _ _ => rfl) trivial
  | cons call rest ih =>
    obtain ⟨env, op⟩ := call
    rw [after, List.foldl_cons, ← after]
    constructor
    · intro paired
      have awaited : db.Awaited (env, op) := by
        by_contra alone
        cases op with
        | announceWork orgId params =>
          obtain ⟨k, missed⟩ := announceWork_unpaired alone
          have total := paired orgId k
          have later := delivered_le_entries (db.step (env, .announceWork orgId params)) rest orgId k
          rw [entries] at total
          have here : (db.step (env, .announceWork orgId params)).delivered orgId k <
              db.delivered orgId k + enters db (db.step (env, .announceWork orgId params)) orgId k := missed
          omega
        | _ => exact alone trivial
      refine ⟨awaited, (ih _).mp ?_⟩
      intro orgId k
      have total := paired orgId k
      have first := step_paired awaited orgId k
      rw [entries] at total
      omega
    · intro meets orgId k
      have first := step_paired meets.1 orgId k
      have later := (ih _).mpr meets.2 orgId k
      rw [entries]
      omega

/-- Ada is alone, so her thread is resolved as it is created and nobody hears of it. -/
theorem not_resolutions_paired : ¬ ∀ (db : Db) (calls : List (Env × Op)) (orgId : OrgId) (k : ThreadId),
    (db.after calls).delivered orgId k = db.delivered orgId k + db.entries orgId k calls := by
  intro paired
  have silent := paired (team [("ada", [])])
    [(.drawing "t1", .announceWork "acme" (.ofFiles "ada" ["a.ts"] false)),
      (.drawing "i1", .runCommonAnnounceFlow "t1" (AnnounceBody.flowParams
        { agentId := "ada", subject := "", plan := none, targetModules := [], targetFiles := ["a.ts"]
          dependsOnFiles := none, exportsAffected := none, keepOpen := false, assignedTo := none
          targetSymbols := none, runId := none } "acme"))] "acme" "t1"
  revert silent
  decide +kernel

end Db

end Coordinator
