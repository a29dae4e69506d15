import Coordinator.TenantServed

namespace Coordinator

/-- The row without its id. -/
def EventRow.content (e : EventRow) : EventBody × Stamp := (e.body, e.createdAt)

/-- The rows a list of events becomes after an id. -/
def stampedEvents (stamp : Stamp) : Nat → List (OrgId × EventBody) → List EventRow
  | _, [] => []
  | seq, event :: rest =>
    { id := seq + 1, orgId := event.1, body := event.2, createdAt := stamp } :: stampedEvents stamp (seq + 1) rest

section Events
variable {A : OrgId} {stamp : Stamp}

theorem stampedEvents_content (seq : Nat) (events : List (OrgId × EventBody)) :
    (ownedBy EventRow.orgId A (stampedEvents stamp seq events)).map EventRow.content =
      (ownedBy Prod.fst A events).map fun event => (event.2, stamp) := by
  induction events generalizing seq with
  | nil => rfl
  | cons event rest ih =>
    by_cases own : event.1 = A
    · simp only [stampedEvents, ownedBy, List.filter_cons, own, decide_true, if_true, List.map_cons]
      exact congrArg₂ List.cons rfl (ih (seq + 1))
    · simp only [stampedEvents, ownedBy, List.filter_cons, own, decide_false, Bool.false_eq_true, if_false]
      exact ih (seq + 1)

theorem stampedEvents_none (seq : Nat) {events : List (OrgId × EventBody)} (none : ownedBy Prod.fst A events = []) :
    ownedBy EventRow.orgId A (stampedEvents stamp seq events) = [] := by
  have contents : (ownedBy EventRow.orgId A (stampedEvents stamp seq events)).map EventRow.content =
      (ownedBy Prod.fst A events).map fun event => (event.2, stamp) := stampedEvents_content seq events
  rw [none] at contents
  exact List.map_eq_nil_iff.mp contents

/-- The ids of an org's events follow from where they stand among all of them. -/
theorem stampedEvents_congr {seq : Nat} {events events' : List (OrgId × EventBody)}
    (places : (events.map fun event => decide (event.1 = A)) = events'.map fun event => decide (event.1 = A))
    (same : ownedBy Prod.fst A events = ownedBy Prod.fst A events') :
    ownedBy EventRow.orgId A (stampedEvents stamp seq events) =
      ownedBy EventRow.orgId A (stampedEvents stamp seq events') := by
  induction events generalizing seq events' with
  | nil =>
    cases events' with
    | nil => rfl
    | cons _ _ => simp at places
  | cons event rest ih =>
    cases events' with
    | nil => simp at places
    | cons event' rest' =>
      simp only [List.map_cons, List.cons.injEq, decide_eq_decide] at places
      obtain ⟨place, later⟩ := places
      by_cases own : event.1 = A
      · have own' := place.mp own
        simp only [ownedBy, List.filter_cons, own, own', decide_true, if_true, List.cons.injEq] at same
        obtain ⟨rfl, rows⟩ := same
        simp only [stampedEvents, ownedBy, List.filter_cons, own, decide_true, if_true]
        exact congrArg₂ List.cons rfl (ih later rows)
      · have own' : event'.1 ≠ A := fun same => own (place.mpr same)
        simp only [ownedBy, List.filter_cons, own, own', decide_false, Bool.false_eq_true, if_false] at same
        simp only [stampedEvents, ownedBy, List.filter_cons, own, own', decide_false, Bool.false_eq_true, if_false]
        exact ih later same

end Events

/-- What the event says of the firing, once the orgs are known to be the same. -/
def LayerFiring.resolvedBy (lf : LayerFiring) (content : EventBody × Stamp) : Option ResolutionType :=
  match content.1 with
  | .threadResolved event => if event.threadId = lf.threadId then some event.resolutionType else none
  | _ => none

theorem LayerFiring.outcomes_eq {A : OrgId} (lf : LayerFiring) (own : lf.orgId = A) (events : List EventRow) :
    events.filterMap lf.outcome = ((ownedBy EventRow.orgId A events).map EventRow.content).filterMap lf.resolvedBy := by
  induction events with
  | nil => rfl
  | cons e rest ih =>
    obtain ⟨id, orgId, body, createdAt⟩ := e
    by_cases here : orgId = A
    · have same : lf.outcome ⟨id, orgId, body, createdAt⟩ = lf.resolvedBy (body, createdAt) := by
        cases body with
        | threadResolved event => simp only [outcome, resolvedBy, own, here, and_true]
        | _ => rfl
      simp only [ownedBy, List.filter_cons, here, decide_true, if_true, List.map_cons, List.filterMap_cons]
      rw [← here, same, here, ih]
      rfl
    · have none : lf.outcome ⟨id, orgId, body, createdAt⟩ = none := by
        unfold outcome
        split
        · exact if_neg fun both => here (both.2.trans own)
        · rfl
      simp only [ownedBy, List.filter_cons, here, decide_false, Bool.false_eq_true, if_false, List.filterMap_cons, none]
      exact ih

/-- The answer counts layer firings. -/
def Query.asksStats : Query → Bool
  | .scoringStats .. => true
  | _ => false

/-- The answer carries ids of events. -/
def Query.asksIds : Query → Bool
  | .agentsOnline | .events .. => true
  | _ => false

namespace World
variable {A : OrgId}

theorem foldl_emit (stamp : Stamp) (events : List (OrgId × EventBody)) (w : World) :
    (events.foldl (emit stamp) w).db = w.db ∧ (events.foldl (emit stamp) w).activity = w.activity ∧
      (events.foldl (emit stamp) w).events = w.events ++ stampedEvents stamp w.eventSeq events := by
  induction events generalizing w with
  | nil => exact ⟨rfl, rfl, (List.append_nil _).symm⟩
  | cons event rest ih =>
    obtain ⟨sameDb, sameActivity, rows⟩ := ih (w.emit stamp event)
    refine ⟨sameDb, sameActivity, ?_⟩
    rw [List.foldl_cons, rows]
    simp only [emit, stampedEvents, List.append_assoc, List.singleton_append]

/-- Everything a call sends: the resolutions of threads, then its own events. -/
def sent (db : Db) (own : List (OrgId × EventBody)) : List (OrgId × EventBody) :=
  db.resolutions.map (fun event => (event.orgId, EventBody.threadResolved event)) ++ own

theorem publish_db (stamp : Stamp) (db : Db) (own : List (OrgId × EventBody)) (w : World) :
    (w.publish stamp db own).db = { db with resolutions := [] } := (foldl_emit stamp _ _).1

theorem publish_activity (stamp : Stamp) (db : Db) (own : List (OrgId × EventBody)) (w : World) :
    (w.publish stamp db own).activity = w.activity := (foldl_emit stamp _ _).2.1

theorem publish_events (stamp : Stamp) (db : Db) (own : List (OrgId × EventBody)) (w : World) :
    (w.publish stamp db own).events = w.events ++ stampedEvents stamp w.eventSeq (sent db own) :=
  (foldl_emit stamp _ _).2.2

/-- Two worlds the org cannot tell apart, with or without the ids of its events. -/
structure Alike (A : OrgId) (stats ids : Prop) (w w' : World) : Prop where
  db : Db.Alike A stats w.db w'.db
  activity : ownedBy AgentActivity.orgId A w.activity = ownedBy AgentActivity.orgId A w'.activity
  events : (ownedBy EventRow.orgId A w.events).map EventRow.content =
    (ownedBy EventRow.orgId A w'.events).map EventRow.content
  rows : ids → ownedBy EventRow.orgId A w.events = ownedBy EventRow.orgId A w'.events

variable {stats ids : Prop} {w w' w'' : World}

theorem ownedBy_sent {db db' : Db} (alike : Db.Alike A stats db db') {own own' : List (OrgId × EventBody)}
    (same : ownedBy Prod.fst A own = ownedBy Prod.fst A own') :
    ownedBy Prod.fst A (sent db own) = ownedBy Prod.fst A (sent db' own') := by
  have resolved : ∀ rows : List ResolutionEvent,
      ownedBy Prod.fst A (rows.map fun event => (event.orgId, EventBody.threadResolved event)) =
        (ownedBy ResolutionEvent.orgId A rows).map fun event => (event.orgId, EventBody.threadResolved event) := by
    intro rows
    simp only [ownedBy, List.filter_map]
    rfl
  rw [sent, sent, ownedBy_append, ownedBy_append, resolved, resolved, alike.resolutions, same]

namespace Alike

theorem refl (w : World) : Alike A stats ids w w := ⟨.refl w.db, rfl, rfl, fun _ => rfl⟩

theorem symm (alike : Alike A stats ids w w') : Alike A stats ids w' w :=
  ⟨alike.db.symm, alike.activity.symm, alike.events.symm, fun asked => (alike.rows asked).symm⟩

theorem trans (alike : Alike A stats ids w w') (later : Alike A stats ids w' w'') : Alike A stats ids w w'' :=
  ⟨alike.db.trans later.db, alike.activity.trans later.activity, alike.events.trans later.events,
    fun asked => (alike.rows asked).trans (later.rows asked)⟩

theorem withActivity (alike : Alike A stats ids w w') {rows rows' : List AgentActivity}
    (same : ownedBy AgentActivity.orgId A rows = ownedBy AgentActivity.orgId A rows') :
    Alike A stats ids { w with activity := rows } { w' with activity := rows' } :=
  ⟨alike.db, same, alike.events, alike.rows⟩

/-- Two calls whose databases and whose events agree, and whose numbering does where ids are read. -/
theorem publish (alike : Alike A stats ids w w') {db db' : Db} (after : Db.Alike A stats db db') (stamp : Stamp)
    {own own' : List (OrgId × EventBody)} (same : ownedBy Prod.fst A own = ownedBy Prod.fst A own')
    (numbered : ids → ownedBy Prod.fst A (sent db own) = [] ∨ w.eventSeq = w'.eventSeq ∧
      ((sent db own).map fun event => decide (event.1 = A)) = (sent db' own').map fun event => decide (event.1 = A)) :
    Alike A stats ids (w.publish stamp db own) (w'.publish stamp db' own') := by
  have sends := ownedBy_sent after same
  refine ⟨?_, ?_, ?_, ?_⟩
  · rw [publish_db, publish_db]
    exact { after with resolutions := rfl }
  · rw [publish_activity, publish_activity]
    exact alike.activity
  · rw [publish_events, publish_events, ownedBy_append, ownedBy_append, List.map_append, List.map_append,
      alike.events, stampedEvents_content, stampedEvents_content, sends]
  · intro asked
    rw [publish_events, publish_events, ownedBy_append, ownedBy_append, alike.rows asked]
    rcases numbered asked with nothing | ⟨seq, places⟩
    · rw [stampedEvents_none _ nothing, stampedEvents_none _ (sends ▸ nothing)]
    · rw [seq, stampedEvents_congr places sends]

/-- A call that leaves the org's part of the database alone and sends it nothing. -/
theorem of_publish {db : Db} (after : Db.Alike A stats w.db db) (stamp : Stamp) {own : List (OrgId × EventBody)}
    (foreign : ownedBy Prod.fst A own = []) : Alike A stats ids w (w.publish stamp db own) := by
  have nothing : ownedBy Prod.fst A (sent db own) = [] := by
    have sends : ownedBy Prod.fst A (sent db own) = ownedBy Prod.fst A (sent w.db []) := ownedBy_sent after.symm foreign
    rw [sends, sent, w.drained]
    rfl
  have unchanged : ownedBy EventRow.orgId A (w.publish stamp db own).events = ownedBy EventRow.orgId A w.events := by
    rw [publish_events, ownedBy_append, stampedEvents_none _ nothing, List.append_nil]
  refine ⟨?_, ?_, ?_, ?_⟩
  · rw [publish_db]
    exact { after with resolutions := by rw [w.drained] }
  · rw [publish_activity]
  · rw [unchanged]
  · intro _
    rw [unchanged]

/-! What the org is answered. -/

theorem scoringStats (alike : Alike A stats ids w w') (asked : stats) (env : Env) (sinceMin : Nat) :
    w.handleScoringStats env A sinceMin = w'.handleScoringStats env A sinceMin := by
  have fired : w.firedOutcomes env A sinceMin = w'.firedOutcomes env A sinceMin := by
    simp only [firedOutcomes, filter_scoped, alike.db.firings asked]
    refine List.flatMap_congr fun lf member => ?_
    have own : lf.orgId = A := (mem_ownedBy.mp (List.mem_filter.mp member).1).2
    rw [lf.outcomes_eq own, lf.outcomes_eq own, alike.events]
  simp only [handleScoringStats, fired]

/-- The queries whose answers carry ids of events. -/
theorem answer (alike : Alike A stats ids w w') (env : Env) {q : Query} (countsFirings : q.asksStats → stats)
    (readsIds : q.asksIds → ids) : w.answer env A q = w'.answer env A q := by
  cases q with
  | listThreads filters => exact congrArg Answer.threads (alike.db.listing env filters)
  | getThread threadId => exact congrArg Answer.threadWithMessages (alike.db.getThreadWithMessages threadId)
  | getThreadUpdates agentId since => exact congrArg Answer.messages (alike.db.getThreadUpdates agentId since)
  | listAgents onlineOnly => simp only [World.answer, alike.db.listOnline, alike.db.listAll]
  | agentsOnline =>
    have rows := alike.rows (readsIds rfl)
    simp only [ownedBy] at rows
    simp only [World.answer, handleAgentsOnline, rows, alike.db.listOnline, alike.db.getActivity alike.activity]
  | agentActivity =>
    simp only [World.answer, Db.listActivity, alike.db.listOnline, alike.db.getActivity alike.activity]
  | agentStatus agentId =>
    simp only [World.answer, handleAgentStatus, alike.db.getAgent, alike.db.getActivity alike.activity]
  | hotFiles sinceMinutes => exact congrArg Answer.hotFiles (alike.db.getHotFiles env sinceMinutes)
  | checkFileConflict filePath agentId withinMinutes =>
    exact congrArg Answer.fileConflict (alike.db.checkFileConflict env filePath agentId withinMinutes)
  | pendingIntrospections agentId => exact congrArg Answer.introspections (alike.db.getPending agentId)
  | blastRadius moduleId => exact congrArg Answer.blastRadius (alike.db.getBlastRadius moduleId)
  | moduleInfo moduleId => exact congrArg Answer.moduleInfo (alike.db.getModuleInfo moduleId)
  | events lastEventId =>
    have rows := alike.rows (readsIds rfl)
    have recent := rows
    simp only [ownedBy] at recent
    simp only [World.answer, getEventsSince, getRecentEvents, filter_scoped, rows, recent]
  | scoringStats sinceMin => exact congrArg Answer.scoringStats (alike.scoringStats (countsFirings rfl) env sinceMin)

end Alike

end World

end Coordinator
