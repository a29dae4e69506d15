import Coordinator.ResolutionEvents
import Coordinator.TenantEvents

namespace Coordinator

namespace Call

/-- The calls both runs take: those of the org, and the sweep. -/
def concerns (A : OrgId) : Call → Bool
  | .operation _ orgId _ => orgId = A
  | .query _ orgId _ => orgId = A
  | .checkTimeouts _ => true

/-- The org puts such a query. -/
def asks (A : OrgId) (about : Query → Bool) : Call → Bool
  | .query _ orgId q => orgId = A ∧ about q
  | _ => false

/-- Thread ids are unique: an announcement draws one that no row carries. -/
def Fresh (w : World) : Call → Prop
  | .operation env _ op => op.announces → w.db.FreshThread (env.uuid 0)
  | _ => True

instance (w : World) (call : Call) : Decidable (call.Fresh w) :=
  match call with
  | .operation env _ op => inferInstanceAs (Decidable (op.announces → w.db.FreshThread (env.uuid 0)))
  | .query .. => .isTrue trivial
  | .checkTimeouts _ => .isTrue trivial

/-- No announcement of another org fires a layer. -/
def Quiet (A : OrgId) (w : World) : Call → Prop
  | .operation _ orgId op => orgId ≠ A → w.db.FiresNothing orgId op
  | _ => True

instance (A : OrgId) (w : World) (call : Call) : Decidable (call.Quiet A w) :=
  match call with
  | .operation _ orgId op => inferInstanceAs (Decidable (orgId ≠ A → w.db.FiresNothing orgId op))
  | .query .. => .isTrue trivial
  | .checkTimeouts _ => .isTrue trivial

theorem concerns_of_asks {A : OrgId} {about : Query → Bool} {call : Call} (asks : call.asks A about) :
    call.concerns A := by
  cases call with
  | query env orgId q => exact decide_eq_true (of_decide_eq_true asks).1
  | operation env orgId op => cases asks
  | checkTimeouts env => cases asks

/-- Runs with the same calls of the org put the same queries. -/
theorem asks_any {A : OrgId} {calls calls' : List Call} {about : Query → Bool}
    (same : calls.filter (concerns A) = calls'.filter (concerns A)) :
    ∀ call ∈ calls', call.asks A about → calls.any (asks A about) := by
  intro call member asks
  have listed : call ∈ calls'.filter (concerns A) := List.mem_filter.mpr ⟨member, concerns_of_asks asks⟩
  rw [← same] at listed
  exact List.any_eq_true.mpr ⟨call, (List.mem_filter.mp listed).1, asks⟩

end Call

namespace Db

theorem setMap_resolutions (orgId : OrgId) (map : List ParsedModule) (db : Db) :
    (db.setMap orgId map).resolutions = db.resolutions := by
  unfold setMap
  induction map generalizing db with
  | nil => rfl
  | cons info rest ih => exact ih (db.setModule orgId info)

theorem serve_silent {op : Operation} (silent : op.silent) (env : Env) (orgId : OrgId) (activity : List AgentActivity)
    (db : Db) : (db.serve env orgId activity op).events = [] ∧
      (db.serve env orgId activity op).db.resolutions = db.resolutions := by
  cases op with
  | fileActivity agentId filePath symbols => exact ⟨rfl, rfl⟩
  | startWorking agentId filePath ttlMinutes => exact ⟨rfl, rfl⟩
  | stopWorking agentId filePath => exact ⟨rfl, rfl⟩
  | setMap map => exact ⟨rfl, setMap_resolutions orgId map db⟩
  | unclaimTask threadId agentId => exact ⟨rfl, handleUnclaimTask_resolutions orgId threadId agentId db⟩
  | _ => cases silent

/-- The threads an operation resolves are of its org. -/
theorem serve_resolutions {db : Db} (drained : db.resolutions = []) (env : Env) (orgId : OrgId)
    (activity : List AgentActivity) (op : Operation) :
    ∀ event ∈ (db.serve env orgId activity op).db.resolutions, event.orgId = orgId := by
  intro event member
  by_contra apart
  have unseen : Alike event.orgId False db (db.serve env orgId activity op).db :=
    Alike.of_serve (Ne.symm apart) env activity fun asked => asked.elim
  have listed : event ∈ ownedBy ResolutionEvent.orgId event.orgId (db.serve env orgId activity op).db.resolutions :=
    mem_ownedBy.mpr ⟨member, rfl⟩
  rw [← unseen.resolutions, drained] at listed
  cases listed

/-- The sweep reports the late threads in their order, each to its own org. -/
theorem checkTimeouts_orgs (env : Env) (db : Db) :
    (db.checkTimeouts env).resolutions.map (·.orgId) =
      db.resolutions.map (·.orgId) ++ (db.threads.rows.filter (timedOut env)).map (·.orgId) := by
  have topics := congrArg (List.map Prod.fst) (checkTimeouts_topics env db)
  rw [List.map_append, List.map_map, List.map_map, List.map_map] at topics
  exact topics

end Db

/-- A call one hour after the epoch. -/
def Env.anHourIn (id : String) : Env := { Env.drawing id with now := 3600000 }

namespace World
variable {A o : OrgId} {stats ids : Prop} {w w' : World}

/-- Where the ids of the events that a call sends to the org come from: the
counter of the one sequence, and for the sweep the places of the org's threads
among the late ones. -/
def numbering (A : OrgId) (w : World) : Call → Option (Nat × List Bool)
  | .operation _ _ op => if op.silent then none else some (w.eventSeq, [])
  | .query _ _ _ => none
  | .checkTimeouts env =>
    let late := w.db.threads.rows.filter (Db.timedOut env)
    if late.any fun t => t.orgId = A then some (w.eventSeq, late.map fun t => decide (t.orgId = A)) else none

/-- Everything an operation of an org sends. -/
def sending (env : Env) (orgId : OrgId) (op : Operation) (w : World) : List (OrgId × EventBody) :=
  let served := w.db.serve env orgId w.activity op
  sent served.db (served.events.map fun body => (orgId, body))

theorem sending_own (env : Env) (op : Operation) : ∀ event ∈ w.sending env A op, event.1 = A := by
  intro event member
  rcases List.mem_append.mp member with resolved | own
  · obtain ⟨resolution, listed, rfl⟩ := List.mem_map.mp resolved
    exact Db.serve_resolutions w.drained env A w.activity op resolution listed
  · obtain ⟨body, -, rfl⟩ := List.mem_map.mp own
    rfl

theorem sending_silent {op : Operation} (silent : op.silent) (env : Env) : w.sending env A op = [] := by
  obtain ⟨noEvents, resolutions⟩ := Db.serve_silent silent env A w.activity w.db
  simp only [sending, sent, noEvents, resolutions, w.drained, List.map_nil, List.append_nil]

/-- The sweep's reports stand as the late threads do. -/
theorem sent_sweep (env : Env) :
    ((sent (w.db.checkTimeouts env) []).map fun event => decide (event.1 = A)) =
      (w.db.threads.rows.filter (Db.timedOut env)).map fun t => decide (t.orgId = A) := by
  have orgs := Db.checkTimeouts_orgs env w.db
  rw [w.drained, List.map_nil, List.nil_append] at orgs
  have places := congrArg (List.map fun org => decide (org = A)) orgs
  simp only [List.map_map] at places
  simp only [sent, List.append_nil, List.map_map]
  exact places

namespace Alike

theorem operation (alike : Alike A stats ids w w') {env : Env} {op : Operation}
    (fresh : op.announces → w.db.FreshThread (env.uuid 0) ∧ w'.db.FreshThread (env.uuid 0))
    (numbered : ids → w.numbering A (.operation env A op) = w'.numbering A (.operation env A op)) :
    Alike A stats ids (w.step (.operation env A op)) (w'.step (.operation env A op)) ∧
      w.reply (.operation env A op) = w'.reply (.operation env A op) := by
  have served := alike.db.serve alike.activity fresh
  refine ⟨?_, served.reply⟩
  have same := congrArg (List.map fun body => (A, body)) served.events
  have sends : ownedBy Prod.fst A (w.sending env A op) = ownedBy Prod.fst A (w'.sending env A op) :=
    ownedBy_sent served.alike (congrArg (ownedBy Prod.fst A) same)
  simp only [World.step, ← served.stamp]
  refine (alike.publish served.alike _ (congrArg _ same) fun asked => ?_).withActivity
    (alike.db.track alike.activity env op)
  by_cases silent : op.silent
  · left
    change ownedBy Prod.fst A (w.sending env A op) = []
    rw [sending_silent silent]
    rfl
  · right
    have counter := numbered asked
    simp only [numbering, if_neg silent, Option.some.injEq, Prod.mk.injEq, and_true] at counter
    -- every event is the org's, so that the two calls send one and the same list
    have whole : ∀ v : World, ownedBy Prod.fst A (v.sending env A op) = v.sending env A op :=
      fun v => List.filter_eq_self.mpr fun event member => decide_eq_true (sending_own env op event member)
    rw [whole, whole] at sends
    exact ⟨counter, congrArg _ sends⟩

theorem sweep (alike : Alike A stats ids w w') (env : Env)
    (numbered : ids → w.numbering A (.checkTimeouts env) = w'.numbering A (.checkTimeouts env)) :
    Alike A stats ids (w.step (.checkTimeouts env)) (w'.step (.checkTimeouts env)) := by
  refine alike.publish (alike.db.checkTimeouts env) _ rfl fun asked => ?_
  have counters := numbered asked
  simp only [numbering] at counters
  by_cases late : (w.db.threads.rows.filter (Db.timedOut env)).any fun t => t.orgId = A
  · right
    rw [if_pos late] at counters
    split at counters
    · simp only [Option.some.injEq, Prod.mk.injEq] at counters
      rw [sent_sweep, sent_sweep]
      exact counters
    · cases counters
  · left
    refine List.filter_eq_nil_iff.mpr fun event member own => late ?_
    have listed := List.mem_map_of_mem (f := fun event : OrgId × EventBody => decide (event.1 = A)) member
    rw [own, sent_sweep, List.mem_map] at listed
    obtain ⟨t, inRows, mine⟩ := listed
    exact List.any_eq_true.mpr ⟨t, inRows, mine⟩

theorem of_operation (apart : o ≠ A) (env : Env) {op : Operation}
    (quiet : stats → A = defaultOrg → w.db.FiresNothing o op) :
    Alike A stats ids w (w.step (.operation env o op)) := by
  let served := w.db.serve env o w.activity op
  have foreign : ownedBy Prod.fst A (served.events.map fun body => (o, body)) = [] := by
    refine List.filter_eq_nil_iff.mpr fun event member own => ?_
    obtain ⟨body, -, rfl⟩ := List.mem_map.mp member
    exact apart (of_decide_eq_true own)
  have published : Alike A stats ids w (w.publish served.stamp served.db (served.events.map fun body => (o, body))) :=
    of_publish (Db.Alike.of_serve apart env w.activity quiet) served.stamp foreign
  exact published.withActivity (Db.Alike.of_track apart env op)

end Alike

/-- What is asked of a call of either run; the statistics and the ids count
where the org reads them. -/
def Guarded (A : OrgId) (stats ids : Prop) (w : World) (call : Call) : Prop :=
  call.Fresh w ∧ (stats → A = defaultOrg → call.Quiet A w) ∧ (call.asks A Query.asksStats → stats) ∧
    (call.asks A Query.asksIds → ids)

theorem unwinds {γ : Type} {mark : World → Call → γ}
    (numbered : ids → ∀ {v v' : World} {call : Call}, mark v call = mark v' call →
      v.numbering A call = v'.numbering A call) :
    Unwinding.Unwinds step reply (Call.concerns A) mark (Guarded A stats ids) (Alike A stats ids) where
  symm := Alike.symm
  own := by
    intro w w' call own alike guard guard' marks
    cases call with
    | operation env orgId op =>
      obtain rfl := of_decide_eq_true own
      exact alike.operation (fun announces => ⟨guard.1 announces, guard'.1 announces⟩) fun asked => numbered asked marks
    | query env orgId q =>
      obtain rfl := of_decide_eq_true own
      obtain ⟨-, -, asksStats, asksIds⟩ := guard
      exact ⟨alike, alike.answer env (fun asks => asksStats (decide_eq_true ⟨rfl, asks⟩))
        fun asks => asksIds (decide_eq_true ⟨rfl, asks⟩)⟩
    | checkTimeouts env => exact ⟨alike.sweep env fun asked => numbered asked marks, rfl⟩
  foreign := by
    intro w w' call foreign alike guard
    cases call with
    | operation env orgId op =>
      have apart : orgId ≠ A := fun own => foreign (decide_eq_true own)
      obtain ⟨-, quiet, -⟩ := guard
      exact (Alike.of_operation apart env fun asked default => quiet asked default apart).symm.trans alike
    | query env orgId q => exact alike
    | checkTimeouts env => exact absurd rfl foreign

theorem guarded_run {calls : List Call} (fresh : GuardedRun.Meets step Call.Fresh w calls)
    (quiet : stats → A = defaultOrg → GuardedRun.Meets step (Call.Quiet A) w calls)
    (asksStats : ∀ call ∈ calls, call.asks A Query.asksStats → stats)
    (asksIds : ∀ call ∈ calls, call.asks A Query.asksIds → ids) :
    GuardedRun.Meets step (Guarded A stats ids) w calls :=
  fresh.and (.and (.under fun asked => .under (quiet asked)) (.and (.of_inputs asksStats) (.of_inputs asksIds)))

/-- Non-interference: the calls of other orgs change no answer to an org. -/
def TenantsIsolated : Prop :=
  ∀ (A : OrgId) (w : World) (calls calls' : List Call),
    calls.filter (Call.concerns A) = calls'.filter (Call.concerns A) →
      GuardedRun.Meets step Call.Fresh w calls → GuardedRun.Meets step Call.Fresh w calls' →
        Unwinding.observed step (Call.concerns A) reply w calls =
          Unwinding.observed step (Call.concerns A) reply w calls'

/-- Two agents of an org register, and the second announces work on its module. -/
def announcing (orgId : OrgId) (peerModule moduleId : ModuleId) : List Call :=
  let body : AnnounceBody :=
    { agentId := "bob", subject := "", plan := none, targetModules := [moduleId], targetFiles := []
      dependsOnFiles := none, exportsAffected := none, keepOpen := false, assignedTo := none, targetSymbols := none
      runId := none }
  [.operation (.anHourIn "") orgId (.register "ada" "ada" [peerModule]),
    .operation (.anHourIn "") orgId (.register "bob" "bob" [moduleId]),
    .operation (.anHourIn "t1") orgId (.announce (.anHourIn "i1") [] body)]

/-- The layer that one org fires is counted among the default org's own. -/
theorem not_tenantsIsolated : ¬ TenantsIsolated := by
  intro isolated
  let asked : Call := .query (.anHourIn "") defaultOrg (.scoringStats 60)
  have answers := isolated defaultOrg unused (announcing "acme" "auth" "auth" ++ [asked]) [asked] (by rfl) (by decide)
    (by decide)
  revert answers
  decide

/-- Two runs that take the same calls of an org give it the same answers.
The org that owns the unscoped firings must not count them while others fire
layers, and one that reads ids of events must find its own numbered alike. -/
theorem answers_isolated (A : OrgId) (w : World) (calls calls' : List Call)
    (same : calls.filter (Call.concerns A) = calls'.filter (Call.concerns A))
    (fresh : GuardedRun.Meets step Call.Fresh w calls) (fresh' : GuardedRun.Meets step Call.Fresh w calls')
    (quiet : A = defaultOrg → calls.any (Call.asks A Query.asksStats) →
      GuardedRun.Meets step (Call.Quiet A) w calls ∧ GuardedRun.Meets step (Call.Quiet A) w calls')
    (numbered : calls.any (Call.asks A Query.asksIds) →
      Unwinding.observed step (Call.concerns A) (numbering A) w calls =
        Unwinding.observed step (Call.concerns A) (numbering A) w calls') :
    Unwinding.observed step (Call.concerns A) reply w calls =
      Unwinding.observed step (Call.concerns A) reply w calls' := by
  have meets := guarded_run fresh (fun stats default => (quiet default stats).1) (Call.asks_any rfl) (Call.asks_any rfl)
  have meets' :=
    guarded_run fresh' (fun stats default => (quiet default stats).2) (Call.asks_any same) (Call.asks_any same)
  by_cases ids : calls.any (Call.asks A Query.asksIds)
  · exact (unwinds fun _ _ _ _ marks => marks).replies_eq (.refl w) same (numbered ids) meets meets'
  · have lengths : Unwinding.observed step (Call.concerns A) (fun _ _ => ()) w calls =
        Unwinding.observed step (Call.concerns A) (fun _ _ => ()) w calls' := by
      refine List.ext_getElem ?_ fun _ _ _ => rfl
      rw [Unwinding.observed_length, Unwinding.observed_length, same]
    exact (unwinds fun asked => absurd asked ids).replies_eq (.refl w) same lengths meets meets'

/-- Peers on other modules score nothing, and ids drawn before them are the same. -/
theorem answers_isolated_apart :
    let registered : Call := .operation (.anHourIn "") defaultOrg (.register "gil" "gil" [])
    let asked : List Call :=
      [.query (.anHourIn "") defaultOrg .agentsOnline, .query (.anHourIn "") defaultOrg (.scoringStats 60)]
    Unwinding.observed step (Call.concerns defaultOrg) reply unused
        (registered :: (announcing "acme" "auth" "docs" ++ asked)) =
      Unwinding.observed step (Call.concerns defaultOrg) reply unused (registered :: asked) :=
  answers_isolated defaultOrg unused _ _ (by rfl) (by decide) (by decide) (fun _ _ => by decide) (fun _ => by decide)

end World

end Coordinator
