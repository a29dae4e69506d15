import Mathlib.Algebra.Order.BigOperators.Group.List
import Coordinator.DepartureFrame
import Coordinator.RegistryFrame
import Coordinator.TenantWorld
import Coordinator.AnnounceOutcome

namespace Coordinator

/-- Nobody but the agent could take the thread up again: it is finished, the
agent opened it, and nobody else holds it. -/
def Thread.restsWith (t : Thread) (agentId : AgentId) : Prop :=
  ¬ t.status.active ∧ t.initiatorId = agentId ∧ (t.claimedBy = none ∨ t.claimedBy = some agentId)

instance (t : Thread) (agentId : AgentId) : Decidable (t.involves agentId) := inferInstanceAs (Decidable (_ ∨ _))

instance (t : Thread) (agentId : AgentId) : Decidable (t.restsWith agentId) := inferInstanceAs (Decidable (_ ∧ _))

namespace Db

/-- In whose name a call is made. Announcing a departure and sweeping are nobody's acts. -/
def actor (db : Db) : Op → Option (OrgId × AgentId)
  | .announceWork orgId params => some (orgId, params.agentId)
  | .runCommonAnnounceFlow _ params => some (params.orgId, params.agentId)
  | .postToThread orgId params => some (orgId, params.agentId)
  | .setStatus .online orgId agentId => some (orgId, agentId)
  | .setStatus .offline _ _ | .handleAgentDeparture _ _ | .checkTimeouts => none
  | .handleIntrospectionResponse orgId introspectionId _ _ =>
    (db.introspections.find? fun r => r.orgId = orgId ∧ r.id = introspectionId).map fun asked => (orgId, asked.agentId)
  | .proposeResolution orgId _ agentId _ | .approveResolution orgId _ agentId _ | .contestResolution orgId _ agentId _
  | .cancelThread orgId _ agentId _ | .closeThread orgId _ agentId _ | .handleClaimTask orgId _ agentId
  | .handleUnclaimTask orgId _ agentId | .register orgId agentId _ _ | .logFile orgId agentId _ _
  | .startWorking orgId agentId _ _ | .stopWorking orgId agentId _ => some (orgId, agentId)

/-- The call is made in somebody else's name. -/
def Idle (orgId : OrgId) (agentId : AgentId) (db : Db) (call : Env × Op) : Prop :=
  db.actor call.2 ≠ some (orgId, agentId)

/-- The clock of the sweep stands past the deadline of every thread that has one. -/
def PastDeadlines (env : Env) (db : Db) : Prop :=
  ∀ t ∈ db.threads.rows, t.status.active → 0 < t.timeoutSeconds →
    t.createdAt.seconds + t.timeoutSeconds * t.round < env.now / 1000

/-- No thread of the org that is still going names the agent. -/
def Released (orgId : OrgId) (agentId : AgentId) (db : Db) : Prop :=
  ∀ t ∈ db.threads.rows, t.orgId = orgId → t.status.active → ¬ t.involves agentId

/-- The registry does not show the agent online. -/
def Offline (orgId : OrgId) (agentId : AgentId) (db : Db) : Prop :=
  ∀ a ∈ db.agents.rows, a.orgId = orgId → a.id = agentId → a.status = .offline

/-- While the agent stays away, the threads without a deadline that name it
are those that only it could take up again. -/
structure Deferred (orgId : OrgId) (agentId : AgentId) (db : Db) : Prop where
  offline : db.Offline orgId agentId
  untimed : ∀ t ∈ db.threads.rows, t.orgId = orgId → t.timeoutSeconds = 0 → t.involves agentId → t.restsWith agentId

section Registry
variable {env : Env} {orgId o : OrgId} {agentId b : AgentId} {db : Db}

/-- A row the update named now has the status; any other was there before. -/
theorem setStatus_row {status : AgentConnectionStatus} {a : Agent}
    (member : a ∈ (db.setStatus status env o b).agents.rows) :
    (a.orgId = o ∧ a.id = b) ∧ a.status = status ∨ ¬ (a.orgId = o ∧ a.id = b) ∧ a ∈ db.agents.rows := by
  rw [Db.setStatus, Table.mem_update] at member
  obtain ⟨old, row, rfl⟩ := member
  by_cases marked : old.orgId = o ∧ old.id = b
  · rw [if_pos (decide_eq_true marked)]
    exact .inl ⟨marked, rfl⟩
  · rw [if_neg (by simpa using marked)]
    exact .inr ⟨marked, row⟩

theorem Offline.setStatus {status : AgentConnectionStatus} (gone : db.Offline orgId agentId)
    (another : status = .online → ¬ (o = orgId ∧ b = agentId)) : (db.setStatus status env o b).Offline orgId agentId := by
  intro a member atOrg atId
  rcases setStatus_row member with ⟨named, marked⟩ | ⟨-, old⟩
  · cases status with
    | online => exact absurd ⟨named.1.symm.trans atOrg, named.2.symm.trans atId⟩ (another rfl)
    | offline => exact marked
  · exact gone a old atOrg atId

theorem setOffline_offline : (db.setOffline env orgId agentId).Offline orgId agentId := by
  intro a member atOrg atId
  rcases setStatus_row member with ⟨-, marked⟩ | ⟨unnamed, -⟩
  · exact marked
  · exact absurd ⟨atOrg, atId⟩ unnamed

theorem Offline.register {name : String} {modules : List ModuleId} (gone : db.Offline orgId agentId)
    (another : ¬ (o = orgId ∧ b = agentId)) : (db.register env o b name modules).Offline orgId agentId := by
  intro a member atOrg atId
  unfold Db.register at member
  simp only at member
  split at member
  · rename_i agents inserted
    rcases (Table.mem_insert inserted).mp member with old | rfl
    · exact gone a old atOrg atId
    · exact absurd ⟨atOrg, atId⟩ another
  · rw [Table.mem_update] at member
    obtain ⟨old, row, rfl⟩ := member
    by_cases rejoined : old.orgId = o ∧ old.id = b
    · rw [if_pos (decide_eq_true rejoined)] at atOrg atId
      exact absurd ⟨rejoined.1.symm.trans atOrg, rejoined.2.symm.trans atId⟩ another
    · rw [if_neg (by simpa using rejoined)] at atOrg atId ⊢
      exact gone old row atOrg atId

/-- An agent that keeps quiet stays offline. -/
theorem Offline.step {op : Op} (gone : db.Offline orgId agentId) (idle : db.Idle orgId agentId (env, op)) :
    (db.step (env, op)).Offline orgId agentId := by
  by_cases registry : op.onRegistry
  · cases op with
    | register o b name modules =>
      refine gone.register fun same => idle ?_
      rw [actor, same.1, same.2]
    | setStatus status o b =>
      refine gone.setStatus fun online same => idle ?_
      rw [online, actor, same.1, same.2]
    | runCommonAnnounceFlow threadId params =>
      intro a member
      rw [Db.step, runCommonAnnounceFlow_agents] at member
      refine gone.setStatus (fun _ same => idle ?_) a member
      rw [actor, same.1, same.2]
    | _ => cases registry
  · intro a member
    rw [step_agents env db registry] at member
    exact gone a member

/-- An announce expects no answer of an agent that is offline. -/
theorem Offline.moduleRespondents {targetModules : List ModuleId} (gone : db.Offline orgId agentId) :
    agentId ∉ db.moduleRespondents orgId b targetModules := by
  intro expected
  simp only [Db.moduleRespondents, List.mem_map, List.mem_filter, decide_eq_true_eq] at expected
  obtain ⟨a, ⟨⟨member, online, -, atOrg⟩, -⟩, atId⟩ := expected
  rw [gone a member atOrg atId] at online
  cases online

theorem Offline.flowConcerned {params : CommonFlowParams} (gone : db.Offline params.orgId agentId)
    (another : params.agentId ≠ agentId) : agentId ∉ db.flowConcerned env params := by
  intro concerned
  simp only [Db.flowConcerned, categorize, score, List.mem_map, List.mem_filter] at concerned
  obtain ⟨s, ⟨⟨a, awake, rfl⟩, -⟩, atId⟩ := concerned
  obtain ⟨member, atOrg, online, -, -⟩ := mem_otherOnline.mp awake
  have still : (db.setStatus .online env params.orgId params.agentId).Offline params.orgId agentId :=
    gone.setStatus fun _ same => another same.2
  rw [still a member atOrg atId] at online
  cases online

end Registry

section Rows
variable {env : Env} {op : Op} {db : Db} {t t' : Thread} {agentId : AgentId}

namespace ThreadChange

theorem timeoutSeconds (change : db.ThreadChange env op t t') : t'.timeoutSeconds = t.timeoutSeconds := by
  cases change with
  | depart _ leaver =>
    rcases departed_cases env leaver db
      (if t.claimedBy = some leaver ∧ t.status = .opened then t.unclaim else t) with settled | stays
    · rw [settled]
      split <;> rfl
    · rw [stays]
      split <;> rfl
  | _ => rfl

/-- Only the agent itself makes a claim in its name. -/
theorem claims (change : db.ThreadChange env op t t') (idle : db.Idle t.orgId agentId (env, op))
    (claimed : t'.claimedBy = some agentId) : t.claimedBy = some agentId := by
  cases change with
  | claim _ claimant =>
    cases claimed
    exact absurd rfl idle
  | unclaim => cases claimed
  | poison => cases claimed
  | depart _ leaver =>
    rcases departed_cases env leaver db
      (if t.claimedBy = some leaver ∧ t.status = .opened then t.unclaim else t) with settled | stays
    · rw [settled] at claimed
      split at claimed
      · cases claimed
      · exact claimed
    · rw [stays] at claimed
      split at claimed
      · cases claimed
      · exact claimed
  | _ => exact claimed

/-- What only the agent could take up again stays so while it keeps quiet. -/
theorem rests (change : db.ThreadChange env op t t') (idle : db.Idle t.orgId agentId (env, op))
    (rests : t.restsWith agentId) : t'.restsWith agentId := by
  obtain ⟨finished, initiator, holders⟩ := rests
  cases change with
  | propose _ proposer summary entitled =>
    have own : proposer = agentId := by
      rcases entitled with opener | holder
      · exact opener.symm.trans initiator
      · rcases holders with nobody | own
        · rw [nobody] at holder
          cases holder
        · exact Option.some.inj (holder.symm.trans own)
    subst own
    exact absurd rfl idle
  | depart _ leaver active => exact absurd active finished
  | contest _ _ _ resolving => exact absurd (by rw [resolving]; rfl) finished
  | claim _ _ _ opened => exact absurd (by rw [opened]; rfl) finished
  | unclaim _ _ _ opened => exact absurd (by rw [opened]; rfl) finished
  | poison _ _ _ opened => exact absurd (by rw [opened]; rfl) finished
  | keep | override | concern => exact ⟨finished, initiator, holders⟩
  | autoResolve | approve | contestLast | cancel | close | timeout => exact ⟨Bool.false_ne_true, initiator, holders⟩

/-- Only an announce flow and an introspection answer add respondents to a thread. -/
theorem joins (change : db.ThreadChange env op t t') (noFlow : ∀ k params, op ≠ .runCommonAnnounceFlow k params)
    (noAnswer : ∀ o i concerned reason, op ≠ .handleIntrospectionResponse o i concerned reason)
    (expected : agentId ∈ t'.respondents) : agentId ∈ t.respondents := by
  cases change with
  | override => exact absurd rfl (noFlow _ _)
  | autoResolve => exact absurd rfl (noFlow _ _)
  | concern => exact absurd rfl (noAnswer _ _ _ _)
  | depart _ leaver =>
    rcases departed_cases env leaver db
      (if t.claimedBy = some leaver ∧ t.status = .opened then t.unclaim else t) with settled | stays
    · rw [settled] at expected
      split at expected <;> exact (List.mem_filter.mp expected).1
    · rw [stays] at expected
      split at expected <;> exact (List.mem_filter.mp expected).1
  | _ => exact expected

end ThreadChange

end Rows

section Deferral
variable {env : Env} {orgId : OrgId} {agentId : AgentId} {db : Db}

/-- Nobody else's call makes a thread of the org expect an agent that is offline. -/
theorem step_joins {op : Op} {k : ThreadId} {t t' : Thread} (gone : db.Offline t.orgId agentId)
    (idle : db.Idle t.orgId agentId (env, op)) (found : db.threads.find k = some t)
    (later : (db.step (env, op)).threads.find k = some t') (expected : agentId ∈ t'.respondents) :
    agentId ∈ t.respondents := by
  obtain ⟨u, row, change⟩ := step_change env op found
  rw [later] at row
  cases row
  cases op with
  | runCommonAnnounceFlow threadId params =>
    have rewrites := runCommonAnnounceFlow_rewrites env threadId params db k
    rw [show (db.runCommonAnnounceFlow env threadId params).1.threads.find k = some t' from later, found,
      Option.map_some, Option.some.injEq] at rewrites
    by_cases target : t.id = threadId ∧ t.orgId = params.orgId
    · have concerned : t'.respondents = db.flowConcerned env params := by
        rw [rewrites, if_pos target]
        beta_reduce
        split <;> rfl
      rw [concerned] at expected
      rw [target.2] at gone
      refine absurd expected (gone.flowConcerned fun same => idle ?_)
      rw [actor, same, target.2]
    · rw [rewrites, if_neg target] at expected
      exact expected
  | handleIntrospectionResponse o introspectionId concerned reason =>
    rcases handleIntrospectionResponse_find env o introspectionId concerned reason db with
      same | ⟨asked, listed, -, rewrites⟩
    · rw [Db.step, same, found] at later
      cases later
      exact expected
    · have rows := rewrites k
      rw [show (db.handleIntrospectionResponse env o introspectionId concerned reason).1.threads.find k = some t'
        from later, found, Option.map_some, Option.some.injEq] at rows
      by_cases target : t.id = asked.threadId ∧ t.orgId = o
      · rw [if_pos target] at rows
        beta_reduce at rows
        split at rows
        · rw [rows] at expected
          rcases List.mem_append.mp expected with old | joined
          · exact old
          · refine absurd ?_ idle
            rw [actor, listed, Option.map_some, target.2, List.mem_singleton.mp joined]
        · exact rows ▸ expected
      · rw [rows, if_neg target] at expected
        exact expected
  | _ =>
    refine change.joins (fun k params => ?_) (fun o i concerned reason => ?_) expected
    · rintro ⟨⟩
    · rintro ⟨⟩

theorem Deferred.step {op : Op} (deferred : db.Deferred orgId agentId) (idle : db.Idle orgId agentId (env, op)) :
    (db.step (env, op)).Deferred orgId agentId := by
  refine ⟨deferred.offline.step idle, fun t' member own untimed involved => ?_⟩
  have later := Table.find_self member
  rcases step_origin later with ⟨t, found, change⟩ | ⟨-, o, params, rfl, rfl⟩
  · have sameOrg : t.orgId = orgId := change.identity.2.1.symm.trans own
    subst sameOrg
    have before : t.involves agentId := by
      rcases involved with expected | claimed
      · exact .inl (step_joins deferred.offline idle found later expected)
      · exact .inr (change.claims idle claimed)
    exact change.rests idle (deferred.untimed t (Table.find_eq_some.mp found).1 rfl
      (change.timeoutSeconds.symm.trans untimed) before)
  · rcases involved with expected | claimed
    · have sameOrg : o = orgId := own
      subst sameOrg
      exact absurd expected deferred.offline.moduleRespondents
    · cases claimed

/-- The sweep closes what had a deadline; what had none was at rest. -/
theorem Deferred.released {later : Env} (deferred : db.Deferred orgId agentId) (late : db.PastDeadlines later) :
    (db.checkTimeouts later).Released orgId agentId := by
  intro t' member own active involved
  have found := Table.find_self member
  rw [checkTimeouts_find, Option.map_eq_some_iff] at found
  obtain ⟨t, row, swept⟩ := found
  have listed := (Table.find_eq_some.mp row).1
  split at swept
  · subst swept
    cases active
  · rename_i waiting
    subst swept
    by_cases untimed : t.timeoutSeconds = 0
    · exact (deferred.untimed t listed own untimed involved).1 active
    · have timed : 0 < t.timeoutSeconds := Nat.pos_of_ne_zero untimed
      exact waiting (decide_eq_true ⟨active, timed, late t listed active timed⟩)

/-- What a deferred departure still promises: whatever the others do while
the agent keeps quiet, a late enough sweep leaves no thread waiting for it. -/
def DeferralCompletes (env : Env) (orgId : OrgId) (activity : List AgentActivity) (agentId : AgentId) (db : Db) : Prop :=
  ∀ (calls : List (Env × Op)) (later : Env),
    GuardedRun.Meets Db.step (Idle orgId agentId) (db.serve env orgId activity (.processDeparture agentId)).db calls →
    ((db.serve env orgId activity (.processDeparture agentId)).db.after calls).PastDeadlines later →
    (((db.serve env orgId activity (.processDeparture agentId)).db.after calls).checkTimeouts later).Released orgId
      agentId

theorem processDeparture_deferred {activity : List AgentActivity} (fresh : ¬ db.isStale env orgId agentId) :
    (db.serve env orgId activity (.processDeparture agentId)).db = db.setOffline env orgId agentId := if_neg fresh

theorem exists_pastDeadlines (db : Db) : ∃ later, db.PastDeadlines later := by
  let deadlines := db.threads.rows.map fun t => t.createdAt.seconds + t.timeoutSeconds * t.round
  refine ⟨{ now := 1000 * (deadlines.sum + 1), uuid := fun _ => "", agentOnlineTtlSeconds := none }, ?_⟩
  intro t member _ _
  have bound : t.createdAt.seconds + t.timeoutSeconds * t.round ≤ deadlines.sum :=
    List.le_sum_of_mem (List.mem_map_of_mem member)
  show _ < 1000 * (deadlines.sum + 1) / 1000
  omega

theorem checkTimeouts_untimed {later : Env} {t : Thread} (member : t ∈ db.threads.rows) (untimed : t.timeoutSeconds = 0) :
    t ∈ (db.checkTimeouts later).threads.rows := by
  have kept := checkTimeouts_find later db t.id
  rw [Table.find_self member, Option.map_some, if_neg] at kept
  · exact (Table.find_eq_some.mp kept).1
  · intro late
    have timed := (of_decide_eq_true late).2.1
    omega

/-- The deferred departure is made good, whatever follows, exactly when every
thread of the org without a deadline that names the agent is one that only the
agent could take up again. -/
theorem deferralCompletes_iff {activity : List AgentActivity} (fresh : ¬ db.isStale env orgId agentId) :
    db.DeferralCompletes env orgId activity agentId ↔
      ∀ t ∈ db.threads.rows, t.orgId = orgId → t.timeoutSeconds = 0 → t.involves agentId → t.restsWith agentId := by
  rw [DeferralCompletes, processDeparture_deferred fresh]
  constructor
  · intro completes t member own untimed involved
    -- a thread that is going on now, or that somebody else has taken up again, survives the sweep
    have survives : ∀ calls, GuardedRun.Meets Db.step (Idle orgId agentId) (db.setOffline env orgId agentId) calls →
        ∀ u ∈ ((db.setOffline env orgId agentId).after calls).threads.rows, u.orgId = orgId → u.timeoutSeconds = 0 →
          u.involves agentId → ¬ u.status.active := by
      intro calls idle u listed own untimed involved active
      obtain ⟨later, late⟩ := exists_pastDeadlines ((db.setOffline env orgId agentId).after calls)
      exact completes calls later idle late u (checkTimeouts_untimed listed untimed) own active involved
    have finished := survives [] trivial t member own untimed involved
    have alone : ∀ other, t.initiatorId = other ∨ t.claimedBy = some other → other = agentId := by
      intro other entitled
      by_contra another
      have target : (db.setOffline env orgId agentId).getThread orgId t.id = some t :=
        getThread_eq_some.mpr ⟨Table.find_self member, own⟩
      have row := (proposeResolution_rewrites env orgId t.id other "" (db.setOffline env orgId agentId)).at_target target
      rw [if_pos entitled] at row
      refine survives [(env, .proposeResolution orgId t.id other "")] ⟨?_, trivial⟩ (t.propose "")
        (Table.find_eq_some.mp row).1 own untimed involved rfl
      intro same
      cases same
      exact another rfl
    refine ⟨finished, alone _ (.inl rfl), ?_⟩
    cases holder : t.claimedBy with
    | none => exact .inl rfl
    | some other => exact .inr (by rw [alone other (.inr holder)])
  · intro untimed calls later idle late
    have start : (db.setOffline env orgId agentId).Deferred orgId agentId := ⟨setOffline_offline, untimed⟩
    have reached : ((db.setOffline env orgId agentId).after calls).Deferred orgId agentId :=
      (GuardedRun.of_meets idle).invariant (fun _ _ deferred quiet => deferred.step quiet) start
    exact reached.released late

/-- Ada announces a task in Bob's module, kept open or with the default deadline. -/
def awaitingBob (keepOpen : Bool) : Db :=
  (team [("ada", []), ("bob", ["src"])]).after
    [(.drawing "t1", .announceWork "acme" { AnnounceParams.ofFiles "ada" [] keepOpen with targetModules := ["src"] })]

theorem deferralCompletes_timed : (awaitingBob false).DeferralCompletes (.drawing "m1") "acme" [] "bob" :=
  (deferralCompletes_iff (by decide)).mpr (by decide)

/-- Bob is announced offline while he is fresh; a day later Ada's kept-open task still waits for him. -/
theorem not_deferralCompletes : ¬ ∀ (env : Env) (orgId : OrgId) (activity : List AgentActivity) (agentId : AgentId)
    (db : Db), ¬ db.isStale env orgId agentId → db.DeferralCompletes env orgId activity agentId := by
  intro completes
  have released := completes (.drawing "m1") "acme" [] "bob" (awaitingBob true) (by decide) []
    { Env.drawing "m2" with now := 86400000 } trivial (by unfold PastDeadlines; decide)
  unfold Released at released
  revert released
  decide

end Deferral

end Db

end Coordinator
