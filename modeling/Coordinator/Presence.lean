import Mathlib.Data.Finset.Basic
import Coordinator.Library.EventStream
import Coordinator.OperationWrites
import Coordinator.TenantEvents
import Coordinator.ToolScopes

namespace Coordinator

/-- What `agent_online` and `agent_offline` say of an agent. -/
def EventBody.presence : EventBody → Option (AgentId × Bool)
  | .agentOnline agentId _ _ => some (agentId, true)
  | .agentOffline agentId => some (agentId, false)
  | _ => none

/-- The same for a client that takes an agent's activity for a sign of it too. -/
def EventBody.liveness : EventBody → Option (AgentId × Bool)
  | .agentActivity agentId activityStatus _ _ => some (agentId, activityStatus ≠ .offline)
  | body => body.presence

/-- A client's set of agents after one event. -/
def follow (reads : EventBody → Option (AgentId × Bool)) (present : Finset AgentId) (body : EventBody) :
    Finset AgentId :=
  match reads body with
  | some (agentId, true) => insert agentId present
  | some (agentId, false) => present.erase agentId
  | none => present

namespace Db

/-- The agents of an org with status `online`. -/
def present (db : Db) (orgId : OrgId) : Finset AgentId :=
  ((db.agents.rows.filter fun a => a.orgId = orgId ∧ a.status = .online).map Agent.id).toFinset

/-- No agent of the org that is flagged online has been silent past the TTL. -/
def WithinTtl (env : Env) (orgId : OrgId) (db : Db) : Prop :=
  ∀ a ∈ db.agents.rows, a.orgId = orgId → a.status = .online → silence env a ≤ onlineTtlSeconds env

end Db

namespace World

/-- `last_event_id` and the ids of the agents of the answer. -/
def snapshot (env : Env) (orgId : OrgId) (w : World) : Nat × Finset AgentId :=
  match w.handleAgentsOnline env orgId with
  | .agentsOnline lastEventId rows => (lastEventId, (rows.map OnlineAgent.agentId).toFinset)
  | _ => (0, ∅)

/-- The events of an org behind an id, oldest first. -/
def eventsBehind (orgId : OrgId) (lastEventId : Nat) (w : World) : List EventBody :=
  (w.events.filter fun e => e.orgId = orgId ∧ lastEventId < e.id).map EventRow.body

end World

/-- A call of the world, or a post through the tool, which makes none of the checks of the route. -/
inductive ServerCall
  | call (c : Call)
  | toolPost (env : Env) (orgId : OrgId) (params : PostParams)

/-- The agent an announce or a post beats for. -/
def Operation.author : Operation → Option AgentId
  | .announce _ _ body => some body.agentId
  | .announceTool _ body => some body.agentId
  | .postToThread params => some params.agentId
  | _ => none

/-- The operations that are about the presence of an agent. -/
def Operation.onPresence : Operation → Bool
  | .register .. | .sessionStop .. | .processDeparture .. | .heartbeat .. => true
  | _ => false

def ServerCall.author : ServerCall → Option (OrgId × AgentId)
  | .call (.operation _ orgId op) => op.author.map fun agentId => (orgId, agentId)
  | .call _ => none
  | .toolPost _ orgId params => some (orgId, params.agentId)

/-- A call of the runs the stream is meant for: in this org, and about the presence of an agent or beating for one. -/
def ServerCall.marks (orgId : OrgId) : ServerCall → Bool
  | .call (.operation _ other op) => other = orgId ∧ (op.onPresence ∨ op.author.isSome)
  | .call _ => false
  | .toolPost _ other _ => other = orgId

namespace Server

def take (s : Server) : ServerCall → Server
  | .call c => (s.call c).1
  | .toolPost env orgId params => (s.toolPost env orgId params).1

/-- Nobody announces or posts while the registry has it offline. -/
def AuthorOnline (s : Server) (c : ServerCall) : Prop :=
  ∀ orgId agentId, c.author = some (orgId, agentId) → ∀ a ∈ s.world.db.getAgent orgId agentId, a.status = .online

end Server

namespace Db
variable {db after : Db} {orgId other : OrgId} {agentId : AgentId}

theorem mem_present : agentId ∈ db.present orgId ↔ (db.getAgent orgId agentId).any (·.status = .online) := by
  simp only [present, List.mem_toFinset, List.mem_map, List.mem_filter, decide_eq_true_eq, Option.any_eq_true, getAgent,
    Table.find_eq_some, Agent.key, Prod.mk.injEq]
  constructor
  · rintro ⟨a, ⟨member, org, online⟩, id⟩
    exact ⟨a, ⟨member, org, id⟩, online⟩
  · rintro ⟨a, ⟨member, org, id⟩, online⟩
    exact ⟨a, ⟨member, org, online⟩, id⟩

theorem present_congr (same : after.agents = db.agents) : after.present orgId = db.present orgId := by
  rw [present, present, same]

theorem getAgent_setStatus (status : AgentConnectionStatus) (env : Env) (other : OrgId) (who : AgentId) :
    (db.setStatus status env other who).getAgent orgId agentId =
      (db.getAgent orgId agentId).map fun a =>
        if orgId = other ∧ agentId = who then a.mark status env.currentTimestamp else a := by
  rw [getAgent, setStatus, Table.find_update, ← getAgent]
  cases found : db.getAgent orgId agentId with
  | none => rfl
  | some a =>
    obtain ⟨org, id⟩ : a.orgId = orgId ∧ a.id = agentId := Prod.mk.inj (Table.find_eq_some.mp found).2
    simp only [Option.map_some, org, id, decide_eq_true_eq]

/-- A beat is seen in its own org alone, and there only if the agent is registered. -/
theorem present_heartbeat (env : Env) (other : OrgId) (who : AgentId) : (db.heartbeat env other who).present orgId =
    if orgId = other ∧ db.registered other who then insert who (db.present orgId) else db.present orgId := by
  ext id
  by_cases target : orgId = other ∧ id = who
  · obtain ⟨rfl, rfl⟩ := target
    rw [mem_present, heartbeat, getAgent_setStatus]
    cases found : db.getAgent orgId id <;> simp [registered, found, mem_present, Agent.mark]
  · rw [mem_present, heartbeat, getAgent_setStatus]
    simp only [target, if_false, Option.map_id']
    split
    · rename_i own
      rw [Finset.mem_insert, mem_present, or_iff_right fun same => target ⟨own.1, same⟩]
    · exact mem_present.symm

theorem present_setOffline (env : Env) (other : OrgId) (who : AgentId) : (db.setOffline env other who).present orgId =
    if orgId = other then (db.present orgId).erase who else db.present orgId := by
  ext id
  by_cases target : orgId = other ∧ id = who
  · obtain ⟨rfl, rfl⟩ := target
    rw [mem_present, setOffline, getAgent_setStatus]
    cases db.getAgent orgId id <;> simp [Agent.mark]
  · rw [mem_present, setOffline, getAgent_setStatus]
    simp only [target, if_false, Option.map_id']
    split
    · rename_i own
      rw [Finset.mem_erase, mem_present, and_iff_right fun same => target ⟨own, same⟩]
    · exact mem_present.symm

theorem getAgent_register (env : Env) (other : OrgId) (who : AgentId) (name : String) (modules : List ModuleId) :
    ((db.register env other who name modules).getAgent orgId agentId).any (·.status = .online) =
      if orgId = other ∧ agentId = who then true else (db.getAgent orgId agentId).any (·.status = .online) := by
  unfold register
  simp only
  split
  · rename_i agents inserted
    rw [getAgent, Table.find_insert inserted]
    by_cases target : orgId = other ∧ agentId = who
    · simp [Agent.key, target]
    · rw [if_neg target, if_neg (by simpa [Agent.key, eq_comm] using target)]
      rfl
  · rename_i taken
    rw [getAgent, Table.find_update, ← getAgent]
    cases found : db.getAgent orgId agentId with
    | none =>
      have free : ¬ (orgId = other ∧ agentId = who) := by
        rintro ⟨rfl, rfl⟩
        have room : (db.agents.insert (newAgent env orgId agentId name modules)).isSome := Table.insert_isSome.mpr found
        rw [newAgent, taken] at room
        cases room
      simp [free]
    | some a =>
      obtain ⟨org, id⟩ : a.orgId = orgId ∧ a.id = agentId := Prod.mk.inj (Table.find_eq_some.mp found).2
      by_cases target : orgId = other ∧ agentId = who
      · simp [org, id, target, Agent.rejoin]
      · simp [org, id, target]

theorem present_register (env : Env) (other : OrgId) (who : AgentId) (name : String) (modules : List ModuleId) :
    (db.register env other who name modules).present orgId =
      if orgId = other then insert who (db.present orgId) else db.present orgId := by
  ext id
  rw [mem_present, getAgent_register]
  by_cases own : orgId = other
  · rw [if_pos own, Finset.mem_insert, mem_present]
    by_cases same : id = who <;> simp [own, same]
  · simp [own, mem_present]

/-- A beat of an agent that is online, or unknown, changes nothing. -/
theorem present_heartbeat_quiet {env : Env} {who : AgentId}
    (online : ∀ a ∈ db.getAgent other who, a.status = .online) :
    (db.heartbeat env other who).present orgId = db.present orgId := by
  rw [present_heartbeat]
  split
  · rename_i own
    obtain ⟨rfl, known⟩ := own
    obtain ⟨a, found⟩ := Option.isSome_iff_exists.mp known
    exact Finset.insert_eq_self.mpr (mem_present.mpr (by simp [found, online a found]))
  · rfl

theorem heartbeat_congr (same : after.agents = db.agents) (env : Env) (who : AgentId) :
    (after.heartbeat env other who).agents = (db.heartbeat env other who).agents := by
  simp only [heartbeat, setStatus, same]

theorem setMap_agents (map : List ParsedModule) (db : Db) : (db.setMap other map).agents = db.agents := by
  induction map generalizing db with
  | nil => rfl
  | cons info rest ih => exact ih (setModule other db info)

/-- The other operations write to the registry at most the beat of their author. -/
theorem serve_agents (env : Env) (activity : List AgentActivity) {op : Operation} (silent : ¬ op.onPresence) :
    (db.serve env other activity op).db.agents = db.agents ∨ ∃ beatEnv who, op.author = some who ∧
      (db.serve env other activity op).db.agents = (db.heartbeat beatEnv other who).agents := by
  cases op with
  | register | sessionStop | processDeparture | heartbeat => exact absurd rfl silent
  | announce flowEnv sentFiles body =>
    have announced := announceWork_agents env other db body.announceParams
    simp only [serve, serveAnnounce]
    split
    · rename_i failed e ran
      rw [ran] at announced
      exact .inl announced
    · rename_i inserted thread ran
      rw [ran] at announced
      have flow := runCommonAnnounceFlow_agents flowEnv thread.id inserted (body.flowParams other)
      refine .inr ⟨flowEnv, body.agentId, rfl, ?_⟩
      rw [heartbeat_congr announced] at flow
      split <;> rename_i ended <;> rw [ended] at flow <;> exact flow
  | announceTool flowEnv body =>
    have announced := announceWork_agents env other db body.announceParams
    simp only [serve, serveAnnounceTool]
    split
    · rename_i failed e ran
      rw [ran] at announced
      exact .inl announced
    · rename_i inserted thread ran
      rw [ran] at announced
      generalize db.detect env _ = conflicts
      have flow := runCommonAnnounceFlow_agents flowEnv thread.id (inserted.setConflicts thread.id conflicts)
        (body.flowParams other)
      refine .inr ⟨flowEnv, body.agentId, rfl, ?_⟩
      rw [heartbeat_congr ((setConflicts_agents ..).trans announced)] at flow
      split <;> rename_i ended <;> rw [ended] at flow <;> exact flow
  | postToThread params =>
    have posted := postToThread_agents env other (db.heartbeat env other params.agentId) params
    simp only [serve, servePost]
    split
    · exact .inl rfl
    · split
      · exact .inl rfl
      · refine .inr ⟨env, params.agentId, rfl, ?_⟩
        split <;> rename_i ended <;> rw [ended] at posted <;> exact posted
  | proposeResolution threadId agentId summary => simp [serve, concluded_db]
  | approveResolution threadId agentId => simp [serve, concluded_db]
  | contestResolution threadId agentId reason => simp [serve, concluded_db]
  | closeThread threadId agentId summary => simp [serve, concluded_db]
  | cancelThread threadId agentId reason => simp [serve, concluded_db]
  | claimTask threadId agentId => exact .inl (handleClaimTask_agents ..)
  | unclaimTask threadId agentId => exact .inl (handleUnclaimTask_agents ..)
  | introspectionResponse introspectionId concerned reason => exact .inl (handleIntrospectionResponse_agents ..)
  | setMap map =>
    exact .inl (setMap_agents map db)
  | logFile agentId agentName toolName filePath =>
    simp only [serve]
    split <;> exact .inl rfl
  | fileActivity agentId filePath symbols => exact .inl rfl
  | startWorking agentId filePath ttlMinutes => exact .inl rfl
  | stopWorking agentId filePath => exact .inl rfl

theorem concluded_events {env : Env} {result : Outcome Unit} {reply : Db → Answer} {events : List EventBody}
    {body : EventBody} (sent : body ∈ (concluded env result reply events).events) : body ∈ events := by
  unfold concluded at sent
  split at sent
  · cases sent
  · exact sent

theorem flowEvents_unread {threadId : ThreadId} {result : CommonFlowResult} :
    ∀ body ∈ db.flowEvents other threadId agentId result, body.liveness = none := by
  intro body sent
  simp only [flowEvents, List.mem_append, List.mem_map] at sent
  rcases sent with (⟨s, -, rfl⟩ | ⟨s, -, rfl⟩) | downgraded
  · rfl
  · rfl
  · split at downgraded
    · obtain rfl := List.mem_singleton.mp downgraded
      rfl
    · cases downgraded

theorem announced_unread {threadId : ThreadId} {result : CommonFlowResult} {opened : EventBody}
    (unread : opened.liveness = none) :
    ∀ body ∈ db.flowEvents other threadId agentId result ++ [opened], body.liveness = none := by
  intro body sent
  rcases List.mem_append.mp sent with flow | last
  · exact flowEvents_unread body flow
  · rw [List.mem_singleton.mp last, unread]

/-- Their events say nothing of anybody's presence. -/
theorem serve_unread (env : Env) (activity : List AgentActivity) {op : Operation} (silent : ¬ op.onPresence) :
    ∀ body ∈ (db.serve env other activity op).events, body.liveness = none := by
  intro body sent
  cases op with
  | register | sessionStop | processDeparture | heartbeat => exact absurd rfl silent
  | announce flowEnv sentFiles request =>
    simp only [serve, serveAnnounce] at sent
    split at sent
    · cases sent
    · split at sent
      · cases sent
      · exact announced_unread rfl body sent
  | announceTool flowEnv request =>
    simp only [serve, serveAnnounceTool] at sent
    split at sent
    · cases sent
    · split at sent
      · cases sent
      · exact announced_unread rfl body sent
  | postToThread params =>
    simp only [serve, servePost] at sent
    split at sent
    · cases sent
    · split at sent
      · cases sent
      · split at sent
        · cases sent
        · obtain rfl := List.mem_singleton.mp sent
          rfl
  | proposeResolution threadId agentId summary =>
    obtain rfl := List.mem_singleton.mp (concluded_events sent)
    rfl
  | approveResolution threadId agentId => cases concluded_events sent
  | contestResolution threadId agentId reason => cases concluded_events sent
  | closeThread threadId agentId summary => cases concluded_events sent
  | cancelThread threadId agentId reason =>
    obtain rfl := List.mem_singleton.mp (concluded_events sent)
    rfl
  | claimTask threadId agentId =>
    simp only [serve] at sent
    split at sent
    · obtain rfl := List.mem_singleton.mp sent
      rfl
    · cases sent
  | unclaimTask threadId agentId => cases sent
  | introspectionResponse introspectionId concerned reason =>
    obtain rfl := List.mem_singleton.mp sent
    rfl
  | logFile agentId agentName toolName filePath =>
    simp only [serve] at sent
    split at sent
    · obtain rfl := List.mem_singleton.mp sent
      rfl
    · cases sent
  | setMap map => cases sent
  | fileActivity agentId filePath symbols => cases sent
  | startWorking agentId filePath ttlMinutes => cases sent
  | stopWorking agentId filePath => cases sent

/-- A heartbeat of a registered agent is answered with the activity it reports. -/
theorem getActivity_beaten {env : Env} (currentFile : Option FilePath) (currentThread : Option ThreadId)
    (known : db.registered other agentId) (activity : List AgentActivity) :
    (db.heartbeat env other agentId).getActivity env other agentId none
        ((AgentActivity.beat env other agentId currentFile currentThread).put activity) =
      AgentActivity.beat env other agentId currentFile currentThread := by
  obtain ⟨a, found⟩ := Option.isSome_iff_exists.mp known
  have beaten : (db.heartbeat env other agentId).getAgent other agentId = some (a.mark .online env.currentTimestamp) := by
    rw [heartbeat, getAgent_setStatus, found]
    simp
  have stored : ((AgentActivity.beat env other agentId currentFile currentThread).put activity).find?
      (AgentActivity.isOf other agentId) = some (AgentActivity.beat env other agentId currentFile currentThread) :=
    find?_upsert (by simp [AgentActivity.isOf, AgentActivity.beat]) activity
  unfold getActivity
  simp [beaten, stored, Agent.mark]

theorem foldl_unread {reads : EventBody → Option (AgentId × Bool)} {events : List EventBody}
    (unread : ∀ body ∈ events, reads body = none) (seen : Finset AgentId) : events.foldl (follow reads) seen = seen := by
  induction events with
  | nil => rfl
  | cons body rest ih =>
    rw [List.foldl_cons, follow, unread body List.mem_cons_self]
    exact ih fun body member => unread body (List.mem_cons_of_mem _ member)

theorem beat_working {env : Env} {currentFile : Option FilePath} {currentThread : Option ThreadId} :
    (AgentActivity.beat env other agentId currentFile currentThread).activityStatus ≠ .offline := by
  simp only [AgentActivity.beat]
  split
  · decide
  · split <;> decide

/-- A heartbeat without an event comes from an agent that is online. -/
theorem serveHeartbeat_follows {env : Env} {activity : List AgentActivity} {currentFile : Option FilePath}
    {currentThread : Option ThreadId} :
    (db.serveHeartbeat env other agentId currentFile currentThread activity).events.foldl (follow EventBody.liveness)
        (db.present other) =
      (db.serveHeartbeat env other agentId currentFile currentThread activity).db.present other := by
  unfold serveHeartbeat
  simp only
  split
  · rename_i known
    obtain ⟨a, found⟩ := Option.isSome_iff_exists.mp known
    have beaten : (db.heartbeat env other agentId).present other = insert agentId (db.present other) := by
      rw [present_heartbeat, if_pos ⟨rfl, known⟩]
    rw [beaten]
    split
    · rw [getActivity_beaten _ _ known, List.foldl_cons, List.foldl_nil, follow, EventBody.liveness,
        decide_eq_true beat_working]
    · rename_i quiet
      rw [List.foldl_nil, Finset.insert_eq_self.mpr]
      rw [mem_present, found]
      cases status : a.status with
      | online => simp [status]
      | offline => exact absurd (.inr (by simp [found, status])) quiet
  · rename_i unknown
    rw [present_heartbeat, if_neg fun own => unknown own.2]
    rfl

/-- An operation in the org leaves what its events say, if its author is online. -/
theorem serve_follows {env : Env} {activity : List AgentActivity} {op : Operation}
    (online : ∀ who, op.author = some who → ∀ a ∈ db.getAgent other who, a.status = .online) :
    (db.serve env other activity op).events.foldl (follow EventBody.liveness) (db.present other) =
      (db.serve env other activity op).db.present other := by
  by_cases silent : op.onPresence
  · cases op with
    | register agentId name modules =>
      rw [serve, present_register, if_pos rfl]
      rfl
    | sessionStop agentId =>
      rw [serve, present_congr (handleAgentDeparture_agents ..), present_setOffline, if_pos rfl]
      rfl
    | processDeparture agentId =>
      have same : (db.serve env other activity (.processDeparture agentId)).db.agents =
          (db.setOffline env other agentId).agents := by
        simp only [serve]
        split
        · exact handleAgentDeparture_agents ..
        · rfl
      rw [present_congr same, present_setOffline, if_pos rfl]
      rfl
    | heartbeat agentId currentFile currentThread => exact serveHeartbeat_follows
    | _ => cases silent
  · rw [foldl_unread (serve_unread env activity silent)]
    rcases serve_agents env activity silent with same | ⟨beatEnv, who, author, same⟩
    · exact (present_congr same).symm
    · rw [present_congr same, present_heartbeat_quiet (online who author)]

/-- Nothing is done to the agents of another org. -/
theorem serve_foreign {env : Env} {activity : List AgentActivity} {op : Operation} (foreign : orgId ≠ other) :
    (db.serve env other activity op).db.present orgId = db.present orgId := by
  by_cases silent : op.onPresence
  · cases op with
    | register agentId name modules => rw [serve, present_register, if_neg foreign]
    | sessionStop agentId => rw [serve, present_congr (handleAgentDeparture_agents ..), present_setOffline, if_neg foreign]
    | processDeparture agentId =>
      simp only [serve]
      split
      · exact (present_congr (handleAgentDeparture_agents ..)).trans ((present_setOffline ..).trans (if_neg foreign))
      · exact (present_setOffline ..).trans (if_neg foreign)
    | heartbeat agentId currentFile currentThread =>
      have beaten : (db.heartbeat env other agentId).present orgId = db.present orgId := by
        rw [present_heartbeat, if_neg fun own => foreign own.1]
      simp only [serve, serveHeartbeat]
      split <;> exact beaten
    | _ => cases silent
  · rcases serve_agents env activity silent with same | ⟨beatEnv, who, -, same⟩
    · exact present_congr same
    · rw [present_congr same, present_heartbeat, if_neg fun own => foreign own.1]

end Db

namespace World
variable {w : World} {orgId : OrgId} {reads : EventBody → Option (AgentId × Bool)}

/-- Ids grow along the table from 1 on. -/
structure Numbered (w : World) : Prop where
  sorted : w.events.Pairwise fun d e => d.id < e.id
  within : ∀ e ∈ w.events, 0 < e.id ∧ e.id ≤ w.eventSeq

theorem Numbered.emit (numbered : w.Numbered) (stamp : Stamp) (event : OrgId × EventBody) :
    (w.emit stamp event).Numbered where
  sorted := by
    refine List.pairwise_append.mpr ⟨numbered.sorted, List.pairwise_singleton _ _, ?_⟩
    intro d old e new
    obtain rfl := List.mem_singleton.mp new
    exact Nat.lt_succ_of_le (numbered.within d old).2
  within e listed := by
    rcases List.mem_append.mp listed with old | new
    · exact ⟨(numbered.within e old).1, Nat.le_succ_of_le (numbered.within e old).2⟩
    · obtain rfl := List.mem_singleton.mp new
      exact ⟨Nat.succ_pos _, Nat.le_refl _⟩

theorem Numbered.publish (numbered : w.Numbered) (stamp : Stamp) (db : Db) (own : List (OrgId × EventBody)) :
    (w.publish stamp db own).Numbered := by
  have emitted : ∀ (events : List (OrgId × EventBody)) (w : World), w.Numbered →
      (events.foldl (World.emit stamp) w).Numbered := by
    intro events
    induction events with
    | nil => exact fun _ numbered => numbered
    | cons event rest ih => exact fun w numbered => ih _ (numbered.emit stamp event)
  exact emitted _ _ ⟨numbered.sorted, numbered.within⟩

/-- What a client that reads events this way is carried to. -/
def Streams (reads : EventBody → Option (AgentId × Bool)) (orgId : OrgId) : World → World → Prop :=
  EventStream.Carries (fun w => ownedBy EventRow.orgId orgId w.events) (fun w => w.db.present orgId)
    fun seen e => follow reads seen e.body

theorem stampedEvents_bodies (stamp : Stamp) (seq : Nat) (events : List (OrgId × EventBody)) :
    (ownedBy EventRow.orgId orgId (stampedEvents stamp seq events)).map EventRow.body =
      (ownedBy Prod.fst orgId events).map Prod.snd := by
  have stamped : (ownedBy EventRow.orgId orgId (stampedEvents stamp seq events)).map EventRow.content = _ :=
    stampedEvents_content seq events
  have contents := congrArg (List.map Prod.fst) stamped
  rwa [List.map_map, List.map_map] at contents

/-- Resolutions are passed over, so the events of the call decide. -/
theorem Streams.publish (resolution : ∀ event, reads (.threadResolved event) = none) (stamp : Stamp) {db : Db}
    {own : List (OrgId × EventBody)}
    (seen : ((ownedBy Prod.fst orgId own).map Prod.snd).foldl (follow reads) (w.db.present orgId) = db.present orgId) :
    Streams reads orgId w (w.publish stamp db own) := by
  refine ⟨ownedBy EventRow.orgId orgId (stampedEvents stamp w.eventSeq (sent db own)), ?_, ?_⟩
  · simp only [publish_events, ownedBy_append]
  · have unread : ∀ body ∈ (ownedBy Prod.fst orgId
        (db.resolutions.map fun event => (event.orgId, EventBody.threadResolved event))).map Prod.snd, reads body = none := by
      intro body listed
      obtain ⟨event, member, rfl⟩ := List.mem_map.mp listed
      obtain ⟨resolved, -, rfl⟩ := List.mem_map.mp (mem_ownedBy.mp member).1
      exact resolution resolved
    have passed : ((ownedBy Prod.fst orgId (sent db own)).map Prod.snd).foldl (follow reads) (w.db.present orgId) =
        db.present orgId := by
      rw [sent, ownedBy_append, List.map_append, List.foldl_append, Db.foldl_unread unread, seen]
    rw [← stampedEvents_bodies stamp w.eventSeq, List.foldl_map] at passed
    simp only [publish_db]
    exact passed

/-- `last_event_id` and the agents of the answer are those of the log and the registry. -/
theorem snapshot_eq {env : Env} (fresh : w.db.WithinTtl env orgId) : w.snapshot env orgId =
    (((ownedBy EventRow.orgId orgId w.events).map (·.id)).foldl max 0, w.db.present orgId) := by
  refine Prod.ext rfl ?_
  ext id
  simp only [snapshot, handleAgentsOnline, Db.present, List.mem_toFinset, List.mem_map, List.mem_filter,
    decide_eq_true_eq, exists_exists_and_eq_and, Db.mem_listOnline]
  constructor
  · rintro ⟨a, ⟨member, org, online, -⟩, named⟩
    exact ⟨a, ⟨member, org, online⟩, named⟩
  · rintro ⟨a, ⟨member, org, online⟩, named⟩
    exact ⟨a, ⟨member, org, online, fresh a member org online⟩, named⟩

/-- The reader who starts from a snapshot and goes by the ids has the agents of the later state. -/
theorem Streams.caught_up {t : World} {env : Env} (streams : Streams reads orgId w t) (numbered : t.Numbered)
    (fresh : w.db.WithinTtl env orgId) :
    (t.eventsBehind orgId (w.snapshot env orgId).1).foldl (follow reads) (w.snapshot env orgId).2 =
      t.db.present orgId := by
  have sorted : (ownedBy EventRow.orgId orgId t.events).Pairwise fun d e => d.id < e.id :=
    numbered.sorted.sublist List.filter_sublist
  have behind := EventStream.Carries.behind streams sorted fun e listed => (numbered.within e (mem_ownedBy.mp listed).1).1
  rw [snapshot_eq fresh, eventsBehind, filter_scoped, List.foldl_map]
  exact behind

end World

namespace Server
variable {s : Server} {orgId : OrgId}

theorem take_numbered {c : ServerCall} (numbered : s.world.Numbered) : (s.take c).world.Numbered := by
  cases c with
  | call c =>
    cases c with
    | operation env other op =>
      have published := numbered.publish (s.world.db.serve env other s.world.activity op).stamp
        (s.world.db.serve env other s.world.activity op).db
        ((s.world.db.serve env other s.world.activity op).events.map fun body => (other, body))
      exact ⟨published.sorted, published.within⟩
    | query env other q => exact numbered
    | checkTimeouts env => exact numbered.publish ..
  | toolPost env other params =>
    simp only [take, toolPost]
    split <;> exact numbered.publish ..

theorem addressed_bodies (other : OrgId) (events : List EventBody) :
    (ownedBy Prod.fst orgId (events.map fun body => (other, body))).map Prod.snd = if orgId = other then events else [] := by
  split
  · rename_i own
    rw [ownedBy, List.filter_eq_self.mpr, List.map_map]
    · exact List.map_id _
    · intro event listed
      obtain ⟨body, -, rfl⟩ := List.mem_map.mp listed
      exact decide_eq_true own.symm
  · rename_i foreign
    rw [ownedBy, List.filter_eq_nil_iff.mpr]
    · rfl
    · intro event listed
      obtain ⟨body, -, rfl⟩ := List.mem_map.mp listed
      simpa using Ne.symm foreign

theorem take_streams {c : ServerCall} (online : s.AuthorOnline c) :
    World.Streams EventBody.liveness orgId s.world (s.take c).world := by
  cases c with
  | call c =>
    cases c with
    | operation env other op =>
      refine World.Streams.publish (fun _ => rfl) _ ?_
      rw [addressed_bodies]
      split
      · rename_i own
        subst own
        refine Db.serve_follows fun who author => ?_
        exact online orgId who (by rw [ServerCall.author, author]; rfl)
      · rename_i foreign
        exact (Db.serve_foreign foreign).symm
    | query env other q => exact .refl _
    | checkTimeouts env =>
      exact World.Streams.publish (fun _ => rfl) _ (Db.present_congr (Db.checkTimeouts_agents ..)).symm
  | toolPost env other params =>
    have posted : ((s.world.db.heartbeat env other params.agentId).postToThread env other params).1.present orgId =
        s.world.db.present orgId := by
      rw [Db.present_congr (Db.postToThread_agents ..), Db.present_heartbeat_quiet (online other params.agentId rfl)]
    simp only [take, toolPost]
    split
    · exact World.Streams.publish (fun _ => rfl) _ posted.symm
    · refine World.Streams.publish (fun _ => rfl) _ ?_
      rw [posted]
      refine Db.foldl_unread ?_ _
      intro body listed
      obtain ⟨event, own, rfl⟩ := List.mem_map.mp listed
      obtain rfl := List.mem_singleton.mp (mem_ownedBy.mp own).1
      rfl

/-- As long as nobody announces or posts while offline, a client that reads the
list of online agents and then follows the events of its org behind
`last_event_id`, activity included, has the agents with status `online` at every
later instant. -/
theorem snapshot_streams {before after done : List ServerCall} {env : Env}
    (fresh : (before.foldl take .unused).world.db.WithinTtl env orgId)
    (online : GuardedRun.Meets take AuthorOnline (before.foldl take .unused) after) (start : done <+: after) :
    ((done.foldl take (before.foldl take .unused)).world.eventsBehind orgId
        ((before.foldl take .unused).world.snapshot env orgId).1).foldl (follow EventBody.liveness)
      ((before.foldl take .unused).world.snapshot env orgId).2 =
      (done.foldl take (before.foldl take .unused)).world.db.present orgId := by
  have numbered : ∀ (calls : List ServerCall) (s : Server), s.world.Numbered → (calls.foldl take s).world.Numbered := by
    intro calls
    induction calls with
    | nil => exact fun _ numbered => numbered
    | cons c rest ih => exact fun s numbered => ih _ (take_numbered numbered)
  have opened : (before.foldl take .unused).world.Numbered := numbered before _ ⟨.nil, fun e listed => by cases listed⟩
  have streams : EventStream.Carries (fun s : Server => ownedBy EventRow.orgId orgId s.world.events)
      (fun s => s.world.db.present orgId) (fun seen e => follow EventBody.liveness seen e.body)
      (before.foldl take .unused) (done.foldl take (before.foldl take .unused)) :=
    EventStream.Carries.run (P := fun _ => True) (fun _ _ _ _ => trivial) (fun _ _ _ ok => take_streams ok) trivial
      (GuardedRun.of_meets (online.initial start))
  exact World.Streams.caught_up streams (numbered done _ opened) fresh

/-- One second passes between two calls of the example. -/
def callAt (seconds : Nat) (op : Operation) : ServerCall :=
  .call (.operation { now := seconds * 1000, uuid := fun _ => "t1", agentOnlineTtlSeconds := none } "acme" op)

def readAt (seconds : Nat) : Env := { now := seconds * 1000, uuid := fun _ => "t1", agentOnlineTtlSeconds := none }

/-- Ada stops and comes back by a heartbeat; the client sees her go and return. -/
theorem snapshot_streams_return :
    let s := [callAt 1 (.register "ada" "Ada" [])].foldl take .unused
    let t := [callAt 3 (.sessionStop "ada"), callAt 4 (.heartbeat "ada" none none)].foldl take s
    (t.world.eventsBehind "acme" (s.world.snapshot (readAt 2) "acme").1).foldl (follow EventBody.liveness)
      (s.world.snapshot (readAt 2) "acme").2 = t.world.db.present "acme" ∧ "ada" ∈ t.world.db.present "acme" := by
  have online : GuardedRun.Meets take AuthorOnline ([callAt 1 (.register "ada" "Ada" [])].foldl take .unused)
      [callAt 3 (.sessionStop "ada"), callAt 4 (.heartbeat "ada" none none)] :=
    ⟨fun _ _ author => (by cases author), fun _ _ author => (by cases author), trivial⟩
  exact ⟨snapshot_streams (by unfold Db.WithinTtl; decide) online (List.prefix_refl _), by decide⟩

/-- The same for a client that follows `agent_online` and `agent_offline` alone. -/
def SnapshotStreams : Prop :=
  ∀ (before after : List ServerCall) (env : Env) (orgId : OrgId), (∀ c ∈ before ++ after, c.marks orgId) →
    (before.foldl take .unused).world.db.WithinTtl env orgId → ∀ done, done <+: after →
      ((done.foldl take (before.foldl take .unused)).world.eventsBehind orgId
          ((before.foldl take .unused).world.snapshot env orgId).1).foldl (follow EventBody.presence)
        ((before.foldl take .unused).world.snapshot env orgId).2 =
        (done.foldl take (before.foldl take .unused)).world.db.present orgId

/-- A heartbeat brings an agent back online without an `agent_online`. -/
theorem not_snapshotStreams : ¬ SnapshotStreams := by
  intro streams
  have seen := streams [callAt 1 (.register "ada" "Ada" []), callAt 2 (.sessionStop "ada")]
    [callAt 4 (.heartbeat "ada" none none)] (readAt 3) "acme" (by decide) (by unfold Db.WithinTtl; decide) _
    (List.prefix_refl _)
  revert seen
  decide

end Server

end Coordinator
