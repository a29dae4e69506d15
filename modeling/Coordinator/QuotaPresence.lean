import Mathlib.Data.Finset.Card
import Coordinator.Presence

namespace Coordinator

/-- What drives the background refresh of `QuotaCache`. -/
structure QuotaCache where
  activeAgents : Nat
  /-- The interval is set. -/
  backgroundTimer : Bool
  deriving DecidableEq, Repr

namespace QuotaCache

def fresh : QuotaCache := ⟨0, false⟩

def startBackgroundTick (c : QuotaCache) : QuotaCache := { c with backgroundTimer := true }

def stopBackgroundTick (c : QuotaCache) : QuotaCache := { c with backgroundTimer := false }

def onAgentActive (c : QuotaCache) : QuotaCache :=
  let counted := { c with activeAgents := c.activeAgents + 1 }
  if ¬ counted.backgroundTimer then counted.startBackgroundTick else counted

def onAgentInactive (c : QuotaCache) : QuotaCache :=
  let counted := if 0 < c.activeAgents then { c with activeAgents := c.activeAgents - 1 } else c
  if counted.activeAgents = 0 then counted.stopBackgroundTick else counted

/-- The listener `server-setup` registers for the org `default`. -/
def onEvent (c : QuotaCache) : EventBody → QuotaCache
  | .agentOnline .. => c.onAgentActive
  | .agentOffline _ => c.onAgentInactive
  | _ => c

/-- The cache has counted these agents, and ticks for them. -/
structure Counts (c : QuotaCache) (present : Finset AgentId) : Prop where
  counted : c.activeAgents = present.card
  running : c.backgroundTimer = true ↔ 0 < c.activeAgents

end QuotaCache

/-- The events of the org `default` that change who is online. The offline
announcement is what the bridge makes of a message on the status topic. -/
inductive PresenceChange
  | registration (env : Env) (agentId : AgentId) (name : String) (modules : List ModuleId)
  | sessionStop (env : Env) (agentId : AgentId)
  | offlineAnnounced (env : Env) (agentId : AgentId)

namespace PresenceChange

def env : PresenceChange → Env
  | registration env .. | sessionStop env _ | offlineAnnounced env _ => env

def operation : PresenceChange → Operation
  | registration _ agentId name modules => .register agentId name modules
  | sessionStop _ agentId => .sessionStop agentId
  | offlineAnnounced _ agentId => .processDeparture agentId

/-- The change with the agents online before it: an agent that registers is not
among them, and one that leaves is, unless there are none. -/
def Alternates (present : Finset AgentId) : PresenceChange → Prop
  | registration _ agentId _ _ => agentId ∉ present
  | sessionStop _ agentId | offlineAnnounced _ agentId => agentId ∈ present ∨ present = ∅

instance (present : Finset AgentId) : (e : PresenceChange) → Decidable (e.Alternates present)
  | registration _ agentId _ _ => inferInstanceAs (Decidable (agentId ∉ present))
  | sessionStop _ agentId | offlineAnnounced _ agentId => inferInstanceAs (Decidable (agentId ∈ present ∨ present = ∅))

end PresenceChange

/-- The coordinator with the cache that listens to the events of `default`. -/
structure QuotaServer where
  world : World
  quotaCache : QuotaCache

namespace QuotaServer

/-- A coordinator that has just started on empty tables. -/
def unused : QuotaServer := ⟨.unused, .fresh⟩

/-- The listener gets what the call appended to the log, in that order. -/
def take (s : QuotaServer) (e : PresenceChange) : QuotaServer :=
  let world := s.world.step (.operation e.env "default" e.operation)
  let emitted := world.events.drop s.world.events.length
  ⟨world, (ownedBy EventRow.orgId "default" emitted).foldl (fun c e => c.onEvent e.body) s.quotaCache⟩

def present (s : QuotaServer) : Finset AgentId := s.world.db.present "default"

def Alternates (s : QuotaServer) (e : PresenceChange) : Prop := e.Alternates s.present

def Counts (s : QuotaServer) : Prop := s.quotaCache.Counts s.present

/-- The timer runs just when a registered agent is `online`. -/
def Tracks (s : QuotaServer) : Prop :=
  s.quotaCache.backgroundTimer = true ↔ ∃ a ∈ s.world.db.agents.rows, a.orgId = "default" ∧ a.status = .online

end QuotaServer

namespace QuotaCache
variable {c : QuotaCache} {present : Finset AgentId} {agentId : AgentId}

theorem onAgentActive_counts (counts : c.Counts present) :
    c.onAgentActive.Counts (insert agentId present) ↔ agentId ∉ present := by
  have active : c.onAgentActive.activeAgents = present.card + 1 := by
    rw [← counts.counted, onAgentActive]
    split <;> rfl
  have runs : c.onAgentActive.backgroundTimer = true := by
    simp only [onAgentActive]
    split
    · rfl
    · rename_i running
      exact not_not.mp running
  constructor
  · intro after member
    have grown := after.counted
    rw [active, Finset.insert_eq_self.mpr member] at grown
    omega
  · intro absent
    refine ⟨?_, ?_⟩
    · rw [active, Finset.card_insert_of_notMem absent]
    · rw [runs, active]
      simp

theorem onAgentInactive_counts (counts : c.Counts present) :
    c.onAgentInactive.Counts (present.erase agentId) ↔ agentId ∈ present ∨ present = ∅ := by
  have inactive : c.onAgentInactive.activeAgents = present.card - 1 := by
    rw [← counts.counted, onAgentInactive]
    grind [stopBackgroundTick]
  have runs : c.onAgentInactive.backgroundTimer = true ↔ 0 < c.onAgentInactive.activeAgents := by
    have running := counts.running
    unfold onAgentInactive
    grind [stopBackgroundTick]
  constructor
  · intro after
    by_cases member : agentId ∈ present
    · exact .inl member
    · have left := after.counted
      rw [inactive, Finset.erase_eq_of_notMem member] at left
      exact .inr (Finset.card_eq_zero.mp (by omega))
  · rintro (member | none)
    · exact ⟨by rw [inactive, Finset.card_erase_of_mem member], runs⟩
    · refine ⟨?_, runs⟩
      rw [inactive, none]
      rfl

/-- An event about no agent's presence is passed over. -/
theorem onEvent_unread {body : EventBody} (unread : body.presence = none) : c.onEvent body = c := by
  cases body with
  | agentOnline | agentOffline => cases unread
  | _ => rfl

theorem foldl_onEvent_unread {events : List EventBody} (unread : ∀ body ∈ events, body.presence = none) :
    events.foldl onEvent c = c := by
  induction events with
  | nil => rfl
  | cons body rest ih =>
    rw [List.foldl_cons, onEvent_unread (unread body List.mem_cons_self)]
    exact ih fun body member => unread body (List.mem_cons_of_mem _ member)

end QuotaCache

namespace QuotaServer
variable {s : QuotaServer} {e : PresenceChange}

/-- The cache hears the events of the operation; the resolutions before them say nothing to it. -/
theorem take_quotaCache : (s.take e).quotaCache =
    (s.world.db.serve e.env "default" s.world.activity e.operation).events.foldl QuotaCache.onEvent s.quotaCache := by
  generalize served : s.world.db.serve e.env "default" s.world.activity e.operation = result
  have appended : (s.world.step (.operation e.env "default" e.operation)).events = s.world.events ++
      stampedEvents result.stamp s.world.eventSeq
        (World.sent result.db (result.events.map fun body => ("default", body))) := by
    rw [World.step, served]
    exact World.publish_events ..
  have heard : (ownedBy EventRow.orgId "default" (stampedEvents result.stamp s.world.eventSeq
      (World.sent result.db (result.events.map fun body => ("default", body))))).map EventRow.body = _ :=
    World.stampedEvents_bodies ..
  rw [World.sent, ownedBy_append, List.map_append, Server.addressed_bodies, if_pos rfl] at heard
  simp only [take, appended, List.drop_left]
  have passed : ∀ body ∈ (ownedBy Prod.fst "default"
      (result.db.resolutions.map fun event => (event.orgId, EventBody.threadResolved event))).map Prod.snd,
      body.presence = none := by
    intro body listed
    obtain ⟨event, own, rfl⟩ := List.mem_map.mp listed
    obtain ⟨resolved, -, rfl⟩ := List.mem_map.mp (mem_ownedBy.mp own).1
    rfl
  rw [← List.foldl_map, World.sent, heard, List.foldl_append, QuotaCache.foldl_onEvent_unread passed]

/-- They also say what becomes of the agents online. -/
theorem take_present : (s.take e).present =
    (s.world.db.serve e.env "default" s.world.activity e.operation).events.foldl (follow EventBody.liveness) s.present := by
  have quiet : ∀ who, e.operation.author ≠ some who := by
    cases e <;> exact fun _ author => by cases author
  have followed : (s.world.db.serve e.env "default" s.world.activity e.operation).events.foldl (follow EventBody.liveness)
      (s.world.db.present "default") =
      (s.world.db.serve e.env "default" s.world.activity e.operation).db.present "default" :=
    Db.serve_follows fun who author => absurd author (quiet who)
  refine Eq.trans (Db.present_congr ?_) followed.symm
  simp only [take, World.step, World.publish_db]

/-- The cache counts on just when the change alternates. -/
theorem take_counts (counts : s.Counts) : (s.take e).Counts ↔ s.Alternates e := by
  rw [Counts, take_quotaCache, take_present]
  cases e with
  | registration env agentId name modules => exact QuotaCache.onAgentActive_counts counts
  | sessionStop env agentId => exact QuotaCache.onAgentInactive_counts counts
  | offlineAnnounced env agentId => exact QuotaCache.onAgentInactive_counts counts

theorem Counts.tracks (counts : s.Counts) : s.Tracks := by
  rw [Tracks, counts.running, counts.counted, Finset.card_pos, Finset.Nonempty, present, Db.present]
  simp only [List.mem_toFinset, List.mem_map, List.mem_filter, decide_eq_true_eq]
  constructor
  · rintro ⟨_, a, ⟨member, own⟩, -⟩
    exact ⟨a, member, own⟩
  · rintro ⟨a, member, own⟩
    exact ⟨a.id, a, ⟨member, own⟩, rfl⟩

theorem counts_fresh {w : World} (idle : w.db.present "default" = ∅) : (⟨w, .fresh⟩ : QuotaServer).Counts where
  counted := by rw [present, idle]; rfl
  running := by simp [QuotaCache.fresh]

/-- From a start with nobody online the count is right after every change just
when every change alternates. -/
theorem counts_always_iff {w : World} (idle : w.db.present "default" = ∅) (changes : List PresenceChange) :
    (∀ done, done <+: changes → (done.foldl take ⟨w, .fresh⟩).Counts) ↔
      GuardedRun.Meets take Alternates ⟨w, .fresh⟩ changes :=
  GuardedRun.Meets.iff_always (P := Counts) (counts_fresh idle) (fun _ counts => counts)
    (fun _ _ counts => (take_counts counts).mpr) fun _ _ counts => (take_counts counts).mp

/-- As long as only agents that are not online register and only agents that are
online leave, the timer runs after every change just when an agent is online. -/
theorem take_tracks {w : World} {changes done : List PresenceChange} (idle : w.db.present "default" = ∅)
    (alternates : GuardedRun.Meets take Alternates ⟨w, .fresh⟩ changes) (start : done <+: changes) :
    (done.foldl take ⟨w, .fresh⟩).Tracks :=
  ((counts_always_iff idle changes).mpr alternates done start).tracks

def envAt (seconds : Nat) : Env := { now := seconds * 1000, uuid := fun _ => "t1", agentOnlineTtlSeconds := none }

def visits : List PresenceChange :=
  [.registration (envAt 1) "ada" "Ada" [], .registration (envAt 2) "bob" "Bob" [], .sessionStop (envAt 3) "ada",
    .offlineAnnounced (envAt 4) "bob", .offlineAnnounced (envAt 5) "bob", .registration (envAt 6) "ada" "Ada" []]

/-- Ada and Bob come and go, Bob is announced offline twice, and Ada comes back. -/
theorem take_tracks_visits :
    (visits.foldl take unused).Tracks ∧ (visits.foldl take unused).quotaCache.backgroundTimer = true := by
  have alternates : GuardedRun.Meets take Alternates unused visits := by
    unfold Alternates
    decide
  exact ⟨take_tracks rfl alternates (List.prefix_refl _), by decide⟩

/-- The same without the condition. -/
def QuotaTracksPresence : Prop := ∀ changes : List PresenceChange, (changes.foldl take unused).Tracks

/-- An agent that registers twice is counted twice, and stops once. -/
theorem not_quotaTracksPresence : ¬ QuotaTracksPresence := by
  intro tracks
  have twice := tracks [.registration (envAt 1) "ada" "Ada" [], .registration (envAt 2) "ada" "Ada" [],
    .sessionStop (envAt 3) "ada"]
  revert twice
  unfold Tracks
  decide

end QuotaServer

end Coordinator
