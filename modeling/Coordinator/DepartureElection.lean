import Coordinator.Library.LeaseElection
import Coordinator.MqttTopics

namespace Coordinator

/-- A message on the shared broker, with what `JSON.parse` makes of its text.
`throws` says that an exception escapes `processDeparture` for it, whichever
replica runs it on the shared tables. -/
structure Publication where
  topic : String
  text : String
  parsed : ParsedPayload
  throws : Bool
  deriving DecidableEq

/-- The agent that the message announces offline, if it does. -/
def Publication.offline (m : Publication) : Option (OrgId × AgentId) :=
  (statusTopic m.topic).filter fun _ => m.parsed.statusText m.text = "offline"

/-- The handler of every bridge, whatever its listeners, calls `onOfflineHandler` for that agent. -/
theorem Publication.onMessage_offline (m : Publication) (b : Bridge) (timestamp : Int) :
    (b.onMessage m.topic m.text m.parsed timestamp).2 = m.offline := by
  refine Option.ext fun agent => ?_
  rw [Bridge.onMessage_offline, Publication.offline, Option.filter_eq_some_iff]
  simp only [decide_eq_true_eq]

def departureKey (orgId : OrgId) (agentId : AgentId) : String := s!"coordinator:offline:{orgId}:{agentId}"

def Publication.lockKey (m : Publication) : Option String := m.offline.map fun (orgId, agentId) => departureKey orgId agentId

theorem Publication.lockKey_isSome {m : Publication} : m.lockKey.isSome = m.offline.isSome := Option.isSome_map

/-- One replica's receipt of the message at one index, with the clock in milliseconds. -/
structure Delivery where
  time : Nat
  replica : String
  message : Nat
  deriving DecidableEq

structure RedisValue where
  value : String
  expiresAt : Nat
  deriving DecidableEq

/-- The keys of the shared store. An expired value is as good as none. -/
abbrev RedisKeys := String → Option RedisValue

/-- `SET key owner NX EX ttlSeconds`. -/
def acquireLock (now : Nat) (key : String) (ttlSeconds : Nat) (owner : String) (keys : RedisKeys) : RedisKeys × Bool :=
  if (keys key).all fun held => held.expiresAt ≤ now then
    (Function.update keys key (some ⟨owner, now + ttlSeconds * 1000⟩), true)
  else (keys, false)

/-- The replicas' shared store, and the deliveries on account of which
`processDeparture` has run, once for each run. -/
structure Cluster where
  keys : RedisKeys
  processed : List Delivery

namespace Cluster

def idle : Cluster := ⟨fun _ => none, []⟩

/-- The handler of `onOffline`, where the store answers every request. -/
def onOffline (d : Delivery) (throws : Bool) (orgId : OrgId) (agentId : AgentId) (c : Cluster) : Cluster :=
  let (keys, won) := acquireLock d.time (departureKey orgId agentId) 10 d.replica c.keys
  -- the `.catch` behind the winner's `.then` runs a departure that threw once more
  { keys, processed := c.processed ++ if won then (if throws then [d, d] else [d]) else [] }

def deliver (published : List Publication) (c : Cluster) (d : Delivery) : Cluster :=
  match published[d.message]? with
  | none => c
  | some m =>
    match m.offline with
    | none => c
    | some (orgId, agentId) => c.onOffline d m.throws orgId agentId

/-- The deliveries, each in its turn. -/
def run (published : List Publication) (deliveries : List Delivery) : Cluster := deliveries.foldl (deliver published) idle

end Cluster

/-- How the broker delivers: in the order of time, each message to every
replica, and to all of them within ten seconds. -/
structure Broadcast (published : List Publication) (replicas : List String) (deliveries : List Delivery) : Prop where
  staffed : replicas ≠ []
  inOrder : deliveries.Pairwise fun d e => d.time ≤ e.time
  reaches : ∀ i < published.length, ∀ replica ∈ replicas, ∃ d ∈ deliveries, d.message = i ∧ d.replica = replica
  brief : ∀ d ∈ deliveries, ∀ e ∈ deliveries, d.message = e.message → e.time < d.time + 10000

/-- Every offline announcement is processed, and not twice. -/
def ProcessedOnce (published : List Publication) (deliveries : List Delivery) : Prop :=
  ∀ i m, published[i]? = some m → m.offline.isSome →
    (Cluster.run published deliveries).processed.countP (fun d => d.message = i) = 1

/-- A delivery of each offline announcement can be picked such that those for
one lock key lie ten seconds apart or more. -/
def Spread (published : List Publication) (deliveries : List Delivery) : Prop :=
  ∃ chosen : List Delivery, chosen.Sublist deliveries ∧
    (∀ i m, published[i]? = some m → m.offline.isSome → ∃ d ∈ chosen, d.message = i) ∧
    chosen.Pairwise fun d e => ∀ key, published[d.message]?.bind Publication.lockKey = some key →
      published[e.message]?.bind Publication.lockKey = some key → d.time + 10000 ≤ e.time

/-- The replicas' requests for the locks. -/
def departureLeasing (published : List Publication) : Leasing Delivery String :=
  { lease := fun d => published[d.message]?.bind Publication.lockKey, time := Delivery.time, ttl := 10000 }

section
variable {published : List Publication} {deliveries : List Delivery}

/-- The runs of `processDeparture` for one delivery that won its lock. -/
def runsFor (published : List Publication) (d : Delivery) : List Delivery :=
  if (published[d.message]?.any Publication.throws) then [d, d] else [d]

theorem Cluster.foldl_deliver (c : Cluster) :
    (deliveries.foldl (Cluster.deliver published) c).processed =
      c.processed ++ ((departureLeasing published).granted (fun key => (c.keys key).map RedisValue.expiresAt)
        deliveries).flatMap (runsFor published) := by
  induction deliveries generalizing c with
  | nil => simp [Leasing.granted]
  | cons d rest ih =>
    rw [List.foldl_cons, ih, Leasing.granted]
    cases found : published[d.message]? with
    | none => simp [deliver, departureLeasing, found]
    | some m =>
      cases announced : m.offline with
      | none => simp [deliver, departureLeasing, Publication.lockKey, found, announced]
      | some agent =>
        obtain ⟨orgId, agentId⟩ := agent
        have asks : (departureLeasing published).lease d = some (departureKey orgId agentId) := by
          simp [departureLeasing, Publication.lockKey, found, announced]
        have freeIff : ((c.keys (departureKey orgId agentId)).map RedisValue.expiresAt).all
            (· ≤ (departureLeasing published).time d) =
              (c.keys (departureKey orgId agentId)).all fun held => held.expiresAt ≤ d.time := by
          rw [Option.all_map]
          rfl
        rw [asks]
        simp only [deliver, found, announced, onOffline, acquireLock, freeIff]
        split
        · have later : (fun key => (Function.update c.keys (departureKey orgId agentId)
              (some ⟨d.replica, d.time + 10 * 1000⟩) key).map RedisValue.expiresAt) =
              Function.update (fun key => (c.keys key).map RedisValue.expiresAt) (departureKey orgId agentId)
                (some ((departureLeasing published).time d + (departureLeasing published).ttl)) := by
            funext key
            by_cases same : key = departureKey orgId agentId
            · subst same
              simp [departureLeasing]
            · simp [same]
          rw [later]
          simp [runsFor, found]
        · simp

theorem countP_runsFor {i : Nat} {m : Publication} (found : published[i]? = some m) (won : List Delivery) :
    (won.flatMap (runsFor published)).countP (fun d => d.message = i) =
      (if m.throws then 2 else 1) * won.countP (fun d => d.message = i) := by
  induction won with
  | nil => simp
  | cons d rest ih =>
    rw [List.flatMap_cons, List.countP_append, ih, List.countP_cons]
    by_cases here : d.message = i
    · have ran : (runsFor published d).countP (fun d => d.message = i) = if m.throws then 2 else 1 := by
        rw [runsFor, here, found]
        cases throws : m.throws <;> simp [here, throws]
      rw [ran, if_pos (decide_eq_true here), Nat.mul_add, Nat.mul_one, Nat.add_comm]
    · have none' : (runsFor published d).countP (fun d => d.message = i) = 0 := by
        rw [runsFor]
        split <;> simp [here]
      simp [none', here]

namespace Broadcast
variable {replicas : List String}

theorem leasing (broadcast : Broadcast published replicas deliveries) :
    Leasing.Brief Delivery.message (departureLeasing published) deliveries :=
  ⟨fun _ _ _ _ same => by simp only [departureLeasing, same], broadcast.brief⟩

theorem run_processed (i : Nat) {m : Publication} (found : published[i]? = some m) :
    (Cluster.run published deliveries).processed.countP (fun d => d.message = i) = (if m.throws then 2 else 1) *
      ((departureLeasing published).granted (fun _ => none) deliveries).countP (fun d => d.message = i) := by
  rw [Cluster.run, Cluster.foldl_deliver]
  exact countP_runsFor found _

/-- A departure runs once when one of its requests is granted and it does not throw. -/
theorem ran_once_iff (broadcast : Broadcast published replicas deliveries) {i : Nat} {m : Publication}
    (found : published[i]? = some m) :
    (Cluster.run published deliveries).processed.countP (fun d => d.message = i) = 1 ↔
      ¬ m.throws ∧ ∃ d ∈ (departureLeasing published).granted (fun _ => none) deliveries, d.message = i := by
  have atMostOnce : ((departureLeasing published).granted (fun _ => none) deliveries).countP
      (fun d => d.message = i) ≤ 1 := by
    have once : (((departureLeasing published).granted (fun _ => none) deliveries).map (·.message)).Nodup :=
      broadcast.leasing.once
    have distinct := List.nodup_iff_count_le_one.mp once i
    rw [List.count_eq_countP, List.countP_map] at distinct
    refine le_of_eq_of_le (List.countP_congr fun d _ => ?_) distinct
    simp
  rw [run_processed i found]
  have granted : (0 < ((departureLeasing published).granted (fun _ => none) deliveries).countP fun d => d.message = i) ↔
      ∃ d ∈ (departureLeasing published).granted (fun _ => none) deliveries, d.message = i := by
    simp [List.countP_pos_iff]
  rw [← granted]
  have decides : ∀ wins, wins ≤ 1 → ((if m.throws then 2 else 1) * wins = 1 ↔ ¬ m.throws ∧ 0 < wins) := by
    intro wins bound
    cases m.throws
    · simp only [Bool.false_eq_true, if_false, not_false_eq_true, true_and]
      omega
    · simp only [if_true, not_true_eq_false, false_and, iff_false]
      omega
  exact decides _ atMostOnce

/-- Every departure runs exactly once when none throws and the announcements
that share a lock key can be told apart by ten-second leases. -/
theorem processedOnce_iff (broadcast : Broadcast published replicas deliveries) :
    ProcessedOnce published deliveries ↔
      (∀ m ∈ published, m.offline.isSome → ¬ m.throws) ∧ Spread published deliveries := by
  have delivered : ∀ i m, published[i]? = some m → ∃ d ∈ deliveries, d.message = i := by
    intro i m found
    obtain ⟨replica, member⟩ := List.exists_mem_of_ne_nil _ broadcast.staffed
    obtain ⟨d, listed, atIndex, -⟩ := broadcast.reaches i (List.getElem?_eq_some_iff.mp found).1 replica member
    exact ⟨d, listed, atIndex⟩
  have asks : ∀ d ∈ deliveries, ((departureLeasing published).lease d).isSome ↔
      ∃ m, published[d.message]? = some m ∧ m.offline.isSome := by
    intro d _
    simp only [departureLeasing]
    cases published[d.message]? with
    | none => simp
    | some m => simp [Publication.lockKey_isSome]
  have cover : ∀ picked : List Delivery,
      (∀ d ∈ deliveries, ((departureLeasing published).lease d).isSome → ∃ e ∈ picked, e.message = d.message) ↔
        ∀ i m, published[i]? = some m → m.offline.isSome → ∃ e ∈ picked, e.message = i := by
    intro picked
    constructor
    · intro covers i m found announced
      obtain ⟨d, listed, rfl⟩ := delivered i m found
      exact covers d listed ((asks d listed).mpr ⟨m, found, announced⟩)
    · intro covers d listed asked
      obtain ⟨m, found, announced⟩ := (asks d listed).mp asked
      exact covers d.message m found announced
  have elected := broadcast.leasing.all_granted_iff broadcast.inOrder
  rw [cover] at elected
  constructor
  · intro once
    have ran := fun i m found announced => (broadcast.ran_once_iff found).mp (once i m found announced)
    refine ⟨fun m member announced => ?_, ?_⟩
    · obtain ⟨i, found⟩ := List.mem_iff_getElem?.mp member
      exact (ran i m found announced).1
    · obtain ⟨chosen, picked, covers, apart⟩ := elected.mp fun i m found announced => (ran i m found announced).2
      exact ⟨chosen, picked, (cover chosen).mp covers, apart⟩
  · rintro ⟨calm, chosen, picked, covers, apart⟩ i m found announced
    have granted := elected.mpr ⟨chosen, picked, (cover chosen).mpr covers, apart⟩
    exact (broadcast.ran_once_iff found).mpr ⟨calm m (List.mem_of_getElem? found) announced, granted i m found announced⟩

/-- Ada goes offline, and again after a while; two replicas hear it each time. -/
def goesOfflineTwice (gap : Nat) : List Delivery :=
  [⟨0, "r1", 0⟩, ⟨100, "r2", 0⟩, ⟨gap, "r1", 1⟩, ⟨gap + 100, "r2", 1⟩]

def adaOffline : Publication := ⟨"coordinator/acme/agents/ada/status", "offline", .malformed, false⟩

theorem goesOfflineTwice_broadcast {gap : Nat} (later : 100 ≤ gap) :
    Broadcast [adaOffline, adaOffline] ["r1", "r2"] (goesOfflineTwice gap) := by
  refine ⟨by simp, ?_, ?_, ?_⟩
  · simp only [goesOfflineTwice, List.pairwise_cons, List.mem_cons, List.not_mem_nil, or_false, forall_eq_or_imp, forall_eq,
      false_implies, implies_true, List.Pairwise.nil, and_true]
    omega
  · intro i listed
    have either : i = 0 ∨ i = 1 := by
      have bound : i < 2 := listed
      omega
    rcases either with rfl | rfl <;> simp [goesOfflineTwice]
  · simp only [goesOfflineTwice, List.mem_cons, List.not_mem_nil, or_false, forall_eq_or_imp, forall_eq]
    omega

theorem processedOnce_apart : ProcessedOnce [adaOffline, adaOffline] (goesOfflineTwice 15000) := by
  refine (processedOnce_iff (goesOfflineTwice_broadcast (by decide))).mpr ⟨by decide, ?_⟩
  refine ⟨[⟨0, "r1", 0⟩, ⟨15000, "r1", 1⟩], by decide, ?_, ?_⟩
  · intro i m found _
    match i with
    | 0 => exact ⟨_, List.mem_cons_self, rfl⟩
    | 1 => exact ⟨_, List.mem_cons_of_mem _ List.mem_cons_self, rfl⟩
    | i + 2 => cases found
  · refine List.Pairwise.imp (fun {d e} late _ _ _ => late)
      (show List.Pairwise (fun d e => d.time + 10000 ≤ e.time) _ from ?_)
    decide

/-- Five seconds after the first departure its lock is still held, and nobody processes the second. -/
theorem not_processedOnce : ¬ ∀ (published : List Publication) (replicas : List String) (deliveries : List Delivery),
    Broadcast published replicas deliveries → ProcessedOnce published deliveries := by
  intro once
  have second := once _ _ _ (goesOfflineTwice_broadcast (by decide : 100 ≤ 5000)) 1 adaOffline rfl (by decide)
  revert second
  decide

end Broadcast

end

end Coordinator
