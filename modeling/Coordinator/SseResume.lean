import Coordinator.Library.GuardedRun
import Coordinator.TenantWorld

namespace Coordinator

/-- A listener of the emitter writes to the response of one client. -/
structure ListenerEntry where
  orgId : OrgId
  client : Nat
  deriving DecidableEq

/-- The emitter with the table it writes to, the `setImmediate` callbacks that
have not run yet, oldest first, and what was written to each client so far. -/
structure SseEmitter where
  world : World
  entries : List ListenerEntry
  immediates : List (ListenerEntry × EventRow)
  clients : Nat
  sent : Nat → List EventRow

inductive SseEvent
  | emit (stamp : Stamp) (orgId : OrgId) (body : EventBody)
  | connect (orgId : OrgId) (lastEventId : Nat)
  | immediate
  | disconnect (client : Nat)
  | sweep (keep : EventRow → Bool)

namespace SseEmitter

def started : SseEmitter := ⟨.unused, [], [], 0, fun _ => []⟩

/-- The row is stored, and each listener of its org gets a callback of its own. -/
def emit (s : SseEmitter) (stamp : Stamp) (orgId : OrgId) (body : EventBody) : SseEmitter :=
  let event : EventRow := ⟨s.world.eventSeq + 1, orgId, body, stamp⟩
  let snapshot := s.entries.filter fun e => e.orgId = orgId
  { s with
    world := s.world.emit stamp (orgId, body)
    immediates := s.immediates ++ snapshot.map fun entry => (entry, event) }

/-- The next callback runs. -/
def runImmediate (s : SseEmitter) : SseEmitter :=
  match s.immediates with
  | [] => s
  | (entry, event) :: rest =>
    { s with
      immediates := rest
      sent := Function.update s.sent entry.client (s.sent entry.client ++ [event]) }

/-- Refused, silently, when the cap on listeners is reached. -/
def addListener (maxSseClients : Nat) (s : SseEmitter) (entry : ListenerEntry) : SseEmitter :=
  if maxSseClients ≤ s.entries.length then s else { s with entries := s.entries ++ [entry] }

/-- `handleSse`: the replay is written, then the listener is added, in one turn. -/
def connect (maxSseClients : Nat) (s : SseEmitter) (orgId : OrgId) (lastEventId : Nat) : SseEmitter :=
  let events :=
    if 0 < lastEventId then s.world.getEventsSince orgId lastEventId sseResumeCap
    else s.world.getRecentEvents orgId sseRecentEventsLimit
  addListener maxSseClients
    { s with clients := s.clients + 1, sent := Function.update s.sent s.clients events } ⟨orgId, s.clients⟩

def disconnect (s : SseEmitter) (client : Nat) : SseEmitter :=
  { s with entries := s.entries.filter fun e => e.client ≠ client }

/-- Rows leave the table, by a retention sweep or by a reset. -/
def sweep (s : SseEmitter) (keep : EventRow → Bool) : SseEmitter :=
  { s with world := { s.world with events := s.world.events.filter keep, drained := s.world.drained } }

def step (maxSseClients : Nat) (s : SseEmitter) : SseEvent → SseEmitter
  | .emit stamp orgId body => s.emit stamp orgId body
  | .connect orgId lastEventId => s.connect maxSseClients orgId lastEventId
  | .immediate => s.runImmediate
  | .disconnect client => s.disconnect client
  | .sweep keep => s.sweep keep

/-- The events of an org stored behind an id. -/
def since (s : SseEmitter) (orgId : OrgId) (lastEventId : Nat) : List EventRow :=
  s.world.events.filter fun e => e.orgId = orgId ∧ lastEventId < e.id

/-- What is still on its way to a client. -/
def outstanding (s : SseEmitter) (client : Nat) : List EventRow :=
  (s.immediates.filter fun p => p.1.client = client).map Prod.snd

/-- All callbacks have run. -/
def settle (s : SseEmitter) : SseEmitter := (List.replicate s.immediates.length ()).foldl (fun s _ => s.runImmediate) s

variable {s : SseEmitter} {maxSseClients client : Nat} {orgId : OrgId}

theorem runImmediate_cons {entry : ListenerEntry} {event : EventRow} {rest : List (ListenerEntry × EventRow)}
    (next : s.immediates = (entry, event) :: rest) : s.runImmediate.immediates = rest ∧
      s.runImmediate.sent = Function.update s.sent entry.client (s.sent entry.client ++ [event]) ∧
      s.runImmediate.entries = s.entries ∧ s.runImmediate.world = s.world ∧ s.runImmediate.clients = s.clients := by
  rw [runImmediate, next]
  exact ⟨rfl, rfl, rfl, rfl, rfl⟩

/-- A callback moves one event from what is on its way to what was sent. -/
theorem runImmediate_owed (s : SseEmitter) (client : Nat) :
    s.runImmediate.sent client ++ s.runImmediate.outstanding client = s.sent client ++ s.outstanding client := by
  cases next : s.immediates with
  | nil => rw [runImmediate, next]
  | cons first rest =>
    obtain ⟨entry, event⟩ := first
    obtain ⟨immediates, sent, -⟩ := runImmediate_cons next
    rw [outstanding, outstanding, immediates, sent, next]
    by_cases same : entry.client = client
    · simp [same]
    · simp [same, Function.update_of_ne (Ne.symm same)]

theorem settle_sent (s : SseEmitter) (client : Nat) : s.settle.sent client = s.sent client ++ s.outstanding client := by
  generalize pending : s.immediates.length = count
  rw [settle, pending]
  induction count generalizing s with
  | zero => rw [outstanding, List.eq_nil_of_length_eq_zero pending]; simp
  | succ count ih =>
    obtain ⟨first, rest, next⟩ := List.exists_cons_of_length_eq_add_one pending
    obtain ⟨immediates, -⟩ := runImmediate_cons next
    have fewer : s.runImmediate.immediates.length = count := by
      rw [next, List.length_cons] at pending
      rw [immediates]
      omega
    rw [List.replicate_succ, List.foldl_cons, ih s.runImmediate fewer, runImmediate_owed]

/-- Ids grow along the table, and only clients that have connected are written to. -/
structure Tidy (s : SseEmitter) : Prop where
  sorted : s.world.events.Pairwise fun a b => a.id < b.id
  below : ∀ e ∈ s.world.events, e.id ≤ s.world.eventSeq
  entries : ∀ e ∈ s.entries, e.client < s.clients
  immediates : ∀ p ∈ s.immediates, p.1.client < s.clients

theorem addListener_world (maxSseClients : Nat) (s : SseEmitter) (entry : ListenerEntry) :
    (s.addListener maxSseClients entry).world = s.world ∧ (s.addListener maxSseClients entry).sent = s.sent ∧
      (s.addListener maxSseClients entry).immediates = s.immediates ∧
      (s.addListener maxSseClients entry).clients = s.clients ∧
      ∀ e ∈ (s.addListener maxSseClients entry).entries, e ∈ s.entries ∨ e = entry := by
  unfold addListener
  split
  · exact ⟨rfl, rfl, rfl, rfl, fun e => .inl⟩
  · exact ⟨rfl, rfl, rfl, rfl, fun e listed => by simpa using listed⟩

theorem Tidy.emit (tidy : Tidy s) (stamp : Stamp) (orgId : OrgId) (body : EventBody) :
    Tidy (s.emit stamp orgId body) where
  sorted := by
    refine List.pairwise_append.mpr ⟨tidy.sorted, List.pairwise_singleton _ _, ?_⟩
    intro e listed new member
    obtain rfl := List.mem_singleton.mp member
    exact Nat.lt_succ_of_le (tidy.below e listed)
  below e listed := by
    rcases List.mem_append.mp listed with old | new
    · exact Nat.le_succ_of_le (tidy.below e old)
    · obtain rfl := List.mem_singleton.mp new
      exact Nat.le_refl _
  entries := tidy.entries
  immediates p listed := by
    rcases List.mem_append.mp listed with old | new
    · exact tidy.immediates p old
    · obtain ⟨entry, member, rfl⟩ := List.mem_map.mp new
      exact tidy.entries entry (List.mem_of_mem_filter member)

theorem Tidy.step (tidy : Tidy s) (event : SseEvent) : Tidy (s.step maxSseClients event) := by
  cases event with
  | emit stamp orgId body => exact tidy.emit stamp orgId body
  | connect orgId lastEventId =>
    rw [SseEmitter.step, connect]
    generalize (if 0 < lastEventId then _ else _ : List EventRow) = events
    obtain ⟨world, -, immediates, clients, entries⟩ := addListener_world maxSseClients
      { s with clients := s.clients + 1, sent := Function.update s.sent s.clients events } ⟨orgId, s.clients⟩
    refine ⟨?_, ?_, ?_, ?_⟩
    · rw [world]
      exact tidy.sorted
    · rw [world]
      exact tidy.below
    · intro e listed
      rw [clients]
      rcases entries e listed with old | rfl
      · exact Nat.lt_succ_of_lt (tidy.entries e old)
      · exact Nat.lt_succ_self s.clients
    · intro p listed
      rw [clients]
      rw [immediates] at listed
      exact Nat.lt_succ_of_lt (tidy.immediates p listed)
  | immediate =>
    cases next : s.immediates with
    | nil => rwa [SseEmitter.step, runImmediate, next]
    | cons first rest =>
      obtain ⟨immediates, -, entries, world, clients⟩ := runImmediate_cons next
      refine ⟨?_, ?_, ?_, ?_⟩
      · exact world ▸ tidy.sorted
      · exact world ▸ tidy.below
      · exact fun e listed => clients ▸ tidy.entries e (entries ▸ listed)
      · intro p listed
        refine clients ▸ tidy.immediates p ?_
        rw [next]
        exact List.mem_cons_of_mem first (immediates ▸ listed)
  | disconnect client =>
    exact ⟨tidy.sorted, tidy.below, fun e listed => tidy.entries e (List.mem_of_mem_filter listed), tidy.immediates⟩
  | sweep keep =>
    exact ⟨tidy.sorted.sublist List.filter_sublist, fun e listed => tidy.below e (List.mem_of_mem_filter listed),
      tidy.entries, tidy.immediates⟩

theorem started_tidy : Tidy started where
  sorted := .nil
  below _ listed := by cases listed
  entries _ listed := by cases listed
  immediates _ listed := by cases listed

theorem run_tidy (events : List SseEvent) (tidy : Tidy s) : Tidy (events.foldl (step maxSseClients) s) := by
  induction events generalizing s with
  | nil => exact tidy
  | cons event rest ih => exact ih (tidy.step event)

/-- The client stays connected, and no row leaves the table. -/
def keeps (client : Nat) : SseEvent → Bool
  | .disconnect other => other ≠ client
  | .sweep _ => false
  | _ => true

/-- A client that listens to its org is owed the replay and the org's later events. -/
structure Serves (client : Nat) (orgId : OrgId) (stored replay : List EventRow) (s : SseEmitter) : Prop where
  known : client < s.clients
  entry : s.entries.filter (fun e => e.client = client) = [⟨orgId, client⟩]
  owed : ∃ later, s.world.events = stored ++ later ∧
    s.sent client ++ s.outstanding client = replay ++ later.filter fun e => e.orgId = orgId

variable {stored replay : List EventRow}

/-- The one listener of the client gets a callback for each event of its org. -/
theorem Serves.emit (serves : Serves client orgId stored replay s) (stamp : Stamp) (orgId' : OrgId) (body : EventBody) :
    Serves client orgId stored replay (s.emit stamp orgId' body) := by
  obtain ⟨later, events, owed⟩ := serves.owed
  let event : EventRow := ⟨s.world.eventSeq + 1, orgId', body, stamp⟩
  refine ⟨serves.known, serves.entry, later ++ [event], ?_, ?_⟩
  · rw [← List.append_assoc, ← events]
    rfl
  · have mine : ((s.entries.filter fun e => e.orgId = orgId').filter fun e => e.client = client) =
        if orgId = orgId' then [⟨orgId, client⟩] else [] := by
      rw [List.filter_comm, serves.entry]
      by_cases same : orgId = orgId' <;> simp [same]
    have grown : (s.emit stamp orgId' body).outstanding client =
        s.outstanding client ++ if orgId = orgId' then [event] else [] := by
      simp only [outstanding, SseEmitter.emit, List.filter_append, List.map_append, List.filter_map, Function.comp_def]
      rw [mine]
      by_cases same : orgId = orgId' <;> simp [same, event]
    rw [grown, List.filter_append, ← List.append_assoc, ← List.append_assoc, ← owed]
    by_cases same : orgId = orgId'
    · simp [same, event, SseEmitter.emit]
    · simp [same, Ne.symm same, event, SseEmitter.emit]

theorem Serves.connect (serves : Serves client orgId stored replay s) (orgId' : OrgId) (lastEventId : Nat) :
    Serves client orgId stored replay (s.connect maxSseClients orgId' lastEventId) := by
  rw [SseEmitter.connect]
  generalize (if 0 < lastEventId then _ else _ : List EventRow) = events
  have other : client ≠ s.clients := Nat.ne_of_lt serves.known
  unfold addListener
  split
  · refine ⟨Nat.lt_succ_of_lt serves.known, serves.entry, ?_⟩
    simpa [outstanding, Function.update_of_ne other] using serves.owed
  · refine ⟨Nat.lt_succ_of_lt serves.known, ?_, ?_⟩
    · simpa [List.filter_append, Ne.symm other] using serves.entry
    · simpa [outstanding, Function.update_of_ne other] using serves.owed

theorem Serves.immediate (serves : Serves client orgId stored replay s) :
    Serves client orgId stored replay s.runImmediate := by
  have owed := runImmediate_owed s client
  cases next : s.immediates with
  | nil => rwa [runImmediate, next]
  | cons first rest =>
    obtain ⟨-, -, entries, world, clients⟩ := runImmediate_cons next
    refine ⟨clients ▸ serves.known, entries ▸ serves.entry, ?_⟩
    rw [world, owed]
    exact serves.owed

theorem Serves.step (serves : Serves client orgId stored replay s) {event : SseEvent} (kept : keeps client event = true) :
    Serves client orgId stored replay (s.step maxSseClients event) := by
  cases event with
  | emit stamp orgId' body => exact serves.emit stamp orgId' body
  | connect orgId' lastEventId => exact serves.connect orgId' lastEventId
  | immediate => exact serves.immediate
  | disconnect other =>
    have apart : other ≠ client := by simpa [keeps] using kept
    refine ⟨serves.known, ?_, serves.owed⟩
    rw [SseEmitter.step, disconnect, List.filter_comm, serves.entry]
    simp [Ne.symm apart]
  | sweep keep => cases kept

theorem Serves.run (serves : Serves client orgId stored replay s) (events : List SseEvent)
    (kept : ∀ event ∈ events, keeps client event = true) :
    Serves client orgId stored replay (events.foldl (SseEmitter.step maxSseClients) s) := by
  induction events generalizing s with
  | nil => exact serves
  | cons event rest ih =>
    exact ih (serves.step (kept event List.mem_cons_self)) fun e listed => kept e (List.mem_cons_of_mem event listed)

/-- A client that resumes is served the capped replay first. -/
theorem Tidy.connect_serves (tidy : Tidy s) (orgId : OrgId) (room : s.entries.length < maxSseClients) {lastEventId : Nat}
    (positive : 0 < lastEventId) :
    Serves s.clients orgId s.world.events ((s.since orgId lastEventId).take sseResumeCap)
      (s.connect maxSseClients orgId lastEventId) := by
  have nobody : ∀ e ∈ s.entries, ¬ e.client = s.clients := fun e listed => Nat.ne_of_lt (tidy.entries e listed)
  have nothing : ∀ p ∈ s.immediates, ¬ p.1.client = s.clients := fun p listed => Nat.ne_of_lt (tidy.immediates p listed)
  rw [connect, if_pos positive, addListener, if_neg (Nat.not_le.mpr room)]
  refine ⟨Nat.lt_succ_self s.clients, ?_, [], (List.append_nil _).symm, ?_⟩
  · rw [List.filter_append, List.filter_eq_nil_iff.mpr (by simpa using nobody)]
    simp
  · rw [outstanding, List.filter_eq_nil_iff.mpr (by simpa using nothing)]
    simp [World.getEventsSince, since]

/-- What a client that resumes behind an event is sent: the first thousand events
of its org stored behind it, then each event of its org as it is emitted. -/
def resumed (s t : SseEmitter) (orgId : OrgId) (lastEventId : Nat) : List EventRow :=
  (s.since orgId lastEventId).take sseResumeCap ++
    (t.world.events.drop s.world.events.length).filter fun e => e.orgId = orgId

/-- From any state, a client that resumes is owed the capped replay and the later events of its org. -/
theorem Tidy.resumed_eq (tidy : Tidy s) (orgId : OrgId) (room : s.entries.length < maxSseClients) {lastEventId : Nat}
    (positive : 0 < lastEventId) {after : List SseEvent} (kept : ∀ event ∈ after, keeps s.clients event = true) :
    let t := after.foldl (SseEmitter.step maxSseClients) (s.connect maxSseClients orgId lastEventId)
    resumed s t orgId lastEventId = t.sent s.clients ++ t.outstanding s.clients ∧
      ∃ later, t.world.events = s.world.events ++ later := by
  intro t
  obtain ⟨-, -, later, events, owed⟩ := (tidy.connect_serves orgId room positive).run after kept
  refine ⟨?_, later, events⟩
  rw [resumed, events, List.drop_left, owed]

theorem resumed_sorted {t : SseEmitter} (tidy : Tidy t) {later : List EventRow}
    (events : t.world.events = s.world.events ++ later) (orgId : OrgId) (lastEventId : Nat) :
    (resumed s t orgId lastEventId).Pairwise fun a b => a.id < b.id := by
  have sorted := tidy.sorted
  rw [events] at sorted
  refine sorted.sublist ?_
  rw [resumed, events, List.drop_left]
  exact ((List.take_sublist _ _).trans List.filter_sublist).append List.filter_sublist

/-- Below the cap nothing is left out. -/
theorem resumed_since {t : SseEmitter} {later : List EventRow} (events : t.world.events = s.world.events ++ later)
    {orgId : OrgId} {lastEventId : Nat} (short : (s.since orgId lastEventId).length ≤ sseResumeCap) :
    (resumed s t orgId lastEventId).filter (fun e => lastEventId < e.id) = t.since orgId lastEventId := by
  rw [resumed, events, List.drop_left, List.take_of_length_le short, since, since, events, List.filter_append,
    List.filter_append, List.filter_filter, List.filter_filter]
  congr 1
  · refine List.filter_congr ?_
    intro e _
    by_cases behind : lastEventId < e.id <;> simp [behind]
  · refine List.filter_congr ?_
    intro e _
    simp [Bool.and_comm]

/-- A client that resumes is sent, in order of id and each event once, the first thousand
events of its org stored behind the id it names and every event emitted after it
connected: all of its org's events behind that id, when no more than a thousand were stored. -/
theorem sse_resumes (maxSseClients : Nat) (before after : List SseEvent) (orgId : OrgId) (lastEventId : Nat)
    (positive : 0 < lastEventId) (room : (before.foldl (step maxSseClients) started).entries.length < maxSseClients)
    (kept : ∀ event ∈ after, keeps (before.foldl (step maxSseClients) started).clients event = true) :
    let s := before.foldl (step maxSseClients) started
    let t := after.foldl (step maxSseClients) (s.connect maxSseClients orgId lastEventId)
    t.sent s.clients <+: resumed s t orgId lastEventId ∧
      t.settle.sent s.clients = resumed s t orgId lastEventId ∧
      (resumed s t orgId lastEventId).Pairwise (fun a b => a.id < b.id) ∧
      ((s.since orgId lastEventId).length ≤ sseResumeCap →
        (resumed s t orgId lastEventId).filter (fun e => lastEventId < e.id) = t.since orgId lastEventId) := by
  intro s t
  have tidy : Tidy s := run_tidy before started_tidy
  have tidy' : Tidy t := run_tidy after (tidy.step (.connect orgId lastEventId))
  obtain ⟨owed, later, events⟩ := tidy.resumed_eq orgId room positive kept
  refine ⟨?_, ?_, resumed_sorted tidy' events orgId lastEventId, resumed_since events⟩
  · rw [owed]
    exact List.prefix_append _ _
  · rw [owed, settle_sent]

/-- An event before the client went away, one while it was away and one after it came back. -/
theorem sse_resumes_thrice :
    let event := SseEvent.emit (.sqlite 0) "acme" (.taskClaimed "t" "ada")
    let s := [event, event].foldl (step 100) started
    let t := [event, SseEvent.immediate].foldl (step 100) (s.connect 100 "acme" 1)
    (t.sent 0).map EventRow.id = [2, 3] ∧ t.sent s.clients <+: resumed s t "acme" 1 := by
  intro event s t
  exact ⟨by decide, (sse_resumes 100 [event, event] [event, .immediate] "acme" 1 (by decide) (by decide) (by decide)).1⟩

theorem emits_events (maxSseClients : Nat) (stamp : Stamp) (orgId : OrgId) (body : EventBody) (count : Nat) (s : SseEmitter) :
    let t := (List.replicate count (SseEvent.emit stamp orgId body)).foldl (step maxSseClients) s
    t.entries = s.entries ∧ t.world.events = s.world.events ++
      (List.range count).map fun i => ⟨s.world.eventSeq + i + 1, orgId, body, stamp⟩ := by
  induction count generalizing s with
  | zero => simp
  | succ count ih =>
    obtain ⟨entries, events⟩ := ih (s.emit stamp orgId body)
    refine ⟨entries, events.trans ?_⟩
    simp only [SseEmitter.emit, World.emit, List.range_succ_eq_map, List.map_cons, List.map_map, List.append_assoc,
      List.singleton_append, Function.comp_def]
    congr 3
    funext i
    simp only [Nat.succ_eq_add_one]
    congr 1
    omega

/-- Behind more events than the cap allows, a client that resumes is not sent all of them. -/
theorem Tidy.falls_short (tidy : Tidy s) (room : s.entries.length < maxSseClients) {lastEventId : Nat}
    (positive : 0 < lastEventId) (long : sseResumeCap < (s.since orgId lastEventId).length) :
    let t := s.connect maxSseClients orgId lastEventId
    (t.settle.sent s.clients).filter (fun e => lastEventId < e.id) ≠ t.since orgId lastEventId := by
  intro t same
  obtain ⟨owed, -⟩ := tidy.resumed_eq orgId room positive (List.forall_mem_nil _)
  have world : t.world = s.world := (addListener_world _ _ _).1
  have sent : t.settle.sent s.clients = (s.since orgId lastEventId).take sseResumeCap := by
    rw [settle_sent, ← show _ = t.sent s.clients ++ t.outstanding s.clients from owed, resumed, List.foldl_nil,
      show (s.connect maxSseClients orgId lastEventId).world = s.world from world, List.drop_length, List.filter_nil,
      List.append_nil]
  have fewer := (List.length_filter_le (fun e : EventRow => lastEventId < e.id) (t.settle.sent s.clients)).trans
    (sent ▸ List.length_take_le _ _)
  rw [same, since, world] at fewer
  exact absurd (Nat.lt_of_lt_of_le long fewer) (Nat.lt_irrefl _)

/-- A thousand and one events are stored behind the last one the client saw, and it is not sent all of them. -/
theorem not_sse_resumes : ∃ before orgId lastEventId, 0 < lastEventId ∧
    let s := List.foldl (step 100) started before
    let t := s.connect 100 orgId lastEventId
    s.entries.length < 100 ∧
      (t.settle.sent s.clients).filter (fun e => lastEventId < e.id) ≠ t.since orgId lastEventId := by
  have made := emits_events 100 (.sqlite 0) "acme" (.taskClaimed "t" "ada") 1002 started
  generalize List.replicate 1002 (SseEvent.emit (.sqlite 0) "acme" (.taskClaimed "t" "ada")) = before at made
  obtain ⟨entries, events⟩ := made
  have room : (List.foldl (step 100) started before).entries.length < 100 := by
    rw [entries]
    decide
  refine ⟨before, "acme", 1, Nat.one_pos, room, (run_tidy before started_tidy).falls_short room Nat.one_pos ?_⟩
  rw [since, events, List.filter_append, List.filter_map, List.length_append, List.length_map]
  simp only [Function.comp_def]
  decide +kernel

end SseEmitter

end Coordinator
