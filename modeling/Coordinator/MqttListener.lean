import Mathlib.Data.List.Nodup
import Coordinator.Library.GuardedRun

namespace Coordinator

def maxListenerQueue : Nat := 1000

/-- `arrival` numbers the messages that were accepted for the listener. -/
structure QueuedMessage where
  arrival : Nat
  topic : String
  payload : String
  timestamp : Int
  deriving DecidableEq, Repr

structure Batch where
  id : Nat
  messages : List QueuedMessage
  deriving DecidableEq, Repr

/-- `waitResolve` holds the number of the call that waits. -/
structure AgentListener where
  queue : List QueuedMessage
  waitResolve : Option Nat
  inFlight : Option Batch
  ackMode : Bool
  deriving DecidableEq, Repr

/-- Where messages leave the listener: the results of `waitForMessage`, the
batches that are acknowledged and the drops recorded as `queue_full`. -/
structure Departed where
  resolved : List QueuedMessage
  acknowledged : List QueuedMessage
  queueFull : List QueuedMessage
  deriving DecidableEq, Repr

def Departed.none : Departed := ⟨[], [], []⟩

def Departed.append (earlier later : Departed) : Departed :=
  ⟨earlier.resolved ++ later.resolved, earlier.acknowledged ++ later.acknowledged, earlier.queueFull ++ later.queueFull⟩

/-- The loop of `trimQueue`: what is left, and what was dropped from the front. -/
def trimQueue : List QueuedMessage → List QueuedMessage × List QueuedMessage
  | [] => ([], [])
  | oldest :: rest =>
    if maxListenerQueue < (oldest :: rest).length then
      let (kept, dropped) := trimQueue rest
      (kept, oldest :: dropped)
    else (oldest :: rest, [])

namespace AgentListener

/-- `registerListener` of a new agent. -/
def registered : AgentListener := ⟨[], none, none, false⟩

/-- The fan-out of one message: to the waiting call, or to the end of the queue. -/
def onMessage (l : AgentListener) (msg : QueuedMessage) : AgentListener × Departed :=
  match l.waitResolve with
  | some _ => ({ l with waitResolve := none }, { Departed.none with resolved := [msg] })
  | none =>
    if maxListenerQueue ≤ l.queue.length then
      ({ l with queue := l.queue.drop 1 ++ [msg] }, { Departed.none with queueFull := l.queue.take 1 })
    else ({ l with queue := l.queue ++ [msg] }, .none)

/-- The call numbered `caller` takes the head of the queue or waits, in the place of one that waited before. -/
def waitForMessage (l : AgentListener) (caller : Nat) : AgentListener × Departed :=
  match l.queue with
  | oldest :: rest => ({ l with queue := rest }, { Departed.none with resolved := [oldest] })
  | [] => ({ l with waitResolve := some caller }, .none)

/-- The timeout of a call that still waits. -/
def waitTimeout (l : AgentListener) (caller : Nat) : AgentListener :=
  if l.waitResolve = some caller then { l with waitResolve := none } else l

/-- What happens to the batch in flight before the queue is drained. -/
def settleInFlight (l : AgentListener) (ack : Option Nat) : AgentListener × Departed :=
  match l.inFlight with
  | none => (l, .none)
  | some batch =>
    if ack = some batch.id then ({ l with inFlight := none }, { Departed.none with acknowledged := batch.messages })
    else if !l.ackMode then ({ l with inFlight := none }, .none)
    else
      let (kept, dropped) := trimQueue (batch.messages ++ l.queue)
      ({ l with queue := kept, inFlight := none }, { Departed.none with queueFull := dropped })

/-- The messages handed out and the id of the batch, if it is to be acknowledged. -/
def drain (l : AgentListener) (id : Nat) : AgentListener × List QueuedMessage × Option Nat :=
  if l.queue = [] then (l, [], none)
  else if !l.ackMode then ({ l with queue := [] }, l.queue, none)
  else ({ l with queue := [], inFlight := some ⟨id, l.queue⟩ }, l.queue, some id)

def getQueuedMessages (l : AgentListener) (requireAck : Bool) (ack : Option Nat) (id : Nat) :
    AgentListener × Departed × List QueuedMessage × Option Nat :=
  let (settled, departed) := settleInFlight { l with ackMode := l.ackMode || requireAck } ack
  let (drained, handedOut) := settled.drain id
  (drained, departed, handedOut)

def ackBatch (l : AgentListener) (batchId : Nat) : AgentListener × Departed × Bool :=
  match l.inFlight with
  | none => (l, .none, false)
  | some batch =>
    if batch.id ≠ batchId then (l, .none, false)
    else ({ l with inFlight := none }, { Departed.none with acknowledged := batch.messages }, true)

def inFlightMessages (l : AgentListener) : List QueuedMessage := (l.inFlight.map Batch.messages).getD []

/-- What is owed to the agent, oldest first. -/
def owed (l : AgentListener) : List QueuedMessage := l.inFlightMessages ++ l.queue

end AgentListener

/-- The places a message can be in. -/
def places (l : AgentListener) (departed : Departed) : List QueuedMessage :=
  l.queue ++ l.inFlightMessages ++ departed.acknowledged ++ departed.resolved ++ departed.queueFull

/-- A listener with everything that was accepted for it and everything that left it. -/
structure Mailbox where
  listener : AgentListener
  draws : Nat
  accepted : List QueuedMessage
  departed : Departed
  deriving DecidableEq, Repr

inductive MailboxEvent
  | message (topic payload : String) (timestamp : Int)
  | waitForMessage
  | waitTimeout (caller : Nat)
  | getQueuedMessages (requireAck : Bool) (ack : Option Nat)
  | ackBatch (batchId : Nat)
  deriving DecidableEq, Repr

namespace Mailbox

def registered : Mailbox := ⟨.registered, 0, [], .none⟩

/-- Calls and batches draw their identity from one counter. -/
def step (w : Mailbox) : MailboxEvent → Mailbox
  | .message topic payload timestamp =>
    let msg : QueuedMessage := ⟨w.accepted.length, topic, payload, timestamp⟩
    let (listener, departed) := w.listener.onMessage msg
    { w with listener := listener, accepted := w.accepted ++ [msg], departed := w.departed.append departed }
  | .waitForMessage =>
    let (listener, departed) := w.listener.waitForMessage w.draws
    { w with listener := listener, draws := w.draws + 1, departed := w.departed.append departed }
  | .waitTimeout caller => { w with listener := w.listener.waitTimeout caller }
  | .getQueuedMessages requireAck ack =>
    let (listener, departed, _) := w.listener.getQueuedMessages requireAck ack w.draws
    { w with listener := listener, draws := w.draws + 1, departed := w.departed.append departed }
  | .ackBatch batchId =>
    let (listener, departed, _) := w.listener.ackBatch batchId
    { w with listener := listener, departed := w.departed.append departed }

abbrev Run : Mailbox → Mailbox → Prop := GuardedRun step fun _ _ => True

/-- Every accepted message is in exactly one place, what is owed is in strict
order of arrival, and the queue keeps to its limit. -/
structure Conserved (w : Mailbox) : Prop where
  once : ∀ m ∈ w.accepted, (places w.listener w.departed).count m = 1
  known : ∀ m ∈ places w.listener w.departed, m ∈ w.accepted
  ordered : w.listener.owed.Pairwise fun a b => a.arrival < b.arrival
  distinct : w.listener.owed.Nodup
  bounded : w.listener.queue.length ≤ maxListenerQueue

end Mailbox

theorem trimQueue_append (queue : List QueuedMessage) : (trimQueue queue).2 ++ (trimQueue queue).1 = queue := by
  induction queue with
  | nil => rfl
  | cons oldest rest ih =>
    rw [trimQueue]
    split
    · exact congrArg (oldest :: ·) ih
    · rfl

theorem trimQueue_sublist (queue : List QueuedMessage) : (trimQueue queue).1.Sublist queue := by
  have whole := List.sublist_append_right (trimQueue queue).2 (trimQueue queue).1
  rwa [trimQueue_append] at whole

theorem trimQueue_length (queue : List QueuedMessage) : (trimQueue queue).1.length ≤ maxListenerQueue := by
  induction queue with
  | nil => exact Nat.zero_le _
  | cons oldest rest ih =>
    rw [trimQueue]
    split
    · exact ih
    · rename_i short
      exact Nat.not_lt.mp short

/-- What an operation of a listener in ack mode does to the messages: none is
lost or made up, what is still owed keeps its order, the limit is kept. -/
structure Moves (l : AgentListener) (arrived : List QueuedMessage) (l' : AgentListener) (departed : Departed) : Prop where
  count : ∀ m, (places l' departed).count m = (l.queue ++ l.inFlightMessages ++ arrived).count m
  owed : l'.owed.Sublist (l.owed ++ arrived)
  bounded : l.queue.length ≤ maxListenerQueue → l'.queue.length ≤ maxListenerQueue
  ackMode : l'.ackMode = true

namespace AgentListener
variable {l : AgentListener}

theorem inFlightMessages_of_some {batch : Batch} (flying : l.inFlight = some batch) :
    l.inFlightMessages = batch.messages := by
  simp [inFlightMessages, flying]

theorem inFlightMessages_of_none (landed : l.inFlight = none) : l.inFlightMessages = [] := by
  simp [inFlightMessages, landed]

theorem moves_refl (acks : l.ackMode = true) {l' : AgentListener} (queue : l'.queue = l.queue)
    (inFlight : l'.inFlight = l.inFlight) (ackMode : l'.ackMode = l.ackMode) : Moves l [] l' .none := by
  have flying : l'.inFlightMessages = l.inFlightMessages := by rw [inFlightMessages, inFlightMessages, inFlight]
  refine ⟨fun m => ?_, ?_, fun bound => queue ▸ bound, ackMode.trans acks⟩
  · simp [places, Departed.none, queue, flying]
  · simp [owed, queue, flying]

theorem onMessage_moves (acks : l.ackMode = true) (msg : QueuedMessage) :
    Moves l [msg] (l.onMessage msg).1 (l.onMessage msg).2 := by
  unfold onMessage
  split
  · refine ⟨fun m => ?_, ?_, id, acks⟩
    · simp only [places, Departed.none, inFlightMessages, List.append_nil]
    · exact List.sublist_append_left _ _
  · split
    · rename_i full
      refine ⟨fun m => ?_, ?_, fun bound => ?_, acks⟩
      · have split := congrArg (List.count m) (List.take_append_drop 1 l.queue)
        simp only [places, Departed.none, inFlightMessages, List.count_append, List.count_nil] at split ⊢
        omega
      · simp only [owed, inFlightMessages, List.append_assoc]
        exact List.Sublist.append_left (List.Sublist.append_right (List.drop_sublist 1 l.queue) _) _
      · simp only [List.length_append, List.length_drop, List.length_singleton]
        have room : 0 < maxListenerQueue := by decide
        omega
    · rename_i room
      refine ⟨fun m => ?_, ?_, fun _ => ?_, acks⟩
      · simp only [places, Departed.none, inFlightMessages, List.count_append, List.count_nil]
        omega
      · simp [owed, inFlightMessages]
      · simp only [List.length_append, List.length_singleton]
        omega

theorem waitForMessage_moves (acks : l.ackMode = true) (caller : Nat) :
    Moves l [] (l.waitForMessage caller).1 (l.waitForMessage caller).2 := by
  unfold waitForMessage
  split
  · rename_i oldest rest shape
    refine ⟨fun m => ?_, ?_, fun bound => ?_, acks⟩
    · have split : l.queue.count m = [oldest].count m + rest.count m := by
        rw [shape, ← List.count_append]
        rfl
      simp only [places, Departed.none, inFlightMessages, List.count_append, List.count_nil, split]
      omega
    · simp only [owed, inFlightMessages, shape, List.append_nil]
      exact List.Sublist.append_left (List.sublist_cons_self oldest rest) _
    · rw [shape] at bound
      exact Nat.le_of_succ_le bound
  · exact moves_refl acks rfl rfl rfl

theorem waitTimeout_moves (acks : l.ackMode = true) (caller : Nat) : Moves l [] (l.waitTimeout caller) .none := by
  unfold waitTimeout
  split
  · exact moves_refl acks rfl rfl rfl
  · exact moves_refl acks rfl rfl rfl

/-- The batch in flight is acknowledged as a whole. -/
theorem acknowledge_moves (acks : l.ackMode = true) {batch : Batch} (flying : l.inFlight = some batch) :
    Moves l [] { l with inFlight := none } { Departed.none with acknowledged := batch.messages } := by
  refine ⟨fun m => ?_, ?_, id, acks⟩
  · rw [inFlightMessages_of_some flying]
    simp [places, Departed.none, inFlightMessages]
  · simp [owed, inFlightMessages]

theorem ackBatch_moves (acks : l.ackMode = true) (batchId : Nat) :
    Moves l [] (l.ackBatch batchId).1 (l.ackBatch batchId).2.1 := by
  unfold ackBatch
  split
  · exact moves_refl acks rfl rfl rfl
  · rename_i batch flying
    split
    · exact moves_refl acks rfl rfl rfl
    · exact acknowledge_moves acks flying

theorem settleInFlight_moves (acks : l.ackMode = true) (ack : Option Nat) :
    Moves l [] (l.settleInFlight ack).1 (l.settleInFlight ack).2 ∧ (l.settleInFlight ack).1.inFlight = none := by
  unfold settleInFlight
  split
  · rename_i landed
    exact ⟨moves_refl acks rfl rfl rfl, landed⟩
  · rename_i batch flying
    split
    · exact ⟨acknowledge_moves acks flying, rfl⟩
    · split
      · rename_i forgets
        simp [acks] at forgets
      · refine ⟨⟨fun m => ?_, ?_, fun _ => trimQueue_length _, acks⟩, rfl⟩
        · have split := congrArg (List.count m) (trimQueue_append (batch.messages ++ l.queue))
          rw [inFlightMessages_of_some flying]
          simp only [places, Departed.none, inFlightMessages, List.count_append, List.count_nil, Option.map_none,
            Option.getD_none] at split ⊢
          omega
        · rw [List.append_nil, owed, owed, inFlightMessages_of_some flying]
          exact trimQueue_sublist _

theorem drain_moves (acks : l.ackMode = true) (landed : l.inFlight = none) (id : Nat) :
    Moves l [] (l.drain id).1 .none := by
  unfold drain
  split
  · exact moves_refl acks rfl rfl rfl
  · split
    · rename_i forgets
      simp [acks] at forgets
    · refine ⟨fun m => ?_, ?_, fun _ => Nat.zero_le _, acks⟩
      · rw [inFlightMessages_of_none landed]
        simp [places, Departed.none, inFlightMessages]
      · simp only [owed, inFlightMessages_of_none landed]
        simp [inFlightMessages]

end AgentListener

theorem Departed.append_none (d : Departed) : d.append .none = d := by
  simp [append, none]

theorem count_places_append (l : AgentListener) (earlier later : Departed) (m : QueuedMessage) :
    (places l (earlier.append later)).count m =
      (places l later).count m + (earlier.acknowledged ++ earlier.resolved ++ earlier.queueFull).count m := by
  simp only [places, Departed.append, List.count_append]
  omega

theorem Moves.trans {l l' l'' : AgentListener} {arrived : List QueuedMessage} {earlier later : Departed}
    (first : Moves l arrived l' earlier) (second : Moves l' [] l'' later) :
    Moves l arrived l'' (earlier.append later) where
  count m := by
    have before := first.count m
    have after := second.count m
    rw [count_places_append]
    simp only [places, List.count_append, List.count_nil] at before after ⊢
    omega
  owed := by
    have kept := second.owed
    rw [List.append_nil] at kept
    exact kept.trans first.owed
  bounded bound := second.bounded (first.bounded bound)
  ackMode := second.ackMode

/-- A drain settles the batch in flight and hands out what is queued then. -/
theorem AgentListener.getQueuedMessages_moves {l : AgentListener} {requireAck : Bool}
    (acks : (l.ackMode || requireAck) = true) (ack : Option Nat) (id : Nat) :
    Moves l [] (l.getQueuedMessages requireAck ack id).1 (l.getQueuedMessages requireAck ack id).2.1 := by
  let asked : AgentListener := { l with ackMode := l.ackMode || requireAck }
  obtain ⟨settles, landed⟩ := settleInFlight_moves (l := asked) acks ack
  have drains := drain_moves settles.ackMode landed id
  have moves := settles.trans drains
  rw [Departed.append_none] at moves
  exact ⟨moves.count, moves.owed, moves.bounded, moves.ackMode⟩

namespace Mailbox
variable {w : Mailbox}

/-- The invariant of a listener in ack mode. -/
structure Kept (w : Mailbox) : Prop where
  ackMode : w.listener.ackMode = true
  count : ∀ m, (places w.listener w.departed).count m = w.accepted.count m
  numbered : w.accepted.map QueuedMessage.arrival = List.range w.accepted.length
  ordered : w.listener.owed.Pairwise fun a b => a.arrival < b.arrival
  bounded : w.listener.queue.length ≤ maxListenerQueue

theorem Kept.arrival_lt (kept : Kept w) {m : QueuedMessage} (owed : m ∈ w.listener.owed) :
    m.arrival < w.accepted.length := by
  have held : m ∈ places w.listener w.departed := by
    rw [AgentListener.owed, List.mem_append] at owed
    simp only [places, List.mem_append]
    exact .inl (.inl (.inl owed.symm))
  have accepted : m ∈ w.accepted := by
    rw [← List.count_pos_iff, ← kept.count m]
    exact List.count_pos_iff.mpr held
  have listed := List.mem_map_of_mem (f := QueuedMessage.arrival) accepted
  rw [kept.numbered] at listed
  exact List.mem_range.mp listed

/-- One operation, with the messages that arrive with it. -/
theorem Kept.moves (kept : Kept w) {arrived : List QueuedMessage} {listener : AgentListener} {departed : Departed}
    (draws : Nat) (moves : Moves w.listener arrived listener departed)
    (numbered : (w.accepted ++ arrived).map QueuedMessage.arrival = List.range (w.accepted ++ arrived).length)
    (ordered : (w.listener.owed ++ arrived).Pairwise fun a b => a.arrival < b.arrival) :
    Kept ⟨listener, draws, w.accepted ++ arrived, w.departed.append departed⟩ where
  ackMode := moves.ackMode
  count m := by
    have before := kept.count m
    have moved := moves.count m
    rw [count_places_append]
    simp only [places, List.count_append] at before moved ⊢
    omega
  numbered := numbered
  ordered := ordered.sublist moves.owed
  bounded := moves.bounded kept.bounded

theorem Kept.quiet (kept : Kept w) {listener : AgentListener} {departed : Departed} (draws : Nat)
    (moves : Moves w.listener [] listener departed) :
    Kept ⟨listener, draws, w.accepted, w.departed.append departed⟩ := by
  have still := kept.moves draws moves (by simpa using kept.numbered) (by simpa using kept.ordered)
  rwa [List.append_nil] at still

theorem Kept.step (kept : Kept w) (event : MailboxEvent) : Kept (w.step event) := by
  cases event with
  | message topic payload timestamp =>
    let msg : QueuedMessage := ⟨w.accepted.length, topic, payload, timestamp⟩
    refine kept.moves w.draws (AgentListener.onMessage_moves kept.ackMode msg) ?_ ?_
    · rw [List.map_append, kept.numbered, List.length_append, List.length_singleton, List.range_succ]
      rfl
    · refine List.pairwise_append.mpr ⟨kept.ordered, List.pairwise_singleton _ _, ?_⟩
      intro a owed b new
      obtain rfl := List.mem_singleton.mp new
      exact kept.arrival_lt owed
  | waitForMessage => exact kept.quiet _ (AgentListener.waitForMessage_moves kept.ackMode w.draws)
  | waitTimeout caller =>
    have still := kept.quiet w.draws (AgentListener.waitTimeout_moves kept.ackMode caller)
    rwa [Departed.append_none] at still
  | getQueuedMessages requireAck ack =>
    refine kept.quiet _ (AgentListener.getQueuedMessages_moves ?_ ack w.draws)
    rw [kept.ackMode, Bool.true_or]
  | ackBatch batchId => exact kept.quiet _ (AgentListener.ackBatch_moves kept.ackMode batchId)

theorem Run.kept {w' : Mailbox} (run : Run w w') (kept : Kept w) : Kept w' :=
  run.invariant (P := Kept) (fun _ event kept _ => kept.step event) kept

theorem Kept.conserved (kept : Kept w) : Conserved w := by
  have distinct : w.accepted.Nodup := by
    refine List.Nodup.of_map QueuedMessage.arrival ?_
    rw [kept.numbered]
    exact List.nodup_range
  refine ⟨?_, ?_, kept.ordered, ?_, kept.bounded⟩
  · intro m accepted
    rw [kept.count m]
    exact List.count_eq_one_of_mem distinct accepted
  · intro m held
    rw [← List.count_pos_iff, ← kept.count m]
    exact List.count_pos_iff.mpr held
  · refine kept.ordered.imp ?_
    intro a b before same
    rw [same] at before
    exact Nat.lt_irrefl _ before

/-- Nothing has arrived yet. -/
structure Untouched (w : Mailbox) : Prop where
  queue : w.listener.queue = []
  inFlight : w.listener.inFlight = none
  accepted : w.accepted = []
  departed : w.departed = .none

def isMessage : MailboxEvent → Bool
  | .message _ _ _ => true
  | _ => false

theorem Untouched.step (untouched : Untouched w) {event : MailboxEvent} (silent : isMessage event = false) :
    Untouched (w.step event) := by
  obtain ⟨⟨queue, waitResolve, inFlight, ackMode⟩, draws, accepted, departed⟩ := w
  obtain ⟨rfl, rfl, rfl, rfl⟩ := untouched
  cases event with
  | message => cases silent
  | waitForMessage => exact ⟨rfl, rfl, rfl, rfl⟩
  | waitTimeout caller =>
    simp only [Mailbox.step, AgentListener.waitTimeout]
    split <;> exact ⟨rfl, rfl, rfl, rfl⟩
  | getQueuedMessages requireAck ack => exact ⟨rfl, rfl, rfl, rfl⟩
  | ackBatch batchId => exact ⟨rfl, rfl, rfl, rfl⟩

theorem Untouched.kept (untouched : Untouched w) (ack : Option Nat) :
    Kept (w.step (.getQueuedMessages true ack)) := by
  obtain ⟨⟨queue, waitResolve, inFlight, ackMode⟩, draws, accepted, departed⟩ := w
  obtain ⟨rfl, rfl, rfl, rfl⟩ := untouched
  exact ⟨Bool.or_true ackMode, fun _ => rfl, rfl, .nil, Nat.zero_le _⟩

/-- A listener that was drained with `requireAck` before anything arrived
loses and duplicates nothing, in every run. -/
theorem ackMode_conserves {before w : Mailbox} {ack : Option Nat}
    (silent : GuardedRun step (fun _ event => isMessage event = false) registered before)
    (run : Run (before.step (.getQueuedMessages true ack)) w) : Conserved w := by
  have untouched : Untouched before :=
    silent.invariant (P := Untouched) (fun _ _ untouched quiet => untouched.step quiet) ⟨rfl, rfl, rfl, rfl⟩
  exact (run.kept (untouched.kept ack)).conserved

/-- Two messages are handed out, a third comes, the batch is drained again
unacknowledged and then acknowledged, and a waiting call takes the fourth. -/
theorem ackMode_conserves_redelivery :
    let w := [MailboxEvent.message "t" "a" 1, .message "t" "b" 2, .getQueuedMessages false none, .message "t" "c" 3,
      .getQueuedMessages false (some 0), .ackBatch 2, .waitForMessage, .message "t" "d" 4].foldl step
      (registered.step (.getQueuedMessages true none))
    w.departed.acknowledged.map QueuedMessage.arrival = [0, 1, 2] ∧
      w.departed.resolved.map QueuedMessage.arrival = [3] ∧ Conserved w := by
  intro w
  have run : Run (registered.step (.getQueuedMessages true none)) w := .of_inputs fun _ _ => trivial
  exact ⟨by decide, by decide, ackMode_conserves (.start _) run⟩

end Mailbox

end Coordinator
