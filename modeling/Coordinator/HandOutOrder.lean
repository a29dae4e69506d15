import Coordinator.MqttListener

namespace Coordinator

/-- What a step hands to the consumer: the result of a `waitForMessage` call,
at once or when a message comes, or a drained batch. -/
def Mailbox.handsOut (w : Mailbox) : MailboxEvent → List QueuedMessage
  | .message topic payload timestamp =>
    (w.listener.onMessage ⟨w.accepted.length, topic, payload, timestamp⟩).2.resolved
  | .waitForMessage => (w.listener.waitForMessage w.draws).2.resolved
  | .waitTimeout _ => []
  | .getQueuedMessages requireAck ack => (w.listener.getQueuedMessages requireAck ack w.draws).2.2.1
  | .ackBatch _ => []

/-- A listener with what it handed to its consumer, one entry for each call that
was given messages, and whether `waitForMessage` was given one since the last drain. -/
structure HandOuts where
  mailbox : Mailbox
  handedOut : List (List QueuedMessage)
  served : Bool
  deriving DecidableEq, Repr

theorem trimQueue_eq_drop (queue : List QueuedMessage) :
    (trimQueue queue).1 = queue.drop (queue.length - maxListenerQueue) := by
  induction queue with
  | nil => rfl
  | cons oldest rest ih =>
    rw [trimQueue]
    split
    · rename_i long
      have excess : (oldest :: rest).length - maxListenerQueue = rest.length - maxListenerQueue + 1 := by
        rw [List.length_cons] at long ⊢
        omega
      rw [excess, List.drop_succ_cons]
      exact ih
    · rename_i short
      rw [Nat.sub_eq_zero_of_le (Nat.not_lt.mp short), List.drop_zero]

/-- A full queue leaves no room for what is put back in front of it. -/
theorem trimQueue_full {front queue : List QueuedMessage} (full : maxListenerQueue ≤ queue.length) {m : QueuedMessage}
    (kept : m ∈ (trimQueue (front ++ queue)).1) : m ∈ queue := by
  have past : (front ++ queue).length - maxListenerQueue = front.length + (queue.length - maxListenerQueue) := by
    rw [List.length_append]
    omega
  rw [trimQueue_eq_drop, past, List.drop_length_add_append] at kept
  exact List.mem_of_mem_drop kept

theorem trimQueue_room {front queue : List QueuedMessage} (room : queue.length < maxListenerQueue)
    (nonempty : front ≠ []) : ∃ m ∈ front, m ∈ (trimQueue (front ++ queue)).1 := by
  rcases List.eq_nil_or_concat front with empty | ⟨init, last, rfl⟩
  · exact absurd empty nonempty
  · have before : (init ++ [last] ++ queue).length - maxListenerQueue ≤ init.length := by
      rw [List.length_append, List.length_append, List.length_singleton]
      omega
    rw [List.concat_eq_append]
    refine ⟨last, by simp, ?_⟩
    rw [trimQueue_eq_drop]
    generalize (init ++ [last] ++ queue).length - maxListenerQueue = excess at before ⊢
    rw [List.append_assoc, List.drop_append_of_le_length before]
    simp

namespace AgentListener
variable {l : AgentListener}

/-- The queue that is drained: as it is, or behind the batch that is put back. -/
theorem settleInFlight_queue (acks : ∀ batch ∈ l.inFlight, l.ackMode = true) (ack : Option Nat) :
    (l.settleInFlight ack).1.queue = l.queue ∧ (∀ batch ∈ l.inFlight, ack = some batch.id) ∨
      ∃ batch ∈ l.inFlight, ack ≠ some batch.id ∧
        (l.settleInFlight ack).1.queue = (trimQueue (batch.messages ++ l.queue)).1 := by
  unfold settleInFlight
  split
  · rename_i landed
    exact .inl ⟨rfl, by simp [landed]⟩
  · rename_i batch flying
    have acking := acks batch flying
    split
    · rename_i named
      refine .inl ⟨rfl, ?_⟩
      intro other held
      obtain rfl := Option.some.inj (flying.symm.trans held)
      exact named
    · rename_i unnamed
      rw [acking]
      exact .inr ⟨batch, flying, unnamed, rfl⟩

theorem settleInFlight_rest (l : AgentListener) (ack : Option Nat) :
    (l.settleInFlight ack).1.inFlight = none ∧ (l.settleInFlight ack).1.ackMode = l.ackMode := by
  unfold settleInFlight
  split
  · exact ⟨‹_›, rfl⟩
  · split
    · exact ⟨rfl, rfl⟩
    · split <;> exact ⟨rfl, rfl⟩

theorem drain_spec (landed : l.inFlight = none) (id : Nat) :
    (l.drain id).1.queue = [] ∧ (l.drain id).2.1 = l.queue ∧ (l.drain id).1.ackMode = l.ackMode ∧
      ∀ batch ∈ (l.drain id).1.inFlight, l.ackMode = true ∧ batch.messages = l.queue ∧ l.queue ≠ [] := by
  unfold drain
  split
  · rename_i empty
    exact ⟨empty, empty.symm, rfl, by simp [landed]⟩
  · rename_i nonempty
    split
    · exact ⟨rfl, rfl, rfl, by simp [landed]⟩
    · rename_i acking
      refine ⟨rfl, rfl, rfl, ?_⟩
      intro batch held
      obtain rfl := Option.some.inj held
      exact ⟨by simpa using acking, rfl, nonempty⟩

/-- What a drain hands out and leaves, for a listener that holds a batch only in ack mode. -/
theorem getQueuedMessages_spec (acks : ∀ batch ∈ l.inFlight, l.ackMode = true) (requireAck : Bool) (ack : Option Nat)
    (id : Nat) :
    let after := l.getQueuedMessages requireAck ack id
    after.1.queue = [] ∧
      (∀ batch ∈ after.1.inFlight, after.1.ackMode = true ∧ batch.messages = after.2.2.1 ∧ after.2.2.1 ≠ []) ∧
      (after.2.2.1 = l.queue ∧ (∀ batch ∈ l.inFlight, ack = some batch.id) ∨
        ∃ batch ∈ l.inFlight, ack ≠ some batch.id ∧ after.2.2.1 = (trimQueue (batch.messages ++ l.queue)).1) := by
  intro after
  let asked : AgentListener := { l with ackMode := l.ackMode || requireAck }
  have asking : ∀ batch ∈ asked.inFlight, asked.ackMode = true := by
    intro batch held
    simp only [asked, acks batch held, Bool.true_or]
  have settles := settleInFlight_queue asking ack
  obtain ⟨landed, -⟩ := settleInFlight_rest asked ack
  obtain ⟨emptied, handed, mode, flying⟩ := drain_spec landed id
  have out : after.2.2.1 = (asked.settleInFlight ack).1.queue := handed
  rw [out]
  exact ⟨emptied, fun batch held => ⟨mode.trans (flying batch held).1, (flying batch held).2⟩, settles⟩

end AgentListener

namespace HandOuts

def registered : HandOuts := ⟨.registered, [], false⟩

def isDrain : MailboxEvent → Bool
  | .getQueuedMessages _ _ => true
  | _ => false

/-- A call that is given nothing leaves no entry. -/
def record (log : List (List QueuedMessage)) (out : List QueuedMessage) : List (List QueuedMessage) :=
  if out = [] then log else log ++ [out]

def step (w : HandOuts) (event : MailboxEvent) : HandOuts :=
  let out := w.mailbox.handsOut event
  ⟨w.mailbox.step event, record w.handedOut out, !isDrain event && (w.served || !out.isEmpty)⟩

/-- Nothing is handed out again after a message that arrived later was. A
batch is handed out as one, so what is in one entry overtakes nothing in it. -/
def NoOvertaking (log : List (List QueuedMessage)) : Prop :=
  ∀ earlier batch, earlier ++ [batch] <+: log → ∀ m ∈ batch, m ∈ earlier.flatten →
    ∀ entry ∈ earlier, m ∉ entry → ∀ later ∈ entry, ¬ m.arrival < later.arrival

/-- A drain that puts the batch in flight back comes before any `waitForMessage`
that was given a message since, or finds the queue so full that none of the batch is kept. -/
def DrainsInTurn (w : HandOuts) : MailboxEvent → Prop
  | .getQueuedMessages _ ack => ∀ batch ∈ w.mailbox.listener.inFlight,
      ack = some batch.id ∨ w.served = false ∨ maxListenerQueue ≤ w.mailbox.listener.queue.length
  | _ => True

/-- Every message of the batch comes before what was handed out without it. -/
def InTurn (log : List (List QueuedMessage)) (batch : List QueuedMessage) : Prop :=
  ∀ m ∈ batch, ∀ entry ∈ log, m ∉ entry → ∀ other ∈ entry, other.arrival < m.arrival

variable {log : List (List QueuedMessage)} {batch : List QueuedMessage}

theorem NoOvertaking.of_append (order : NoOvertaking (log ++ [batch])) : NoOvertaking log := by
  intro earlier next start
  exact order earlier next (start.trans (List.prefix_append log [batch]))

theorem NoOvertaking.append (order : NoOvertaking log) (turn : InTurn log batch) :
    NoOvertaking (log ++ [batch]) := by
  intro earlier next start m handed _ entry listed apart later member overtaken
  rcases List.prefix_concat_iff.mp start with whole | short
  · obtain ⟨rfl, same⟩ := List.append_inj' whole rfl
    obtain rfl := List.singleton_inj.mp same
    have before := turn m handed entry listed apart later member
    omega
  · exact order earlier next short m handed ‹_› entry listed apart later member overtaken

/-- How the queue and the batch in flight lie behind what was handed out; `count`
messages have arrived. -/
structure Arranged (l : AgentListener) (count : Nat) (log : List (List QueuedMessage)) (served : Bool) : Prop where
  acks : ∀ batch ∈ l.inFlight, l.ackMode = true
  waits : ∀ caller ∈ l.waitResolve, l.queue = []
  queued : ∀ m ∈ l.queue, m.arrival < count
  known : ∀ entry ∈ log, ∀ m ∈ entry, m.arrival < count
  sorted : l.queue.Pairwise fun a b => a.arrival < b.arrival
  behind : ∀ entry ∈ log, ∀ m ∈ entry, ∀ q ∈ l.queue, m.arrival < q.arrival
  flying : ∀ batch ∈ l.inFlight, batch.messages ≠ [] ∧ batch.messages ∈ log
  passed : ∀ batch ∈ l.inFlight, served = true → ∃ last, [last] ∈ log ∧ ∀ m ∈ batch.messages, m.arrival < last.arrival
  turn : ∀ batch ∈ l.inFlight, served = false → InTurn log batch.messages
  order : NoOvertaking log

namespace Arranged
variable {l : AgentListener} {count : Nat} {served : Bool}

/-- A message later than everything handed out goes to a `waitForMessage` call. -/
theorem serve (arranged : Arranged l count log served) (msg : QueuedMessage) (queue : List QueuedMessage) {next : Nat}
    (grows : count ≤ next) (fresh : msg.arrival < next) (after : ∀ entry ∈ log, ∀ m ∈ entry, m.arrival < msg.arrival)
    (rest : queue.Sublist l.queue) (before : ∀ q ∈ queue, msg.arrival < q.arrival) :
    Arranged { l with queue := queue, waitResolve := none } next (log ++ [[msg]]) true where
  acks := arranged.acks
  waits _ waiting := by simp at waiting
  queued m member := Nat.lt_of_lt_of_le (arranged.queued m (rest.subset member)) grows
  known entry listed m member := by
    rcases List.mem_append.mp listed with old | new
    · exact Nat.lt_of_lt_of_le (arranged.known entry old m member) grows
    · obtain rfl := List.mem_singleton.mp new
      obtain rfl := List.mem_singleton.mp member
      exact fresh
  sorted := arranged.sorted.sublist rest
  behind entry listed m member q queued := by
    rcases List.mem_append.mp listed with old | new
    · exact arranged.behind entry old m member q (rest.subset queued)
    · obtain rfl := List.mem_singleton.mp new
      obtain rfl := List.mem_singleton.mp member
      exact before q queued
  flying batch held := ⟨(arranged.flying batch held).1, List.mem_append_left _ (arranged.flying batch held).2⟩
  passed batch held _ := by
    refine ⟨msg, List.mem_append_right _ (List.mem_singleton_self _), ?_⟩
    intro m member
    exact after _ (arranged.flying batch held).2 m member
  turn _ _ unserved := by cases unserved
  order := by
    refine arranged.order.append ?_
    intro m member entry listed _ other handed
    obtain rfl := List.mem_singleton.mp member
    exact after entry listed other handed

/-- The queue, with what was put back at its front, is handed out as a batch. -/
theorem hand (arranged : Arranged l count log served) {l' : AgentListener} {out : List QueuedMessage}
    (emptied : l'.queue = []) (acks : ∀ batch ∈ l'.inFlight, l'.ackMode = true ∧ batch.messages = out)
    (known : ∀ m ∈ out, m.arrival < count) (nonempty : out ≠ []) (turn : InTurn log out) :
    Arranged l' count (log ++ [out]) false where
  acks batch held := (acks batch held).1
  waits _ _ := emptied
  queued := by simp [emptied]
  known entry listed m member := by
    rcases List.mem_append.mp listed with old | new
    · exact arranged.known entry old m member
    · obtain rfl := List.mem_singleton.mp new
      exact known m member
  sorted := by simp [emptied]
  behind := by simp [emptied]
  flying batch held := by
    rw [(acks batch held).2]
    exact ⟨nonempty, List.mem_append_right _ (List.mem_singleton_self _)⟩
  passed _ _ served := by cases served
  turn batch held _ := by
    rw [(acks batch held).2]
    intro m member entry listed apart other handed
    rcases List.mem_append.mp listed with old | new
    · exact turn m member entry old apart other handed
    · obtain rfl := List.mem_singleton.mp new
      exact absurd member apart
  order := arranged.order.append turn

/-- Nothing is handed out: what is queued lies behind the log, and the batch in flight stays or is settled. -/
theorem still (arranged : Arranged l count log served) {l' : AgentListener} {next : Nat} (grows : count ≤ next)
    (ackMode : l'.ackMode = l.ackMode) (inFlight : ∀ batch ∈ l'.inFlight, batch ∈ l.inFlight)
    (waits : ∀ caller ∈ l'.waitResolve, l'.queue = []) (queued : ∀ m ∈ l'.queue, m.arrival < next)
    (sorted : l'.queue.Pairwise fun a b => a.arrival < b.arrival)
    (behind : ∀ entry ∈ log, ∀ m ∈ entry, ∀ q ∈ l'.queue, m.arrival < q.arrival) : Arranged l' next log served where
  acks batch held := ackMode ▸ arranged.acks batch (inFlight batch held)
  waits := waits
  queued := queued
  known entry listed m member := Nat.lt_of_lt_of_le (arranged.known entry listed m member) grows
  sorted := sorted
  behind := behind
  flying batch held := arranged.flying batch (inFlight batch held)
  passed batch held := arranged.passed batch (inFlight batch held)
  turn batch held := arranged.turn batch (inFlight batch held)
  order := arranged.order

/-- The queue and what was handed out are as they were. -/
theorem unchanged (arranged : Arranged l count log served) (l' : AgentListener) (queue : l'.queue = l.queue)
    (ackMode : l'.ackMode = l.ackMode) (inFlight : ∀ batch ∈ l'.inFlight, batch ∈ l.inFlight)
    (waits : ∀ caller ∈ l'.waitResolve, l'.queue = []) : Arranged l' count log served := by
  refine arranged.still (Nat.le_refl count) ackMode inFlight waits ?_ ?_ ?_
  · exact queue ▸ arranged.queued
  · exact queue ▸ arranged.sorted
  · exact queue ▸ arranged.behind

theorem onMessage (arranged : Arranged l count log served) (topic payload : String) (timestamp : Int) :
    let after := l.onMessage ⟨count, topic, payload, timestamp⟩
    Arranged after.1 (count + 1) (record log after.2.resolved) (served || !after.2.resolved.isEmpty) := by
  intro after
  unfold after AgentListener.onMessage
  split
  · rename_i caller waiting
    have empty := arranged.waits caller waiting
    have served := arranged.serve ⟨count, topic, payload, timestamp⟩ l.queue (Nat.le_succ count)
      (Nat.lt_succ_self count) arranged.known (List.Sublist.refl _) (by simp [empty])
    simpa [record] using served
  · rename_i idle
    have joins : ∀ queue : List QueuedMessage, queue.Sublist l.queue →
        Arranged { l with queue := queue ++ [⟨count, topic, payload, timestamp⟩] } (count + 1) log served := by
      intro queue kept
      refine arranged.still (Nat.le_succ count) rfl (fun _ held => held) (by simp [idle]) ?_ ?_ ?_
      · intro m member
        rcases List.mem_append.mp member with old | new
        · exact Nat.lt_succ_of_lt (arranged.queued m (kept.subset old))
        · obtain rfl := List.mem_singleton.mp new
          exact Nat.lt_succ_self count
      · refine List.pairwise_append.mpr ⟨arranged.sorted.sublist kept, List.pairwise_singleton _ _, ?_⟩
        intro m member q new
        obtain rfl := List.mem_singleton.mp new
        exact arranged.queued m (kept.subset member)
      · intro entry listed m member q queued
        rcases List.mem_append.mp queued with old | new
        · exact arranged.behind entry listed m member q (kept.subset old)
        · obtain rfl := List.mem_singleton.mp new
          exact arranged.known entry listed m member
    split
    · simpa [record, Departed.none] using joins _ (List.drop_sublist 1 l.queue)
    · simpa [record, Departed.none] using joins _ (List.Sublist.refl _)

theorem waitForMessage (arranged : Arranged l count log served) (caller : Nat) :
    let after := l.waitForMessage caller
    Arranged after.1 count (record log after.2.resolved) (served || !after.2.resolved.isEmpty) := by
  intro after
  unfold after AgentListener.waitForMessage
  split
  · rename_i oldest rest shape
    have sorted := arranged.sorted
    rw [shape, List.pairwise_cons] at sorted
    have first : oldest ∈ l.queue := by simp [shape]
    have served := arranged.serve oldest rest (Nat.le_refl count) (arranged.queued oldest first)
      (fun entry listed m member => arranged.behind entry listed m member oldest first)
      (shape ▸ List.sublist_cons_self oldest rest) sorted.1
    have idle : l.waitResolve = none := by
      refine Option.eq_none_iff_forall_not_mem.mpr ?_
      intro waiting held
      rw [arranged.waits waiting held] at shape
      cases shape
    rw [← idle] at served
    simpa [record] using served
  · rename_i empty
    simpa [record, Departed.none] using arranged.unchanged { l with waitResolve := some caller } rfl rfl
      (fun _ held => held) (fun _ _ => empty)

theorem waitTimeout (arranged : Arranged l count log served) (caller : Nat) :
    Arranged (l.waitTimeout caller) count log served := by
  unfold AgentListener.waitTimeout
  split
  · exact arranged.unchanged _ rfl rfl (fun _ held => held) (by simp)
  · exact arranged

theorem ackBatch (arranged : Arranged l count log served) (batchId : Nat) :
    Arranged (l.ackBatch batchId).1 count log served := by
  unfold AgentListener.ackBatch
  split
  · exact arranged
  · split
    · exact arranged
    · exact arranged.unchanged _ rfl rfl (by simp) arranged.waits

theorem inTurn_queue (arranged : Arranged l count log served) : InTurn log l.queue :=
  fun m queued entry listed _ other handed => arranged.behind entry listed other handed m queued

/-- A batch that nothing was handed out behind, or that a full queue pushes out, is put back in turn. -/
theorem inTurn_putBack (arranged : Arranged l count log served) {batch : Batch} (held : batch ∈ l.inFlight)
    (guarded : served = false ∨ maxListenerQueue ≤ l.queue.length) :
    InTurn log (trimQueue (batch.messages ++ l.queue)).1 := by
  intro m kept
  rcases guarded with unserved | full
  · rcases List.mem_append.mp ((trimQueue_sublist _).subset kept) with back | queued
    · exact arranged.turn batch held unserved m back
    · exact arranged.inTurn_queue m queued
  · exact arranged.inTurn_queue m (trimQueue_full full kept)

theorem putBack_lt (arranged : Arranged l count log served) {batch : Batch} (held : batch ∈ l.inFlight)
    {m : QueuedMessage} (kept : m ∈ (trimQueue (batch.messages ++ l.queue)).1) : m.arrival < count := by
  rcases List.mem_append.mp ((trimQueue_sublist _).subset kept) with back | queued
  · exact arranged.known batch.messages (arranged.flying batch held).2 m back
  · exact arranged.queued m queued

theorem getQueuedMessages (arranged : Arranged l count log served) (requireAck : Bool) (ack : Option Nat) (id : Nat)
    (guarded : ∀ batch ∈ l.inFlight, ack = some batch.id ∨ served = false ∨ maxListenerQueue ≤ l.queue.length) :
    let after := l.getQueuedMessages requireAck ack id
    Arranged after.1 count (record log after.2.2.1) false := by
  intro after
  obtain ⟨emptied, flying, source⟩ := AgentListener.getQueuedMessages_spec arranged.acks requireAck ack id
  have known : ∀ m ∈ after.2.2.1, m.arrival < count := by
    rcases source with ⟨whole, -⟩ | ⟨batch, held, -, whole⟩
    · exact whole ▸ arranged.queued
    · exact whole ▸ fun m kept => arranged.putBack_lt held kept
  have turn : InTurn log after.2.2.1 := by
    rcases source with ⟨whole, -⟩ | ⟨batch, held, unnamed, whole⟩
    · exact whole ▸ arranged.inTurn_queue
    · exact whole ▸ arranged.inTurn_putBack held ((guarded batch held).resolve_left unnamed)
  unfold record
  split
  · rename_i nothing
    have landed : ∀ batch, batch ∉ after.1.inFlight := fun batch held => (flying batch held).2.2 nothing
    have none : ∀ m, m ∉ after.1.queue := by
      intro m queued
      rw [show after.1.queue = [] from emptied] at queued
      cases queued
    refine ⟨?_, fun _ _ => emptied, fun m queued => absurd queued (none m), arranged.known, emptied ▸ .nil,
      fun _ _ _ _ q queued => absurd queued (none q), ?_, ?_, ?_, arranged.order⟩
    all_goals exact fun batch held => absurd held (landed batch)
  · rename_i something
    exact arranged.hand emptied (fun batch held => ⟨(flying batch held).1, (flying batch held).2.1⟩) known something turn

/-- A drain after which nothing was overtaken met the guard. -/
theorem getQueuedMessages_forced (arranged : Arranged l count log served) (requireAck : Bool) (ack : Option Nat)
    (id : Nat) (order : NoOvertaking (record log (l.getQueuedMessages requireAck ack id).2.2.1)) :
    ∀ batch ∈ l.inFlight, ack = some batch.id ∨ served = false ∨ maxListenerQueue ≤ l.queue.length := by
  intro batch held
  by_contra overtakes
  rw [not_or, not_or, Bool.not_eq_false, Nat.not_le] at overtakes
  obtain ⟨unnamed, passed, room⟩ := overtakes
  obtain ⟨nonempty, listed⟩ := arranged.flying batch held
  obtain ⟨last, later, before⟩ := arranged.passed batch held passed
  obtain ⟨m, back, kept⟩ := trimQueue_room room nonempty
  obtain ⟨-, -, source⟩ := AgentListener.getQueuedMessages_spec arranged.acks requireAck ack id
  rcases source with ⟨-, named⟩ | ⟨batch', held', -, whole⟩
  · exact unnamed (named batch held)
  · obtain rfl : batch = batch' := Option.some.inj (held.symm.trans held')
    rw [whole, record, if_neg (List.ne_nil_of_mem kept)] at order
    have handed : m ∈ log.flatten := List.mem_flatten.mpr ⟨batch.messages, listed, back⟩
    have arrives := before m back
    refine order log _ (List.prefix_refl _) m kept handed [last] later ?_ last (List.mem_singleton_self last) arrives
    intro same
    rw [List.mem_singleton.mp same] at arrives
    exact Nat.lt_irrefl _ arrives

end Arranged

def Kept (w : HandOuts) : Prop :=
  Arranged w.mailbox.listener w.mailbox.accepted.length w.handedOut w.served

theorem Kept.step {w : HandOuts} (kept : Kept w) {event : MailboxEvent} (guarded : w.DrainsInTurn event) :
    Kept (w.step event) := by
  cases event with
  | message topic payload timestamp =>
    have next := Arranged.onMessage kept topic payload timestamp
    rw [Kept, HandOuts.step, Mailbox.step]
    simpa [Mailbox.handsOut, isDrain] using next
  | waitForMessage => exact Arranged.waitForMessage kept w.mailbox.draws
  | waitTimeout caller =>
    have next := Arranged.waitTimeout kept caller
    simpa [Kept, HandOuts.step, Mailbox.step, Mailbox.handsOut, isDrain, record] using next
  | getQueuedMessages requireAck ack => exact Arranged.getQueuedMessages kept requireAck ack w.mailbox.draws guarded
  | ackBatch batchId =>
    have next := Arranged.ackBatch kept batchId
    simpa [Kept, HandOuts.step, Mailbox.step, Mailbox.handsOut, isDrain, record] using next

theorem Kept.forced {w : HandOuts} (kept : Kept w) {event : MailboxEvent}
    (order : NoOvertaking (w.step event).handedOut) : w.DrainsInTurn event := by
  cases event with
  | getQueuedMessages requireAck ack => exact Arranged.getQueuedMessages_forced kept requireAck ack w.mailbox.draws order
  | message => trivial
  | waitForMessage => trivial
  | waitTimeout => trivial
  | ackBatch => trivial

theorem NoOvertaking.before {w : HandOuts} {event : MailboxEvent} (order : NoOvertaking (w.step event).handedOut) :
    NoOvertaking w.handedOut := by
  rw [step, record] at order
  split at order
  · exact order
  · exact order.of_append

theorem registered_kept : Kept registered where
  acks _ held := by cases held
  waits _ _ := rfl
  queued _ queued := by cases queued
  known _ listed := by cases listed
  sorted := .nil
  behind _ listed := by cases listed
  flying _ held := by cases held
  passed _ held := by cases held
  turn _ held := by cases held
  order earlier batch start := by
    have empty := List.prefix_nil.mp start
    simp at empty

/-- A listener never lets a later message overtake a redelivered one exactly in
the runs that put no batch back behind a message `waitForMessage` was given meanwhile. -/
theorem noOvertaking_iff (events : List MailboxEvent) :
    NoOvertaking (events.foldl step registered).handedOut ↔ GuardedRun.Meets step DrainsInTurn registered events :=
  GuardedRun.Meets.iff_holds (Q := fun w => NoOvertaking w.handedOut) registered_kept (fun _ kept => kept.order)
    (fun _ _ kept guarded => kept.step guarded) (fun _ _ kept order => kept.forced order) (fun _ _ order => order.before)

/-- The batch is in flight, `waitForMessage` is given the message behind it, and the next drain hands the batch out
again. -/
theorem not_noOvertaking : ∃ events, ¬ NoOvertaking (List.foldl step registered events).handedOut := by
  refine ⟨[.getQueuedMessages true none, .message "t" "a" 1, .getQueuedMessages false none, .message "t" "b" 2,
    .waitForMessage, .getQueuedMessages false none], ?_⟩
  intro order
  exact order [[⟨0, "t", "a", 1⟩], [⟨1, "t", "b", 2⟩]] [⟨0, "t", "a", 1⟩] (by decide) ⟨0, "t", "a", 1⟩ (by decide)
    (by decide) [⟨1, "t", "b", 2⟩] (by decide) (by decide) ⟨1, "t", "b", 2⟩ (by decide) (by decide)

end HandOuts

end Coordinator
