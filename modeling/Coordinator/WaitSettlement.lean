import Coordinator.Library.Table
import Coordinator.MqttListener

namespace Coordinator

/-- A listener object. The closures of its timers keep it after `removeListener`
took it out of the map; `registered` says whether the map still holds it. -/
structure ListenerObject where
  orgId : String
  agentId : String
  listener : AgentListener
  registered : Bool
  deriving DecidableEq, Repr

inductive WaitTimer
  | none
  | running
  | fired
  deriving DecidableEq, Repr

/-- A `waitForMessage` call: the object it waits on, what its promise was
resolved with, and its timer, which only a call that blocks starts. -/
structure WaitCall where
  object : Nat
  outcome : Option (Option QueuedMessage)
  timer : WaitTimer
  deriving DecidableEq, Repr

/-- Objects and calls are known by their place in the lists. -/
structure Bridge where
  objects : List ListenerObject
  calls : List WaitCall
  arrivals : Nat
  draws : Nat
  deriving DecidableEq, Repr

inductive BridgeEvent
  | registerListener (orgId agentId : String)
  | removeListener (orgId agentId : String)
  | waitForMessage (orgId agentId : String)
  | getQueuedMessages (orgId agentId : String) (requireAck : Bool) (ack : Option Nat)
  | ackBatch (orgId agentId : String) (batchId : Nat)
  | message (orgId topic payload : String) (timestamp : Int)
  | timer (call : Nat)
  deriving DecidableEq, Repr

namespace Bridge

def started : Bridge := ⟨[], [], 0, 0⟩

/-- The object the map holds for the agent. -/
def lookup (b : Bridge) (orgId agentId : String) : Option (Nat × ListenerObject) :=
  (b.objects.zipIdx.find? fun p => p.1.registered && p.1.orgId = orgId && p.1.agentId = agentId).map Prod.swap

def registerListener (b : Bridge) (orgId agentId : String) : Bridge :=
  if (b.lookup orgId agentId).isSome then b
  else { b with objects := b.objects ++ [⟨orgId, agentId, .registered, true⟩] }

def setListener (b : Bridge) (o : Nat) (l : AgentListener) : Bridge :=
  { b with objects := b.objects.modify o fun object => { object with listener := l } }

/-- A promise keeps the first value it is resolved with. -/
def WaitCall.resolve (value : Option QueuedMessage) (call : WaitCall) : WaitCall :=
  { call with outcome := some (call.outcome.getD value) }

def resolve (b : Bridge) (value : Option QueuedMessage) (call : Nat) : Bridge :=
  { b with calls := b.calls.modify call (WaitCall.resolve value) }

/-- Unblocks the call that waits, with its resolver left in the slot, and takes the object out of the map. -/
def removeListener (b : Bridge) (orgId agentId : String) : Bridge :=
  match b.lookup orgId agentId with
  | none => b
  | some (o, object) =>
    let unblocked := (object.listener.waitResolve.map (b.resolve none)).getD b
    { unblocked with objects := b.objects.modify o fun object => { object with registered := false } }

/-- Takes the head of the queue, or waits with a timer. -/
def waitForMessage (b : Bridge) (orgId agentId : String) : Bridge :=
  let b := b.registerListener orgId agentId
  match b.lookup orgId agentId with
  | none => b
  | some (o, object) =>
    let after := object.listener.waitForMessage b.calls.length
    let call : WaitCall :=
      match object.listener.queue with
      | oldest :: _ => ⟨o, some (some oldest), .none⟩
      | [] => ⟨o, none, .running⟩
    { b.setListener o after.1 with calls := b.calls ++ [call] }

def getQueuedMessages (b : Bridge) (orgId agentId : String) (requireAck : Bool) (ack : Option Nat) : Bridge :=
  let b := b.registerListener orgId agentId
  match b.lookup orgId agentId with
  | none => b
  | some (o, object) =>
    { b.setListener o (object.listener.getQueuedMessages requireAck ack b.draws).1 with draws := b.draws + 1 }

def ackBatch (b : Bridge) (orgId agentId : String) (batchId : Nat) : Bridge :=
  match b.lookup orgId agentId with
  | none => b
  | some (o, object) => b.setListener o (object.listener.ackBatch batchId).1

def ListenerObject.hears (orgId : String) (object : ListenerObject) : Bool :=
  object.registered && object.orgId = orgId

/-- The calls that wait on the listeners of an organisation. -/
def waiters (b : Bridge) (orgId : String) : List Nat :=
  (b.objects.filter (ListenerObject.hears orgId)).filterMap fun object => object.listener.waitResolve

/-- The fan-out of a message to the listeners of its organisation. -/
def message (b : Bridge) (orgId topic payload : String) (timestamp : Int) : Bridge :=
  let msg : QueuedMessage := ⟨b.arrivals, topic, payload, timestamp⟩
  let resolved := (b.waiters orgId).foldl (fun b call => b.resolve (some msg) call) b
  { resolved with
    objects := b.objects.map fun object =>
      if ListenerObject.hears orgId object then { object with listener := (object.listener.onMessage msg).1 } else object
    arrivals := b.arrivals + 1 }

/-- The slot of an object. -/
def slot (b : Bridge) (o : Nat) : Option Nat := b.objects[o]?.bind fun object => object.listener.waitResolve

def clearSlot (b : Bridge) (o : Nat) : Bridge :=
  { b with objects := b.objects.modify o fun object =>
      { object with listener := { object.listener with waitResolve := none } } }

def WaitCall.fire (call : WaitCall) : WaitCall := { call with timer := .fired }

/-- The timer of a call resolves it only when the slot still holds its resolver. -/
def timer (b : Bridge) (i : Nat) : Bridge :=
  match b.calls[i]? with
  | none => b
  | some call =>
    if call.timer = .running then
      let settled := if b.slot call.object = some i then (b.clearSlot call.object).resolve none i else b
      { settled with calls := settled.calls.modify i WaitCall.fire }
    else b

def step (b : Bridge) : BridgeEvent → Bridge
  | .registerListener orgId agentId => b.registerListener orgId agentId
  | .removeListener orgId agentId => b.removeListener orgId agentId
  | .waitForMessage orgId agentId => b.waitForMessage orgId agentId
  | .getQueuedMessages orgId agentId requireAck ack => b.getQueuedMessages orgId agentId requireAck ack
  | .ackBatch orgId agentId batchId => b.ackBatch orgId agentId batchId
  | .message orgId topic payload timestamp => b.message orgId topic payload timestamp
  | .timer call => b.timer call

/-- Every call whose timer has fired is resolved. -/
def Settled (b : Bridge) : Prop := ∀ call ∈ b.calls, call.timer = .fired → call.outcome.isSome = true

/-- A `waitForMessage` call that finds the queue empty finds no other call waiting. -/
def WaitsAlone (b : Bridge) : BridgeEvent → Prop
  | .waitForMessage orgId agentId => ∀ p ∈ b.lookup orgId agentId,
      p.2.listener.queue = [] → p.2.listener.waitResolve = none
  | _ => True

/-- Every slot holds a call on its object with a running timer, which is
unresolved as long as the object is registered; only calls that started a timer are unresolved. -/
structure Coherent (slot : Nat → Option Nat) (live : Nat → Bool) (calls : List WaitCall) : Prop where
  running : ∀ o i, slot o = some i → ∃ call, calls[i]? = some call ∧ call.object = o ∧ call.timer = .running
  waits : ∀ o i, slot o = some i → live o = true → ∃ call, calls[i]? = some call ∧ call.outcome = none
  timed : ∀ (i : Nat) (call : WaitCall), calls[i]? = some call → call.outcome = none → call.timer ≠ .none

/-- The slot of its object holds every unresolved call. -/
def Attended (slot : Nat → Option Nat) (calls : List WaitCall) : Prop :=
  ∀ (i : Nat) (call : WaitCall), calls[i]? = some call → call.outcome = none → slot call.object = some i

section Slots
variable {slot slot' : Nat → Option Nat} {live live' : Nat → Bool} {calls calls' : List WaitCall}
  {call call' : WaitCall} {i o : Nat}

theorem Coherent.object_eq (coherent : Coherent slot live calls) {o' : Nat} (held : slot o = some i)
    (held' : slot o' = some i) : o = o' := by
  obtain ⟨call, listed, rfl, -⟩ := coherent.running o i held
  obtain ⟨call', listed', rfl, -⟩ := coherent.running o' i held'
  rw [Option.some.inj (listed.symm.trans listed')]

/-- The calls numbered in `numbers` are resolved. -/
def release (numbers : List Nat) (value : Option QueuedMessage) (i : Nat) (call : WaitCall) : WaitCall :=
  if i ∈ numbers then WaitCall.resolve value call else call

variable {numbers : List Nat} {value : Option QueuedMessage}

theorem release_object : (release numbers value i call).object = call.object := by
  unfold release
  split <;> rfl

theorem release_timer : (release numbers value i call).timer = call.timer := by
  unfold release
  split <;> rfl

theorem release_pending : (release numbers value i call).outcome = none ↔ i ∉ numbers ∧ call.outcome = none := by
  unfold release
  split
  · rename_i listed
    simp [WaitCall.resolve, listed]
  · rename_i unlisted
    simp [unlisted]

/-- Calls are resolved, and their slots are emptied or their objects removed. -/
theorem Coherent.released (coherent : Coherent slot live calls)
    (calls_eq : ∀ i, calls'[i]? = calls[i]?.map (release numbers value i))
    (fewer : ∀ o i, slot' o = some i → slot o = some i)
    (lives : ∀ o i, slot' o = some i → live' o = true → live o = true ∧ i ∉ numbers) : Coherent slot' live' calls' := by
  refine ⟨?_, ?_, ?_⟩
  · intro o i held
    obtain ⟨call, listed, object, running⟩ := coherent.running o i (fewer o i held)
    refine ⟨release numbers value i call, by rw [calls_eq, listed]; rfl, ?_, ?_⟩
    · rw [release_object, object]
    · rw [release_timer, running]
  · intro o i held alive
    obtain ⟨before, unlisted⟩ := lives o i held alive
    obtain ⟨call, listed, pending⟩ := coherent.waits o i (fewer o i held) before
    refine ⟨release numbers value i call, by rw [calls_eq, listed]; rfl, ?_⟩
    exact release_pending.mpr ⟨unlisted, pending⟩
  · intro i call' listed pending
    rw [calls_eq, Option.map_eq_some_iff] at listed
    obtain ⟨call, listed, rfl⟩ := listed
    rw [release_timer]
    exact coherent.timed i call listed (release_pending.mp pending).2

theorem Attended.released (attended : Attended slot calls)
    (calls_eq : ∀ i, calls'[i]? = calls[i]?.map (release numbers value i))
    (cleared : ∀ o i, slot o = some i → slot' o = some i ∨ i ∈ numbers) : Attended slot' calls' := by
  intro i call' listed pending
  rw [calls_eq, Option.map_eq_some_iff] at listed
  obtain ⟨call, listed, rfl⟩ := listed
  obtain ⟨unlisted, waiting⟩ := release_pending.mp pending
  rw [release_object]
  exact (cleared _ i (attended i call listed waiting)).resolve_right unlisted

/-- Only calls that a slot holds are resolved, so a call that no slot holds stays so. -/
theorem Attended.of_released (attended : Attended slot' calls') (coherent : Coherent slot live calls)
    (calls_eq : ∀ i, calls'[i]? = calls[i]?.map (release numbers value i))
    (fewer : ∀ o i, slot' o = some i → slot o = some i) (waiting : ∀ i ∈ numbers, ∃ o, slot o = some i) :
    Attended slot calls := by
  intro i call listed pending
  by_cases numbered : i ∈ numbers
  · obtain ⟨o, held⟩ := waiting i numbered
    obtain ⟨call', listed', object, -⟩ := coherent.running o i held
    obtain rfl := Option.some.inj (listed.symm.trans listed')
    rw [object, held]
  · have still := attended i (release numbers value i call) (by rw [calls_eq, listed]; rfl)
      (release_pending.mpr ⟨numbered, pending⟩)
    rw [release_object] at still
    exact fewer _ i still

theorem getElem?_fire (calls : List WaitCall) (i j : Nat) :
    (calls.modify i WaitCall.fire)[j]? = calls[j]?.map fun call => if i = j then WaitCall.fire call else call := by
  rw [List.getElem?_modify]
  split
  · rfl
  · rfl

/-- The timer of a call that no slot holds fires. -/
theorem Coherent.fire (coherent : Coherent slot live calls) (unheld : ∀ o, slot o ≠ some i) :
    Coherent slot live (calls.modify i WaitCall.fire) := by
  have same : ∀ {o j} {call : WaitCall}, slot o = some j → calls[j]? = some call →
      (calls.modify i WaitCall.fire)[j]? = some call := by
    intro o j call held listed
    have other : i ≠ j := fun same => unheld o (same ▸ held)
    rw [getElem?_fire, listed, Option.map_some, if_neg other]
  refine ⟨?_, ?_, ?_⟩
  · intro o j held
    obtain ⟨call, listed, rest⟩ := coherent.running o j held
    exact ⟨call, same held listed, rest⟩
  · intro o j held alive
    obtain ⟨call, listed, pending⟩ := coherent.waits o j held alive
    exact ⟨call, same held listed, pending⟩
  · intro j call' listed pending
    rw [getElem?_fire, Option.map_eq_some_iff] at listed
    obtain ⟨call, listed, rfl⟩ := listed
    split
    · exact fun none => by cases none
    · rename_i other
      rw [if_neg other] at pending
      exact coherent.timed j call listed pending

theorem attended_fire : Attended slot (calls.modify i WaitCall.fire) ↔ Attended slot calls := by
  constructor
  · intro attended j call listed pending
    have fired := attended j (if i = j then WaitCall.fire call else call) (by rw [getElem?_fire, listed]; rfl)
    split at fired
    · exact fired pending
    · exact fired pending
  · intro attended j call' listed pending
    rw [getElem?_fire, Option.map_eq_some_iff] at listed
    obtain ⟨call, listed, rfl⟩ := listed
    split at pending
    · rw [if_pos ‹_›]
      exact attended j call listed pending
    · rw [if_neg ‹_›]
      exact attended j call listed pending

/-- A new call takes no slot, and is not left unresolved without a timer. -/
theorem Coherent.append (coherent : Coherent slot live calls) (timed : call.outcome = none → call.timer ≠ .none) :
    Coherent slot live (calls ++ [call]) := by
  refine ⟨?_, ?_, ?_⟩
  · intro o i held
    obtain ⟨old, listed, rest⟩ := coherent.running o i held
    exact ⟨old, List.getElem?_snoc_old listed, rest⟩
  · intro o i held alive
    obtain ⟨old, listed, pending⟩ := coherent.waits o i held alive
    exact ⟨old, List.getElem?_snoc_old listed, pending⟩
  · intro i call' listed pending
    rcases List.getElem?_snoc_cases listed with old | ⟨-, rfl⟩
    · exact coherent.timed i call' old pending
    · exact timed pending

theorem attended_serve (served : call.outcome ≠ none) : Attended slot (calls ++ [call]) ↔ Attended slot calls := by
  constructor
  · intro attended i old listed pending
    exact attended i old (List.getElem?_snoc_old listed) pending
  · intro attended i call' listed pending
    rcases List.getElem?_snoc_cases listed with old | ⟨-, rfl⟩
    · exact attended i call' old pending
    · exact absurd pending served

/-- The slot of one object is taken by the new call. -/
def take (slot : Nat → Option Nat) (o i : Nat) : Nat → Option Nat := fun o' => if o' = o then some i else slot o'

theorem Coherent.block (coherent : Coherent slot live calls) :
    Coherent (take slot o calls.length) live (calls ++ [⟨o, none, .running⟩]) := by
  have grown : Coherent slot live (calls ++ [⟨o, none, .running⟩]) := coherent.append (fun _ none => by cases none)
  have last : (calls ++ [(⟨o, none, .running⟩ : WaitCall)])[calls.length]? = some ⟨o, none, .running⟩ := by simp
  refine ⟨?_, ?_, grown.timed⟩
  · intro o' i held
    unfold take at held
    split at held
    · rename_i same
      obtain rfl := Option.some.inj held
      exact ⟨_, last, same.symm, rfl⟩
    · exact grown.running o' i held
  · intro o' i held alive
    unfold take at held
    split at held
    · obtain rfl := Option.some.inj held
      exact ⟨_, last, rfl⟩
    · exact grown.waits o' i held alive

theorem Attended.block (attended : Attended slot calls) (free : slot o = none) :
    Attended (take slot o calls.length) (calls ++ [⟨o, none, .running⟩]) := by
  intro i call' listed pending
  unfold take
  rcases List.getElem?_snoc_cases listed with old | ⟨rfl, rfl⟩
  · have held := attended i call' old pending
    split
    · rename_i same
      rw [same, free] at held
      cases held
    · exact held
  · rw [if_pos rfl]

/-- Nobody was displaced: the slot was free and every other call still has its own. -/
theorem Attended.of_block (attended : Attended (take slot o calls.length) (calls ++ [⟨o, none, .running⟩]))
    (coherent : Coherent slot live calls) : Attended slot calls ∧ (live o = true → slot o = none) := by
  have held : ∀ (i : Nat) (call : WaitCall), calls[i]? = some call → call.outcome = none →
      call.object ≠ o ∧ slot call.object = some i := by
    intro i call listed pending
    have early := (List.getElem?_eq_some_iff.mp listed).1
    have still := attended i call (List.getElem?_snoc_old listed) pending
    unfold take at still
    split at still
    · have last := Option.some.inj still
      omega
    · exact ⟨‹_›, still⟩
  refine ⟨fun i call listed pending => (held i call listed pending).2, ?_⟩
  intro alive
  by_contra taken
  obtain ⟨i, waiting⟩ := Option.ne_none_iff_exists'.mp taken
  obtain ⟨call, listed, object, -⟩ := coherent.running o i waiting
  obtain ⟨call', listed', pending⟩ := coherent.waits o i waiting alive
  obtain rfl := Option.some.inj (listed.symm.trans listed')
  exact (held i call listed pending).1 object

end Slots

/-- Whether the map still holds an object. -/
def live (b : Bridge) (o : Nat) : Bool := (b.objects[o]?.map ListenerObject.registered).getD false

def Sane (b : Bridge) : Prop := Coherent b.slot b.live b.calls

def Watched (b : Bridge) : Prop := Attended b.slot b.calls

/-- The second state is as sound as the first, and leaves no call behind unless the first did. -/
def Follows (b b' : Bridge) : Prop := Sane b → Sane b' ∧ (Watched b' ↔ Watched b)

variable {b b' b'' : Bridge} {o i : Nat} {object : ListenerObject} {orgId agentId : String}

theorem Follows.refl (b : Bridge) : Follows b b := fun sane => ⟨sane, Iff.rfl⟩

theorem Follows.trans (first : Follows b b') (later : Follows b' b'') : Follows b b'' := by
  intro sane
  obtain ⟨sane', watched'⟩ := first sane
  obtain ⟨sane'', watched''⟩ := later sane'
  exact ⟨sane'', watched''.trans watched'⟩

theorem Follows.of_same (slots : ∀ o, b'.slot o = b.slot o) (calls : b'.calls = b.calls)
    (lives : ∀ o i, b.slot o = some i → b'.live o = true → b.live o = true) : Follows b b' := by
  intro sane
  have slots_eq : b'.slot = b.slot := funext slots
  refine ⟨⟨?_, ?_, ?_⟩, ?_⟩
  · rw [slots_eq, calls]
    exact sane.running
  · intro o i held alive
    rw [slots_eq] at held
    rw [calls]
    exact sane.waits o i held (lives o i held alive)
  · rw [calls]
    exact sane.timed
  · rw [Watched, Watched, slots_eq, calls]

theorem lookup_some (found : b.lookup orgId agentId = some (o, object)) :
    b.objects[o]? = some object ∧ object.registered = true ∧ object.orgId = orgId := by
  rw [lookup, Option.map_eq_some_iff] at found
  obtain ⟨⟨object', o'⟩, found, same⟩ := found
  cases same
  have key := List.find?_some found
  have listed := List.mem_zipIdx_iff_getElem?.mp (List.mem_of_find?_eq_some found)
  simp only [Bool.and_eq_true, decide_eq_true_eq] at key
  exact ⟨listed, key.1.1, key.1.2⟩

theorem slot_of_getElem? (listed : b.objects[o]? = some object) : b.slot o = object.listener.waitResolve := by
  rw [slot, listed]
  rfl

theorem live_of_getElem? (listed : b.objects[o]? = some object) : b.live o = object.registered := by
  rw [live, listed]
  rfl

theorem registerListener_follows (b : Bridge) (orgId agentId : String) : Follows b (b.registerListener orgId agentId) := by
  unfold registerListener
  split
  · exact .refl b
  · -- the new object comes behind the others, with an empty slot
    have old : ∀ o, o < b.objects.length → (b.objects ++ [⟨orgId, agentId, .registered, true⟩])[o]? = b.objects[o]? :=
      fun o early => List.getElem?_append_left early
    refine .of_same ?_ rfl ?_
    · intro o
      rcases Nat.lt_or_ge o b.objects.length with early | late
      · rw [slot, slot, old o early]
      · rw [slot, slot, List.getElem?_append_right late, List.getElem?_eq_none late, List.getElem?_singleton]
        split <;> rfl
    · intro o i held alive
      rcases Nat.lt_or_ge o b.objects.length with early | late
      · rw [live, old o early] at alive
        exact alive
      · rw [slot, List.getElem?_eq_none late] at held
        cases held

theorem slot_setListener (l : AgentListener) (o' : Nat) (listed : b.objects[o]? = some object) :
    (b.setListener o l).slot o' = if o' = o then l.waitResolve else b.slot o' := by
  rw [slot, setListener, List.getElem?_modify]
  split
  · rename_i same
    rw [if_pos same.symm, ← same, listed]
    rfl
  · rename_i other
    rw [if_neg (Ne.symm other)]
    simp [slot]

theorem live_setListener (l : AgentListener) (o' : Nat) : (b.setListener o l).live o' = b.live o' := by
  rw [live, setListener, List.getElem?_modify]
  split <;> cases h : b.objects[o']? <;> simp [live, h]

/-- A change of a listener that leaves its slot alone. -/
theorem setListener_follows {l : AgentListener} (listed : b.objects[o]? = some object)
    (kept : l.waitResolve = object.listener.waitResolve) : Follows b (b.setListener o l) := by
  refine .of_same ?_ rfl ?_
  · intro o'
    rw [slot_setListener l o' listed]
    split
    · rename_i same
      rw [kept, same, slot_of_getElem? listed]
    · rfl
  · intro o' i _ alive
    rwa [live_setListener] at alive

theorem getQueuedMessages_waitResolve (l : AgentListener) (requireAck : Bool) (ack : Option Nat) (id : Nat) :
    (l.getQueuedMessages requireAck ack id).1.waitResolve = l.waitResolve := by
  have settles : ∀ l : AgentListener, (l.settleInFlight ack).1.waitResolve = l.waitResolve := by
    intro l
    unfold AgentListener.settleInFlight
    split
    · rfl
    · split
      · rfl
      · split <;> rfl
  have drains : ∀ l : AgentListener, (l.drain id).1.waitResolve = l.waitResolve := by
    intro l
    unfold AgentListener.drain
    split
    · rfl
    · split <;> rfl
  exact (drains _).trans (settles _)

theorem ackBatch_waitResolve (l : AgentListener) (batchId : Nat) :
    (l.ackBatch batchId).1.waitResolve = l.waitResolve := by
  unfold AgentListener.ackBatch
  split
  · rfl
  · split <;> rfl

theorem getQueuedMessages_follows (b : Bridge) (orgId agentId : String) (requireAck : Bool) (ack : Option Nat) :
    Follows b (b.getQueuedMessages orgId agentId requireAck ack) := by
  refine (registerListener_follows b orgId agentId).trans ?_
  unfold getQueuedMessages
  dsimp only
  split
  · exact .refl _
  · rename_i o object found
    exact setListener_follows (lookup_some found).1 (getQueuedMessages_waitResolve _ requireAck ack _)

theorem ackBatch_follows (b : Bridge) (orgId agentId : String) (batchId : Nat) :
    Follows b (b.ackBatch orgId agentId batchId) := by
  unfold ackBatch
  split
  · exact .refl _
  · rename_i o object found
    exact setListener_follows (lookup_some found).1 (ackBatch_waitResolve _ batchId)

/-- Calls that slots hold are resolved; a slot that is kept belongs to no
resolved call, or its object is removed. -/
theorem Follows.released (numbers : List Nat) (value : Option QueuedMessage)
    (calls_eq : ∀ i, b'.calls[i]? = b.calls[i]?.map (release numbers value i))
    (fewer : ∀ o i, b'.slot o = some i → b.slot o = some i)
    (cleared : ∀ o i, b.slot o = some i → b'.slot o = some i ∨ i ∈ numbers)
    (waiting : ∀ i ∈ numbers, ∃ o, b.slot o = some i)
    (lives : Sane b → ∀ o i, b'.slot o = some i → b'.live o = true → b.live o = true ∧ i ∉ numbers) : Follows b b' := by
  intro sane
  refine ⟨Coherent.released sane calls_eq fewer (lives sane), ?_, ?_⟩
  · intro watched
    exact Attended.of_released watched sane calls_eq fewer waiting
  · intro watched
    exact Attended.released watched calls_eq cleared

theorem getElem?_resolve (b : Bridge) (value : Option QueuedMessage) (i j : Nat) :
    (b.resolve value i).calls[j]? = b.calls[j]?.map (release [i] value j) := by
  rw [resolve, List.getElem?_modify]
  have same : i = j ↔ j ∈ [i] := by rw [List.mem_singleton, eq_comm]
  unfold release
  by_cases numbered : i = j
  · simp [numbered]
  · rw [same] at numbered
    simp [numbered, same]

theorem removeListener_follows (b : Bridge) (orgId agentId : String) :
    Follows b (b.removeListener orgId agentId) := by
  unfold removeListener
  split
  · exact .refl b
  · rename_i o object found
    obtain ⟨listed, -, -⟩ := lookup_some found
    let objects := b.objects.modify o fun object => { object with registered := false }
    have slots : ∀ (calls : List WaitCall) o', ({ b with objects := objects, calls := calls } : Bridge).slot o' = b.slot o' := by
      intro calls o'
      simp only [slot, objects, List.getElem?_modify]
      split <;> cases b.objects[o']? <;> rfl
    have lives : ∀ (calls : List WaitCall) o', ({ b with objects := objects, calls := calls } : Bridge).live o' = true →
        b.live o' = true ∧ o' ≠ o := by
      intro calls o' alive
      simp only [live, objects, List.getElem?_modify] at alive
      split at alive
      · rename_i same
        rw [← same, listed] at alive
        cases alive
      · rename_i other
        refine ⟨?_, Ne.symm other⟩
        simpa [live] using alive
    cases waiting : object.listener.waitResolve with
    | none => exact .of_same (slots b.calls) rfl (fun o' i _ alive => (lives b.calls o' alive).1)
    | some j =>
      have held : b.slot o = some j := (slot_of_getElem? listed).trans waiting
      refine .released [j] none (fun i => getElem?_resolve b none j i) ?_ ?_ ?_ ?_
      · intro o' i kept
        exact (slots _ o').symm.trans kept
      · intro o' i kept
        exact .inl ((slots _ o').trans kept)
      · intro i numbered
        exact ⟨o, List.mem_singleton.mp numbered ▸ held⟩
      · intro sane o' i kept alive
        obtain ⟨before, other⟩ := lives _ o' alive
        refine ⟨before, ?_⟩
        intro numbered
        have kept' : b.slot o' = some j := List.mem_singleton.mp numbered ▸ (slots _ o').symm.trans kept
        exact other (sane.object_eq kept' held)

theorem onMessage_waitResolve (l : AgentListener) (msg : QueuedMessage) : (l.onMessage msg).1.waitResolve = none := by
  unfold AgentListener.onMessage
  split
  · rfl
  · split <;> assumption

theorem mem_waiters : i ∈ b.waiters orgId ↔
    ∃ o object, b.objects[o]? = some object ∧ ListenerObject.hears orgId object = true ∧ b.slot o = some i := by
  simp only [waiters, List.mem_filterMap, List.mem_filter]
  constructor
  · rintro ⟨object, ⟨listed, hears⟩, waiting⟩
    obtain ⟨o, listed⟩ := List.mem_iff_getElem?.mp listed
    exact ⟨o, object, listed, hears, (slot_of_getElem? listed).trans waiting⟩
  · rintro ⟨o, object, listed, hears, waiting⟩
    exact ⟨object, ⟨List.mem_of_getElem? listed, hears⟩, (slot_of_getElem? listed).symm.trans waiting⟩

theorem getElem?_resolveAll (b : Bridge) (value : Option QueuedMessage) (numbers : List Nat) (j : Nat) :
    (numbers.foldl (fun b call => b.resolve value call) b).calls[j]? = b.calls[j]?.map (release numbers value j) := by
  induction numbers generalizing b with
  | nil => exact Option.map_id'.symm
  | cons i rest ih =>
    rw [List.foldl_cons, ih, getElem?_resolve, Option.map_map]
    congr 1
    funext call
    simp only [Function.comp, release, List.mem_cons, List.not_mem_nil, or_false]
    by_cases first : j = i
    · simp [first, WaitCall.resolve]
    · simp [first]

theorem message_follows (b : Bridge) (orgId topic payload : String) (timestamp : Int) :
    Follows b (b.message orgId topic payload timestamp) := by
  have slots : ∀ o i, (b.message orgId topic payload timestamp).slot o = some i ↔
      ∃ object, b.objects[o]? = some object ∧ ListenerObject.hears orgId object = false ∧ b.slot o = some i := by
    intro o i
    simp only [slot, message, List.getElem?_map]
    cases listed : b.objects[o]? with
    | none => simp
    | some object =>
      cases hears : ListenerObject.hears orgId object with
      | true => simp [hears, onMessage_waitResolve]
      | false => simp [hears]
  have lives : ∀ o, (b.message orgId topic payload timestamp).live o = b.live o := by
    intro o
    simp only [live, message, List.getElem?_map]
    cases b.objects[o]? with
    | none => rfl
    | some object =>
      simp only [Option.map_some]
      split <;> rfl
  refine .released (b.waiters orgId) _ (fun i => getElem?_resolveAll b _ _ i) ?_ ?_ ?_ ?_
  · intro o i kept
    obtain ⟨_, _, _, held⟩ := (slots o i).mp kept
    exact held
  · intro o i held
    have held' := held
    rw [slot, Option.bind_eq_some_iff] at held'
    obtain ⟨object, listed, -⟩ := held'
    cases hears : ListenerObject.hears orgId object with
    | true => exact .inr (mem_waiters.mpr ⟨o, object, listed, hears, held⟩)
    | false => exact .inl ((slots o i).mpr ⟨object, listed, hears, held⟩)
  · intro i numbered
    obtain ⟨o, _, _, _, held⟩ := mem_waiters.mp numbered
    exact ⟨o, held⟩
  · intro sane o i kept alive
    rw [lives] at alive
    refine ⟨alive, ?_⟩
    intro numbered
    obtain ⟨object, listed, deaf, held⟩ := (slots o i).mp kept
    obtain ⟨o', object', listed', hears, held'⟩ := mem_waiters.mp numbered
    obtain rfl := sane.object_eq held held'
    obtain rfl := Option.some.inj (listed.symm.trans listed')
    rw [hears] at deaf
    cases deaf

theorem slot_clearSlot (b : Bridge) (o o' : Nat) : (b.clearSlot o).slot o' = if o' = o then none else b.slot o' := by
  rw [slot, clearSlot, List.getElem?_modify]
  split
  · rename_i same
    rw [if_pos same.symm]
    cases b.objects[o']? <;> rfl
  · rename_i other
    rw [if_neg (Ne.symm other)]
    cases listed : b.objects[o']? <;> simp [slot, listed]

theorem live_clearSlot (b : Bridge) (o o' : Nat) : (b.clearSlot o).live o' = b.live o' := by
  rw [live, clearSlot, List.getElem?_modify]
  split <;> cases listed : b.objects[o']? <;> simp [live, listed]

/-- The call that a slot holds is resolved, and the slot emptied. -/
theorem clearSlot_follows (held : b.slot o = some i) : Follows b ((b.clearSlot o).resolve none i) := by
  have slots : ∀ o', ((b.clearSlot o).resolve none i).slot o' = if o' = o then none else b.slot o' := slot_clearSlot b o
  refine .released [i] none (fun j => getElem?_resolve (b.clearSlot o) none i j) ?_ ?_ ?_ ?_
  · intro o' j kept
    rw [slots] at kept
    split at kept
    · cases kept
    · exact kept
  · intro o' j waiting
    rw [slots]
    split
    · rename_i same
      rw [same, held] at waiting
      exact .inr (List.mem_singleton.mpr (Option.some.inj waiting).symm)
    · exact .inl waiting
  · intro j numbered
    exact ⟨o, List.mem_singleton.mp numbered ▸ held⟩
  · intro sane o' j kept alive
    have before : b.live o' = true := (live_clearSlot b o o').symm.trans alive
    refine ⟨before, ?_⟩
    intro numbered
    obtain rfl := List.mem_singleton.mp numbered
    rw [slots] at kept
    split at kept
    · cases kept
    · rename_i other
      exact other (sane.object_eq kept held)

theorem timer_follows (b : Bridge) (i : Nat) : Follows b (b.timer i) := by
  unfold timer
  split
  · exact .refl b
  · rename_i call listed
    split
    · intro sane
      have only : ∀ o, b.slot o = some i → o = call.object := by
        intro o held
        obtain ⟨call', listed', object, -⟩ := sane.running o i held
        rw [← object, Option.some.inj (listed.symm.trans listed')]
      dsimp only
      split
      · rename_i held
        obtain ⟨sane', watched⟩ := clearSlot_follows held sane
        have unheld : ∀ o, ((b.clearSlot call.object).resolve none i).slot o ≠ some i := by
          intro o kept
          have kept := (slot_clearSlot b call.object o).symm.trans kept
          split at kept
          · cases kept
          · exact absurd (only o kept) ‹_›
        exact ⟨Coherent.fire sane' unheld, attended_fire.trans watched⟩
      · rename_i displaced
        have unheld : ∀ o, b.slot o ≠ some i := fun o held => displaced (only o held ▸ held)
        exact ⟨Coherent.fire sane unheld, attended_fire⟩
    · exact .refl b

/-- The lookup after `registerListener`: the object that was there, or a new one. -/
theorem lookup_registerListener (found : (b.registerListener orgId agentId).lookup orgId agentId = some (o, object)) :
    b.lookup orgId agentId = some (o, object) ∨ b.lookup orgId agentId = none ∧ object.listener = .registered := by
  cases before : b.lookup orgId agentId with
  | some p =>
    rw [registerListener, before] at found
    exact .inl (before.symm.trans found)
  | none =>
    refine .inr ⟨rfl, ?_⟩
    rw [registerListener, before, if_neg (by simp)] at found
    simp only [lookup, List.zipIdx_append, List.find?_append, Option.map_eq_some_iff, Option.or_eq_some_iff] at found before
    obtain ⟨⟨object', o'⟩, old | ⟨-, new⟩, same⟩ := found
    · rw [Option.map_eq_none_iff] at before
      rw [before] at old
      cases old
    · cases same
      have last := List.mem_of_find?_eq_some new
      simp only [List.zipIdx_singleton, List.mem_singleton, Prod.mk.injEq] at last
      rw [last.1]

/-- A call that waits takes the slot of its object, and leaves behind whoever had it. -/
theorem setListener_blocks {l : AgentListener} (listed : b.objects[o]? = some object) (alive : b.live o = true)
    (waits : l.waitResolve = some b.calls.length) (sane : Sane b) :
    Sane { b.setListener o l with calls := b.calls ++ [⟨o, none, .running⟩] } ∧
      (Watched { b.setListener o l with calls := b.calls ++ [⟨o, none, .running⟩] } ↔
        Watched b ∧ object.listener.waitResolve = none) := by
  have slots : (b.setListener o l).slot = take b.slot o b.calls.length := by
    funext o'
    rw [slot_setListener _ o' listed, waits, take]
  have lives : (b.setListener o l).live = b.live := funext (live_setListener _)
  have held : b.slot o = object.listener.waitResolve := slot_of_getElem? listed
  have watches : Watched { b.setListener o l with calls := b.calls ++ [⟨o, none, .running⟩] } ↔
      Attended (take b.slot o b.calls.length) (b.calls ++ [⟨o, none, .running⟩]) := by
    rw [← slots]
    rfl
  rw [watches, ← held]
  refine ⟨?_, ?_, ?_⟩
  · show Coherent (b.setListener o l).slot (b.setListener o l).live (b.calls ++ [⟨o, none, .running⟩])
    rw [slots, lives]
    exact sane.block
  · intro attended
    obtain ⟨before, free⟩ := attended.of_block sane
    exact ⟨before, free alive⟩
  · rintro ⟨before, free⟩
    exact before.block free

theorem waitForMessage_sane (b : Bridge) (orgId agentId : String) (sane : Sane b) :
    Sane (b.waitForMessage orgId agentId) ∧
      (Watched (b.waitForMessage orgId agentId) ↔ Watched b ∧ b.WaitsAlone (.waitForMessage orgId agentId)) := by
  obtain ⟨sane, watched⟩ := registerListener_follows b orgId agentId sane
  rw [← watched]
  unfold waitForMessage
  dsimp only
  split
  · rename_i lost
    refine ⟨sane, ⟨fun watched => ⟨watched, ?_⟩, And.left⟩⟩
    intro p found
    rw [registerListener, if_pos (Option.isSome_of_mem found)] at lost
    rw [lost] at found
    cases found
  · rename_i o object found
    obtain ⟨listed, registered, -⟩ := lookup_some found
    -- the guard speaks of the object found before `registerListener`
    have alone : b.WaitsAlone (.waitForMessage orgId agentId) ↔
        (object.listener.queue = [] → object.listener.waitResolve = none) := by
      rcases lookup_registerListener found with before | ⟨before, new⟩
      · simp [WaitsAlone, before]
      · simp [WaitsAlone, before, new, AgentListener.registered]
    rw [alone]
    cases queue : object.listener.queue with
    | cons oldest rest =>
      have waits : (object.listener.waitForMessage (b.registerListener orgId agentId).calls.length).1.waitResolve =
          object.listener.waitResolve := by simp [AgentListener.waitForMessage, queue]
      obtain ⟨sane', watched'⟩ := setListener_follows listed waits sane
      refine ⟨Coherent.append sane' (by simp), (attended_serve (by simp)).trans (watched'.trans ?_)⟩
      simp
    | nil =>
      have waits : (object.listener.waitForMessage (b.registerListener orgId agentId).calls.length).1.waitResolve =
          some (b.registerListener orgId agentId).calls.length := by simp [AgentListener.waitForMessage, queue]
      have alive := (live_of_getElem? listed).trans registered
      simpa using setListener_blocks listed alive waits sane

theorem step_sane {b : Bridge} (sane : Sane b) (event : BridgeEvent) :
    Sane (b.step event) ∧ (Watched (b.step event) ↔ Watched b ∧ b.WaitsAlone event) := by
  have quiet : Follows b (b.step event) → b.WaitsAlone event →
      Sane (b.step event) ∧ (Watched (b.step event) ↔ Watched b ∧ b.WaitsAlone event) := by
    intro follows alone
    obtain ⟨sane', watched⟩ := follows sane
    exact ⟨sane', watched.trans (and_iff_left alone).symm⟩
  cases event with
  | registerListener orgId agentId => exact quiet (registerListener_follows b orgId agentId) trivial
  | removeListener orgId agentId => exact quiet (removeListener_follows b orgId agentId) trivial
  | waitForMessage orgId agentId => exact waitForMessage_sane b orgId agentId sane
  | getQueuedMessages orgId agentId requireAck ack =>
    exact quiet (getQueuedMessages_follows b orgId agentId requireAck ack) trivial
  | ackBatch orgId agentId batchId => exact quiet (ackBatch_follows b orgId agentId batchId) trivial
  | message orgId topic payload timestamp => exact quiet (message_follows b orgId topic payload timestamp) trivial
  | timer call => exact quiet (timer_follows b call) trivial

theorem started_sane : Sane started where
  running _ _ held := by cases held
  waits _ _ held := by cases held
  timed _ _ listed := by cases listed

theorem Watched.settled {b : Bridge} (sane : Sane b) (watched : Watched b) : Settled b := by
  intro call listed fired
  obtain ⟨i, listed⟩ := List.mem_iff_getElem?.mp listed
  cases outcome : call.outcome with
  | some value => rfl
  | none =>
    obtain ⟨call', listed', -, running⟩ := sane.running call.object i (watched i call listed outcome)
    obtain rfl := Option.some.inj (listed.symm.trans listed')
    rw [fired] at running
    cases running

/-- A call that lost its slot: its timer fires, if it has not yet, and it stays unresolved. -/
theorem timer_displaced {b : Bridge} (sane : Sane b) {i : Nat} {call : WaitCall} (listed : b.calls[i]? = some call)
    (pending : call.outcome = none) (displaced : b.slot call.object ≠ some i) : ¬ Settled (b.timer i) := by
  intro settled
  have fires : (b.timer i).calls[i]? = some (WaitCall.fire call) := by
    cases timer : call.timer with
    | none => exact absurd timer (sane.timed i call listed pending)
    | running =>
      rw [Bridge.timer, listed]
      dsimp only
      rw [if_pos timer, if_neg displaced, getElem?_fire, listed, Option.map_some, if_pos rfl]
    | fired =>
      have stays : b.timer i = b := by
        rw [Bridge.timer, listed]
        dsimp only
        rw [if_neg (by simp [timer])]
      rw [stays, listed, WaitCall.fire, ← timer]
  have resolved := settled _ (List.mem_of_getElem? fires) rfl
  rw [show (WaitCall.fire call).outcome = none from pending] at resolved
  cases resolved

theorem run_sane (events : List BridgeEvent) {b : Bridge} (sane : Sane b) : Sane (events.foldl step b) := by
  induction events generalizing b with
  | nil => exact sane
  | cons event rest ih => exact ih (step_sane sane event).1

/-- A run leaves no call behind exactly when no call of it displaced another. -/
theorem watched_iff (events : List BridgeEvent) :
    Watched (events.foldl step started) ↔ GuardedRun.Meets step WaitsAlone started events := by
  have sane := run_sane events started_sane
  suffices spec : (Sane (events.foldl step started) → Watched (events.foldl step started)) ↔
      GuardedRun.Meets step WaitsAlone started events from
    ⟨fun watched => spec.mp fun _ => watched, fun meets => spec.mpr meets sane⟩
  refine GuardedRun.Meets.iff_holds (P := fun b => Sane b ∧ Watched b) (Q := fun b => Sane b → Watched b)
    ⟨started_sane, fun _ _ listed => by cases listed⟩ (fun _ kept _ => kept.2) ?_ ?_ ?_
  · intro b event ⟨sane, watched⟩ alone
    obtain ⟨sane', iff⟩ := step_sane sane event
    exact ⟨sane', iff.mpr ⟨watched, alone⟩⟩
  · intro b event ⟨sane, _⟩ watched
    obtain ⟨sane', iff⟩ := step_sane sane event
    exact (iff.mp (watched sane')).2
  · intro b event watched sane
    obtain ⟨sane', iff⟩ := step_sane sane event
    exact (iff.mp (watched sane')).1

/-- However the timers go on to fire after a run, every call whose timer has
fired is resolved: exactly when no call of the run displaced another. -/
theorem waits_settled_iff (events : List BridgeEvent) :
    (∀ timers : List Nat, Settled ((events ++ timers.map BridgeEvent.timer).foldl step started)) ↔
      GuardedRun.Meets step WaitsAlone started events := by
  rw [← watched_iff]
  have sane := run_sane events started_sane
  constructor
  · intro settled i call listed pending
    by_contra displaced
    have fired := settled [i]
    rw [List.foldl_append] at fired
    exact timer_displaced sane listed pending displaced fired
  · intro watched timers
    rw [List.foldl_append]
    generalize events.foldl step started = b at sane watched
    induction timers generalizing b with
    | nil => exact watched.settled sane
    | cons i rest ih =>
      obtain ⟨sane', iff⟩ := timer_follows b i sane
      exact ih (b.timer i) sane' (iff.mpr watched)

/-- Two calls wait on one agent's empty queue: the timer of the first fires and leaves it unresolved. -/
theorem not_waits_settled : ∃ events, ¬ Settled (List.foldl step started events) := by
  refine ⟨[.waitForMessage "acme" "ada", .waitForMessage "acme" "ada", .timer 0], ?_⟩
  intro settled
  have resolved := settled ⟨0, none, .fired⟩ (by decide) rfl
  cases resolved

end Bridge

end Coordinator
