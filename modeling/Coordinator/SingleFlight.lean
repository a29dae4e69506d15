import Coordinator.Library.GuardedRun
import Coordinator.Library.LockPath

namespace Coordinator

structure SingleFlightOptions where
  timeoutMs : Nat
  pollIntervalMs : Nat
  staleAfterMs : Nat
  deriving DecidableEq, Repr

/-- The options of a call that names only the path. -/
def SingleFlightOptions.default : SingleFlightOptions := ⟨10000, 100, 30000⟩

/-- Where a call of `acquireLock`, and later of `releaseLock`, stands: each
phase ends with one step on the file system or one look at the clock. -/
inductive LockPhase where
  | opening (deadline : Nat)
  | writing (file since : Nat)
  | refused (deadline : Nat)
  | statted (deadline : Nat) (mtime : Option Nat)
  | unlinking (deadline : Nat)
  | sleeping (deadline wake : Nat)
  | holding (file since : Nat)
  | releasing
  | released
  | timedOut
  | crashed
  deriving DecidableEq, Repr

namespace LockPhase

/-- The file the call made and when, from its create to its `releaseLock`. -/
def made : LockPhase → Option (Nat × Nat)
  | writing file since => some (file, since)
  | holding file since => some (file, since)
  | _ => none

/-- Between the return of `acquireLock` and the call of `releaseLock`. -/
def holds : LockPhase → Bool
  | holding _ _ => true
  | _ => false

/-- The next step unlinks whatever file the path names. -/
def unlinks : LockPhase → Bool
  | unlinking _ => true
  | releasing => true
  | _ => false

end LockPhase

structure LockCall where
  process : Nat
  options : SingleFlightOptions
  phase : LockPhase
  deriving DecidableEq, Repr

/-- The calls so far, the clock that the processes share, and the lock path
with the modification time of its file. -/
structure SingleFlight where
  clock : Nat
  path : LockPath Nat
  calls : List LockCall
  deriving DecidableEq, Repr

inductive SingleFlightEvent where
  | tick (ms : Nat)
  | acquireLock (process : Nat) (options : SingleFlightOptions)
  | next (call : Nat)
  | crash (process : Nat)
  deriving DecidableEq, Repr

namespace SingleFlight

def initial : SingleFlight := ⟨0, ⟨none, 0⟩, []⟩

/-- The end of an attempt that did not clear the lock: give up, or sleep and try again. -/
def pollPhase (clock deadline : Nat) (options : SingleFlightOptions) : LockPhase :=
  if deadline ≤ clock then .timedOut else .sleeping deadline (clock + options.pollIntervalMs)

/-- What `stat` told about the lock: a file older than `staleAfterMs` is cleared. -/
def staleCheck (clock deadline : Nat) (mtime : Option Nat) (options : SingleFlightOptions) : LockPhase :=
  match mtime with
  | some modified =>
    if modified + options.staleAfterMs < clock then .unlinking deadline else pollPhase clock deadline options
  | none => pollPhase clock deadline options

/-- One atomic step of a call. The write of the pid sets the modification time
through the descriptor; both unlinks go through the path. -/
def advance (s : SingleFlight) (call : LockCall) : LockPath Nat × LockPhase :=
  match call.phase with
  | .opening deadline =>
    match s.path.createExclusive s.clock with
    | some path => (path, .writing s.path.made s.clock)
    | none => (s.path, .refused deadline)
  | .writing file since => (s.path.write file s.clock, .holding file since)
  | .refused deadline => (s.path, .statted deadline s.path.content)
  | .statted deadline mtime => (s.path, staleCheck s.clock deadline mtime call.options)
  | .unlinking deadline => (s.path.unlink, .opening deadline)
  | .sleeping deadline wake => (s.path, if wake ≤ s.clock then .opening deadline else .sleeping deadline wake)
  | .holding _ _ => (s.path, .releasing)
  | .releasing => (s.path.unlink, .released)
  | .released => (s.path, .released)
  | .timedOut => (s.path, .timedOut)
  | .crashed => (s.path, .crashed)

def crashCall (process : Nat) (call : LockCall) : LockCall :=
  if call.process = process then { call with phase := .crashed } else call

def step (s : SingleFlight) : SingleFlightEvent → SingleFlight
  | .tick ms => { s with clock := s.clock + ms }
  | .acquireLock process options =>
    { s with calls := s.calls ++ [⟨process, options, .opening (s.clock + options.timeoutMs)⟩] }
  | .next c =>
    match s.calls[c]? with
    | none => s
    | some call =>
      let (path, phase) := s.advance call
      { s with path, calls := s.calls.set c { call with phase } }
  | .crash process => { s with calls := s.calls.map (crashCall process) }

/-- No two live processes are both between the return of `acquireLock` and their `releaseLock`. -/
def MutualExclusion (s : SingleFlight) : Prop :=
  ∀ left ∈ s.calls, ∀ right ∈ s.calls, left.phase.holds = true → right.phase.holds = true →
    left.process = right.process

instance (s : SingleFlight) : Decidable s.MutualExclusion :=
  inferInstanceAs (Decidable (∀ left ∈ s.calls, ∀ right ∈ s.calls, _ → _ → _))

/-- A live holder does not let `staleAfterMs` pass after its create before it calls `releaseLock`. -/
def Timely (s : SingleFlight) : SingleFlightEvent → Prop
  | .tick ms => ∀ call ∈ s.calls, ∀ made ∈ call.phase.made, s.clock + ms < made.2 + call.options.staleAfterMs
  | _ => True

instance (s : SingleFlight) : (e : SingleFlightEvent) → Decidable (s.Timely e)
  | .tick ms => inferInstanceAs
      (Decidable (∀ call ∈ s.calls, ∀ made ∈ call.phase.made, s.clock + ms < made.2 + call.options.staleAfterMs))
  | .acquireLock _ _ => .isTrue trivial
  | .next _ => .isTrue trivial
  | .crash _ => .isTrue trivial

/-- The call `c` is live and has made file `n` but not yet called `releaseLock`. -/
def owns (s : SingleFlight) (c n : Nat) : Prop :=
  ∃ call, s.calls[c]? = some call ∧ call.phase.made.map Prod.fst = some n

/-- No unlink, of a waiter that clears a stale lock or of a holder that releases
its own, takes away the file of a live call that has not called `releaseLock`. -/
def SparesLive (s : SingleFlight) : SingleFlightEvent → Prop
  | .next c => ∀ call ∈ s.calls[c]?, call.phase.unlinks = true →
      ∀ other ∈ s.calls, ∀ made ∈ other.phase.made, s.path.named ≠ some made.1
  | _ => True

instance (s : SingleFlight) : (e : SingleFlightEvent) → Decidable (s.SparesLive e)
  | .next c => inferInstanceAs (Decidable (∀ call ∈ s.calls[c]?, call.phase.unlinks = true →
      ∀ other ∈ s.calls, ∀ made ∈ other.phase.made, s.path.named ≠ some made.1))
  | .tick _ => .isTrue trivial
  | .acquireLock _ _ => .isTrue trivial
  | .crash _ => .isTrue trivial

variable {s : SingleFlight}

theorem owns_of_mem {call : LockCall} {n since : Nat} (member : call ∈ s.calls) (made : call.phase.made = some (n, since)) :
    ∃ c, s.calls[c]? = some call ∧ s.owns c n := by
  obtain ⟨c, at_c⟩ := List.mem_iff_getElem?.mp member
  exact ⟨c, at_c, call, at_c, by rw [made, Option.map_some]⟩

theorem made_of_holds {phase : LockPhase} (holds : phase.holds = true) : ∃ made, phase.made = some made := by
  cases phase with
  | holding file since => exact ⟨(file, since), rfl⟩
  | _ => cases holds

/-- What a call owns after one of its steps: what it owned, or a file it has just made. -/
theorem advance_made {call : LockCall} {n : Nat} (made : (s.advance call).2.made.map Prod.fst = some n) :
    call.phase.made.map Prod.fst = some n ∨
      s.path.createExclusive s.clock = some (s.advance call).1 ∧ n = s.path.made := by
  obtain ⟨process, options, phase⟩ := call
  cases phase with
  | opening deadline =>
    unfold advance at made ⊢
    dsimp only at made ⊢
    split at made
    · rename_i path done
      exact .inr ⟨by rw [done], (Option.some.inj made).symm⟩
    · cases made
  | writing file since => exact .inl made
  | statted deadline mtime =>
    unfold advance staleCheck pollPhase at made
    dsimp only at made
    repeat' split at made
    all_goals cases made
  | sleeping deadline wake =>
    unfold advance at made
    dsimp only at made
    split at made <;> cases made
  | _ => cases made

/-- A call either creates, or unlinks, or leaves the path's file where it is. -/
theorem advance_path (call : LockCall) :
    s.path.createExclusive s.clock = some (s.advance call).1 ∨
      call.phase.unlinks = true ∧ (s.advance call).1 = s.path.unlink ∨
      (s.advance call).1.named = s.path.named := by
  obtain ⟨process, options, phase⟩ := call
  cases phase with
  | opening deadline =>
    unfold advance
    dsimp only
    split
    · rename_i path done
      exact .inl done
    · exact .inr (.inr rfl)
  | writing file since => exact .inr (.inr (LockPath.write_named s.path file s.clock))
  | unlinking deadline => exact .inr (.inl ⟨rfl, rfl⟩)
  | releasing => exact .inr (.inl ⟨rfl, rfl⟩)
  | _ => exact .inr (.inr rfl)

theorem owns_next {c : Nat} {call : LockCall} (at_c : s.calls[c]? = some call) {d n : Nat}
    (owned : (s.step (.next c)).owns d n) :
    s.owns d n ∨ d = c ∧ s.path.createExclusive s.clock = some (s.advance call).1 ∧ n = s.path.made := by
  obtain ⟨call', at_d, made⟩ := owned
  simp only [step, at_c] at at_d
  by_cases same : c = d
  · subst same
    have bound := (List.getElem?_eq_some_iff.mp at_c).1
    rw [List.getElem?_set_self bound] at at_d
    obtain rfl := Option.some.inj at_d
    rcases advance_made made with old | ⟨created, new⟩
    · exact .inl ⟨call, at_c, old⟩
    · exact .inr ⟨rfl, created, new⟩
  · rw [List.getElem?_set_ne same] at at_d
    exact .inl ⟨call', at_d, made⟩

theorem owns_acquireLock {process d n : Nat} {options : SingleFlightOptions}
    (owned : (s.step (.acquireLock process options)).owns d n) : s.owns d n := by
  obtain ⟨call, at_d, made⟩ := owned
  simp only [step] at at_d
  rw [List.getElem?_append] at at_d
  split at at_d
  · exact ⟨call, at_d, made⟩
  · have new := List.mem_of_getElem? at_d
    obtain rfl := List.mem_singleton.mp new
    cases made

theorem owns_crash {process d n : Nat} (owned : (s.step (.crash process)).owns d n) : s.owns d n := by
  obtain ⟨call', at_d, made⟩ := owned
  simp only [step, List.getElem?_map, Option.map_eq_some_iff] at at_d
  obtain ⟨call, at_d, rfl⟩ := at_d
  unfold crashCall at made
  split at made
  · cases made
  · exact ⟨call, at_d, made⟩

/-- A step that spares the files of live calls keeps each of them at the path. -/
theorem guarded_step (e : SingleFlightEvent) (guarded : LockPath.Guarded s.path s.owns) (spares : s.SparesLive e) :
    LockPath.Guarded (s.step e).path (s.step e).owns := by
  cases e with
  | tick ms => exact guarded.fewer rfl fun _ _ owned => owned
  | acquireLock process options => exact guarded.fewer rfl fun _ _ => owns_acquireLock
  | crash process => exact guarded.fewer rfl fun _ _ => owns_crash
  | next c =>
    cases at_c : s.calls[c]? with
    | none =>
      have same : s.step (.next c) = s := by simp only [step, at_c]
      rw [same]
      exact guarded
    | some call =>
      have path : (s.step (.next c)).path = (s.advance call).1 := by simp only [step, at_c]
      rw [path]
      rcases advance_path call with created | ⟨unlinks, gone⟩ | same
      · refine guarded.create (c := c) created ?_
        intro d n owned
        rcases owns_next at_c owned with old | ⟨own, _, new⟩
        · exact .inl old
        · exact .inr ⟨own, new⟩
      · rw [gone]
        have kept : ∀ d n, (s.step (.next c)).owns d n → s.owns d n := by
          intro d n owned
          rcases owns_next at_c owned with old | ⟨_, created, _⟩
          · exact old
          · rw [gone] at created
            cases (LockPath.createExclusive_some created).2
        refine guarded.unlink kept ?_
        intro d n named owned
        obtain ⟨other, at_d, made⟩ := kept d n owned
        obtain ⟨file, live, rfl⟩ := Option.map_eq_some_iff.mp made
        exact spares call at_c unlinks other (List.mem_of_getElem? at_d) file live named
      · refine guarded.fewer same ?_
        intro d n owned
        rcases owns_next at_c owned with old | ⟨_, created, _⟩
        · exact old
        · obtain ⟨free, made⟩ := LockPath.createExclusive_some created
          rw [same, free] at made
          cases made

theorem guarded_exclusive (guarded : LockPath.Guarded s.path s.owns) : s.MutualExclusion := by
  intro left leftMem right rightMem leftHolds rightHolds
  obtain ⟨⟨m, _⟩, leftMade⟩ := made_of_holds leftHolds
  obtain ⟨⟨n, _⟩, rightMade⟩ := made_of_holds rightHolds
  obtain ⟨c, at_c, owned⟩ := owns_of_mem leftMem leftMade
  obtain ⟨d, at_d, owned'⟩ := owns_of_mem rightMem rightMade
  have same := guarded.exclusive owned owned'
  subst same
  rw [Option.some.inj (at_c.symm.trans at_d)]

/-- In every state of a run whose unlinks spare the files of live calls, at most
one live process is between `acquireLock` and `releaseLock`. -/
theorem singleFlight_exclusive {events done : List SingleFlightEvent}
    (spares : GuardedRun.Meets step SparesLive initial events) (start : done <+: events) :
    (done.foldl step initial).MutualExclusion := by
  have run := GuardedRun.of_meets (spares.initial start)
  have guarded := run.invariant (P := fun t => LockPath.Guarded t.path t.owns) (fun t e holds ok => guarded_step e holds ok)
    (LockPath.Guarded.initial fun c n owned => by
      obtain ⟨call, at_c, _⟩ := owned
      cases at_c)
  exact guarded_exclusive guarded

/-- Process 2 waits for process 1 to release the lock, then takes it. -/
def handedOver : List SingleFlightEvent :=
  [.acquireLock 1 .default, .next 0, .next 0, .acquireLock 2 .default, .next 1, .next 1, .next 1, .next 0, .next 0,
    .tick 100, .next 1, .next 1, .next 1]

theorem singleFlight_exclusive_handedOver : (handedOver.foldl step initial).MutualExclusion :=
  singleFlight_exclusive (by decide) (List.prefix_refl handedOver)

/-- Process 1 crashes with the lock; 2 and 3 both find it stale before 2 clears it
and takes the lock, and then 3 clears the lock of 2. -/
def clearedTwice : List SingleFlightEvent :=
  [.acquireLock 1 .default, .next 0, .next 0, .crash 1, .tick 30001,
    .acquireLock 2 .default, .acquireLock 3 .default, .next 1, .next 1, .next 1, .next 2, .next 2, .next 2,
    .next 1, .next 1, .next 1, .next 2, .next 2, .next 2]

theorem singleFlight_clearedTwice :
    ¬ ∀ events, GuardedRun.Meets step Timely initial events → (events.foldl step initial).MutualExclusion := by
  intro claim
  have excluded := claim clearedTwice (by decide)
  revert excluded
  decide

end SingleFlight
end Coordinator
