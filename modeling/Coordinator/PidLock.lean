import Coordinator.Library.GuardedRun
import Coordinator.Library.LockPath
import Coordinator.AnnounceWorkflow

namespace Coordinator

/-- What `acquireLock` throws: the lock is held, or the file system refused a
call that nothing around it catches. -/
inductive PidLockError where
  | lockHeld (heldByPid : Int)
  | enoent
  | eexist
  deriving DecidableEq, Repr

/-- Where a process stands in `acquireLock`, the system call it makes next. -/
inductive PidPhase where
  | idle
  | opening
  | reading
  | judging (contents : String)
  | unlinking
  | reopening
  | writing (file : Nat)
  deriving DecidableEq, Repr

/-- A process; pids are never used twice. -/
inductive ProcessStatus where
  | unstarted
  | alive
  | dead
  deriving DecidableEq, Repr

/-- `handles` are the files behind the handles that `acquireLock` returned and
`releaseLock` has not been called with. -/
structure PidProcess where
  status : ProcessStatus
  phase : PidPhase
  handles : List Nat
  thrown : Option PidLockError
  deriving DecidableEq, Repr

/-- The file is behind an unreleased handle of the process, or behind the handle
that its `acquireLock` is about to return. -/
def PidProcess.owns (p : PidProcess) (file : Nat) : Prop :=
  p.status = .alive ∧ (file ∈ p.handles ∨ p.phase = .writing file)

/-- A process that is not about to return a handle owns what its handles name. -/
theorem PidProcess.owns.unmoved {p q : PidProcess} {file : Nat} (owned : q.owns file) (status : q.status = p.status)
    (handles : q.handles = p.handles) (phase : q.phase ≠ .writing file) : p.owns file := by
  obtain ⟨alive, handle | writing⟩ := owned
  · rw [status] at alive
    rw [handles] at handle
    exact ⟨alive, .inl handle⟩
  · exact absurd writing phase

structure PidLock where
  path : LockPath String
  process : Nat → PidProcess

inductive PidLockEvent where
  | start (pid : Nat)
  | crash (pid : Nat)
  | acquireLock (pid : Nat)
  | next (pid : Nat)
  | releaseLock (pid file : Nat)
  deriving DecidableEq, Repr

/-- The process whose state an event changes. -/
def PidLockEvent.pid : PidLockEvent → Nat
  | .start pid => pid
  | .crash pid => pid
  | .acquireLock pid => pid
  | .next pid => pid
  | .releaseLock pid _ => pid

namespace PidLock

/-- Nobody has started yet; a lock file of an earlier run may be left, whatever it says. -/
def initial (leftover : Option String) : PidLock :=
  ⟨⟨leftover.map fun contents => (0, contents), 1⟩, fun _ => ⟨.unstarted, .idle, [], none⟩⟩

def isPidAlive (s : PidLock) (pid : Int) : Bool :=
  decide (0 < pid) && decide ((s.process pid.toNat).status = .alive)

/-- The pid in the lock file, unless the text has none. -/
def heldByPid (contents : String) : Option Int := parseInt (String.ofList (trim contents.toList))

/-- The owner that the lock file names, when it is alive and another process. -/
def otherOwner (s : PidLock) (pid : Nat) (contents : String) : Option Int :=
  match heldByPid contents with
  | some held => if s.isPidAlive held = true ∧ held ≠ (pid : Int) then some held else none
  | none => none

/-- What follows the read of the lock file: the lock is held, or the file is
stale or the process's own and is taken over. -/
def judge (s : PidLock) (pid : Nat) (contents : String) (p : PidProcess) : PidProcess :=
  match s.otherOwner pid contents with
  | some held => { p with phase := .idle, thrown := some (.lockHeld held) }
  | none => { p with phase := .unlinking }

/-- The next system call of `acquireLock`. -/
def advance (s : PidLock) (pid : Nat) (p : PidProcess) : LockPath String × PidProcess :=
  match p.phase with
  | .idle => (s.path, p)
  | .opening =>
    match s.path.createExclusive "" with
    | some path => (path, { p with phase := .writing s.path.made })
    | none => (s.path, { p with phase := .reading })
  | .writing file => (s.path.write file (toString pid), { p with phase := .idle, handles := file :: p.handles })
  | .reading =>
    match s.path.content with
    | some contents => (s.path, { p with phase := .judging contents })
    | none => (s.path, { p with phase := .idle, thrown := some .enoent })
  | .judging contents => (s.path, s.judge pid contents p)
  | .unlinking =>
    match s.path.content with
    | some _ => (s.path.unlink, { p with phase := .reopening })
    | none => (s.path, { p with phase := .idle, thrown := some .enoent })
  | .reopening =>
    match s.path.createExclusive "" with
    | some path => (path, { p with phase := .writing s.path.made })
    | none => (s.path, { p with phase := .idle, thrown := some .eexist })

def set (s : PidLock) (path : LockPath String) (pid : Nat) (p : PidProcess) : PidLock :=
  ⟨path, Function.update s.process pid p⟩

/-- The functions are synchronous: a process calls one of them at a time. -/
def step (s : PidLock) : PidLockEvent → PidLock
  | .start pid =>
    if (s.process pid).status = .unstarted then s.set s.path pid ⟨.alive, .idle, [], none⟩ else s
  | .crash pid =>
    if (s.process pid).status = .alive then s.set s.path pid { s.process pid with status := .dead } else s
  | .acquireLock pid =>
    if (s.process pid).status = .alive ∧ (s.process pid).phase = .idle then
      s.set s.path pid { s.process pid with phase := .opening, thrown := none }
    else s
  | .next pid =>
    if (s.process pid).status = .alive then
      s.set (s.advance pid (s.process pid)).1 pid (s.advance pid (s.process pid)).2
    else s
  | .releaseLock pid file =>
    if (s.process pid).status = .alive ∧ (s.process pid).phase = .idle then
      s.set s.path.unlink pid { s.process pid with handles := (s.process pid).handles.filter (· ≠ file) }
    else s

/-- No two live processes both hold a handle that they have not released. -/
def MutualExclusion (s : PidLock) : Prop :=
  ∀ pid other, (s.process pid).status = .alive → (s.process other).status = .alive →
    (s.process pid).handles ≠ [] → (s.process other).handles ≠ [] → pid = other

def owns (s : PidLock) (pid file : Nat) : Prop := (s.process pid).owns file

/-- A takeover removes no file that a live process owns, and a release none but
the one behind the handle it is called with. -/
def SparesLive (s : PidLock) : PidLockEvent → Prop
  | .next pid => (s.process pid).status = .alive → (s.process pid).phase = .unlinking →
      ∀ other file, s.path.named = some file → ¬ s.owns other file
  | .releaseLock pid released => (s.process pid).status = .alive → (s.process pid).phase = .idle →
      ∀ other file, s.path.named = some file → s.owns other file → other = pid ∧ file = released
  | _ => True

variable {s : PidLock}

theorem owns_set {path : LockPath String} {pid other file : Nat} {p : PidProcess}
    (owned : (s.set path pid p).owns other file) : other = pid ∧ p.owns file ∨ other ≠ pid ∧ s.owns other file := by
  unfold owns set at owned
  dsimp only at owned
  by_cases same : other = pid
  · subst same
    rw [Function.update_self] at owned
    exact .inl ⟨rfl, owned⟩
  · rw [Function.update_of_ne same] at owned
    exact .inr ⟨same, owned⟩

/-- A system call of `acquireLock` creates the lock file, or takes it over, or
leaves the path's file where it is. -/
theorem advance_path (pid : Nat) (p : PidProcess) :
    s.path.createExclusive "" = some (s.advance pid p).1 ∨
      p.phase = .unlinking ∧ (s.advance pid p).1 = s.path.unlink ∨
      (s.advance pid p).1.named = s.path.named := by
  unfold advance
  split
  · exact .inr (.inr rfl)
  · split
    · rename_i created
      exact .inl created
    · exact .inr (.inr rfl)
  · rename_i file _
    exact .inr (.inr (LockPath.write_named s.path file (toString pid)))
  · split <;> exact .inr (.inr rfl)
  · exact .inr (.inr rfl)
  · rename_i unlinking
    split
    · exact .inr (.inl ⟨unlinking, rfl⟩)
    · exact .inr (.inr rfl)
  · split
    · rename_i created
      exact .inl created
    · exact .inr (.inr rfl)

theorem judge_owns {pid file : Nat} {contents : String} {p : PidProcess} (owned : (s.judge pid contents p).owns file) :
    p.owns file := by
  unfold judge at owned
  split at owned
  · exact owned.unmoved rfl rfl (by simp)
  · exact owned.unmoved rfl rfl (by simp)

/-- What a process owns after a system call: what it owned, or the file it has just made. -/
theorem advance_owns {pid file : Nat} {p : PidProcess} (owned : (s.advance pid p).2.owns file) :
    p.owns file ∨ s.path.createExclusive "" = some (s.advance pid p).1 ∧ file = s.path.made := by
  cases at_phase : p.phase with
  | idle =>
    simp only [advance, at_phase] at owned
    exact .inl owned
  | judging contents =>
    simp only [advance, at_phase] at owned
    exact .inl (judge_owns owned)
  | writing made =>
    simp only [advance, at_phase] at owned
    obtain ⟨alive, handle | writing⟩ := owned
    · rcases List.mem_cons.mp handle with rfl | old
      · exact .inl ⟨alive, .inr at_phase⟩
      · exact .inl ⟨alive, .inl old⟩
    · cases writing
  | opening | reopening =>
    simp only [advance, at_phase] at owned ⊢
    split at owned
    · rename_i created
      by_cases new : file = s.path.made
      · exact .inr ⟨by rw [created], new⟩
      · exact .inl (owned.unmoved rfl rfl (by simpa using Ne.symm new))
    · exact .inl (owned.unmoved rfl rfl (by simp))
  | reading =>
    simp only [advance, at_phase] at owned
    split at owned
    · exact .inl (owned.unmoved rfl rfl (by simp))
    · exact .inl (owned.unmoved rfl rfl (by simp))
  | unlinking =>
    simp only [advance, at_phase] at owned
    split at owned
    · exact .inl (owned.unmoved rfl rfl (by simp))
    · exact .inl (owned.unmoved rfl rfl (by simp))

theorem guarded_next {pid : Nat} (guarded : LockPath.Guarded s.path s.owns) (alive : (s.process pid).status = .alive)
    (spares : s.SparesLive (.next pid)) :
    LockPath.Guarded (s.advance pid (s.process pid)).1
      (s.set (s.advance pid (s.process pid)).1 pid (s.advance pid (s.process pid)).2).owns := by
  have added : ∀ other file,
      (s.set (s.advance pid (s.process pid)).1 pid (s.advance pid (s.process pid)).2).owns other file →
        s.owns other file ∨ s.path.createExclusive "" = some (s.advance pid (s.process pid)).1 ∧
          other = pid ∧ file = s.path.made := by
    intro other file owned
    rcases owns_set owned with ⟨rfl, owned⟩ | ⟨_, owned⟩
    · rcases advance_owns owned with old | ⟨created, new⟩
      · exact .inl old
      · exact .inr ⟨created, rfl, new⟩
    · exact .inl owned
  rcases advance_path pid (s.process pid) with created | ⟨unlinking, gone⟩ | same
  · refine guarded.create (c := pid) created ?_
    intro other file owned
    rcases added other file owned with old | ⟨_, new⟩
    · exact .inl old
    · exact .inr new
  · rw [gone] at added ⊢
    have kept : ∀ other file, (s.set s.path.unlink pid (s.advance pid (s.process pid)).2).owns other file →
        s.owns other file := by
      intro other file owned
      rcases added other file owned with old | ⟨created, _⟩
      · exact old
      · cases (LockPath.createExclusive_some created).2
    exact guarded.unlink kept fun other file named owned => spares alive unlinking other file named (kept other file owned)
  · refine guarded.fewer same ?_
    intro other file owned
    rcases added other file owned with old | ⟨created, _⟩
    · exact old
    · obtain ⟨free, made⟩ := LockPath.createExclusive_some created
      rw [same, free] at made
      cases made

/-- Away from the path a process may only lose what it owns. -/
theorem guarded_set {pid : Nat} {p : PidProcess} (guarded : LockPath.Guarded s.path s.owns)
    (fewer : ∀ file, p.owns file → s.owns pid file) : LockPath.Guarded s.path (s.set s.path pid p).owns := by
  refine guarded.fewer rfl ?_
  intro other file owned
  rcases owns_set owned with ⟨rfl, mine⟩ | ⟨_, old⟩
  · exact fewer file mine
  · exact old

theorem guarded_release {pid released : Nat} (guarded : LockPath.Guarded s.path s.owns)
    (ready : (s.process pid).status = .alive ∧ (s.process pid).phase = .idle)
    (spares : s.SparesLive (.releaseLock pid released)) :
    LockPath.Guarded s.path.unlink (s.set s.path.unlink pid
      { s.process pid with handles := (s.process pid).handles.filter (· ≠ released) }).owns := by
  let after : PidProcess := { s.process pid with handles := (s.process pid).handles.filter (· ≠ released) }
  have kept : ∀ other file, (s.set s.path.unlink pid after).owns other file →
      s.owns other file ∧ (other = pid → file ≠ released) := by
    intro other file owned
    rcases owns_set owned with ⟨rfl, alive, handle | writing⟩ | ⟨apart, old⟩
    · obtain ⟨handle, unreleased⟩ := List.mem_filter.mp handle
      exact ⟨⟨alive, .inl handle⟩, fun _ => by simpa using unreleased⟩
    · cases ready.2.symm.trans writing
    · exact ⟨old, fun same => absurd same apart⟩
  refine guarded.unlink (fun other file owned => (kept other file owned).1) ?_
  intro other file named owned
  obtain ⟨old, unreleased⟩ := kept other file owned
  obtain ⟨same, own⟩ := spares ready.1 ready.2 other file named old
  exact unreleased same own

/-- A step that spares the files of live processes keeps each of them at the path. -/
theorem guarded_step (e : PidLockEvent) (guarded : LockPath.Guarded s.path s.owns) (spares : s.SparesLive e) :
    LockPath.Guarded (s.step e).path (s.step e).owns := by
  cases e with
  | start pid =>
    simp only [step]
    split
    · refine guarded_set guarded ?_
      rintro file ⟨_, handle | writing⟩
      · cases handle
      · cases writing
    · exact guarded
  | crash pid =>
    simp only [step]
    split
    · refine guarded_set guarded ?_
      rintro file ⟨dead, _⟩
      cases dead
    · exact guarded
  | acquireLock pid =>
    simp only [step]
    split
    · rename_i ready
      refine guarded_set guarded ?_
      rintro file ⟨_, handle | writing⟩
      · exact ⟨ready.1, .inl handle⟩
      · cases writing
    · exact guarded
  | next pid =>
    simp only [step]
    split
    · rename_i alive
      exact guarded_next guarded alive spares
    · exact guarded
  | releaseLock pid released =>
    simp only [step]
    split
    · rename_i ready
      exact guarded_release guarded ready spares
    · exact guarded

theorem guarded_exclusive (guarded : LockPath.Guarded s.path s.owns) : s.MutualExclusion := by
  intro pid other alive alive' held held'
  obtain ⟨file, handle⟩ := List.exists_mem_of_ne_nil _ held
  obtain ⟨file', handle'⟩ := List.exists_mem_of_ne_nil _ held'
  exact guarded.exclusive (i := pid) (j := other) ⟨alive, .inl handle⟩ ⟨alive', .inl handle'⟩

/-- In every state of a run in which takeovers and releases spare the files of
live processes, at most one live process has a handle it has not released. -/
theorem pidLock_exclusive {leftover : Option String} {events done : List PidLockEvent}
    (spares : GuardedRun.Meets step SparesLive (initial leftover) events) (start : done <+: events) :
    (done.foldl step (initial leftover)).MutualExclusion := by
  have run := GuardedRun.of_meets (spares.initial start)
  have nobody : ∀ pid file, ¬ (initial leftover).owns pid file := by
    rintro pid file ⟨alive, _⟩
    cases alive
  have guarded := run.invariant (P := fun t => LockPath.Guarded t.path t.owns) (fun _ e holds ok => guarded_step e holds ok)
    (LockPath.Guarded.initial nobody)
  exact guarded_exclusive guarded

theorem step_process_other {e : PidLockEvent} {pid : Nat} (apart : pid ≠ e.pid) :
    (s.step e).process pid = s.process pid := by
  have set_other (path : LockPath String) (p : PidProcess) : (s.set path e.pid p).process pid = s.process pid :=
    Function.update_of_ne apart ..
  cases e
  all_goals
    simp only [step]
    split
    · exact set_other ..
    · rfl

theorem process_untouched {events : List PidLockEvent} {pid : Nat} (apart : ∀ e ∈ events, pid ≠ e.pid) :
    (events.foldl step s).process pid = s.process pid := by
  induction events generalizing s with
  | nil => rfl
  | cons e rest ih =>
    have later := ih (s := s.step e) fun e member => apart e (List.mem_cons_of_mem _ member)
    exact later.trans (step_process_other (apart e List.mem_cons_self))

/-- Process 2 finds the lock file of process 1, which has died. -/
def ownerDied : List PidLockEvent :=
  [.start 1, .start 2, .acquireLock 1, .next 1, .next 1, .crash 1, .acquireLock 2, .next 2, .next 2, .next 2]

/-- It takes the file over. -/
def takenOver : List PidLockEvent := ownerDied ++ [.next 2, .next 2, .next 2]

theorem ownerDied_alive {pid : Nat} (alive : ((ownerDied.foldl step (initial none)).process pid).status = .alive) :
    pid = 2 := by
  by_contra apart
  by_cases first : pid = 1
  · subst first
    revert alive
    decide
  · rw [process_untouched (by simp [ownerDied, PidLockEvent.pid, first, apart])] at alive
    cases alive

theorem ownerDied_owns (pid file : Nat) : ¬ (ownerDied.foldl step (initial none)).owns pid file := by
  rintro ⟨alive, behind⟩
  obtain rfl := ownerDied_alive alive
  have handles : ((ownerDied.foldl step (initial none)).process 2).handles = [] := by decide
  have unlinking : ((ownerDied.foldl step (initial none)).process 2).phase = .unlinking := by decide
  rcases behind with handle | writing
  · rw [handles] at handle
    cases handle
  · cases unlinking.symm.trans writing

theorem takenOver_spares :
    GuardedRun.Meets step SparesLive (initial none) takenOver := by
  refine ⟨trivial, trivial, trivial, fun _ no => ?_, fun _ no => ?_, trivial, trivial, fun _ no => ?_, fun _ no => ?_,
    fun _ no => ?_, fun _ _ pid file _ => ownerDied_owns pid file, fun _ no => ?_, fun _ no => ?_, trivial⟩
  all_goals exact absurd no (by decide)

theorem pidLock_exclusive_takenOver : (takenOver.foldl step (initial none)).MutualExclusion :=
  pidLock_exclusive takenOver_spares (List.prefix_refl _)

/-- Process 2 reads the lock file of process 1 before 1 has written its pid: the
text has no number, and 2 takes over a lock that 1 goes on to hold. -/
def readBeforePid : List PidLockEvent :=
  [.start 1, .start 2, .acquireLock 1, .next 1, .acquireLock 2, .next 2, .next 2, .next 1,
    .next 2, .next 2, .next 2, .next 2]

theorem pidLock_readBeforePid :
    ¬ ∀ leftover (events : List PidLockEvent), (events.foldl step (initial leftover)).MutualExclusion := by
  intro claim
  have same := claim none readBeforePid 1 2 (by decide) (by decide) (by decide) (by decide)
  cases same

end PidLock
end Coordinator
