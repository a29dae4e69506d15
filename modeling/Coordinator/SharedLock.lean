import Coordinator.DepartureElection
import Coordinator.Library.GuardedRun

universe u

namespace Coordinator

/-- `GET key`. -/
def getKey (now : Nat) (key : String) (keys : RedisKeys) : Option String :=
  ((keys key).filter fun held => now < held.expiresAt).map RedisValue.value

/-- `EXPIRE key ttlSeconds`, which leaves a missing key missing. -/
def expireKey (now : Nat) (key : String) (ttlSeconds : Nat) (keys : RedisKeys) : RedisKeys :=
  match (keys key).filter fun held => now < held.expiresAt with
  | none => keys
  | some held => Function.update keys key (some { held with expiresAt := now + ttlSeconds * 1000 })

/-- The script `RELEASE_LUA`. -/
def releaseLock (now : Nat) (key : String) (owner : String) (keys : RedisKeys) : RedisKeys :=
  if getKey now key keys = some owner then Function.update keys key none else keys

/-- The arguments of one call of `withLock`, its section apart. -/
structure WithLockCall where
  key : String
  ttlSeconds : Nat
  owner : String
  retryMs : Nat := 500
  maxWaitMs : Nat := 60000

/-- How long a lock of the call lives in the store. -/
def WithLockCall.ttl (call : WithLockCall) : Nat := call.ttlSeconds * 1000

/-- How far a call of `withLock` has come. `asked` has its `SET` executed and
the reply under way; `inside` runs the section, `releasing` is behind it.
The times are those of the `SET` that the call goes on. -/
inductive WithLockPhase
  | uncalled
  | acquiring (deadline : Nat)
  | asked (deadline : Nat) (refusedAt : Nat)
  | granted (since : Nat)
  | sleeping (deadline wakeAt : Nat)
  | inside (since : Nat)
  | releasing (since : Nat) (ok : Bool)
  | returned (ok : Bool)
  | timedOut (deadline refusedAt : Nat)
  | rejected
  | crashed
  deriving DecidableEq

namespace WithLockPhase

/-- When the lock was taken that the call may still rely on. -/
def lockedAt : WithLockPhase → Option Nat
  | granted since | inside since | releasing since _ => some since
  | _ => none

/-- When the call was last refused, as far as it depends on it. -/
def refusedAt : WithLockPhase → Option Nat
  | asked _ at' | timedOut _ at' => some at'
  | _ => none

/-- The call has not taken the lock. -/
def without : WithLockPhase → Bool
  | uncalled | acquiring _ | asked _ _ | sleeping _ _ | timedOut _ _ => true
  | _ => false

end WithLockPhase

/-- `fail` is an error of the connection, in place of a command or of its reply. -/
inductive WithLockAct
  | call
  | set
  | reply
  | wake
  | settle (ok : Bool)
  | release
  | fail
  | crash
  deriving DecidableEq

structure WithLockEvent (ι : Type u) where
  now : Nat
  caller : ι
  act : WithLockAct
  deriving DecidableEq

/-- The shared store and the calls of every instance, with the one clock that
they all read. `taken` lists the calls that took the lock, and when. -/
structure LockWorld (ι : Type u) where
  clock : Nat
  keys : RedisKeys
  phase : ι → WithLockPhase
  taken : List (ι × Nat)

namespace LockWorld
variable {ι : Type u} [DecidableEq ι]

def boot : LockWorld ι := ⟨0, fun _ => none, fun _ => .uncalled, []⟩

def goto (i : ι) (phase : WithLockPhase) (s : LockWorld ι) : LockWorld ι :=
  { s with phase := Function.update s.phase i phase }

/-- The `SET` of `acquireLock`. -/
def set (i : ι) (call : WithLockCall) (deadline : Nat) (s : LockWorld ι) : LockWorld ι :=
  match acquireLock s.clock call.key call.ttlSeconds call.owner s.keys with
  | (keys, true) => { s with keys, taken := s.taken ++ [(i, s.clock)] }.goto i (.granted s.clock)
  | (_, false) => s.goto i (.asked deadline s.clock)

/-- What a call of `withLock` does next. -/
def advance (i : ι) (call : WithLockCall) (s : LockWorld ι) : WithLockPhase → WithLockAct → LockWorld ι
  | .uncalled, .call => s.goto i (.acquiring (s.clock + call.maxWaitMs))
  | .acquiring deadline, .set => s.set i call deadline
  -- the error of a `SET` escapes the loop, which no `finally` surrounds
  | .acquiring _, .fail | .granted _, .fail | .asked _ _, .fail => s.goto i .rejected
  | .granted since, .reply => s.goto i (.inside since)
  | .asked deadline refusedAt, .reply =>
    if deadline < s.clock then s.goto i (.timedOut deadline refusedAt)
    else s.goto i (.sleeping deadline (s.clock + call.retryMs))
  | .sleeping deadline wakeAt, .wake => if wakeAt ≤ s.clock then s.goto i (.acquiring deadline) else s
  | .inside since, .settle ok => s.goto i (.releasing since ok)
  | .releasing _ ok, .release =>
    { s with keys := releaseLock s.clock call.key call.owner s.keys }.goto i (.returned ok)
  | .releasing _ ok, .fail => s.goto i (.returned ok)
  | .returned _, _ | .timedOut _ _, _ | .rejected, _ | .crashed, _ => s
  | _, .crash => s.goto i .crashed
  | _, _ => s

def step (calls : ι → WithLockCall) (s : LockWorld ι) (e : WithLockEvent ι) : LockWorld ι :=
  advance e.caller (calls e.caller) { s with clock := e.now } (s.phase e.caller) e.act

/-- Two locks of one key, the first of which had run out when the second was taken. -/
def Apart (calls : ι → WithLockCall) (i j : ι) (t t' : Nat) : Prop :=
  t + (calls i).ttl ≤ t' ∨ t' + (calls j).ttl ≤ t

/-- What the calls of `withLock` may count on. -/
structure Orderly (calls : ι → WithLockCall) (s : LockWorld ι) : Prop where
  /-- A section that runs while another one does began when the lock of that one had run out. -/
  exclusive : ∀ i j t t', i ≠ j → (calls i).key = (calls j).key → s.phase i = .inside t → s.phase j = .inside t' →
    Apart calls i j t t'
  /-- Nobody takes the lock away from under a section before its time. -/
  kept : ∀ i t, s.phase i = .inside t → s.clock < t + (calls i).ttl →
    getKey s.clock (calls i).key s.keys = some (calls i).owner
  /-- A call that gives up was refused for a lock that another call had taken, and not for one of its own. -/
  refused : ∀ i deadline refusedAt, s.phase i = .timedOut deadline refusedAt → ∃ j t, j ≠ i ∧
    (calls j).key = (calls i).key ∧ (j, t) ∈ s.taken ∧ t ≤ refusedAt ∧ refusedAt < t + (calls j).ttl

/-- What one step does to the store, and how its call stands afterwards. -/
inductive LockChange (i : ι) (call : WithLockCall) (s s' : LockWorld ι) : Prop
  | quiet (keys : s'.keys = s.keys) (taken : s'.taken = s.taken)
      (locked : ∀ t, (s'.phase i).lockedAt = some t → (s.phase i).lockedAt = some t)
      (without : (s'.phase i).without → (s.phase i).without)
      (refused : ∀ t, (s'.phase i).refusedAt = some t → (s.phase i).refusedAt = some t ∨
        t = s.clock ∧ ∃ held, s.keys call.key = some held ∧ s.clock < held.expiresAt)
  | took (free : (s.keys call.key).all fun held => held.expiresAt ≤ s.clock)
      (keys : s'.keys = Function.update s.keys call.key (some ⟨call.owner, s.clock + call.ttl⟩))
      (taken : s'.taken = s.taken ++ [(i, s.clock)]) (phase : s'.phase i = .granted s.clock)
  | released (keys : s'.keys = releaseLock s.clock call.key call.owner s.keys) (taken : s'.taken = s.taken)
      (since : Nat) (locked : (s.phase i).lockedAt = some since) (ok : Bool) (phase : s'.phase i = .returned ok)

section
variable {calls : ι → WithLockCall} {call : WithLockCall} {s s' : LockWorld ι} {i j : ι} {act : WithLockAct}

theorem goto_phase (phase : WithLockPhase) : (s.goto i phase).phase i = phase := Function.update_self ..

theorem goto_other (phase : WithLockPhase) (other : j ≠ i) : (s.goto i phase).phase j = s.phase j :=
  Function.update_of_ne other ..

theorem LockChange.goto {was phase : WithLockPhase} (at' : s.phase i = was)
    (locked : phase.lockedAt = none ∨ phase.lockedAt = was.lockedAt) (without : phase.without → was.without)
    (refused : phase.refusedAt = none ∨ phase.refusedAt = was.refusedAt) : LockChange i call s (s.goto i phase) := by
  subst at'
  refine .quiet rfl rfl ?_ ?_ ?_ <;> rw [goto_phase]
  · intro t now
    rcases locked with nothing | same
    · simp [nothing] at now
    · rwa [same] at now
  · exact without
  · intro t now
    rcases refused with nothing | same
    · simp [nothing] at now
    · exact .inl (by rwa [same] at now)

theorem set_change {deadline : Nat} (at' : s.phase i = .acquiring deadline) :
    LockChange i call s (s.set i call deadline) := by
  unfold set acquireLock
  by_cases free : ((s.keys call.key).all fun held => held.expiresAt ≤ s.clock) = true
  · rw [if_pos free]
    exact .took free rfl rfl (goto_phase _)
  · rw [if_neg free]
    refine .quiet rfl rfl ?_ ?_ ?_ <;> rw [goto_phase]
    · intro t now
      cases now
    · intro _
      rw [at']
      rfl
    · intro t now
      cases now
      cases holds : s.keys call.key with
      | none => simp [holds] at free
      | some held => exact .inr ⟨rfl, held, rfl, by simpa [holds] using free⟩

/-- A step changes the phase of its own call and lets the others be. -/
theorem advance_other (other : j ≠ i) : (s.advance i call (s.phase i) act).phase j = s.phase j := by
  unfold advance
  split <;> try exact goto_other _ other
  · unfold set
    split <;> exact goto_other _ other
  · split <;> exact goto_other _ other
  · split
    · exact goto_other _ other
    · rfl
  all_goals rfl

theorem advance_clock : (s.advance i call (s.phase i) act).clock = s.clock := by
  unfold advance
  split <;> try rfl
  · unfold set
    split <;> rfl
  · split <;> rfl
  · split <;> rfl

theorem advance_change : LockChange i call s (s.advance i call (s.phase i) act) := by
  generalize was : s.phase i = phase
  have stay : LockChange i call s s := .quiet rfl rfl (fun _ => id) id fun _ => .inl
  unfold advance
  split
  · exact .goto was (.inl rfl) (fun _ => rfl) (.inl rfl)
  · exact set_change was
  · exact .goto was (.inl rfl) nofun (.inl rfl)
  · exact .goto was (.inl rfl) nofun (.inl rfl)
  · exact .goto was (.inl rfl) nofun (.inl rfl)
  · exact .goto was (.inr rfl) nofun (.inl rfl)
  · split
    · exact .goto was (.inl rfl) (fun _ => rfl) (.inr rfl)
    · exact .goto was (.inl rfl) (fun _ => rfl) (.inl rfl)
  · split
    · exact .goto was (.inl rfl) (fun _ => rfl) (.inl rfl)
    · exact stay
  · exact .goto was (.inr rfl) nofun (.inl rfl)
  · exact .released rfl rfl _ (by rw [was]; rfl) _ (goto_phase _)
  · exact .goto was (.inl rfl) nofun (.inl rfl)
  · exact stay
  · exact stay
  · exact stay
  · exact stay
  · exact .goto was (.inl rfl) nofun (.inl rfl)
  · exact stay

/-- What holds of the store and of all calls at once, step after step. -/
structure Locked (calls : ι → WithLockCall) (s : LockWorld ι) : Prop where
  leased : ∀ i t, (s.phase i).lockedAt = some t → t ≤ s.clock ∧ (s.clock < t + (calls i).ttl →
    s.keys (calls i).key = some ⟨(calls i).owner, t + (calls i).ttl⟩)
  apart : ∀ i j t t', i ≠ j → (calls i).key = (calls j).key → (s.phase i).lockedAt = some t →
    (s.phase j).lockedAt = some t' → Apart calls i j t t'
  sourced : ∀ key held, s.keys key = some held → ∃ j t, (calls j).key = key ∧ (j, t) ∈ s.taken ∧ t ≤ s.clock ∧
    held.expiresAt = t + (calls j).ttl
  taken : ∀ i t, (i, t) ∈ s.taken → (s.phase i).without = false
  refused : ∀ i r, (s.phase i).refusedAt = some r → ∃ j t, j ≠ i ∧ (calls j).key = (calls i).key ∧ (j, t) ∈ s.taken ∧
    t ≤ r ∧ r < t + (calls j).ttl

theorem WithLockPhase.without_of_refusedAt {phase : WithLockPhase} {r : Nat} (refused : phase.refusedAt = some r) :
    phase.without = true := by
  cases phase <;> simp_all [WithLockPhase.refusedAt, WithLockPhase.without]

theorem WithLockPhase.without_of_lockedAt {phase : WithLockPhase} {t : Nat} (locked : phase.lockedAt = some t) :
    phase.without = false := by
  cases phase <;> simp_all [WithLockPhase.lockedAt, WithLockPhase.without]

theorem Locked.tick (locked : Locked calls s) {now : Nat} (later : s.clock ≤ now) :
    Locked calls { s with clock := now } where
  leased i t at' := by
    obtain ⟨past, held⟩ := locked.leased i t at'
    exact ⟨past.trans later, fun early => held (lt_of_le_of_lt later early)⟩
  apart := locked.apart
  sourced key held holds := by
    obtain ⟨j, t, same, mem, past, expires⟩ := locked.sourced key held holds
    exact ⟨j, t, same, mem, past.trans later, expires⟩
  taken := locked.taken
  refused := locked.refused

theorem Locked.quiet (locked : Locked calls s) (clock : s'.clock = s.clock)
    (others : ∀ j, j ≠ i → s'.phase j = s.phase j) (keys : s'.keys = s.keys) (taken : s'.taken = s.taken)
    (lockedAt : ∀ t, (s'.phase i).lockedAt = some t → (s.phase i).lockedAt = some t)
    (without : (s'.phase i).without → (s.phase i).without)
    (refused : ∀ t, (s'.phase i).refusedAt = some t → (s.phase i).refusedAt = some t ∨
      t = s.clock ∧ ∃ held, s.keys (calls i).key = some held ∧ s.clock < held.expiresAt) : Locked calls s' := by
  have kept : ∀ j t, (s'.phase j).lockedAt = some t → (s.phase j).lockedAt = some t := by
    intro j t at'
    by_cases same : j = i
    · subst same
      exact lockedAt t at'
    · rwa [others j same] at at'
  refine ⟨?_, ?_, ?_, ?_, ?_⟩
  · intro j t at'
    rw [clock, keys]
    exact locked.leased j t (kept j t at')
  · intro j k t t' other key at' at''
    exact locked.apart j k t t' other key (kept j t at') (kept k t' at'')
  · rw [clock, keys, taken]
    exact locked.sourced
  · intro j t mem
    rw [taken] at mem
    have before := locked.taken j t mem
    by_cases same : j = i
    · subst same
      exact Bool.eq_false_iff.mpr fun now => Bool.eq_false_iff.mp before (without now)
    · rwa [others j same]
  · intro j r at'
    rw [taken]
    by_cases same : j = i
    · subst same
      rcases refused r at' with before | ⟨rfl, held, holds, live⟩
      · exact locked.refused j r before
      · obtain ⟨k, t, key, mem, past, expires⟩ := locked.sourced _ held holds
        refine ⟨k, t, ?_, key, mem, past, by omega⟩
        rintro rfl
        have own := without (WithLockPhase.without_of_refusedAt at')
        rw [locked.taken k t mem] at own
        cases own
    · exact locked.refused j r (by rwa [others j same] at at')

theorem Locked.took (locked : Locked calls s) (clock : s'.clock = s.clock)
    (others : ∀ j, j ≠ i → s'.phase j = s.phase j)
    (free : (s.keys (calls i).key).all fun held => held.expiresAt ≤ s.clock)
    (keys : s'.keys = Function.update s.keys (calls i).key (some ⟨(calls i).owner, s.clock + (calls i).ttl⟩))
    (taken : s'.taken = s.taken ++ [(i, s.clock)]) (phase : s'.phase i = .granted s.clock) : Locked calls s' := by
  -- whoever relies on a lock of this key relies on one that has run out
  have ranOut : ∀ j t, (calls j).key = (calls i).key → (s.phase j).lockedAt = some t →
      t + (calls j).ttl ≤ s.clock := by
    intro j t key at'
    by_contra early
    have held := (locked.leased j t at').2 (by omega)
    rw [key] at held
    rw [held] at free
    have past : t + (calls j).ttl ≤ s.clock := of_decide_eq_true free
    exact early past
  have mine : ∀ t, (s'.phase i).lockedAt = some t → t = s.clock := by
    intro t at'
    rw [phase] at at'
    exact (Option.some.inj at').symm
  have theirs : ∀ j t, j ≠ i → (s'.phase j).lockedAt = some t → (s.phase j).lockedAt = some t := by
    intro j t other at'
    rwa [others j other] at at'
  refine ⟨?_, ?_, ?_, ?_, ?_⟩
  · intro j t at'
    rw [clock, keys]
    by_cases same : j = i
    · subst same
      cases mine t at'
      exact ⟨Nat.le_refl _, fun _ => Function.update_self ..⟩
    · have before := theirs j t same at'
      refine ⟨(locked.leased j t before).1, fun early => ?_⟩
      by_cases key : (calls j).key = (calls i).key
      · have past := ranOut j t key before
        omega
      · rw [Function.update_of_ne key]
        exact (locked.leased j t before).2 early
  · intro j k t t' other key at' at''
    by_cases same : j = i
    · subst same
      have before := theirs k t' (Ne.symm other) at''
      have past := ranOut k t' key.symm before
      cases mine t at'
      exact .inr past
    · by_cases same' : k = i
      · subst same'
        have past := ranOut j t key (theirs j t same at')
        cases mine t' at''
        exact .inl past
      · exact locked.apart j k t t' other key (theirs j t same at') (theirs k t' same' at'')
  · intro key held holds
    rw [clock, taken]
    rw [keys] at holds
    by_cases same : key = (calls i).key
    · subst same
      rw [Function.update_self] at holds
      cases holds
      exact ⟨i, s.clock, rfl, by simp, Nat.le_refl _, rfl⟩
    · rw [Function.update_of_ne same] at holds
      obtain ⟨j, t, named, mem, past, expires⟩ := locked.sourced key held holds
      exact ⟨j, t, named, List.mem_append_left _ mem, past, expires⟩
  · intro j t mem
    by_cases same : j = i
    · subst same
      rw [phase]
      rfl
    · rw [others j same]
      rw [taken] at mem
      rcases List.mem_append.mp mem with before | now
      · exact locked.taken j t before
      · simp [same] at now
  · intro j r at'
    by_cases same : j = i
    · subst same
      rw [phase] at at'
      cases at'
    · rw [others j same] at at'
      obtain ⟨k, t, other, key, mem, bounds⟩ := locked.refused j r at'
      exact ⟨k, t, other, key, by rw [taken]; exact List.mem_append_left _ mem, bounds⟩

theorem Locked.released (owners : Function.Injective fun i => (calls i).owner) (locked : Locked calls s)
    (clock : s'.clock = s.clock) (others : ∀ j, j ≠ i → s'.phase j = s.phase j)
    (keys : s'.keys = releaseLock s.clock (calls i).key (calls i).owner s.keys) (taken : s'.taken = s.taken)
    {ok : Bool} (phase : s'.phase i = .returned ok) : Locked calls s' := by
  have theirs : ∀ j t, (s'.phase j).lockedAt = some t → j ≠ i ∧ (s.phase j).lockedAt = some t := by
    intro j t at'
    by_cases same : j = i
    · subst same
      rw [phase] at at'
      cases at'
    · exact ⟨same, by rwa [others j same] at at'⟩
  refine ⟨?_, ?_, ?_, ?_, ?_⟩
  · intro j t at'
    obtain ⟨other, before⟩ := theirs j t at'
    obtain ⟨past, held⟩ := locked.leased j t before
    rw [clock, keys]
    refine ⟨past, fun early => ?_⟩
    unfold releaseLock
    split
    · rename_i own
      by_cases key : (calls j).key = (calls i).key
      · -- the script finds the owner of the lock in the store, which is not the releasing one
        rw [← key, getKey, held early, Option.filter_some, if_pos (decide_eq_true early)] at own
        exact absurd (owners (Option.some.inj own)) other
      · rw [Function.update_of_ne key]
        exact held early
    · exact held early
  · intro j k t t' other key at' at''
    exact locked.apart j k t t' other key (theirs j t at').2 (theirs k t' at'').2
  · intro key held holds
    rw [clock, taken]
    rw [keys] at holds
    refine locked.sourced key held ?_
    unfold releaseLock at holds
    split at holds
    · by_cases same : key = (calls i).key
      · subst same
        rw [Function.update_self] at holds
        cases holds
      · rwa [Function.update_of_ne same] at holds
    · exact holds
  · intro j t mem
    rw [taken] at mem
    by_cases same : j = i
    · subst same
      rw [phase]
      rfl
    · rw [others j same]
      exact locked.taken j t mem
  · intro j r at'
    by_cases same : j = i
    · subst same
      rw [phase] at at'
      cases at'
    · rw [taken]
      exact locked.refused j r (by rwa [others j same] at at')

theorem step_clock (e : WithLockEvent ι) : (s.step calls e).clock = e.now :=
  advance_clock (s := { s with clock := e.now })

theorem Locked.step (owners : Function.Injective fun i => (calls i).owner) (locked : Locked calls s)
    (e : WithLockEvent ι) (later : s.clock ≤ e.now) : Locked calls (s.step calls e) := by
  have ticked := locked.tick later
  have others : ∀ j, j ≠ e.caller → (s.step calls e).phase j = s.phase j := fun j other =>
    advance_other (s := { s with clock := e.now }) other
  have clock : (s.step calls e).clock = e.now := step_clock e
  have change : LockChange e.caller (calls e.caller) { s with clock := e.now } (s.step calls e) :=
    advance_change (s := { s with clock := e.now })
  cases change with
  | quiet keys taken lockedAt without refused => exact ticked.quiet clock others keys taken lockedAt without refused
  | took free keys taken phase => exact ticked.took clock others free keys taken phase
  | released keys taken _ _ _ phase => exact ticked.released owners clock others keys taken phase

theorem Locked.orderly (locked : Locked calls s) : Orderly calls s where
  exclusive i j t t' other key here there :=
    locked.apart i j t t' other key (by rw [here]; rfl) (by rw [there]; rfl)
  kept i t here early := by
    have held := (locked.leased i t (by rw [here]; rfl)).2 early
    rw [getKey, held, Option.filter_some, if_pos (decide_eq_true early)]
    rfl
  refused i deadline refusedAt gaveUp := locked.refused i refusedAt (by rw [gaveUp]; rfl)

theorem Locked.boot (calls : ι → WithLockCall) : Locked calls boot where
  leased := nofun
  apart := nofun
  sourced := nofun
  taken := nofun
  refused := nofun

end

/-- Calls of `withLock` by instances of different names, in whatever order
their commands reach the store and whatever gets lost: no section starts while
another one runs on a lock that still lives, and none loses its lock early. -/
theorem withLock_orderly (calls : ι → WithLockCall) (owners : Function.Injective fun i => (calls i).owner)
    (events : List (WithLockEvent ι)) (inOrder : (0 :: events.map WithLockEvent.now).Pairwise (· ≤ ·)) :
    Orderly calls (events.foldl (step calls) boot) := by
  have run : GuardedRun (step calls) (fun s e => s.clock ≤ e.now) boot (events.foldl (step calls) boot) :=
    .of_meets (.of_clock LockWorld.clock (fun _ e => step_clock e) inOrder)
  exact (run.invariant (fun s e locked => locked.step owners e) (Locked.boot calls)).orderly

/-- The lock of the boot migrations, for which an instance waits as long as it lives. -/
def migrationCall (instance' : String) : WithLockCall where
  key := "coordinator:boot:migration"
  ttlSeconds := 120
  owner := instance'
  maxWaitMs := 120000

def overrunCalls (second : Bool) : WithLockCall := migrationCall (if second then "b" else "a")

def overrunEvents : List (WithLockEvent Bool) :=
  [⟨0, false, .call⟩, ⟨1, false, .set⟩, ⟨2, false, .reply⟩, ⟨3, true, .call⟩, ⟨4, true, .set⟩, ⟨5, true, .reply⟩,
    ⟨120001, true, .wake⟩, ⟨120001, true, .set⟩, ⟨120002, true, .reply⟩]

/-- The first instance overruns its lock, and the second one runs its migrations besides. -/
theorem withLock_orderly_overrun :
    (overrunEvents.foldl (step overrunCalls) boot).phase false = .inside 1 ∧
      (overrunEvents.foldl (step overrunCalls) boot).phase true = .inside 120001 ∧
      Orderly overrunCalls (overrunEvents.foldl (step overrunCalls) boot) :=
  ⟨by decide, by decide, withLock_orderly overrunCalls (by unfold Function.Injective; decide) _ (by decide)⟩

end LockWorld

end Coordinator
