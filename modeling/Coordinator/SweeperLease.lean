import Coordinator.SharedLock

universe u

namespace Coordinator

def sweeperKey : String := "coordinator:sweeper:leader"

/-- How long the leader's lease lives, `90` seconds. -/
def leaseMs : Nat := 90000

/-- Why a tick's `leaderGate` let it sweep: `acquireLock` took the lease,
`EXPIRE` prolonged a lease that was its own or one that had run out since
`GET`, or the gate threw. -/
inductive LeadGround
  | took
  | renewed
  | lapsed
  | gateError
  deriving DecidableEq

def LeadGround.leases : LeadGround → Bool
  | took | renewed => true
  | lapsed | gateError => false

/-- Where a tick of a sweeper stands in `acquireOrRenewLock`, the command it
sends next. -/
inductive TickPhase
  | set
  | get (refusedAt : Nat)
  | expire
  | leads
  | skips (refusedAt readAt : Nat)
  deriving DecidableEq

/-- A tick that sweeps, and when the store last heard from it. -/
structure Lead (ι : Type u) where
  tick : ι
  time : Nat
  ground : LeadGround
  deriving DecidableEq

inductive TickAct
  | command
  | fail
  deriving DecidableEq

structure TickEvent (ι : Type u) where
  now : Nat
  tick : ι
  act : TickAct
  deriving DecidableEq

/-- The ticks of the sweepers of all instances. A tick does not wait for the
one before it, so that an instance may have several under way. -/
structure SweeperElection (ι : Type u) where
  clock : Nat
  keys : RedisKeys
  phase : ι → TickPhase
  led : List (Lead ι)

namespace SweeperElection
variable {ι : Type u} [DecidableEq ι]

def boot : SweeperElection ι := ⟨0, fun _ => none, fun _ => .set, []⟩

def goto (i : ι) (phase : TickPhase) (s : SweeperElection ι) : SweeperElection ι :=
  { s with phase := Function.update s.phase i phase }

def lead (i : ι) (ground : LeadGround) (s : SweeperElection ι) : SweeperElection ι :=
  { s with led := s.led ++ [Lead.mk i s.clock ground] }.goto i .leads

/-- The next command of the gate, or its failure, which `tick` takes for leave to sweep. -/
def advance (owner : String) (i : ι) (s : SweeperElection ι) : TickPhase → TickAct → SweeperElection ι
  | .set, .command =>
    match acquireLock s.clock sweeperKey 90 owner s.keys with
    | (keys, true) => { s with keys }.lead i .took
    | (_, false) => s.goto i (.get s.clock)
  | .get refusedAt, .command =>
    if getKey s.clock sweeperKey s.keys = some owner then s.goto i .expire else s.goto i (.skips refusedAt s.clock)
  | .expire, .command =>
    let ground := if getKey s.clock sweeperKey s.keys = some owner then LeadGround.renewed else .lapsed
    { s with keys := expireKey s.clock sweeperKey 90 s.keys }.lead i ground
  | .set, .fail | .get _, .fail | .expire, .fail => s.lead i .gateError
  | .leads, _ | .skips _ _, _ => s

def step (owner : ι → String) (s : SweeperElection ι) (e : TickEvent ι) : SweeperElection ι :=
  advance (owner e.tick) e.tick { s with clock := e.now } (s.phase e.tick) e.act

/-- What the lease does for the sweepers. -/
structure Elected (owner : ι → String) (s : SweeperElection ι) : Prop where
  /-- Two instances that lead on a lease of theirs lead a whole lease apart. -/
  exclusive : ∀ l ∈ s.led, ∀ m ∈ s.led, owner l.tick ≠ owner m.tick → l.ground.leases → m.ground.leases →
    l.time + leaseMs ≤ m.time ∨ m.time + leaseMs ≤ l.time
  /-- A leader is not sent away before its lease has run out. -/
  incumbent : ∀ i refusedAt readAt, s.phase i = .skips refusedAt readAt → ∀ l ∈ s.led, owner l.tick = owner i →
    l.ground.leases → l.time < readAt → l.time + leaseMs ≤ readAt
  /-- A tick is sent away on account of a tick that was let through less than a lease before. -/
  vacant : ∀ i refusedAt readAt, s.phase i = .skips refusedAt readAt → ∃ l ∈ s.led, l.ground ≠ .gateError ∧
    l.time ≤ refusedAt ∧ refusedAt < l.time + leaseMs

/-- What holds of the lease and of the ticks at once, step after step. -/
structure Sound (owner : ι → String) (s : SweeperElection ι) : Prop extends Elected owner s where
  past : ∀ l ∈ s.led, l.time ≤ s.clock
  leased : ∀ l ∈ s.led, l.ground.leases → s.clock < l.time + leaseMs → ∃ expiresAt,
    s.keys sweeperKey = some ⟨owner l.tick, expiresAt⟩ ∧ l.time + leaseMs ≤ expiresAt
  sourced : ∀ held, s.keys sweeperKey = some held → ∃ l ∈ s.led, l.ground ≠ .gateError ∧ held.expiresAt = l.time + leaseMs
  refused : ∀ i refusedAt, s.phase i = .get refusedAt → ∃ l ∈ s.led, l.ground ≠ .gateError ∧ l.time ≤ refusedAt ∧
    refusedAt < l.time + leaseMs
  read : ∀ i refusedAt readAt, s.phase i = .skips refusedAt readAt → readAt ≤ s.clock

section
variable {owner : ι → String} {s : SweeperElection ι} {i j : ι}

theorem goto_phase (phase : TickPhase) : (s.goto i phase).phase i = phase := Function.update_self ..

theorem goto_other (phase : TickPhase) (other : j ≠ i) : (s.goto i phase).phase j = s.phase j :=
  Function.update_of_ne other ..

/-- The owner that the store names is live there. -/
theorem getKey_eq_some {now : Nat} {key value : String} {keys : RedisKeys} :
    getKey now key keys = some value ↔ ∃ expiresAt, keys key = some ⟨value, expiresAt⟩ ∧ now < expiresAt := by
  unfold getKey
  cases holds : keys key with
  | none => simp
  | some held =>
    obtain ⟨named, expiresAt⟩ := held
    by_cases live : now < expiresAt
    · simp [live, Option.filter]
    · simp [live, Option.filter]

omit [DecidableEq ι] in
theorem Sound.boot (owner : ι → String) : Sound owner boot where
  exclusive := nofun
  incumbent := nofun
  vacant := nofun
  past := nofun
  leased := nofun
  sourced := nofun
  refused := nofun
  read := nofun

omit [DecidableEq ι] in
theorem Sound.tick (sound : Sound owner s) {now : Nat} (later : s.clock ≤ now) :
    Sound owner { s with clock := now } where
  toElected := ⟨sound.exclusive, sound.incumbent, sound.vacant⟩
  past l mem := (sound.past l mem).trans later
  leased l mem leases early := sound.leased l mem leases (lt_of_le_of_lt later early)
  sourced := sound.sourced
  refused := sound.refused
  read i refusedAt readAt skipped := (sound.read i refusedAt readAt skipped).trans later

/-- A command that leaves the lease alone: the tick was refused, is about to
prolong its lease, or is sent away. -/
theorem Sound.goto (sound : Sound owner s) {phase : TickPhase}
    (refused : ∀ refusedAt, phase = .get refusedAt → ∃ l ∈ s.led, l.ground ≠ .gateError ∧ l.time ≤ refusedAt ∧
      refusedAt < l.time + leaseMs)
    (skipped : ∀ refusedAt readAt, phase = .skips refusedAt readAt → s.phase i = .get refusedAt ∧ readAt = s.clock ∧
      getKey s.clock sweeperKey s.keys ≠ some (owner i)) : Sound owner (s.goto i phase) where
  exclusive := sound.exclusive
  past := sound.past
  leased := sound.leased
  sourced := sound.sourced
  incumbent j refusedAt readAt at' l mem own leases before := by
    by_cases same : j = i
    · subst same
      rw [goto_phase] at at'
      obtain ⟨-, rfl, unnamed⟩ := skipped refusedAt readAt at'
      by_contra early
      obtain ⟨expiresAt, held, lasts⟩ := sound.leased l mem leases (by omega)
      rw [own] at held
      exact unnamed (getKey_eq_some.mpr ⟨expiresAt, held, by omega⟩)
    · rw [goto_other _ same] at at'
      exact sound.incumbent j refusedAt readAt at' l mem own leases before
  vacant j refusedAt readAt at' := by
    by_cases same : j = i
    · subst same
      rw [goto_phase] at at'
      exact sound.refused j refusedAt (skipped refusedAt readAt at').1
    · rw [goto_other _ same] at at'
      exact sound.vacant j refusedAt readAt at'
  refused j refusedAt at' := by
    by_cases same : j = i
    · subst same
      rw [goto_phase] at at'
      exact refused refusedAt at'
    · rw [goto_other _ same] at at'
      exact sound.refused j refusedAt at'
  read j refusedAt readAt at' := by
    by_cases same : j = i
    · subst same
      rw [goto_phase] at at'
      exact (skipped refusedAt readAt at').2.1.le
    · rw [goto_other _ same] at at'
      exact sound.read j refusedAt readAt at'

/-- A command on which the tick sweeps: a lease of its own then lasts from now
on, and no other lease is cut short. -/
theorem Sound.lead (sound : Sound owner s) {keys : RedisKeys} {ground : LeadGround}
    (leased : ground.leases → keys sweeperKey = some ⟨owner i, s.clock + leaseMs⟩ ∧
      ∀ expiresAt name, s.keys sweeperKey = some ⟨name, expiresAt⟩ → name ≠ owner i → expiresAt ≤ s.clock)
    (others : ∀ name expiresAt, s.keys sweeperKey = some ⟨name, expiresAt⟩ → s.clock < expiresAt →
      ∃ later, keys sweeperKey = some ⟨name, later⟩ ∧ (later = expiresAt ∨ later = s.clock + leaseMs))
    (sourced : ∀ held, keys sweeperKey = some held → s.keys sweeperKey = some held ∨
      ground ≠ .gateError ∧ held.expiresAt = s.clock + leaseMs) :
    Sound owner ({ s with keys }.lead i ground) := by
  have past : ∀ l ∈ s.led, l.time ≤ s.clock := sound.past
  have phases : ∀ j, j ≠ i → ({ s with keys }.lead i ground).phase j = s.phase j := fun j other =>
    goto_other _ other
  have mine : ({ s with keys }.lead i ground).phase i = .leads := goto_phase _
  have led : ({ s with keys }.lead i ground).led = s.led ++ [⟨i, s.clock, ground⟩] := rfl
  -- the leases of the others have run out when the tick leads on one of its own
  have expired : ∀ l ∈ s.led, owner l.tick ≠ owner i → l.ground.leases → ground.leases → l.time + leaseMs ≤ s.clock := by
    intro l mem other leases leases'
    by_contra early
    obtain ⟨expiresAt, held, lasts⟩ := sound.leased l mem leases (by omega)
    have ranOut := (leased leases').2 expiresAt _ held other
    omega
  refine ⟨⟨?_, ?_, ?_⟩, ?_, ?_, ?_, ?_, ?_⟩
  · intro l inL m inM other leases leases'
    rw [led, List.mem_append, List.mem_singleton] at inL inM
    rcases inL with before | rfl <;> rcases inM with before' | rfl
    · exact sound.exclusive l before m before' other leases leases'
    · exact .inl (expired l before other leases leases')
    · exact .inr (expired m before' (Ne.symm other) leases' leases)
    · exact absurd rfl other
  · intro j refusedAt readAt at' l inL own leases before
    by_cases same : j = i
    · subst same
      rw [mine] at at'
      cases at'
    · rw [phases j same] at at'
      rw [led, List.mem_append, List.mem_singleton] at inL
      rcases inL with mem | rfl
      · exact sound.incumbent j refusedAt readAt at' l mem own leases before
      · have early := sound.read j refusedAt readAt at'
        simp only at before
        omega
  · intro j refusedAt readAt at'
    by_cases same : j = i
    · subst same
      rw [mine] at at'
      cases at'
    · rw [phases j same] at at'
      obtain ⟨l, mem, bounds⟩ := sound.vacant j refusedAt readAt at'
      exact ⟨l, List.mem_append_left _ mem, bounds⟩
  · intro l inL
    rw [led, List.mem_append, List.mem_singleton] at inL
    rcases inL with mem | rfl
    · exact past l mem
    · exact Nat.le_refl _
  · intro l inL leases early
    rw [led, List.mem_append, List.mem_singleton] at inL
    rcases inL with mem | rfl
    · obtain ⟨expiresAt, held, lasts⟩ := sound.leased l mem leases early
      have began := past l mem
      obtain ⟨later, kept, prolonged⟩ := others _ expiresAt held (lt_of_lt_of_le early lasts)
      exact ⟨later, kept, by omega⟩
    · exact ⟨_, (leased leases).1, Nat.le_refl _⟩
  · intro held holds
    rcases sourced held holds with before | ⟨ground', expires⟩
    · obtain ⟨l, mem, source⟩ := sound.sourced held before
      exact ⟨l, List.mem_append_left _ mem, source⟩
    · exact ⟨_, List.mem_append_right _ (List.mem_singleton.mpr rfl), ground', expires⟩
  · intro j refusedAt at'
    by_cases same : j = i
    · subst same
      rw [mine] at at'
      cases at'
    · rw [phases j same] at at'
      obtain ⟨l, mem, bounds⟩ := sound.refused j refusedAt at'
      exact ⟨l, List.mem_append_left _ mem, bounds⟩
  · intro j refusedAt readAt at'
    by_cases same : j = i
    · subst same
      rw [mine] at at'
      cases at'
    · rw [phases j same] at at'
      exact sound.read j refusedAt readAt at'

theorem Sound.set (sound : Sound owner s) :
    Sound owner (s.advance (owner i) i .set .command) := by
  unfold advance acquireLock
  by_cases free : ((s.keys sweeperKey).all fun held => held.expiresAt ≤ s.clock) = true
  · simp only [if_pos free]
    have expired : ∀ name expiresAt, s.keys sweeperKey = some ⟨name, expiresAt⟩ → expiresAt ≤ s.clock := by
      intro name expiresAt held
      rw [held] at free
      exact of_decide_eq_true free
    refine sound.lead (fun _ => ⟨Function.update_self .., fun expiresAt name held _ => expired name expiresAt held⟩) ?_ ?_
    · intro name expiresAt held live
      have ranOut := expired name expiresAt held
      omega
    · intro held holds
      rw [Function.update_self] at holds
      cases holds
      exact .inr ⟨nofun, rfl⟩
  · simp only [if_neg free]
    refine sound.goto (fun refusedAt at' => ?_) nofun
    cases at'
    cases holds : s.keys sweeperKey with
    | none => simp [holds] at free
    | some held =>
      have live : s.clock < held.expiresAt := by simpa [holds] using free
      obtain ⟨l, mem, ground, expires⟩ := sound.sourced held holds
      exact ⟨l, mem, ground, sound.past l mem, by omega⟩

theorem Sound.get (sound : Sound owner s) {refusedAt : Nat} (at' : s.phase i = .get refusedAt) :
    Sound owner (s.advance (owner i) i (.get refusedAt) .command) := by
  simp only [advance]
  split
  · exact sound.goto nofun nofun
  · rename_i unnamed
    refine sound.goto nofun fun refusedAt' readAt skipped => ?_
    cases skipped
    exact ⟨at', rfl, unnamed⟩

theorem Sound.expire (sound : Sound owner s) : Sound owner (s.advance (owner i) i .expire .command) := by
  simp only [advance]
  refine sound.lead ?_ ?_ ?_
  · intro leases
    split at leases
    · rename_i named
      obtain ⟨expiresAt, held, live⟩ := getKey_eq_some.mp named
      rw [expireKey, held, Option.filter_some, if_pos (decide_eq_true live)]
      refine ⟨Function.update_self .., fun expiresAt' name held' other => ?_⟩
      cases held'
      exact absurd rfl other
    · cases leases
  · intro name expiresAt held live
    rw [expireKey, held, Option.filter_some, if_pos (decide_eq_true live)]
    exact ⟨_, Function.update_self .., .inr rfl⟩
  · intro held holds
    rw [expireKey] at holds
    cases live : (s.keys sweeperKey).filter fun held => s.clock < held.expiresAt with
    | none =>
      rw [live] at holds
      exact .inl holds
    | some before =>
      rw [live] at holds
      simp only [Function.update_self] at holds
      cases holds
      refine .inr ⟨?_, rfl⟩
      split <;> nofun

theorem Sound.fail (sound : Sound owner s) : Sound owner (s.lead i .gateError) :=
  sound.lead (fun leases => nomatch leases) (fun _ expiresAt held _ => ⟨expiresAt, held, .inl rfl⟩) fun _ => .inl

theorem Sound.step (sound : Sound owner s) (e : TickEvent ι) (later : s.clock ≤ e.now) :
    Sound owner (s.step owner e) := by
  have ticked := sound.tick later
  unfold SweeperElection.step
  cases at' : s.phase e.tick with
  | set =>
    cases e.act with
    | command => exact ticked.set
    | fail => exact ticked.fail
  | get refusedAt =>
    cases e.act with
    | command => exact ticked.get at'
    | fail => exact ticked.fail
  | expire =>
    cases e.act with
    | command => exact ticked.expire
    | fail => exact ticked.fail
  | leads => exact ticked
  | skips refusedAt readAt => exact ticked

theorem step_clock (e : TickEvent ι) : (s.step owner e).clock = e.now := by
  unfold step advance
  split
  · split <;> rfl
  · split <;> rfl
  all_goals rfl

end

/-- The sweepers' election, over every order in which the three commands of
every tick reach the store. -/
theorem sweepers_elected (owner : ι → String) (events : List (TickEvent ι))
    (inOrder : (0 :: events.map TickEvent.now).Pairwise (· ≤ ·)) : Elected owner (events.foldl (step owner) boot) := by
  have run : GuardedRun (step owner) (fun s e => s.clock ≤ e.now) boot (events.foldl (step owner) boot) :=
    .of_meets (.of_clock SweeperElection.clock (fun _ e => step_clock e) inOrder)
  exact (run.invariant (fun s e sound => sound.step e) (Sound.boot owner)).toElected

/-- Ticks `0` and `2` are of one instance, tick `1` of another. -/
def sampleOwner (tick : Nat) : String := if tick = 1 then "sweeper-b" else "sweeper-a"

def sampleTicks : List (TickEvent Nat) :=
  [⟨0, 0, .command⟩, ⟨30000, 1, .command⟩, ⟨30001, 1, .command⟩, ⟨60000, 2, .command⟩, ⟨60001, 2, .command⟩,
    ⟨60002, 2, .command⟩]

/-- The leader renews its lease, and the other instance is sent away. -/
theorem sweepers_elected_renewed :
    (sampleTicks.foldl (step sampleOwner) boot).led = [⟨0, 0, .took⟩, ⟨2, 60002, .renewed⟩] ∧
      Elected sampleOwner (sampleTicks.foldl (step sampleOwner) boot) :=
  ⟨by decide, sweepers_elected sampleOwner sampleTicks (by decide)⟩

end SweeperElection

end Coordinator
