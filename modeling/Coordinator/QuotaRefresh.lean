import Mathlib.Data.Rat.Defs
import Mathlib.Algebra.Order.Ring.Rat
import Mathlib.Data.List.Perm.Basic
import Coordinator.Library.GuardedRun
import Coordinator.QuotaPresence

namespace Coordinator

structure QuotaBucket where
  utilization : ℚ
  resetsAt : String
  minutesUntilReset : Int
  deriving DecidableEq

structure QuotaInfo where
  fiveHour : QuotaBucket
  sevenDay : QuotaBucket
  sevenDaySonnet : Option QuotaBucket
  fetchedAt : ℚ
  deriving DecidableEq

def defaultTtlMs : ℚ := 120000

def default429CooldownMs : ℚ := 5 * 60000

def min429CooldownMs : ℚ := 60000

def isFresh (info : Option QuotaInfo) (ttlMs now : ℚ) : Bool := info.any fun info => now - info.fetchedAt < ttlMs

/-- How a call of the fetcher ends. -/
inductive FetchOutcome
  | fetched (info : QuotaInfo)
  | unavailable (message : String) (httpStatus : Option Nat) (retryAfterSeconds : Option ℚ)
  | thrown (message : String)
  deriving DecidableEq

/-- What has happened on the cache, in the eyes of the API and of the callers. -/
inductive QuotaLog
  | started (time : ℚ)
  | succeeded (info : QuotaInfo)
  | backedOff (time until' : ℚ)
  | answered (caller : Nat) (info : Option QuotaInfo)
  deriving DecidableEq

/-- `running` are the calls of `doRefresh` that wait for the fetcher, `settled`
those whose `finally` is still to run, with what they return. `called` and `log`
are what has happened so far, the log with its newest entry first. -/
structure QuotaRefresh where
  clock : ℚ
  presence : QuotaCache
  info : Option QuotaInfo
  lastError : Option String
  cooldownUntil : ℚ
  refreshInFlight : Option Nat
  drawn : Nat
  running : List Nat
  settled : List (Nat × Option QuotaInfo)
  waiting : List (Nat × Nat)
  called : List Nat
  log : List QuotaLog

/-- `settle` is the answer of the fetcher to one call of `doRefresh`, after which
`onRefresh` may throw; `runFinally` is the callback behind it. -/
inductive QuotaEvent
  | get (caller : Nat)
  | refresh (caller : Nat)
  | agentActive
  | agentInactive
  | backgroundTick
  | settle (id : Nat) (outcome : FetchOutcome) (onRefreshThrows : Option String)
  | runFinally (id : Nat)
  deriving DecidableEq

namespace QuotaRefresh

def boot : QuotaRefresh := ⟨0, .fresh, none, none, 0, none, 0, [], [], [], [], []⟩

def answer (caller : Option Nat) (info : Option QuotaInfo) (s : QuotaRefresh) : QuotaRefresh :=
  match caller with
  | none => s
  | some caller => { s with log := .answered caller info :: s.log }

def wait (caller : Option Nat) (id : Nat) (s : QuotaRefresh) : QuotaRefresh :=
  match caller with
  | none => s
  | some caller => { s with waiting := s.waiting ++ [(id, caller)] }

/-- `refresh`, on behalf of a caller or of the background. -/
def request (caller : Option Nat) (s : QuotaRefresh) : QuotaRefresh :=
  if s.clock < s.cooldownUntil then s.answer caller s.info
  else match s.refreshInFlight with
    | some id => s.wait caller id
    | none =>
      { s with
        drawn := s.drawn + 1, running := s.running ++ [s.drawn], refreshInFlight := some s.drawn,
        log := .started s.clock :: s.log }.wait caller s.drawn

def cooldownMs (retryAfterSeconds : Option ℚ) : ℚ :=
  max ((retryAfterSeconds.map (· * 1000)).getD default429CooldownMs) min429CooldownMs

/-- The rest of `doRefresh` when the fetcher has answered, and what it returns. -/
def doRefresh (outcome : FetchOutcome) (onRefreshThrows : Option String) (s : QuotaRefresh) :
    QuotaRefresh × Option QuotaInfo :=
  match outcome with
  | .fetched info =>
    let s := { s with info := some info, lastError := none, cooldownUntil := 0, log := .succeeded info :: s.log }
    match onRefreshThrows with
    | none => (s, some info)
    | some message => ({ s with lastError := some message }, none)
  | .unavailable message httpStatus retryAfterSeconds =>
    let s := { s with lastError := some message }
    if httpStatus = some 429 then
      let until' := s.clock + cooldownMs retryAfterSeconds
      ({ s with cooldownUntil := until', log := .backedOff s.clock until' :: s.log }, none)
    else (s, none)
  | .thrown message => ({ s with lastError := some message }, none)

def settle (id : Nat) (outcome : FetchOutcome) (onRefreshThrows : Option String) (s : QuotaRefresh) : QuotaRefresh :=
  if id ∈ s.running then
    let (s, result) := s.doRefresh outcome onRefreshThrows
    { s with running := s.running.erase id, settled := s.settled ++ [(id, result)] }
  else s

/-- The promise that the callers share resolves. -/
def runFinally (id : Nat) (s : QuotaRefresh) : QuotaRefresh :=
  match s.settled.lookup id with
  | none => s
  | some result =>
    { s with
      refreshInFlight := none
      settled := s.settled.filter fun pair => pair.1 ≠ id
      waiting := s.waiting.filter fun pair => pair.1 ≠ id
      log := ((s.waiting.filter fun pair => pair.1 = id).map fun pair => .answered pair.2 result) ++ s.log }

def act (s : QuotaRefresh) : QuotaEvent → QuotaRefresh
  | .get caller =>
    let s := { s with called := caller :: s.called }
    if isFresh s.info defaultTtlMs s.clock then s.answer caller s.info else s.request caller
  | .refresh caller => { s with called := caller :: s.called }.request caller
  | .agentActive =>
    let started := { s with presence := s.presence.onAgentActive }
    if s.presence.backgroundTimer then started else started.request none
  | .agentInactive => { s with presence := s.presence.onAgentInactive }
  | .backgroundTick =>
    if s.presence.backgroundTimer = false ∨ s.presence.activeAgents = 0 then s else s.request none
  | .settle id outcome onRefreshThrows => s.settle id outcome onRefreshThrows
  | .runFinally id => s.runFinally id

def step (s : QuotaRefresh) (e : ℚ × QuotaEvent) : QuotaRefresh := { s with clock := e.1 }.act e.2

/-- The last value that a fetch has given. -/
def lastSuccess (log : List QuotaLog) : Option QuotaInfo :=
  log.findSome? fun entry => match entry with
    | .succeeded info => some info
    | _ => none

/-- The caller of an answer. -/
def QuotaLog.caller? : QuotaLog → Option Nat
  | .answered caller _ => some caller
  | _ => none

/-- Every answer with a value has the one that the last success before it brought. -/
def Current (log : List QuotaLog) : Prop :=
  ∀ newer older caller info, log = newer ++ .answered caller (some info) :: older → lastSuccess older = some info

/-- What the API and the callers may count on. -/
structure QuotaLaws (s : QuotaRefresh) : Prop where
  /-- No two fetches are under way at once. -/
  singleFlight : s.running.length + s.settled.length ≤ 1
  /-- A cool-down lasts at least a minute. -/
  floored : ∀ time until', QuotaLog.backedOff time until' ∈ s.log → time + min429CooldownMs ≤ until'
  /-- No fetch starts before the cool-downs before it are over. -/
  spaced : s.log.Pairwise fun newer older => ∀ time began until', newer = .started time →
    older = .backedOff began until' → until' ≤ time
  /-- A caller gets nothing, or what the last fetch to succeed had brought. -/
  current : Current s.log
  /-- Who has called was answered or is waiting, once for each call. -/
  conserved : (s.log.filterMap QuotaLog.caller? ++ s.waiting.map Prod.snd).Perm s.called
  /-- Who waits waits for a fetch that is under way. -/
  awaited : ∀ pair ∈ s.waiting, pair.1 ∈ s.running ∨ pair.1 ∈ s.settled.map Prod.fst

theorem Current.cons {log : List QuotaLog} (current : Current log) {entry : QuotaLog}
    (now : ∀ caller info, entry = .answered caller (some info) → lastSuccess log = some info) : Current (entry :: log) := by
  intro newer older caller info split
  cases newer with
  | nil =>
    obtain ⟨rfl, rfl⟩ := List.cons.inj split
    exact now caller info rfl
  | cons newest rest => exact current rest older caller info (List.cons.inj split).2

@[simp] theorem lastSuccess_answered (caller : Nat) (info : Option QuotaInfo) (log : List QuotaLog) :
    lastSuccess (.answered caller info :: log) = lastSuccess log := rfl

@[simp] theorem lastSuccess_started (time : ℚ) (log : List QuotaLog) :
    lastSuccess (.started time :: log) = lastSuccess log := rfl

@[simp] theorem lastSuccess_backedOff (time until' : ℚ) (log : List QuotaLog) :
    lastSuccess (.backedOff time until' :: log) = lastSuccess log := rfl

@[simp] theorem lastSuccess_succeeded (info : QuotaInfo) (log : List QuotaLog) :
    lastSuccess (.succeeded info :: log) = some info := rfl

/-- Nothing is under way, or one fetch is, or one has settled. -/
inductive Flight (s : QuotaRefresh) : Prop
  | idle (running : s.running = []) (settled : s.settled = []) (field : s.refreshInFlight = none)
  | fetching (id : Nat) (running : s.running = [id]) (settled : s.settled = []) (field : s.refreshInFlight = some id)
  | settling (id : Nat) (result : Option QuotaInfo) (running : s.running = []) (settled : s.settled = [(id, result)])
      (field : s.refreshInFlight = some id) (value : ∀ info, result = some info → lastSuccess s.log = some info)

/-- What every event keeps, where `called` have called. -/
structure Kept (called : List Nat) (s : QuotaRefresh) : Prop where
  flight : Flight s
  info : s.info = lastSuccess s.log
  floored : ∀ time until', QuotaLog.backedOff time until' ∈ s.log → time + min429CooldownMs ≤ until'
  spaced : s.log.Pairwise fun newer older => ∀ time began until', newer = .started time →
    older = .backedOff began until' → until' ≤ time
  current : Current s.log
  conserved : (s.log.filterMap QuotaLog.caller? ++ s.waiting.map Prod.snd).Perm called
  past : ∀ time until', QuotaLog.backedOff time until' ∈ s.log → until' ≤ s.cooldownUntil ∨ until' ≤ s.clock
  fetching : s.running ≠ [] → ∀ time until', QuotaLog.backedOff time until' ∈ s.log → until' ≤ s.clock
  waiting : ∀ pair ∈ s.waiting, s.refreshInFlight = some pair.1

section
variable {called : List Nat} {s : QuotaRefresh} {id : Nat}

theorem Flight.of_same {s' : QuotaRefresh} (flight : Flight s) (sameRunning : s'.running = s.running)
    (sameSettled : s'.settled = s.settled) (sameField : s'.refreshInFlight = s.refreshInFlight)
    (sameLast : lastSuccess s'.log = lastSuccess s.log) : Flight s' := by
  cases flight with
  | idle running settled field => exact .idle (sameRunning.trans running) (sameSettled.trans settled) (sameField.trans field)
  | fetching id running settled field =>
    exact .fetching id (sameRunning.trans running) (sameSettled.trans settled) (sameField.trans field)
  | settling id result running settled field value =>
    refine .settling id result (sameRunning.trans running) (sameSettled.trans settled) (sameField.trans field) ?_
    exact fun info same => sameLast.trans (value info same)

theorem Kept.boot : Kept [] boot where
  flight := .idle rfl rfl rfl
  info := rfl
  floored := nofun
  spaced := .nil
  current newer older caller info split := by simp [QuotaRefresh.boot] at split
  conserved := .refl _
  past := nofun
  fetching := nofun
  waiting := nofun

theorem Kept.tick (kept : Kept called s) {now : ℚ} (later : s.clock ≤ now) : Kept called { s with clock := now } where
  flight := kept.flight.of_same rfl rfl rfl rfl
  info := kept.info
  floored := kept.floored
  spaced := kept.spaced
  current := kept.current
  conserved := kept.conserved
  past time until' listed := (kept.past time until' listed).imp_right fun past => past.trans later
  fetching busy time until' listed := (kept.fetching busy time until' listed).trans later
  waiting := kept.waiting

theorem Kept.answer (kept : Kept called s) (caller : Option Nat) :
    Kept (caller.toList ++ called) (s.answer caller s.info) := by
  cases caller with
  | none => exact kept
  | some caller =>
    refine ⟨?_, kept.info, ?_, ?_, ?_, ?_, ?_, ?_, kept.waiting⟩
    · cases kept.flight with
      | idle running settled field => exact .idle running settled field
      | fetching id running settled field => exact .fetching id running settled field
      | settling id result running settled field value => exact .settling id result running settled field value
    · intro time until' listed
      exact kept.floored time until' ((List.mem_cons.mp listed).resolve_left nofun)
    · exact .cons (fun _ _ _ _ _ => nofun) kept.spaced
    · refine kept.current.cons fun _ info same => ?_
      rw [← kept.info]
      exact (QuotaLog.answered.inj same).2
    · exact kept.conserved.cons caller
    · intro time until' listed
      exact kept.past time until' ((List.mem_cons.mp listed).resolve_left nofun)
    · intro busy time until' listed
      exact kept.fetching busy time until' ((List.mem_cons.mp listed).resolve_left nofun)

theorem Kept.wait (kept : Kept called s) (caller : Option Nat) (field : s.refreshInFlight = some id) :
    Kept (caller.toList ++ called) (s.wait caller id) := by
  cases caller with
  | none => exact kept
  | some caller =>
    refine ⟨?_, kept.info, kept.floored, kept.spaced, kept.current, ?_, kept.past, kept.fetching, ?_⟩
    · cases kept.flight with
      | idle running settled field => exact .idle running settled field
      | fetching id running settled field => exact .fetching id running settled field
      | settling id result running settled field value => exact .settling id result running settled field value
    · simp only [QuotaRefresh.wait, List.map_append, List.map_cons, List.map_nil, ← List.append_assoc]
      exact (List.perm_append_singleton _ _).trans (kept.conserved.cons caller)
    · intro pair listed
      rcases List.mem_append.mp listed with before | now
      · exact kept.waiting pair before
      · rw [List.mem_singleton] at now
        subst now
        exact field

/-- A fetch starts: the cool-downs are over, and no other fetch is under way. -/
theorem Kept.start (kept : Kept called s) (warm : ¬ s.clock < s.cooldownUntil) (field : s.refreshInFlight = none) :
    Kept called { s with
      drawn := s.drawn + 1, running := s.running ++ [s.drawn], refreshInFlight := some s.drawn,
      log := .started s.clock :: s.log } := by
  have past : ∀ time until', QuotaLog.backedOff time until' ∈ s.log → until' ≤ s.clock := by
    intro time until' listed
    rcases kept.past time until' listed with cooled | past
    · exact cooled.trans (not_lt.mp warm)
    · exact past
  have older : ∀ time until', QuotaLog.backedOff time until' ∈ QuotaLog.started s.clock :: s.log →
      QuotaLog.backedOff time until' ∈ s.log := fun time until' listed => (List.mem_cons.mp listed).resolve_left nofun
  refine ⟨?_, kept.info, ?_, ?_, ?_, kept.conserved, ?_, ?_, ?_⟩
  · cases kept.flight with
    | idle running settled _ => exact .fetching s.drawn (by simp only [running, List.nil_append]) settled rfl
    | fetching id _ _ busy => cases field.symm.trans busy
    | settling id _ _ _ busy => cases field.symm.trans busy
  · exact fun time until' listed => kept.floored time until' (older time until' listed)
  · refine .cons (fun entry listed time began until' now before => ?_) kept.spaced
    cases now
    subst before
    exact past began until' listed
  · exact kept.current.cons nofun
  · exact fun time until' listed => kept.past time until' (older time until' listed)
  · exact fun _ time until' listed => past time until' (older time until' listed)
  · intro pair listed
    cases field.symm.trans (kept.waiting pair listed)

theorem Kept.request (kept : Kept called s) (caller : Option Nat) :
    Kept (caller.toList ++ called) (s.request caller) := by
  unfold QuotaRefresh.request
  split
  · exact kept.answer caller
  · rename_i warm
    split
    · rename_i id field
      exact kept.wait caller field
    · rename_i field
      exact (kept.start warm field).wait caller rfl

theorem min429_le_cooldownMs (retryAfterSeconds : Option ℚ) : min429CooldownMs ≤ cooldownMs retryAfterSeconds :=
  le_max_right _ _

/-- The answer to the only fetch under way, which has logged nothing, a success
or a cool-down. No cool-down ends with it, as none was on when the fetch began. -/
theorem Kept.settled (kept : Kept called s) (running : s.running = [id]) (nothing : s.settled = [])
    (field : s.refreshInFlight = some id) {info : Option QuotaInfo} {lastError : Option String} {cooldownUntil : ℚ}
    {result : Option QuotaInfo} (added : List QuotaLog) (same : info = lastSuccess (added ++ s.log))
    (value : ∀ info, result = some info → lastSuccess (added ++ s.log) = some info)
    (shape : added = [] ∨ (∃ info, added = [.succeeded info]) ∨ ∃ until', added = [.backedOff s.clock until'] ∧
      s.clock + min429CooldownMs ≤ until' ∧ until' ≤ cooldownUntil) :
    Kept called { s with
      info, lastError, cooldownUntil, log := added ++ s.log, running := s.running.erase id,
      settled := s.settled ++ [(id, result)] } := by
  have past := kept.fetching (by simp [running])
  have done : s.running.erase id = [] := by simp [running]
  have entries : ∀ entry ∈ added ++ s.log, entry ∈ s.log ∨ (∃ info, entry = .succeeded info) ∨
      ∃ until', entry = .backedOff s.clock until' ∧ s.clock + min429CooldownMs ≤ until' ∧ until' ≤ cooldownUntil := by
    intro entry listed
    rcases List.mem_append.mp listed with now | before
    · rcases shape with rfl | ⟨info, rfl⟩ | ⟨until', rfl, bounds⟩
      · cases now
      · exact .inr (.inl ⟨info, List.mem_singleton.mp now⟩)
      · exact .inr (.inr ⟨until', List.mem_singleton.mp now, bounds⟩)
    · exact .inl before
  refine ⟨.settling id result done (by simp [nothing]) field value, same, ?_, ?_, ?_, ?_, ?_, ?_, kept.waiting⟩
  · intro time until' listed
    rcases entries _ listed with before | ⟨info, now⟩ | ⟨_, now, bounds⟩
    · exact kept.floored time until' before
    · cases now
    · cases now
      exact bounds.1
  · rcases shape with rfl | ⟨info, rfl⟩ | ⟨until', rfl, -⟩
    · exact kept.spaced
    · exact .cons (fun _ _ _ _ _ => nofun) kept.spaced
    · exact .cons (fun _ _ _ _ _ => nofun) kept.spaced
  · rcases shape with rfl | ⟨info, rfl⟩ | ⟨until', rfl, -⟩
    · exact kept.current
    · exact kept.current.cons nofun
    · exact kept.current.cons nofun
  · rcases shape with rfl | ⟨info, rfl⟩ | ⟨until', rfl, -⟩
    · exact kept.conserved
    · exact kept.conserved
    · exact kept.conserved
  · intro time until' listed
    rcases entries _ listed with before | ⟨info, now⟩ | ⟨_, now, bounds⟩
    · exact .inr (past time until' before)
    · cases now
    · cases now
      exact .inl bounds.2
  · intro busy
    exact absurd done busy

theorem Kept.settle (kept : Kept called s) (id : Nat) (outcome : FetchOutcome) (onRefreshThrows : Option String) :
    Kept called (s.settle id outcome onRefreshThrows) := by
  unfold QuotaRefresh.settle
  split
  · rename_i listed
    cases kept.flight with
    | idle running => simp [running] at listed
    | settling _ _ running => simp [running] at listed
    | fetching fetch running nothing field =>
      rw [running, List.mem_singleton] at listed
      subst listed
      cases outcome with
      | fetched info =>
        cases onRefreshThrows with
        | none =>
          exact kept.settled running nothing field [.succeeded info] rfl (fun _ same => same) (.inr (.inl ⟨info, rfl⟩))
        | some message =>
          exact kept.settled running nothing field [.succeeded info] rfl nofun (.inr (.inl ⟨info, rfl⟩))
      | unavailable message httpStatus retryAfterSeconds =>
        simp only [doRefresh]
        split
        · refine kept.settled running nothing field [.backedOff s.clock _] kept.info nofun
            (.inr (.inr ⟨_, rfl, ?_, le_refl _⟩))
          exact (add_le_add_iff_left s.clock).mpr (min429_le_cooldownMs retryAfterSeconds)
        · exact kept.settled running nothing field [] kept.info nofun (.inl rfl)
      | thrown message => exact kept.settled running nothing field [] kept.info nofun (.inl rfl)
  · exact kept

theorem Kept.runFinally (kept : Kept called s) (id : Nat) : Kept called (s.runFinally id) := by
  unfold QuotaRefresh.runFinally
  cases found : s.settled.lookup id with
  | none => exact kept
  | some result =>
    cases kept.flight with
    | idle _ settled => simp [settled] at found
    | fetching _ _ settled => simp [settled] at found
    | settling fetch result' running settled field value =>
      have same : id = fetch ∧ result' = result := by
        rw [settled, List.lookup_cons] at found
        split at found
        · rename_i equal
          exact ⟨beq_iff_eq.mp equal, Option.some.inj found⟩
        · cases found
      obtain ⟨rfl, rfl⟩ := same
      have mine : ∀ pair ∈ s.waiting, pair.1 = id := by
        intro pair listed
        exact Option.some.inj ((kept.waiting pair listed).symm.trans field)
      have all : s.waiting.filter (fun pair => pair.1 = id) = s.waiting := by
        rw [List.filter_eq_self]
        intro pair listed
        simpa using mine pair listed
      have nobody : s.waiting.filter (fun pair => pair.1 ≠ id) = [] := by
        rw [List.filter_eq_nil_iff]
        intro pair listed
        simpa using mine pair listed
      simp only
      rw [all, nobody]
      have answers : ∀ (waiters : List (Nat × Nat)) (log : List QuotaLog), lastSuccess log = lastSuccess s.log →
          Current log → Current (waiters.map (fun pair => QuotaLog.answered pair.2 result') ++ log) ∧
            lastSuccess (waiters.map (fun pair => QuotaLog.answered pair.2 result') ++ log) = lastSuccess s.log := by
        intro waiters log same current
        induction waiters with
        | nil => exact ⟨current, same⟩
        | cons pair rest ih =>
          refine ⟨ih.1.cons fun _ info now => ?_, ih.2⟩
          rw [ih.2]
          exact value info (QuotaLog.answered.inj now).2
      have entries : ∀ entry ∈ s.waiting.map (fun pair => QuotaLog.answered pair.2 result') ++ s.log,
          entry ∈ s.log ∨ ∃ caller, entry = .answered caller result' := by
        intro entry listed
        rcases List.mem_append.mp listed with now | before
        · obtain ⟨pair, -, rfl⟩ := List.mem_map.mp now
          exact .inr ⟨pair.2, rfl⟩
        · exact .inl before
      refine ⟨.idle running ?_ rfl, ?_, ?_, ?_, (answers _ _ rfl kept.current).1, ?_, ?_, ?_, nofun⟩
      · simp [settled]
      · exact kept.info.trans (answers _ _ rfl kept.current).2.symm
      · intro time until' listed
        rcases entries _ listed with before | ⟨_, now⟩
        · exact kept.floored time until' before
        · cases now
      · refine List.pairwise_append.mpr ⟨?_, kept.spaced, ?_⟩
        · refine List.pairwise_map.mpr (List.pairwise_of_forall fun _ _ _ _ _ => nofun)
        · intro newer listed older _ time began until' now
          obtain ⟨pair, -, rfl⟩ := List.mem_map.mp listed
          cases now
      · have callers : (s.waiting.map fun pair => QuotaLog.answered pair.2 result').filterMap QuotaLog.caller? =
            s.waiting.map Prod.snd := by
          simp [List.filterMap_map, Function.comp_def, QuotaLog.caller?]
        rw [List.filterMap_append, callers, List.map_nil, List.append_nil]
        exact List.perm_append_comm.trans kept.conserved
      · intro time until' listed
        rcases entries _ listed with before | ⟨_, now⟩
        · exact kept.past time until' before
        · cases now
      · intro busy
        exact absurd running busy

/-- Neither the count of agents nor the list of calls plays a part in what is kept. -/
theorem Kept.relabel (kept : Kept called s) (presence : QuotaCache) (calls : List Nat) :
    Kept called { s with presence, called := calls } where
  flight := kept.flight.of_same rfl rfl rfl rfl
  info := kept.info
  floored := kept.floored
  spaced := kept.spaced
  current := kept.current
  conserved := kept.conserved
  past := kept.past
  fetching := kept.fetching
  waiting := kept.waiting

theorem answer_called (caller : Option Nat) (info : Option QuotaInfo) : (s.answer caller info).called = s.called := by
  cases caller <;> rfl

theorem wait_called (caller : Option Nat) (id : Nat) : (s.wait caller id).called = s.called := by
  cases caller <;> rfl

theorem request_called (caller : Option Nat) : (s.request caller).called = s.called := by
  unfold QuotaRefresh.request
  split
  · exact answer_called caller s.info
  · split
    · exact wait_called caller _
    · exact wait_called caller _

theorem settle_called (id : Nat) (outcome : FetchOutcome) (onRefreshThrows : Option String) :
    (s.settle id outcome onRefreshThrows).called = s.called := by
  unfold QuotaRefresh.settle
  split
  · unfold doRefresh
    cases outcome with
    | fetched info => cases onRefreshThrows <;> rfl
    | unavailable message httpStatus retryAfterSeconds =>
      simp only
      split <;> rfl
    | thrown message => rfl
  · rfl

theorem runFinally_called (id : Nat) : (s.runFinally id).called = s.called := by
  unfold QuotaRefresh.runFinally
  split <;> rfl

theorem Kept.act (kept : Kept s.called s) (e : QuotaEvent) : Kept (s.act e).called (s.act e) := by
  cases e with
  | get caller =>
    simp only [QuotaRefresh.act]
    split
    · rw [answer_called]
      exact (kept.relabel s.presence (caller :: s.called)).answer (some caller)
    · rw [request_called]
      exact (kept.relabel s.presence (caller :: s.called)).request (some caller)
  | refresh caller =>
    simp only [QuotaRefresh.act, request_called]
    exact (kept.relabel s.presence (caller :: s.called)).request (some caller)
  | agentActive =>
    simp only [QuotaRefresh.act]
    split
    · exact kept.relabel _ s.called
    · rw [request_called]
      exact (kept.relabel _ s.called).request none
  | agentInactive => exact kept.relabel _ s.called
  | backgroundTick =>
    simp only [QuotaRefresh.act]
    split
    · exact kept
    · rw [request_called]
      exact kept.request none
  | settle id outcome onRefreshThrows =>
    simp only [QuotaRefresh.act, settle_called]
    exact kept.settle id outcome onRefreshThrows
  | runFinally id =>
    simp only [QuotaRefresh.act, runFinally_called]
    exact kept.runFinally id

theorem request_clock (caller : Option Nat) : (s.request caller).clock = s.clock := by
  unfold QuotaRefresh.request
  split
  · cases caller <;> rfl
  · split
    · cases caller <;> rfl
    · cases caller <;> rfl

theorem step_clock (e : ℚ × QuotaEvent) : (s.step e).clock = e.1 := by
  obtain ⟨now, e⟩ := e
  cases e with
  | get caller =>
    simp only [QuotaRefresh.step, QuotaRefresh.act]
    split
    · rfl
    · exact request_clock _
  | refresh caller => exact request_clock _
  | agentActive =>
    simp only [QuotaRefresh.step, QuotaRefresh.act]
    split
    · rfl
    · exact request_clock _
  | agentInactive => rfl
  | backgroundTick =>
    simp only [QuotaRefresh.step, QuotaRefresh.act]
    split
    · rfl
    · exact request_clock _
  | settle id outcome onRefreshThrows =>
    simp only [QuotaRefresh.step, QuotaRefresh.act, QuotaRefresh.settle]
    split
    · unfold doRefresh
      cases outcome with
      | fetched info => cases onRefreshThrows <;> rfl
      | unavailable message httpStatus retryAfterSeconds =>
        simp only
        split <;> rfl
      | thrown message => rfl
    · rfl
  | runFinally id =>
    simp only [QuotaRefresh.step, QuotaRefresh.act, QuotaRefresh.runFinally]
    split <;> rfl

theorem Kept.laws (kept : Kept s.called s) : QuotaLaws s where
  singleFlight := by
    cases kept.flight with
    | idle running settled => simp [running, settled]
    | fetching id running settled => simp [running, settled]
    | settling id result running settled => simp [running, settled]
  floored := kept.floored
  spaced := kept.spaced
  current := kept.current
  conserved := kept.conserved
  awaited pair listed := by
    have field := kept.waiting pair listed
    cases kept.flight with
    | idle _ _ idle => cases idle.symm.trans field
    | fetching id running _ busy => exact .inl (by simp [running, Option.some.inj (field.symm.trans busy)])
    | settling id _ _ settled busy => exact .inr (by simp [settled, Option.some.inj (field.symm.trans busy)])

end

/-- The cache keeps its promises to the API and to its callers, in whatever
order they call, the timer ticks and the fetches come back. -/
theorem quota_laws (events : List (ℚ × QuotaEvent)) (inOrder : (0 :: events.map Prod.fst).Pairwise (· ≤ ·)) :
    QuotaLaws (events.foldl step boot) := by
  have run : GuardedRun step (fun s e => s.clock ≤ e.1) boot (events.foldl step boot) :=
    .of_meets (.of_clock QuotaRefresh.clock (fun _ e => step_clock e) inOrder)
  have kept : Kept (events.foldl step boot).called (events.foldl step boot) :=
    run.invariant (P := fun s => Kept s.called s) (fun _ e kept later => (kept.tick later).act e.2) Kept.boot
  exact kept.laws

/-- Two callers share a fetch that meets a 429, and a third one a second later starts none. -/
def coolingDown : List (ℚ × QuotaEvent) :=
  [(0, .get 0), (1, .refresh 1), (2, .settle 0 (.unavailable "usage API returned HTTP 429" (some 429) (some 5)) none),
    (2, .runFinally 0), (1000, .get 2)]

theorem quota_laws_coolingDown :
    (coolingDown.foldl step boot).log = [.answered 2 none, .answered 0 none, .answered 1 none,
        .backedOff 2 60002, .started 0] ∧ QuotaLaws (coolingDown.foldl step boot) :=
  ⟨by decide +kernel, quota_laws coolingDown (by decide +kernel)⟩

end QuotaRefresh

end Coordinator
