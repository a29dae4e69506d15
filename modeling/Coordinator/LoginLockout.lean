import Coordinator.RateLimiter

namespace Coordinator

def defaultLockoutThreshold : ℚ := 5

def defaultLockoutWindowSeconds : ℚ := 15 * 60

structure LockoutConfig where
  threshold : ℚ := defaultLockoutThreshold
  windowSeconds : ℚ := defaultLockoutWindowSeconds

structure LockoutCheckResult where
  locked : Bool
  retryAfterSeconds : Option Int
  deriving DecidableEq

def LockoutConfig.limits (cfg : LockoutConfig) : RateLimitConfig :=
  { per := cfg.threshold, windowSeconds := cfg.windowSeconds }

def lockoutKey (identifierHash : String) : String := "lockout:" ++ identifierHash

def RateLimitResult.lockout : RateLimitResult → LockoutCheckResult
  | .allowed _ _ => { locked := false, retryAfterSeconds := none }
  | .denied retry => { locked := true, retryAfterSeconds := some retry }

def recordFailedLogin (identifierHash : String) (cfg : LockoutConfig) (now : ℚ) (limiter : RateLimiter) :
    RateLimiter × LockoutCheckResult :=
  let (limiter, result) := limiter.check (lockoutKey identifierHash) cfg.limits now
  (limiter, result.lockout)

def isLocked (identifierHash : String) (cfg : LockoutConfig) (now : ℚ) (limiter : RateLimiter) : LockoutCheckResult :=
  (limiter.peek (lockoutKey identifierHash) cfg.limits now).lockout

inductive LockoutCall
  | recordFailedLogin
  | isLocked
  deriving DecidableEq

namespace LoginLockout

/-- A call about one identifier under the default policy. -/
def step (identifierHash : String) (limiter : RateLimiter) : ℚ × LockoutCall → RateLimiter × LockoutCheckResult
  | (now, .recordFailedLogin) => recordFailedLogin identifierHash {} now limiter
  | (now, .isLocked) => (limiter, isLocked identifierHash {} now limiter)

def after (identifierHash : String) (limiter : RateLimiter) (calls : List (ℚ × LockoutCall)) : RateLimiter :=
  calls.foldl (fun limiter call => (step identifierHash limiter call).1) limiter

def failureTimes (calls : List (ℚ × LockoutCall)) : List ℚ :=
  (calls.filter fun call => call.2 = .recordFailedLogin).map Prod.fst

/-- A failure at `t` is the last of five within the window. -/
def Triggered (calls : List (ℚ × LockoutCall)) (t : ℚ) : Prop :=
  t ∈ failureTimes calls ∧ 5 ≤ ((failureTimes calls).filter fun f => t - 900 ≤ f ∧ f ≤ t).length

/-- Whenever a run has come to five failures within the window, an `isLocked` at any instant
of the window after answers locked, wherever between the run's calls it falls. -/
def LocksOut (identifierHash : String) (calls : List (ℚ × LockoutCall)) : Prop :=
  ∀ before rest t u, calls = before ++ rest → Triggered before t → t < u → u ≤ t + 900 →
    (∀ call ∈ before, call.1 ≤ u) → (∀ call ∈ rest, u ≤ call.1) →
      (isLocked identifierHash {} u (after identifierHash .fresh before)).locked = true

/-- The limits every key has here. -/
def policy (_ : String) : RateLimitConfig := ({} : LockoutConfig).limits

theorem policy_sane (key : String) : (policy key).Sane where
  per := by norm_num [policy, LockoutConfig.limits, defaultLockoutThreshold]
  window := by norm_num [policy, LockoutConfig.limits, defaultLockoutWindowSeconds]

/-- A token comes back every three minutes. -/
theorem policy_rate (key : String) : 180 * (policy key).refillRate = 1 := by
  norm_num [policy, LockoutConfig.limits, RateLimitConfig.refillRate, defaultLockoutThreshold, defaultLockoutWindowSeconds]

/-- What the identifier has left to fail with. -/
def attemptsLeft (identifierHash : String) (t : ℚ) (limiter : RateLimiter) : ℚ :=
  limiter.level (lockoutKey identifierHash) (policy (lockoutKey identifierHash)) t

variable {identifierHash : String} {s : RateLimiter} {now t u : ℚ}

theorem locked_iff (kept : s.Kept policy now) (later : now ≤ t) :
    (isLocked identifierHash {} t s).locked = true ↔ ¬ 1 ≤ attemptsLeft identifierHash t s := by
  have answer : ∀ result : RateLimitResult, result.lockout.locked = result.verdict.isSome := by
    intro result
    cases result with
    | allowed remaining resetAt => rfl
    | denied retry => rfl
  have peeked := kept.peek policy_sane later (lockoutKey identifierHash)
  rw [isLocked, answer, attemptsLeft]
  change (RateLimiter.peek _ (policy (lockoutKey identifierHash)) t s).verdict.isSome = true ↔ _
  rw [peeked]
  split
  · rename_i left
    exact iff_of_false Bool.false_ne_true (not_not.mpr left)
  · rename_i none
    exact iff_of_true rfl none

/-- The limiter's call that a call here makes. -/
def LockoutCall.rateCall (identifierHash : String) : LockoutCall → RateCall
  | .recordFailedLogin => .check (lockoutKey identifierHash)
  | .isLocked => .peek (lockoutKey identifierHash)

theorem step_eq (call : LockoutCall) :
    (step identifierHash s (t, call)).1 = (s.step policy (t, LockoutCall.rateCall identifierHash call)).1 := by
  cases call with
  | recordFailedLogin => rfl
  | isLocked => rfl

theorem kept_step (kept : s.Kept policy now) (later : now ≤ t) (call : LockoutCall) :
    (step identifierHash s (t, call)).1.Kept policy t := by
  rw [step_eq]
  exact kept.step policy_sane later _

theorem kept_after {calls : List (ℚ × LockoutCall)} (kept : s.Kept policy now)
    (timely : (now :: calls.map Prod.fst).Pairwise (· ≤ ·)) (late : ∀ t ∈ now :: calls.map Prod.fst, t ≤ u) :
    (after identifierHash s calls).Kept policy u := by
  induction calls generalizing s now with
  | nil => exact kept.later (late now List.mem_cons_self)
  | cons call rest ih =>
    obtain ⟨t, call⟩ := call
    obtain ⟨first, timely⟩ := List.pairwise_cons.mp timely
    exact ih (kept_step kept (first t (by simp)) call) timely fun t member => late t (List.mem_cons_of_mem _ member)

theorem kept_run {calls : List (ℚ × LockoutCall)} (timely : (calls.map Prod.fst).Pairwise (· ≤ ·))
    (late : ∀ t ∈ calls.map Prod.fst, t ≤ u) : (after identifierHash .fresh calls).Kept policy u := by
  obtain ⟨now, early, timed⟩ := RateLimiter.exists_start timely late
  exact kept_after (RateLimiter.kept_fresh now) timed (List.forall_mem_cons.mpr ⟨early, late⟩)

theorem after_append (before rest : List (ℚ × LockoutCall)) :
    after identifierHash s (before ++ rest) = after identifierHash (after identifierHash s before) rest :=
  List.foldl_append

/-- Only a failure that finds an attempt left takes one. -/
theorem attemptsLeft_step (kept : s.Kept policy now) (later : now ≤ t) (after : t ≤ u) {call : LockoutCall}
    (idle : ¬ (call = .recordFailedLogin ∧ 1 ≤ attemptsLeft identifierHash t s)) :
    attemptsLeft identifierHash u (step identifierHash s (t, call)).1 = attemptsLeft identifierHash u s := by
  cases call with
  | isLocked => rfl
  | recordFailedLogin => exact kept.level_refused policy_sane later after fun left => idle ⟨rfl, left⟩

/-- Three minutes bring an attempt back. -/
theorem attemptsLeft_refilled (kept : s.Kept policy now) : 1 ≤ attemptsLeft identifierHash (now + 180) s := by
  rw [attemptsLeft, RateLimiter.level_later policy_sane (le_add_of_nonneg_right (by norm_num : (0 : ℚ) ≤ 180))]
  refine le_min (policy_sane _).per ?_
  have low : 0 ≤ s.level (lockoutKey identifierHash) (policy (lockoutKey identifierHash)) now :=
    kept.level_nonneg policy_sane le_rfl
  rw [add_sub_cancel_left, policy_rate]
  linarith

/-- An attempt that is back by `u` is left at some instant until then: no call can take it before. -/
theorem exists_attemptLeft {start : ℚ} {calls : List (ℚ × LockoutCall)} (kept : s.Kept policy now) (early : now ≤ u)
    (ahead : start < u) (later : ∀ call ∈ calls, start < call.1) (left : 1 ≤ attemptsLeft identifierHash u s)
    (timely : (now :: calls.map Prod.fst).Pairwise (· ≤ ·)) :
    ∃ before rest t, calls = before ++ rest ∧ start < t ∧ t ≤ u ∧ now ≤ t ∧ (∀ call ∈ before, call.1 ≤ t) ∧
      (∀ call ∈ rest, t ≤ call.1) ∧ 1 ≤ attemptsLeft identifierHash t (after identifierHash s before) := by
  induction calls generalizing s now with
  | nil => exact ⟨[], [], u, rfl, ahead, le_rfl, early, by simp, by simp, left⟩
  | cons call others ih =>
    obtain ⟨t, call⟩ := call
    obtain ⟨first, timely⟩ := List.pairwise_cons.mp timely
    have reached : now ≤ t := first t (by simp)
    have ordered : ∀ call' ∈ (t, call) :: others, t ≤ call'.1 := by
      intro call' member
      rcases List.mem_cons.mp member with rfl | next
      · exact le_rfl
      · exact (List.pairwise_cons.mp timely).1 _ (List.mem_map_of_mem next)
    rcases lt_or_ge u t with beyond | within
    · exact ⟨[], (t, call) :: others, u, rfl, ahead, le_rfl, early, by simp,
        fun call' member => beyond.le.trans (ordered call' member), left⟩
    · by_cases taken : call = .recordFailedLogin ∧ 1 ≤ attemptsLeft identifierHash t s
      · exact ⟨[], (t, call) :: others, t, rfl, later _ List.mem_cons_self, within, reached, by simp, ordered, taken.2⟩
      · have still := attemptsLeft_step kept reached within taken
        rw [← still] at left
        obtain ⟨before, rest, t', split, ahead, inside, since, past, future, open'⟩ :=
          ih (kept_step kept reached call) within (fun call member => later call (List.mem_cons_of_mem _ member)) left timely
        refine ⟨(t, call) :: before, rest, t', by rw [split]; rfl, ahead, inside, reached.trans since, ?_, future, open'⟩
        intro call' member
        rcases List.mem_cons.mp member with rfl | next
        · exact since
        · exact past call' next

/-- The calls up to an instant, and those after it. -/
theorem exists_split {calls : List (ℚ × LockoutCall)} (timely : (calls.map Prod.fst).Pairwise (· ≤ ·)) (t : ℚ) :
    ∃ before rest, calls = before ++ rest ∧ (∀ call ∈ before, call.1 ≤ t) ∧ ∀ call ∈ rest, t < call.1 := by
  induction calls with
  | nil => exact ⟨[], [], rfl, by simp, by simp⟩
  | cons call others ih =>
    obtain ⟨first, timely⟩ := List.pairwise_cons.mp timely
    rcases lt_or_ge t call.1 with beyond | within
    · refine ⟨[], call :: others, rfl, by simp, fun call' member => ?_⟩
      rcases List.mem_cons.mp member with rfl | next
      · exact beyond
      · exact beyond.trans_le (first _ (List.mem_map_of_mem next))
    · obtain ⟨before, rest, split, past, future⟩ := ih timely
      refine ⟨call :: before, rest, by rw [split]; rfl, fun call' member => ?_, future⟩
      rcases List.mem_cons.mp member with rfl | next
      · exact within
      · exact past call' next

theorem failureTimes_append (before rest : List (ℚ × LockoutCall)) :
    failureTimes (before ++ rest) = failureTimes before ++ failureTimes rest := by
  rw [failureTimes, List.filter_append, List.map_append, failureTimes, failureTimes]

theorem mem_failureTimes {calls : List (ℚ × LockoutCall)} (failed : t ∈ failureTimes calls) :
    ∃ call ∈ calls, call.1 = t := by
  obtain ⟨call, listed, same⟩ := List.mem_map.mp failed
  exact ⟨call, (List.mem_filter.mp listed).1, same⟩

theorem Triggered.append {before : List (ℚ × LockoutCall)} (triggered : Triggered before t)
    (rest : List (ℚ × LockoutCall)) :
    Triggered (before ++ rest) t := by
  obtain ⟨failed, five⟩ := triggered
  rw [Triggered, failureTimes_append]
  refine ⟨List.mem_append_left _ failed, five.trans ?_⟩
  rw [List.filter_append, List.length_append]
  exact Nat.le_add_right _ _

/-- What happens later does not count for a trigger. -/
theorem Triggered.before {before rest : List (ℚ × LockoutCall)} (triggered : Triggered (before ++ rest) t)
    (future : ∀ call ∈ rest, t < call.1) : Triggered before t := by
  obtain ⟨failed, five⟩ := triggered
  have after : ∀ f ∈ failureTimes rest, t < f := by
    intro f listed
    obtain ⟨call, member, rfl⟩ := mem_failureTimes listed
    exact future call member
  have none : (failureTimes rest).filter (fun f => t - 900 ≤ f ∧ f ≤ t) = [] := by
    refine List.filter_eq_nil_iff.mpr fun f listed => ?_
    have late := after f listed
    simp [late]
  rw [failureTimes_append] at failed five
  rw [List.filter_append, none, List.append_nil] at five
  rcases List.mem_append.mp failed with past | next
  · exact ⟨past, five⟩
  · exact absurd (after t next) (lt_irrefl t)

/-- Within three minutes of a trigger the identifier is let in again. -/
theorem exists_unlocked (identifierHash : String) {calls : List (ℚ × LockoutCall)}
    (timely : (calls.map Prod.fst).Pairwise (· ≤ ·))
    (triggered : Triggered calls t) :
    ∃ before rest u, calls = before ++ rest ∧ Triggered before t ∧ t < u ∧ u ≤ t + 180 ∧
      (∀ call ∈ before, call.1 ≤ u) ∧ (∀ call ∈ rest, u ≤ call.1) ∧
        ¬ (isLocked identifierHash {} u (after identifierHash .fresh before)).locked = true := by
  obtain ⟨before, rest, split, past, future⟩ := exists_split timely t
  subst split
  have reached := triggered.before future
  have ordered := timely
  rw [List.map_append, List.pairwise_append] at ordered
  obtain ⟨early, late, -⟩ := ordered
  have ahead : t < t + 180 := by linarith
  have kept : (after identifierHash .fresh before).Kept policy t := kept_run early (List.forall_mem_map.mpr past)
  have timed : (t :: rest.map Prod.fst).Pairwise (· ≤ ·) :=
    List.pairwise_cons.mpr ⟨List.forall_mem_map.mpr fun call member => (future call member).le, late⟩
  have back : 1 ≤ attemptsLeft identifierHash (t + 180) (after identifierHash .fresh before) := attemptsLeft_refilled kept
  obtain ⟨waited, others, u, split, beyond, soon, -, done, next, left⟩ :=
    exists_attemptLeft kept ahead.le ahead future back timed
  subst split
  have known : ∀ call ∈ before ++ waited, call.1 ≤ u := by
    intro call member
    rcases List.mem_append.mp member with old | new
    · exact (past call old).trans beyond.le
    · exact done call new
  refine ⟨before ++ waited, others, u, (List.append_assoc _ _ _).symm, reached.append waited, beyond, soon, known, next, ?_⟩
  have sorted : ((before ++ waited).map Prod.fst).Pairwise (· ≤ ·) :=
    timely.sublist (((List.sublist_append_left waited others).append_left before).map Prod.fst)
  rw [locked_iff (kept_run sorted (List.forall_mem_map.mpr known)) le_rfl, after_append]
  exact not_not.mpr left

/-- The lockout lasts its window only where it is never called for. -/
theorem locksOut_iff (identifierHash : String) (calls : List (ℚ × LockoutCall))
    (timely : (calls.map Prod.fst).Pairwise (· ≤ ·)) : LocksOut identifierHash calls ↔ ∀ t, ¬ Triggered calls t := by
  constructor
  · intro locks t triggered
    obtain ⟨before, rest, u, split, reached, beyond, soon, past, next, opened⟩ :=
      exists_unlocked identifierHash timely triggered
    exact opened (locks before rest t u split reached beyond (by linarith) past next)
  · intro never before rest t u split triggered
    subst split
    exact absurd (triggered.append rest) (never t)

theorem locksOut_four : LocksOut "a" (List.replicate 4 (0, .recordFailedLogin)) := by
  refine (locksOut_iff "a" _ (by norm_num [List.replicate])).mpr fun t triggered => ?_
  have few := triggered.2.trans (List.length_filter_le _ _)
  revert few
  decide +kernel

/-- Five failures at once lock the identifier for three minutes, not for fifteen. -/
theorem not_locksOut_five :
    ¬ ∀ identifierHash calls, (calls.map Prod.fst).Pairwise (· ≤ ·) → LocksOut identifierHash calls := by
  intro locks
  have timely : ((List.replicate 5 ((0 : ℚ), LockoutCall.recordFailedLogin)).map Prod.fst).Pairwise (· ≤ ·) := by
    decide +kernel
  have triggered : Triggered (List.replicate 5 (0, .recordFailedLogin)) 0 := ⟨by decide +kernel, by decide +kernel⟩
  have locked := locks "a" (List.replicate 5 (0, .recordFailedLogin)) timely (List.replicate 5 (0, .recordFailedLogin))
    [] 0 200 rfl triggered (by norm_num) (by norm_num) (by simp) (by simp)
  revert locked
  decide +kernel

end LoginLockout

end Coordinator
