import Mathlib.Data.Rat.Floor
import Mathlib.Tactic.FieldSimp
import Coordinator.Library.Table
import Coordinator.Library.TokenBucket

namespace Coordinator

structure RateLimitConfig where
  per : ℚ
  windowSeconds : ℚ

inductive RateLimitResult
  | allowed (remaining resetAt : ℚ)
  | denied (retryAfterSeconds : Int)
  deriving DecidableEq

/-- Whether an answer lets the call pass, and else the wait it asks for. -/
def RateLimitResult.verdict : RateLimitResult → Option Int
  | .allowed _ _ => none
  | .denied retry => some retry

structure BucketState where
  tokens : ℚ
  lastRefill : ℚ
  expiresAt : ℚ

/-- Tokens per second. -/
def RateLimitConfig.refillRate (cfg : RateLimitConfig) : ℚ := cfg.per / cfg.windowSeconds

/-- At least one token, and a window to refill in. -/
structure RateLimitConfig.Sane (cfg : RateLimitConfig) : Prop where
  per : 1 ≤ cfg.per
  window : 0 < cfg.windowSeconds

def BucketState.full (cfg : RateLimitConfig) (now : ℚ) : BucketState :=
  { tokens := cfg.per, lastRefill := now, expiresAt := now + cfg.windowSeconds }

def BucketState.refill (cfg : RateLimitConfig) (now : ℚ) (b : BucketState) : BucketState :=
  if 0 < now - b.lastRefill then
    { b with tokens := min cfg.per (b.tokens + (now - b.lastRefill) * cfg.refillRate), lastRefill := now }
  else b

def retryAfter (cfg : RateLimitConfig) (tokens : ℚ) : Int := max 1 ⌈(1 - tokens) / cfg.refillRate⌉

structure RateLimiter where
  buckets : Table (String × BucketState) Prod.fst

namespace RateLimiter

def fresh : RateLimiter := { buckets := Table.empty }

def bucket (key : String) (s : RateLimiter) : Option BucketState := (s.buckets.find key).map Prod.snd

def put (key : String) (b : BucketState) (s : RateLimiter) : RateLimiter := { buckets := s.buckets.put (key, b) }

/-- The bucket a call goes on with: a missing one and one with `expires_at < now` count the same. -/
def live (key : String) (now : ℚ) (s : RateLimiter) : Option BucketState :=
  (s.bucket key).filter fun b => ¬ b.expiresAt < now

def check (key : String) (cfg : RateLimitConfig) (now : ℚ) (s : RateLimiter) : RateLimiter × RateLimitResult :=
  let bucket := { ((s.live key now).getD (.full cfg now)).refill cfg now with expiresAt := now + cfg.windowSeconds }
  if 1 ≤ bucket.tokens then
    (s.put key { bucket with tokens := bucket.tokens - 1 }, .allowed ⌊bucket.tokens - 1⌋ (now + cfg.windowSeconds))
  else (s.put key bucket, .denied (retryAfter cfg bucket.tokens))

def peek (key : String) (cfg : RateLimitConfig) (now : ℚ) (s : RateLimiter) : RateLimitResult :=
  match s.live key now with
  | none => .allowed cfg.per (now + cfg.windowSeconds)
  | some b =>
    let tokens := min cfg.per (b.tokens + max 0 (now - b.lastRefill) * cfg.refillRate)
    if 1 ≤ tokens then .allowed ⌊tokens⌋ (now + cfg.windowSeconds) else .denied (retryAfter cfg tokens)

/-- Also gives the number of entries deleted. -/
def sweep (now : ℚ) (s : RateLimiter) : RateLimiter × Nat :=
  ({ buckets := s.buckets.delete fun e => e.2.expiresAt < now }, s.buckets.changes fun e => e.2.expiresAt < now)

@[simp] theorem bucket_fresh (key : String) : fresh.bucket key = none := rfl

theorem bucket_put (key key' : String) (b : BucketState) (s : RateLimiter) :
    (s.put key b).bucket key' = if key = key' then some b else s.bucket key' := by
  rw [bucket, put, Table.find_put]
  split
  · rfl
  · rfl

theorem bucket_sweep (key : String) (now : ℚ) (s : RateLimiter) : (s.sweep now).1.bucket key = s.live key now := by
  rw [bucket, sweep, Table.find_delete, live, bucket]
  cases s.buckets.find key with
  | none => rfl
  | some e =>
    by_cases expired : e.2.expiresAt < now
    · simp [Option.filter_some, expired]
    · simp [Option.filter_some, expired]

end RateLimiter

/-- The calls on one limiter. -/
inductive RateCall
  | check (key : String)
  | peek (key : String)
  | sweep
  deriving DecidableEq

namespace RateLimiter

/-- A call at an instant; each key has its own limits. -/
def step (cfg : String → RateLimitConfig) (s : RateLimiter) : ℚ × RateCall → RateLimiter × Option RateLimitResult
  | (now, .check key) => ((s.check key (cfg key) now).1, some (s.check key (cfg key) now).2)
  | (now, .peek key) => (s, some (s.peek key (cfg key) now))
  | (now, .sweep) => ((s.sweep now).1, none)

def after (cfg : String → RateLimitConfig) (s : RateLimiter) (calls : List (ℚ × RateCall)) : RateLimiter :=
  calls.foldl (fun s call => (s.step cfg call).1) s

/-- The calls with what they answer. -/
def trace (cfg : String → RateLimitConfig) :
    RateLimiter → List (ℚ × RateCall) → List ((ℚ × RateCall) × Option RateLimitResult)
  | _, [] => []
  | s, call :: rest => (call, (s.step cfg call).2) :: trace cfg (s.step cfg call).1 rest

end RateLimiter

/-- Between no tokens and capacity; and a bucket lives for a window after its last refill. -/
structure BucketState.Kept (cfg : RateLimitConfig) (now : ℚ) (b : BucketState) : Prop where
  sound : (⟨b.tokens, b.lastRefill⟩ : TokenBucket.Bucket ℚ).Sound cfg.per
  past : b.lastRefill ≤ now
  expiry : b.expiresAt = b.lastRefill + cfg.windowSeconds

namespace RateLimitConfig.Sane
variable {cfg : RateLimitConfig} (sane : cfg.Sane)
include sane

theorem rate_pos : 0 < cfg.refillRate := div_pos (zero_lt_one.trans_le sane.per) sane.window

theorem window_rate : cfg.windowSeconds * cfg.refillRate = cfg.per := mul_div_cancel₀ _ sane.window.ne'

/-- The wait an answer asks for brings the tokens up to one. -/
theorem retryAfter_refills (tokens : ℚ) : 1 ≤ tokens + retryAfter cfg tokens * cfg.refillRate := by
  have ceiling : (1 - tokens) / cfg.refillRate ≤ retryAfter cfg tokens :=
    (Int.le_ceil _).trans (by exact_mod_cast le_max_right 1 ⌈(1 - tokens) / cfg.refillRate⌉)
  have filled := (div_le_iff₀ sane.rate_pos).mp ceiling
  linarith

end RateLimitConfig.Sane

namespace RateLimiter

/-- What a key has to spend at an instant. -/
def level (key : String) (cfg : RateLimitConfig) (t : ℚ) (s : RateLimiter) : ℚ :=
  match s.bucket key with
  | none => cfg.per
  | some b => (⟨b.tokens, b.lastRefill⟩ : TokenBucket.Bucket ℚ).holds cfg.per cfg.refillRate t

/-- Every bucket is kept by the limits of its key. -/
def Kept (cfg : String → RateLimitConfig) (now : ℚ) (s : RateLimiter) : Prop :=
  ∀ key b, s.bucket key = some b → b.Kept (cfg key) now

variable {cfg : String → RateLimitConfig} {s : RateLimiter} {key : String} {now t u : ℚ}

theorem Kept.later (kept : s.Kept cfg now) (later : now ≤ t) : s.Kept cfg t := by
  intro key b held
  obtain ⟨sound, past, expiry⟩ := kept key b held
  exact ⟨sound, past.trans later, expiry⟩

theorem level_le_per : s.level key (cfg key) t ≤ (cfg key).per := by
  rw [level]
  split
  · exact le_rfl
  · exact TokenBucket.Bucket.holds_le_per

theorem Kept.level_nonneg (sane : ∀ key, (cfg key).Sane) (kept : s.Kept cfg now) (later : now ≤ t) :
    0 ≤ s.level key (cfg key) t := by
  rw [level]
  split
  · exact zero_le_one.trans (sane key).per
  · rename_i b listed
    obtain ⟨sound, past, -⟩ := kept key b listed
    exact sound.holds_nonneg (sane key).rate_pos.le (past.trans later)

/-- What a key has grows at the refill rate until it is full. -/
theorem level_later (sane : ∀ key, (cfg key).Sane) (after : t ≤ u) :
    s.level key (cfg key) u = min (cfg key).per (s.level key (cfg key) t + (u - t) * (cfg key).refillRate) := by
  have filled : 0 ≤ (u - t) * (cfg key).refillRate := mul_nonneg (sub_nonneg.mpr after) (sane key).rate_pos.le
  rw [level, level]
  split
  · exact (min_eq_left (le_add_of_nonneg_right filled)).symm
  · exact (TokenBucket.Bucket.holds_holds (sane key).rate_pos.le after).symm

/-- A bucket that has expired is full, so a new one in its place holds the same. -/
theorem Kept.level_eq (sane : ∀ key, (cfg key).Sane) (kept : s.Kept cfg now) (gone : s.live key t = none) :
    s.level key (cfg key) t = (cfg key).per := by
  rw [level]
  cases held : s.bucket key with
  | none => rfl
  | some b =>
    obtain ⟨sound, past, expiry⟩ := kept key b held
    have expired : b.expiresAt < t := by
      simpa [live, held, Option.filter_some] using gone
    refine sound.holds_full ?_
    rw [← (sane key).window_rate]
    refine mul_le_mul_of_nonneg_right ?_ (sane key).rate_pos.le
    rw [expiry] at expired
    simp only
    linarith

theorem bucket_of_live {b : BucketState} (held : s.live key t = some b) : s.bucket key = some b :=
  (Option.filter_eq_some_iff.mp held).1

/-- What a call goes on with, brought up to the instant, is what the key has to spend. -/
theorem Kept.refilled (sane : ∀ key, (cfg key).Sane) (kept : s.Kept cfg now) (later : now ≤ t) (key : String) :
    (((s.live key t).getD (.full (cfg key) t)).refill (cfg key) t).tokens = s.level key (cfg key) t ∧
      (((s.live key t).getD (.full (cfg key) t)).refill (cfg key) t).lastRefill = t := by
  cases held : s.live key t with
  | none =>
    rw [kept.level_eq sane held]
    simp [BucketState.refill, BucketState.full]
  | some b =>
    have listed := bucket_of_live held
    obtain ⟨sound, past, -⟩ := kept key b listed
    rw [level, listed, Option.getD_some, BucketState.refill]
    rcases lt_or_eq_of_le (past.trans later) with before | same
    · rw [if_pos (sub_pos.mpr before)]
      exact ⟨rfl, rfl⟩
    · rw [if_neg (by simp [same])]
      exact ⟨by rw [← same]; exact sound.holds_since.symm, same⟩

/-- A check passes exactly when the key has a token, and takes it. -/
theorem Kept.check (sane : ∀ key, (cfg key).Sane) (kept : s.Kept cfg now) (later : now ≤ t) (key : String) :
    (s.check key (cfg key) t).1 =
        s.put key
          { tokens := if 1 ≤ s.level key (cfg key) t then s.level key (cfg key) t - 1 else s.level key (cfg key) t
            lastRefill := t, expiresAt := t + (cfg key).windowSeconds } ∧
      (s.check key (cfg key) t).2.verdict =
        if 1 ≤ s.level key (cfg key) t then none else some (retryAfter (cfg key) (s.level key (cfg key) t)) := by
  obtain ⟨tokens, lastRefill⟩ := kept.refilled sane later key
  rw [RateLimiter.check]
  simp only [tokens, lastRefill]
  split
  · exact ⟨rfl, rfl⟩
  · exact ⟨rfl, rfl⟩

theorem Kept.peek (sane : ∀ key, (cfg key).Sane) (kept : s.Kept cfg now) (later : now ≤ t) (key : String) :
    (s.peek key (cfg key) t).verdict =
      if 1 ≤ s.level key (cfg key) t then none else some (retryAfter (cfg key) (s.level key (cfg key) t)) := by
  rw [RateLimiter.peek]
  cases held : s.live key t with
  | none =>
    rw [kept.level_eq sane held, if_pos (sane key).per]
    rfl
  | some b =>
    have listed := bucket_of_live held
    obtain ⟨-, past, -⟩ := kept key b listed
    have elapsed : max 0 (t - b.lastRefill) = t - b.lastRefill := max_eq_right (sub_nonneg.mpr (past.trans later))
    have same : s.level key (cfg key) t =
        min (cfg key).per (b.tokens + (t - b.lastRefill) * (cfg key).refillRate) := by
      rw [level, listed]
      rfl
    simp only [elapsed, ← same]
    split
    · rfl
    · rfl

/-- A check that is refused spends nothing. -/
theorem Kept.level_refused (sane : ∀ key, (cfg key).Sane) (kept : s.Kept cfg now) (later : now ≤ t) (after : t ≤ u)
    (short : ¬ 1 ≤ s.level key (cfg key) t) :
    (s.check key (cfg key) t).1.level key (cfg key) u = s.level key (cfg key) u := by
  rw [level, (kept.check sane later key).1, bucket_put, if_pos rfl, if_neg short, level_later sane after]
  rfl

/-- Sweeping leaves every later level as it is. -/
theorem Kept.level_sweep (sane : ∀ key, (cfg key).Sane) (kept : s.Kept cfg now) (swept : t ≤ u) :
    (s.sweep t).1.level key (cfg key) u = s.level key (cfg key) u := by
  rw [level, bucket_sweep]
  cases held : s.live key t with
  | some b => rw [level, bucket_of_live held]
  | none =>
    cases listed : s.bucket key with
    | none => rw [level, listed]
    | some b =>
      have expired : b.expiresAt < t := by simpa [live, listed, Option.filter_some] using held
      refine (kept.level_eq sane ?_).symm
      simp [live, listed, Option.filter_some, expired.trans_le swept]

/-- One call keeps every bucket by its limits. -/
theorem Kept.step (sane : ∀ key, (cfg key).Sane) (kept : s.Kept cfg now) (later : now ≤ t) (call : RateCall) :
    (s.step cfg (t, call)).1.Kept cfg t := by
  cases call with
  | check key =>
    intro key' b held
    rw [RateLimiter.step, (kept.check sane later key).1, bucket_put] at held
    split at held
    · rename_i same
      subst same
      cases held
      have before : (⟨s.level key (cfg key) t, t⟩ : TokenBucket.Bucket ℚ).Sound (cfg key).per :=
        ⟨kept.level_nonneg sane later, level_le_per⟩
      have attempted := before.attempt (sane key).rate_pos.le le_rfl
      rw [TokenBucket.Bucket.attempt, before.holds_since] at attempted
      exact ⟨attempted, le_rfl, rfl⟩
    · exact kept.later later key' b held
  | peek key => exact kept.later later
  | sweep =>
    intro key' b held
    rw [RateLimiter.step, bucket_sweep] at held
    exact kept.later later key' b (bucket_of_live held)

theorem Kept.run (sane : ∀ key, (cfg key).Sane) {calls : List (ℚ × RateCall)} (kept : s.Kept cfg now)
    (timely : (now :: calls.map Prod.fst).Pairwise (· ≤ ·)) (late : ∀ t ∈ now :: calls.map Prod.fst, t ≤ u) :
    (s.after cfg calls).Kept cfg u := by
  induction calls generalizing s now with
  | nil => exact kept.later (late now List.mem_cons_self)
  | cons call rest ih =>
    obtain ⟨t, call⟩ := call
    obtain ⟨first, timely⟩ := List.pairwise_cons.mp timely
    have stepped := kept.step sane (first t (by simp)) call
    exact ih stepped timely fun t member => late t (List.mem_cons_of_mem _ member)

/-- Calls that do not check a key leave what it has to spend. -/
theorem Kept.level_step (sane : ∀ key, (cfg key).Sane) (kept : s.Kept cfg now) (later : now ≤ t) {call : RateCall}
    (other : call ≠ .check key) (after : t ≤ u) :
    (s.step cfg (t, call)).1.level key (cfg key) u = s.level key (cfg key) u := by
  cases call with
  | check key' =>
    have apart : key' ≠ key := fun same => other (congrArg RateCall.check same)
    rw [level, RateLimiter.step, (kept.check sane later key').1, bucket_put, if_neg apart, level]
  | peek key' => rfl
  | sweep => exact kept.level_sweep sane after

theorem Kept.level_run (sane : ∀ key, (cfg key).Sane) {calls : List (ℚ × RateCall)} (kept : s.Kept cfg now)
    (timely : (now :: calls.map Prod.fst).Pairwise (· ≤ ·)) (late : ∀ t ∈ now :: calls.map Prod.fst, t ≤ u)
    (others : ∀ call ∈ calls, call.2 ≠ .check key) :
    (s.after cfg calls).level key (cfg key) u = s.level key (cfg key) u := by
  induction calls generalizing s now with
  | nil => rfl
  | cons call rest ih =>
    obtain ⟨t, call⟩ := call
    obtain ⟨first, timely⟩ := List.pairwise_cons.mp timely
    have reached : now ≤ t := first t (by simp)
    have rest := ih (kept.step sane reached call) timely (fun t member => late t (List.mem_cons_of_mem _ member))
      fun call member => others call (List.mem_cons_of_mem _ member)
    exact rest.trans (kept.level_step sane reached (others (t, call) List.mem_cons_self) (late t (by simp)))

/-- The time of a call, if it is a check of the key that passes. -/
def allowedAt (key : String) : (ℚ × RateCall) × Option RateLimitResult → Option ℚ
  | ((now, call), answer) => if call = .check key ∧ answer.any (·.verdict = none) then some now else none

def allowedTimes (cfg : String → RateLimitConfig) (key : String) (s : RateLimiter) (calls : List (ℚ × RateCall)) :
    List ℚ := (s.trace cfg calls).filterMap (allowedAt key)

def checkTimes (key : String) (calls : List (ℚ × RateCall)) : List ℚ :=
  (calls.filter fun call => call.2 = .check key).map Prod.fst

/-- One key of the limiter is a token bucket that the checks of the key attempt. -/
theorem Kept.allowedTimes_eq (sane : ∀ key, (cfg key).Sane) {calls : List (ℚ × RateCall)} (kept : s.Kept cfg now)
    {b : TokenBucket.Bucket ℚ}
    (holds : ∀ u, now ≤ u → s.level key (cfg key) u = b.holds (cfg key).per (cfg key).refillRate u)
    (timely : (now :: calls.map Prod.fst).Pairwise (· ≤ ·)) :
    s.allowedTimes cfg key calls = b.served (cfg key).per (cfg key).refillRate (checkTimes key calls) := by
  induction calls generalizing s now b with
  | nil => rfl
  | cons call rest ih =>
    obtain ⟨t, call⟩ := call
    obtain ⟨first, timely⟩ := List.pairwise_cons.mp timely
    have reached : now ≤ t := first t (by simp)
    have stepped := kept.step sane reached call
    rw [allowedTimes, trace, List.filterMap_cons]
    by_cases own : call = .check key
    · subst own
      have checked := kept.check sane reached key
      have later := ih (b := b.attempt (cfg key).per (cfg key).refillRate t) stepped (fun u after => by
        rw [RateLimiter.step, checked.1, level, bucket_put, if_pos rfl, TokenBucket.Bucket.attempt, holds t reached]) timely
      have times : checkTimes key ((t, .check key) :: rest) = t :: checkTimes key rest := by simp [checkTimes]
      rw [times, TokenBucket.Bucket.served, ← later, ← holds t reached]
      by_cases passes : 1 ≤ s.level key (cfg key) t
      · have answer : allowedAt key ((t, .check key), (s.step cfg (t, .check key)).2) = some t := by
          rw [allowedAt, if_pos]
          exact ⟨rfl, by simp [RateLimiter.step, checked.2, passes]⟩
        rw [answer, if_pos passes]
        rfl
      · have answer : allowedAt key ((t, .check key), (s.step cfg (t, .check key)).2) = none := by
          rw [allowedAt, if_neg]
          simp [RateLimiter.step, checked.2, passes]
        rw [answer, if_neg passes]
        rfl
    · have later := ih (b := b) stepped (fun u after => by
        rw [kept.level_step sane reached own after, holds u (reached.trans after)]) timely
      have times : checkTimes key ((t, call) :: rest) = checkTimes key rest := by simp [checkTimes, own]
      have answer : allowedAt key ((t, call), (s.step cfg (t, call)).2) = none := by
        rw [allowedAt, if_neg fun both => own both.1]
      rw [times, ← later, answer]
      rfl

/-- From an instant on, calls go on with the same buckets. -/
def Alike (now : ℚ) (s s' : RateLimiter) : Prop := ∀ key u, now ≤ u → s.live key u = s'.live key u

variable {s' : RateLimiter}

theorem Alike.put (alike : Alike now s s') (later : now ≤ t) (key : String) (b : BucketState) :
    Alike t (s.put key b) (s'.put key b) := by
  intro key' u after
  rw [live, live, bucket_put, bucket_put]
  split
  · rfl
  · exact alike key' u (later.trans after)

/-- A sweep drops only buckets that no later call goes on with. -/
theorem Alike.sweep (alike : Alike now s s') (later : now ≤ t) : Alike t (s.sweep t).1 s' := by
  intro key u after
  rw [← alike key u (later.trans after), live, bucket_sweep, live, Option.filter_filter, live]
  congr 1
  funext b
  by_cases expired : b.expiresAt < t
  · simp [expired, expired.trans_le after]
  · simp [expired]

theorem Alike.step (alike : Alike now s s') (later : now ≤ t) {call : RateCall} (kept : call ≠ .sweep) :
    (s.step cfg (t, call)).2 = (s'.step cfg (t, call)).2 ∧ Alike t (s.step cfg (t, call)).1 (s'.step cfg (t, call)).1 := by
  cases call with
  | check key =>
    rw [RateLimiter.step, RateLimiter.step, RateLimiter.check, RateLimiter.check, alike key t later]
    simp only
    split
    · exact ⟨rfl, alike.put later key _⟩
    · exact ⟨rfl, alike.put later key _⟩
  | peek key =>
    rw [RateLimiter.step, RateLimiter.step, RateLimiter.peek, RateLimiter.peek, alike key t later]
    exact ⟨rfl, fun key' u after => alike key' u (later.trans after)⟩
  | sweep => exact absurd rfl kept

theorem Alike.trace {calls : List (ℚ × RateCall)} (alike : Alike now s s')
    (timely : (now :: calls.map Prod.fst).Pairwise (· ≤ ·)) :
    (s.trace cfg calls).filter (fun answered => answered.1.2 ≠ .sweep) =
      s'.trace cfg (calls.filter fun call => call.2 ≠ .sweep) := by
  induction calls generalizing s s' now with
  | nil => rfl
  | cons call rest ih =>
    obtain ⟨t, call⟩ := call
    obtain ⟨first, timely⟩ := List.pairwise_cons.mp timely
    have reached : now ≤ t := first t (by simp)
    by_cases swept : call = .sweep
    · subst swept
      rw [RateLimiter.trace, List.filter_cons_of_neg (by simp), List.filter_cons_of_neg (by simp)]
      exact ih (alike.sweep reached) timely
    · obtain ⟨same, after⟩ := alike.step reached swept
      rw [RateLimiter.trace, List.filter_cons_of_pos (by simpa using swept), List.filter_cons_of_pos (by simpa using swept),
        RateLimiter.trace, ih after timely, same]

/-- The token-bucket laws of a run of calls on a new limiter. -/
structure TokenBucketLaws (cfg : String → RateLimitConfig) (calls : List (ℚ × RateCall)) : Prop where
  tokens_between : ∀ key b, (fresh.after cfg calls).bucket key = some b → 0 ≤ b.tokens ∧ b.tokens ≤ (cfg key).per
  allowed_at_most : ∀ key start span, 0 ≤ span →
    (((fresh.allowedTimes cfg key calls).filter fun t => start ≤ t ∧ t ≤ start + span).length : ℚ) ≤
      (cfg key).per + span * (cfg key).per / (cfg key).windowSeconds
  peek_as_check : ∀ key now, (∀ call ∈ calls, call.1 ≤ now) →
    ((fresh.after cfg calls).peek key (cfg key) now).verdict = ((fresh.after cfg calls).check key (cfg key) now).2.verdict
  sweeps_unseen : (fresh.trace cfg calls).filter (fun answered => answered.1.2 ≠ .sweep) =
    fresh.trace cfg (calls.filter fun call => call.2 ≠ .sweep)
  retry_passes : ∀ key before between denied retry later, calls = before ++ (denied, .check key) :: between →
    ((fresh.after cfg before).check key (cfg key) denied).2 = .denied retry →
    (∀ call ∈ between, call.2 ≠ .check key ∧ call.2 ≠ .peek key) →
    (∀ call ∈ between, call.1 ≤ later) → denied + retry ≤ later →
      ((fresh.after cfg calls).check key (cfg key) later).2.verdict = none

theorem kept_fresh (now : ℚ) : fresh.Kept cfg now := by
  intro key b held
  rw [bucket_fresh] at held
  cases held

theorem exists_start {times : List ℚ} (timely : times.Pairwise (· ≤ ·)) {u : ℚ} (late : ∀ t ∈ times, t ≤ u) :
    ∃ now ≤ u, (now :: times).Pairwise (· ≤ ·) := by
  cases times with
  | nil => exact ⟨u, le_rfl, List.pairwise_singleton _ u⟩
  | cons first rest =>
    refine ⟨first, late first List.mem_cons_self, List.pairwise_cons.mpr ⟨?_, timely⟩⟩
    intro t member
    rcases List.mem_cons.mp member with rfl | next
    · exact le_rfl
    · exact (List.pairwise_cons.mp timely).1 t next

theorem kept_after (sane : ∀ key, (cfg key).Sane) {calls : List (ℚ × RateCall)}
    (timely : (calls.map Prod.fst).Pairwise (· ≤ ·)) (late : ∀ t ∈ calls.map Prod.fst, t ≤ u) :
    (fresh.after cfg calls).Kept cfg u := by
  obtain ⟨now, early, timed⟩ := exists_start timely late
  refine (kept_fresh now).run sane timed fun t member => ?_
  rcases List.mem_cons.mp member with rfl | listed
  · exact early
  · exact late t listed

/-- A denial finds less than a token, and asks to wait for the rest. -/
theorem Kept.denied (sane : ∀ key, (cfg key).Sane) (kept : s.Kept cfg t) {retry : Int}
    (answer : (s.check key (cfg key) t).2 = .denied retry) :
    ¬ 1 ≤ s.level key (cfg key) t ∧ retry = retryAfter (cfg key) (s.level key (cfg key) t) := by
  have verdict := (kept.check sane le_rfl key).2
  rw [answer] at verdict
  split at verdict
  · cases verdict
  · rename_i short
    exact ⟨short, Option.some.inj verdict⟩

/-- After the wait a denial asks for, a key that was let alone has a token. -/
theorem level_after_retry (sane : ∀ key, (cfg key).Sane) {before between : List (ℚ × RateCall)} {denied : ℚ} {retry : Int}
    (timely : ((before ++ (denied, .check key) :: between).map Prod.fst).Pairwise (· ≤ ·))
    (answer : ((fresh.after cfg before).check key (cfg key) denied).2 = .denied retry)
    (others : ∀ call ∈ between, call.2 ≠ .check key) (late : ∀ call ∈ between, call.1 ≤ u) (waited : denied + retry ≤ u) :
    denied ≤ u ∧ 1 ≤ (fresh.after cfg (before ++ (denied, .check key) :: between)).level key (cfg key) u := by
  rw [List.map_append, List.map_cons, List.pairwise_append, List.pairwise_cons] at timely
  obtain ⟨early, ⟨first, rest⟩, apart⟩ := timely
  have kept : (fresh.after cfg before).Kept cfg denied :=
    kept_after sane early fun t member => apart t member denied List.mem_cons_self
  obtain ⟨short, wait⟩ := kept.denied sane answer
  have row := (kept.check sane le_rfl key).1
  have since : denied ≤ u := by
    have second : 1 ≤ retry := by
      rw [wait]
      exact le_max_left 1 _
    have positive : (1 : ℚ) ≤ retry := by exact_mod_cast second
    linarith
  have unfolded : fresh.after cfg (before ++ (denied, .check key) :: between) =
      ((fresh.after cfg before).step cfg (denied, .check key)).1.after cfg between := by
    rw [after, List.foldl_append, List.foldl_cons, after, after]
  have within : ∀ t ∈ denied :: between.map Prod.fst, t ≤ u := by
    intro t member
    rcases List.mem_cons.mp member with rfl | listed
    · exact since
    · obtain ⟨call, inBetween, rfl⟩ := List.mem_map.mp listed
      exact late call inBetween
  have alone := (kept.step sane le_rfl (.check key)).level_run sane (List.pairwise_cons.mpr ⟨first, rest⟩) within others
  refine ⟨since, ?_⟩
  rw [unfolded, alone, RateLimiter.step, row, level, bucket_put, if_pos rfl, if_neg short]
  refine le_min (sane key).per ?_
  have refilled := (sane key).retryAfter_refills ((fresh.after cfg before).level key (cfg key) denied)
  rw [← wait] at refilled
  have more : retry * (cfg key).refillRate ≤ (u - denied) * (cfg key).refillRate :=
    mul_le_mul_of_nonneg_right (by linarith) (sane key).rate_pos.le
  simp only
  linarith

theorem exists_latest (times : List ℚ) : ∃ u, ∀ t ∈ times, t ≤ u := by
  induction times with
  | nil => exact ⟨0, List.forall_mem_nil _⟩
  | cons first rest ih =>
    obtain ⟨u, late⟩ := ih
    refine ⟨max first u, List.forall_mem_cons.mpr ⟨le_max_left first u, fun t member => ?_⟩⟩
    exact (late t member).trans (le_max_right first u)

theorem allowedTimes_within (sane : ∀ key, (cfg key).Sane) {calls : List (ℚ × RateCall)}
    (timely : (calls.map Prod.fst).Pairwise (· ≤ ·)) {start span : ℚ} (forth : 0 ≤ span) :
    (((fresh.allowedTimes cfg key calls).filter fun t => start ≤ t ∧ t ≤ start + span).length : ℚ) ≤
      (cfg key).per + span * (cfg key).refillRate := by
  obtain ⟨u, late⟩ := exists_latest (calls.map Prod.fst)
  obtain ⟨now, -, timed⟩ := exists_start timely late
  have sound : (⟨(cfg key).per, now⟩ : TokenBucket.Bucket ℚ).Sound (cfg key).per :=
    ⟨zero_le_one.trans (sane key).per, le_rfl⟩
  have full : ∀ u, now ≤ u → fresh.level key (cfg key) u =
      (⟨(cfg key).per, now⟩ : TokenBucket.Bucket ℚ).holds (cfg key).per (cfg key).refillRate u := by
    intro u after
    rw [level, bucket_fresh, TokenBucket.Bucket.holds]
    exact (min_eq_left (le_add_of_nonneg_right (mul_nonneg (sub_nonneg.mpr after) (sane key).rate_pos.le))).symm
  have checks : (now :: checkTimes key calls).Pairwise (· ≤ ·) := by
    refine timed.sublist (List.Sublist.cons_cons now ?_)
    exact List.filter_sublist.map Prod.fst
  rw [(kept_fresh now).allowedTimes_eq sane full timed]
  exact sound.served_within (sane key).rate_pos.le checks forth

/-- The limiter meets the token-bucket laws on every run. -/
theorem token_bucket_laws (cfg : String → RateLimitConfig) (sane : ∀ key, (cfg key).Sane) (calls : List (ℚ × RateCall))
    (timely : (calls.map Prod.fst).Pairwise (· ≤ ·)) : TokenBucketLaws cfg calls where
  tokens_between key b held := by
    obtain ⟨u, late⟩ := exists_latest (calls.map Prod.fst)
    obtain ⟨sound, -, -⟩ := kept_after sane timely late key b held
    exact ⟨sound.nonneg, sound.le_per⟩
  allowed_at_most key start span forth := by
    rw [mul_div_assoc]
    exact allowedTimes_within sane timely forth
  peek_as_check key now late := by
    have kept := kept_after sane timely (List.forall_mem_map.mpr late)
    rw [kept.peek sane le_rfl key, (kept.check sane le_rfl key).2]
  sweeps_unseen := by
    obtain ⟨u, late⟩ := exists_latest (calls.map Prod.fst)
    obtain ⟨now, -, timed⟩ := exists_start timely late
    exact Alike.trace (fun key u _ => rfl) timed
  retry_passes key before between denied retry later split answer others late waited := by
    subst split
    obtain ⟨since, token⟩ := level_after_retry sane timely answer (fun call member => (others call member).1) late waited
    have kept : (fresh.after cfg (before ++ (denied, .check key) :: between)).Kept cfg later := by
      refine kept_after sane timely (List.forall_mem_map.mpr fun call member => ?_)
      rcases List.mem_append.mp member with old | new
      · rw [List.map_append, List.pairwise_append] at timely
        exact (timely.2.2 _ (List.mem_map_of_mem old) denied (by simp)).trans since
      · rcases List.mem_cons.mp new with rfl | next
        · exact since
        · exact late call next
    rw [(kept.check sane le_rfl key).2, if_pos token]

/-- Two checks and a sweep between, one token a minute. -/
theorem token_bucket_laws_minute :
    TokenBucketLaws (fun _ => { per := 1, windowSeconds := 60 })
      [(0, .check "ip:1"), (10, .sweep), (30, .check "ip:1")] :=
  token_bucket_laws _ (fun _ => ⟨by norm_num, by norm_num⟩) _ (by norm_num)

end RateLimiter

end Coordinator
