import Coordinator.RateLimiter
import Coordinator.Library.FixedWindow
import Mathlib.Logic.Function.Basic

namespace Coordinator

open FixedWindow (Window)

/-- A `RateLimitConfig` in whole numbers, as `EXPIRE` wants them. -/
structure WindowConfig where
  per : Nat
  windowSeconds : Nat

def WindowConfig.window (cfg : WindowConfig) : Nat := cfg.windowSeconds * 1000

/-- A counter in the store, with its expiry in milliseconds if it has one. -/
structure WindowValue where
  count : Nat
  expiresAt : Option Nat
  deriving DecidableEq

abbrev WindowKeys := String → Option WindowValue

def rateKey (key : String) : String := "coordinator:rl:" ++ key

/-- The value that the store still has at an instant. -/
def liveValue (now : Nat) (key : String) (keys : WindowKeys) : Option WindowValue :=
  (keys key).filter fun v => v.expiresAt.all (now < ·)

/-- `TTL` of a key that expires, to the nearest second. -/
def ttlReply (now expiresAt : Nat) : Nat := (expiresAt - now + 500) / 1000

/-- The script `CHECK_LUA`, with the count and the seconds that it returns. -/
def checkScript (now : Nat) (key : String) (windowSeconds : Nat) (keys : WindowKeys) : WindowKeys × Nat × Nat :=
  let live := liveValue now key keys
  let c := (live.map WindowValue.count).getD 0 + 1
  match if c = 1 then some (now + windowSeconds * 1000) else live.bind WindowValue.expiresAt with
  | some expiresAt => (Function.update keys key (some ⟨c, some expiresAt⟩), c, ttlReply now expiresAt)
  -- a counter that has lost its expiry gets a new one
  | none => (Function.update keys key (some ⟨c, some (now + windowSeconds * 1000)⟩), c, windowSeconds)

namespace RedisRateLimiter

/-- What `check` makes of the script's reply, `none` for an error. -/
def checkResult (cfg : WindowConfig) (now : Nat) : Option (Nat × Nat) → RateLimitResult
  | some (count, reply) =>
    let ttl := max 1 reply
    if count ≤ cfg.per then .allowed (cfg.per - count : Nat) (now / 1000 + ttl : Nat) else .denied ttl
  | none => .allowed cfg.per (now / 1000 + cfg.windowSeconds : Nat)

/-- What `peek` makes of the replies to `GET` and `TTL`. -/
def peekResult (cfg : WindowConfig) (now : Nat) : Option (Option Nat × Int) → RateLimitResult
  | some (raw, ttl) =>
    let count := raw.getD 0
    if count < cfg.per then
      .allowed (cfg.per - count : Nat) (now / 1000 + if 0 < ttl then (ttl : ℚ) else cfg.windowSeconds)
    else .denied (max 1 ttl)
  | none => .allowed cfg.per (now / 1000 + cfg.windowSeconds : Nat)

end RedisRateLimiter

/-- A call on the limiter of some instance. Of a call whose answer is lost the
script may have run. `peek` sends `TTL` besides `GET`, which is answered at
some other moment. -/
inductive WindowCall
  | check (key : String)
  | checkLost (key : String) (ran : Bool)
  | peek (key : String) (ttl : Int)
  | peekLost (key : String)
  deriving DecidableEq

namespace RedisRateLimiter

def step (cfg : String → WindowConfig) (keys : WindowKeys) : Nat × WindowCall → WindowKeys × RateLimitResult
  | (now, .check key) =>
    let (keys, reply) := checkScript now (rateKey key) (cfg key).windowSeconds keys
    (keys, checkResult (cfg key) now (some reply))
  | (now, .checkLost key ran) =>
    (if ran then (checkScript now (rateKey key) (cfg key).windowSeconds keys).1 else keys, checkResult (cfg key) now none)
  | (now, .peek key ttl) =>
    (keys, peekResult (cfg key) now (some ((liveValue now (rateKey key) keys).map WindowValue.count, ttl)))
  | (now, .peekLost key) => (keys, peekResult (cfg key) now none)

def after (cfg : String → WindowConfig) (keys : WindowKeys) (calls : List (Nat × WindowCall)) : WindowKeys :=
  calls.foldl (fun keys call => (step cfg keys call).1) keys

def trace (cfg : String → WindowConfig) :
    WindowKeys → List (Nat × WindowCall) → List ((Nat × WindowCall) × RateLimitResult)
  | _, [] => []
  | keys, call :: rest => (call, (step cfg keys call).2) :: trace cfg (step cfg keys call).1 rest

def fresh : WindowKeys := fun _ => none

/-- The calls for which the script ran on the key. -/
def hits (key : String) (calls : List (Nat × WindowCall)) : List (Nat × WindowCall) :=
  calls.filter fun call => call.2 = .check key ∨ call.2 = .checkLost key true

/-- Every counter counts something and expires. -/
def Timed (keys : WindowKeys) : Prop := ∀ k v, keys k = some v → 1 ≤ v.count ∧ v.expiresAt.isSome

def windowAt (keys : WindowKeys) (k : String) : Option Window :=
  (keys k).bind fun v => v.expiresAt.map fun endsAt => ⟨v.count, endsAt⟩

section
variable {cfg : String → WindowConfig} {keys : WindowKeys} {key : String} {now : Nat}

theorem Timed.fresh : Timed fresh := nofun

/-- The script counts a hit in the window of its key. -/
theorem Timed.checkScript (timed : Timed keys) (now : Nat) (k : String) (windowSeconds : Nat) :
    checkScript now k windowSeconds keys =
      let w := FixedWindow.hit (windowSeconds * 1000) (windowAt keys k) now
      (Function.update keys k (some ⟨w.count, some w.endsAt⟩), w.count, ttlReply now w.endsAt) := by
  unfold Coordinator.checkScript liveValue windowAt
  cases held : keys k with
  | none => rfl
  | some v =>
    obtain ⟨counts, expires⟩ := timed k v held
    obtain ⟨count, expiresAt⟩ := v
    obtain ⟨endsAt, rfl⟩ := Option.isSome_iff_exists.mp expires
    by_cases live : now < endsAt
    · have more : count ≠ 0 := Nat.ne_of_gt counts
      simp [FixedWindow.hit, Option.filter, live, more]
    · simp [FixedWindow.hit, Option.filter, live]

theorem Timed.update (timed : Timed keys) (k : String) {w : Window} (counts : 1 ≤ w.count) :
    Timed (Function.update keys k (some ⟨w.count, some w.endsAt⟩)) := by
  intro k' v held
  by_cases same : k' = k
  · subst same
    rw [Function.update_self, Option.some.injEq] at held
    subst held
    exact ⟨counts, rfl⟩
  · rw [Function.update_of_ne same] at held
    exact timed k' v held

/-- A call on which the script runs for some key. -/
theorem step_ran (timed : Timed keys) {call : WindowCall} (ran : call = .check key ∨ call = .checkLost key true) :
    (step cfg keys (now, call)).1 = Function.update keys (rateKey key)
      (some ⟨(FixedWindow.hit (cfg key).window (windowAt keys (rateKey key)) now).count,
        some (FixedWindow.hit (cfg key).window (windowAt keys (rateKey key)) now).endsAt⟩) := by
  rcases ran with rfl | rfl
  · rw [step, timed.checkScript]
    rfl
  · rw [step, if_pos rfl, timed.checkScript]
    rfl

/-- Every other call leaves the counters alone. -/
theorem step_idle {call : WindowCall} (idle : ∀ key, ¬ (call = .check key ∨ call = .checkLost key true)) :
    (step cfg keys (now, call)).1 = keys := by
  cases call with
  | check key => exact absurd (.inl rfl) (idle key)
  | checkLost key ran =>
    cases ran with
    | true => exact absurd (.inr rfl) (idle key)
    | false => rfl
  | peek key ttl => rfl
  | peekLost key => rfl

theorem Timed.step (timed : Timed keys) (call : Nat × WindowCall) : Timed (step cfg keys call).1 := by
  obtain ⟨now, call⟩ := call
  by_cases ran : ∃ key, call = .check key ∨ call = .checkLost key true
  · obtain ⟨key, ran⟩ := ran
    rw [step_ran timed ran]
    exact timed.update _ (FixedWindow.count_pos _ _)
  · rw [step_idle (not_exists.mp ran)]
    exact timed

theorem Timed.after (timed : Timed keys) (calls : List (Nat × WindowCall)) : Timed (after cfg keys calls) := by
  induction calls generalizing keys with
  | nil => exact timed
  | cons call rest ih => exact ih (timed.step call)

end

section
variable {cfg : String → WindowConfig} {calls before between : List (Nat × WindowCall)} {key : String} {now : Nat}

theorem after_append (keys : WindowKeys) (before rest : List (Nat × WindowCall)) :
    after cfg keys (before ++ rest) = after cfg (after cfg keys before) rest := List.foldl_append

end

/-- The half second is needed: `TTL` rounds, and a caller told to wait one second is refused again after it. -/
example : (trace (fun _ => ⟨1, 2⟩) fresh [(0, .check "k"), (600, .check "k"), (1600, .check "k")]).map
    (fun answered => answered.2.verdict) = [none, some 1, some 1] := by decide

end RedisRateLimiter

end Coordinator
