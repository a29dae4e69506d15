import Mathlib.Algebra.Order.Floor.Ring
import Mathlib.Algebra.Order.Ring.Rat
import Mathlib.Data.Rat.Floor
import Mathlib.Tactic.Linarith
import Mathlib.Tactic.NormNum
import Coordinator.ConflictDetector
import Coordinator.ThreadStep

namespace Coordinator

namespace Stamp

/-- The milliseconds a stamp stands for. -/
def millis : Stamp → Nat
  | .sqlite s => 1000 * s
  | .iso ms => ms

/-- Comparison as TEXT with what `datetime` writes for a second of any year.
A year before 1970 sorts before every stamp. -/
def after : Stamp → Int → Bool
  | .sqlite s, cutoff => cutoff < s
  | .iso ms, cutoff => cutoff / 86400 ≤ ms / 86400000

theorem after_natCast {a : Stamp} {seconds : Nat} : a.after seconds = (Stamp.sqlite seconds).lt a := by
  cases a with
  | sqlite s => simp only [after, lt, Nat.cast_lt]
  | iso ms => simp only [after, lt, decide_eq_decide]; omega

end Stamp

/-- The minutes as a whole number of milliseconds, as `datetime` rounds them. -/
def roundedMillis (minutes : ℚ≥0) : Int := ⌊60000 * (minutes : ℚ) + 1 / 2⌋

/-- `datetime('now', '-' || minutes || ' minutes')` in seconds; NULL before the year -4713. -/
def Env.minutesBefore (env : Env) (minutes : ℚ≥0) : Option Int :=
  let cutoff := env.now - roundedMillis minutes
  if -210866760000000 ≤ cutoff then some (cutoff / 1000) else none

namespace Thread

/-- `COALESCE(resolved_at, created_at)`. -/
def settledAt (t : Thread) : Stamp := t.resolvedAt.getD t.createdAt

/-- Less than the given number of minutes have passed since. -/
def settledWithin (env : Env) (minutes : ℚ≥0) (t : Thread) : Bool :=
  (env.now : ℚ) - t.settledAt.millis < 60000 * minutes

/-- The texts order a thread and the cutoff as the clock does: an ISO stamp that
is older than the window is of an earlier day than the cutoff. For a window that is not a
whole number of milliseconds, no other stamp is lost to its rounding. -/
def Datable (env : Env) (minutes : ℚ≥0) (t : Thread) : Prop :=
  match env.minutesBefore minutes, t.settledAt with
  | none, _ => False
  | some cutoff, .iso ms => t.settledWithin env minutes ∨ (ms / 86400000 : Int) < cutoff / 86400
  | some _, .sqlite s =>
    ¬ ((env.now : Int) - 1000 * s = roundedMillis minutes ∧ (roundedMillis minutes : ℚ) < 60000 * minutes)

end Thread

namespace Db

/-- `listThreads({ status: "resolved", since_minutes })`, for any number of minutes. -/
def listResolved (env : Env) (orgId : OrgId) (minutes : ℚ≥0) (db : Db) : List Thread :=
  (db.threads.rows.filter fun t =>
    t.orgId = orgId ∧ t.status = .resolved ∧ (env.minutesBefore minutes).any t.settledAt.after).insertionSort
      fun a b => ¬ a.createdAt.lt b.createdAt

/-- The threads it is meant to return. -/
def resolvedWithin (env : Env) (orgId : OrgId) (minutes : ℚ≥0) (db : Db) : List Thread :=
  (db.threads.rows.filter fun t =>
    t.orgId = orgId ∧ t.status = .resolved ∧ t.settledWithin env minutes).insertionSort
      fun a b => ¬ a.createdAt.lt b.createdAt

theorem minutesBefore_natCast {env : Env} {minutes : Nat} (past : minutes * 60 ≤ env.now / 1000) :
    env.minutesBefore minutes = some ((env.now / 1000 - minutes * 60 : Nat) : Int) := by
  have whole : roundedMillis minutes = 60000 * minutes := by
    rw [roundedMillis, Int.floor_eq_iff]
    push_cast
    constructor <;> linarith
  have late : -210866760000000 ≤ (env.now : Int) - 60000 * minutes := by omega
  simp only [Env.minutesBefore, whole, if_pos late, Option.some.injEq]
  omega

/-- For a whole number of minutes it is the query of the scorer and of the detector. -/
theorem listThreads_eq_listResolved {env : Env} {orgId : OrgId} {minutes : Nat} {db : Db}
    (past : minutes * 60 ≤ env.now / 1000) :
    db.listThreads env orgId { status := some .resolved, sinceMinutes := some minutes, runId := none } =
      db.listResolved env orgId minutes := by
  simp [listThreads, listResolved, minutesBefore_natCast past, Stamp.after_natCast, Env.minutesAgo, orNull,
    Thread.settledAt]

end Db

/-- Whole milliseconds are less than the window exactly when less than its
rounding, but for those the rounding takes off. -/
theorem lt_roundedMillis {minutes : ℚ≥0} {elapsed : Int} :
    elapsed < roundedMillis minutes ∨ elapsed = roundedMillis minutes ∧ (roundedMillis minutes : ℚ) < 60000 * minutes ↔
      (elapsed : ℚ) < 60000 * minutes := by
  have low : (roundedMillis minutes : ℚ) ≤ 60000 * minutes + 1 / 2 := Int.floor_le _
  have high : 60000 * (minutes : ℚ) + 1 / 2 < roundedMillis minutes + 1 := Int.lt_floor_add_one _
  constructor
  · rintro (below | ⟨rfl, lost⟩)
    · have next : (elapsed : ℚ) + 1 ≤ roundedMillis minutes := by exact_mod_cast below
      linarith
    · exact lost
  · intro within
    have near : elapsed < roundedMillis minutes + 1 := by
      have nearQ : (elapsed : ℚ) < roundedMillis minutes + 1 := by linarith
      exact_mod_cast nearQ
    rcases Int.lt_or_eq_of_le (Int.lt_add_one_iff.mp near) with below | same
    · exact .inl below
    · exact .inr ⟨same, same ▸ within⟩

namespace Thread
variable {env : Env} {minutes : ℚ≥0} {t : Thread}

theorem settledWithin_iff : t.settledWithin env minutes ↔
    (env.now : Int) - t.settledAt.millis < roundedMillis minutes ∨
      (env.now : Int) - t.settledAt.millis = roundedMillis minutes ∧
        (roundedMillis minutes : ℚ) < 60000 * minutes := by
  rw [lt_roundedMillis, settledWithin, decide_eq_true_eq]
  push_cast
  rfl

/-- The query keeps the right threads exactly when they are datable. -/
theorem after_iff_settledWithin :
    ((env.minutesBefore minutes).any t.settledAt.after ↔ t.settledWithin env minutes) ↔ t.Datable env minutes := by
  by_cases late : -210866760000000 ≤ (env.now : Int) - roundedMillis minutes
  · have known : env.minutesBefore minutes = some (((env.now : Int) - roundedMillis minutes) / 1000) := if_pos late
    rw [Datable, known, Option.any_some]
    have within : t.settledWithin env minutes ↔ _ := settledWithin_iff
    cases stamp : t.settledAt with
    | sqlite s =>
      have kept : (Stamp.sqlite s).after (((env.now : Int) - roundedMillis minutes) / 1000) ↔
          (env.now : Int) - 1000 * s < roundedMillis minutes := by
        simp only [Stamp.after, decide_eq_true_eq]
        omega
      simp only [stamp, Stamp.millis, Nat.cast_mul, Nat.cast_ofNat] at within
      rw [kept, within]
      have apart : (env.now : Int) - 1000 * s = roundedMillis minutes →
          ¬ (env.now : Int) - 1000 * s < roundedMillis minutes := by omega
      tauto
    | iso ms =>
      have returned : t.settledWithin env minutes →
          (Stamp.iso ms).after (((env.now : Int) - roundedMillis minutes) / 1000) := by
        rw [within]
        simp only [stamp, Stamp.millis, Stamp.after, decide_eq_true_eq]
        omega
      have older : ¬ (Stamp.iso ms).after (((env.now : Int) - roundedMillis minutes) / 1000) ↔
          (ms / 86400000 : Int) < ((env.now : Int) - roundedMillis minutes) / 1000 / 86400 := by
        simp only [Stamp.after, decide_eq_true_eq]
        omega
      simp only
      tauto
  · have unknown : env.minutesBefore minutes = none := if_neg late
    have within : t.settledWithin env minutes := by
      rw [settledWithin_iff]
      omega
    simp [Datable, unknown, within]

end Thread

namespace Db
variable {env : Env} {orgId : OrgId} {minutes : ℚ≥0} {db : Db}

/-- Every resolved thread of the organisation has a stamp the query dates rightly. -/
def DatableWindow (env : Env) (orgId : OrgId) (minutes : ℚ≥0) (db : Db) : Prop :=
  ∀ t ∈ db.threads.rows, t.orgId = orgId → t.status = .resolved → t.Datable env minutes

theorem listResolved_eq_resolvedWithin :
    db.listResolved env orgId minutes = db.resolvedWithin env orgId minutes ↔ db.DatableWindow env orgId minutes := by
  constructor
  · intro same t member atOrg resolved
    have listed : t ∈ db.listResolved env orgId minutes ↔ t ∈ db.resolvedWithin env orgId minutes := by rw [same]
    simp only [listResolved, resolvedWithin, List.mem_insertionSort, List.mem_filter, decide_eq_true_eq, member,
      atOrg, resolved, true_and] at listed
    exact Thread.after_iff_settledWithin.mp listed
  · intro datable
    have kept : ∀ t ∈ db.threads.rows,
        decide (t.orgId = orgId ∧ t.status = .resolved ∧ (env.minutesBefore minutes).any t.settledAt.after) =
          decide (t.orgId = orgId ∧ t.status = .resolved ∧ t.settledWithin env minutes) := by
      intro t member
      refine decide_eq_decide.mpr (and_congr_right fun atOrg => and_congr_right fun resolved => ?_)
      exact Thread.after_iff_settledWithin.mpr (datable t member atOrg resolved)
    rw [listResolved, resolvedWithin, List.filter_congr kept]

/-- The database without the resolutions of an organisation that the window leaves behind. -/
def forgetSettled (env : Env) (orgId : OrgId) (minutes : ℚ≥0) (db : Db) : Db :=
  { db with
    threads := db.threads.delete fun t => t.orgId = orgId ∧ t.status = .resolved ∧ ¬ t.settledWithin env minutes }

/-- Rows the query does not list may go. -/
theorem listThreads_delete {filters : ThreadFilters} {p : Thread → Bool}
    (unlisted : ∀ t ∈ db.listThreads env orgId filters, ¬ p t) :
    ({ db with threads := db.threads.delete p } : Db).listThreads env orgId filters =
      db.listThreads env orgId filters := by
  simp only [listThreads, List.mem_insertionSort, List.mem_filter] at unlisted ⊢
  rw [Table.delete, List.filter_filter]
  congr 1
  refine List.filter_congr fun t member => ?_
  rw [Bool.and_eq_left_iff_imp]
  intro listed
  simpa using unlisted t ⟨member, listed⟩

/-- A thread of the last half hour's window that the scorer reads is no older. -/
theorem settledWithin_of_listed {runId : Option String} {t : Thread} (datable : db.DatableWindow env orgId 30)
    (listed : t ∈ db.listThreads env orgId { status := some .resolved, sinceMinutes := some 30, runId }) :
    t.settledWithin env 30 := by
  simp only [listThreads, List.mem_insertionSort, List.mem_filter, decide_eq_true_eq, Option.all_some] at listed
  obtain ⟨member, atOrg, resolved, -, recent⟩ := listed
  rcases Nat.lt_or_ge (env.now / 1000) (30 * 60) with early | past
  · have half : roundedMillis 30 = 1800000 := by norm_num [roundedMillis]
    rw [Thread.settledWithin_iff, half]
    omega
  · have known : env.minutesBefore (30 : Nat) = _ := minutesBefore_natCast past
    have kept : (env.minutesBefore 30).any t.settledAt.after := by
      rw [show (30 : ℚ≥0) = (30 : Nat) from rfl, known, Option.any_some, Stamp.after_natCast]
      exact recent
    exact (Thread.after_iff_settledWithin.mpr (datable t member atOrg resolved)).mp kept

theorem announcedThreads_forgetSettled (runId : Option String) (datable : db.DatableWindow env orgId 30) :
    (db.forgetSettled env orgId 30).announcedThreads env orgId 30 runId = db.announcedThreads env orgId 30 runId := by
  have active {status : ThreadStatus} (unresolved : status ≠ .resolved) :
      (db.forgetSettled env orgId 30).listThreads env orgId { status := some status, sinceMinutes := none, runId } =
        db.listThreads env orgId { status := some status, sinceMinutes := none, runId } := by
    refine listThreads_delete fun t listed => ?_
    simp only [listThreads, List.mem_insertionSort, List.mem_filter, decide_eq_true_eq, Option.all_some] at listed
    simp [listed.2.2.1, unresolved]
  have resolved : (db.forgetSettled env orgId 30).listThreads env orgId
      { status := some .resolved, sinceMinutes := some 30, runId } =
        db.listThreads env orgId { status := some .resolved, sinceMinutes := some 30, runId } := by
    refine listThreads_delete fun t listed => ?_
    simp [settledWithin_of_listed datable listed]
  rw [announcedThreads, active (by decide), active (by decide), resolved, announcedThreads]

theorem score_forgetSettled {params : ScoreParams} (datable : db.DatableWindow env params.orgId 30) :
    (db.forgetSettled env params.orgId 30).score env params = db.score env params := by
  have announced := announcedThreads_forgetSettled none datable
  have each : (db.forgetSettled env params.orgId 30).scoreAgent env params = db.scoreAgent env params := by
    funext agent
    simp only [scoreAgent, findings, layer0WindowMinutes, announced]
    rfl
  rw [score, each]
  rfl

theorem detect_forgetSettled {params : DetectParams} (datable : db.DatableWindow env params.orgId 30) :
    (db.forgetSettled env params.orgId 30).detect env params = db.detect env params := by
  have announced := announcedThreads_forgetSettled params.runId datable
  simp only [detect, resolvedThreadConflictWindowMinutes, announced]
  rfl

/-- The window is honoured exactly where every stamp in it can be dated; then
older resolutions count neither in Layer 0 nor as conflicts. -/
theorem window_honoured (env : Env) (orgId : OrgId) (db : Db) :
    (∀ minutes, db.listResolved env orgId minutes = db.resolvedWithin env orgId minutes ↔
      db.DatableWindow env orgId minutes) ∧
    (db.DatableWindow env orgId 30 →
      (∀ params : ScoreParams, params.orgId = orgId →
        (db.forgetSettled env orgId 30).score env params = db.score env params) ∧
      ∀ params : DetectParams, params.orgId = orgId →
        (db.forgetSettled env orgId 30).detect env params = db.detect env params) := by
  refine ⟨fun minutes => listResolved_eq_resolvedWithin, fun datable => ⟨?_, ?_⟩⟩
  · rintro params rfl
    exact score_forgetSettled datable
  · rintro params rfl
    exact detect_forgetSettled datable

/-- The window is honoured in every database the calls lead to. -/
def WindowHonoured : Prop :=
  ∀ (calls : List (Env × Op)) (env : Env) (orgId : OrgId) (minutes : ℚ≥0),
    (Db.empty.after calls).listResolved env orgId minutes = (Db.empty.after calls).resolvedWithin env orgId minutes

/-- Bob closes a thread at eight in the morning. -/
def morning : List (Env × Op) :=
  [(.drawing "b1", .register "acme" "bob" "Bob" []), (.drawing "t1", .announceWork "acme" (.ofFiles "bob" ["a.ts"] true)),
    ({ Env.drawing "c1" with now := 28800000 }, .closeThread "acme" "t1" "bob" "merged")]

/-- At noon of the same day it still counts as resolved in the last half hour. -/
theorem not_windowHonoured : ¬ WindowHonoured := by
  intro honoured
  have exact30 := listResolved_eq_resolvedWithin.mp (honoured morning { Env.drawing "n1" with now := 43200000 } "acme" 30)
  have closed : ∃ t ∈ (Db.empty.after morning).threads.rows,
      t.orgId = "acme" ∧ t.status = .resolved ∧ t.resolvedAt = some (.iso 28800000) := by decide
  obtain ⟨t, member, atOrg, resolved, stamp⟩ := closed
  have datable := exact30 t member atOrg resolved
  have half : roundedMillis 30 = 1800000 := by norm_num [roundedMillis]
  have noon : Env.minutesBefore { Env.drawing "n1" with now := 43200000 } 30 = some 41400 := by
    simp [Env.minutesBefore, half]
  rw [Thread.Datable, noon, Thread.settledAt, stamp, Option.getD_some] at datable
  rcases datable with within | earlier
  · rw [Thread.settledWithin_iff, half, Thread.settledAt, stamp] at within
    simp [Stamp.millis] at within
  · simp at earlier

end Db

end Coordinator
