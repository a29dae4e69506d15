import Mathlib.Algebra.Order.Field.Basic
import Mathlib.Tactic.Linarith
import Mathlib.Tactic.Ring

universe u

/-! A bucket that fills at a steady rate up to its capacity, and gives a token to
each attempt that finds one. -/
namespace TokenBucket
variable {K : Type u} [Field K] [LinearOrder K]

/-- What a bucket held when it was last looked into. -/
structure Bucket (K : Type u) where
  level : K
  since : K

namespace Bucket
variable (per rate : K)

def holds (b : Bucket K) (t : K) : K := min per (b.level + (t - b.since) * rate)

def attempt (b : Bucket K) (t : K) : Bucket K :=
  ⟨if 1 ≤ b.holds per rate t then b.holds per rate t - 1 else b.holds per rate t, t⟩

/-- The times of the attempts that are given a token. -/
def served (b : Bucket K) : List K → List K
  | [] => []
  | t :: ts => if 1 ≤ b.holds per rate t then t :: (b.attempt per rate t).served ts else (b.attempt per rate t).served ts

/-- Neither in debt nor above capacity. -/
structure Sound (b : Bucket K) : Prop where
  nonneg : 0 ≤ b.level
  le_per : b.level ≤ per

variable {per rate} {b : Bucket K} {t : K}

theorem holds_le_per : b.holds per rate t ≤ per := min_le_left _ _

theorem holds_le : b.holds per rate t ≤ b.level + (t - b.since) * rate := min_le_right _ _

theorem Sound.holds_since (sound : b.Sound per) : b.holds per rate b.since = b.level := by
  rw [holds, sub_self, zero_mul, add_zero, min_eq_right sound.le_per]

theorem mem_of_served {ts : List K} (given : t ∈ b.served per rate ts) : t ∈ ts := by
  induction ts generalizing b with
  | nil => exact given
  | cons s rest ih =>
    rw [served] at given
    split at given
    · rcases List.mem_cons.mp given with now | later
      · exact now ▸ List.mem_cons_self
      · exact List.mem_cons_of_mem _ (ih later)
    · exact List.mem_cons_of_mem _ (ih given)

variable [IsStrictOrderedRing K]

theorem Sound.holds_nonneg (sound : b.Sound per) (steady : 0 ≤ rate) (later : b.since ≤ t) :
    0 ≤ b.holds per rate t :=
  le_min (sound.nonneg.trans sound.le_per)
    (add_nonneg sound.nonneg (mul_nonneg (sub_nonneg.mpr later) steady))

/-- A bucket that fills for as long as a whole fill takes is full. -/
theorem Sound.holds_full (sound : b.Sound per) (filled : per ≤ (t - b.since) * rate) : b.holds per rate t = per :=
  min_eq_left (filled.trans (le_add_of_nonneg_left sound.nonneg))

/-- Looking into a bucket without taking a token changes nothing. -/
theorem holds_holds (steady : 0 ≤ rate) {s : K} (later : t ≤ s) :
    (⟨b.holds per rate t, t⟩ : Bucket K).holds per rate s = b.holds per rate s := by
  have filled : 0 ≤ (s - t) * rate := mul_nonneg (sub_nonneg.mpr later) steady
  have split : (s - b.since) * rate = (t - b.since) * rate + (s - t) * rate := by ring
  simp only [holds]
  rcases le_total per (b.level + (t - b.since) * rate) with full | short
  · rw [min_eq_left full, min_eq_left (by linarith), min_eq_left (by linarith)]
  · rw [min_eq_right short, split, add_assoc]

theorem Sound.attempt (sound : b.Sound per) (steady : 0 ≤ rate) (later : b.since ≤ t) :
    (b.attempt per rate t).Sound per := by
  have low := sound.holds_nonneg steady later
  have high : b.holds per rate t ≤ per := holds_le_per
  by_cases given : 1 ≤ b.holds per rate t
  · exact ⟨by simp only [Bucket.attempt, if_pos given]; linarith, by simp only [Bucket.attempt, if_pos given]; linarith⟩
  · exact ⟨by simpa only [Bucket.attempt, if_neg given], by simpa only [Bucket.attempt, if_neg given]⟩

/-- Until any time, a bucket gives no more than it held and has been filled with. -/
theorem Sound.served_until (sound : b.Sound per) (steady : 0 ≤ rate) {ts : List K}
    (sorted : (b.since :: ts).Pairwise (· ≤ ·)) {stop : K} (stops : b.since ≤ stop) :
    (((b.served per rate ts).filter (· ≤ stop)).length : K) ≤ b.level + (stop - b.since) * rate := by
  induction ts generalizing b with
  | nil =>
    simpa [served] using add_nonneg sound.nonneg (mul_nonneg (sub_nonneg.mpr stops) steady)
  | cons t rest ih =>
    obtain ⟨first, later⟩ := List.pairwise_cons.mp sorted
    have since : b.since ≤ t := first t List.mem_cons_self
    rcases lt_or_ge stop t with after | before
    · have none : (b.served per rate (t :: rest)).filter (· ≤ stop) = [] := by
        refine List.filter_eq_nil_iff.mpr fun s given => ?_
        have late : t ≤ s := by
          rcases List.mem_cons.mp (mem_of_served given) with now | next
          · exact now.ge
          · exact (List.pairwise_cons.mp later).1 s next
        simpa using after.trans_le late
      rw [none]
      simpa using add_nonneg sound.nonneg (mul_nonneg (sub_nonneg.mpr stops) steady)
    · have rest := ih (sound.attempt steady since) later before
      have filled : b.holds per rate t ≤ b.level + (t - b.since) * rate := holds_le
      have split : (stop - b.since) * rate = (t - b.since) * rate + (stop - t) * rate := by ring
      rw [served]
      by_cases given : 1 ≤ b.holds per rate t
      · simp only [Bucket.attempt, if_pos given] at rest ⊢
        rw [List.filter_cons_of_pos (by simpa using before), List.length_cons, Nat.cast_add, Nat.cast_one]
        linarith
      · simp only [Bucket.attempt, if_neg given] at rest ⊢
        linarith

/-- In any span of time a bucket gives at most its capacity and what fills it meanwhile. -/
theorem Sound.served_within (sound : b.Sound per) (steady : 0 ≤ rate) {ts : List K}
    (sorted : (b.since :: ts).Pairwise (· ≤ ·)) {start span : K} (forth : 0 ≤ span) :
    (((b.served per rate ts).filter fun t => start ≤ t ∧ t ≤ start + span).length : K) ≤ per + span * rate := by
  have roomy : 0 ≤ per + span * rate :=
    add_nonneg (sound.nonneg.trans sound.le_per) (mul_nonneg forth steady)
  induction ts generalizing b with
  | nil => simpa [served] using roomy
  | cons t rest ih =>
    obtain ⟨first, later⟩ := List.pairwise_cons.mp sorted
    have since : b.since ≤ t := first t List.mem_cons_self
    have after := sound.attempt steady since
    have early : (((b.attempt per rate t).served per rate rest).filter fun s => start ≤ s ∧ s ≤ start + span).length ≤
        (((b.attempt per rate t).served per rate rest).filter (· ≤ start + span)).length := by
      rw [← List.countP_eq_length_filter, ← List.countP_eq_length_filter]
      exact List.countP_mono_left fun s _ within => by simp_all
    by_cases inside : start ≤ t ∧ t ≤ start + span
    · have bounded := after.served_until steady later inside.2
      have high : b.holds per rate t ≤ per := holds_le_per
      have spent : (start + span - t) * rate ≤ span * rate := mul_le_mul_of_nonneg_right (by linarith [inside.1]) steady
      have earlyK : ((((b.attempt per rate t).served per rate rest).filter fun s => start ≤ s ∧ s ≤ start + span).length : K) ≤
          (((b.attempt per rate t).served per rate rest).filter (· ≤ start + span)).length := by exact_mod_cast early
      rw [served]
      by_cases given : 1 ≤ b.holds per rate t
      · rw [if_pos given, List.filter_cons_of_pos (by simpa using inside), List.length_cons, Nat.cast_add, Nat.cast_one]
        simp only [Bucket.attempt, if_pos given] at bounded earlyK ⊢
        linarith
      · rw [if_neg given]
        simp only [Bucket.attempt, if_neg given] at bounded earlyK ⊢
        linarith
    · have rest := ih after later
      rw [served]
      by_cases given : 1 ≤ b.holds per rate t
      · rw [if_pos given, List.filter_cons_of_neg (by simpa using inside)]
        exact rest
      · rw [if_neg given]
        exact rest

end Bucket

end TokenBucket
