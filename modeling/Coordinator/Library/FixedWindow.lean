import Mathlib.Data.List.Induction
import Mathlib.Order.Basic

universe u

/-! A counter of hits that starts over whenever a window of fixed length is over,
the window opened by the first hit after the one before it. -/
namespace FixedWindow
variable {α : Type u}

/-- The hits counted since the window opened, and when it closes. -/
structure Window where
  count : Nat
  endsAt : Nat
  deriving DecidableEq

/-- The window that a hit finds itself in. -/
def hit (length : Nat) (w : Option Window) (t : Nat) : Window :=
  match w.filter fun w => t < w.endsAt with
  | none => ⟨1, t + length⟩
  | some w => { w with count := w.count + 1 }

variable (length per : Nat) (time : α → Nat)

def after (w : Option Window) (hits : List α) : Option Window :=
  hits.foldl (fun w a => some (hit length w (time a))) w

/-- The hits that find no more than `per` in their window, themselves included. -/
def served (w : Option Window) : List α → List α
  | [] => []
  | a :: rest =>
    let w' := hit length w (time a)
    if w'.count ≤ per then a :: served (some w') rest else served (some w') rest

variable {length per time} {w : Window} {t : Nat} {hits : List α}

theorem hit_open (early : t < w.endsAt) : hit length (some w) t = { w with count := w.count + 1 } := by
  rw [hit, Option.filter_some, if_pos (decide_eq_true early)]

theorem hit_over (late : w.endsAt ≤ t) : hit length (some w) t = ⟨1, t + length⟩ := by
  rw [hit, Option.filter_some, if_neg (by simpa using late)]

theorem served_cons (w : Option Window) (a : α) (rest : List α) : served length per time w (a :: rest) =
    if (hit length w (time a)).count ≤ per then a :: served length per time (some (hit length w (time a))) rest
    else served length per time (some (hit length w (time a))) rest := rfl

theorem served_sublist (w : Option Window) (hits : List α) : (served length per time w hits).Sublist hits := by
  induction hits generalizing w with
  | nil => exact .slnil
  | cons a rest ih =>
    rw [served_cons]
    split
    · exact (ih _).cons_cons a
    · exact (ih _).cons a

/-- An open window serves what it has left, and no more. -/
theorem served_in_window (inOrder : hits.Pairwise fun a b => time a ≤ time b) :
    (served length per time (some w) hits).countP (fun a => time a < w.endsAt) ≤ per - w.count := by
  induction hits generalizing w with
  | nil => exact Nat.zero_le _
  | cons a rest ih =>
    obtain ⟨first, ordered⟩ := List.pairwise_cons.mp inOrder
    by_cases early : time a < w.endsAt
    · have counted := ih (w := ⟨w.count + 1, w.endsAt⟩) ordered
      simp only at counted
      rw [served_cons, hit_open early]
      simp only
      split
      · rw [List.countP_cons_of_pos (by simpa using early)]
        omega
      · omega
    · -- whoever comes after the window has closed comes too late for it
      have late : (served length per time (some w) (a :: rest)).countP (fun b => time b < w.endsAt) = 0 := by
        rw [List.countP_eq_zero]
        intro b mem
        have later : time a ≤ time b := by
          rcases List.mem_cons.mp ((served_sublist _ _).subset mem) with rfl | next
          · exact Nat.le_refl _
          · exact first b next
        simp only [decide_eq_true_eq]
        omega
      omega

/-- From its first hit on, a span no longer than a window meets the window that
is open and one more. -/
theorem served_from {start until' : Nat} (inOrder : hits.Pairwise fun a b => time a ≤ time b)
    (from' : ∀ a ∈ hits, start ≤ time a) (short : until' ≤ start + length) :
    (served length per time (some w) hits).countP (fun a => time a < until') ≤ (per - w.count) + per := by
  induction hits generalizing w with
  | nil => exact Nat.zero_le _
  | cons a rest ih =>
    obtain ⟨first, ordered⟩ := List.pairwise_cons.mp inOrder
    have began := from' a List.mem_cons_self
    by_cases early : time a < w.endsAt
    · have counted := ih (w := ⟨w.count + 1, w.endsAt⟩) ordered fun b mem => from' b (List.mem_cons_of_mem a mem)
      simp only at counted
      rw [served_cons, hit_open early]
      simp only
      split
      · rw [List.countP_cons]
        split <;> omega
      · omega
    · let opened : Window := ⟨1, time a + length⟩
      have counted : (served length per time (some opened) rest).countP (fun b => time b < opened.endsAt) ≤
          per - opened.count := served_in_window ordered
      simp only [opened] at counted
      have inNew : (served length per time (some ⟨1, time a + length⟩) rest).countP (fun b => time b < until') ≤
          (served length per time (some ⟨1, time a + length⟩) rest).countP fun b => time b < time a + length := by
        refine List.countP_mono_left fun b _ inside => ?_
        simp only [decide_eq_true_eq] at inside ⊢
        omega
      rw [served_cons, hit_over (Nat.le_of_not_lt early)]
      simp only
      split
      · rw [List.countP_cons]
        split <;> omega
      · omega

theorem count_pos (w : Option Window) (t : Nat) : 1 ≤ (hit length w t).count := by
  unfold hit
  split
  · exact Nat.le_refl 1
  · exact Nat.le_add_left 1 _

/-- However the windows fall, a span of their length serves at most twice what one of them does. -/
theorem served_within (inOrder : hits.Pairwise fun a b => time a ≤ time b) (w : Option Window) (start : Nat) :
    (served length per time w hits).countP (fun a => start ≤ time a ∧ time a < start + length) ≤ 2 * per := by
  induction hits generalizing w with
  | nil => exact Nat.zero_le _
  | cons a rest ih =>
    obtain ⟨first, ordered⟩ := List.pairwise_cons.mp inOrder
    rw [served_cons]
    by_cases began : start ≤ time a
    · have later : ∀ b ∈ rest, start ≤ time b := fun b mem => Nat.le_trans began (first b mem)
      have opened : 1 ≤ (hit length w (time a)).count := count_pos w (time a)
      have counted : (served length per time (some (hit length w (time a))) rest).countP
          (fun b => time b < start + length) ≤ (per - (hit length w (time a)).count) + per :=
        served_from ordered later (Nat.le_refl _)
      have fewer : (served length per time (some (hit length w (time a))) rest).countP
          (fun b => start ≤ time b ∧ time b < start + length) ≤
            (served length per time (some (hit length w (time a))) rest).countP fun b => time b < start + length := by
        refine List.countP_mono_left fun b _ inside => ?_
        simp only [decide_eq_true_eq] at inside ⊢
        exact inside.2
      split
      · rw [List.countP_cons]
        split <;> omega
      · omega
    · split
      · rw [List.countP_cons_of_neg (by simp [began])]
        exact ih ordered _
      · exact ih ordered _

end FixedWindow
