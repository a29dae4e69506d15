import Coordinator.Library.GuardedRun

universe u v w x

/-! Two runs of one machine that differ in the inputs an observer is not
behind, and what the observer may then learn. -/
namespace Unwinding
variable {σ : Type u} {α : Type v} {β : Type w} {γ : Type x}
  (step : σ → α → σ) (reply : σ → α → β) (visible : α → Bool) (mark : σ → α → γ)

/-- What is recorded at each visible input, in the state it is taken in. -/
def observed {δ : Type*} (record : σ → α → δ) : σ → List α → List δ
  | _, [] => []
  | s, a :: rest =>
    if visible a then record s a :: observed record (step s a) rest else observed record (step s a) rest

variable {step reply visible mark}

theorem observed_hidden {δ : Type*} {record : σ → α → δ} {s : σ} {a : α} {rest : List α} (hidden : ¬ visible a) :
    observed step visible record s (a :: rest) = observed step visible record (step s a) rest := by
  simp only [observed, if_neg hidden]

theorem observed_length {δ : Type*} {record : σ → α → δ} (s : σ) (inputs : List α) :
    (observed step visible record s inputs).length = (inputs.filter visible).length := by
  induction inputs generalizing s with
  | nil => rfl
  | cons a rest ih =>
    unfold observed
    by_cases seen : visible a
    · simp [seen, ih]
    · simp [seen, ih]

/-- The relation the two runs stay in: a visible input keeps it and is
answered alike, and an invisible input on one side keeps it too. -/
structure Unwinds (step : σ → α → σ) (reply : σ → α → β) (visible : α → Bool) (mark : σ → α → γ)
    (guard : σ → α → Prop) (R : σ → σ → Prop) : Prop where
  symm : ∀ {s t}, R s t → R t s
  own : ∀ {s t a}, visible a → R s t → guard s a → guard t a → mark s a = mark t a →
    R (step s a) (step t a) ∧ reply s a = reply t a
  foreign : ∀ {s t a}, ¬ visible a → R s t → guard s a → R (step s a) t

namespace Unwinds
variable {guard : σ → α → Prop} {R : σ → σ → Prop}

theorem replies_eq (unwinds : Unwinds step reply visible mark guard R) {s t : σ} {inputs inputs' : List α}
    (related : R s t) (same : inputs.filter visible = inputs'.filter visible)
    (marks : observed step visible mark s inputs = observed step visible mark t inputs')
    (meets : GuardedRun.Meets step guard s inputs) (meets' : GuardedRun.Meets step guard t inputs') :
    observed step visible reply s inputs = observed step visible reply t inputs' := by
  induction inputs generalizing s t inputs' with
  | nil =>
    have none : (observed step visible reply t inputs').length = 0 := by
      rw [observed_length, ← same]
      rfl
    rw [List.length_eq_zero_iff.mp none]
    rfl
  | cons a rest ih =>
    by_cases seen : visible a
    · rw [List.filter_cons_of_pos seen] at same
      -- the other run first takes whatever it has in front of its own copy of `a`
      induction inputs' generalizing t with
      | nil => simp at same
      | cons b rest' skip =>
        by_cases seen' : visible b
        · rw [List.filter_cons_of_pos seen'] at same
          obtain ⟨rfl, later⟩ := List.cons.inj same
          simp only [observed, if_pos seen, List.cons.injEq] at marks ⊢
          obtain ⟨kept, answer⟩ := unwinds.own seen related meets.1 meets'.1 marks.1
          exact ⟨answer, ih kept later marks.2 meets.2 meets'.2⟩
        · rw [List.filter_cons_of_neg seen'] at same
          have passed := unwinds.symm (unwinds.foreign seen' (unwinds.symm related) meets'.1)
          rw [observed_hidden seen'] at marks ⊢
          exact skip passed same marks meets'.2
    · rw [List.filter_cons_of_neg seen] at same
      rw [observed_hidden seen] at marks ⊢
      exact ih (unwinds.foreign seen related meets.1) same marks meets.2 meets'

end Unwinds

end Unwinding
