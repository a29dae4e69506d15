import Mathlib.Order.Basic

universe u v

/-- Runs of a machine that takes one input at a time, every step of which
meets a guard on the state before it and the input it is about to take. -/
inductive GuardedRun {σ : Type u} {α : Type v} (step : σ → α → σ) (guard : σ → α → Prop) : σ → σ → Prop
  | start (s : σ) : GuardedRun step guard s s
  | next {s t : σ} (a : α) : GuardedRun step guard s t → guard t a → GuardedRun step guard s (step t a)

namespace GuardedRun
variable {σ : Type u} {α : Type v} {step : σ → α → σ} {guard : σ → α → Prop} {s t r : σ}

theorem single (a : α) (ok : guard s a) : GuardedRun step guard s (step s a) := .next a (.start s) ok

theorem trans (first : GuardedRun step guard s t) (later : GuardedRun step guard t r) :
    GuardedRun step guard s r := by
  induction later with
  | start => exact first
  | next a _ ok ih => exact .next a ih ok

/-- What holds at the start and survives every guarded step holds at the end. -/
theorem invariant {P : σ → Prop} (keep : ∀ t a, P t → guard t a → P (step t a)) (initially : P s)
    (run : GuardedRun step guard s t) : P t := by
  induction run with
  | start => exact initially
  | next a _ ok ih => exact keep _ a ih ok

/-- A preorder that every guarded step climbs, from states with the invariant,
relates the ends of the run. -/
theorem climbs {P : σ → Prop} {R : σ → σ → Prop} (refl : ∀ t, R t t)
    (trans : ∀ {a b c}, R a b → R b c → R a c) (keep : ∀ t a, P t → guard t a → P (step t a))
    (climb : ∀ t a, P t → guard t a → R t (step t a)) (initially : P s)
    (run : GuardedRun step guard s t) : R s t := by
  induction run with
  | start => exact refl _
  | next a before ok ih => exact trans ih (climb _ a (before.invariant keep initially) ok)

/-- Every input of the list meets the guard in the state it is taken in. -/
def Meets (step : σ → α → σ) (guard : σ → α → Prop) : σ → List α → Prop
  | _, [] => True
  | s, a :: rest => guard s a ∧ Meets step guard (step s a) rest

instance Meets.decidable [∀ s a, Decidable (guard s a)] : (s : σ) → (inputs : List α) → Decidable (Meets step guard s inputs)
  | _, [] => .isTrue trivial
  | s, a :: rest => @instDecidableAnd _ _ _ (Meets.decidable (step s a) rest)

theorem Meets.initial {done inputs : List α} {s : σ} (start : done <+: inputs) (meets : Meets step guard s inputs) :
    Meets step guard s done := by
  obtain ⟨rest, rfl⟩ := start
  induction done generalizing s with
  | nil => trivial
  | cons a done ih => exact ⟨meets.1, ih meets.2⟩

theorem Meets.rest {first later : List α} {s : σ} (meets : Meets step guard s (first ++ later)) :
    Meets step guard (first.foldl step s) later := by
  induction first generalizing s with
  | nil => exact meets
  | cons a first ih => exact ih meets.2

theorem Meets.and {other : σ → α → Prop} {inputs : List α} {s : σ} (meets : Meets step guard s inputs)
    (meets' : Meets step other s inputs) : Meets step (fun s a => guard s a ∧ other s a) s inputs := by
  induction inputs generalizing s with
  | nil => trivial
  | cons a rest ih => exact ⟨⟨meets.1, meets'.1⟩, ih meets.2 meets'.2⟩

/-- A condition that no step changes is asked once, before the run. -/
theorem Meets.under {p : Prop} {inputs : List α} {s : σ} (meets : p → Meets step guard s inputs) :
    Meets step (fun s a => p → guard s a) s inputs := by
  induction inputs generalizing s with
  | nil => trivial
  | cons a rest ih => exact ⟨fun holds => (meets holds).1, ih fun holds => (meets holds).2⟩

/-- A guard on the inputs alone is checked input by input. -/
theorem Meets.of_inputs {allowed : α → Prop} {inputs : List α} {s : σ} (ok : ∀ a ∈ inputs, allowed a) :
    Meets step (fun _ a => allowed a) s inputs := by
  induction inputs generalizing s with
  | nil => trivial
  | cons a rest ih => exact ⟨ok a (by simp), ih fun b member => ok b (List.mem_cons_of_mem a member)⟩

/-- Inputs that carry times in order meet the guard that the clock does not go
back, where each step sets the clock. -/
theorem Meets.of_clock {τ : Type*} [Preorder τ] (clock : σ → τ) {time : α → τ} {inputs : List α} {s : σ}
    (sets : ∀ s a, clock (step s a) = time a) (inOrder : (clock s :: inputs.map time).Pairwise (· ≤ ·)) :
    Meets step (fun s a => clock s ≤ time a) s inputs := by
  induction inputs generalizing s with
  | nil => trivial
  | cons a rest ih =>
    obtain ⟨fromNow, after⟩ := List.pairwise_cons.mp inOrder
    exact ⟨fromNow _ (by simp), ih (by rwa [sets])⟩

theorem of_meets {inputs : List α} {s : σ} (meets : Meets step guard s inputs) :
    GuardedRun step guard s (inputs.foldl step s) := by
  induction inputs generalizing s with
  | nil => exact .start s
  | cons a rest ih => exact (single a meets.1).trans (ih meets.2)

theorem of_inputs {allowed : α → Prop} {inputs : List α} {s : σ} (ok : ∀ a ∈ inputs, allowed a) :
    GuardedRun step (fun _ a => allowed a) s (inputs.foldl step s) := of_meets (.of_inputs ok)

/-- The guard is exact for a property that no later step mends: guarded steps
keep it, and a step that keeps it was guarded. -/
theorem Meets.iff_holds {P Q : σ → Prop} {inputs : List α} (initially : P s) (holds : ∀ t, P t → Q t)
    (keep : ∀ t a, P t → guard t a → P (step t a)) (forced : ∀ t a, P t → Q (step t a) → guard t a)
    (persists : ∀ t a, Q (step t a) → Q t) : Q (inputs.foldl step s) ↔ Meets step guard s inputs := by
  constructor
  · intro good
    have before : ∀ (rest : List α) (t : σ), Q (rest.foldl step t) → Q t := by
      intro rest
      induction rest with
      | nil => exact fun _ good => good
      | cons a rest ih => exact fun t good => persists t a (ih _ good)
    induction inputs generalizing s with
    | nil => trivial
    | cons a rest ih =>
      have guarded := forced s a initially (before rest _ good)
      exact ⟨guarded, ih (keep s a initially guarded) good⟩
  · intro meets
    exact holds _ ((of_meets meets).invariant keep initially)

/-- The same for a property that a later step may mend, asked of every state of the run. -/
theorem Meets.iff_always {P Q : σ → Prop} {inputs : List α} (initially : P s) (holds : ∀ t, P t → Q t)
    (keep : ∀ t a, P t → guard t a → P (step t a)) (forced : ∀ t a, P t → Q (step t a) → guard t a) :
    (∀ done, done <+: inputs → Q (done.foldl step s)) ↔ Meets step guard s inputs := by
  constructor
  · intro good
    induction inputs generalizing s with
    | nil => trivial
    | cons a rest ih =>
      have guarded := forced s a initially (good [a] ⟨rest, rfl⟩)
      refine ⟨guarded, ih (keep s a initially guarded) ?_⟩
      intro done start
      exact good (a :: done) (List.cons_prefix_cons.mpr ⟨rfl, start⟩)
  · intro meets done start
    exact holds _ ((of_meets (meets.initial start)).invariant keep initially)

/-- Where a run has come to what it did not have at the start, one input brought it. -/
theorem exists_turn {P : σ → Prop} {inputs : List α} {s : σ} (initially : ¬ P s) (reached : P (inputs.foldl step s)) :
    ∃ before a rest, inputs = before ++ a :: rest ∧ ¬ P (before.foldl step s) ∧ P (step (before.foldl step s) a) := by
  induction inputs generalizing s with
  | nil => exact absurd reached initially
  | cons a inputs ih =>
    by_cases here : P (step s a)
    · exact ⟨[], a, inputs, rfl, initially, here⟩
    · obtain ⟨before, b, rest, rfl, without, brought⟩ := ih here reached
      exact ⟨a :: before, b, rest, rfl, without, brought⟩

end GuardedRun
