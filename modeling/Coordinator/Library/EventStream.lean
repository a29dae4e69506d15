import Coordinator.Library.GuardedRun

universe u v w x

/-! A state that is watched from outside: a reader starts from a view of it and
keeps the view up to date by the events the state appends to a log. -/
namespace EventStream
variable {σ : Type u} {α : Type v} {ε : Type w} {β : Type x}
  (log : σ → List ε) (view : σ → β) (follow : β → ε → β)

/-- What was appended to the log takes the view of the first state to that of the second. -/
def Carries (s t : σ) : Prop := ∃ news, log t = log s ++ news ∧ news.foldl follow (view s) = view t

variable {log view follow} {s t r : σ}

namespace Carries

theorem refl (s : σ) : Carries log view follow s s := ⟨[], (List.append_nil _).symm, rfl⟩

theorem trans (first : Carries log view follow s t) (later : Carries log view follow t r) :
    Carries log view follow s r := by
  obtain ⟨news, grown, seen⟩ := first
  obtain ⟨news', grown', seen'⟩ := later
  refine ⟨news ++ news', ?_, ?_⟩
  · rw [grown', grown, List.append_assoc]
  · rw [List.foldl_append, seen, seen']

theorem run {step : σ → α → σ} {guard : σ → α → Prop} {P : σ → Prop}
    (keep : ∀ t a, P t → guard t a → P (step t a))
    (carry : ∀ t a, P t → guard t a → Carries log view follow t (step t a)) (initially : P s)
    (run : GuardedRun step guard s t) : Carries log view follow s t :=
  run.climbs refl trans keep carry initially

end Carries

theorem foldl_max_lt {ns : List Nat} {n k : Nat} : ns.foldl max n < k ↔ n < k ∧ ∀ m ∈ ns, m < k := by
  induction ns generalizing n with
  | nil => simp
  | cons m rest ih =>
    rw [List.foldl_cons, ih, Nat.max_lt, List.forall_mem_cons, and_assoc]

/-- Numbers that grow along the log tell the reader which events its view has:
those above the greatest number it holds are the appended ones. -/
theorem Carries.behind {number : ε → Nat} (carries : Carries log view follow s t)
    (sorted : (log t).Pairwise fun d e => number d < number e) (positive : ∀ e ∈ log t, 0 < number e) :
    ((log t).filter fun e => ((log s).map number).foldl max 0 < number e).foldl follow (view s) = view t := by
  obtain ⟨news, grown, seen⟩ := carries
  rw [grown] at sorted positive ⊢
  obtain ⟨-, -, apart⟩ := List.pairwise_append.mp sorted
  have old : ∀ e ∈ log s, ¬ ((log s).map number).foldl max 0 < number e := by
    intro e member above
    exact Nat.lt_irrefl _ ((foldl_max_lt.mp above).2 _ (List.mem_map_of_mem member))
  have new : ∀ e ∈ news, ((log s).map number).foldl max 0 < number e := by
    intro e member
    refine foldl_max_lt.mpr ⟨positive e (List.mem_append_right _ member), ?_⟩
    intro n listed
    obtain ⟨d, earlier, rfl⟩ := List.mem_map.mp listed
    exact apart d earlier e member
  rw [List.filter_append, List.filter_eq_nil_iff.mpr (by simpa using old),
    List.filter_eq_self.mpr (by simpa using new), List.nil_append, seen]

end EventStream
