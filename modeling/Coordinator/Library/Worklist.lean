import Mathlib.Logic.Relation

universe u

/-! Searches that keep a list of the nodes seen and a queue of those whose successors are still to be seen. -/
namespace Worklist
variable {α : Type u} {next : α → List α} {visited queue fresh : List α} {current d x : α}

/-- Every node seen is waiting, or all its successors are seen too. -/
def Covered (next : α → List α) (visited queue : List α) : Prop :=
  ∀ v ∈ visited, v ∈ queue ∨ ∀ d ∈ next v, d ∈ visited

/-- The edges that a search follows. -/
def Follows (next : α → List α) (a b : α) : Prop := b ∈ next a

/-- Taking a node off the queue keeps the cover, when its successors join both lists. -/
theorem Covered.advance (covered : Covered next visited (current :: queue)) (all : ∀ d ∈ next current, d ∈ visited ++ fresh) :
    Covered next (visited ++ fresh) (queue ++ fresh) := by
  intro v seen
  rcases List.mem_append.mp seen with old | new
  · rcases covered v old with waiting | done
    · rcases List.mem_cons.mp waiting with rfl | later
      · exact .inr all
      · exact .inl (List.mem_append_left _ later)
    · exact .inr fun d edge => List.mem_append_left _ (done d edge)
  · exact .inl (List.mem_append_right _ new)

end Worklist
