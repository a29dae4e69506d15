import Mathlib.Order.Lattice
import Mathlib.Data.List.Basic

universe u v w

/-! A reader that polls a growing feed: each poll returns rows in the order of
their keys, none below the cursor, and the key of the last one is the next cursor. -/
namespace CursorFeed

section Advance
variable {α : Type u} {κ : Type v} {μ : Type w} (key : α → κ) (cursor : Option κ)

def advance (rows : List α) : Option κ := (rows.getLast?.map key).or cursor

@[simp] theorem advance_nil : advance key cursor [] = cursor := rfl

@[simp] theorem advance_concat (rows : List α) (last : α) :
    advance key cursor (rows ++ [last]) = some (key last) := by
  simp [advance]

theorem map_advance (rank : κ → μ) (rows : List α) :
    (advance key cursor rows).map rank = advance (rank ∘ key) (cursor.map rank) rows := by
  rw [advance, advance, Option.map_or, Option.map_map]

variable {key cursor}

theorem mem_advance {rows : List α} {c : κ} (atCursor : c ∈ advance key cursor rows) :
    c ∈ cursor ∨ ∃ r ∈ rows, key r = c := by
  rcases List.eq_nil_or_concat' rows with rfl | ⟨earlier, last, rfl⟩
  · exact .inl atCursor
  · rw [advance_concat, Option.mem_some_iff] at atCursor
    exact .inr ⟨last, by simp, atCursor⟩

end Advance

section Due
variable {α : Type u} {κ : Type v} [LinearOrder κ] {key : α → κ} {cursor : Option κ} {k : κ}

/-- The comparison with the cursor is inclusive, and no cursor holds nothing back. -/
def Due (cursor : Option κ) (k : κ) : Prop := ∀ c ∈ cursor, c ≤ k

theorem due_some {c : κ} : Due (some c) k ↔ c ≤ k := by simp [Due]

/-- A poll leaves a key due exactly when it was due and no row of a greater key came. -/
theorem due_advance {rows : List α} (sorted : rows.Pairwise fun a b => key a ≤ key b)
    (due : ∀ r ∈ rows, Due cursor (key r)) :
    Due (advance key cursor rows) k ↔ Due cursor k ∧ ∀ r ∈ rows, key r ≤ k := by
  rcases List.eq_nil_or_concat' rows with rfl | ⟨earlier, last, rfl⟩
  · simp
  · obtain ⟨-, -, before⟩ := List.pairwise_append.mp sorted
    have atLast : Due cursor (key last) := due last (by simp)
    rw [advance_concat, due_some]
    constructor
    · intro above
      refine ⟨fun c atCursor => le_trans (atLast c atCursor) above, ?_⟩
      intro r member
      rcases List.mem_append.mp member with old | new
      · exact le_trans (before r old last List.mem_cons_self) above
      · rw [List.mem_singleton.mp new]
        exact above
    · rintro ⟨-, bounded⟩
      exact bounded last (by simp)

end Due

end CursorFeed
