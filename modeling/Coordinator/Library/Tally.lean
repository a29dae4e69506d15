import Mathlib.Algebra.GroupWithZero.Nat
import Mathlib.Algebra.BigOperators.Group.List.Basic
import Coordinator.Library.Table

universe u

/-- Counts under keys, in the order in which the keys were first counted. -/
abbrev Tally (α : Type u) : Type u := Table (α × Nat) Prod.fst

namespace Tally
variable {α : Type u}

variable [DecidableEq α]

/-- The count under a key, `0` where there is none. -/
def get (T : Tally α) (k : α) : Nat := ((T.find k).map Prod.snd).getD 0

/-- A key that is counted already keeps its place. -/
def add (T : Tally α) (k : α) (n : Nat) : Tally α :=
  match T.insert (k, n) with
  | some U => U
  | none => T.update (fun e => e.1 = k) (fun e => (e.1, e.2 + n)) fun _ => rfl

/-- Each key of a list counted once. -/
def ofList (keys : List α) : Tally α := keys.foldl (fun T k => T.add k 1) Table.empty

variable {T : Tally α} {k k' : α} {n : Nat}

theorem get_add : get (add T k n) k' = get T k' + if k = k' then n else 0 := by
  cases inserted : T.insert (k, n) with
  | some U =>
    have fresh : T.find k = none := Table.insert_fresh inserted
    simp only [add, get, inserted, Table.find_insert inserted]
    by_cases same : k = k'
    · subst same
      rw [if_pos rfl, if_pos rfl, fresh]
      simp
    · rw [if_neg same, if_neg same, Nat.add_zero]
  | none =>
    obtain ⟨old, found⟩ : ∃ old, T.find k = some old := by
      rw [← Option.ne_none_iff_exists']
      intro missing
      have fresh := (Table.insert_isSome (r := (k, n))).mpr missing
      rw [inserted] at fresh
      cases fresh
    simp only [add, get, inserted, Table.find_update]
    by_cases same : k = k'
    · subst same
      have first : old.1 = k := (Table.find_eq_some.mp found).2
      rw [found, if_pos rfl]
      simp [first]
    · rw [if_neg same, Nat.add_zero]
      cases other : T.find k' with
      | none => rfl
      | some row =>
        have first : row.1 ≠ k := fun equal => same (equal.symm.trans (Table.find_eq_some.mp other).2)
        simp [first]

theorem rows_add : (add T k n).rows = T.rows ++ [(k, n)] ∧ (∀ e ∈ T.rows, e.1 ≠ k) ∨
    (∃ e ∈ T.rows, e.1 = k) ∧ (add T k n).rows = T.rows.map fun e => if e.1 = k then (e.1, e.2 + n) else e := by
  cases inserted : T.insert (k, n) with
  | some U =>
    left
    rw [add, inserted]
    exact ⟨Table.insert_rows inserted, Table.find_eq_none.mp (Table.insert_fresh inserted)⟩
  | none =>
    right
    constructor
    · by_contra missing
      have fresh : T.find ((k, n) : α × Nat).1 = none :=
        Table.find_eq_none.mpr fun e inside same => missing ⟨e, inside, same⟩
      rw [← Table.insert_isSome, inserted] at fresh
      cases fresh
    · rw [add, inserted, Table.update]
      simp

theorem mem_keys_add : k' ∈ (add T k n).rows.map Prod.fst ↔ k' = k ∨ k' ∈ T.rows.map Prod.fst := by
  rcases rows_add (T := T) (k := k) (n := n) with ⟨shape, -⟩ | ⟨⟨e, inside, rfl⟩, shape⟩
  · rw [shape, List.map_append, List.mem_append, or_comm]
    simp
  · have same : (Prod.fst ∘ fun row : α × Nat => if row.1 = e.1 then (row.1, row.2 + n) else row) = Prod.fst := by
      funext row
      simp only [Function.comp_apply]
      split
      · rfl
      · rfl
    rw [shape, List.map_map, same]
    exact ⟨.inr, fun either => either.elim (fun first => by rw [first]; exact List.mem_map_of_mem inside) id⟩

theorem get_of_mem {e : α × Nat} (inside : e ∈ T.rows) : get T e.1 = e.2 := by
  rw [get, Table.find_self inside]
  rfl

theorem mem_of_get_pos (counted : 0 < get T k) : (k, get T k) ∈ T.rows := by
  cases found : T.find k with
  | none =>
    rw [get, found] at counted
    cases counted
  | some row =>
    obtain ⟨inside, first⟩ := Table.find_eq_some.mp found
    have same : row = (k, get T k) := Prod.ext first (by rw [← first, get_of_mem inside])
    rwa [← same]

theorem get_foldl [BEq α] [LawfulBEq α] (keys : List α) : get (keys.foldl (fun T k => T.add k 1) T) k = get T k + keys.count k := by
  induction keys generalizing T with
  | nil => rfl
  | cons first rest ih =>
    rw [List.foldl_cons, ih, get_add, List.count_cons]
    simp only [beq_iff_eq]
    omega

theorem get_ofList [BEq α] [LawfulBEq α] (keys : List α) : get (ofList keys) k = keys.count k := by
  rw [ofList, get_foldl, get, Table.find_empty]
  exact Nat.zero_add _

theorem mem_keys_ofList (keys : List α) : k ∈ (ofList keys).rows.map Prod.fst ↔ k ∈ keys := by
  have run : ∀ (T : Tally α), k ∈ (keys.foldl (fun T k => T.add k 1) T).rows.map Prod.fst ↔
      k ∈ keys ∨ k ∈ T.rows.map Prod.fst := by
    induction keys with
    | nil => exact fun T => by simp
    | cons first rest ih =>
      intro T
      rw [List.foldl_cons, ih, mem_keys_add, List.mem_cons]
      tauto
  rw [ofList, run, or_iff_left]
  exact List.not_mem_nil

end Tally
