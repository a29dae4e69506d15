import Coordinator.Library.Table

/-! A finite map as a program keeps it: a table of pairs, one to a key. -/

universe u v

abbrev Dictionary (κ : Type u) [DecidableEq κ] (α : Type v) := Table (κ × α) Prod.fst

namespace Dictionary
variable {κ : Type u} [DecidableEq κ] {α : Type v} {D : Dictionary κ α} {k l : κ} {a b : α}

def get (D : Dictionary κ α) (k : κ) : Option α := (D.find k).map Prod.snd

def set (D : Dictionary κ α) (k : κ) (a : α) : Dictionary κ α := D.put (k, a)

def erase (D : Dictionary κ α) (k : κ) : Dictionary κ α := D.delete fun row => row.1 = k

theorem get_eq_some : get D k = some a ↔ (k, a) ∈ D.rows := by
  rw [get, Option.map_eq_some_iff]
  constructor
  · rintro ⟨⟨l, b⟩, found, rfl⟩
    obtain ⟨member, rfl⟩ := Table.find_eq_some.mp found
    exact member
  · intro member
    exact ⟨(k, a), Table.find_self member, rfl⟩

theorem get_eq_none : get D k = none ↔ ∀ a, (k, a) ∉ D.rows := by
  simp only [← get_eq_some, Option.eq_none_iff_forall_ne_some, ne_eq]

@[simp] theorem get_empty : get (.empty : Dictionary κ α) k = none := rfl

theorem get_set : get (set D k a) l = if k = l then some a else get D l := by
  rw [get, set, Table.find_put]
  split <;> rfl

@[simp] theorem get_set_self : get (set D k a) k = some a := by rw [get_set, if_pos rfl]

theorem isSome_set : (get (set D k a) l).isSome ↔ k = l ∨ (get D l).isSome := by
  rw [get_set]
  split <;> simp [*]

theorem get_delete (D : Dictionary κ α) (p : κ × α → Bool) (k : κ) :
    get (D.delete p) k = (get D k).filter fun a => !p (k, a) := by
  refine Option.ext fun a => ?_
  rw [get_eq_some, Table.mem_delete, Option.filter_eq_some_iff, get_eq_some, Bool.not_eq_true', Bool.not_eq_true]

theorem get_erase : get (erase D k) l = if k = l then none else get D l := by
  rw [erase, get_delete]
  split
  · rename_i same
    simp [same]
  · rename_i apart
    cases get D l <;> simp [Option.filter, Ne.symm apart]

@[simp] theorem get_erase_self : get (erase D k) k = none := by rw [get_erase, if_pos rfl]

theorem isSome_erase : (get (erase D k) l).isSome ↔ k ≠ l ∧ (get D l).isSome := by
  rw [get_erase]
  split <;> simp [*]

/-- What a key is bound to after a write at some key: the new value, or what it was bound to before. -/
theorem get_set_cases (found : get (set D k a) l = some b) : k = l ∧ a = b ∨ k ≠ l ∧ get D l = some b := by
  rw [get_set] at found
  split at found
  · exact .inl ⟨‹_›, Option.some.inj found⟩
  · exact .inr ⟨‹_›, found⟩

theorem get_of_erase (found : get (erase D k) l = some b) : k ≠ l ∧ get D l = some b := by
  rw [get_erase] at found
  split at found
  · cases found
  · exact ⟨‹_›, found⟩

end Dictionary
