import Mathlib.Data.List.Nodup

universe u v

/-- The rows of a relational table in insertion order, no two of them
sharing the value of the primary key. -/
structure Table (ρ : Type u) {κ : Type v} (key : ρ → κ) where
  rows : List ρ
  keyed : (rows.map key).Nodup

namespace Table
variable {ρ : Type u} {κ : Type v} {key : ρ → κ}

def empty : Table ρ key := ⟨[], List.nodup_nil⟩

def single (key : ρ → κ) (r : ρ) : Table ρ key := ⟨[r], List.nodup_singleton _⟩

theorem keyed_update (rows : List ρ) (p : ρ → Bool) (f : ρ → ρ) (keeps : ∀ r, key (f r) = key r)
    (keyed : (rows.map key).Nodup) :
    ((rows.map fun r => if p r then f r else r).map key).Nodup := by
  have same : (key ∘ fun r => if p r then f r else r) = key := by
    funext r
    simp only [Function.comp_apply]
    split
    · exact keeps r
    · rfl
  rwa [List.map_map, same]

/-- `UPDATE … SET f WHERE p`, for a column assignment that leaves the key alone. -/
def update (T : Table ρ key) (p : ρ → Bool) (f : ρ → ρ) (keeps : ∀ r, key (f r) = key r) : Table ρ key :=
  ⟨T.rows.map fun r => if p r then f r else r, keyed_update T.rows p f keeps T.keyed⟩

/-- The number of rows an `UPDATE … WHERE p` changes. -/
def changes (T : Table ρ key) (p : ρ → Bool) : Nat := T.rows.countP p

theorem changes_pos {T : Table ρ key} {p : ρ → Bool} : 0 < T.changes p ↔ ∃ r ∈ T.rows, p r := by
  simp [changes, List.countP_pos_iff]

theorem changes_le_one {T : Table ρ key} {p : ρ → Bool}
    (single : ∀ r ∈ T.rows, ∀ s ∈ T.rows, p r → p s → r = s) : T.changes p ≤ 1 := by
  rw [changes, List.countP_eq_length_filter]
  have distinct : (T.rows.filter p).Nodup := (List.Nodup.of_map key T.keyed).filter p
  match shape : T.rows.filter p with
  | [] => simp
  | [_] => simp
  | a :: b :: rest =>
    have inA : a ∈ T.rows.filter p := by rw [shape]; simp
    have inB : b ∈ T.rows.filter p := by rw [shape]; simp
    obtain ⟨memberA, holdsA⟩ := List.mem_filter.mp inA
    obtain ⟨memberB, holdsB⟩ := List.mem_filter.mp inB
    rw [shape, single a memberA b memberB holdsA holdsB] at distinct
    simp at distinct

theorem mem_update {T : Table ρ key} {p : ρ → Bool} {f : ρ → ρ} {keeps : ∀ r, key (f r) = key r} {r : ρ} :
    r ∈ (T.update p f keeps).rows ↔ ∃ old ∈ T.rows, (if p old then f old else old) = r := by
  simp [update]

@[simp] theorem update_rows_nil {T : Table ρ key} {p : ρ → Bool} {f : ρ → ρ} {keeps : ∀ r, key (f r) = key r} :
    (T.update p f keeps).rows = [] ↔ T.rows = [] := List.map_eq_nil_iff

/-- `DELETE … WHERE p`. -/
def delete (T : Table ρ key) (p : ρ → Bool) : Table ρ key :=
  ⟨T.rows.filter fun r => !p r, T.keyed.sublist (List.filter_sublist.map key)⟩

theorem mem_delete {T : Table ρ key} {p : ρ → Bool} {r : ρ} : r ∈ (T.delete p).rows ↔ r ∈ T.rows ∧ ¬ p r := by
  simp [delete]

theorem update_of_fixed {T : Table ρ key} {p : ρ → Bool} {f : ρ → ρ} {keeps : ∀ r, key (f r) = key r}
    (fixed : ∀ r ∈ T.rows, f r = r) : T.update p f keeps = T := by
  have same : (T.rows.map fun r => if p r then f r else r) = T.rows := by
    refine (List.map_congr_left ?_).trans (List.map_id _)
    intro r member
    rw [fixed r member, ite_self, id]
  cases T
  simpa only [update, mk.injEq] using same

/-- Conditions that agree on the rows choose the same of them. -/
theorem update_congr {T : Table ρ key} {p q : ρ → Bool} {f : ρ → ρ} {keeps : ∀ r, key (f r) = key r}
    (agree : ∀ r ∈ T.rows, p r = q r) : T.update p f keeps = T.update q f keeps := by
  rw [update, update, mk.injEq]
  exact List.map_congr_left fun r member => by rw [agree r member]

theorem matching_nodup (T : Table ρ key) (p : ρ → Bool) : ((T.rows.filter p).map key).Nodup :=
  T.keyed.sublist (List.filter_sublist.map key)

variable [DecidableEq κ]

/-- The rows as a table, if no two of them share the key. -/
def ofRows (key : ρ → κ) (rows : List ρ) : Option (Table ρ key) :=
  if keyed : (rows.map key).Nodup then some ⟨rows, keyed⟩ else none

theorem ofRows_self (T : Table ρ key) : ofRows key T.rows = some T := dif_pos T.keyed

/-- `SELECT * … WHERE key = k`. -/
def find (T : Table ρ key) (k : κ) : Option ρ := T.rows.find? fun r => key r = k

/-- `INSERT`, refused when the key is taken. -/
def insert (T : Table ρ key) (r : ρ) : Option (Table ρ key) :=
  if fresh : key r ∉ T.rows.map key then
    some ⟨T.rows ++ [r], by
      rw [List.map_append, List.nodup_append]
      refine ⟨T.keyed, by simp, ?_⟩
      intro a old b new same
      rw [List.map_singleton, List.mem_singleton] at new
      exact fresh (new ▸ same ▸ old)⟩
  else none

theorem find_eq_some {T : Table ρ key} {k : κ} {r : ρ} :
    T.find k = some r ↔ r ∈ T.rows ∧ key r = k := by
  constructor
  · intro found
    exact ⟨List.mem_of_find?_eq_some found, by simpa using List.find?_some found⟩
  · intro row
    obtain ⟨member, atKey⟩ := row
    cases found : T.find k with
    | none =>
      have absent := List.find?_eq_none.mp found r member
      simp [atKey] at absent
    | some other =>
      have otherKey : key other = k := by simpa using List.find?_some found
      have otherMember := List.mem_of_find?_eq_some found
      rw [List.inj_on_of_nodup_map T.keyed otherMember member (otherKey.trans atKey.symm)]

theorem find_eq_none {T : Table ρ key} {k : κ} : T.find k = none ↔ ∀ r ∈ T.rows, key r ≠ k := by
  simp [find, List.find?_eq_none]

theorem find_self {T : Table ρ key} {r : ρ} (member : r ∈ T.rows) : T.find (key r) = some r :=
  find_eq_some.mpr ⟨member, rfl⟩

@[simp] theorem find_single (r : ρ) : (single key r).find (key r) = some r := by simp [find, single]

@[simp] theorem find_empty (k : κ) : (empty : Table ρ key).find k = none := rfl

/-- An update acts on each row by itself, so a lookup sees it through `Option.map`. -/
@[simp] theorem find_update (T : Table ρ key) (p : ρ → Bool) (f : ρ → ρ) (keeps : ∀ r, key (f r) = key r)
    (k : κ) : (T.update p f keeps).find k = (T.find k).map fun r => if p r then f r else r := by
  simp only [find, update, List.find?_map]
  congr 2
  funext r
  simp only [Function.comp_apply]
  split
  · rw [keeps]
  · rfl

theorem insert_rows {T U : Table ρ key} {r : ρ} (inserted : T.insert r = some U) : U.rows = T.rows ++ [r] := by
  unfold insert at inserted
  split at inserted
  · cases inserted; rfl
  · simp at inserted

theorem mem_insert {T U : Table ρ key} {r s : ρ} (inserted : T.insert r = some U) : s ∈ U.rows ↔ s ∈ T.rows ∨ s = r := by
  rw [insert_rows inserted, List.mem_append, List.mem_singleton]

/-- A table that has a row more is the one that inserting it gives. -/
theorem insert_eq_some {T U : Table ρ key} {r : ρ} : T.insert r = some U ↔ U.rows = T.rows ++ [r] := by
  refine ⟨insert_rows, fun shape => ?_⟩
  have fresh : key r ∉ T.rows.map key := by
    have keyed := U.keyed
    rw [shape, List.map_append, List.nodup_append] at keyed
    exact fun taken => keyed.2.2 _ taken (key r) List.mem_cons_self rfl
  rw [insert, dif_pos fresh]
  cases U
  subst shape
  rfl

theorem insert_isSome {T : Table ρ key} {r : ρ} : (T.insert r).isSome ↔ T.find (key r) = none := by
  rw [find_eq_none, insert]
  by_cases taken : key r ∈ T.rows.map key
  · obtain ⟨old, member, same⟩ := List.mem_map.mp taken
    simp only [taken, not_true_eq_false, dif_neg, not_false_eq_true, Option.isSome_none, Bool.false_eq_true,
      false_iff, not_forall]
    exact ⟨old, member, fun apart => apart same⟩
  · simp only [taken, not_false_eq_true, dif_pos, Option.isSome_some, true_iff]
    intro old member same
    exact taken (List.mem_map.mpr ⟨old, member, same⟩)

theorem insert_fresh {T U : Table ρ key} {r : ρ} (inserted : T.insert r = some U) : T.find (key r) = none := by
  rw [← insert_isSome, inserted]
  rfl

theorem find_insert {T U : Table ρ key} {r : ρ} (inserted : T.insert r = some U) (k : κ) :
    U.find k = if key r = k then some r else T.find k := by
  have fresh := insert_fresh inserted
  rw [find, insert_rows inserted, List.find?_append]
  by_cases same : key r = k
  · subst same
    rw [find] at fresh
    simp [fresh]
  · simp [find, same]

theorem find_delete (T : Table ρ key) (p : ρ → Bool) (k : κ) :
    (T.delete p).find k = (T.find k).filter fun r => !p r := by
  refine Option.ext fun r => ?_
  rw [Option.filter_eq_some_iff, find_eq_some, find_eq_some, mem_delete, Bool.not_eq_true', Bool.not_eq_true]
  tauto

/-- The row takes the place of the one with its key, if there is one. -/
def put (T : Table ρ key) (r : ρ) : Table ρ key :=
  ⟨(T.delete fun old => key old = key r).rows ++ [r], by
    rw [List.map_append, List.nodup_append]
    refine ⟨(T.delete _).keyed, List.nodup_singleton _, ?_⟩
    intro a old b new same
    obtain ⟨row, member, rfl⟩ := List.mem_map.mp old
    rw [List.map_singleton, List.mem_singleton] at new
    exact (mem_delete.mp member).2 (decide_eq_true (same.trans new))⟩

theorem find_put (T : Table ρ key) (r : ρ) (k : κ) : (T.put r).find k = if key r = k then some r else T.find k := by
  have kept := T.find_delete (fun old => key old = key r) k
  rw [find] at kept
  rw [find, put, List.find?_append, kept]
  by_cases same : key r = k
  · have gone : (T.find k).filter (fun old => !decide (key old = key r)) = none := by
      refine Option.filter_eq_none_iff.mpr fun old found => ?_
      simp [(find_eq_some.mp found).2, same]
    rw [gone]
    simp [same]
  · have stays : (T.find k).filter (fun old => !decide (key old = key r)) = T.find k := by
      cases found : T.find k with
      | none => rfl
      | some old =>
        have apart : key old ≠ key r := fun other => same (other.symm.trans (find_eq_some.mp found).2)
        simp [apart]
    rw [stays]
    simp [same]

/-- A predicate that fixes the key matches at most one row. -/
theorem changes_of_key {T : Table ρ key} {p : ρ → Bool} {k : κ} (fixes : ∀ r, p r → key r = k) :
    T.changes p = if (T.find k).any p then 1 else 0 := by
  have bound : T.changes p ≤ 1 := changes_le_one fun r member s member' holds holds' =>
    List.inj_on_of_nodup_map T.keyed member member' ((fixes r holds).trans (fixes s holds').symm)
  by_cases hit : (T.find k).any p
  · obtain ⟨r, found, holds⟩ := (Option.any_eq_true p _).mp hit
    have positive : 0 < T.changes p := changes_pos.mpr ⟨r, (find_eq_some.mp found).1, holds⟩
    rw [if_pos hit]
    omega
  · rw [if_neg hit]
    by_contra nonzero
    obtain ⟨r, member, holds⟩ := changes_pos.mp (Nat.pos_of_ne_zero nonzero)
    exact hit (by simp [find_eq_some.mpr ⟨member, fixes r holds⟩, holds])

theorem changes_eq_one {T : Table ρ key} {p : ρ → Bool} {k : κ} (fixes : ∀ r, p r → key r = k) :
    T.changes p = 1 ↔ ∃ r, T.find k = some r ∧ p r := by
  rw [changes_of_key fixes, ← Option.any_eq_true]
  split <;> simp_all

/-- `DELETE … WHERE p LIMIT limit`: a batch of matching rows goes, and which
ones when there are more is up to the engine. -/
def DeletesUpTo (T U : Table ρ key) (p : ρ → Bool) (limit count : Nat) : Prop :=
  ∃ victims : List κ, victims.Nodup ∧ victims.length = count ∧ count = min limit (T.changes p) ∧
    (∀ k ∈ victims, ∃ r ∈ T.rows, key r = k ∧ p r) ∧ U = T.delete fun r => key r ∈ victims

namespace DeletesUpTo
variable {T U : Table ρ key} {p : ρ → Bool} {limit count : Nat} {r : ρ}

theorem kept (deletes : T.DeletesUpTo U p limit count) (member : r ∈ U.rows) : r ∈ T.rows := by
  obtain ⟨victims, -, -, -, -, rfl⟩ := deletes
  exact (mem_delete.mp member).1

theorem gone (deletes : T.DeletesUpTo U p limit count) (member : r ∈ T.rows) (absent : r ∉ U.rows) : p r := by
  obtain ⟨victims, -, -, -, matched, rfl⟩ := deletes
  have chosen : key r ∈ victims := by
    by_contra spared
    exact absent (mem_delete.mpr ⟨member, by simpa using spared⟩)
  obtain ⟨s, other, same, holds⟩ := matched (key r) chosen
  rw [List.inj_on_of_nodup_map T.keyed member other same.symm]
  exact holds

end DeletesUpTo

end Table

/-! Rows known by their place in a list that grows at its end. -/

namespace List
variable {ρ : Type u} {rows : List ρ} {r new : ρ} {i : Nat}

theorem getElem?_snoc_old (listed : rows[i]? = some r) : (rows ++ [new])[i]? = some r := by
  rw [List.getElem?_append_left (List.getElem?_eq_some_iff.mp listed).1, listed]

theorem getElem?_snoc_cases (listed : (rows ++ [new])[i]? = some r) : rows[i]? = some r ∨ i = rows.length ∧ r = new := by
  rcases Nat.lt_or_ge i rows.length with old | late
  · rw [List.getElem?_append_left old] at listed
    exact .inl listed
  · rw [List.getElem?_append_right late, List.getElem?_singleton] at listed
    split at listed
    · rename_i first
      exact .inr ⟨by omega, (Option.some.inj listed).symm⟩
    · cases listed

theorem getElem?_set_cases {j : Nat} (listed : (rows.set i new)[j]? = some r) :
    i = j ∧ r = new ∨ i ≠ j ∧ rows[j]? = some r := by
  rw [List.getElem?_set] at listed
  split at listed
  · rename_i same
    split at listed
    · exact .inl ⟨same, (Option.some.inj listed).symm⟩
    · cases listed
  · rename_i apart
    exact .inr ⟨apart, listed⟩

end List
