import Coordinator.Library.Table

universe u v w

section Rows
variable {ρ : Type u} {τ : Type v} [DecidableEq τ] (owner : ρ → τ) (A : τ)

/-- The rows of one owner, in their order. -/
def ownedBy (rows : List ρ) : List ρ := rows.filter fun r => owner r = A

variable {owner A} {rows rows' : List ρ}

theorem mem_ownedBy {r : ρ} : r ∈ ownedBy owner A rows ↔ r ∈ rows ∧ owner r = A := by
  simp [ownedBy]

@[simp] theorem ownedBy_append : ownedBy owner A (rows ++ rows') = ownedBy owner A rows ++ ownedBy owner A rows' :=
  List.filter_append rows rows'

theorem ownedBy_push_own {r : ρ} (own : owner r = A) : ownedBy owner A (rows ++ [r]) = ownedBy owner A rows ++ [r] := by
  simp [ownedBy, own]

theorem ownedBy_push_foreign {r : ρ} (foreign : owner r ≠ A) : ownedBy owner A (rows ++ [r]) = ownedBy owner A rows := by
  simp [ownedBy, foreign]

/-- A selection scoped to the owner reads the owner's rows alone. -/
theorem filter_scoped (p : ρ → Prop) [DecidablePred p] :
    (rows.filter fun r => owner r = A ∧ p r) = (ownedBy owner A rows).filter fun r => p r := by
  rw [ownedBy, List.filter_filter]
  congr 1
  funext r
  rw [Bool.decide_and, Bool.and_comm]

theorem find?_scoped (p : ρ → Prop) [DecidablePred p] :
    (rows.find? fun r => owner r = A ∧ p r) = (ownedBy owner A rows).find? fun r => p r := by
  rw [ownedBy, List.find?_filter]
  congr 1
  funext r
  simp only [decide_eq_true_eq]

theorem any_scoped (p : ρ → Prop) [DecidablePred p] :
    (rows.any fun r => owner r = A ∧ p r) = (ownedBy owner A rows).any fun r => p r := by
  rw [ownedBy, List.any_filter]
  congr 1
  funext r
  rw [Bool.decide_and]

theorem countP_scoped {p : ρ → Bool} (within : ∀ r, p r → owner r = A) :
    rows.countP p = (ownedBy owner A rows).countP p := by
  rw [ownedBy, List.countP_filter]
  refine List.countP_congr fun r _ => ?_
  simp only [Bool.and_eq_true, decide_eq_true_eq]
  exact ⟨fun holds => ⟨holds, within r holds⟩, fun both => both.1⟩

/-- A rowwise rewrite that keeps owners acts on each owner's rows by themselves. -/
theorem ownedBy_map {g : ρ → ρ} (keeps : ∀ r, owner (g r) = owner r) :
    ownedBy owner A (rows.map g) = (ownedBy owner A rows).map g := by
  rw [ownedBy, ownedBy, List.filter_map]
  congr 2
  funext r
  simp only [Function.comp_apply, keeps]

/-- What rewrites the rows of others only is not seen. -/
theorem ownedBy_map_foreign {g : ρ → ρ} (keeps : ∀ r, owner (g r) = owner r)
    (foreign : ∀ r ∈ rows, owner r = A → g r = r) : ownedBy owner A (rows.map g) = ownedBy owner A rows := by
  have stays : ∀ r ∈ ownedBy owner A rows, g r = r :=
    fun r member => foreign r (mem_ownedBy.mp member).1 (mem_ownedBy.mp member).2
  rw [ownedBy_map keeps, List.map_congr_left stays]
  exact List.map_id' _

theorem ownedBy_filter (p : ρ → Bool) : ownedBy owner A (rows.filter p) = (ownedBy owner A rows).filter p := by
  rw [ownedBy, ownedBy, List.filter_filter, List.filter_filter]
  congr 1
  funext r
  rw [Bool.and_comm]

theorem ownedBy_filter_foreign {p : ρ → Bool} (kept : ∀ r, owner r = A → p r) :
    ownedBy owner A (rows.filter p) = ownedBy owner A rows := by
  rw [ownedBy_filter, List.filter_eq_self]
  intro r member
  exact kept r (mem_ownedBy.mp member).2

/-- The rows after an upsert: the row that is the same as the new one is replaced, or the new one appended. -/
def upsert (same : ρ → Bool) (row : ρ) (rows : List ρ) : List ρ :=
  if rows.any same then rows.map fun r => if same r then row else r else rows ++ [row]

section Upsert
variable {same : ρ → Bool} {row : ρ}

/-- What an upsert leaves is found under the same key. -/
theorem find?_upsert {same : ρ → Bool} {row : ρ} (hit : same row) (rows : List ρ) :
    (upsert same row rows).find? same = some row := by
  unfold upsert
  split
  · rename_i present
    have onto : (same ∘ fun r => if same r then row else r) = same := by
      funext r
      simp only [Function.comp_apply]
      split
      · rename_i matched
        rw [hit, matched]
      · rfl
    obtain ⟨r, member, matched⟩ := List.any_eq_true.mp present
    obtain ⟨first, found⟩ := Option.isSome_iff_exists.mp (List.find?_isSome.mpr ⟨r, member, matched⟩)
    rw [List.find?_map, onto, found, Option.map_some, if_pos (List.find?_some found)]
  · rename_i absent
    rw [List.find?_append, List.find?_eq_none.mpr]
    · simp [hit]
    · intro r member matched
      exact absent (List.any_eq_true.mpr ⟨r, member, matched⟩)

omit [DecidableEq τ] in
theorem upsert_owner (within : ∀ r, same r → owner r = owner row) (r : ρ) :
    owner (if same r then row else r) = owner r := by
  split
  · rename_i hit
    exact (within r hit).symm
  · rfl

theorem ownedBy_upsert_own (within : ∀ r, same r → owner r = owner row) (own : owner row = A) :
    ownedBy owner A (upsert same row rows) = upsert same row (ownedBy owner A rows) := by
  have hits : rows.any same = (ownedBy owner A rows).any same := by
    rw [ownedBy, List.any_filter]
    refine congrArg (List.any rows) (funext fun r => ?_)
    by_cases hit : same r
    · rw [hit, Bool.and_true, eq_comm, decide_eq_true_eq, within r hit, own]
    · simp [hit]
  rw [upsert, upsert, hits]
  split
  · exact ownedBy_map (upsert_owner within)
  · exact ownedBy_push_own own

theorem ownedBy_upsert_congr (within : ∀ r, same r → owner r = owner row) (own : owner row = A)
    (alike : ownedBy owner A rows = ownedBy owner A rows') :
    ownedBy owner A (upsert same row rows) = ownedBy owner A (upsert same row rows') := by
  rw [ownedBy_upsert_own within own, ownedBy_upsert_own within own, alike]

theorem ownedBy_upsert_foreign (within : ∀ r, same r → owner r = owner row) (foreign : owner row ≠ A) :
    ownedBy owner A (upsert same row rows) = ownedBy owner A rows := by
  rw [upsert]
  split
  · refine ownedBy_map_foreign (upsert_owner within) fun r _ own => if_neg fun hit => ?_
    exact foreign ((within r hit).symm.trans own)
  · exact ownedBy_push_foreign foreign

end Upsert

end Rows

namespace Table
variable {ρ : Type u} {κ : Type v} {τ : Type w} {key : ρ → κ} [DecidableEq κ] [DecidableEq τ]

/-- A lookup by key and owner reads the owner's rows alone. -/
theorem find_filter_owner (T : Table ρ key) (owner : ρ → τ) (A : τ) (k : κ) :
    (T.find k).filter (fun r => owner r = A) = (ownedBy owner A T.rows).find? fun r => key r = k := by
  let mine : Table ρ key := ⟨ownedBy owner A T.rows, matching_nodup T _⟩
  refine Option.ext fun r => ?_
  have found : mine.find k = some r ↔ r ∈ ownedBy owner A T.rows ∧ key r = k := find_eq_some
  change _ ↔ mine.find k = some r
  rw [found, mem_ownedBy, Option.filter_eq_some_iff, find_eq_some, decide_eq_true_eq]
  tauto

end Table
