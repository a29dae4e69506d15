import Coordinator.AuditWriters

namespace Coordinator
variable {Key : Type} {crypto : ChainCrypto Key} {key : Key} {log forged : AuditLog} {row : ChainedRow}

/-- Every row of the log was written with the key. -/
def WrittenKeyed (crypto : ChainCrypto Key) (key : Key) (log : AuditLog) : Prop :=
  ∀ row ∈ log.rows, ∃ rowPrev, row.prevHash = some rowPrev ∧
    row.rowHash = some (computeRowHash crypto rowPrev row.fields (some key))

theorem WrittenKeyed.recomputes (written : WrittenKeyed crypto key log) (member : row ∈ log.rows) :
    Recomputes crypto (some key) row := by
  obtain ⟨rowPrev, prevHash, rowHash⟩ := written row member
  exact ⟨rowPrev, some key, prevHash, .inr rfl, rowHash⟩

section Writing

theorem WrittenKeyed.chain (written : WrittenKeyed crypto key log) (fields : AuditChainFields) :
    WrittenKeyed crypto key (log.chain crypto (some key) fields) := by
  intro row member
  rcases List.mem_append.mp member with before | last
  · exact written row before
  · rw [List.mem_singleton.mp last]
    exact ⟨log.tip, rfl, rfl⟩

theorem WrittenKeyed.appends {after : AuditLog} (written : WrittenKeyed crypto key log)
    (appends : Appends crypto (some key) log after) : WrittenKeyed crypto key after := by
  obtain ⟨entries, rfl⟩ := appends
  induction entries generalizing log with
  | nil => exact written
  | cons fields rest ih => exact ih (written.chain fields)

/-- A process that has its key from the start writes nothing but keyed rows. -/
theorem WrittenKeyed.run {w : AuditWorld Key} {ops : List (AuditOp Key)} (written : WrittenKeyed crypto key w.log)
    (set : w.chainKey = some key) (steady : ∀ k, .configureAuditChainKey k ∈ ops → k = some key) :
    WrittenKeyed crypto key (w.run crypto ops).log := by
  induction ops generalizing w with
  | nil => exact written
  | cons op rest ih =>
    have log : WrittenKeyed crypto key (w.step crypto op).log := by
      rcases AuditWorld.step_log op with appends | ⟨victim, deleted⟩
      · exact written.appends (set ▸ appends)
      · rw [deleted]
        exact fun row member => written row (List.mem_filter.mp member).1
    have still : (w.step crypto op).chainKey = some key := by
      rcases AuditWorld.step_chainKey crypto w op with same | configured
      · rw [same, set]
      · exact steady _ (configured ▸ List.mem_cons_self)
    exact ih log still fun k member => steady k (List.mem_cons_of_mem op member)

end Writing

end Coordinator
