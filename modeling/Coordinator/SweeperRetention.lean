import Mathlib.Tactic.NormNum
import Coordinator.Sweeper

namespace Coordinator
open DecimalText

/-- The text order puts a young row before the cut-off. After 1970 that takes
a row with more digits than the cut-off whose leading digits are below it;
before 1970 the signs agree and the order of the digits is the wrong way round. -/
def Misordered (epoch : Int) (cutoff : ℚ) : Prop :=
  let whole := cutoff.num.natAbs / cutoff.den
  (0 ≤ epoch ∧ 0 ≤ cutoff.num ∧ numDigits whole < numDigits epoch.natAbs ∧
    epoch.natAbs / 10 ^ (numDigits epoch.natAbs - numDigits whole) < whole) ∨
  (epoch < 0 ∧ cutoff.num < 0 ∧
    ((numDigits epoch.natAbs = numDigits whole ∧ epoch.natAbs < whole) ∨
      (cutoff.den ≠ 1 ∧ epoch.natAbs = whole) ∨
      (numDigits epoch.natAbs < numDigits whole ∧
        epoch.natAbs ≤ whole / 10 ^ (numDigits whole - numDigits epoch.natAbs))))

/-- Epochs of at most ten digits after 1970 are sorted right against a cut-off of ten digits. -/
theorem not_misordered_of_tenDigits {epoch : Int} {cutoff : ℚ} (era : 0 ≤ epoch ∧ epoch < 10 ^ 10)
    (recent : ((10 ^ 9 : Int) : ℚ) ≤ cutoff) : ¬ Misordered epoch cutoff := by
  have short : numDigits epoch.natAbs ≤ 10 := (numDigits_le_iff (by decide)).mpr (by omega)
  have cross : 10 ^ 9 * (cutoff.den : Int) ≤ cutoff.num := by
    have := (Rat.le_iff _ _).mp recent
    simpa using this
  have large : 10 ^ 9 ≤ cutoff.num.natAbs / cutoff.den := (Nat.le_div_iff_mul_le cutoff.pos).mpr (by omega)
  have wide : ¬ numDigits (cutoff.num.natAbs / cutoff.den) ≤ 9 := fun small => by
    have bound := (numDigits_le_iff (by decide)).mp small
    omega
  intro misordered
  rcases misordered with ⟨-, -, longer, -⟩ | ⟨negative, -⟩ <;> omega

/-- The retention that applies to an audit row: its action decides the tier. -/
def auditRetention (env : SweepEnv) (r : AuditRow) : Option RetentionDays :=
  if tier1Events.contains r.action then some (getOrgSetting env .auditRetentionDays)
  else if tier2Events.contains r.action then some (getOrgSetting env .auditTier2RetentionDays)
  else none

/-- Every row that is gone was older than its retention. -/
structure DeletesOnlyOld (env : SweepEnv) (now : Int) (before after : SweptTables) : Prop where
  auditLog : ∀ r ∈ before.auditLog.rows, r ∉ after.auditLog.rows →
    ∃ retention, auditRetention env r = some retention ∧ ∃ e : Int, r.epoch = some e ∧ e < cutoff now retention
  stamped : ∀ table, ∀ r ∈ (before.stamped table).rows, r ∉ (after.stamped table).rows →
    ∃ e : Int, r.epoch = some e ∧ e < cutoff now (getOrgSetting env table.key)

/-- No row that a retention applies to is misordered against its cut-off. -/
structure WellOrdered (env : SweepEnv) (now : Int) (tables : SweptTables) : Prop where
  auditLog : ∀ r ∈ tables.auditLog.rows, ∀ retention, auditRetention env r = some retention →
    ∀ e, r.epoch = some e → ¬ Misordered e (cutoff now retention)
  stamped : ∀ table, ∀ r ∈ (tables.stamped table).rows, ∀ e, r.epoch = some e →
    ¬ Misordered e (cutoff now (getOrgSetting env table.key))

/-- Nothing is added to the tables with a retention. -/
structure OnlyDeletes (before after : SweptTables) : Prop where
  auditLog : ∀ r ∈ after.auditLog.rows, r ∈ before.auditLog.rows
  stamped : ∀ table, ∀ r ∈ (after.stamped table).rows, r ∈ (before.stamped table).rows

theorem OnlyDeletes.refl (tables : SweptTables) : OnlyDeletes tables tables where
  auditLog _ member := member
  stamped _ _ member := member

theorem OnlyDeletes.trans {before mid after : SweptTables} (early : OnlyDeletes before mid)
    (late : OnlyDeletes mid after) : OnlyDeletes before after where
  auditLog r member := early.auditLog r (late.auditLog r member)
  stamped table r member := early.stamped table r (late.stamped table r member)

theorem DeletesOnlyOld.trans {env : SweepEnv} {now : Int} {before mid after : SweptTables}
    (early : DeletesOnlyOld env now before mid) (late : DeletesOnlyOld env now mid after) :
    DeletesOnlyOld env now before after where
  auditLog r member absent := by
    by_cases inMid : r ∈ mid.auditLog.rows
    · exact late.auditLog r inMid absent
    · exact early.auditLog r member inMid
  stamped table r member absent := by
    by_cases inMid : r ∈ (mid.stamped table).rows
    · exact late.stamped table r inMid absent
    · exact early.stamped table r member inMid

namespace SweepAll
variable {env : SweepEnv} {now : Int} {before after : SweptTables} {deleted : SweepCounts}

end SweepAll

namespace ChainedRuns
variable {env : SweepEnv} {now : Int} {left : Nat} {before after : SweptTables}

end ChainedRuns

/-- With every cut-off of ten digits and every stamped row from 1970 to 2286 nothing is misordered. -/
theorem WellOrdered.of_tenDigits {env : SweepEnv} {now : Int} {tables : SweptTables}
    (recent : ∀ key, ((10 ^ 9 : Int) : ℚ) ≤ cutoff now (getOrgSetting env key))
    (auditEra : ∀ r ∈ tables.auditLog.rows, ∀ e, r.epoch = some e → 0 ≤ e ∧ e < 10 ^ 10)
    (stampedEra : ∀ table, ∀ r ∈ (tables.stamped table).rows, ∀ e, r.epoch = some e → 0 ≤ e ∧ e < 10 ^ 10) :
    WellOrdered env now tables where
  auditLog r member retention applies e stamp := by
    have shown : ∃ key, retention = getOrgSetting env key := by
      rw [auditRetention] at applies
      split at applies
      · exact ⟨_, (Option.some.inj applies).symm⟩
      · split at applies
        · exact ⟨_, (Option.some.inj applies).symm⟩
        · cases applies
    obtain ⟨key, rfl⟩ := shown
    exact not_misordered_of_tenDigits (auditEra r member e stamp) (recent key)
  stamped table r member e stamp := not_misordered_of_tenDigits (stampedEra table r member e stamp) (recent table.key)

end Coordinator
