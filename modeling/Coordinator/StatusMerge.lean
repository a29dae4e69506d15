import Mathlib.Data.Prod.Lex
import Mathlib.Data.Finset.Max
import Mathlib.Order.WithBot
import Coordinator.AgentIdMigration

namespace Coordinator

/-- Where a status row stands among those of its agent: its time, then the agent's own organisation, then the lowest. -/
def ActivityRow.rankBy {τ : Type} (time : ActivityRow → τ) (a : Agent) (r : ActivityRow) : τ ×ₗ Bool ×ₗ OrgIdᵒᵈ :=
  toLex (time r, toLex (decide (r.orgId = a.orgId), OrderDual.toDual r.orgId))

/-- By `COALESCE(last_activity_at, '')`. -/
def ActivityRow.rank (a : Agent) (r : ActivityRow) : String ×ₗ Bool ×ₗ OrgIdᵒᵈ := rankBy ActivityRow.activity a r

/-- By the time, with `NULL` below every text. -/
def ActivityRow.nullRank (a : Agent) (r : ActivityRow) : WithBot String ×ₗ Bool ×ₗ OrgIdᵒᵈ :=
  rankBy (fun r => (r.lastActivityAt : WithBot String)) a r

namespace AgentTables

/-- The one row that the merge leaves of an agent: the best it had. -/
structure BestStatus (s : AgentTables) (a : Agent) (best : ActivityRow) : Prop where
  kept : best ∈ s.mergeStatuses.statuses.rows
  known : best ∈ s.statuses.rows
  own : best.agentId = a.id
  highest : ∀ r ∈ s.statuses.rows, r.agentId = a.id → r.rank a ≤ best.rank a
  nullLowest : (∀ r ∈ s.statuses.rows, r.lastActivityAt ≠ some "") →
    ∀ r ∈ s.statuses.rows, r.agentId = a.id → r.nullRank a ≤ best.nullRank a

/-- The re-parented rows: each row that the merge leaves, those of registered agents with their organisation. -/
structure Reparented (s : AgentTables) (order moved : List ActivityRow) : Prop where
  rows : moved = order.map fun r => { r with orgId := s.parentOrg r.agentId r.orgId }
  keyed : (moved.map ActivityRow.key).Nodup
  own : ∀ r ∈ moved, ∀ a ∈ s.agents.rows, a.id = r.agentId → r.orgId = a.orgId
  unknown : ∀ r ∈ order, s.knows r.agentId = false → r ∈ moved

variable {s : AgentTables} {a : Agent} {r keeper loser best : ActivityRow}

theorem outranks_iff (same : keeper.agentId = loser.agentId) (apart : keeper.orgId ≠ loser.orgId) :
    outranks a keeper loser = true ↔ loser.rank a < keeper.rank a := by
  simp only [outranks, ActivityRow.rank, ActivityRow.rankBy, same, apart, Prod.Lex.toLex_lt_toLex, decide_true,
    Bool.true_and, Bool.or_eq_true, Bool.and_eq_true, decide_eq_true_eq, decide_not, Bool.not_eq_true', decide_false,
    Bool.not_false, decide_eq_false_iff_not, OrderDual.toDual_lt_toDual, decide_eq_decide]
  refine or_congr Iff.rfl (and_congr eq_comm (or_congr ?_ (and_congr ⟨Iff.symm, Iff.symm⟩ Iff.rfl)))
  by_cases ownKeeper : keeper.orgId = a.orgId
  · by_cases ownLoser : loser.orgId = a.orgId
    · simp [ownKeeper, ownLoser]
    · simp [ownKeeper, ownLoser]
  · by_cases ownLoser : loser.orgId = a.orgId
    · simp [ownKeeper, ownLoser]
    · simp [ownKeeper, ownLoser]

theorem nullRank_le (timed : r.lastActivityAt ≠ some "")
    (le : r.rank a ≤ best.rank a) : r.nullRank a ≤ best.nullRank a := by
  have none_lt : ∀ x : String, ¬ x < "" := by
    intro x less
    rw [String.lt_iff_toList_lt] at less
    exact List.not_lt_nil _ less
  simp only [ActivityRow.rank, ActivityRow.nullRank, ActivityRow.rankBy, ActivityRow.activity, Prod.Lex.toLex_le_toLex] at le ⊢
  cases time : r.lastActivityAt with
  | none =>
    rw [time] at le
    cases time' : best.lastActivityAt with
    | none =>
      rw [time'] at le
      exact .inr ⟨rfl, (le.resolve_left (lt_irrefl _)).2⟩
    | some y => exact .inl (WithBot.bot_lt_coe y)
  | some x =>
    rw [time] at le timed
    cases time' : best.lastActivityAt with
    | none =>
      rw [time'] at le
      rcases le with less | ⟨same, -⟩
      · exact absurd less (none_lt x)
      · exact absurd (congrArg some same) timed
    | some y =>
      rw [time'] at le
      exact le.imp WithBot.coe_lt_coe.mpr fun ⟨same, rest⟩ => ⟨congrArg some same, rest⟩

theorem mem_mergeStatuses : r ∈ s.mergeStatuses.statuses.rows ↔ r ∈ s.statuses.rows ∧ ¬ s.loses r := Table.mem_delete

/-- With unique agent ids a registered row loses to exactly the higher ones. -/
theorem loses_iff (unique : (s.agents.rows.map Agent.id).Nodup) (listed : a ∈ s.agents.rows) (own : r.agentId = a.id) :
    s.loses r = true ↔ ∃ keeper ∈ s.statuses.rows, keeper.agentId = a.id ∧ keeper.orgId ≠ r.orgId ∧
      r.rank a < keeper.rank a := by
  constructor
  · intro loses
    simp only [AgentTables.loses, Bool.and_eq_true, List.any_eq_true, decide_eq_true_eq] at loses
    obtain ⟨-, keeper, kept, a', listed', sameId, outranks⟩ := loses
    obtain rfl : a' = a := List.inj_on_of_nodup_map unique listed' listed (sameId.trans own)
    have facts := outranks
    simp only [AgentTables.outranks, Bool.and_eq_true, decide_eq_true_eq] at facts
    obtain ⟨⟨sameAgent, apart⟩, -⟩ := facts
    exact ⟨keeper, kept, sameAgent.trans own, apart, (outranks_iff sameAgent apart).mp outranks⟩
  · rintro ⟨keeper, kept, keeperOwn, apart, higher⟩
    exact loses_of_outranks kept listed own.symm ((outranks_iff (keeperOwn.trans own.symm) apart).mpr higher)

/-- Two rows of an agent differ in their organisation, so that one is higher. -/
theorem rank_lt_or_gt (member : r ∈ s.statuses.rows) (member' : keeper ∈ s.statuses.rows) (same : r.agentId = keeper.agentId)
    (apart : r ≠ keeper) : r.orgId ≠ keeper.orgId ∧ (r.rank a < keeper.rank a ∨ keeper.rank a < r.rank a) := by
  have apartOrg : r.orgId ≠ keeper.orgId := fun sameOrg =>
    apart (List.inj_on_of_nodup_map s.statuses.keyed member member' (Prod.ext sameOrg same))
  refine ⟨apartOrg, lt_or_gt_of_ne fun sameRank => apartOrg ?_⟩
  have inner := congrArg Prod.snd (toLex.injective sameRank)
  exact OrderDual.toDual.injective (congrArg Prod.snd (toLex.injective inner))

theorem exists_bestStatus (unique : (s.agents.rows.map Agent.id).Nodup) (listed : a ∈ s.agents.rows)
    (some : ∃ r ∈ s.statuses.rows, r.agentId = a.id) : ∃ best, BestStatus s a best := by
  obtain ⟨r, member, own⟩ := some
  obtain ⟨best, inside, highest⟩ := Finset.exists_max_image (s.statuses.rows.filter fun r => r.agentId = a.id).toFinset
    (ActivityRow.rank a) ⟨r, by simp [member, own]⟩
  have inside : best ∈ s.statuses.rows ∧ best.agentId = a.id := by simpa using inside
  have highest : ∀ r ∈ s.statuses.rows, r.agentId = a.id → r.rank a ≤ best.rank a :=
    fun r member own => highest r (by simp [member, own])
  refine ⟨best, mem_mergeStatuses.mpr ⟨inside.1, fun loses => ?_⟩, inside.1, inside.2, highest, ?_⟩
  · obtain ⟨keeper, kept, keeperOwn, -, higher⟩ := (loses_iff unique listed inside.2).mp loses
    exact absurd higher (not_lt_of_ge (highest keeper kept keeperOwn))
  · intro timed r member own
    exact nullRank_le (timed r member) (highest r member own)

theorem bestStatus_unique (unique : (s.agents.rows.map Agent.id).Nodup) (listed : a ∈ s.agents.rows)
    (kept : r ∈ s.mergeStatuses.statuses.rows) (kept' : keeper ∈ s.mergeStatuses.statuses.rows) (own : r.agentId = a.id)
    (own' : keeper.agentId = a.id) : r = keeper := by
  obtain ⟨member, stays⟩ := mem_mergeStatuses.mp kept
  obtain ⟨member', stays'⟩ := mem_mergeStatuses.mp kept'
  by_contra apart
  obtain ⟨apartOrg, less | greater⟩ := rank_lt_or_gt (a := a) member member' (own.trans own'.symm) apart
  · exact stays ((loses_iff unique listed own).mpr ⟨keeper, member', own', Ne.symm apartOrg, less⟩)
  · exact stays' ((loses_iff unique listed own').mpr ⟨r, member, own, apartOrg, greater⟩)

theorem parentOrg_of_unknown (unknown : s.knows r.agentId = false) : s.parentOrg r.agentId r.orgId = r.orgId := by
  have missed : s.agents.rows.find? (fun a => a.id = r.agentId) = none :=
    List.find?_eq_none.mpr (List.any_eq_false.mp unknown)
  rw [parentOrg, missed]
  split
  · rfl
  · rfl

theorem parentOrg_of_own (unique : (s.agents.rows.map Agent.id).Nodup) (listed : a ∈ s.agents.rows)
    (own : r.agentId = a.id) : s.parentOrg r.agentId r.orgId = a.orgId := by
  rw [parentOrg]
  split
  · rename_i held
    obtain ⟨a', listed', org, id⟩ := holds_iff.mp held
    obtain rfl : a' = a := List.inj_on_of_nodup_map unique listed' listed (id.trans own)
    exact org.symm
  · cases found : s.agents.rows.find? fun a => a.id = r.agentId with
    | none => exact absurd (decide_eq_true own.symm) (List.find?_eq_none.mp found a listed)
    | some a' =>
      have id := List.find?_some found
      simp only [decide_eq_true_eq] at id
      obtain rfl : a' = a :=
        List.inj_on_of_nodup_map unique (List.mem_of_find?_eq_some found) listed (id.trans own)
      rfl

/-- Rows that land apart from each other, moved or not, are all moved. -/
theorem reparentStatuses_map (done rest : List ActivityRow)
    (fresh : ∀ r ∈ rest, ∀ d ∈ done, ActivityRow.key { r with orgId := s.parentOrg r.agentId r.orgId } ≠ d.key)
    (apart : rest.Pairwise fun r r' => ActivityRow.key { r with orgId := s.parentOrg r.agentId r.orgId } ≠ r'.key ∧
      ActivityRow.key { r with orgId := s.parentOrg r.agentId r.orgId } ≠
        ActivityRow.key { r' with orgId := s.parentOrg r'.agentId r'.orgId }) :
    s.reparentStatuses done rest =
      some (done ++ rest.map fun r => { r with orgId := s.parentOrg r.agentId r.orgId }) := by
  induction rest generalizing done with
  | nil => simp [reparentStatuses]
  | cons r rest ih =>
    obtain ⟨first, later⟩ := List.pairwise_cons.mp apart
    obtain ⟨freshFirst, freshLater⟩ := List.forall_mem_cons.mp fresh
    have alone : ActivityRow.key { r with orgId := s.parentOrg r.agentId r.orgId } ∉
        (done ++ rest).map ActivityRow.key := by
      intro taken
      obtain ⟨d, listed, same⟩ := List.mem_map.mp taken
      rcases List.mem_append.mp listed with before | behind
      · exact freshFirst d before same.symm
      · exact (first d behind).1 same.symm
    rw [reparentStatuses, if_neg alone, ih _ ?_ later]
    · simp
    · intro r' listed d within
      rcases List.mem_append.mp within with before | moved
      · exact freshLater r' listed d before
      · rw [List.mem_singleton.mp moved]
        exact (first r' listed).2.symm

/-- In whatever order the `UPDATE` comes to them, the rows that the merge leaves can be moved. -/
theorem exists_reparented (unique : (s.agents.rows.map Agent.id).Nodup) {order : List ActivityRow}
    (visits : order.Perm s.mergeStatuses.statuses.rows) :
    ∃ moved, s.mergeStatuses.reparentStatuses [] order = some moved ∧ Reparented s order moved := by
  have mem : ∀ r ∈ order, r ∈ s.mergeStatuses.statuses.rows := fun r listed => visits.subset listed
  have keyed : (order.map ActivityRow.key).Nodup :=
    (visits.map ActivityRow.key).nodup_iff.mpr s.mergeStatuses.statuses.keyed
  have lands : ∀ r ∈ order, ∀ r' ∈ order, r.key ≠ r'.key → r.agentId = r'.agentId →
      s.parentOrg r.agentId r.orgId = r.orgId ∧ s.parentOrg r'.agentId r'.orgId = r'.orgId := by
    intro r listed r' listed' apart same
    by_cases known : s.knows r.agentId = true
    · obtain ⟨a, member, id⟩ := List.any_eq_true.mp known
      have own := (of_decide_eq_true id).symm
      exact absurd (congrArg ActivityRow.key
        (bestStatus_unique unique member (mem r listed) (mem r' listed') own (same.symm.trans own))) apart
    · have unknown := eq_false_of_ne_true known
      exact ⟨parentOrg_of_unknown unknown, parentOrg_of_unknown (same ▸ unknown)⟩
  have apart : order.Pairwise fun r r' => ActivityRow.key { r with orgId := s.parentOrg r.agentId r.orgId } ≠ r'.key ∧
      ActivityRow.key { r with orgId := s.parentOrg r.agentId r.orgId } ≠
        ActivityRow.key { r' with orgId := s.parentOrg r'.agentId r'.orgId } := by
    refine (List.pairwise_map.mp keyed).imp_of_mem fun {r r'} listed listed' differ => ⟨fun same => ?_, fun same => ?_⟩
    · have sameAgent : r.agentId = r'.agentId := congrArg Prod.snd same
      have stays := (lands r listed r' listed' differ sameAgent).1
      exact differ (Prod.ext (stays.symm.trans (congrArg Prod.fst same)) sameAgent)
    · have sameAgent : r.agentId = r'.agentId := congrArg Prod.snd same
      obtain ⟨stays, stays'⟩ := lands r listed r' listed' differ sameAgent
      exact differ (Prod.ext (stays.symm.trans ((congrArg Prod.fst same).trans stays')) sameAgent)
  have run := reparentStatuses_map (s := s.mergeStatuses) [] order (fun _ _ _ none => by cases none) apart
  refine ⟨_, run, rfl, ?_, ?_, ?_⟩
  · rw [List.nil_append, List.map_map]
    exact List.pairwise_map.mpr (apart.imp And.right)
  · intro r moved a member id
    rw [List.nil_append] at moved
    obtain ⟨old, listed, rfl⟩ := List.mem_map.mp moved
    exact parentOrg_of_own unique member id.symm
  · intro r listed unknown
    rw [List.nil_append]
    refine List.mem_map.mpr ⟨r, listed, ?_⟩
    exact congrArg (fun orgId => { r with orgId := orgId }) (parentOrg_of_unknown unknown)

theorem mergeStatuses_best (s : AgentTables) (unique : (s.agents.rows.map Agent.id).Nodup) :
    (∀ a ∈ s.agents.rows, (∃ r ∈ s.statuses.rows, r.agentId = a.id) → ∃ best, BestStatus s a best ∧
      ∀ r ∈ s.mergeStatuses.statuses.rows, r.agentId = a.id → r = best) ∧
    (∀ r ∈ s.statuses.rows, s.knows r.agentId = false → r ∈ s.mergeStatuses.statuses.rows) ∧
    ∀ order : List ActivityRow, order.Perm s.mergeStatuses.statuses.rows →
      ∃ moved, s.mergeStatuses.reparentStatuses [] order = some moved ∧ Reparented s order moved := by
  refine ⟨fun a listed some => ?_, fun r member unknown => ?_, fun order visits => exists_reparented unique visits⟩
  · obtain ⟨best, isBest⟩ := exists_bestStatus unique listed some
    exact ⟨best, isBest, fun r kept own => bestStatus_unique unique listed kept isBest.kept own isBest.own⟩
  · refine mem_mergeStatuses.mpr ⟨member, fun loses => ?_⟩
    rw [AgentTables.loses, unknown] at loses
    cases loses

/-- The agent `builder` of one organisation, with a status in three: two of one time, one of none. -/
def threeOrgs : AgentTables where
  agents := ⟨[⟨"builder", "globex", "Builder", .null, .online, .sqlite 1, .sqlite 1⟩], by decide⟩
  threads := .empty
  messages := .empty
  summaries := .empty
  introspections := .empty
  statuses := ⟨[⟨"builder", "acme", some "working", none, none, some "2026-01-01 10:00:00"⟩,
    ⟨"builder", "initech", some "idle", none, none, some "2026-01-01 10:00:00"⟩,
    ⟨"builder", "globex", some "idle", none, none, none⟩], by decide⟩
  composite := []
  idxAgentsId := true
  userVersion := 10

/-- The status of `acme` is left, and comes to `globex`. -/
theorem mergeStatuses_best_threeOrgs :
    (∃ best, BestStatus threeOrgs ⟨"builder", "globex", "Builder", .null, .online, .sqlite 1, .sqlite 1⟩ best) ∧
      ∃ moved, threeOrgs.mergeStatuses.reparentStatuses [] threeOrgs.mergeStatuses.statuses.rows = some moved ∧
        Reparented threeOrgs threeOrgs.mergeStatuses.statuses.rows moved := by
  obtain ⟨best, -, moves⟩ := mergeStatuses_best threeOrgs (by decide)
  obtain ⟨row, isBest, -⟩ := best _ List.mem_cons_self ⟨_, List.mem_cons_self, rfl⟩
  exact ⟨⟨row, isBest⟩, moves _ (List.Perm.refl _)⟩

end AgentTables
end Coordinator
