import Coordinator.ThreadStep

namespace Coordinator

/-- The departing agent is expected to respond on the thread, or has claimed it. -/
def Thread.involves (t : Thread) (agentId : AgentId) : Prop := agentId ∈ t.respondents ∨ t.claimedBy = some agentId

namespace Db

/-- The departure leaves every column of a thread alone, unless the thread is
of the org and involves the agent. -/
def SparesStrangers (env : Env) (orgId : OrgId) (agentId : AgentId) (db : Db) : Prop :=
  ∀ k t, db.threads.find k = some t → ¬ (t.orgId = orgId ∧ t.involves agentId) →
    (db.handleAgentDeparture env orgId agentId).threads.find k = some t

/-- The departure loop settles a thread whose respondents stay as they are. -/
def settlesAnyway (db : Db) (t : Thread) : Prop :=
  (t.status = .opened ∧ t.respondents = []) ∨
    (t.status = .resolving ∧ ∀ id ∈ t.respondents, id ∈ db.approvals t.id t.round)

theorem filter_stranger {t : Thread} {agentId : AgentId} (stranger : agentId ∉ t.respondents) :
    t.respondents.filter (· ≠ agentId) = t.respondents := by
  rw [List.filter_eq_self]
  intro id member
  simp only [decide_eq_true_eq]
  rintro rfl
  exact stranger member

/-- What the loop makes of an active thread that does not expect the agent. -/
theorem departed_stranger {env : Env} {agentId : AgentId} {db : Db} {t : Thread}
    (stranger : agentId ∉ t.respondents) :
    (db.settlesAnyway t ∧ departed env agentId db t = (t.expect t.respondents).resolve env.isoNow) ∨
      (¬ db.settlesAnyway t ∧ departed env agentId db t = t.expect t.respondents) := by
  have decision : (t.status = .resolving ∧ (t.respondents.all fun id => (db.approvals t.id t.round).contains id)) ∨
      (t.status = .opened ∧ t.respondents.isEmpty) ↔ db.settlesAnyway t := by
    simp only [settlesAnyway, List.all_eq_true, List.contains_iff_mem, List.isEmpty_iff]
    exact Or.comm
  by_cases settles : db.settlesAnyway t
  · refine .inl ⟨settles, ?_⟩
    simp only [departed, filter_stranger stranger]
    exact if_pos (decision.mpr settles)
  · refine .inr ⟨settles, ?_⟩
    simp only [departed, filter_stranger stranger]
    exact if_neg fun decided => settles (decision.mp decided)

theorem expect_respondents_iff {t : Thread} :
    t.expect t.respondents = t ↔ ∃ ids, t.expectedRespondents = .array ids := by
  constructor
  · intro same
    exact ⟨t.respondents, by rw [← same]; rfl⟩
  · intro array
    obtain ⟨ids, column⟩ := array
    have parsed : t.respondents = ids := by rw [Thread.respondents, column]; rfl
    rw [parsed]
    cases t
    simp only at column
    subst column
    rfl

theorem departed_stranger_iff {env : Env} {agentId : AgentId} {db : Db} {t : Thread} (active : t.status.active)
    (stranger : agentId ∉ t.respondents) :
    departed env agentId db t = t ↔ (∃ ids, t.expectedRespondents = .array ids) ∧ ¬ db.settlesAnyway t := by
  rcases departed_stranger stranger with ⟨settles, row⟩ | ⟨stays, row⟩
  · rw [row]
    constructor
    · intro same
      rw [← same] at active
      cases active
    · exact fun both => absurd settles both.2
  · rw [row, expect_respondents_iff]
    exact ⟨fun array => ⟨array, stays⟩, fun both => both.1⟩

/-- The departure spares strangers' threads exactly when no active thread of
the org in which the agent plays no role would be settled by the loop as it
stands, or has a respondents column that is not a JSON array. -/
theorem departure_frame_iff (env : Env) (orgId : OrgId) (agentId : AgentId) (db : Db) :
    db.SparesStrangers env orgId agentId ↔
      ∀ t ∈ db.threads.rows, t.orgId = orgId → t.status.active → ¬ t.involves agentId →
        (∃ ids, t.expectedRespondents = .array ids) ∧ ¬ db.settlesAnyway t := by
  have unclaimed : ∀ t : Thread, ¬ t.involves agentId →
      (if t.claimedBy = some agentId ∧ t.status = .opened then t.unclaim else t) = t :=
    fun t stranger => if_neg fun both => stranger (.inr both.1)
  constructor
  · intro spares t member sameOrg active stranger
    have found := Table.find_self member
    have kept := spares t.id t found fun both => stranger both.2
    rw [handleAgentDeparture_find, found, Option.map_some, if_pos ⟨sameOrg, active⟩, unclaimed t stranger] at kept
    exact (departed_stranger_iff active fun expected => stranger (.inl expected)).mp (Option.some.inj kept)
  · intro settled k t found outside
    rw [handleAgentDeparture_find, found, Option.map_some]
    by_cases swept : t.orgId = orgId ∧ t.status.active
    · have stranger : ¬ t.involves agentId := fun role => outside ⟨swept.1, role⟩
      have keeps := settled t (Table.find_eq_some.mp found).1 swept.1 swept.2 stranger
      rw [if_pos swept, unclaimed t stranger,
        (departed_stranger_iff swept.2 fun expected => stranger (.inl expected)).mpr keeps]
    · rw [if_neg swept]

/-- Ada keeps a task open that concerns nobody; Bob leaves, and her task is resolved. -/
theorem not_sparesStrangers : ¬ ∀ (env : Env) (orgId : OrgId) (agentId : AgentId) (db : Db),
    db.SparesStrangers env orgId agentId := by
  intro spares
  let db := (team [("ada", []), ("bob", [])]).after
    [(.drawing "t1", .announceWork "acme" (.ofFiles "ada" ["a.ts"] true))]
  have before : (db.threads.find "t1").map (fun t => (t.status, t.respondents, t.claimedBy)) =
      some (.opened, [], none) := by decide
  have later : ((db.handleAgentDeparture (.drawing "m1") "acme" "bob").threads.find "t1").map Thread.status =
      some .resolved := by decide
  obtain ⟨t, found, row⟩ := Option.map_eq_some_iff.mp before
  simp only [Prod.mk.injEq] at row
  have kept := spares (.drawing "m1") "acme" "bob" db "t1" t found (by
    rintro ⟨-, expected | claimed⟩
    · rw [row.2.1] at expected
      cases expected
    · rw [row.2.2] at claimed
      cases claimed)
  rw [kept, Option.map_some, row.1] at later
  cases later

end Db

end Coordinator
