import Coordinator.ThreadStep

namespace Coordinator

structure RevokedAgent where
  agentId : AgentId
  orgId : OrgId
  revokedAt : Stamp
  revokedBy : String
  deriving DecidableEq, Repr

def RevokedAgent.key (r : RevokedAgent) : OrgId × AgentId := (r.orgId, r.agentId)

abbrev RevokedAgents := Table RevokedAgent RevokedAgent.key

namespace RevokedAgents

def isRevoked (T : RevokedAgents) (orgId : OrgId) (agentId : AgentId) : Bool := (T.find (orgId, agentId)).isSome

/-- `INSERT OR IGNORE`. -/
def insertOrIgnore (T : RevokedAgents) (r : RevokedAgent) : RevokedAgents := (T.insert r).getD T

def revokeAgent (T : RevokedAgents) (env : Env) (orgId : OrgId) (agentId : AgentId) (revokedBy : String) :
    RevokedAgents :=
  insertOrIgnore T ⟨agentId, orgId, env.currentTimestamp, revokedBy⟩

/-- `ORDER BY agent_id, revoked_at`. -/
def listed (T : RevokedAgents) : List RevokedAgent :=
  T.rows.mergeSort fun r s => r.agentId < s.agentId ∨ (r.agentId = s.agentId ∧ !s.revokedAt.lt r.revokedAt)

/-- The first row of each agent id. -/
def earliest (rows : List RevokedAgent) : List RevokedAgent :=
  rows.foldl (fun kept r => if kept.any fun s => s.agentId = r.agentId then kept else kept ++ [r]) []

/-- `agent_id = ? AND org_id NOT IN (…)`. -/
def staleRow (agentId : AgentId) (orgs : List OrgId) (r : RevokedAgent) : Bool :=
  r.agentId = agentId && !orgs.contains r.orgId

end RevokedAgents

/-- `SELECT org_id FROM agents WHERE id = ? ORDER BY org_id`. -/
def Db.orgsOf (db : Db) (agentId : AgentId) : List OrgId :=
  ((db.agents.rows.filter fun a => a.id = agentId).map Agent.orgId).mergeSort

open RevokedAgents

/-- One round of the migration's loop. -/
def rescopeAgent (db : Db) (T : RevokedAgents) (r : RevokedAgent) : RevokedAgents :=
  let orgs := db.orgsOf r.agentId
  if orgs = [] then T
  else if T.changes (staleRow r.agentId orgs) = 0 then T
  else
    let inserted := orgs.foldl (fun T org => T.insertOrIgnore { r with orgId := org }) T
    inserted.delete (staleRow r.agentId orgs)

structure RevocationDb where
  db : Db
  revokedAgents : RevokedAgents
  userVersion : Nat

def migrateRevokedAgentsPerOrgV12 (s : RevocationDb) : RevocationDb :=
  if 12 ≤ s.userVersion then s
  else
    { s with
      revokedAgents := (earliest s.revokedAgents.listed).foldl (rescopeAgent s.db) s.revokedAgents
      userVersion := 12 }

namespace RevocationDb

/-- `openAndMigrate` sets `user_version` back to 7; the migrations up to v11 raise
it again, and none of them reads the revocations. -/
def boot (s : RevocationDb) : RevocationDb := migrateRevokedAgentsPerOrgV12 { s with userVersion := 7 }

def isRevoked (s : RevocationDb) (orgId : OrgId) (agentId : AgentId) : Bool := s.revokedAgents.isRevoked orgId agentId

end RevocationDb

inductive RevocationEvent
  | register (env : Env) (orgId : OrgId) (agentId : AgentId) (name : String) (modules : List ModuleId)
  | revokeAgent (env : Env) (orgId : OrgId) (agentId : AgentId) (revokedBy : String)
  | boot

namespace RevocationDb

def step (s : RevocationDb) : RevocationEvent → RevocationDb
  | .register env orgId agentId name modules => { s with db := s.db.register env orgId agentId name modules }
  | .revokeAgent env orgId agentId revokedBy =>
    { s with revokedAgents := s.revokedAgents.revokeAgent env orgId agentId revokedBy }
  | .boot => s.boot

abbrev Run : RevocationDb → RevocationDb → Prop := GuardedRun step fun _ _ => True

end RevocationDb

namespace RevokedAgents
variable {T : RevokedAgents} {db : Db}

theorem isRevoked_iff {orgId : OrgId} {agentId : AgentId} :
    T.isRevoked orgId agentId ↔ ∃ r ∈ T.rows, r.orgId = orgId ∧ r.agentId = agentId := by
  rw [isRevoked, Option.isSome_iff_exists]
  constructor
  · intro found
    obtain ⟨r, hit⟩ := found
    obtain ⟨member, atKey⟩ := Table.find_eq_some.mp hit
    obtain ⟨sameOrg, sameAgent⟩ := Prod.mk.inj atKey
    exact ⟨r, member, sameOrg, sameAgent⟩
  · intro found
    obtain ⟨r, member, rfl, rfl⟩ := found
    exact ⟨r, Table.find_self member⟩

theorem isRevoked_insertOrIgnore {r : RevokedAgent} {orgId : OrgId} {agentId : AgentId} :
    (T.insertOrIgnore r).isRevoked orgId agentId ↔
      T.isRevoked orgId agentId ∨ (r.orgId = orgId ∧ r.agentId = agentId) := by
  rw [insertOrIgnore]
  cases inserted : T.insert r with
  | none =>
    have taken : T.isRevoked r.orgId r.agentId := by
      by_contra vacant
      have room := Table.insert_isSome.mpr (Option.not_isSome_iff_eq_none.mp vacant)
      rw [inserted] at room
      cases room
    refine ⟨.inl, fun either => either.elim id ?_⟩
    rintro ⟨rfl, rfl⟩
    exact taken
  | some U =>
    have key : RevokedAgent.key r = (orgId, agentId) ↔ r.orgId = orgId ∧ r.agentId = agentId := Prod.mk.injEq ..  |>.to_iff
    simp only [Option.getD_some, isRevoked, Table.find_insert inserted, ← key]
    split
    · rename_i same
      simp [same]
    · rename_i apart
      simp [apart]

theorem isRevoked_insertAll {r : RevokedAgent} {orgs : List OrgId} {orgId : OrgId} {agentId : AgentId} :
    (orgs.foldl (fun T org => insertOrIgnore T { r with orgId := org }) T).isRevoked orgId agentId ↔
      T.isRevoked orgId agentId ∨ (orgId ∈ orgs ∧ r.agentId = agentId) := by
  induction orgs generalizing T with
  | nil => simp
  | cons org rest ih =>
    rw [List.foldl_cons, ih, isRevoked_insertOrIgnore, List.mem_cons, or_and_right, or_assoc]
    rw [show org = orgId ↔ orgId = org from eq_comm]

theorem isRevoked_delete {p : RevokedAgent → Bool} {orgId : OrgId} {agentId : AgentId}
    (byKey : ∀ r s : RevokedAgent, r.orgId = s.orgId → r.agentId = s.agentId → p r = p s) (r : RevokedAgent)
    (atOrg : r.orgId = orgId) (atAgent : r.agentId = agentId) :
    isRevoked (T.delete p) orgId agentId ↔ T.isRevoked orgId agentId ∧ p r = false := by
  simp only [isRevoked_iff, Table.mem_delete, Bool.not_eq_true]
  constructor
  · rintro ⟨s, ⟨member, spared⟩, sameOrg, sameAgent⟩
    exact ⟨⟨s, member, sameOrg, sameAgent⟩,
      (byKey r s (atOrg.trans sameOrg.symm) (atAgent.trans sameAgent.symm)).trans spared⟩
  · rintro ⟨⟨s, member, sameOrg, sameAgent⟩, spared⟩
    exact ⟨s, ⟨member, (byKey s r (sameOrg.trans atOrg.symm) (sameAgent.trans atAgent.symm)).trans spared⟩, sameOrg, sameAgent⟩

/-- The agent is registered somewhere, and revoked in an org that does not hold it. -/
def Stale (db : Db) (T : RevokedAgents) (agentId : AgentId) : Prop :=
  db.orgsOf agentId ≠ [] ∧ ∃ orgId, T.isRevoked orgId agentId ∧ orgId ∉ db.orgsOf agentId

theorem changes_staleRow {agentId : AgentId} {orgs : List OrgId} :
    T.changes (staleRow agentId orgs) ≠ 0 ↔ ∃ orgId, T.isRevoked orgId agentId ∧ orgId ∉ orgs := by
  rw [← Nat.pos_iff_ne_zero, Table.changes_pos]
  simp only [staleRow, Bool.and_eq_true, decide_eq_true_eq, Bool.not_eq_true', List.contains_eq_mem,
    decide_eq_false_iff_not, isRevoked_iff]
  constructor
  · rintro ⟨r, member, sameAgent, outside⟩
    exact ⟨r.orgId, ⟨r, member, rfl, sameAgent⟩, outside⟩
  · rintro ⟨orgId, ⟨r, member, rfl, sameAgent⟩, outside⟩
    exact ⟨r, member, sameAgent, outside⟩

theorem rescopeAgent_of_not_stale {r : RevokedAgent} (fresh : ¬ Stale db T r.agentId) : rescopeAgent db T r = T := by
  unfold rescopeAgent
  simp only
  split
  · rfl
  · rename_i held
    split
    · rfl
    · rename_i stale
      exact absurd ⟨held, changes_staleRow.mp stale⟩ fresh

/-- A round of the loop puts the revocations of a stale agent into the orgs that
hold it, and nowhere else. -/
theorem isRevoked_rescopeAgent {r : RevokedAgent} {orgId : OrgId} {agentId : AgentId} :
    (rescopeAgent db T r).isRevoked orgId agentId ↔
      (agentId = r.agentId ∧ Stale db T agentId ∧ orgId ∈ db.orgsOf agentId) ∨
      (¬ (agentId = r.agentId ∧ Stale db T agentId) ∧ T.isRevoked orgId agentId) := by
  by_cases stale : Stale db T r.agentId
  · have rescoped : rescopeAgent db T r = Table.delete ((db.orgsOf r.agentId).foldl
        (fun T org => insertOrIgnore T { r with orgId := org }) T) (staleRow r.agentId (db.orgsOf r.agentId)) := by
      simp only [rescopeAgent, stale.1, if_false, changes_staleRow.mpr stale.2]
    have byKey : ∀ r' s : RevokedAgent, r'.orgId = s.orgId → r'.agentId = s.agentId →
        staleRow r.agentId (db.orgsOf r.agentId) r' = staleRow r.agentId (db.orgsOf r.agentId) s := by
      intro r' s sameOrg sameAgent
      rw [staleRow, staleRow, sameOrg, sameAgent]
    rw [rescoped, isRevoked_delete byKey { r with orgId := orgId, agentId := agentId } rfl rfl, isRevoked_insertAll]
    by_cases same : agentId = r.agentId
    · subst same
      have held : staleRow r.agentId (db.orgsOf r.agentId) { r with orgId := orgId } = false ↔
          orgId ∈ db.orgsOf r.agentId := by simp [staleRow]
      rw [held]
      simp only [true_and, stale, not_true_eq_false, false_and, or_false, and_true]
      exact ⟨And.right, fun holds => ⟨.inr holds, holds⟩⟩
    · simp [staleRow, same, Ne.symm same]
  · rw [rescopeAgent_of_not_stale stale]
    constructor
    · intro revoked
      refine .inr ⟨?_, revoked⟩
      rintro ⟨rfl, now⟩
      exact stale now
    · rintro (⟨rfl, now, -⟩ | ⟨-, revoked⟩)
      · exact absurd now stale
      · exact revoked

/-- Staleness of an agent depends on its own rows alone. -/
theorem stale_congr {T U : RevokedAgents} {agentId : AgentId}
    (same : ∀ orgId, U.isRevoked orgId agentId ↔ T.isRevoked orgId agentId) : Stale db U agentId ↔ Stale db T agentId :=
  and_congr_right fun _ => exists_congr fun orgId => and_congr_left fun _ => same orgId

/-- The whole loop, over rows of distinct agents. -/
theorem isRevoked_rescopeAll {rows : List RevokedAgent} (distinct : (rows.map RevokedAgent.agentId).Nodup)
    {orgId : OrgId} {agentId : AgentId} :
    (rows.foldl (rescopeAgent db) T).isRevoked orgId agentId ↔
      (agentId ∈ rows.map RevokedAgent.agentId ∧ Stale db T agentId ∧ orgId ∈ db.orgsOf agentId) ∨
      (¬ (agentId ∈ rows.map RevokedAgent.agentId ∧ Stale db T agentId) ∧ T.isRevoked orgId agentId) := by
  induction rows generalizing T with
  | nil => simp
  | cons r rest ih =>
    rw [List.map_cons, List.nodup_cons] at distinct
    rw [List.foldl_cons, ih distinct.2, List.map_cons, List.mem_cons]
    by_cases same : agentId = r.agentId
    · -- the agent's own round; the rest of the loop does not meet it again
      subst same
      simp only [distinct.1, false_and, not_false_eq_true, true_and, false_or, isRevoked_rescopeAgent, true_or]
    · have untouched : ∀ orgId, (rescopeAgent db T r).isRevoked orgId agentId ↔ T.isRevoked orgId agentId := by
        intro orgId
        rw [isRevoked_rescopeAgent]
        simp [same]
      rw [stale_congr untouched, untouched]
      simp only [same, false_or]

theorem rescopeAll_of_not_stale {rows : List RevokedAgent} (fresh : ∀ agentId, ¬ Stale db T agentId) :
    rows.foldl (rescopeAgent db) T = T := by
  induction rows with
  | nil => rfl
  | cons r rest ih => rw [List.foldl_cons, rescopeAgent_of_not_stale (fresh r.agentId), ih]

/-- `earliest` keeps one row of each agent. -/
theorem earliest_agents (rows : List RevokedAgent) :
    ((earliest rows).map RevokedAgent.agentId).Nodup ∧
      ∀ agentId, agentId ∈ (earliest rows).map RevokedAgent.agentId ↔ agentId ∈ rows.map RevokedAgent.agentId := by
  have loop : ∀ kept : List RevokedAgent, (kept.map RevokedAgent.agentId).Nodup →
      ((rows.foldl (fun kept r => if kept.any fun s => s.agentId = r.agentId then kept else kept ++ [r]) kept).map
        RevokedAgent.agentId).Nodup ∧
      ∀ agentId, agentId ∈ (rows.foldl (fun kept r => if kept.any fun s => s.agentId = r.agentId then kept else
        kept ++ [r]) kept).map RevokedAgent.agentId ↔
          agentId ∈ kept.map RevokedAgent.agentId ∨ agentId ∈ rows.map RevokedAgent.agentId := by
    induction rows with
    | nil => exact fun kept distinct => ⟨distinct, fun _ => by simp⟩
    | cons r rest ih =>
      intro kept distinct
      rw [List.foldl_cons]
      by_cases seen : kept.any fun s => s.agentId = r.agentId
      · have known : r.agentId ∈ kept.map RevokedAgent.agentId := by
          obtain ⟨s, member, same⟩ := List.any_eq_true.mp seen
          exact List.mem_map.mpr ⟨s, member, of_decide_eq_true same⟩
        rw [if_pos seen]
        obtain ⟨distinct', listed⟩ := ih kept distinct
        refine ⟨distinct', fun agentId => ?_⟩
        rw [listed, List.map_cons, List.mem_cons]
        constructor
        · rintro (old | new)
          · exact .inl old
          · exact .inr (.inr new)
        · rintro (old | rfl | new)
          · exact .inl old
          · exact .inl known
          · exact .inr new
      · have fresh : r.agentId ∉ kept.map RevokedAgent.agentId := by
          intro known
          obtain ⟨s, member, same⟩ := List.mem_map.mp known
          exact seen (List.any_eq_true.mpr ⟨s, member, decide_eq_true same⟩)
        rw [if_neg seen]
        have extended : ((kept ++ [r]).map RevokedAgent.agentId).Nodup := by
          rw [List.map_append, List.map_singleton]
          exact distinct.append (List.nodup_singleton _) (by simpa using fresh)
        obtain ⟨distinct', listed⟩ := ih (kept ++ [r]) extended
        refine ⟨distinct', fun agentId => ?_⟩
        rw [listed, List.map_append, List.map_singleton, List.mem_append, List.mem_singleton, List.map_cons,
          List.mem_cons, or_assoc]
  obtain ⟨distinct, listed⟩ := loop [] List.nodup_nil
  exact ⟨distinct, fun agentId => (listed agentId).trans (by simp)⟩

end RevokedAgents

namespace RevocationDb
variable {s : RevocationDb} {orgId : OrgId} {agentId : AgentId}

/-- What a boot leaves revoked. -/
theorem isRevoked_boot : s.boot.isRevoked orgId agentId ↔
    (Stale s.db s.revokedAgents agentId ∧ orgId ∈ s.db.orgsOf agentId) ∨
      (¬ Stale s.db s.revokedAgents agentId ∧ s.isRevoked orgId agentId) := by
  obtain ⟨distinct, listed⟩ := earliest_agents s.revokedAgents.listed
  have known : Stale s.db s.revokedAgents agentId →
      agentId ∈ (earliest s.revokedAgents.listed).map RevokedAgent.agentId := by
    rintro ⟨-, org, revoked, -⟩
    obtain ⟨r, member, -, rfl⟩ := isRevoked_iff.mp revoked
    rw [listed]
    exact List.mem_map_of_mem (List.mem_mergeSort.mpr member)
  refine (isRevoked_rescopeAll distinct).trans ?_
  rw [← and_assoc, and_iff_right_of_imp known]
  rfl

theorem not_stale_boot : ¬ Stale s.boot.db s.boot.revokedAgents agentId := by
  rintro ⟨held, org, revoked, outside⟩
  rcases isRevoked_boot.mp revoked with ⟨-, inside⟩ | ⟨fresh, before⟩
  · exact outside inside
  · exact fresh ⟨held, org, before, outside⟩

/-- From the second boot on the migration changes nothing. -/
theorem boot_boot (s : RevocationDb) : s.boot.boot = s.boot := by
  have same : (earliest s.boot.revokedAgents.listed).foldl (rescopeAgent s.boot.db) s.boot.revokedAgents =
      s.boot.revokedAgents := rescopeAll_of_not_stale fun _ => not_stale_boot
  show RevocationDb.mk s.boot.db ((earliest s.boot.revokedAgents.listed).foldl (rescopeAgent s.boot.db)
    s.boot.revokedAgents) 12 = s.boot
  rw [same]
  rfl

theorem boots_succ (n : Nat) (s : RevocationDb) : boot^[n + 1] s = s.boot := by
  induction n with
  | zero => rfl
  | succ n ih => rw [Function.iterate_succ_apply', ih, boot_boot]

/-- Every revoked pair stays revoked over any number of boots, and from the second
boot on nothing changes. -/
structure RevocationsStand (s : RevocationDb) : Prop where
  stronger : ∀ n orgId agentId, s.isRevoked orgId agentId → (boot^[n] s).isRevoked orgId agentId
  settled : ∀ n, boot^[n + 2] s = boot^[n + 1] s

theorem mem_orgsOf {db : Db} : orgId ∈ db.orgsOf agentId ↔ db.registered orgId agentId := by
  simp only [Db.orgsOf, List.mem_mergeSort, List.mem_map, List.mem_filter, decide_eq_true_eq, Db.registered, Db.getAgent,
    Option.isSome_iff_exists, Table.find_eq_some, Agent.key, Prod.mk.injEq]
  constructor
  · rintro ⟨a, ⟨member, sameId⟩, sameOrg⟩
    exact ⟨a, member, sameOrg, sameId⟩
  · rintro ⟨a, member, sameOrg, sameId⟩
    exact ⟨a, ⟨member, sameId⟩, sameOrg⟩

/-- Revocations stand exactly when every revoked id is registered in the org
that revoked it, or in none. -/
theorem revocationsStand_iff (s : RevocationDb) : s.RevocationsStand ↔
    ∀ orgId agentId, s.isRevoked orgId agentId →
      s.db.registered orgId agentId ∨ ∀ other, s.db.registered other agentId = false := by
  constructor
  · intro stand orgId agentId revoked
    have still := stand.stronger 1 orgId agentId revoked
    rcases isRevoked_boot.mp still with ⟨-, inside⟩ | ⟨fresh, -⟩
    · exact .inl (mem_orgsOf.mp inside)
    · by_contra outside
      rw [not_or, ← mem_orgsOf] at outside
      obtain ⟨elsewhere, registered⟩ := not_forall.mp outside.2
      rw [Bool.not_eq_false] at registered
      exact fresh ⟨List.ne_nil_of_mem (mem_orgsOf.mpr registered), orgId, revoked, outside.1⟩
  · intro placed
    refine ⟨?_, fun n => (boots_succ (n + 1) s).trans (boots_succ n s).symm⟩
    intro n orgId agentId revoked
    cases n with
    | zero => exact revoked
    | succ n =>
      rw [boots_succ, isRevoked_boot]
      by_cases stale : Stale s.db s.revokedAgents agentId
      · refine .inl ⟨stale, ?_⟩
        rcases placed orgId agentId revoked with inside | nowhere
        · exact mem_orgsOf.mpr inside
        · obtain ⟨held, -⟩ := stale
          obtain ⟨org, member⟩ := List.exists_mem_of_ne_nil _ held
          exact absurd (mem_orgsOf.mp member) (by simp [nowhere org])
      · exact .inr ⟨stale, revoked⟩

/-- A migrated database without agents and revocations. -/
def migrated : RevocationDb := ⟨.empty, .empty, 12⟩

/-- `builder` is registered in acme, and globex revokes the id it does not hold. -/
def foreignRevocation : RevocationDb :=
  (migrated.step (.register (.drawing "m0") "acme" "builder" "builder" [])).step
    (.revokeAgent (.drawing "m1") "globex" "builder" "root")

/-- The next boot takes the revocation from globex and gives it to acme. -/
theorem not_revocationsStand : ¬ ∀ s, migrated.Run s → s.RevocationsStand := by
  intro stand
  have run : migrated.Run foreignRevocation := (GuardedRun.single _ trivial).trans (GuardedRun.single _ trivial)
  have held : foreignRevocation.db.registered "acme" "builder" := by decide
  have unheld : foreignRevocation.db.registered "globex" "builder" = false := by decide
  have outside : "globex" ∉ foreignRevocation.db.orgsOf "builder" := by
    rw [mem_orgsOf, unheld]
    exact Bool.false_ne_true
  have revoked : foreignRevocation.isRevoked "globex" "builder" := by decide
  rcases isRevoked_boot.mp ((stand foreignRevocation run).stronger 1 "globex" "builder" revoked) with ⟨-, inside⟩ | ⟨fresh, -⟩
  · exact outside inside
  · exact fresh ⟨List.ne_nil_of_mem (mem_orgsOf.mpr held), "globex", revoked, outside⟩

end RevocationDb

end Coordinator
