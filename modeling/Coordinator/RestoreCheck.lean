import Mathlib.Data.List.MinMax
import Coordinator.AgentIdMigration
import Coordinator.RevokedAgents
import Coordinator.Library.DecimalText

namespace Coordinator

/-- A row of `audit_log` as a boot reads it: `epoch` is `strftime('%s', created_at)`,
NULL when the text is no date. -/
structure AuditStamp where
  action : String
  outcome : Option String
  epoch : Option Int
  deriving DecidableEq, Repr

/-- The tables that the migrations of `openAndMigrate` read. `otherOrgs` has the
`org_id` of each row of the tables that only the v9 migration looks at. -/
structure BootDb where
  auditLog : List AuditStamp
  orgs : List OrgId
  tables : AgentTables
  revokedAgents : RevokedAgents
  otherOrgs : List OrgId

structure RestoreEnv where
  migration : MigrationEnv
  allowRestore : Option String

/-- The clock of the boot, which stamps what the migrations insert. -/
def RestoreEnv.now (env : RestoreEnv) : Int := env.migration.now.seconds

def AgentTables.refsOf (s : AgentTables) : AgentRefTable → List (AgentId × OrgId)
  | .threads => s.threads.rows.map fun t => (t.initiatorId, t.orgId)
  | .threadMessages => s.messages.rows.map fun m => (m.agentId, m.orgId)
  | .actionSummaries => s.summaries.rows.map fun a => (a.agentId, a.orgId)
  | .introspections => s.introspections.rows.map fun i => (i.agentId, i.orgId)
  | .agentActivityStatus => s.statuses.rows.map fun r => (r.agentId, r.orgId)

/-- `foreign_key_check` while some tables still reference the agent id alone. -/
def AgentTables.mixedForeignKeyCheck (s : AgentTables) : Bool :=
  AgentTables.specs.all fun table =>
    (s.refsOf table).all fun ref => if table ∈ s.composite then s.holds ref.2 ref.1 else s.knows ref.1

/-- The rows that the re-parenting `UPDATE`s of v11 select. -/
def AgentTables.drifted (s : AgentTables) : List (AgentId × OrgId) :=
  s.agentRefs.filter fun ref => s.knows ref.1 && !s.holds ref.2 ref.1

/-- The agents as the revocations look them up. -/
def AgentTables.toDb (s : AgentTables) : Db := { Db.empty with agents := s.agents }

def AgentTables.atVersion (s : AgentTables) (version : Nat) : AgentTables := { s with userVersion := version }

/-- The loop of v12 with the agents that it moves. -/
def rescopeCounting (db : Db) (rows : List RevokedAgent) (T : RevokedAgents) : RevokedAgents × List AgentId :=
  rows.foldl (fun s r =>
    let orgs := db.orgsOf r.agentId
    (rescopeAgent db s.1 r,
      if orgs ≠ [] ∧ s.1.changes (RevokedAgents.staleRow r.agentId orgs) ≠ 0 then s.2 ++ [r.agentId] else s.2)) (T, [])

namespace BootDb

/-- `INSERT INTO audit_log (action, outcome, metadata_json, created_at) VALUES (?, 'success', ?, CURRENT_TIMESTAMP)`. -/
def report (env : RestoreEnv) (db : BootDb) (action : String) : BootDb :=
  { db with auditLog := db.auditLog ++ [⟨action, some "success", some env.now⟩] }

/-- `UPDATE audit_log SET outcome = 'legacy_unknown' WHERE outcome IS NULL`. -/
def markOutcomes (db : BootDb) : BootDb :=
  { db with
    auditLog := db.auditLog.map fun row =>
      if row.outcome = none then { row with outcome := some "legacy_unknown" } else row }

/-- The boot that finds rows to mark reports it. -/
def backfillOutcome (env : RestoreEnv) (db : BootDb) : BootDb :=
  if db.auditLog.any fun row => row.outcome = none then db.markOutcomes.report env "migration.audit_backfill"
  else db.markOutcomes

def resolveDanglingAgentRefs (env : RestoreEnv) (db : BootDb) : Except MigrationError BootDb :=
  match db.tables.resolveDanglingAgentRefs env.migration with
  | .error err => .error err
  | .ok tables =>
    if db.tables.danglingRefs = [] then .ok { db with tables }
    else .ok (report env { db with tables } "migration.agent_fk_recover")

/-- The `org_id` of every row of the fourteen tables that reference an organisation. -/
def orgRefs (db : BootDb) : List OrgId :=
  db.tables.agents.rows.map Agent.orgId ++ db.tables.agentRefs.map Prod.snd ++
    db.revokedAgents.rows.map RevokedAgent.orgId ++ db.otherOrgs

/-- `UPDATE … SET org_id = 'default' WHERE org_id NOT IN (SELECT id FROM orgs)`. -/
def homeOrg (db : BootDb) (org : OrgId) : OrgId := if org ∈ db.orgs then org else defaultOrg

/-- Rows of two organisations that would meet in the default one fail the statement. -/
def reparentOrphans (db : BootDb) : Option BootDb := do
  let agents ← Table.ofRows Agent.key (db.tables.agents.rows.map fun a => { a with orgId := db.homeOrg a.orgId })
  let statuses ← Table.ofRows ActivityRow.key
    (db.tables.statuses.rows.map fun r => { r with orgId := db.homeOrg r.orgId })
  let revokedAgents ← Table.ofRows RevokedAgent.key
    (db.revokedAgents.rows.map fun r => { r with orgId := db.homeOrg r.orgId })
  some { db with
    tables := { db.tables with
      agents, statuses
      threads := db.tables.threads.update (fun _ => true) (fun t => { t with orgId := db.homeOrg t.orgId }) fun _ => rfl
      messages := db.tables.messages.update (fun _ => true) (fun m => { m with orgId := db.homeOrg m.orgId }) fun _ => rfl
      summaries := db.tables.summaries.update (fun _ => true) (fun a => { a with orgId := db.homeOrg a.orgId }) fun _ => rfl
      introspections :=
        db.tables.introspections.update (fun _ => true) (fun i => { i with orgId := db.homeOrg i.orgId }) fun _ => rfl }
    revokedAgents
    otherOrgs := db.otherOrgs.map db.homeOrg }

/-- `INSERT OR IGNORE INTO orgs (id, name) VALUES ('default', …)`. -/
def withDefaultOrg (db : BootDb) : BootDb :=
  if defaultOrg ∈ db.orgs then db else { db with orgs := db.orgs ++ [defaultOrg] }

def orphans (db : BootDb) : List OrgId := db.orgRefs.filter fun org => org ∉ db.orgs

def migrateOrgsFkV9 (env : RestoreEnv) (db : BootDb) : Except MigrationError BootDb :=
  let db := db.withDefaultOrg
  let reparented :=
    if db.orphans = [] then some db
    else db.reparentOrphans.map fun db => db.report env "migration.org_fk_reparent"
  match reparented with
  | none => .error .uniqueViolation
  | some db => if db.tables.mixedForeignKeyCheck then .ok db else .error .foreignKeyViolations

/-- v11 reports the statuses it merges and the rows it re-parents. -/
def migrateAgentIdPerOrgV11 (env : RestoreEnv) (db : BootDb) : Except MigrationError BootDb :=
  match Coordinator.migrateAgentIdPerOrgV11 env.migration (db.tables.atVersion 10) with
  | (_, some err) => .error err
  | (tables, none) =>
    if (db.tables.statuses.rows.any db.tables.loses) ∨ db.tables.mergeStatuses.drifted ≠ [] then
      .ok (report env { db with tables } "migration.agent_fk_reparent")
    else .ok { db with tables }

def migrateRevokedAgentsPerOrgV12 (env : RestoreEnv) (db : BootDb) : BootDb :=
  let moved := rescopeCounting db.tables.toDb (RevokedAgents.earliest db.revokedAgents.listed) db.revokedAgents
  let after := { db with revokedAgents := moved.1 }
  if moved.2 = [] then after else after.report env "migration.revoked_agents_rescope"

/-- The steps that may insert into `audit_log`. `user_version` is set back to 8
before them, so that each of them runs at every boot. -/
def openAndMigrate (env : RestoreEnv) (db : BootDb) : Except MigrationError BootDb :=
  match (db.backfillOutcome env).resolveDanglingAgentRefs env with
  | .error err => .error err
  | .ok db =>
    match db.migrateOrgsFkV9 env with
    | .error err => .error err
    | .ok db =>
      match db.migrateAgentIdPerOrgV11 env with
      | .error err => .error err
      | .ok db => .ok (db.migrateRevokedAgentsPerOrgV12 env)

def epochs (db : BootDb) : List Int := db.auditLog.filterMap AuditStamp.epoch

/-- `SELECT MAX(strftime('%s', created_at)) FROM audit_log`: the values are TEXT,
and NULL is passed over. -/
def maxEpoch (db : BootDb) : Option Int := db.epochs.argmax fun epoch => toString epoch

end BootDb

def restoreDetectionStaleThresholdS : Int := 300

/-- The `BootValidationError` of the check. -/
structure RestoreValidationError where
  message : String
  deriving DecidableEq, Repr

/-- What the check lets the boot do. -/
inductive RestoreVerdict where
  | fresh
  | healthy
  | recover (staleSeconds : Int)
  deriving DecidableEq, Repr

def restoreSuspected (staleSeconds : Int) : RestoreValidationError :=
  ⟨"Restore suspected: audit_log timestamps lag wall-clock by " ++ toString staleSeconds ++ "s (threshold: " ++
    toString restoreDetectionStaleThresholdS ++ "s). Set COORDINATOR_ALLOW_RESTORE=true after verifying this is a " ++
    "deliberate restore, then unset after boot."⟩

def performRestoreCheck (env : RestoreEnv) (db : BootDb) : Except RestoreValidationError RestoreVerdict :=
  match db.maxEpoch with
  | none => .ok .fresh
  | some maxEpoch =>
    let staleSeconds := env.now - maxEpoch
    if staleSeconds ≤ restoreDetectionStaleThresholdS then .ok .healthy
    else if env.allowRestore ≠ some "true" then .error (restoreSuspected staleSeconds)
    else .ok (.recover staleSeconds)

/-- The newest row of the audit log is more than five minutes old. -/
structure BootDb.Restored (env : RestoreEnv) (db : BootDb) : Prop where
  nonempty : db.epochs ≠ []
  old : ∀ epoch ∈ db.epochs, epoch + restoreDetectionStaleThresholdS < env.now

/-- None of the migrations finds anything to report. -/
structure BootDb.Quiet (db : BootDb) : Prop where
  outcomes : ∀ row ∈ db.auditLog, row.outcome ≠ none
  agents : db.tables.danglingRefs = []
  orgs : ∀ org ∈ db.orgRefs, org ∈ db.orgs ∨ org = defaultOrg
  statuses : ∀ r ∈ db.tables.statuses.rows, ¬ db.tables.loses r
  drifted : db.tables.drifted = []
  revocations : ∀ r ∈ db.revokedAgents.rows,
    db.tables.toDb.orgsOf r.agentId = [] ∨ r.orgId ∈ db.tables.toDb.orgsOf r.agentId

/-- A step of the boot appends rows stamped with the current time, and none exactly when it is quiet. -/
def StampsNow (env : RestoreEnv) (before after : BootDb) (quiet : Prop) : Prop :=
  ∃ n, after.epochs = before.epochs ++ List.replicate n env.now ∧ (n = 0 ↔ quiet)

section
variable {env : RestoreEnv} {db mid after : BootDb} {p q : Prop}

theorem StampsNow.congr (appends : StampsNow env db after p) (same : p ↔ q) : StampsNow env db after q := by
  obtain ⟨n, epochs, quiet⟩ := appends
  exact ⟨n, epochs, quiet.trans same⟩

theorem StampsNow.none (same : after.epochs = db.epochs) (quiet : p) : StampsNow env db after p :=
  ⟨0, by rw [same, List.replicate_zero, List.append_nil], iff_of_true rfl quiet⟩

theorem StampsNow.report (mid : BootDb) (same : mid.epochs = db.epochs) (action : String) (loud : ¬ p) :
    StampsNow env db (mid.report env action) p := by
  refine ⟨1, ?_, iff_of_false Nat.one_ne_zero loud⟩
  rw [← same]
  simp [BootDb.epochs, BootDb.report]

/-- Two steps, where the second is asked about what a quiet first step leaves. -/
theorem StampsNow.trans (first : StampsNow env db mid p) (second : StampsNow env mid after q) :
    StampsNow env db after (p ∧ q) := by
  obtain ⟨m, epochs, quiet⟩ := first
  obtain ⟨n, epochs', quiet'⟩ := second
  refine ⟨m + n, ?_, ?_⟩
  · rw [epochs', epochs, List.append_assoc, List.replicate_append_replicate]
  · rw [Nat.add_eq_zero_iff, quiet, quiet']

theorem BootDb.markOutcomes_epochs (db : BootDb) : db.markOutcomes.epochs = db.epochs := by
  simp only [markOutcomes, epochs, List.filterMap_map]
  congr 1
  funext row
  simp only [Function.comp_apply]
  split <;> rfl

theorem BootDb.backfillOutcome_appends (env : RestoreEnv) (db : BootDb) :
    StampsNow env db (db.backfillOutcome env) (∀ row ∈ db.auditLog, row.outcome ≠ none) := by
  unfold backfillOutcome
  split
  · rename_i found
    refine .report db.markOutcomes db.markOutcomes_epochs _ ?_
    intro outcomes
    obtain ⟨row, member, missing⟩ := List.any_eq_true.mp found
    exact outcomes row member (of_decide_eq_true missing)
  · rename_i found
    refine .none db.markOutcomes_epochs ?_
    intro row member missing
    exact found (List.any_eq_true.mpr ⟨row, member, decide_eq_true missing⟩)

theorem BootDb.backfillOutcome_rest (env : RestoreEnv) (db : BootDb) :
    (db.backfillOutcome env).tables = db.tables ∧ (db.backfillOutcome env).orgs = db.orgs ∧
      (db.backfillOutcome env).orgRefs = db.orgRefs ∧ (db.backfillOutcome env).revokedAgents = db.revokedAgents := by
  unfold backfillOutcome
  split <;> exact ⟨rfl, rfl, rfl, rfl⟩

theorem BootDb.resolveDanglingAgentRefs_appends (done : db.resolveDanglingAgentRefs env = .ok after) :
    StampsNow env db after (db.tables.danglingRefs = []) ∧ (db.tables.danglingRefs = [] → after = db) := by
  unfold resolveDanglingAgentRefs at done
  split at done
  · cases done
  · rename_i tables resolved
    split at done
    · rename_i quiet
      obtain rfl := Except.ok.inj done
      refine ⟨.none rfl quiet, fun _ => ?_⟩
      rw [AgentTables.resolveDanglingAgentRefs, if_pos quiet] at resolved
      rw [← Except.ok.inj resolved]
    · rename_i loud
      obtain rfl := Except.ok.inj done
      exact ⟨.report { db with tables } rfl _ loud, fun quiet => absurd quiet loud⟩

theorem BootDb.withDefaultOrg_rest (db : BootDb) :
    db.withDefaultOrg.auditLog = db.auditLog ∧ db.withDefaultOrg.tables = db.tables ∧
      db.withDefaultOrg.revokedAgents = db.revokedAgents ∧ db.withDefaultOrg.orgRefs = db.orgRefs := by
  unfold withDefaultOrg
  split <;> exact ⟨rfl, rfl, rfl, rfl⟩

theorem BootDb.orphans_withDefaultOrg :
    db.withDefaultOrg.orphans = [] ↔ ∀ org ∈ db.orgRefs, org ∈ db.orgs ∨ org = defaultOrg := by
  have known : ∀ org, org ∈ db.withDefaultOrg.orgs ↔ org ∈ db.orgs ∨ org = defaultOrg := by
    intro org
    unfold withDefaultOrg
    split
    · rename_i held
      constructor
      · exact .inl
      · rintro (member | rfl)
        · exact member
        · exact held
    · simp
  simp only [orphans, db.withDefaultOrg_rest.2.2.2, List.filter_eq_nil_iff, decide_eq_true_eq, not_not, known]

theorem BootDb.reparentOrphans_auditLog (done : db.reparentOrphans = some after) : after.auditLog = db.auditLog := by
  simp only [reparentOrphans, Option.bind_eq_bind, Option.bind_eq_some_iff] at done
  obtain ⟨agents, -, statuses, -, revokedAgents, -, same⟩ := done
  rw [← Option.some.inj same]

theorem BootDb.migrateOrgsFkV9_appends (done : db.migrateOrgsFkV9 env = .ok after) :
    StampsNow env db after (∀ org ∈ db.orgRefs, org ∈ db.orgs ∨ org = defaultOrg) ∧
      ((∀ org ∈ db.orgRefs, org ∈ db.orgs ∨ org = defaultOrg) →
        after.tables = db.tables ∧ after.revokedAgents = db.revokedAgents) := by
  obtain ⟨auditLog, tables, revokedAgents, -⟩ := db.withDefaultOrg_rest
  rw [← orphans_withDefaultOrg]
  simp only [migrateOrgsFkV9] at done
  split at done
  · cases done
  · rename_i reparented
    split at done
    · obtain rfl := Except.ok.inj done
      split at reparented
      · rename_i quiet
        obtain rfl := Option.some.inj reparented
        exact ⟨.none (by rw [epochs, auditLog, epochs]) quiet, fun _ => ⟨tables, revokedAgents⟩⟩
      · rename_i loud
        obtain ⟨moved, moving, rfl⟩ := Option.map_eq_some_iff.mp reparented
        refine ⟨.report moved ?_ _ loud, fun quiet => absurd quiet loud⟩
        rw [epochs, reparentOrphans_auditLog moving, auditLog, epochs]
    · cases done

theorem AgentTables.mergeStatuses_of_unique {s : AgentTables} (unique : ∀ r ∈ s.statuses.rows, ¬ s.loses r) :
    s.mergeStatuses = s := by
  have kept : s.statuses.delete s.loses = s.statuses := by
    have rows : s.statuses.rows.filter (fun r => !s.loses r) = s.statuses.rows := by
      refine List.filter_eq_self.mpr ?_
      intro r member
      simpa using unique r member
    cases statuses : s.statuses
    rw [statuses] at rows
    simpa only [Table.delete, Table.mk.injEq] using rows
  rw [mergeStatuses, kept]

/-- The migration re-parents rows but leaves the agents alone. -/
theorem AgentTables.perOrg_agents {s migrated : AgentTables} (committed : s.perOrg = .ok migrated) :
    migrated.agents = s.agents := by
  simp only [perOrg] at committed
  split at committed
  · cases committed
  · rename_i statuses _
    split at committed
    · obtain ⟨composite, copied⟩ := foldl_copyTable specs (s.mergeStatuses.reparent statuses)
      rw [← Except.ok.inj committed, copied]
      rfl
    · cases committed

theorem migrateAgentIdPerOrgV11_agents {menv : MigrationEnv} {s migrated : AgentTables} (resolved : s.danglingRefs = [])
    (committed : Coordinator.migrateAgentIdPerOrgV11 menv s = (migrated, none)) : migrated.agents = s.agents := by
  have quiet : s.resolveDanglingAgentRefs menv = .ok s := if_pos resolved
  unfold Coordinator.migrateAgentIdPerOrgV11 at committed
  split at committed
  · rw [(Prod.mk.inj committed).1]
  · rw [quiet] at committed
    simp only at committed
    split at committed
    · cases committed
    · rename_i done
      rw [← (Prod.mk.inj committed).1]
      exact AgentTables.perOrg_agents done

theorem BootDb.migrateAgentIdPerOrgV11_appends (done : db.migrateAgentIdPerOrgV11 env = .ok after) :
    StampsNow env db after ((∀ r ∈ db.tables.statuses.rows, ¬ db.tables.loses r) ∧ db.tables.drifted = []) ∧
      after.revokedAgents = db.revokedAgents ∧ (db.tables.danglingRefs = [] → after.tables.agents = db.tables.agents) := by
  have quiet_iff : (∀ r ∈ db.tables.statuses.rows, ¬ db.tables.loses r) ∧ db.tables.drifted = [] ↔
      ¬ ((db.tables.statuses.rows.any db.tables.loses) ∨ db.tables.mergeStatuses.drifted ≠ []) := by
    rw [not_or, not_not, Bool.not_eq_true, List.any_eq_false]
    constructor
    · rintro ⟨unique, drifted⟩
      exact ⟨unique, by rw [AgentTables.mergeStatuses_of_unique unique, drifted]⟩
    · rintro ⟨unique, drifted⟩
      rw [AgentTables.mergeStatuses_of_unique unique] at drifted
      exact ⟨unique, drifted⟩
  unfold migrateAgentIdPerOrgV11 at done
  split at done
  · cases done
  · rename_i tables committed
    have agents : db.tables.danglingRefs = [] → tables.agents = db.tables.agents := by
      intro resolved
      have rewound : (db.tables.atVersion 10).danglingRefs = [] := resolved
      have kept : tables.agents = (db.tables.atVersion 10).agents := migrateAgentIdPerOrgV11_agents rewound committed
      exact kept
    split at done
    · rename_i loud
      obtain rfl := Except.ok.inj done
      exact ⟨.report { db with tables } rfl _ fun quiet => quiet_iff.mp quiet loud, rfl, agents⟩
    · rename_i quiet
      obtain rfl := Except.ok.inj done
      exact ⟨.none rfl (quiet_iff.mpr quiet), rfl, agents⟩

/-- An agent is moved exactly when it is stale at the start: a round for another agent leaves its rows alone. -/
theorem rescopeCounting_quiet {adb : Db} {rows : List RevokedAgent} {T : RevokedAgents} :
    (rescopeCounting adb rows T).2 = [] ↔ ∀ r ∈ rows, ¬ RevokedAgents.Stale adb T r.agentId := by
  have stale_iff : ∀ (U : RevokedAgents) (r : RevokedAgent), adb.orgsOf r.agentId ≠ [] ∧
      U.changes (RevokedAgents.staleRow r.agentId (adb.orgsOf r.agentId)) ≠ 0 ↔ RevokedAgents.Stale adb U r.agentId :=
    fun U r => and_congr_right fun _ => RevokedAgents.changes_staleRow
  let round (s : RevokedAgents × List AgentId) (r : RevokedAgent) : RevokedAgents × List AgentId :=
    (rescopeAgent adb s.1 r, if adb.orgsOf r.agentId ≠ [] ∧
      s.1.changes (RevokedAgents.staleRow r.agentId (adb.orgsOf r.agentId)) ≠ 0 then s.2 ++ [r.agentId] else s.2)
  have grows : ∀ (rest : List RevokedAgent) (s : RevokedAgents × List AgentId), s.2 <+: (rest.foldl round s).2 := by
    intro rest
    induction rest with
    | nil => exact fun s => List.prefix_refl _
    | cons r rest ih =>
      intro s
      refine List.IsPrefix.trans ?_ (ih (round s r))
      simp only [round]
      split
      · exact List.prefix_append _ _
      · exact List.prefix_refl _
  change (rows.foldl round (T, [])).2 = [] ↔ _
  induction rows with
  | nil => simp
  | cons r rest ih =>
    rw [List.foldl_cons]
    by_cases stale : RevokedAgents.Stale adb T r.agentId
    · refine iff_of_false ?_ fun fresh => fresh r List.mem_cons_self stale
      intro none
      have moved : r.agentId ∈ (round (T, []) r).2 := by
        simp only [round, if_pos ((stale_iff T r).mpr stale)]
        simp
      have kept := (grows rest (round (T, []) r)).subset moved
      rw [none] at kept
      cases kept
    · have still : round (T, []) r = (T, []) := by
        simp only [round, if_neg fun moves => stale ((stale_iff T r).mp moves)]
        rw [RevokedAgents.rescopeAgent_of_not_stale stale]
      rw [still, ih, List.forall_mem_cons, and_iff_right stale]

theorem BootDb.migrateRevokedAgentsPerOrgV12_appends (env : RestoreEnv) (db : BootDb) :
    StampsNow env db (db.migrateRevokedAgentsPerOrgV12 env) (∀ r ∈ db.revokedAgents.rows,
      db.tables.toDb.orgsOf r.agentId = [] ∨ r.orgId ∈ db.tables.toDb.orgsOf r.agentId) := by
  have quiet_iff : (rescopeCounting db.tables.toDb (RevokedAgents.earliest db.revokedAgents.listed)
      db.revokedAgents).2 = [] ↔ ∀ r ∈ db.revokedAgents.rows,
        db.tables.toDb.orgsOf r.agentId = [] ∨ r.orgId ∈ db.tables.toDb.orgsOf r.agentId := by
    rw [rescopeCounting_quiet]
    constructor
    · intro fresh r member
      by_contra stale
      obtain ⟨held, outside⟩ := not_or.mp stale
      have listed : r.agentId ∈ (RevokedAgents.earliest db.revokedAgents.listed).map RevokedAgent.agentId :=
        ((RevokedAgents.earliest_agents _).2 _).mpr (List.mem_map_of_mem (List.mem_mergeSort.mpr member))
      obtain ⟨first, among, same⟩ := List.mem_map.mp listed
      refine fresh first among ?_
      rw [same]
      exact ⟨held, r.orgId, RevokedAgents.isRevoked_iff.mpr ⟨r, member, rfl, rfl⟩, outside⟩
    · rintro settled first - ⟨held, org, revoked, outside⟩
      obtain ⟨r, member, rfl, same⟩ := RevokedAgents.isRevoked_iff.mp revoked
      rw [← same] at held outside
      rcases settled r member with absent | inside
      · exact held absent
      · exact outside inside
  unfold migrateRevokedAgentsPerOrgV12
  simp only
  split
  · rename_i quiet
    exact .none rfl (quiet_iff.mp quiet)
  · rename_i loud
    exact .report _ rfl _ fun quiet => loud (quiet_iff.mpr quiet)

/-- A boot appends rows stamped with the current time to the audit log, and none
exactly when no migration has anything to report. -/
theorem BootDb.openAndMigrate_appends (opened : db.openAndMigrate env = .ok after) :
    StampsNow env db after db.Quiet := by
  unfold openAndMigrate at opened
  split at opened
  · cases opened
  rename_i resolved resolving
  split at opened
  · cases opened
  rename_i owned owning
  split at opened
  · cases opened
  rename_i perOrg scoping
  obtain rfl := Except.ok.inj opened
  obtain ⟨tables, orgs, orgRefs, revokedAgents⟩ := db.backfillOutcome_rest env
  obtain ⟨first, same⟩ := resolveDanglingAgentRefs_appends resolving
  obtain ⟨second, untouched⟩ := migrateOrgsFkV9_appends owning
  obtain ⟨third, revocations, agents⟩ := migrateAgentIdPerOrgV11_appends scoping
  have whole := (db.backfillOutcome_appends env).trans
    (first.trans (second.trans (third.trans (perOrg.migrateRevokedAgentsPerOrgV12_appends env))))
  refine whole.congr ?_
  rw [tables]
  -- each step is asked about the tables it meets; after quiet steps these are the ones the boot found
  constructor
  · rintro ⟨outcomes, dangling, homes, ⟨unique, drifted⟩, settled⟩
    obtain rfl := same (by rw [tables, dangling])
    rw [orgRefs, orgs] at homes
    obtain ⟨tables', revokedAgents'⟩ := untouched (by rw [orgRefs, orgs]; exact homes)
    rw [tables', tables] at unique drifted
    have agents' := agents (by rw [tables', tables, dangling])
    rw [tables', tables] at agents'
    rw [revocations, revokedAgents', revokedAgents] at settled
    have sameAgents : perOrg.tables.toDb = db.tables.toDb := by rw [AgentTables.toDb, agents', AgentTables.toDb]
    rw [sameAgents] at settled
    exact ⟨outcomes, dangling, homes, unique, drifted, settled⟩
  · rintro ⟨outcomes, dangling, homes, unique, drifted, settled⟩
    obtain rfl := same (by rw [tables, dangling])
    obtain ⟨tables', revokedAgents'⟩ := untouched (by rw [orgRefs, orgs]; exact homes)
    have agents' := agents (by rw [tables', tables, dangling])
    rw [tables', tables] at agents'
    have sameAgents : perOrg.tables.toDb = db.tables.toDb := by rw [AgentTables.toDb, agents', AgentTables.toDb]
    rw [orgRefs, orgs, tables', tables, revocations, revokedAgents', revokedAgents, sameAgents]
    exact ⟨outcomes, dangling, homes, ⟨unique, drifted⟩, settled⟩

theorem performRestoreCheck_error_iff (unset : env.allowRestore = none) :
    (∃ err, performRestoreCheck env db = .error err) ↔
      ∃ epoch, db.maxEpoch = some epoch ∧ epoch + restoreDetectionStaleThresholdS < env.now := by
  unfold performRestoreCheck
  split
  · rename_i none
    simp [none]
  · rename_i maxEpoch found
    rw [found]
    simp only [Option.some.injEq, exists_eq_left']
    split
    · refine iff_of_false (by simp) ?_
      omega
    · refine iff_of_true ?_ (by omega)
      simp [unset]

/-- A boot that opens a restored backup notices it exactly when no migration
reported anything, or some old row sorts after the current time as text. -/
theorem restore_noticed_iff (env : RestoreEnv) (db after : BootDb) (restored : db.Restored env)
    (unset : env.allowRestore = none) (opened : db.openAndMigrate env = .ok after) :
    (∃ err, performRestoreCheck env after = .error err) ↔
      db.Quiet ∨ ∃ epoch ∈ db.epochs, toString env.now < toString epoch := by
  obtain ⟨n, epochs, quiet⟩ := BootDb.openAndMigrate_appends opened
  have listed : ∀ epoch, epoch ∈ after.epochs ↔ epoch ∈ db.epochs ∨ n ≠ 0 ∧ epoch = env.now := by
    intro epoch
    rw [epochs, List.mem_append, List.mem_replicate]
  rw [performRestoreCheck_error_iff unset, ← quiet]
  constructor
  · rintro ⟨epoch, newest, old⟩
    by_contra covered
    obtain ⟨loud, below⟩ := not_or.mp covered
    have above := List.le_of_mem_argmax ((listed env.now).mpr (.inr ⟨loud, rfl⟩)) newest
    rcases (listed epoch).mp (List.argmax_mem newest) with before | ⟨-, rfl⟩
    · rcases lt_or_eq_of_le above with later | same
      · exact below ⟨epoch, before, later⟩
      · have now := DecimalText.toString_inj same
        simp only [restoreDetectionStaleThresholdS] at old
        omega
    · simp only [restoreDetectionStaleThresholdS] at old
      omega
  · intro noticed
    have nonempty : after.epochs ≠ [] := by
      rw [epochs]
      exact List.append_ne_nil_of_left_ne_nil restored.nonempty _
    cases newest : after.maxEpoch with
    | none => exact absurd (List.argmax_eq_none.mp newest) nonempty
    | some epoch =>
      refine ⟨epoch, rfl, ?_⟩
      rcases (listed epoch).mp (List.argmax_mem newest) with before | ⟨loud, rfl⟩
      · exact restored.old epoch before
      · rcases noticed with none | ⟨hidden, before, later⟩
        · exact absurd none loud
        · exact absurd later (List.not_lt_of_mem_argmax ((listed hidden).mpr (.inl before)) newest)

end

/-- The two builders of different organisations, and one audit row of an hour ago. -/
def restoredBuilders : BootDb where
  auditLog := [⟨"auth.login.success", some "success", some 1700000000⟩]
  orgs := [defaultOrg, "acme", "globex"]
  tables := MigratedDb.twoBuilders.tables
  revokedAgents := .empty
  otherOrgs := []

def anHourLater : RestoreEnv := ⟨⟨.sqlite 1700003600, false, compare⟩, none⟩

theorem restoredBuilders_restored : restoredBuilders.Restored anHourLater := ⟨by decide, by decide⟩

theorem restoredBuilders_opens : ∃ after, restoredBuilders.openAndMigrate anHourLater = .ok after := by
  cases opened : restoredBuilders.openAndMigrate anHourLater with
  | ok after => exact ⟨after, rfl⟩
  | error err =>
    have opens : (restoredBuilders.openAndMigrate anHourLater).isOk = true := by decide +kernel
    rw [opened] at opens
    cases opens

theorem restore_noticed_builders : ∃ after, restoredBuilders.openAndMigrate anHourLater = .ok after ∧
    ((∃ err, performRestoreCheck anHourLater after = .error err) ↔
      restoredBuilders.Quiet ∨ ∃ epoch ∈ restoredBuilders.epochs, toString anHourLater.now < toString epoch) := by
  obtain ⟨after, opened⟩ := restoredBuilders_opens
  exact ⟨after, opened, restore_noticed_iff anHourLater restoredBuilders after restoredBuilders_restored rfl opened⟩

/-- The merge of the two statuses stamps a row with the current time, and the check finds it. -/
theorem not_restore_noticed : ¬ ∀ (env : RestoreEnv) (db after : BootDb), db.Restored env → env.allowRestore = none →
    db.openAndMigrate env = .ok after → ∃ err, performRestoreCheck env after = .error err := by
  intro claim
  obtain ⟨after, opened⟩ := restoredBuilders_opens
  obtain ⟨err, noticed⟩ := claim anHourLater restoredBuilders after restoredBuilders_restored rfl opened
  have passes : (restoredBuilders.openAndMigrate anHourLater).toOption.map
      (fun after => (performRestoreCheck anHourLater after).isOk) = some true := by decide +kernel
  rw [opened] at passes
  have passed : (performRestoreCheck anHourLater after).isOk = true := Option.some.inj passes
  rw [noticed] at passed
  cases passed

end Coordinator
