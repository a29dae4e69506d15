import Coordinator.AgentActivity
import Mathlib.Data.String.Basic

namespace Coordinator

structure ActionSummary where
  id : String
  orgId : OrgId
  sessionId : String
  agentId : AgentId
  filePath : Option FilePath
  summary : String
  createdAt : Stamp
  deriving DecidableEq, Repr

/-- A row of `agent_activity_status`, as a migration meets it: any text may stand for the time. -/
structure ActivityRow where
  agentId : AgentId
  orgId : OrgId
  activityStatus : Option String
  currentFile : Option FilePath
  currentThread : Option ThreadId
  lastActivityAt : Option String
  deriving DecidableEq, Repr

def ActivityRow.key (r : ActivityRow) : OrgId × AgentId := (r.orgId, r.agentId)

/-- `COALESCE(last_activity_at, '')`. -/
def ActivityRow.activity (r : ActivityRow) : String := r.lastActivityAt.getD ""

inductive AgentRefTable
  | threads
  | threadMessages
  | actionSummaries
  | introspections
  | agentActivityStatus
  deriving DecidableEq, Repr

/-- `agents` and the five tables that reference it. -/
structure AgentTables where
  agents : Table Agent Agent.key
  threads : Table Thread Thread.id
  messages : Table ThreadMessage ThreadMessage.id
  summaries : Table ActionSummary ActionSummary.id
  introspections : Table IntrospectionRecord IntrospectionRecord.id
  statuses : Table ActivityRow ActivityRow.key
  /-- The tables whose foreign key is the composite one. -/
  composite : List AgentRefTable
  idxAgentsId : Bool
  userVersion : Nat

inductive MigrationError
  | danglingAgentRefs
  | uniqueViolation
  | foreignKeyViolations
  deriving DecidableEq, Repr

/-- What a boot takes from outside: the clock, `COORDINATOR_ALLOW_MIGRATION_REPAIR` and the collation of the host. -/
structure MigrationEnv where
  now : Stamp
  canRepairMigrationOrphans : Bool
  localeCompare : String → String → Ordering

namespace AgentTables

/-- The agent and the organisation that each row of the five tables names. -/
def agentRefs (s : AgentTables) : List (AgentId × OrgId) :=
  s.threads.rows.map (fun t => (t.initiatorId, t.orgId)) ++ s.messages.rows.map (fun m => (m.agentId, m.orgId)) ++
    s.summaries.rows.map (fun a => (a.agentId, a.orgId)) ++ s.introspections.rows.map (fun i => (i.agentId, i.orgId)) ++
    s.statuses.rows.map (fun r => (r.agentId, r.orgId))

def knows (s : AgentTables) (agentId : AgentId) : Bool := s.agents.rows.any fun a => a.id = agentId

def holds (s : AgentTables) (orgId : OrgId) (agentId : AgentId) : Bool := (s.agents.find (orgId, agentId)).isSome

def danglingRefs (s : AgentTables) : List (AgentId × OrgId) := s.agentRefs.filter fun ref => !s.knows ref.1

/-- The org that most of the rows carry, then the lowest. -/
def recoveredOrg (env : MigrationEnv) (orgs : List OrgId) : OrgId :=
  let votes := orgs.dedup.map fun org => (org, orgs.count org)
  let best := votes.mergeSort fun a b => b.2 < a.2 || (a.2 = b.2 && env.localeCompare a.1 b.1 ≠ .gt)
  (best.head?.map Prod.fst).getD defaultOrg

def recoveredAgent (env : MigrationEnv) (refs : List (AgentId × OrgId)) (id : AgentId) : Agent where
  id := id
  orgId := recoveredOrg env ((refs.filter fun ref => ref.1 = id).map Prod.snd)
  name := id ++ " (recovered by migration v11)"
  modules := .array []
  status := .offline
  registeredAt := env.now
  lastSeenAt := env.now

def resolveDanglingAgentRefs (env : MigrationEnv) (s : AgentTables) : Except MigrationError AgentTables :=
  let refs := s.danglingRefs
  if refs = [] then .ok s
  else if !env.canRepairMigrationOrphans then .error .danglingAgentRefs
  else
    let ids := (refs.map Prod.fst).dedup.mergeSort fun a b => env.localeCompare a b ≠ .gt
    .ok { s with
      agents := ids.foldl (fun agents id => (agents.insert (recoveredAgent env refs id)).getD agents) s.agents }

/-- `keeper` comes before `loser`, seen from the row `a` of their agent. -/
def outranks (a : Agent) (keeper loser : ActivityRow) : Bool :=
  keeper.agentId = loser.agentId && keeper.orgId ≠ loser.orgId &&
    (loser.activity < keeper.activity ||
      keeper.activity = loser.activity &&
        (keeper.orgId = a.orgId && loser.orgId ≠ a.orgId ||
          decide (keeper.orgId = a.orgId) = decide (loser.orgId = a.orgId) && keeper.orgId < loser.orgId))

/-- `loserWhere`. -/
def loses (s : AgentTables) (loser : ActivityRow) : Bool :=
  s.knows loser.agentId &&
    s.statuses.rows.any fun keeper => s.agents.rows.any fun a => a.id = loser.agentId && outranks a keeper loser

def mergeStatuses (s : AgentTables) : AgentTables := { s with statuses := s.statuses.delete s.loses }

/-- The org that the re-parenting `UPDATE` gives a row: the agent's, unless the agent is in the row's own. -/
def parentOrg (s : AgentTables) (agentId : AgentId) (orgId : OrgId) : OrgId :=
  if s.holds orgId agentId then orgId
  else ((s.agents.rows.find? fun a => a.id = agentId).map Agent.orgId).getD orgId

/-- Row after row; a row that would land on another one fails the statement. -/
def reparentStatuses (s : AgentTables) : List ActivityRow → List ActivityRow → Option (List ActivityRow)
  | done, [] => some done
  | done, r :: rest =>
    let moved := { r with orgId := s.parentOrg r.agentId r.orgId }
    if moved.key ∈ (done ++ rest).map ActivityRow.key then none else s.reparentStatuses (done ++ [moved]) rest

/-- The `UPDATE` of the other four tables, whose key is a plain id. -/
def reparent (s : AgentTables) (statuses : Table ActivityRow ActivityRow.key) : AgentTables :=
  { s with
    threads :=
      s.threads.update (fun _ => true) (fun t => { t with orgId := s.parentOrg t.initiatorId t.orgId }) fun _ => rfl
    messages :=
      s.messages.update (fun _ => true) (fun m => { m with orgId := s.parentOrg m.agentId m.orgId }) fun _ => rfl
    summaries :=
      s.summaries.update (fun _ => true) (fun a => { a with orgId := s.parentOrg a.agentId a.orgId }) fun _ => rfl
    introspections :=
      s.introspections.update (fun _ => true) (fun i => { i with orgId := s.parentOrg i.agentId i.orgId }) fun _ => rfl
    statuses := statuses }

def specs : List AgentRefTable :=
  [.threads, .threadMessages, .actionSummaries, .introspections, .agentActivityStatus]

/-- The table copy carries every row over; a table with the composite key is skipped. -/
def copyTable (s : AgentTables) (table : AgentRefTable) : AgentTables :=
  if table ∈ s.composite then s else { s with composite := s.composite ++ [table] }

def foreignKeyCheck (s : AgentTables) : Bool := s.agentRefs.all fun ref => s.holds ref.2 ref.1

/-- The transaction of the migration; an error rolls it back. -/
def perOrg (s : AgentTables) : Except MigrationError AgentTables :=
  let merged := s.mergeStatuses
  match (merged.reparentStatuses [] merged.statuses.rows).bind (Table.ofRows ActivityRow.key) with
  | none => .error .uniqueViolation
  | some statuses =>
    let copied := { specs.foldl copyTable (merged.reparent statuses) with idxAgentsId := false }
    if copied.foreignKeyCheck then .ok { copied with userVersion := 11 } else .error .foreignKeyViolations

end AgentTables

/-- The tables as the call leaves them, and what it throws. -/
def migrateAgentIdPerOrgV11 (env : MigrationEnv) (s : AgentTables) : AgentTables × Option MigrationError :=
  if 11 ≤ s.userVersion then (s, none)
  else
    match s.resolveDanglingAgentRefs env with
    | .error err => (s, some err)
    | .ok resolved =>
      match resolved.perOrg with
      | .error err => (resolved, some err)
      | .ok migrated => (migrated, none)

/-- The tables with every composite foreign key satisfied, as the migration leaves
them and as the database has kept them since. -/
structure MigratedDb where
  tables : AgentTables
  references : tables.foreignKeyCheck

/-- No row of the five tables is deleted, and none changes its organisation. -/
structure KeepsRows (s s' : AgentTables) : Prop where
  threads : ∀ t ∈ s.threads.rows, t ∈ s'.threads.rows
  messages : ∀ m ∈ s.messages.rows, m ∈ s'.messages.rows
  summaries : ∀ a ∈ s.summaries.rows, a ∈ s'.summaries.rows
  introspections : ∀ i ∈ s.introspections.rows, i ∈ s'.introspections.rows
  statuses : ∀ r ∈ s.statuses.rows, r ∈ s'.statuses.rows

/-- No agent id has a status in two organisations. -/
def OneStatusPerId (s : AgentTables) : Prop :=
  ∀ r ∈ s.statuses.rows, ∀ r' ∈ s.statuses.rows, r.agentId = r'.agentId → r.orgId = r'.orgId

namespace AgentTables
variable {s : AgentTables} {orgId : OrgId} {agentId : AgentId}

theorem holds_iff : s.holds orgId agentId ↔ ∃ a ∈ s.agents.rows, a.orgId = orgId ∧ a.id = agentId := by
  rw [holds, Option.isSome_iff_exists]
  constructor
  · intro ⟨a, found⟩
    obtain ⟨member, atKey⟩ := Table.find_eq_some.mp found
    obtain ⟨sameOrg, sameId⟩ := Prod.mk.inj atKey
    exact ⟨a, member, sameOrg, sameId⟩
  · rintro ⟨a, member, rfl, rfl⟩
    exact ⟨a, Table.find_self member⟩

theorem knows_of_holds (held : s.holds orgId agentId) : s.knows agentId := by
  obtain ⟨a, member, -, same⟩ := holds_iff.mp held
  exact List.any_eq_true.mpr ⟨a, member, decide_eq_true same⟩

theorem parentOrg_of_holds (held : s.holds orgId agentId) : s.parentOrg agentId orgId = orgId := if_pos held

theorem foreignKeyCheck_iff : s.foreignKeyCheck ↔ ∀ ref ∈ s.agentRefs, s.holds ref.2 ref.1 := List.all_eq_true

theorem resolveDanglingAgentRefs_of_references (env : MigrationEnv) (references : s.foreignKeyCheck) :
    s.resolveDanglingAgentRefs env = .ok s := by
  have none : s.danglingRefs = [] := by
    refine List.filter_eq_nil_iff.mpr ?_
    intro ref member
    simp [knows_of_holds (foreignKeyCheck_iff.mp references ref member)]
  simp [resolveDanglingAgentRefs, none]

/-- Rows that stand in their agent's organisation all stay where they are. -/
theorem reparentStatuses_of_holds (done rest : List ActivityRow) (keyed : ((done ++ rest).map ActivityRow.key).Nodup)
    (held : ∀ r ∈ rest, s.holds r.orgId r.agentId) : s.reparentStatuses done rest = some (done ++ rest) := by
  induction rest generalizing done with
  | nil => simp [reparentStatuses]
  | cons r rest ih =>
    have stays : { r with orgId := s.parentOrg r.agentId r.orgId } = r := by
      rw [parentOrg_of_holds (held r List.mem_cons_self)]
    have apart : r.key ∉ (done ++ rest).map ActivityRow.key := by
      rw [List.map_append, List.map_cons, List.nodup_middle, List.nodup_cons, ← List.map_append] at keyed
      exact keyed.1
    rw [reparentStatuses, stays, if_neg apart, ih (done ++ [r])]
    · simp
    · simpa using keyed
    · exact fun r' member => held r' (List.mem_cons_of_mem r member)

theorem foldl_copyTable (tables : List AgentRefTable) (s : AgentTables) :
    ∃ composite, tables.foldl copyTable s = { s with composite := composite } := by
  induction tables generalizing s with
  | nil => exact ⟨s.composite, rfl⟩
  | cons table rest ih =>
    obtain ⟨composite, copied⟩ := ih (s.copyTable table)
    refine ⟨composite, ?_⟩
    rw [List.foldl_cons, copied]
    unfold copyTable
    split <;> rfl

theorem mem_agentRefs {ref : AgentId × OrgId} :
    ref ∈ s.agentRefs ↔ (∃ t ∈ s.threads.rows, (t.initiatorId, t.orgId) = ref) ∨
      (∃ m ∈ s.messages.rows, (m.agentId, m.orgId) = ref) ∨ (∃ a ∈ s.summaries.rows, (a.agentId, a.orgId) = ref) ∨
      (∃ i ∈ s.introspections.rows, (i.agentId, i.orgId) = ref) ∨
      (∃ r ∈ s.statuses.rows, (r.agentId, r.orgId) = ref) := by
  simp only [agentRefs, List.mem_append, List.mem_map, or_assoc]

theorem reparent_of_references (references : s.foreignKeyCheck) : s.reparent s.statuses = s := by
  have held := foreignKeyCheck_iff.mp references
  rw [reparent, Table.update_of_fixed (T := s.threads), Table.update_of_fixed (T := s.messages),
    Table.update_of_fixed (T := s.summaries), Table.update_of_fixed (T := s.introspections)]
  · intro i member
    rw [parentOrg_of_holds (held (i.agentId, i.orgId) (mem_agentRefs.mpr (.inr (.inr (.inr (.inl ⟨i, member, rfl⟩))))))]
  · intro a member
    rw [parentOrg_of_holds (held (a.agentId, a.orgId) (mem_agentRefs.mpr (.inr (.inr (.inl ⟨a, member, rfl⟩)))))]
  · intro m member
    rw [parentOrg_of_holds (held (m.agentId, m.orgId) (mem_agentRefs.mpr (.inr (.inl ⟨m, member, rfl⟩))))]
  · intro t member
    rw [parentOrg_of_holds (held (t.initiatorId, t.orgId) (mem_agentRefs.mpr (.inl ⟨t, member, rfl⟩)))]

theorem mergeStatuses_references (references : s.foreignKeyCheck) : s.mergeStatuses.foreignKeyCheck := by
  refine foreignKeyCheck_iff.mpr ?_
  intro ref member
  refine foreignKeyCheck_iff.mp references ref ?_
  rw [mem_agentRefs] at member ⊢
  rcases member with thread | message | summary | introspection | ⟨r, listed, same⟩
  · exact .inl thread
  · exact .inr (.inl message)
  · exact .inr (.inr (.inl summary))
  · exact .inr (.inr (.inr (.inl introspection)))
  · exact .inr (.inr (.inr (.inr ⟨r, (List.mem_filter.mp listed).1, same⟩)))

/-- With the foreign keys satisfied the transaction commits, and only the merge touches a row. -/
theorem perOrg_of_references (references : s.foreignKeyCheck) : ∃ composite,
    s.perOrg = .ok { s.mergeStatuses with composite := composite, idxAgentsId := false, userVersion := 11 } := by
  have merged := mergeStatuses_references references
  have stay : s.mergeStatuses.reparentStatuses [] s.mergeStatuses.statuses.rows =
      some s.mergeStatuses.statuses.rows := by
    refine reparentStatuses_of_holds [] _ s.mergeStatuses.statuses.keyed ?_
    intro r member
    exact foreignKeyCheck_iff.mp merged (r.agentId, r.orgId)
      (mem_agentRefs.mpr (.inr (.inr (.inr (.inr ⟨r, member, rfl⟩)))))
  obtain ⟨composite, copied⟩ := foldl_copyTable specs s.mergeStatuses
  refine ⟨composite, ?_⟩
  simp only [perOrg, stay, Option.bind_some, Table.ofRows_self, reparent_of_references merged, copied]
  exact if_pos merged

/-- Whatever it started from, a migration that commits leaves the foreign keys satisfied. -/
theorem perOrg_references {migrated : AgentTables} (committed : s.perOrg = .ok migrated) :
    migrated.foreignKeyCheck := by
  simp only [perOrg] at committed
  split at committed
  · cases committed
  · split at committed
    · rename_i checked
      obtain rfl := Except.ok.inj committed
      exact checked
    · cases committed

theorem loses_of_outranks {keeper loser : ActivityRow} {a : Agent} (kept : keeper ∈ s.statuses.rows)
    (member : a ∈ s.agents.rows) (same : a.id = loser.agentId) (outranks : outranks a keeper loser) : s.loses loser := by
  have known : s.knows loser.agentId := List.any_eq_true.mpr ⟨a, member, decide_eq_true same⟩
  simp only [loses, known, Bool.true_and, List.any_eq_true]
  exact ⟨keeper, kept, a, member, by simp [same, outranks]⟩

/-- Of two rows of one agent id one is deleted: the older one, or both when their times agree. -/
theorem loses_of_duplicate (references : s.foreignKeyCheck) {r r' : ActivityRow} (member : r ∈ s.statuses.rows)
    (member' : r' ∈ s.statuses.rows) (sameAgent : r.agentId = r'.agentId) (apart : r.orgId ≠ r'.orgId) :
    s.loses r ∨ s.loses r' := by
  have held : ∀ r ∈ s.statuses.rows, ∃ a ∈ s.agents.rows, a.orgId = r.orgId ∧ a.id = r.agentId := by
    intro r member
    exact holds_iff.mp (foreignKeyCheck_iff.mp references (r.agentId, r.orgId)
      (mem_agentRefs.mpr (.inr (.inr (.inr (.inr ⟨r, member, rfl⟩))))))
  obtain ⟨a, listed, org, id⟩ := held r member
  obtain ⟨a', listed', org', id'⟩ := held r' member'
  rcases lt_trichotomy r.activity r'.activity with older | together | newer
  · exact .inl (loses_of_outranks member' listed id (by simp [outranks, sameAgent, Ne.symm apart, older]))
  · -- the row that the other organisation's agent vouches for outranks this one
    exact .inl (loses_of_outranks member' listed' (id'.trans sameAgent.symm)
      (by simp [outranks, sameAgent, Ne.symm apart, together, org', apart]))
  · exact .inr (loses_of_outranks member listed' id' (by simp [outranks, sameAgent, apart, newer]))

/-- The merge deletes nothing exactly when no agent id has a status in two organisations. -/
theorem no_losers_iff (references : s.foreignKeyCheck) : (∀ r ∈ s.statuses.rows, ¬ s.loses r) ↔ OneStatusPerId s := by
  constructor
  · intro none r member r' member' sameAgent
    by_contra apart
    rcases loses_of_duplicate references member member' sameAgent apart with loses | loses
    · exact none r member loses
    · exact none r' member' loses
  · intro single r member loses
    simp only [AgentTables.loses, Bool.and_eq_true, List.any_eq_true, outranks, decide_eq_true_eq] at loses
    obtain ⟨-, keeper, kept, a, -, -, ⟨sameAgent, apart⟩, -⟩ := loses
    exact apart (single keeper kept r member sameAgent)

end AgentTables

namespace MigratedDb

/-- A first run that throws nothing. -/
def ofMigration (env : MigrationEnv) (s s' : AgentTables) (behind : s.userVersion < 11)
    (quiet : migrateAgentIdPerOrgV11 env s = (s', none)) : MigratedDb where
  tables := s'
  references := by
    rw [migrateAgentIdPerOrgV11, if_neg (Nat.not_le.mpr behind)] at quiet
    split at quiet
    · cases quiet
    · split at quiet
      · cases quiet
      · rename_i committed
        obtain ⟨rfl, -⟩ := Prod.mk.inj quiet
        exact AgentTables.perOrg_references committed

/-- What the boot makes of a migrated database whose `user_version` it has set back. -/
theorem migrate_eq (env : MigrationEnv) (db : MigratedDb) {version : Nat} (rewound : version < 11) : ∃ composite,
    migrateAgentIdPerOrgV11 env { db.tables with userVersion := version } =
      ({ db.tables.mergeStatuses with composite := composite, idxAgentsId := false, userVersion := 11 }, none) := by
  have references : AgentTables.foreignKeyCheck { db.tables with userVersion := version } := db.references
  obtain ⟨composite, migrated⟩ := AgentTables.perOrg_of_references references
  refine ⟨composite, ?_⟩
  simp only [migrateAgentIdPerOrgV11, if_neg (Nat.not_le.mpr rewound),
    AgentTables.resolveDanglingAgentRefs_of_references env references, migrated]
  rfl

/-- Whatever version below 11 it starts from, the migration leaves the rows of a migrated
database alone exactly when no agent id has a status in two organisations. -/
theorem migration_keeps_rows_iff (env : MigrationEnv) (db : MigratedDb) :
    (∀ version < 11, KeepsRows db.tables (migrateAgentIdPerOrgV11 env { db.tables with userVersion := version }).1) ↔
      OneStatusPerId db.tables := by
  rw [← AgentTables.no_losers_iff db.references]
  constructor
  · intro keeps r member loses
    obtain ⟨composite, migrated⟩ := migrate_eq env db (show 10 < 11 by decide)
    have kept := (keeps 10 (by decide)).statuses r member
    rw [migrated] at kept
    exact (Table.mem_delete.mp kept).2 loses
  · intro none version rewound
    obtain ⟨composite, migrated⟩ := migrate_eq env db rewound
    rw [migrated]
    refine ⟨fun _ => id, fun _ => id, fun _ => id, fun _ => id, ?_⟩
    intro r member
    exact Table.mem_delete.mpr ⟨member, none r member⟩

/-- The agent `builder` of two organisations, each with its status. -/
def twoBuilders : MigratedDb where
  tables :=
    { agents := ⟨[⟨"builder", "acme", "Builder", .null, .online, .sqlite 1, .sqlite 1⟩,
        ⟨"builder", "globex", "Builder", .null, .online, .sqlite 2, .sqlite 2⟩], by decide⟩
      threads := .empty, messages := .empty, summaries := .empty, introspections := .empty
      statuses := ⟨[⟨"builder", "acme", some "working", none, none, some "2026-01-01 10:00:00"⟩,
        ⟨"builder", "globex", some "idle", none, none, some "2026-01-01 11:00:00"⟩], by decide⟩
      composite := AgentTables.specs, idxAgentsId := false, userVersion := 12 }
  references := by decide

/-- The next boot deletes the status of the agent that was active earlier. -/
theorem not_migration_keeps_rows : ¬ ∀ (env : MigrationEnv) (db : MigratedDb), ∀ version < 11,
    KeepsRows db.tables (migrateAgentIdPerOrgV11 env { db.tables with userVersion := version }).1 := by
  intro keeps
  have kept := (keeps ⟨.sqlite 0, false, compare⟩ twoBuilders 10 (by decide)).statuses _ List.mem_cons_self
  revert kept
  decide +kernel

end MigratedDb

end Coordinator
