import Coordinator.AuditWriters
import Coordinator.Library.GuardedRun

namespace Coordinator

namespace AuditLog

/-- An UPDATE that leaves the ids alone. -/
def rewrite (log : AuditLog) (rows : List ChainedRow) (sameIds : rows.map ChainedRow.id = log.rows.map ChainedRow.id) :
    AuditLog where
  rows := rows
  seq := log.seq
  ordered := by
    have ordered := log.ordered
    rw [← List.pairwise_map (f := ChainedRow.id)] at ordered ⊢
    rwa [sameIds]
  bound := by
    intro row member
    have id : row.id ∈ log.rows.map ChainedRow.id := sameIds ▸ List.mem_map_of_mem member
    obtain ⟨old, inLog, same⟩ := List.mem_map.mp id
    exact same ▸ log.bound old inLog

end AuditLog

/-- `INSERT INTO audit_log (action, outcome, metadata_json, created_at) VALUES (?, 'success', ?, …)`. -/
def migrationFields (action metadata : String) : AuditChainFields where
  action := action
  actorOrgId := none
  actorIp := none
  actorUserAgent := none
  actorUserId := none
  metadataJson := some metadata
  outcome := some "success"
  requestId := none
  target := none

/-- `UPDATE audit_log SET outcome = 'legacy_unknown' WHERE outcome IS NULL`. -/
def markLegacy (row : ChainedRow) : ChainedRow :=
  if row.fields.outcome = none then { row with fields := { row.fields with outcome := some "legacy_unknown" } } else row

def markedMetadata (changes : Nat) : String :=
  "\x7b\"rows_marked_legacy\":" ++ toString changes ++ ",\"from_version\":7,\"to_version\":8\x7d"

theorem markLegacy_id (row : ChainedRow) : (markLegacy row).id = row.id := by
  unfold markLegacy
  split <;> rfl

namespace AuditLog

/-- The provenance row is inserted without hashes. -/
def backfillOutcome (log : AuditLog) : AuditLog :=
  let changes := log.rows.countP fun row => row.fields.outcome = none
  let marked := log.rewrite (log.rows.map markLegacy) (by simp [Function.comp_def, markLegacy_id])
  if 0 < changes then marked.insert (migrationFields "migration.audit_backfill" (markedMetadata changes)) none none
  else marked

end AuditLog

variable {Key : Type} (crypto : ChainCrypto Key)

/-- The loop over the unhashed rows; they are hashed without a key. -/
def backfillRows : String → List ChainedRow → List ChainedRow
  | _, [] => []
  | prevHash, row :: rest =>
    if row.rowHash = none then
      let rowHash := computeRowHash crypto prevHash row.fields none
      { row with prevHash := some prevHash, rowHash := some rowHash } :: backfillRows rowHash rest
    else row :: backfillRows prevHash rest

theorem backfillRows_ids (prevHash : String) (rows : List ChainedRow) :
    (backfillRows crypto prevHash rows).map ChainedRow.id = rows.map ChainedRow.id := by
  fun_induction backfillRows crypto prevHash rows <;> simp_all

def AuditLog.backfillAuditChain (log : AuditLog) : AuditLog :=
  log.rewrite (backfillRows crypto log.tip log.rows) (backfillRows_ids crypto log.tip log.rows)

/-- What the later migrations find to repair in the other tables: for each one the
metadata of the audit row that it then inserts. -/
structure BootFindings where
  danglingAgents : Option String
  orphanOrgs : Option String
  driftedRows : Option String
  staleRevocations : Option String
  duplicateNames : Option String

/-- The migrations that insert their row without hashes, in the order of the boot. -/
def BootFindings.reports (found : BootFindings) : List (String × Option String) := [
  ("migration.agent_fk_recover", found.danglingAgents),
  ("migration.org_fk_reparent", found.orphanOrgs),
  ("migration.agent_fk_reparent", found.driftedRows),
  ("migration.revoked_agents_rescope", found.staleRevocations)]

namespace AuditLog

def insertMigrationRow (log : AuditLog) (report : String × Option String) : AuditLog :=
  match report.2 with
  | none => log
  | some metadata => log.insert (migrationFields report.1 metadata) none none

/-- The row about duplicate organisation names is the only one that is chained. -/
def emitDuplicatesAcceptedAudit (chainKey : Option Key) (log : AuditLog) (metadata : String) : AuditLog :=
  let prevHash := log.tip
  let chainRow := migrationFields "admin.orgs.duplicate_names_accepted" metadata
  log.insert chainRow (some prevHash) (some (computeRowHash crypto prevHash chainRow chainKey))

/-- The steps of `openAndMigrate` that touch the table. -/
def migrate (chainKey : Option Key) (log : AuditLog) (found : BootFindings) : AuditLog :=
  let log := log.backfillOutcome.backfillAuditChain crypto
  let log := found.reports.foldl insertMigrationRow log
  match found.duplicateNames with
  | none => log
  | some metadata => log.emitDuplicatesAcceptedAudit crypto chainKey metadata

end AuditLog

inductive RestartOp (Key : Type)
  | write (op : AuditOp Key)
  | boot (found : BootFindings)

namespace AuditWorld

/-- A restart loses the queue and derives the same key again. -/
def restartStep (w : AuditWorld Key) : RestartOp Key → AuditWorld Key
  | .write op => w.step crypto op
  | .boot found => { w with log := w.log.migrate crypto w.chainKey found, auditQueue := none, dbOpen := true }

/-- A boot that finds no row without an outcome, and nothing to repair in the other tables. -/
def QuietBoot (w : AuditWorld Key) : RestartOp Key → Prop
  | .write _ => True
  | .boot found =>
    (∀ row ∈ w.log.rows, row.fields.outcome ≠ none) ∧ ∀ report ∈ found.reports, report.2 = none

end AuditWorld

section Quiet
variable {crypto} {key chainKey : Option Key} {log : AuditLog} {found : BootFindings}

theorem AuditLog.rewrite_self {rows : List ChainedRow} {sameIds : rows.map ChainedRow.id = log.rows.map ChainedRow.id}
    (same : rows = log.rows) : log.rewrite rows sameIds = log := by
  subst same
  rfl

theorem AuditLog.backfillOutcome_quiet (outcomes : ∀ row ∈ log.rows, row.fields.outcome ≠ none) :
    log.backfillOutcome = log := by
  have unchanged : log.rows.map markLegacy = log.rows := by
    rw [List.map_congr_left (g := id), List.map_id]
    intro row member
    rw [markLegacy, if_neg (outcomes row member), id]
  have none : (log.rows.countP fun row => row.fields.outcome = none) = 0 := by
    rw [List.countP_eq_zero]
    intro row member
    simpa using outcomes row member
  simp only [backfillOutcome, none, lt_irrefl, if_false]
  exact rewrite_self unchanged

theorem backfillRows_hashed {prevHash : String} {rows : List ChainedRow} (hashed : ∀ row ∈ rows, row.rowHash.isSome) :
    backfillRows crypto prevHash rows = rows := by
  fun_induction backfillRows crypto prevHash rows with
  | case1 => rfl
  | case2 prevHash row rest missing rowHash ih =>
    have present := hashed row List.mem_cons_self
    rw [missing] at present
    cases present
  | case3 prevHash row rest present ih => rw [ih fun r member => hashed r (List.mem_cons_of_mem row member)]

theorem AuditLog.backfillAuditChain_hashed (hashed : ∀ row ∈ log.rows, row.rowHash.isSome) :
    log.backfillAuditChain crypto = log :=
  rewrite_self (backfillRows_hashed hashed)

theorem AuditLog.insertMigrationRows_quiet {reports : List (String × Option String)}
    (quiet : ∀ report ∈ reports, report.2 = none) : reports.foldl insertMigrationRow log = log := by
  induction reports with
  | nil => rfl
  | cons report rest ih =>
    have same : log.insertMigrationRow report = log := by rw [insertMigrationRow, quiet report List.mem_cons_self]
    rw [List.foldl_cons, same]
    exact ih fun later member => quiet later (List.mem_cons_of_mem report member)

/-- A quiet boot chains the row about duplicate names at most. -/
theorem AuditLog.migrate_appends (hashed : ∀ row ∈ log.rows, row.rowHash.isSome)
    (outcomes : ∀ row ∈ log.rows, row.fields.outcome ≠ none) (quiet : ∀ report ∈ found.reports, report.2 = none) :
    Appends crypto chainKey log (log.migrate crypto chainKey found) := by
  simp only [migrate, backfillOutcome_quiet outcomes, backfillAuditChain_hashed hashed, insertMigrationRows_quiet quiet]
  cases found.duplicateNames with
  | none => exact .refl
  | some metadata => exact .single _

theorem AuditWorld.Honest.boot {w : AuditWorld Key} (honest : Honest crypto key w) (quiet : w.QuietBoot (.boot found)) :
    Honest crypto key (w.restartStep crypto (.boot found)) := by
  have hashed : ∀ row ∈ w.log.rows, row.rowHash.isSome := fun row member =>
    (honest.log.verifies.recomputes row member).hashed
  have appends : Appends crypto w.chainKey w.log (w.log.migrate crypto w.chainKey found) :=
    AuditLog.migrate_appends hashed quiet.1 quiet.2
  exact ⟨honest.log.appends honest.allowed appends, honest.allowed⟩

end Quiet

section Loud
variable {crypto} {key chainKey : Option Key} {log : AuditLog} {found : BootFindings}

theorem AuditLog.subset_insert {fields : AuditChainFields} {prevHash rowHash : Option String} :
    log.rows ⊆ (log.insert fields prevHash rowHash).rows :=
  List.subset_append_left _ _

theorem AuditLog.subset_insertMigrationRows (reports : List (String × Option String)) :
    log.rows ⊆ (reports.foldl insertMigrationRow log).rows := by
  induction reports generalizing log with
  | nil => exact List.Subset.refl _
  | cons report rest ih =>
    refine List.Subset.trans ?_ ih
    unfold insertMigrationRow
    split
    · exact List.Subset.refl _
    · exact subset_insert

/-- A migration that has something to report leaves an unhashed row. -/
theorem AuditLog.insertMigrationRows_unhashed {reports : List (String × Option String)} {report : String × Option String}
    (member : report ∈ reports) (loud : report.2 ≠ none) :
    ∃ row ∈ (reports.foldl insertMigrationRow log).rows, row.rowHash = none := by
  induction reports generalizing log with
  | nil => cases member
  | cons first rest ih =>
    rcases List.mem_cons.mp member with rfl | later
    · obtain ⟨metadata, text⟩ := Option.ne_none_iff_exists'.mp loud
      have inserted : log.insertMigrationRow report = log.insert (migrationFields report.1 metadata) none none := by
        rw [insertMigrationRow, text]
      rw [List.foldl_cons, inserted]
      exact ⟨_, subset_insertMigrationRows rest (List.mem_append_right _ List.mem_cons_self), rfl⟩
    · exact ih later

theorem backfillRows_mem {prevHash : String} {rows : List ChainedRow} {row : ChainedRow} (member : row ∈ rows)
    (hashed : row.rowHash.isSome) : row ∈ backfillRows crypto prevHash rows := by
  fun_induction backfillRows crypto prevHash rows with
  | case1 => cases member
  | case2 prevHash first rest missing rowHash ih =>
    rcases List.mem_cons.mp member with rfl | later
    · rw [missing] at hashed
      cases hashed
    · exact List.mem_cons_of_mem _ (ih later)
  | case3 prevHash first rest present ih =>
    rcases List.mem_cons.mp member with rfl | later
    · exact List.mem_cons_self
    · exact List.mem_cons_of_mem _ (ih later)

theorem AuditLog.backfilled_mem {row : ChainedRow} (member : row ∈ log.rows) (hashed : row.rowHash.isSome) :
    markLegacy row ∈ (log.backfillOutcome.backfillAuditChain crypto).rows := by
  have marked : markLegacy row ∈ log.backfillOutcome.rows := by
    simp only [backfillOutcome]
    split
    · exact subset_insert (List.mem_map_of_mem member)
    · exact List.mem_map_of_mem member
  refine backfillRows_mem marked ?_
  unfold markLegacy
  split <;> exact hashed

theorem AuditLog.subset_migrate :
    (found.reports.foldl insertMigrationRow (log.backfillOutcome.backfillAuditChain crypto)).rows ⊆
      (log.migrate crypto chainKey found).rows := by
  simp only [migrate]
  cases found.duplicateNames with
  | none => exact List.Subset.refl _
  | some metadata => exact subset_insert

/-- A boot after which a verified log still verifies was a quiet one. -/
theorem AuditWorld.quiet_of_verifies (free : crypto.CollisionFree) {w : AuditWorld Key}
    (before : Verifies crypto key w.log.rows)
    (after : Verifies crypto key (w.restartStep crypto (.boot found)).log.rows) : w.QuietBoot (.boot found) := by
  constructor
  · intro row member legacy
    have hashed := (before.recomputes row member).hashed
    have kept : markLegacy row ∈ (w.log.migrate crypto w.chainKey found).rows :=
      AuditLog.subset_migrate (AuditLog.subset_insertMigrationRows _ (AuditLog.backfilled_mem member hashed))
    have marked : markLegacy row = { row with fields := { row.fields with outcome := some "legacy_unknown" } } := by
      rw [markLegacy, if_pos legacy]
    rw [marked] at kept
    have same := (before.recomputes row member).fields_eq free (after.recomputes _ kept) rfl
    rw [same] at legacy
    cases legacy
  · intro report member
    by_contra loud
    obtain ⟨row, inserted, unhashed⟩ := AuditLog.insertMigrationRows_unhashed member loud
    have hashed := (after.recomputes row (AuditLog.subset_migrate inserted)).hashed
    rw [unhashed] at hashed
    cases hashed

end Loud

namespace AuditWorld

def restarts (w : AuditWorld Key) (ops : List (RestartOp Key)) : AuditWorld Key := ops.foldl (restartStep crypto) w

variable {crypto} {key : Option Key} {w : AuditWorld Key}

theorem Honest.restartStep (honest : Honest crypto key w) {op : RestartOp Key}
    (steady : ∀ k, op = .write (.configureAuditChainKey k) → k = key) (quiet : w.QuietBoot op) :
    Honest crypto key (w.restartStep crypto op) := by
  cases op with
  | write op => exact honest.step fun k configures => steady k (congrArg RestartOp.write configures)
  | boot found => exact honest.boot quiet

theorem Honest.restarts (honest : Honest crypto key w) {ops : List (RestartOp Key)}
    (steady : ∀ k, .write (.configureAuditChainKey k) ∈ ops → k = key)
    (quiet : GuardedRun.Meets (AuditWorld.restartStep crypto) QuietBoot w ops) :
    Honest crypto key (w.restarts crypto ops) := by
  induction ops generalizing w with
  | nil => exact honest
  | cons op rest ih =>
    have next : Honest crypto key (w.restartStep crypto op) :=
      honest.restartStep (fun k configures => steady k (configures ▸ List.mem_cons_self)) quiet.1
    exact ih next (fun k member => steady k (List.mem_cons_of_mem op member)) quiet.2

/-- Once every state of the run verifies, every boot in it was quiet. -/
theorem Honest.quiet_restarts (free : crypto.CollisionFree) (honest : Honest crypto key w) {ops : List (RestartOp Key)}
    (steady : ∀ k, .write (.configureAuditChainKey k) ∈ ops → k = key)
    (always : ∀ done, done <+: ops → reportOk (verify crypto (w.restarts crypto done).log.rows key)) :
    GuardedRun.Meets (AuditWorld.restartStep crypto) QuietBoot w ops := by
  induction ops generalizing w with
  | nil => trivial
  | cons op rest ih =>
    have after : reportOk (verify crypto (w.restartStep crypto op).log.rows key) :=
      always [op] ((List.prefix_cons_inj op).mpr List.nil_prefix)
    have quiet : w.QuietBoot op := by
      cases op with
      | write op => trivial
      | boot found =>
        exact quiet_of_verifies free honest.log.verifies ((verify_ok_iff (AuditLog.ordered _)).mp after)
    have next : Honest crypto key (w.restartStep crypto op) :=
      honest.restartStep (fun k configures => steady k (configures ▸ List.mem_cons_self)) quiet
    refine ⟨quiet, ih next (fun k member => steady k (List.mem_cons_of_mem op member)) ?_⟩
    intro done start
    exact always (op :: done) ((List.prefix_cons_inj op).mpr start)

/-- A log of the writers that verifies still does after boots with writes between them. -/
def RestartKeepsChain (crypto : ChainCrypto Key) : Prop :=
  ∀ (key : Option Key) (writes : List (AuditOp Key)) (ops : List (RestartOp Key)),
    (∀ k, .configureAuditChainKey k ∈ writes → k = key) →
    (∀ k, .write (.configureAuditChainKey k) ∈ ops → k = key) →
    reportOk (verify crypto (fresh.run crypto writes).log.rows key) →
    reportOk (verify crypto ((fresh.run crypto writes).restarts crypto ops).log.rows key)

/-- One row of `auditLog` has no outcome, and the next boot rewrites what was hashed. -/
theorem not_restartKeepsChain : ¬ RestartKeepsChain ChainCrypto.spelled := by
  intro keeps
  let writes : List (AuditOp String) := [.auditLog ⟨some "ada", none, "auth.login", none, none, none, none⟩]
  let w : AuditWorld String := fresh.run .spelled writes
  let found : BootFindings := ⟨none, none, none, none, none⟩
  have honest : Honest .spelled none (fresh.run .spelled writes) := by
    refine Honest.run ⟨.of_verify rfl (.inl rfl), .inl rfl⟩ ?_
    simp [writes]
  have after := keeps none writes [.boot found] (by simp [writes]) (by simp) honest.log.reportOk
  have verifies := (verify_ok_iff (AuditLog.ordered _)).mp after
  have quiet : w.QuietBoot (.boot found) := quiet_of_verifies spelled_collisionFree honest.log.verifies verifies
  exact quiet.1 _ List.mem_cons_self rfl

/-- The log verifies in every state of a run whose boots find no row without an outcome
and nothing to report; and under digests without collisions in no other run. -/
theorem restart_keeps_chain (crypto : ChainCrypto Key) (key : Option Key) (w : AuditWorld Key)
    (ops : List (RestartOp Key)) (startKey : w.chainKey = none ∨ w.chainKey = key)
    (steady : ∀ k, .write (.configureAuditChainKey k) ∈ ops → k = key)
    (ok : reportOk (verify crypto w.log.rows w.chainKey)) :
    (GuardedRun.Meets (AuditWorld.restartStep crypto) QuietBoot w ops →
      ∀ done, done <+: ops → reportOk (verify crypto (w.restarts crypto done).log.rows key)) ∧
    (crypto.CollisionFree →
      (∀ done, done <+: ops → reportOk (verify crypto (w.restarts crypto done).log.rows key)) →
        GuardedRun.Meets (AuditWorld.restartStep crypto) QuietBoot w ops) := by
  have honest : Honest crypto key w := ⟨.of_verify ok startKey, startKey⟩
  constructor
  · intro quiet done start
    have steadyDone : ∀ k, .write (.configureAuditChainKey k) ∈ done → k = key := fun k member =>
      steady k (start.subset member)
    exact (honest.restarts steadyDone (quiet.initial start)).log.reportOk
  · intro free always
    exact honest.quiet_restarts free steady always

theorem restart_keeps_chain_keyed :
    let ops : List (RestartOp String) := [
      .write (.configureAuditChainKey (some "k")),
      .write (.audit ⟨some "ada", some "acme", none, none, none⟩ "admin.orgs.create" ⟨some .one, none, none, none⟩),
      .boot ⟨none, none, none, none, some "[]"⟩,
      .write (.sweep fun row => row.id = 1)]
    reportOk (verify .spelled (fresh.restarts .spelled ops).log.rows (some "k")) := by
  intro ops
  have main := restart_keeps_chain .spelled (some "k") fresh ops (.inl rfl) (by simp [ops]) rfl
  refine main.1 ⟨trivial, trivial, ⟨?_, by simp [BootFindings.reports]⟩, trivial, trivial⟩ ops List.prefix_rfl
  intro row member
  rw [List.mem_singleton.mp member]
  exact Option.some_ne_none _

end AuditWorld

end Coordinator
