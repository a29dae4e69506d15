import Coordinator.AuditChain

namespace Coordinator

/-- The table `audit_log`, by id, with the counter of its AUTOINCREMENT. -/
structure AuditLog where
  rows : List ChainedRow
  seq : Int
  ordered : rows.Pairwise fun r s => r.id < s.id
  bound : ∀ row ∈ rows, row.id ≤ seq

namespace AuditLog

def empty : AuditLog := ⟨[], 0, .nil, by simp⟩

def insert (log : AuditLog) (fields : AuditChainFields) (prevHash rowHash : Option String) : AuditLog where
  rows := log.rows ++ [⟨log.seq + 1, fields, prevHash, rowHash⟩]
  seq := log.seq + 1
  ordered := by
    rw [List.pairwise_append]
    refine ⟨log.ordered, List.pairwise_singleton _ _, ?_⟩
    intro r before s last
    rw [List.mem_singleton.mp last]
    exact Int.lt_add_one_of_le (log.bound r before)
  bound := by
    intro row member
    rcases List.mem_append.mp member with before | last
    · have := log.bound row before
      omega
    · rw [List.mem_singleton.mp last]

def delete (log : AuditLog) (victim : ChainedRow → Bool) : AuditLog where
  rows := log.rows.filter fun row => !victim row
  seq := log.seq
  ordered := log.ordered.sublist List.filter_sublist
  bound := fun row member => log.bound row (List.mem_filter.mp member).1

/-- `SELECT row_hash FROM audit_log WHERE row_hash IS NOT NULL ORDER BY id DESC LIMIT 1`. -/
def tip (log : AuditLog) : String := (log.rows.filterMap ChainedRow.rowHash).getLast?.getD genesisHash

end AuditLog

inductive AuditOutcome
  | success
  | failure
  | denied
  deriving DecidableEq, Repr

def AuditOutcome.text : AuditOutcome → String
  | .success => "success"
  | .failure => "failure"
  | .denied => "denied"

structure AuditQueueRow where
  actorUserId : Option String
  actorOrgId : Option String
  action : String
  target : Option String
  actorIp : Option String
  actorUserAgent : Option String
  requestId : Option String
  outcome : AuditOutcome
  metadataJson : Option String
  deriving DecidableEq, Repr

def AuditQueueRow.chainFields (row : AuditQueueRow) : AuditChainFields where
  action := row.action
  actorOrgId := row.actorOrgId
  actorIp := row.actorIp
  actorUserAgent := row.actorUserAgent
  actorUserId := row.actorUserId
  metadataJson := row.metadataJson
  outcome := some row.outcome.text
  requestId := row.requestId
  target := row.target

/-- The event of the first version; its metadata is the text that `JSON.stringify` makes of it. -/
structure AuditEvent where
  userId : Option String
  orgId : Option String
  action : String
  target : Option String
  ip : Option String
  userAgent : Option String
  metadata : Option String
  deriving DecidableEq, Repr

inductive AuditTier
  | one
  | two
  deriving DecidableEq, Repr

structure AuditOptions where
  tier : Option AuditTier
  metadata : Option String
  target : Option String
  outcome : Option AuditOutcome
  deriving DecidableEq, Repr

/-- The actor and the request that `audit` reads from its context. -/
structure AuditScope where
  userId : Option String
  orgId : Option String
  ip : Option String
  userAgent : Option String
  requestId : Option String
  deriving DecidableEq, Repr

variable {Key : Type} (crypto : ChainCrypto Key)

/-- The hash covers all nine fields; the statement for seven columns leaves `outcome` and `request_id` NULL. -/
def insertAuditRowWithChain (chainKey : Option Key) (log : AuditLog) (row : AuditChainFields)
    (hasOutcomeAndRequestId : Bool) : AuditLog :=
  let prevHash := log.tip
  let rowHash := computeRowHash crypto prevHash row chainKey
  if hasOutcomeAndRequestId then log.insert row (some prevHash) (some rowHash)
  else log.insert { row with outcome := none, requestId := none } (some prevHash) (some rowHash)

structure AuditQueue where
  buffer : List AuditQueueRow
  enqueued : Nat
  flushed : Nat
  dropped : Nat
  batchesWritten : Nat
  closed : Bool

namespace AuditQueue

def capacity : Nat := 10000

def batchSize : Nat := 50

def new : AuditQueue := ⟨[], 0, 0, 0, 0, false⟩

/-- One round of the loop over a batch, with the hash that the next row links to. -/
def writeNext (chainKey : Option Key) (state : AuditLog × String) (r : AuditQueueRow) : AuditLog × String :=
  let rowHash := computeRowHash crypto state.2 r.chainFields chainKey
  (state.1.insert r.chainFields (some state.2) (some rowHash), rowHash)

def writeBatchSync (chainKey : Option Key) (dbOpen : Bool) (log : AuditLog) (rows : List AuditQueueRow) : AuditLog :=
  if !dbOpen then log else (rows.foldl (writeNext crypto chainKey) (log, log.tip)).1

def flush (chainKey : Option Key) (dbOpen : Bool) (log : AuditLog) (queue : AuditQueue) : AuditLog × AuditQueue :=
  if queue.buffer = [] then (log, queue)
  else if !dbOpen then (log, { queue with buffer := [] })
  else
    (writeBatchSync crypto chainKey dbOpen log queue.buffer,
      { queue with
        buffer := []
        flushed := queue.flushed + queue.buffer.length
        batchesWritten := queue.batchesWritten + 1 })

def enqueue (chainKey : Option Key) (dbOpen : Bool) (log : AuditLog) (queue : AuditQueue) (row : AuditQueueRow) :
    AuditLog × AuditQueue :=
  if queue.closed then
    (writeBatchSync crypto chainKey dbOpen log [row], { queue with flushed := queue.flushed + 1 })
  else if capacity ≤ queue.buffer.length then (log, { queue with dropped := queue.dropped + 1 })
  else
    let queue := { queue with buffer := queue.buffer ++ [row], enqueued := queue.enqueued + 1 }
    if batchSize ≤ queue.buffer.length then queue.flush crypto chainKey dbOpen log else (log, queue)

def lossMetadata (dropped : Nat) : String := "\x7b\"dropped_count\":" ++ toString dropped ++ "\x7d"

/-- The statement names three columns, the hash covers all nine fields. -/
def writeLoss (chainKey : Option Key) (dbOpen : Bool) (log : AuditLog) (dropped : Nat) : AuditLog :=
  if !dbOpen then log
  else
    let prevHash := log.tip
    let hashed : AuditChainFields :=
      { action := "system.shutdown.audit_loss", actorOrgId := none, actorIp := none, actorUserAgent := none,
        actorUserId := none, metadataJson := some (lossMetadata dropped), outcome := some "failure",
        requestId := none, target := none }
    let columns : AuditChainFields :=
      ⟨"system.shutdown.audit_loss", none, none, none, none, some (lossMetadata dropped), some "failure", none, none⟩
    log.insert columns (some prevHash) (some (computeRowHash crypto prevHash hashed chainKey))

def drain (chainKey : Option Key) (dbOpen : Bool) (log : AuditLog) (queue : AuditQueue) : AuditLog × AuditQueue :=
  if queue.closed then (log, queue)
  else
    let (log, queue) := queue.flush crypto chainKey dbOpen log
    let queue := { queue with closed := true }
    if 0 < queue.dropped then (writeLoss crypto chainKey dbOpen log queue.dropped, queue) else (log, queue)

end AuditQueue

/-- The database and the process-wide state of the audit modules. -/
structure AuditWorld (Key : Type) where
  log : AuditLog
  auditQueue : Option AuditQueue
  chainKey : Option Key
  dbOpen : Bool

namespace AuditWorld

def auditLog (w : AuditWorld Key) (ev : AuditEvent) : AuditWorld Key :=
  if !w.dbOpen then w
  else
    let chainFields : AuditChainFields :=
      { action := ev.action, actorOrgId := ev.orgId, actorIp := ev.ip, actorUserAgent := ev.userAgent,
        actorUserId := ev.userId, metadataJson := ev.metadata, outcome := none, requestId := none,
        target := ev.target }
    { w with log := insertAuditRowWithChain crypto w.chainKey w.log chainFields false }

def audit (w : AuditWorld Key) (scope : AuditScope) (action : String) (options : AuditOptions) : AuditWorld Key :=
  let tier := options.tier.getD .two
  let row : AuditQueueRow :=
    { actorUserId := scope.userId, actorOrgId := scope.orgId, action := action, target := options.target,
      actorIp := scope.ip, actorUserAgent := scope.userAgent, requestId := scope.requestId,
      outcome := options.outcome.getD .success, metadataJson := options.metadata }
  match tier, w.auditQueue with
  | .two, some queue =>
    let (log, queue) := queue.enqueue crypto w.chainKey w.dbOpen w.log row
    { w with log := log, auditQueue := some queue }
  | _, _ =>
    if !w.dbOpen then w else { w with log := insertAuditRowWithChain crypto w.chainKey w.log row.chainFields true }

end AuditWorld

inductive AuditOp (Key : Type)
  | audit (scope : AuditScope) (action : String) (options : AuditOptions)
  | auditLog (ev : AuditEvent)
  | initAuditQueue
  | timerFlush
  | drain
  | sweep (victim : ChainedRow → Bool)
  | configureAuditChainKey (key : Option Key)
  | closeDb

namespace AuditWorld

/-- The queue is made once, by the boot; its timer may fire at any time. -/
def step (w : AuditWorld Key) : AuditOp Key → AuditWorld Key
  | .audit scope action options => w.audit crypto scope action options
  | .auditLog ev => w.auditLog crypto ev
  | .initAuditQueue => { w with auditQueue := some (w.auditQueue.getD .new) }
  | .timerFlush =>
    match w.auditQueue with
    | none => w
    | some queue =>
      let (log, queue) := queue.flush crypto w.chainKey w.dbOpen w.log
      { w with log := log, auditQueue := some queue }
  | .drain =>
    match w.auditQueue with
    | none => w
    | some queue =>
      let (log, queue) := queue.drain crypto w.chainKey w.dbOpen w.log
      { w with log := log, auditQueue := some queue }
  | .sweep victim => { w with log := w.log.delete victim }
  | .configureAuditChainKey key => { w with chainKey := key }
  | .closeDb => { w with dbOpen := false }

def run (w : AuditWorld Key) (ops : List (AuditOp Key)) : AuditWorld Key := ops.foldl (step crypto) w

end AuditWorld

/-- What every writer should do: link the new row to the tip and hash what is stored. -/
def AuditLog.chain (chainKey : Option Key) (log : AuditLog) (fields : AuditChainFields) : AuditLog :=
  log.insert fields (some log.tip) (some (computeRowHash crypto log.tip fields chainKey))

/-- Rows were chained at the end of the log, and nothing else happened to it. -/
def Appends (chainKey : Option Key) (log after : AuditLog) : Prop :=
  ∃ entries : List AuditChainFields, after = entries.foldl (AuditLog.chain crypto chainKey) log

section Writers
variable {crypto} {chainKey : Option Key} {dbOpen : Bool} {log : AuditLog}

theorem AuditLog.tip_insert {fields : AuditChainFields} {prevHash : Option String} {rowHash : String} :
    (log.insert fields prevHash (some rowHash)).tip = rowHash := by
  simp [tip, insert]

theorem Appends.refl : Appends crypto chainKey log log := ⟨[], rfl⟩

theorem Appends.single (fields : AuditChainFields) : Appends crypto chainKey log (log.chain crypto chainKey fields) :=
  ⟨[fields], rfl⟩

theorem Appends.trans {after later : AuditLog} (first : Appends crypto chainKey log after)
    (second : Appends crypto chainKey after later) : Appends crypto chainKey log later := by
  obtain ⟨entries, rfl⟩ := first
  obtain ⟨more, rfl⟩ := second
  exact ⟨entries ++ more, (List.foldl_append ..).symm⟩

/-- The short statement stores what was hashed as long as the two columns it leaves out were hashed as NULL. -/
theorem insertAuditRowWithChain_short {row : AuditChainFields} (outcome : row.outcome = none)
    (requestId : row.requestId = none) :
    insertAuditRowWithChain crypto chainKey log row false = log.chain crypto chainKey row := by
  have stored : { row with outcome := none, requestId := none } = row := by
    cases row
    simp_all
  simp only [insertAuditRowWithChain, Bool.false_eq_true, if_false, stored, AuditLog.chain]

namespace AuditQueue
variable {queue : AuditQueue}

/-- The running hash of a batch is the tip that each row would look up. -/
theorem foldl_writeNext (rows : List AuditQueueRow) :
    rows.foldl (writeNext crypto chainKey) (log, log.tip) =
      let after := (rows.map AuditQueueRow.chainFields).foldl (AuditLog.chain crypto chainKey) log
      (after, after.tip) := by
  induction rows generalizing log with
  | nil => rfl
  | cons r rest ih =>
    have next : writeNext crypto chainKey (log, log.tip) r =
        (log.chain crypto chainKey r.chainFields, (log.chain crypto chainKey r.chainFields).tip) := by
      rw [writeNext, AuditLog.chain, AuditLog.tip_insert]
    rw [List.foldl_cons, next, ih]
    rfl

theorem writeBatchSync_appends (rows : List AuditQueueRow) :
    Appends crypto chainKey log (writeBatchSync crypto chainKey dbOpen log rows) := by
  unfold writeBatchSync
  split
  · exact .refl
  · rw [foldl_writeNext]
    exact ⟨rows.map AuditQueueRow.chainFields, rfl⟩

theorem flush_appends : Appends crypto chainKey log (queue.flush crypto chainKey dbOpen log).1 := by
  unfold flush
  split
  · exact .refl
  · split
    · exact .refl
    · exact writeBatchSync_appends queue.buffer

theorem enqueue_appends (row : AuditQueueRow) :
    Appends crypto chainKey log (queue.enqueue crypto chainKey dbOpen log row).1 := by
  simp only [enqueue]
  split
  · exact writeBatchSync_appends [row]
  · split
    · exact .refl
    · split
      · exact flush_appends
      · exact .refl

theorem writeLoss_appends (dropped : Nat) :
    Appends crypto chainKey log (writeLoss crypto chainKey dbOpen log dropped) := by
  unfold writeLoss
  split
  · exact .refl
  · exact .single _

theorem drain_appends : Appends crypto chainKey log (queue.drain crypto chainKey dbOpen log).1 := by
  simp only [drain]
  split
  · exact .refl
  · have flushed : Appends crypto chainKey log (queue.flush crypto chainKey dbOpen log).1 := flush_appends
    split
    · exact flushed.trans (writeLoss_appends _)
    · exact flushed

end AuditQueue

namespace AuditWorld
variable {w : AuditWorld Key}

theorem auditLog_appends (ev : AuditEvent) : Appends crypto w.chainKey w.log (w.auditLog crypto ev).log := by
  simp only [auditLog]
  split
  · exact .refl
  · rw [insertAuditRowWithChain_short (by rfl) (by rfl)]
    exact .single _

theorem audit_appends (scope : AuditScope) (action : String) (options : AuditOptions) :
    Appends crypto w.chainKey w.log (w.audit crypto scope action options).log := by
  simp only [audit]
  split
  · exact AuditQueue.enqueue_appends _
  · split
    · exact .refl
    · exact .single _

/-- A step chains rows under the current key, or deletes rows. -/
theorem step_log (op : AuditOp Key) :
    Appends crypto w.chainKey w.log (w.step crypto op).log ∨ ∃ victim, (w.step crypto op).log = w.log.delete victim := by
  cases op with
  | audit scope action options => exact .inl (audit_appends scope action options)
  | auditLog ev => exact .inl (auditLog_appends ev)
  | initAuditQueue => exact .inl .refl
  | timerFlush =>
    left
    simp only [step]
    split
    · exact .refl
    · exact AuditQueue.flush_appends
  | drain =>
    left
    simp only [step]
    split
    · exact .refl
    · exact AuditQueue.drain_appends
  | sweep victim => exact .inr ⟨victim, rfl⟩
  | configureAuditChainKey key => exact .inl .refl
  | closeDb => exact .inl .refl

theorem step_chainKey (crypto : ChainCrypto Key) (w : AuditWorld Key) (op : AuditOp Key) :
    (w.step crypto op).chainKey = w.chainKey ∨ op = .configureAuditChainKey (w.step crypto op).chainKey := by
  cases op with
  | configureAuditChainKey key => exact .inr rfl
  | audit scope action options =>
    left
    simp only [step, audit]
    split
    · rfl
    · split <;> rfl
  | auditLog ev =>
    left
    simp only [step, auditLog]
    split <;> rfl
  | timerFlush =>
    left
    simp only [step]
    split <;> rfl
  | drain =>
    left
    simp only [step]
    split <;> rfl
  | initAuditQueue => exact .inl rfl
  | sweep victim => exact .inl rfl
  | closeDb => exact .inl rfl

end AuditWorld

/-- The log verifies under `key`, and has no keyed row while no key is set. -/
structure HonestLog (crypto : ChainCrypto Key) (key current : Option Key) (log : AuditLog) : Prop where
  verifies : Verifies crypto key log.rows
  unkeyed : current = none → ∀ row ∈ log.rows, ¬ row.keyed

variable {key current : Option Key}

/-- The tip is the hash of the row with the latest id, if that row still stands. -/
theorem AuditLog.tip_of_latest (hashed : ∀ row ∈ log.rows, row.rowHash.isSome) {row : ChainedRow}
    (member : row ∈ log.rows) (latest : row.id = log.seq) : some log.tip = row.rowHash := by
  obtain ⟨earlier, later, split⟩ := List.append_of_mem member
  have nothingLater : later = [] := by
    cases later with
    | nil => rfl
    | cons next rest =>
      have ordered := log.ordered
      rw [split, List.pairwise_append] at ordered
      have after := List.rel_of_pairwise_cons ordered.2.1 (List.mem_cons_self (a := next) (l := rest))
      have bounded := log.bound next (by simp [split])
      omega
  obtain ⟨hash, rowHash⟩ := Option.isSome_iff_exists.mp (hashed row member)
  simp [tip, split, nothingLater, List.filterMap_append, rowHash]

theorem HonestLog.chain (honest : HonestLog crypto key current log) (allowed : current = none ∨ current = key)
    (fields : AuditChainFields) : HonestLog crypto key current (log.chain crypto current fields) := by
  have added : Recomputes crypto key
      ⟨log.seq + 1, fields, some log.tip, some (computeRowHash crypto log.tip fields current)⟩ :=
    ⟨log.tip, current, rfl, allowed, rfl⟩
  have addedKeyed : ChainedRow.keyed
      ⟨log.seq + 1, fields, some log.tip, some (computeRowHash crypto log.tip fields current)⟩ ↔ current.isSome := by
    simp [ChainedRow.keyed, algorithmOf_computeRowHash]
  have hashed : ∀ row ∈ log.rows, row.rowHash.isSome := fun row member => (honest.verifies.recomputes row member).hashed
  refine ⟨⟨?_, ?_, ?_⟩, ?_⟩
  · intro row member
    rcases List.mem_append.mp member with before | last
    · exact honest.verifies.recomputes row before
    · rw [List.mem_singleton.mp last]
      exact added
  · refine List.pairwise_append.mpr ⟨honest.verifies.linked, List.pairwise_singleton _ _, ?_⟩
    intro row before next last consecutive
    rw [List.mem_singleton.mp last] at consecutive ⊢
    exact AuditLog.tip_of_latest hashed before (by simpa using consecutive.symm)
  · refine List.pairwise_append.mpr ⟨honest.verifies.keyKept, List.pairwise_singleton _ _, ?_⟩
    intro row before next last keyed
    rw [List.mem_singleton.mp last, addedKeyed, Option.isSome_iff_ne_none]
    intro none
    exact honest.unkeyed none row before keyed
  · intro none row member
    rcases List.mem_append.mp member with before | last
    · exact honest.unkeyed none row before
    · rw [List.mem_singleton.mp last, addedKeyed, none]
      simp

theorem HonestLog.appends {after : AuditLog} (honest : HonestLog crypto key current log)
    (allowed : current = none ∨ current = key) (appends : Appends crypto current log after) :
    HonestLog crypto key current after := by
  obtain ⟨entries, rfl⟩ := appends
  induction entries generalizing log with
  | nil => exact honest
  | cons fields rest ih => exact ih (honest.chain allowed fields)

theorem HonestLog.delete (honest : HonestLog crypto key current log) (victim : ChainedRow → Bool) :
    HonestLog crypto key current (log.delete victim) := by
  have kept : (log.delete victim).rows.Sublist log.rows := List.filter_sublist
  refine ⟨⟨?_, ?_, ?_⟩, ?_⟩
  · exact fun row member => honest.verifies.recomputes row (kept.mem member)
  · exact honest.verifies.linked.sublist kept
  · exact honest.verifies.keyKept.sublist kept
  · exact fun none row member => honest.unkeyed none row (kept.mem member)

theorem HonestLog.switchOn (honest : HonestLog crypto key current log) (allowed : current = none ∨ current = key) :
    HonestLog crypto key key log := by
  refine ⟨honest.verifies, ?_⟩
  intro none
  rcases allowed with unset | rfl
  · exact honest.unkeyed unset
  · exact honest.unkeyed none

/-- A log that verifies under the current key is honest for every key that may be switched on later. -/
theorem HonestLog.of_verify (ok : reportOk (verify crypto log.rows current)) (allowed : current = none ∨ current = key) :
    HonestLog crypto key current log := by
  have verifies := (verify_ok_iff log.ordered).mp ok
  refine ⟨⟨?_, verifies.linked, verifies.keyKept⟩, ?_⟩
  · intro row member
    obtain ⟨rowPrev, used, prevHash, choice, rowHash⟩ := verifies.recomputes row member
    refine ⟨rowPrev, used, prevHash, ?_, rowHash⟩
    rcases choice with none | rfl
    · exact .inl none
    · exact allowed
  · rintro rfl row member ⟨stored, rowHash, keyed⟩
    obtain ⟨rowPrev, used, -, choice, sameHash⟩ := verifies.recomputes row member
    rw [rowHash, Option.some.injEq] at sameHash
    rw [sameHash, algorithmOf_computeRowHash, choice.elim id id] at keyed
    cases keyed

theorem HonestLog.reportOk (honest : HonestLog crypto key current log) : reportOk (verify crypto log.rows key) :=
  (verify_ok_iff log.ordered).mpr honest.verifies

namespace AuditWorld

/-- The log is honest, and the key in force is the steady one or none yet. -/
structure Honest (crypto : ChainCrypto Key) (key : Option Key) (w : AuditWorld Key) : Prop where
  log : HonestLog crypto key w.chainKey w.log
  allowed : w.chainKey = none ∨ w.chainKey = key

variable {w : AuditWorld Key}

theorem Honest.step (honest : Honest crypto key w) {op : AuditOp Key}
    (steady : ∀ k, op = .configureAuditChainKey k → k = key) : Honest crypto key (w.step crypto op) := by
  have log : HonestLog crypto key w.chainKey (w.step crypto op).log := by
    rcases step_log op with appends | ⟨victim, deleted⟩
    · exact honest.log.appends honest.allowed appends
    · rw [deleted]
      exact honest.log.delete victim
  rcases step_chainKey crypto w op with same | configured
  · rw [← same] at log
    exact ⟨log, by rw [same]; exact honest.allowed⟩
  · have switched := steady _ configured
    refine ⟨?_, .inr switched⟩
    rw [switched]
    exact log.switchOn honest.allowed

theorem Honest.run (honest : Honest crypto key w) {ops : List (AuditOp Key)}
    (steady : ∀ k, .configureAuditChainKey k ∈ ops → k = key) : Honest crypto key (w.run crypto ops) := by
  induction ops generalizing w with
  | nil => exact honest
  | cons op rest ih =>
    have next : Honest crypto key (w.step crypto op) :=
      honest.step fun k configured => steady k (configured ▸ List.mem_cons_self)
    exact ih next fun k member => steady k (List.mem_cons_of_mem op member)

/-- Whatever the writers, the queue and the sweeper do, under a key that is never
set, set throughout or switched on once, `verify` finds nothing but gaps. -/
theorem honest_log_verifies (crypto : ChainCrypto Key) (key : Option Key) (w : AuditWorld Key) (ops : List (AuditOp Key))
    (startKey : w.chainKey = none ∨ w.chainKey = key) (steady : ∀ k, .configureAuditChainKey k ∈ ops → k = key)
    (ok : reportOk (verify crypto w.log.rows w.chainKey)) :
    reportOk (verify crypto (w.run crypto ops).log.rows key) := by
  have honest : Honest crypto key w := ⟨.of_verify ok startKey, startKey⟩
  exact (honest.run steady).log.reportOk

def fresh : AuditWorld Key := ⟨.empty, none, none, true⟩

/-- An unkeyed legacy row, the key, a Tier 1 row and a queued one, the sweeper, and the drain. -/
theorem honest_log_verifies_mixed :
    reportOk (verify .spelled (fresh.run .spelled [
      .auditLog ⟨some "ada", none, "auth.login", none, none, none, none⟩,
      .configureAuditChainKey (some "k"),
      .initAuditQueue,
      .audit ⟨some "ada", some "acme", none, none, none⟩ "admin.orgs.create" ⟨some .one, none, none, none⟩,
      .audit ⟨none, none, none, none, none⟩ "thread.opened" ⟨none, none, none, some .denied⟩,
      .sweep fun row => row.id = 2,
      .drain]).log.rows (some "k")) :=
  honest_log_verifies .spelled (some "k") fresh _ (.inl rfl) (by simp) rfl

end AuditWorld

end Writers

end Coordinator
