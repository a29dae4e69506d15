import Coordinator.AuditWriters
import Coordinator.Library.GuardedRun
import Mathlib.Data.List.Perm.Basic

namespace Coordinator

variable {Key : Type} (crypto : ChainCrypto Key)

/-- What a call of the queue leaves behind, when a write may throw. -/
structure QueueCall where
  log : AuditLog
  queue : AuditQueue
  threw : Bool

namespace AuditQueue

/-- A write that fails throws, and its transaction is rolled back. -/
def tryWriteBatchSync (chainKey : Option Key) (dbOpen fails : Bool) (log : AuditLog) (rows : List AuditQueueRow) :
    Option AuditLog :=
  if !dbOpen then some log else if fails then none else some (writeBatchSync crypto chainKey dbOpen log rows)

def tryFlush (chainKey : Option Key) (dbOpen fails : Bool) (log : AuditLog) (queue : AuditQueue) : QueueCall :=
  if queue.buffer = [] then ⟨log, queue, false⟩
  else if !dbOpen then ⟨log, { queue with buffer := [] }, false⟩
  else
    match tryWriteBatchSync crypto chainKey dbOpen fails log queue.buffer with
    | none => ⟨log, { queue with buffer := [] }, true⟩
    | some after =>
      let flushed := queue.flushed + queue.buffer.length
      ⟨after, { queue with buffer := [], flushed := flushed, batchesWritten := queue.batchesWritten + 1 }, false⟩

def tryEnqueue (chainKey : Option Key) (dbOpen fails : Bool) (log : AuditLog) (queue : AuditQueue)
    (row : AuditQueueRow) : QueueCall :=
  if queue.closed then
    match tryWriteBatchSync crypto chainKey dbOpen fails log [row] with
    | none => ⟨log, queue, true⟩
    | some after => ⟨after, { queue with flushed := queue.flushed + 1 }, false⟩
  else if capacity ≤ queue.buffer.length then ⟨log, { queue with dropped := queue.dropped + 1 }, false⟩
  else
    let queue := { queue with buffer := queue.buffer ++ [row], enqueued := queue.enqueued + 1 }
    if batchSize ≤ queue.buffer.length then queue.tryFlush crypto chainKey dbOpen fails log else ⟨log, queue, false⟩

/-- What `drain` reports in its last row, if it writes one. -/
def lossFields (dropped : Nat) : AuditChainFields :=
  ⟨"system.shutdown.audit_loss", none, none, none, none, some (lossMetadata dropped), some "failure", none, none⟩

/-- A batch that throws leaves the queue open; a loss row that cannot be written is swallowed. -/
def tryDrain (chainKey : Option Key) (dbOpen fails lossFails : Bool) (log : AuditLog) (queue : AuditQueue) :
    QueueCall × List AuditChainFields :=
  if queue.closed then (⟨log, queue, false⟩, [])
  else
    let call := queue.tryFlush crypto chainKey dbOpen fails log
    if call.threw then (call, [])
    else
      let queue : AuditQueue := { call.queue with closed := true }
      if 0 < queue.dropped then
        if !dbOpen || lossFails then (⟨call.log, queue, false⟩, [])
        else (⟨writeLoss crypto chainKey dbOpen call.log queue.dropped, queue, false⟩, [lossFields queue.dropped])
      else (⟨call.log, queue, false⟩, [])

end AuditQueue

/-- The database and the queue, with what was ever passed to `enqueue` and what `drain` has reported. -/
structure QueueWorld where
  log : AuditLog
  queue : AuditQueue
  dbOpen : Bool
  passed : List AuditQueueRow
  reports : List AuditChainFields

/-- `fails` says that the write of this call throws, if it comes to one. -/
inductive QueueOp
  | enqueue (row : AuditQueueRow) (fails : Bool)
  | flush (fails : Bool)
  | timer (fails : Bool)
  | drain (fails lossFails : Bool)
  | closeDb

def QueueOp.fails : QueueOp → Bool
  | .enqueue _ fails => fails
  | .flush fails => fails
  | .timer fails => fails
  | .drain fails _ => fails
  | .closeDb => false

namespace QueueWorld

def start (log : AuditLog) : QueueWorld := ⟨log, .new, true, [], []⟩

def after (w : QueueWorld) (call : QueueCall) : QueueWorld := { w with log := call.log, queue := call.queue }

/-- What the timer's callback catches is thrown to the caller elsewhere; the queue and the log are the same. -/
def step (chainKey : Option Key) (w : QueueWorld) : QueueOp → QueueWorld
  | .enqueue row fails =>
    { w.after (w.queue.tryEnqueue crypto chainKey w.dbOpen fails w.log row) with passed := w.passed ++ [row] }
  | .flush fails => w.after (w.queue.tryFlush crypto chainKey w.dbOpen fails w.log)
  | .timer fails => w.after (w.queue.tryFlush crypto chainKey w.dbOpen fails w.log)
  | .drain fails lossFails =>
    let drained := w.queue.tryDrain crypto chainKey w.dbOpen fails lossFails w.log
    { w.after drained.1 with reports := w.reports ++ drained.2 }
  | .closeDb => { w with dbOpen := false }

/-- The rows passed to `enqueue` are written, pending, counted as dropped, or have vanished. -/
def Traced (base : List AuditChainFields) (w : QueueWorld) (vanished : List AuditQueueRow) : Prop :=
  ∃ written lost : List AuditQueueRow, w.passed.Perm (written ++ w.queue.buffer ++ lost ++ vanished) ∧
    lost.length = w.queue.dropped ∧
    (w.log.rows.map ChainedRow.fields).Perm (base ++ written.map AuditQueueRow.chainFields ++ w.reports)

/-- Each row passed to `enqueue` is in the log beside what it held at the start, in the buffer, or in the counter. -/
def Accounted (base : AuditLog) (w : QueueWorld) : Prop := Traced (base.rows.map ChainedRow.fields) w []

/-- The rows that a call takes to be written. -/
def taken (w : QueueWorld) : QueueOp → List AuditQueueRow
  | .enqueue row _ =>
    if w.queue.closed then [row]
    else if AuditQueue.capacity ≤ w.queue.buffer.length then []
    else if AuditQueue.batchSize ≤ (w.queue.buffer ++ [row]).length then w.queue.buffer ++ [row]
    else []
  | .flush _ => w.queue.buffer
  | .timer _ => w.queue.buffer
  | .drain _ _ => if w.queue.closed then [] else w.queue.buffer
  | .closeDb => []

/-- A call that takes rows to be written finds the database open, and its write does not fail. -/
def Lands (w : QueueWorld) (op : QueueOp) : Prop := w.taken op ≠ [] → w.dbOpen = true ∧ op.fails = false

end QueueWorld

section
variable {crypto} {chainKey : Option Key} {dbOpen fails : Bool} {log : AuditLog} {queue : AuditQueue}

/-- The rows of a batch that reach the log. -/
def landed (dbOpen fails : Bool) (rows : List AuditQueueRow) : List AuditQueueRow :=
  if dbOpen = true ∧ fails = false then rows else []

/-- The rows of a batch that do not. -/
def unlanded (dbOpen fails : Bool) (rows : List AuditQueueRow) : List AuditQueueRow :=
  if dbOpen = true ∧ fails = false then [] else rows

theorem landed_append_unlanded (dbOpen fails : Bool) (rows : List AuditQueueRow) :
    landed dbOpen fails rows ++ unlanded dbOpen fails rows = rows := by
  unfold landed unlanded
  split <;> simp

theorem AuditLog.foldl_chain_fields (entries : List AuditChainFields) (log : AuditLog) :
    (entries.foldl (AuditLog.chain crypto chainKey) log).rows.map ChainedRow.fields =
      log.rows.map ChainedRow.fields ++ entries := by
  induction entries generalizing log with
  | nil => simp
  | cons fields rest ih =>
    rw [List.foldl_cons, ih]
    simp [AuditLog.chain, AuditLog.insert]

namespace AuditQueue

theorem writeBatchSync_fields (rows : List AuditQueueRow) :
    (writeBatchSync crypto chainKey true log rows).rows.map ChainedRow.fields =
      log.rows.map ChainedRow.fields ++ rows.map AuditQueueRow.chainFields := by
  rw [writeBatchSync, foldl_writeNext]
  exact AuditLog.foldl_chain_fields _ log

/-- With no write that fails, the calls are those of the happy path. -/
theorem tryFlush_sound :
    queue.tryFlush crypto chainKey dbOpen false log =
      ⟨(queue.flush crypto chainKey dbOpen log).1, (queue.flush crypto chainKey dbOpen log).2, false⟩ := by
  unfold tryFlush flush
  split
  · rfl
  · cases dbOpen <;> simp [tryWriteBatchSync]

theorem tryEnqueue_sound (row : AuditQueueRow) :
    queue.tryEnqueue crypto chainKey dbOpen false log row =
      ⟨(queue.enqueue crypto chainKey dbOpen log row).1, (queue.enqueue crypto chainKey dbOpen log row).2, false⟩ := by
  simp only [tryEnqueue, enqueue, tryFlush_sound]
  split
  · cases dbOpen <;> simp [tryWriteBatchSync, writeBatchSync]
  · split
    · rfl
    · split <;> rfl

theorem tryDrain_sound :
    (queue.tryDrain crypto chainKey dbOpen false false log).1 =
      ⟨(queue.drain crypto chainKey dbOpen log).1, (queue.drain crypto chainKey dbOpen log).2, false⟩ := by
  simp only [tryDrain, drain, tryFlush_sound, Bool.false_eq_true, if_false]
  split
  · rfl
  · split
    · cases dbOpen <;> simp [writeLoss]
    · rfl

/-- A flush empties the buffer, whether or not its rows reach the log. -/
theorem tryFlush_spec (crypto : ChainCrypto Key) (chainKey : Option Key) (dbOpen fails : Bool) (log : AuditLog)
    (queue : AuditQueue) :
    let call := queue.tryFlush crypto chainKey dbOpen fails log
    call.queue.buffer = [] ∧ call.queue.dropped = queue.dropped ∧
      call.log.rows.map ChainedRow.fields =
        log.rows.map ChainedRow.fields ++ (landed dbOpen fails queue.buffer).map AuditQueueRow.chainFields := by
  intro call
  unfold call tryFlush
  split
  · rename_i empty
    simp [empty, landed]
  · cases dbOpen with
    | false => simp [landed]
    | true =>
      cases fails with
      | false => simpa [tryWriteBatchSync, landed] using writeBatchSync_fields queue.buffer
      | true => simp [tryWriteBatchSync, landed]

/-- The loss row is stored, and its report kept, or nothing happens. -/
theorem tryDrain_spec (crypto : ChainCrypto Key) (chainKey : Option Key) (dbOpen fails lossFails : Bool)
    (log : AuditLog) (queue : AuditQueue) (notClosed : queue.closed = false) :
    let drained := queue.tryDrain crypto chainKey dbOpen fails lossFails log
    drained.1.queue.buffer = [] ∧ drained.1.queue.dropped = queue.dropped ∧
      drained.1.log.rows.map ChainedRow.fields =
        log.rows.map ChainedRow.fields ++ (landed dbOpen fails queue.buffer).map AuditQueueRow.chainFields ++
          drained.2 := by
  intro drained
  obtain ⟨buffer, dropped, fields⟩ := tryFlush_spec crypto chainKey dbOpen fails log queue
  have silent : ∀ after : AuditQueue, after.buffer = [] → after.dropped = queue.dropped →
      after.buffer = [] ∧ after.dropped = queue.dropped ∧
        (queue.tryFlush crypto chainKey dbOpen fails log).log.rows.map ChainedRow.fields =
          log.rows.map ChainedRow.fields ++ (landed dbOpen fails queue.buffer).map AuditQueueRow.chainFields ++ [] := by
    intro after emptied counted
    exact ⟨emptied, counted, by rw [fields, List.append_nil]⟩
  simp only [drained, tryDrain, notClosed, Bool.false_eq_true, if_false]
  split
  · exact silent _ buffer dropped
  · split
    · split
      · exact silent _ buffer dropped
      · rename_i written
        have reachable : dbOpen = true := by
          by_contra shut
          simp [shut] at written
        refine ⟨buffer, dropped, ?_⟩
        rw [← fields, writeLoss, reachable]
        simp [AuditLog.insert, lossFields]
    · exact silent _ buffer dropped

end AuditQueue

namespace QueueWorld
variable {w t : QueueWorld} {base : List AuditChainFields} {vanished vanished' : List AuditQueueRow}

/-- How many rows have vanished can be told from the counts. -/
theorem Traced.length_eq (traced : Traced base w vanished) (traced' : Traced base w vanished') :
    vanished.length = vanished'.length := by
  obtain ⟨written, lost, rows, counted, stored⟩ := traced
  obtain ⟨written', lost', rows', counted', stored'⟩ := traced'
  have total := rows.symm.length_eq.trans rows'.length_eq
  have logged := stored.symm.length_eq.trans stored'.length_eq
  simp only [List.length_append, List.length_map] at total logged
  omega

/-- New rows join the buffer, some of it is dropped and counted, and some taken to be written. -/
theorem Traced.moves (traced : Traced base w []) (new dropped rows : List AuditQueueRow)
    (more : List AuditChainFields) (passed : t.passed = w.passed ++ new)
    (moved : (w.queue.buffer ++ new).Perm (t.queue.buffer ++ dropped ++ rows))
    (counter : t.queue.dropped = w.queue.dropped + dropped.length)
    (fields : t.log.rows.map ChainedRow.fields = w.log.rows.map ChainedRow.fields ++
      (landed dbOpen fails rows).map AuditQueueRow.chainFields ++ more)
    (reports : t.reports = w.reports ++ more) : Traced base t (unlanded dbOpen fails rows) := by
  obtain ⟨written, lost, known, counted, stored⟩ := traced
  refine ⟨written ++ landed dbOpen fails rows, lost ++ dropped, ?_, ?_, ?_⟩
  · refine List.perm_iff_count.mpr ?_
    intro row
    have before := known.count_eq row
    have moving := moved.count_eq row
    have split := congrArg (List.count row) (landed_append_unlanded dbOpen fails rows)
    simp only [List.count_append, List.count_nil] at before moving split
    simp only [passed, List.count_append]
    omega
  · rw [List.length_append, counted, counter]
  · refine List.perm_iff_count.mpr ?_
    intro entry
    have before := stored.count_eq entry
    simp only [List.count_append] at before
    simp only [fields, reports, List.map_append, List.count_append]
    omega

theorem step_flush (traced : Traced base w []) :
    Traced base (w.after (w.queue.tryFlush crypto chainKey w.dbOpen fails w.log))
      (unlanded w.dbOpen fails w.queue.buffer) := by
  obtain ⟨buffer, dropped, fields⟩ := AuditQueue.tryFlush_spec crypto chainKey w.dbOpen fails w.log w.queue
  refine traced.moves [] [] w.queue.buffer [] (List.append_nil _).symm ?_ dropped ?_ (List.append_nil _).symm
  · simp [after, buffer]
  · rw [List.append_nil]
    exact fields

theorem step_enqueue (traced : Traced base w []) (row : AuditQueueRow) :
    Traced base (w.step crypto chainKey (.enqueue row fails)) (unlanded w.dbOpen fails (w.taken (.enqueue row fails))) := by
  simp only [step, taken, AuditQueue.tryEnqueue]
  split
  · -- after the drain the row goes to the log at once
    refine traced.moves [row] [] [row] [] rfl ?_ ?_ ?_ (List.append_nil _).symm
    · unfold AuditQueue.tryWriteBatchSync
      cases w.dbOpen <;> cases fails <;> simp [after]
    · unfold AuditQueue.tryWriteBatchSync
      cases w.dbOpen <;> cases fails <;> simp [after]
    · rw [List.append_nil]
      cases open' : w.dbOpen with
      | false => simp [AuditQueue.tryWriteBatchSync, after, landed]
      | true =>
        cases fails with
        | true => simp [AuditQueue.tryWriteBatchSync, after, landed]
        | false => simpa [AuditQueue.tryWriteBatchSync, after, landed] using AuditQueue.writeBatchSync_fields [row]
  · split
    · refine traced.moves [row] [row] [] [] rfl ?_ rfl ?_ (List.append_nil _).symm
      · simp [after]
      · simp [after, landed]
    · split
      · obtain ⟨buffer, dropped, fields⟩ := AuditQueue.tryFlush_spec crypto chainKey w.dbOpen fails w.log
          { w.queue with buffer := w.queue.buffer ++ [row], enqueued := w.queue.enqueued + 1 }
        refine traced.moves [row] [] (w.queue.buffer ++ [row]) [] rfl ?_ dropped ?_ (List.append_nil _).symm
        · simp [after, buffer]
        · rw [List.append_nil]
          exact fields
      · refine traced.moves [row] [] [] [] rfl ?_ rfl ?_ (List.append_nil _).symm
        · simp [after]
        · simp [after, landed]

theorem step_drain (traced : Traced base w []) (lossFails : Bool) :
    Traced base (w.step crypto chainKey (.drain fails lossFails))
      (unlanded w.dbOpen fails (w.taken (.drain fails lossFails))) := by
  simp only [step, taken]
  split
  · rename_i closed
    simpa [AuditQueue.tryDrain, closed, after, unlanded] using traced
  · rename_i notClosed
    obtain ⟨buffer, dropped, fields⟩ := AuditQueue.tryDrain_spec crypto chainKey w.dbOpen fails lossFails w.log w.queue
      (Bool.eq_false_iff.mpr notClosed)
    refine traced.moves [] [] w.queue.buffer _ (List.append_nil _).symm ?_ dropped fields rfl
    simp [after, buffer]

/-- What vanishes in a step is what it takes to be written and does not write. -/
theorem step_traced (crypto : ChainCrypto Key) (chainKey : Option Key) (traced : Traced base w []) (op : QueueOp) :
    Traced base (w.step crypto chainKey op) (unlanded w.dbOpen op.fails (w.taken op)) := by
  cases op with
  | enqueue row fails => exact step_enqueue traced row
  | flush fails => exact step_flush traced
  | timer fails => exact step_flush traced
  | drain fails lossFails => exact step_drain traced lossFails
  | closeDb =>
    rw [show unlanded w.dbOpen _ (w.taken .closeDb) = [] by simp [taken, unlanded]]
    exact traced

theorem unlanded_nil_iff {op : QueueOp} : unlanded w.dbOpen op.fails (w.taken op) = [] ↔ Lands w op := by
  unfold unlanded Lands
  split
  · rename_i lands
    exact iff_of_true rfl fun _ => lands
  · rename_i fails
    exact ⟨fun none some => absurd none some, fun lands => by_contra fun some => fails (lands some)⟩

theorem start_traced (log : AuditLog) : Traced (log.rows.map ChainedRow.fields) (start log) [] := by
  refine ⟨[], [], ?_, rfl, ?_⟩
  · exact .refl _
  · simp [start]

/-- In every state of a run each row passed to `enqueue` is accounted for: exactly when
every call that takes rows to be written finds the database open and writes them. -/
theorem rows_accounted_iff (crypto : ChainCrypto Key) (chainKey : Option Key) (log : AuditLog) (ops : List QueueOp) :
    (∀ done, done <+: ops → Accounted log (done.foldl (step crypto chainKey) (start log))) ↔
      GuardedRun.Meets (step crypto chainKey) Lands (start log) ops := by
  refine GuardedRun.Meets.iff_always (P := Accounted log) (start_traced log) (fun _ traced => traced) ?_ ?_
  · intro w op traced lands
    have stepped := step_traced crypto chainKey traced op
    rwa [unlanded_nil_iff.mpr lands] at stepped
  · intro w op traced accounted
    have none := (step_traced crypto chainKey traced op).length_eq accounted
    exact unlanded_nil_iff.mp (List.eq_nil_of_length_eq_zero none)

/-- A row is enqueued, the disk fails under the timer, and nothing tells of the row. -/
theorem not_rows_accounted : ¬ ∀ (log : AuditLog) (ops done : List QueueOp), done <+: ops →
    Accounted log (done.foldl (step ChainCrypto.spelled none) (start log)) := by
  intro accounted
  let row : AuditQueueRow := ⟨some "ada", some "acme", "auth.login", none, none, none, none, .success, none⟩
  obtain ⟨written, lost, rows, counted, stored⟩ := accounted .empty _ [.enqueue row false, .timer true] List.prefix_rfl
  have total := rows.length_eq
  have logged := stored.length_eq
  simp [step, start, after, AuditQueue.tryEnqueue, AuditQueue.tryFlush, AuditQueue.tryWriteBatchSync, AuditQueue.new,
    AuditQueue.capacity, AuditQueue.batchSize, AuditLog.empty] at total counted logged
  rw [counted, List.length_nil] at total
  omega

end QueueWorld
end

end Coordinator
