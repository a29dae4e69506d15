import Coordinator.GitCochange

namespace Coordinator
namespace GitCochange

open PathNormalize (CodeUnits PathRuntime units normalizePath asciiRuntime)

/-- The bytes of a unit that is no half of a surrogate pair, those of U+FFFD for one that is. -/
def unitBytes (c : UInt16) : List UInt8 :=
  if 0xD800 ≤ c ∧ c ≤ 0xDFFF then String.utf8EncodeChar '\uFFFD' else String.utf8EncodeChar (Char.ofNat c.toNat)

/-- The UTF-8 text that the database keeps of a string; it compares texts by their bytes. -/
def storedText : CodeUnits → List UInt8
  | c :: d :: rest =>
    if 0xD800 ≤ c ∧ c ≤ 0xDBFF ∧ 0xDC00 ≤ d ∧ d ≤ 0xDFFF then
      String.utf8EncodeChar (Char.ofNat (0x10000 + (c.toNat - 0xD800) * 0x400 + (d.toNat - 0xDC00))) ++ storedText rest
    else unitBytes c ++ storedText (d :: rest)
  | [c] => unitBytes c
  | [] => []

structure CochangeRow where
  orgId : String
  fileA : List UInt8
  fileB : List UInt8
  count : Nat
  totalCommits : Nat
  computedAt : String
  deriving DecidableEq

/-- `PRIMARY KEY (org_id, file_a, file_b)`. -/
def CochangeRow.key (r : CochangeRow) : String × List UInt8 × List UInt8 := (r.orgId, r.fileA, r.fileB)

structure CochangeMetaRow where
  orgId : String
  k : String
  v : String
  deriving DecidableEq

/-- `PRIMARY KEY (org_id, k)`. -/
def CochangeMetaRow.key (r : CochangeMetaRow) : String × String := (r.orgId, r.k)

/-- The tables that a build writes, and the organisations that their rows refer to. -/
structure CochangeDb where
  cochange : Table CochangeRow CochangeRow.key
  cochangeMeta : Table CochangeMetaRow CochangeMetaRow.key
  orgs : List String

/-- The statements of a build; the transaction stands for its `BEGIN` and its `COMMIT`. -/
inductive Statement
  | deleteRows
  | transaction
  | insert (key : CodeUnits)
  | setMeta (k : String)

inductive BuildError
  | path (message : CodeUnits)
  | check
  | primaryKey
  | foreignKey
  | refused

/-- What one call of `build` finds: the checkout, what `git log` gives, and the statements that the database refuses
for reasons of its own (it is busy, full or gone). -/
structure Builder where
  rt : PathRuntime
  repoRoot : CodeUnits
  gitDir : Bool
  shallow : Bool
  runGitLog : Except String CodeUnits
  refuses : Statement → Bool
  datetimeNow : String
  isoNow : String

namespace Builder
variable (b : Builder) (orgId : String)

/-- `INSERT OR REPLACE INTO git_cochange_meta`. -/
def setMeta (k v : String) (db : CochangeDb) : Except BuildError CochangeDb :=
  if b.refuses (.setMeta k) then .error .refused
  else if orgId ∈ db.orgs then .ok { db with cochangeMeta := db.cochangeMeta.put ⟨orgId, k, v⟩ }
  else .error .foreignKey

/-- `DELETE FROM git_cochange WHERE org_id = ?`. -/
def deleteRows (db : CochangeDb) : Except BuildError CochangeDb :=
  if b.refuses .deleteRows then .error .refused
  else .ok { db with cochange := db.cochange.delete fun r => r.orgId = orgId }

/-- The row of two files, `na` the lesser. -/
def row (na nb : CodeUnits) (count totalCommits : Nat) : CochangeRow :=
  ⟨orgId, storedText na, storedText nb, count, totalCommits, b.datetimeNow⟩

/-- `stmt.run`, with what the table's constraints refuse. -/
def insertRow (orgs : List String) (key : CodeUnits) (r : CochangeRow) (table : Table CochangeRow CochangeRow.key) :
    Except BuildError (Table CochangeRow CochangeRow.key) :=
  if b.refuses (.insert key) then .error .refused
  else if ¬ r.fileA < r.fileB then .error .check
  else
    match table.insert r with
    | none => .error .primaryKey
    | some inserted => if r.orgId ∈ orgs then .ok inserted else .error .foreignKey

def insertPair (orgs : List String) (capped : List CodeUnits) (totalCommits : Nat)
    (table : Table CochangeRow CochangeRow.key) (entry : CodeUnits × Nat) :
    Except BuildError (Table CochangeRow CochangeRow.key) :=
  let (x, y) := parts entry.1
  if x ∈ capped ∨ y ∈ capped then .ok table
  else
    match normalizePath b.rt [b.repoRoot] x with
    | .error message => .error (.path message)
    | .ok nx =>
      match normalizePath b.rt [b.repoRoot] y with
      | .error message => .error (.path message)
      | .ok ny =>
        if nx < ny then b.insertRow orgs entry.1 (b.row orgId nx ny entry.2 totalCommits) table
        else if ny < nx then b.insertRow orgs entry.1 (b.row orgId ny nx entry.2 totalCommits) table
        else .ok table

/-- The transaction: all rows of the parsed log, or none. -/
def insertMany (stdout : CodeUnits) (db : CochangeDb) : Except BuildError CochangeDb :=
  let (pairs, totalCommits) := parseLog stdout
  let capped := promiscuous pairs totalCommits
  if b.refuses .transaction then .error .refused
  else (pairs.rows.foldlM (b.insertPair orgId db.orgs capped totalCommits) db.cochange).map fun table =>
    { db with cochange := table }

end Builder

/-- Steps that each leave what they wrote, until one throws. -/
def runSteps : List (CochangeDb → Except BuildError CochangeDb) → CochangeDb → Option BuildError × CochangeDb
  | [], db => (none, db)
  | step :: rest, db =>
    match step db with
    | .error e => (some e, db)
    | .ok next => runSteps rest next

/-- What `build` throws, and the database that it leaves. -/
def Builder.build (b : Builder) (orgId : String) (db : CochangeDb) : Option BuildError × CochangeDb :=
  if ¬ b.gitDir then runSteps [b.setMeta orgId "available" "false"] db
  else if b.shallow then runSteps [b.setMeta orgId "available" "false"] db
  else
    match b.runGitLog with
    | .error message => runSteps [b.setMeta orgId "available" "false", b.setMeta orgId "last_error" message] db
    | .ok stdout =>
      if stdout = units "TIMEOUT" then runSteps [b.setMeta orgId "available" "stale_partial"] db
      else
        runSteps [b.deleteRows orgId, b.insertMany orgId stdout, b.setMeta orgId "available" "true",
          b.setMeta orgId "last_built_at" b.isoNow] db

namespace Builder

/-- The row of a pair of which neither file is capped, unless both have one name. -/
def pairRow (b : Builder) (orgId : String) (capped : List CodeUnits) (totalCommits : Nat) (entry : CodeUnits × Nat) :
    Option CochangeRow :=
  if (parts entry.1).1 ∈ capped ∨ (parts entry.1).2 ∈ capped then none
  else
    match normalizePath b.rt [b.repoRoot] (parts entry.1).1, normalizePath b.rt [b.repoRoot] (parts entry.1).2 with
    | .ok nx, .ok ny =>
      if nx < ny then some (b.row orgId nx ny entry.2 totalCommits)
      else if ny < nx then some (b.row orgId ny nx entry.2 totalCommits)
      else none
    | _, _ => none

/-- The rows that a log yields. -/
def newRows (b : Builder) (orgId : String) (stdout : CodeUnits) : List CochangeRow :=
  let (pairs, totalCommits) := parseLog stdout
  pairs.rows.filterMap (b.pairRow orgId (promiscuous pairs totalCommits) totalCommits)

/-- Nothing stands against the row of a pair but another row. -/
structure PairStorable (b : Builder) (orgId : String) (orgs : List String) (capped : List CodeUnits) (totalCommits : Nat)
    (entry : CodeUnits × Nat) : Prop where
  named : ¬ ((parts entry.1).1 ∈ capped ∨ (parts entry.1).2 ∈ capped) →
    (∃ nx, normalizePath b.rt [b.repoRoot] (parts entry.1).1 = .ok nx) ∧
      ∃ ny, normalizePath b.rt [b.repoRoot] (parts entry.1).2 = .ok ny
  admitted : ∀ r, b.pairRow orgId capped totalCommits entry = some r →
    b.refuses (.insert entry.1) = false ∧ r.fileA < r.fileB ∧ orgId ∈ orgs

/-- The transaction goes through: the paths of all pairs that are kept have keys, which the database orders as the
code does, and no two pairs have the same. -/
structure Storable (b : Builder) (orgId : String) (orgs : List String) (stdout : CodeUnits) : Prop where
  admitted : b.refuses .transaction = false
  pairs : ∀ entry ∈ (parseLog stdout).1.rows, b.PairStorable orgId orgs
    (promiscuous (parseLog stdout).1 (parseLog stdout).2) (parseLog stdout).2 entry
  apart : ((b.newRows orgId stdout).map CochangeRow.key).Nodup

/-- The log that a build stores, if it comes so far. -/
def storedLog (b : Builder) : Option CodeUnits :=
  match b.gitDir, b.shallow, b.runGitLog with
  | true, false, .ok stdout => if stdout = units "TIMEOUT" then none else some stdout
  | _, _, _ => none

end Builder

def orgRows (db : CochangeDb) (orgId : String) : List CochangeRow := db.cochange.rows.filter fun r => r.orgId = orgId

/-- A build that throws leaves the rows of its organisation as they were. -/
def Builder.KeepsIndex (b : Builder) (orgId : String) (db : CochangeDb) : Prop :=
  ∀ e after, b.build orgId db = (some e, after) → orgRows after orgId = orgRows db orgId

/-- Behind a `DELETE` that went through, every statement does, or there was nothing to lose. -/
def Builder.Unharmed (b : Builder) (orgId : String) (db : CochangeDb) : Prop :=
  ∀ stdout, b.storedLog = some stdout → b.refuses .deleteRows = false →
    (b.Storable orgId db.orgs stdout ∧
        (orgId ∈ db.orgs ∧ b.refuses (.setMeta "available") = false ∧ b.refuses (.setMeta "last_built_at") = false ∨
          orgRows db orgId = b.newRows orgId stdout)) ∨
      ¬ b.Storable orgId db.orgs stdout ∧ orgRows db orgId = []

variable {b : Builder} {orgId : String} {orgs : List String} {capped : List CodeUnits} {totalCommits : Nat}
  {entry : CodeUnits × Nat} {table next : Table CochangeRow CochangeRow.key} {db after : CochangeDb} {stdout : CodeUnits}

theorem insertRow_ok_iff {key : CodeUnits} {r : CochangeRow} : b.insertRow orgs key r table = .ok next ↔
    (b.refuses (.insert key) = false ∧ r.fileA < r.fileB ∧ r.orgId ∈ orgs) ∧ next.rows = table.rows ++ [r] := by
  rw [← Table.insert_eq_some, Builder.insertRow]
  by_cases refused : b.refuses (.insert key) = true
  · simp [refused]
  · by_cases ordered : r.fileA < r.fileB
    · cases inserted : table.insert r with
      | none => simp [refused, ordered]
      | some _ =>
        by_cases known : r.orgId ∈ orgs
        · simp [refused, ordered, known]
        · simp [refused, ordered, known]
    · simp [refused, ordered]

theorem table_eq_iff : table = next ↔ next.rows = table.rows := by
  cases table
  cases next
  simp [eq_comm]

theorem pairRow_orgId {r : CochangeRow} (some : b.pairRow orgId capped totalCommits entry = some r) : r.orgId = orgId := by
  unfold Builder.pairRow at some
  split at some
  · cases some
  · split at some
    · split at some
      · cases some
        rfl
      · split at some
        · cases some
          rfl
        · cases some
    · cases some

/-- Where both files of a pair have a key, or one is capped, all that can stop it is its row. -/
theorem insertPair_named (named : ¬ ((parts entry.1).1 ∈ capped ∨ (parts entry.1).2 ∈ capped) →
    (∃ nx, normalizePath b.rt [b.repoRoot] (parts entry.1).1 = .ok nx) ∧
      ∃ ny, normalizePath b.rt [b.repoRoot] (parts entry.1).2 = .ok ny) :
    b.insertPair orgId orgs capped totalCommits table entry =
      match b.pairRow orgId capped totalCommits entry with
      | none => .ok table
      | some r => b.insertRow orgs entry.1 r table := by
  simp only [Builder.insertPair, Builder.pairRow]
  by_cases cap : (parts entry.1).1 ∈ capped ∨ (parts entry.1).2 ∈ capped
  · rw [if_pos cap, if_pos cap]
  · obtain ⟨⟨nx, first⟩, ny, second⟩ := named cap
    rw [if_neg cap, if_neg cap, first, second]
    simp only
    by_cases less : nx < ny
    · rw [if_pos less, if_pos less]
    · by_cases greater : ny < nx
      · rw [if_neg less, if_neg less, if_pos greater, if_pos greater]
      · rw [if_neg less, if_neg less, if_neg greater, if_neg greater]

theorem named_of_insertPair (run : b.insertPair orgId orgs capped totalCommits table entry = .ok next)
    (uncapped : ¬ ((parts entry.1).1 ∈ capped ∨ (parts entry.1).2 ∈ capped)) :
    (∃ nx, normalizePath b.rt [b.repoRoot] (parts entry.1).1 = .ok nx) ∧
      ∃ ny, normalizePath b.rt [b.repoRoot] (parts entry.1).2 = .ok ny := by
  simp only [Builder.insertPair, if_neg uncapped] at run
  cases first : normalizePath b.rt [b.repoRoot] (parts entry.1).1 with
  | error message =>
    rw [first] at run
    cases run
  | ok nx =>
    cases second : normalizePath b.rt [b.repoRoot] (parts entry.1).2 with
    | error message =>
      rw [first, second] at run
      cases run
    | ok ny => exact ⟨⟨nx, rfl⟩, ny, rfl⟩

/-- One pair of the loop adds its row, or stops it. -/
theorem insertPair_ok_iff : b.insertPair orgId orgs capped totalCommits table entry = .ok next ↔
    b.PairStorable orgId orgs capped totalCommits entry ∧
      next.rows = table.rows ++ (b.pairRow orgId capped totalCommits entry).toList := by
  by_cases named : ¬ ((parts entry.1).1 ∈ capped ∨ (parts entry.1).2 ∈ capped) →
      (∃ nx, normalizePath b.rt [b.repoRoot] (parts entry.1).1 = .ok nx) ∧
        ∃ ny, normalizePath b.rt [b.repoRoot] (parts entry.1).2 = .ok ny
  · rw [insertPair_named named]
    cases row : b.pairRow orgId capped totalCommits entry with
    | none =>
      have storable : b.PairStorable orgId orgs capped totalCommits entry := ⟨named, fun r some => by
        rw [row] at some
        cases some⟩
      rw [and_iff_right storable, Option.toList_none, List.append_nil, Except.ok.injEq]
      exact table_eq_iff
    | some r =>
      rw [insertRow_ok_iff, Option.toList_some, pairRow_orgId row]
      refine and_congr_left fun _ => ⟨fun admitted => ⟨named, fun other same => ?_⟩, fun storable => ?_⟩
      · rw [row] at same
        cases same
        exact admitted
      · exact storable.admitted r row
  · exact iff_of_false (fun run => named (named_of_insertPair run)) fun both => named both.1.named

/-- The loop adds the rows of all its pairs, or stops. -/
theorem insertPairs_ok_iff (entries : List (CodeUnits × Nat)) :
    entries.foldlM (b.insertPair orgId orgs capped totalCommits) table = .ok next ↔
      (∀ entry ∈ entries, b.PairStorable orgId orgs capped totalCommits entry) ∧
        next.rows = table.rows ++ entries.filterMap (b.pairRow orgId capped totalCommits) := by
  induction entries generalizing table with
  | nil =>
    rw [List.foldlM_nil, List.filterMap_nil, List.append_nil, and_iff_right (List.forall_mem_nil _)]
    show Except.ok table = .ok next ↔ _
    rw [Except.ok.injEq]
    exact table_eq_iff
  | cons entry rest ih =>
    have front : ∀ row, b.pairRow orgId capped totalCommits entry = row →
        (entry :: rest).filterMap (b.pairRow orgId capped totalCommits) =
          row.toList ++ rest.filterMap (b.pairRow orgId capped totalCommits) := by
      rintro row rfl
      cases shape : b.pairRow orgId capped totalCommits entry with
      | none => rw [List.filterMap_cons_none shape, Option.toList_none, List.nil_append]
      | some row => rw [List.filterMap_cons_some shape, Option.toList_some, List.singleton_append]
    rw [List.foldlM_cons, front _ rfl, ← List.append_assoc]
    constructor
    · intro run
      cases first : b.insertPair orgId orgs capped totalCommits table entry with
      | error e =>
        rw [first] at run
        cases run
      | ok middle =>
        rw [first] at run
        obtain ⟨storable, grown⟩ := insertPair_ok_iff.mp first
        obtain ⟨others, rows⟩ := ih.mp run
        rw [grown] at rows
        exact ⟨List.forall_mem_cons.mpr ⟨storable, others⟩, rows⟩
    · rintro ⟨storable, rows⟩
      obtain ⟨storable, others⟩ := List.forall_mem_cons.mp storable
      have keyed := next.keyed
      rw [rows, List.map_append] at keyed
      let middle : Table CochangeRow CochangeRow.key :=
        ⟨table.rows ++ (b.pairRow orgId capped totalCommits entry).toList, (List.nodup_append.mp keyed).1⟩
      have first : b.insertPair orgId orgs capped totalCommits table entry = .ok middle :=
        insertPair_ok_iff.mpr ⟨storable, rfl⟩
      rw [first]
      exact ih.mpr ⟨others, rows⟩

theorem newRows_orgId {r : CochangeRow} (listed : r ∈ b.newRows orgId stdout) : r.orgId = orgId := by
  obtain ⟨entry, -, some⟩ := List.mem_filterMap.mp listed
  exact pairRow_orgId some

/-- Into a table without rows of the organisation the transaction goes through or it does not. -/
theorem insertMany_ok_iff (cleared : ∀ r ∈ db.cochange.rows, r.orgId ≠ orgId) :
    (∃ after, b.insertMany orgId stdout db = .ok after) ↔ b.Storable orgId db.orgs stdout := by
  unfold Builder.insertMany
  simp only
  by_cases refused : b.refuses .transaction = true
  · rw [if_pos refused]
    refine iff_of_false (by rintro ⟨after, same⟩; cases same) fun storable => ?_
    rw [storable.admitted] at refused
    cases refused
  · rw [if_neg refused]
    constructor
    · rintro ⟨after, ran⟩
      cases run : (parseLog stdout).1.rows.foldlM (b.insertPair orgId db.orgs
          (promiscuous (parseLog stdout).1 (parseLog stdout).2) (parseLog stdout).2) db.cochange with
      | error e =>
        rw [run] at ran
        cases ran
      | ok next =>
        obtain ⟨pairs, rows⟩ := (insertPairs_ok_iff _).mp run
        have keyed := next.keyed
        rw [rows, List.map_append] at keyed
        exact ⟨eq_false_of_ne_true refused, pairs, (List.nodup_append.mp keyed).2.1⟩
    · intro storable
      have keyed : ((db.cochange.rows ++ b.newRows orgId stdout).map CochangeRow.key).Nodup := by
        rw [List.map_append]
        refine List.nodup_append.mpr ⟨db.cochange.keyed, storable.apart, ?_⟩
        rintro k old k' new rfl
        obtain ⟨r, listed, rfl⟩ := List.mem_map.mp old
        obtain ⟨r', listed', same⟩ := List.mem_map.mp new
        have sameOrg : r'.orgId = r.orgId := congrArg Prod.fst same
        exact cleared r listed (sameOrg.symm.trans (newRows_orgId listed'))
      let next : Table CochangeRow CochangeRow.key := ⟨db.cochange.rows ++ b.newRows orgId stdout, keyed⟩
      have run : (parseLog stdout).1.rows.foldlM (b.insertPair orgId db.orgs
          (promiscuous (parseLog stdout).1 (parseLog stdout).2) (parseLog stdout).2) db.cochange = .ok next :=
        (insertPairs_ok_iff _).mpr ⟨storable.pairs, rfl⟩
      exact ⟨_, congrArg (Except.map _) run⟩

theorem insertMany_rows (ran : b.insertMany orgId stdout db = .ok after) :
    after.cochange.rows = db.cochange.rows ++ b.newRows orgId stdout ∧ after.orgs = db.orgs := by
  unfold Builder.insertMany at ran
  simp only at ran
  split at ran
  · cases ran
  · cases run : (parseLog stdout).1.rows.foldlM (b.insertPair orgId db.orgs
        (promiscuous (parseLog stdout).1 (parseLog stdout).2) (parseLog stdout).2) db.cochange with
    | error e =>
      rw [run] at ran
      cases ran
    | ok next =>
      rw [run] at ran
      cases ran
      exact ⟨((insertPairs_ok_iff _).mp run).2, rfl⟩

/-- A step that throws leaves no trace, one that does not is followed by the rest. -/
theorem runSteps_cons (db : CochangeDb) (step : CochangeDb → Except BuildError CochangeDb)
    (rest : List (CochangeDb → Except BuildError CochangeDb)) :
    (∃ e, step db = .error e ∧ runSteps (step :: rest) db = (some e, db)) ∨
      ∃ next, step db = .ok next ∧ runSteps (step :: rest) db = runSteps rest next := by
  cases ran : step db with
  | error e => exact .inl ⟨e, rfl, by rw [runSteps, ran]⟩
  | ok next => exact .inr ⟨next, rfl, by rw [runSteps, ran]⟩

theorem setMeta_cochange {k v : String} (ran : b.setMeta orgId k v db = .ok after) :
    after.cochange = db.cochange ∧ after.orgs = db.orgs := by
  unfold Builder.setMeta at ran
  split at ran
  · cases ran
  · split at ran
    · cases ran
      exact ⟨rfl, rfl⟩
    · cases ran

theorem setMeta_ok_iff (b : Builder) (orgId k v : String) (db : CochangeDb) :
    (∃ after, b.setMeta orgId k v db = .ok after) ↔ b.refuses (.setMeta k) = false ∧ orgId ∈ db.orgs := by
  unfold Builder.setMeta
  by_cases refused : b.refuses (.setMeta k) = true
  · simp [refused]
  · by_cases known : orgId ∈ db.orgs
    · simp [refused, known]
    · simp [refused, known]

/-- Steps that only write to the other table leave the index alone. -/
theorem runSteps_setMeta (b : Builder) (orgId : String) (db : CochangeDb) (entries : List (String × String)) :
    (runSteps (entries.map fun e => b.setMeta orgId e.1 e.2) db).2.cochange = db.cochange := by
  induction entries generalizing db with
  | nil => rfl
  | cons entry rest ih =>
    rw [List.map_cons]
    rcases runSteps_cons db (b.setMeta orgId entry.1 entry.2) (rest.map fun e => b.setMeta orgId e.1 e.2) with
      ⟨e, -, ran⟩ | ⟨next, wrote, ran⟩
    · rw [ran]
    · rw [ran, ih, (setMeta_cochange wrote).1]

/-- They all write, or one throws. -/
theorem runSteps_setMeta_none (b : Builder) (orgId : String) (db : CochangeDb) (entries : List (String × String)) :
    (runSteps (entries.map fun e => b.setMeta orgId e.1 e.2) db).1 = none ↔
      ∀ e ∈ entries, b.refuses (.setMeta e.1) = false ∧ orgId ∈ db.orgs := by
  induction entries generalizing db with
  | nil => exact iff_of_true rfl (List.forall_mem_nil _)
  | cons entry rest ih =>
    rw [List.map_cons, List.forall_mem_cons]
    have admitted := setMeta_ok_iff b orgId entry.1 entry.2 db
    rcases runSteps_cons db (b.setMeta orgId entry.1 entry.2) (rest.map fun e => b.setMeta orgId e.1 e.2) with
      ⟨e, threw, ran⟩ | ⟨next, wrote, ran⟩
    · rw [ran]
      refine iff_of_false (Option.some_ne_none e) fun all => ?_
      obtain ⟨after, wrote⟩ := admitted.mpr all.1
      rw [threw] at wrote
      cases wrote
    · rw [ran, ih, (setMeta_cochange wrote).2]
      exact (and_iff_right (admitted.mp ⟨next, wrote⟩)).symm

theorem deleteRows_ok (admitted : b.refuses .deleteRows = false) : b.deleteRows orgId db =
    .ok { db with cochange := db.cochange.delete fun r => r.orgId = orgId } :=
  if_neg (by rw [admitted]; exact Bool.false_ne_true)

/-- A build that comes to no log, or whose `DELETE` is refused, leaves the index alone. -/
theorem build_untouched (untouched : b.storedLog = none ∨ b.refuses .deleteRows = true) :
    (b.build orgId db).2.cochange = db.cochange := by
  unfold Builder.build
  split
  · exact runSteps_setMeta b orgId db [("available", "false")]
  · rename_i git
    split
    · exact runSteps_setMeta b orgId db [("available", "false")]
    · rename_i deep
      cases log : b.runGitLog with
      | error message => exact runSteps_setMeta b orgId db [("available", "false"), ("last_error", message)]
      | ok stdout =>
        simp only
        split
        · exact runSteps_setMeta b orgId db [("available", "stale_partial")]
        · rename_i whole
          have stored : b.storedLog = some stdout := by
            rw [Builder.storedLog, not_not.mp git, eq_false_of_ne_true deep, log]
            exact if_neg whole
          have refused : b.refuses .deleteRows = true := by
            refine untouched.resolve_left ?_
            rw [stored]
            exact Option.some_ne_none _
          have step : b.deleteRows orgId db = .error .refused := if_pos refused
          rw [runSteps, step]

/-- A build that comes to a log runs the statements that store it. -/
theorem build_stored (stored : b.storedLog = some stdout) :
    b.build orgId db = runSteps [b.deleteRows orgId, b.insertMany orgId stdout, b.setMeta orgId "available" "true",
      b.setMeta orgId "last_built_at" b.isoNow] db := by
  unfold Builder.storedLog at stored
  split at stored
  · rename_i log git deep ran
    split at stored
    · cases stored
    · rename_i whole
      cases stored
      rw [Builder.build, if_neg (by simp [git]), if_neg (by simp [deep]), ran]
      exact if_neg whole
  · cases stored

theorem orgRows_congr (same : after.cochange = db.cochange) : orgRows after orgId = orgRows db orgId := by
  rw [orgRows, same, orgRows]

theorem orgRows_delete : orgRows { db with cochange := db.cochange.delete fun r => r.orgId = orgId } orgId = [] := by
  refine List.filter_eq_nil_iff.mpr fun r kept same => ?_
  exact (Table.mem_delete.mp kept).2 same

/-- What a build leaves of its organisation's rows, where its `DELETE` goes through. -/
theorem build_rows (orgId : String) (db : CochangeDb) (stored : b.storedLog = some stdout) (admitted : b.refuses .deleteRows = false) :
    (b.Storable orgId db.orgs stdout → orgRows (b.build orgId db).2 orgId = b.newRows orgId stdout ∧
      ((b.build orgId db).1 = none ↔ orgId ∈ db.orgs ∧ b.refuses (.setMeta "available") = false ∧
        b.refuses (.setMeta "last_built_at") = false)) ∧
      (¬ b.Storable orgId db.orgs stdout →
        orgRows (b.build orgId db).2 orgId = [] ∧ (b.build orgId db).1 ≠ none) := by
  let cleared : CochangeDb := { db with cochange := db.cochange.delete fun r => r.orgId = orgId }
  have empty : orgRows cleared orgId = [] := orgRows_delete
  have others : ∀ r ∈ cleared.cochange.rows, r.orgId ≠ orgId :=
    fun r kept same => (Table.mem_delete.mp kept).2 (decide_eq_true same)
  have storable : (∃ after, b.insertMany orgId stdout cleared = .ok after) ↔ b.Storable orgId db.orgs stdout :=
    insertMany_ok_iff others
  have start : b.build orgId db = runSteps [b.insertMany orgId stdout, b.setMeta orgId "available" "true",
      b.setMeta orgId "last_built_at" b.isoNow] cleared := by
    rw [build_stored stored, runSteps, deleteRows_ok admitted]
  rcases runSteps_cons cleared (b.insertMany orgId stdout)
      [b.setMeta orgId "available" "true", b.setMeta orgId "last_built_at" b.isoNow] with
    ⟨e, threw, ran⟩ | ⟨full, wrote, ran⟩
  · have unstorable : ¬ b.Storable orgId db.orgs stdout := by
      intro goes
      obtain ⟨after, wrote⟩ := storable.mpr goes
      rw [threw] at wrote
      cases wrote
    rw [start, ran]
    exact ⟨fun goes => absurd goes unstorable, fun _ => ⟨empty, Option.some_ne_none e⟩⟩
  · have goes := storable.mp ⟨full, wrote⟩
    obtain ⟨rows, orgs⟩ := insertMany_rows wrote
    have fresh : orgRows full orgId = b.newRows orgId stdout := by
      rw [orgRows, rows, List.filter_append, ← orgRows, empty, List.nil_append]
      exact List.filter_eq_self.mpr fun r listed => decide_eq_true (newRows_orgId listed)
    have kept := runSteps_setMeta b orgId full [("available", "true"), ("last_built_at", b.isoNow)]
    have through := runSteps_setMeta_none b orgId full [("available", "true"), ("last_built_at", b.isoNow)]
    rw [List.forall_mem_cons, List.forall_mem_singleton, orgs] at through
    rw [start, ran]
    refine ⟨fun _ => ⟨(orgRows_congr kept).trans fresh, through.trans ?_⟩, fun unstorable => absurd goes unstorable⟩
    exact ⟨fun all => ⟨all.1.2, all.1.1, all.2.1⟩, fun all => ⟨⟨all.2.1, all.1⟩, all.2.2, all.1⟩⟩

theorem keepsIndex_iff (b : Builder) (orgId : String) (db : CochangeDb) :
    b.KeepsIndex orgId db ↔ b.Unharmed orgId db := by
  constructor
  · intro keeps stdout stored admitted
    obtain ⟨goes, stops⟩ := build_rows orgId db stored admitted
    cases threw : (b.build orgId db).1 with
    | none =>
      have storable : b.Storable orgId db.orgs stdout := by
        by_contra unstorable
        exact (stops unstorable).2 threw
      exact .inl ⟨storable, .inl ((goes storable).2.mp threw)⟩
    | some e =>
      have same := keeps e _ (Prod.ext threw rfl : b.build orgId db = (some e, (b.build orgId db).2))
      by_cases storable : b.Storable orgId db.orgs stdout
      · exact .inl ⟨storable, .inr (same.symm.trans (goes storable).1)⟩
      · exact .inr ⟨storable, same.symm.trans (stops storable).1⟩
  · intro unharmed e after built
    have threw : (b.build orgId db).1 = some e := by rw [built]
    have left : (b.build orgId db).2 = after := by rw [built]
    rw [← left]
    by_cases untouched : b.storedLog = none ∨ b.refuses .deleteRows = true
    · exact orgRows_congr (build_untouched untouched)
    · obtain ⟨some, admitted⟩ := not_or.mp untouched
      obtain ⟨stdout, stored⟩ := Option.ne_none_iff_exists'.mp some
      have admitted := eq_false_of_ne_true admitted
      obtain ⟨goes, stops⟩ := build_rows orgId db stored admitted
      rcases unharmed stdout stored admitted with ⟨storable, metas | same⟩ | ⟨unstorable, empty⟩
      · rw [(goes storable).2.mpr metas] at threw
        cases threw
      · exact (goes storable).1.trans same.symm
      · exact (stops unstorable).1.trans empty.symm

/-- A Windows checkout in whose history `A.ts` became `a.ts`, each changed with `b.ts` in one of five commits. -/
def renamedCheckout : Builder where
  rt := asciiRuntime .win32
  repoRoot := units "C:\\repo"
  gitDir := true
  shallow := false
  runGitLog :=
    let sha := units "0123456789abcdef0123456789abcdef01234567"
    .ok (sha ++ units "\na.ts" ++ nul :: units "b.ts" ++ nul :: nul :: sha ++ units "\nA.ts" ++ nul :: units "b.ts" ++
      nul :: nul :: sha ++ units "\nc.ts" ++ nul :: nul :: sha ++ units "\nd.ts" ++ nul :: nul :: sha ++ units "\ne.ts" ++
      [nul])
  refuses _ := false
  datetimeNow := "2026-01-02 00:00:00"
  isoNow := "2026-01-02T00:00:00.000Z"

/-- One row that an earlier build has left. -/
def builtDb : CochangeDb where
  cochange := .single CochangeRow.key
    ⟨"default", storedText (units "a.ts"), storedText (units "b.ts"), 1, 5, "2026-01-01 00:00:00"⟩
  cochangeMeta := .empty
  orgs := ["default"]

/-- Both pairs have the key of `a.ts` and `b.ts`; the second is refused, and the earlier row is gone. -/
theorem not_keepsIndex : ¬ ∀ (b : Builder) (orgId : String) (db : CochangeDb), b.KeepsIndex orgId db := by
  intro always
  have threw : (renamedCheckout.build "default" builtDb).1.isSome = true := by decide +kernel
  obtain ⟨e, threw⟩ := Option.isSome_iff_exists.mp threw
  have same := always renamedCheckout "default" builtDb e _ (Prod.ext threw rfl)
  have gone : orgRows (renamedCheckout.build "default" builtDb).2 "default" = [] := by decide +kernel
  rw [gone] at same
  exact absurd same (by decide +kernel)

end GitCochange
end Coordinator
