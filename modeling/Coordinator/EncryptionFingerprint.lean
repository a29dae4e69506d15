import Coordinator.AuthContext
import Coordinator.Library.GuardedRun

namespace Coordinator

/-- What a token column holds; a ciphertext remembers the key, the context and the text that made it. -/
inductive TokenCell (Key : Type)
  | plain (text : String)
  | ciphertext (key : Key) (context : EncryptionContext) (text : String)
  deriving DecidableEq, Repr

/-- A row of `users`, with the columns that encryption reads and writes. -/
structure TokenRow (Key : Type) where
  id : String
  primaryOrgId : String
  idpAccessToken : Option (TokenCell Key)
  idpRefreshToken : Option (TokenCell Key)
  deriving DecidableEq, Repr

/-- The users and the row `encryption.key_fingerprint` of `system_config`. -/
structure TokenDb (Key Fingerprint : Type) where
  users : Table (TokenRow Key) TokenRow.id
  keyFingerprint : Option Fingerprint

variable {Key Fingerprint : Type}

def tokenColumns : List IdpColumn := [.idpAccessToken, .idpRefreshToken]

/-- `GLOB 'enc:v[0-9]*:*'`. -/
def globEncrypted (text : String) : Bool :=
  match text.toList with
  | 'e' :: 'n' :: 'c' :: ':' :: 'v' :: digit :: rest => digit.isDigit && rest.contains ':'
  | _ => false

/-- `/^enc:v[0-9]+:/`. -/
def encRe (text : String) : Bool :=
  match text.toList with
  | 'e' :: 'n' :: 'c' :: ':' :: 'v' :: digit :: rest =>
    digit.isDigit && (rest.dropWhile Char.isDigit).head? = some ':'
  | _ => false

namespace TokenCell

/-- A ciphertext is spelled `enc:v1:…`. -/
def looksEncrypted : TokenCell Key → Bool
  | plain text => globEncrypted text
  | ciphertext _ _ _ => true

/-- The text of a cell that the boot migration encrypts. -/
def plaintext : TokenCell Key → Option String
  | plain text => if globEncrypted text then none else some text
  | ciphertext _ _ _ => none

end TokenCell

namespace TokenRow

def cell (u : TokenRow Key) : IdpColumn → Option (TokenCell Key)
  | .idpAccessToken => u.idpAccessToken
  | .idpRefreshToken => u.idpRefreshToken

def put (u : TokenRow Key) (value : Option (TokenCell Key)) : IdpColumn → TokenRow Key
  | .idpAccessToken => { u with idpAccessToken := value }
  | .idpRefreshToken => { u with idpRefreshToken := value }

@[simp] theorem put_id (u : TokenRow Key) (value : Option (TokenCell Key)) (column : IdpColumn) :
    (u.put value column).id = u.id := by
  cases column <;> rfl

theorem cell_put (u : TokenRow Key) (value : Option (TokenCell Key)) (column other : IdpColumn) :
    (u.put value column).cell other = if other = column then value else u.cell other := by
  cases column <;> cases other <;> rfl

end TokenRow

namespace TokenDb

def hasEncryptedRows (db : TokenDb Key Fingerprint) : Bool :=
  db.users.rows.any fun u => tokenColumns.any fun column => (u.cell column).any TokenCell.looksEncrypted

/-- `INSERT OR IGNORE`. -/
def insertFingerprint (db : TokenDb Key Fingerprint) (fingerprint : Fingerprint) : TokenDb Key Fingerprint :=
  { db with keyFingerprint := some (db.keyFingerprint.getD fingerprint) }

/-- What `encrypt` of the wrapped provider writes, with its flag as it stands. -/
def persistFingerprint (fingerprint : Key → Fingerprint) (db : TokenDb Key Fingerprint) (persisted : Bool) (key : Key) :
    TokenDb Key Fingerprint :=
  if persisted then db else db.insertFingerprint (fingerprint key)

/-- `UPDATE users SET column = value WHERE id = …`. -/
def setToken (db : TokenDb Key Fingerprint) (userId : String) (column : IdpColumn) (value : Option (TokenCell Key)) :
    TokenDb Key Fingerprint :=
  { db with
    users := db.users.update (fun u => u.id = userId) (fun u => u.put value column) fun u => u.put_id value column }

end TokenDb

/-- A row that the boot migration has selected. -/
structure PlaintextRow where
  id : String
  primaryOrgId : String
  plainAccess : Option String
  plainRefresh : Option String
  deriving DecidableEq, Repr

def PlaintextRow.plain (row : PlaintextRow) : IdpColumn → Option String
  | .idpAccessToken => row.plainAccess
  | .idpRefreshToken => row.plainRefresh

def TokenDb.plaintextRows (db : TokenDb Key Fingerprint) : List PlaintextRow :=
  (db.users.rows.map fun u =>
    ⟨u.id, u.primaryOrgId, u.idpAccessToken.bind TokenCell.plaintext, u.idpRefreshToken.bind TokenCell.plaintext⟩).filter
    fun row => row.plainAccess.isSome || row.plainRefresh.isSome

/-- What one row of the batch does to a user. -/
def PlaintextRow.encrypt (key : Key) (u : TokenRow Key) (row : PlaintextRow) : TokenRow Key :=
  if u.id = row.id then
    tokenColumns.foldl (fun u column =>
      match row.plain column with
      | none => u
      | some text => u.put (some (.ciphertext key ⟨row.primaryOrgId, column, row.id⟩ text)) column) u
  else u

theorem PlaintextRow.encrypt_id (key : Key) (u : TokenRow Key) (row : PlaintextRow) : (row.encrypt key u).id = u.id := by
  unfold PlaintextRow.encrypt tokenColumns
  simp only [List.foldl_cons, List.foldl_nil]
  split
  · split <;> split <;> simp
  · rfl

/-- A row that the CLI has read, and one of its columns. -/
abbrev CliCell (Key : Type) : Type := TokenRow Key × IdpColumn

def cliCells (batch : List (TokenRow Key)) : List (CliCell Key) :=
  batch.flatMap fun row => tokenColumns.map fun column => (row, column)

/-- The text that `--direction encrypt` finds in a cell, if it is one to encrypt. -/
def toEncrypt (c : CliCell Key) : Option String :=
  match c.1.cell c.2 with
  | some (.plain text) => if text = "" || encRe text then none else some text
  | _ => none

/-- The update names the value that was read, so a cell changed since is left alone. -/
def cliEncryptCell (key : Key) [DecidableEq Key] (u : TokenRow Key) (c : CliCell Key) : TokenRow Key :=
  match toEncrypt c with
  | none => u
  | some text =>
    if u.id = c.1.id ∧ u.cell c.2 = some (.plain text) then
      u.put (some (.ciphertext key ⟨c.1.primaryOrgId, c.2, c.1.id⟩ text)) c.2
    else u

/-- What `--direction decrypt` makes of a cell: nothing to do, a text, or an exception. -/
def toDecrypt (key : Key) [DecidableEq Key] (c : CliCell Key) : Except Unit (Option String) :=
  match c.1.cell c.2 with
  | none => .ok none
  | some (.plain text) => if encRe text then .error () else .ok none
  | some (.ciphertext sealedBy context text) =>
    if sealedBy = key ∧ context = ⟨c.1.primaryOrgId, c.2, c.1.id⟩ then .ok (some text) else .error ()

def cliDecryptCell (key : Key) [DecidableEq Key] (u : TokenRow Key) (c : CliCell Key) : TokenRow Key :=
  match toDecrypt key c with
  | .ok (some text) =>
    if u.id = c.1.id ∧ u.cell c.2 = c.1.cell c.2 then u.put (some (.plain text)) c.2 else u
  | _ => u

theorem cliEncryptCell_id (key : Key) [DecidableEq Key] (u : TokenRow Key) (c : CliCell Key) :
    (cliEncryptCell key u c).id = u.id := by
  unfold cliEncryptCell
  split
  · rfl
  · split <;> simp

theorem cliDecryptCell_id (key : Key) [DecidableEq Key] (u : TokenRow Key) (c : CliCell Key) :
    (cliDecryptCell key u c).id = u.id := by
  unfold cliDecryptCell
  split
  · split <;> simp
  · rfl

theorem foldl_id {α : Type} {step : TokenRow Key → α → TokenRow Key} (keeps : ∀ u a, (step u a).id = u.id)
    (inputs : List α) (u : TokenRow Key) : (inputs.foldl step u).id = u.id := by
  induction inputs generalizing u with
  | nil => rfl
  | cons a rest ih => rw [List.foldl_cons, ih, keeps]

/-- Statements that each name one user, as what they do to every user. -/
def TokenDb.updateUsers {α : Type} (db : TokenDb Key Fingerprint) (step : TokenRow Key → α → TokenRow Key)
    (keeps : ∀ u a, (step u a).id = u.id) (inputs : List α) : TokenDb Key Fingerprint :=
  { db with users := db.users.update (fun _ => true) (fun u => inputs.foldl step u) (foldl_id keeps inputs) }

/-- The transaction of one batch of `runEncryptBatches`. -/
def TokenDb.cliEncrypt [DecidableEq Key] (db : TokenDb Key Fingerprint) (key : Key) (batch : List (TokenRow Key)) :
    TokenDb Key Fingerprint :=
  db.updateUsers (cliEncryptCell key) (cliEncryptCell_id key) (cliCells batch)

/-- The transaction of one batch of `runDecryptBatches`; an exception rolls it back. -/
def TokenDb.cliDecrypt [DecidableEq Key] (db : TokenDb Key Fingerprint) (key : Key) (batch : List (TokenRow Key)) :
    TokenDb Key Fingerprint :=
  if (cliCells batch).any fun c => (toDecrypt key c).toOption.isNone then db
  else db.updateUsers (cliDecryptCell key) (cliDecryptCell_id key) (cliCells batch)

@[simp] theorem TokenDb.cliDecrypt_keyFingerprint [DecidableEq Key] (db : TokenDb Key Fingerprint) (key : Key)
    (batch : List (TokenRow Key)) : (db.cliDecrypt key batch).keyFingerprint = db.keyFingerprint := by
  unfold TokenDb.cliDecrypt
  split <;> rfl

/-- `migratePlaintextIdpTokens`, of the rows it has selected. -/
def TokenDb.migratePlaintext (fingerprint : Key → Fingerprint) (db : TokenDb Key Fingerprint) (key : Key)
    (rows : List PlaintextRow) : TokenDb Key Fingerprint :=
  if rows = [] then db
  else
    (db.updateUsers (fun u row => PlaintextRow.encrypt key u row) (PlaintextRow.encrypt_id key) rows).insertFingerprint
      (fingerprint key)

/-- A running process: its key, the flag of its wrapped provider, and the rows
that its boot has selected and not yet written. -/
structure Daemon (Key : Type) where
  key : Option Key
  persisted : Bool
  migrating : Option (List PlaintextRow)

inductive BootValidationError
  | keyNotSet
  | differentKey
  deriving DecidableEq, Repr

/-- With neither key rotation nor token loss allowed. -/
def runEncryptionGuards [DecidableEq Fingerprint] (fingerprint : Key → Fingerprint) (db : TokenDb Key Fingerprint) :
    Option Key → Except BootValidationError (TokenDb Key Fingerprint × Daemon Key)
  | none => if db.hasEncryptedRows then .error .keyNotSet else .ok (db, ⟨none, false, none⟩)
  | some key =>
    match db.keyFingerprint with
    | some stored =>
      if stored ≠ fingerprint key then .error .differentKey else .ok (db, ⟨some key, true, some db.plaintextRows⟩)
    | none =>
      if db.hasEncryptedRows then
        .ok ({ db with keyFingerprint := some (fingerprint key) }, ⟨some key, true, some db.plaintextRows⟩)
      else .ok (db, ⟨some key, false, some db.plaintextRows⟩)

/-- The committed database, the process, and the database as its open transaction sees it. -/
structure EncryptionWorld (Key Fingerprint : Type) where
  db : TokenDb Key Fingerprint
  daemon : Option (Daemon Key)
  tx : Option (TokenDb Key Fingerprint)

inductive EncryptionEvent (Key : Type)
  | boot (key : Option Key)
  | migratePlaintext
  | crash
  | begin
  | commit
  | rollback
  | encrypt (userId : String) (column : IdpColumn) (orgId : String) (text : String)
  | clear (userId : String) (column : IdpColumn)
  | insertUser (id primaryOrgId : String)
  | cliEncrypt (key : Key) (batch : List (TokenRow Key))
  | cliDecrypt (key : Key) (batch : List (TokenRow Key))

namespace EncryptionWorld
variable [DecidableEq Key] [DecidableEq Fingerprint] (fingerprint : Key → Fingerprint)

def visible (w : EncryptionWorld Key Fingerprint) : TokenDb Key Fingerprint := w.tx.getD w.db

/-- A write goes to the open transaction, or is committed at once. -/
def write (w : EncryptionWorld Key Fingerprint) (db : TokenDb Key Fingerprint) : EncryptionWorld Key Fingerprint :=
  if w.tx.isSome then { w with tx := some db } else { w with db := db }

/-- The boot is through, and its process serves requests. -/
def serving (w : EncryptionWorld Key Fingerprint) : Option (Daemon Key) := w.daemon.filter fun d => d.migrating.isNone

/-- `encrypt` of the wrapped provider, and the update that stores what it returns. -/
def encrypt (w : EncryptionWorld Key Fingerprint) (d : Daemon Key) (userId : String) (column : IdpColumn)
    (orgId text : String) : EncryptionWorld Key Fingerprint :=
  match d.key with
  | none => w.write (w.visible.setToken userId column (some (.plain text)))
  | some key =>
    let stored := w.visible.persistFingerprint fingerprint d.persisted key
    { w.write (stored.setToken userId column (some (.ciphertext key ⟨orgId, column, userId⟩ text))) with
      daemon := some { d with persisted := true } }

/-- A new process takes the place of the one before it, whose transaction is lost. The
CLI is another process: it waits for a transaction, and gives up. -/
def step (w : EncryptionWorld Key Fingerprint) : EncryptionEvent Key → EncryptionWorld Key Fingerprint
  | .boot key =>
    match runEncryptionGuards fingerprint w.db key with
    | .error _ => ⟨w.db, none, none⟩
    | .ok (db, d) => ⟨db, some d, none⟩
  | .migratePlaintext =>
    match w.daemon with
    | some ⟨some key, persisted, some rows⟩ =>
      ⟨w.db.migratePlaintext fingerprint key rows, some ⟨some key, persisted, none⟩, w.tx⟩
    | _ => w
  | .crash => ⟨w.db, none, none⟩
  | .begin => if w.serving.isSome ∧ w.tx = none then { w with tx := some w.db } else w
  | .commit => ⟨w.visible, w.daemon, none⟩
  | .rollback => { w with tx := none }
  | .encrypt userId column orgId text =>
    match w.serving with
    | none => w
    | some d => w.encrypt fingerprint d userId column orgId text
  | .clear userId column =>
    match w.serving with
    | none => w
    | some _ => w.write (w.visible.setToken userId column none)
  | .insertUser id primaryOrgId =>
    match w.serving, w.visible.users.insert ⟨id, primaryOrgId, none, none⟩ with
    | some _, some users => w.write { w.visible with users := users }
    | _, _ => w
  | .cliEncrypt key batch => if w.tx.isSome then w else { w with db := w.db.cliEncrypt key batch }
  | .cliDecrypt key batch => if w.tx.isSome then w else { w with db := w.db.cliDecrypt key batch }

end EncryptionWorld

/-- A token of the user was encrypted under the key. -/
def TokenRow.SealedUnder (u : TokenRow Key) (key : Key) : Prop :=
  ∃ column context text, u.cell column = some (.ciphertext key context text)

/-- Ciphertext exists, so the fingerprint of its key is stored. -/
def FingerprintStored (fingerprint : Key → Fingerprint) (db : TokenDb Key Fingerprint) : Prop :=
  ∀ u ∈ db.users.rows, ∀ key, u.SealedUnder key → db.keyFingerprint = some (fingerprint key)

/-- The update finds the value that the CLI has read, and it is one to encrypt. -/
def CliHit (u : TokenRow Key) (c : CliCell Key) : Prop :=
  ∃ text, toEncrypt c = some text ∧ u.id = c.1.id ∧ u.cell c.2 = some (.plain text)

/-- The wrapped provider relies on its flag only while the fingerprint is stored, and the CLI
encrypts a plaintext only under the key whose fingerprint is stored. -/
def FingerprintInPlace [DecidableEq Key] [DecidableEq Fingerprint] (fingerprint : Key → Fingerprint)
    (w : EncryptionWorld Key Fingerprint) : EncryptionEvent Key → Prop
  | .encrypt userId _ _ _ => ∀ d ∈ w.serving, d.key.isSome → d.persisted = true →
      (∃ u ∈ w.visible.users.rows, u.id = userId) → w.visible.keyFingerprint.isSome
  | .cliEncrypt key batch => w.tx = none → (∃ u ∈ w.db.users.rows, ∃ c ∈ cliCells batch, CliHit u c) →
      w.db.keyFingerprint = some (fingerprint key)
  | _ => True

namespace TokenRow

theorem sealedUnder_put {u : TokenRow Key} {value : Option (TokenCell Key)} {column : IdpColumn} {key : Key}
    (made : (u.put value column).SealedUnder key) :
    u.SealedUnder key ∨ ∃ context text, value = some (.ciphertext key context text) := by
  obtain ⟨other, context, text, held⟩ := made
  rw [cell_put] at held
  split at held
  · exact .inr ⟨context, text, held⟩
  · exact .inl ⟨other, context, text, held⟩

theorem sealedUnder_put_plain {u : TokenRow Key} {value : Option (TokenCell Key)} {column : IdpColumn} {key : Key}
    (plain : ∀ context text, value ≠ some (.ciphertext key context text))
    (made : (u.put value column).SealedUnder key) : u.SealedUnder key := by
  rcases sealedUnder_put made with before | ⟨context, text, same⟩
  · exact before
  · exact absurd same (plain context text)

theorem sealedUnder_put_ciphertext {u : TokenRow Key} {column : IdpColumn} {key other : Key}
    {context : EncryptionContext} {text : String}
    (made : (u.put (some (.ciphertext key context text)) column).SealedUnder other) :
    u.SealedUnder other ∨ other = key := by
  rcases sealedUnder_put made with before | ⟨_, _, same⟩
  · exact .inl before
  · cases same
    exact .inr rfl

theorem sealedUnder_foldl {α : Type} {step : TokenRow Key → α → TokenRow Key} {key : Key} {fresh : Prop}
    (once : ∀ u a, (step u a).SealedUnder key → u.SealedUnder key ∨ fresh) {inputs : List α} {u : TokenRow Key}
    (made : (inputs.foldl step u).SealedUnder key) : u.SealedUnder key ∨ fresh := by
  induction inputs generalizing u with
  | nil => exact .inl made
  | cons a rest ih =>
    rcases ih made with before | now
    · exact once u a before
    · exact .inr now

end TokenRow

theorem PlaintextRow.sealedUnder_encrypt {key other : Key} (u : TokenRow Key) (row : PlaintextRow)
    (made : (row.encrypt key u).SealedUnder other) : u.SealedUnder other ∨ other = key := by
  unfold PlaintextRow.encrypt at made
  split at made
  · refine TokenRow.sealedUnder_foldl ?_ made
    intro u column made
    split at made
    · exact .inl made
    · exact TokenRow.sealedUnder_put_ciphertext made
  · exact .inl made

section Cli
variable [DecidableEq Key]

theorem cliEncryptCell_of_hit {key : Key} {u : TokenRow Key} {c : CliCell Key} {text : String}
    (listed : toEncrypt c = some text) (hit : u.id = c.1.id ∧ u.cell c.2 = some (.plain text)) :
    cliEncryptCell key u c = u.put (some (.ciphertext key ⟨c.1.primaryOrgId, c.2, c.1.id⟩ text)) c.2 := by
  simp only [cliEncryptCell, listed, if_pos hit]

theorem cliEncryptCell_of_miss {key : Key} {u : TokenRow Key} {c : CliCell Key} (miss : ¬ CliHit u c) :
    cliEncryptCell key u c = u := by
  unfold cliEncryptCell
  split
  · rfl
  · rename_i text listed
    exact if_neg fun hit => miss ⟨text, listed, hit⟩

theorem sealedUnder_cliEncryptCell {key other : Key} (u : TokenRow Key) (c : CliCell Key)
    (made : (cliEncryptCell key u c).SealedUnder other) : u.SealedUnder other ∨ other = key := by
  by_cases hit : CliHit u c
  · obtain ⟨text, listed, found⟩ := hit
    rw [cliEncryptCell_of_hit listed found] at made
    exact TokenRow.sealedUnder_put_ciphertext made
  · rw [cliEncryptCell_of_miss hit] at made
    exact .inl made

theorem foldl_cliEncryptCell_of_miss {key : Key} {u : TokenRow Key} {cells : List (CliCell Key)}
    (miss : ∀ c ∈ cells, ¬ CliHit u c) : cells.foldl (cliEncryptCell key) u = u := by
  induction cells with
  | nil => rfl
  | cons c rest ih =>
    rw [List.foldl_cons, cliEncryptCell_of_miss (miss c List.mem_cons_self)]
    exact ih fun later member => miss later (List.mem_cons_of_mem c member)

/-- The cells of a batch add ciphertexts under its key, and only to a user that one of them hits. -/
theorem sealedUnder_cliEncrypt {key other : Key} {u : TokenRow Key} {cells : List (CliCell Key)}
    (made : (cells.foldl (cliEncryptCell key) u).SealedUnder other) :
    u.SealedUnder other ∨ other = key ∧ ∃ c ∈ cells, CliHit u c := by
  by_cases hit : ∃ c ∈ cells, CliHit u c
  · rcases TokenRow.sealedUnder_foldl sealedUnder_cliEncryptCell made with before | same
    · exact .inl before
    · exact .inr ⟨same, hit⟩
  · rw [foldl_cliEncryptCell_of_miss fun c member found => hit ⟨c, member, found⟩] at made
    exact .inl made

/-- A ciphertext under the key is not one that the CLI encrypts again. -/
theorem cliEncryptCell_cell (key : Key) (u : TokenRow Key) (c : CliCell Key) (column : IdpColumn) :
    (cliEncryptCell key u c).cell column = u.cell column ∨
      (∃ text, u.cell column = some (.plain text)) ∧
        ∃ context text, (cliEncryptCell key u c).cell column = some (.ciphertext key context text) := by
  by_cases hit : CliHit u c
  · obtain ⟨text, listed, found⟩ := hit
    rw [cliEncryptCell_of_hit listed found, TokenRow.cell_put]
    split
    · rename_i same
      exact .inr ⟨⟨text, same ▸ found.2⟩, _, text, rfl⟩
    · exact .inl rfl
  · exact .inl (by rw [cliEncryptCell_of_miss hit])

theorem foldl_cliEncryptCell_sealed {key : Key} {column : IdpColumn} {cells : List (CliCell Key)} {u : TokenRow Key}
    {context : EncryptionContext} {text : String} (held : u.cell column = some (.ciphertext key context text)) :
    (cells.foldl (cliEncryptCell key) u).SealedUnder key := by
  induction cells generalizing u with
  | nil => exact ⟨column, context, text, held⟩
  | cons c rest ih =>
    rcases cliEncryptCell_cell key u c column with same | ⟨⟨before, plain⟩, -⟩
    · exact ih (same.trans held)
    · rw [held] at plain
      cases plain

theorem foldl_cliEncryptCell_of_hit {key : Key} {cells : List (CliCell Key)} {u : TokenRow Key} {c : CliCell Key}
    (member : c ∈ cells) (hit : CliHit u c) : (cells.foldl (cliEncryptCell key) u).SealedUnder key := by
  induction cells generalizing u with
  | nil => cases member
  | cons first rest ih =>
    obtain ⟨text, listed, owner, found⟩ := hit
    rw [List.foldl_cons]
    rcases List.mem_cons.mp member with rfl | later
    · have now : (cliEncryptCell key u c).cell c.2 = some (.ciphertext key ⟨c.1.primaryOrgId, c.2, c.1.id⟩ text) := by
        rw [cliEncryptCell_of_hit listed ⟨owner, found⟩, TokenRow.cell_put, if_pos rfl]
      exact foldl_cliEncryptCell_sealed now
    · -- an earlier cell of the batch leaves this column alone, or has sealed it
      rcases cliEncryptCell_cell key u first c.2 with same | ⟨-, _, _, already⟩
      · exact ih later ⟨text, listed, (cliEncryptCell_id key u first).trans owner, same.trans found⟩
      · exact foldl_cliEncryptCell_sealed already

theorem sealedUnder_cliDecryptCell {key other : Key} (u : TokenRow Key) (c : CliCell Key)
    (made : (cliDecryptCell key u c).SealedUnder other) : u.SealedUnder other := by
  unfold cliDecryptCell at made
  split at made
  · split at made
    · exact TokenRow.sealedUnder_put_plain (by simp) made
    · exact made
  · exact made

end Cli

namespace FingerprintStored
variable {fingerprint : Key → Fingerprint} {db db' : TokenDb Key Fingerprint}

/-- Writes that keep a stored fingerprint, and store that of every key they encrypt under. -/
theorem grow (stored : FingerprintStored fingerprint db)
    (keeps : ∀ f, db.keyFingerprint = some f → db'.keyFingerprint = some f)
    (covered : ∀ u' ∈ db'.users.rows, ∀ key, u'.SealedUnder key →
      (∃ u ∈ db.users.rows, u.SealedUnder key) ∨ db'.keyFingerprint = some (fingerprint key)) :
    FingerprintStored fingerprint db' := by
  intro u' member' key made
  rcases covered u' member' key made with ⟨u, member, before⟩ | now
  · exact keeps _ (stored u member key before)
  · exact now

theorem insertFingerprint (stored : FingerprintStored fingerprint db) (f : Fingerprint) :
    FingerprintStored fingerprint (db.insertFingerprint f) := by
  refine stored.grow ?_ fun u member key made => .inl ⟨u, member, made⟩
  intro f' held
  simp [TokenDb.insertFingerprint, held]

theorem update (stored : FingerprintStored fingerprint db) {p : TokenRow Key → Bool}
    {change : TokenRow Key → TokenRow Key} {keeps : ∀ u, (change u).id = u.id}
    (once : ∀ u ∈ db.users.rows, p u → ∀ key, (change u).SealedUnder key →
      u.SealedUnder key ∨ db.keyFingerprint = some (fingerprint key)) :
    FingerprintStored fingerprint { db with users := db.users.update p change keeps } := by
  refine stored.grow (fun _ => id) ?_
  intro u' member' key made
  have listed : u' ∈ (db.users.update p change keeps).rows := member'
  obtain ⟨u, member, rfl⟩ := Table.mem_update.mp listed
  split at made
  · rename_i chosen
    exact (once u member chosen key made).imp (fun before => ⟨u, member, before⟩) id
  · exact .inl ⟨u, member, made⟩

theorem setToken (stored : FingerprintStored fingerprint db) {userId : String} {column : IdpColumn}
    {value : Option (TokenCell Key)}
    (covered : ∀ key context text, value = some (.ciphertext key context text) →
      (∃ u ∈ db.users.rows, u.id = userId) → db.keyFingerprint = some (fingerprint key)) :
    FingerprintStored fingerprint (db.setToken userId column value) := by
  refine stored.update ?_
  intro u member named key made
  rcases TokenRow.sealedUnder_put made with before | ⟨context, text, same⟩
  · exact .inl before
  · exact .inr (covered key context text same ⟨u, member, by simpa using named⟩)

theorem updateUsers (stored : FingerprintStored fingerprint db) {α : Type} {step : TokenRow Key → α → TokenRow Key}
    (keeps : ∀ u a, (step u a).id = u.id) {inputs : List α}
    (once : ∀ u ∈ db.users.rows, ∀ key, (inputs.foldl step u).SealedUnder key →
      u.SealedUnder key ∨ db.keyFingerprint = some (fingerprint key)) :
    FingerprintStored fingerprint (db.updateUsers step keeps inputs) :=
  stored.update fun u member _ => once u member

variable [DecidableEq Key]

theorem cliEncrypt (stored : FingerprintStored fingerprint db) {key : Key} {batch : List (TokenRow Key)}
    (inPlace : (∃ u ∈ db.users.rows, ∃ c ∈ cliCells batch, CliHit u c) →
      db.keyFingerprint = some (fingerprint key)) :
    FingerprintStored fingerprint (db.cliEncrypt key batch) := by
  refine stored.updateUsers (cliEncryptCell_id key) ?_
  intro u member other made
  rcases sealedUnder_cliEncrypt made with before | ⟨rfl, hit⟩
  · exact .inl before
  · exact .inr (inPlace ⟨u, member, hit⟩)

theorem of_cliEncrypt {key : Key} {batch : List (TokenRow Key)}
    (stored : FingerprintStored fingerprint (db.cliEncrypt key batch))
    (hit : ∃ u ∈ db.users.rows, ∃ c ∈ cliCells batch, CliHit u c) : db.keyFingerprint = some (fingerprint key) := by
  obtain ⟨u, member, c, listed, hit⟩ := hit
  have written : (cliCells batch).foldl (cliEncryptCell key) u ∈ (db.cliEncrypt key batch).users.rows :=
    List.mem_map.mpr ⟨u, member, rfl⟩
  exact stored _ written key (foldl_cliEncryptCell_of_hit listed hit)

theorem cliDecrypt (stored : FingerprintStored fingerprint db) (key : Key) (batch : List (TokenRow Key)) :
    FingerprintStored fingerprint (db.cliDecrypt key batch) := by
  unfold TokenDb.cliDecrypt
  split
  · exact stored
  · refine stored.updateUsers (cliDecryptCell_id key) ?_
    intro u member other made
    exact TokenRow.sealedUnder_foldl (fun u c made => .inl (sealedUnder_cliDecryptCell u c made)) made

end FingerprintStored

/-- What a run keeps of a database that a process with this key writes to. -/
structure TokenDb.Vouched (fingerprint : Key → Fingerprint) (key : Option Key) (db : TokenDb Key Fingerprint) :
    Prop where
  stored : FingerprintStored fingerprint db
  fits : ∀ k, key = some k → ∀ f, db.keyFingerprint = some f → f = fingerprint k

namespace TokenDb.Vouched
variable {fingerprint : Key → Fingerprint} {db : TokenDb Key Fingerprint} {key : Key}

theorem of_keyless (stored : FingerprintStored fingerprint db) : db.Vouched fingerprint none :=
  ⟨stored, fun _ absent => nomatch absent⟩

theorem insertFingerprint_eq (vouched : db.Vouched fingerprint (some key)) :
    (db.insertFingerprint (fingerprint key)).keyFingerprint = some (fingerprint key) := by
  cases held : db.keyFingerprint with
  | none => simp [insertFingerprint, held]
  | some f => simp [insertFingerprint, held, vouched.fits key rfl f held]

theorem insertFingerprint (vouched : db.Vouched fingerprint (some key)) :
    (db.insertFingerprint (fingerprint key)).Vouched fingerprint (some key) where
  stored := vouched.stored.insertFingerprint _
  fits := by
    intro k same f held
    cases same
    exact (Option.some.inj (vouched.insertFingerprint_eq.symm.trans held)).symm

/-- The batch and the fingerprint of its key are committed together. -/
theorem migratePlaintext (vouched : db.Vouched fingerprint (some key)) (rows : List PlaintextRow) :
    (db.migratePlaintext fingerprint key rows).Vouched fingerprint (some key) := by
  unfold TokenDb.migratePlaintext
  split
  · exact vouched
  · have first := vouched.insertFingerprint
    refine ⟨?_, first.fits⟩
    refine first.stored.updateUsers (PlaintextRow.encrypt_id key) ?_
    intro u member other made
    refine (TokenRow.sealedUnder_foldl PlaintextRow.sealedUnder_encrypt made).imp_right ?_
    rintro rfl
    exact vouched.insertFingerprint_eq

/-- A flag that is set vouches for the fingerprint only while it is stored. -/
theorem sealToken (vouched : db.Vouched fingerprint (some key)) {persisted : Bool} {userId : String}
    (column : IdpColumn) (context : EncryptionContext) (text : String)
    (inPlace : persisted = true → (∃ u ∈ db.users.rows, u.id = userId) → db.keyFingerprint.isSome) :
    ((db.persistFingerprint fingerprint persisted key).setToken userId column
      (some (.ciphertext key context text))).Vouched fingerprint (some key) := by
  have token {key' : Key} {context' : EncryptionContext} {text' : String}
      (same : some (TokenCell.ciphertext key context text) = some (.ciphertext key' context' text')) : key' = key := by
    cases same
    rfl
  cases persisted with
  | false =>
    have first := vouched.insertFingerprint
    refine ⟨first.stored.setToken ?_, first.fits⟩
    intro key' context' text' same _
    rw [token same]
    exact vouched.insertFingerprint_eq
  | true =>
    refine ⟨vouched.stored.setToken ?_, vouched.fits⟩
    intro key' context' text' same named
    obtain ⟨f, held⟩ := Option.isSome_iff_exists.mp (inPlace rfl named)
    rw [token same, ← vouched.fits key rfl f held]
    exact held

end TokenDb.Vouched

theorem runEncryptionGuards_ok [DecidableEq Fingerprint] {fingerprint : Key → Fingerprint}
    {db db' : TokenDb Key Fingerprint} {key : Option Key} {d : Daemon Key} (stored : FingerprintStored fingerprint db)
    (ok : runEncryptionGuards fingerprint db key = .ok (db', d)) : db'.Vouched fingerprint d.key := by
  cases key with
  | none =>
    simp only [runEncryptionGuards] at ok
    split at ok
    · cases ok
    · cases ok
      exact .of_keyless stored
  | some key =>
    simp only [runEncryptionGuards] at ok
    split at ok
    · rename_i f held
      split at ok
      · cases ok
      · rename_i same
        cases ok
        refine ⟨stored, ?_⟩
        intro k sameKey f' held'
        cases sameKey
        rw [held] at held'
        cases held'
        exact not_not.mp same
    · rename_i absent
      split at ok
      · -- a key is adopted for ciphertexts that are none of the program's
        cases ok
        refine ⟨stored.grow (by simp [absent]) fun u member _ made => .inl ⟨u, member, made⟩, ?_⟩
        intro k sameKey f' held'
        cases sameKey
        exact (Option.some.inj held').symm
      · cases ok
        refine ⟨stored, ?_⟩
        intro _ _ f' held'
        rw [absent] at held'
        cases held'

namespace EncryptionWorld
variable {fingerprint : Key → Fingerprint} {w : EncryptionWorld Key Fingerprint}

def key (w : EncryptionWorld Key Fingerprint) : Option Key := w.daemon.bind Daemon.key

@[simp] theorem visible_write (w : EncryptionWorld Key Fingerprint) (db : TokenDb Key Fingerprint) :
    (w.write db).visible = db := by
  unfold write
  split
  · rfl
  · rename_i closed
    simp only [Option.not_isSome_iff_eq_none] at closed
    simp [visible, closed]

theorem write_db (w : EncryptionWorld Key Fingerprint) (db : TokenDb Key Fingerprint) :
    (w.write db).db = w.db ∨ (w.write db).db = db := by
  unfold write
  split
  · exact .inl rfl
  · exact .inr rfl

@[simp] theorem key_write (w : EncryptionWorld Key Fingerprint) (db : TokenDb Key Fingerprint) :
    (w.write db).key = w.key := by
  unfold write
  split <;> rfl

theorem key_of_serving {d : Daemon Key} (serves : w.serving = some d) : w.key = d.key := by
  rw [key, (Option.filter_eq_some_iff.mp serves).1]
  rfl

/-- The committed database and the one that a commit would leave, with the key of the process. -/
structure Vouched (fingerprint : Key → Fingerprint) (key : Option Key) (w : EncryptionWorld Key Fingerprint) :
    Prop where
  committed : w.db.Vouched fingerprint key
  seen : w.visible.Vouched fingerprint key

namespace Vouched
variable {key : Option Key}

theorem write (vouched : w.Vouched fingerprint key) {db : TokenDb Key Fingerprint} (new : db.Vouched fingerprint key) :
    (w.write db).Vouched fingerprint key := by
  refine ⟨?_, (w.visible_write db).symm ▸ new⟩
  rcases w.write_db db with same | same
  · rw [same]
    exact vouched.committed
  · rw [same]
    exact new

theorem withUsers (vouched : w.Vouched fingerprint key) {users : Table (TokenRow Key) TokenRow.id}
    (stored : FingerprintStored fingerprint { w.visible with users := users }) :
    (w.write { w.visible with users := users }).Vouched fingerprint key :=
  vouched.write ⟨stored, vouched.seen.fits⟩

/-- With no transaction open the two are one. -/
theorem of_closed (closed : w.tx = none) (committed : w.db.Vouched fingerprint key) : w.Vouched fingerprint key := by
  refine ⟨committed, ?_⟩
  simp only [visible, closed]
  exact committed

variable [DecidableEq Key] [DecidableEq Fingerprint]

theorem boot (vouched : w.Vouched fingerprint w.key) (masterKey : Option Key) :
    (w.step fingerprint (.boot masterKey)).Vouched fingerprint (w.step fingerprint (.boot masterKey)).key := by
  simp only [step]
  split
  · exact of_closed rfl (.of_keyless vouched.committed.stored)
  · rename_i ok
    exact of_closed rfl (runEncryptionGuards_ok vouched.committed.stored ok)

theorem migratePlaintext (vouched : w.Vouched fingerprint w.key) :
    (w.step fingerprint .migratePlaintext).Vouched fingerprint (w.step fingerprint .migratePlaintext).key := by
  simp only [step]
  split
  · rename_i key persisted rows current
    have sameKey : w.key = some key := by rw [EncryptionWorld.key, current]; rfl
    rw [sameKey] at vouched
    have migrated := vouched.committed.migratePlaintext rows
    cases tx : w.tx with
    | none => exact of_closed rfl migrated
    | some db =>
      have seen := vouched.seen
      rw [visible, tx] at seen
      exact ⟨migrated, seen⟩
  · exact vouched

theorem encrypt (vouched : w.Vouched fingerprint w.key) {userId : String} {column : IdpColumn} {orgId text : String}
    (inPlace : FingerprintInPlace fingerprint w (.encrypt userId column orgId text)) :
    (w.step fingerprint (.encrypt userId column orgId text)).Vouched fingerprint
      (w.step fingerprint (.encrypt userId column orgId text)).key := by
  simp only [step]
  split
  · exact vouched
  · rename_i d serves
    unfold EncryptionWorld.encrypt
    split
    · rw [key_write]
      exact vouched.withUsers (vouched.seen.stored.setToken (by simp))
    · rename_i key sealing
      rw [key_of_serving serves, sealing] at vouched
      have flag := inPlace d serves (by rw [sealing]; rfl)
      have sealed := vouched.write (vouched.seen.sealToken column ⟨orgId, column, userId⟩ text flag)
      show Vouched fingerprint d.key _
      rw [sealing]
      exact ⟨sealed.committed, sealed.seen⟩

theorem insertUser (vouched : w.Vouched fingerprint w.key) (id primaryOrgId : String) :
    (w.step fingerprint (.insertUser id primaryOrgId)).Vouched fingerprint
      (w.step fingerprint (.insertUser id primaryOrgId)).key := by
  simp only [step]
  split
  · rename_i users _ inserted
    rw [key_write]
    refine vouched.withUsers (vouched.seen.stored.grow (fun _ held => held) ?_)
    intro u member key made
    rcases (Table.mem_insert inserted).mp member with old | rfl
    · exact .inl ⟨u, old, made⟩
    · obtain ⟨column, context, text, held⟩ := made
      cases column <;> cases held
  · exact vouched

/-- Each event keeps what is vouched for, the guarded ones under their guard. -/
theorem step (vouched : w.Vouched fingerprint w.key) (event : EncryptionEvent Key)
    (inPlace : FingerprintInPlace fingerprint w event) :
    (w.step fingerprint event).Vouched fingerprint (w.step fingerprint event).key := by
  cases event with
  | boot masterKey => exact vouched.boot masterKey
  | migratePlaintext => exact vouched.migratePlaintext
  | crash => exact of_closed rfl (.of_keyless vouched.committed.stored)
  | begin =>
    simp only [EncryptionWorld.step]
    split
    · exact ⟨vouched.committed, vouched.committed⟩
    · exact vouched
  | commit => exact of_closed rfl vouched.seen
  | rollback => exact of_closed rfl vouched.committed
  | encrypt userId column orgId text => exact vouched.encrypt inPlace
  | clear userId column =>
    simp only [EncryptionWorld.step]
    split
    · exact vouched
    · rw [key_write]
      exact vouched.withUsers (vouched.seen.stored.setToken (by simp))
  | insertUser id primaryOrgId => exact vouched.insertUser id primaryOrgId
  | cliEncrypt key batch =>
    simp only [EncryptionWorld.step]
    split
    · exact vouched
    · rename_i closed
      rw [Option.not_isSome_iff_eq_none] at closed
      exact of_closed closed ⟨vouched.committed.stored.cliEncrypt (inPlace closed), vouched.committed.fits⟩
  | cliDecrypt key batch =>
    simp only [EncryptionWorld.step]
    split
    · exact vouched
    · rename_i closed
      rw [Option.not_isSome_iff_eq_none] at closed
      refine of_closed closed ⟨vouched.committed.stored.cliDecrypt key batch, ?_⟩
      rw [TokenDb.cliDecrypt_keyFingerprint]
      exact vouched.committed.fits

end Vouched

variable [DecidableEq Key] [DecidableEq Fingerprint]

/-- A step that leaves the fingerprint stored was one that the guard allows. -/
theorem inPlace_of_stored {event : EncryptionEvent Key}
    (committed : FingerprintStored fingerprint (w.step fingerprint event).db)
    (seen : FingerprintStored fingerprint (w.step fingerprint event).visible) :
    FingerprintInPlace fingerprint w event := by
  cases event with
  | encrypt userId column orgId text =>
    intro d serves keyed flag named
    obtain ⟨key, sealing⟩ := Option.isSome_iff_exists.mp keyed
    obtain ⟨u, member, named⟩ := named
    let sealed : Option (TokenCell Key) := some (.ciphertext key ⟨orgId, column, userId⟩ text)
    have written : (w.step fingerprint (.encrypt userId column orgId text)).visible =
        w.visible.setToken userId column sealed := by
      simp only [step, Option.mem_def.mp serves, EncryptionWorld.encrypt, sealing, TokenDb.persistFingerprint, flag,
        if_true]
      exact w.visible_write _
    rw [written] at seen
    have changed : u.put sealed column ∈ (w.visible.setToken userId column sealed).users.rows :=
      List.mem_map.mpr ⟨u, member, if_pos (by simpa using named)⟩
    have made : (u.put sealed column).SealedUnder key := ⟨column, ⟨orgId, column, userId⟩, text, by
      rw [TokenRow.cell_put, if_pos rfl]⟩
    exact Option.isSome_iff_exists.mpr ⟨fingerprint key, seen _ changed key made⟩
  | cliEncrypt key batch =>
    intro closed hit
    simp only [step, closed] at committed
    exact committed.of_cliEncrypt hit
  | _ => trivial

def run (fingerprint : Key → Fingerprint) (db : TokenDb Key Fingerprint) (events : List (EncryptionEvent Key)) :
    EncryptionWorld Key Fingerprint :=
  events.foldl (step fingerprint) ⟨db, none, none⟩

/-- In a run over a database whose ciphertexts are vouched for, every committed state that the run
reaches, or reaches if the transaction it is in commits, stores the fingerprint of the key of
every ciphertext, exactly when each encryption of the run finds the fingerprint in place. -/
theorem fingerprint_stored_iff (fingerprint : Key → Fingerprint)
    (start : { db : TokenDb Key Fingerprint // FingerprintStored fingerprint db })
    (events : List (EncryptionEvent Key)) :
    (∀ done, done <+: events → FingerprintStored fingerprint (run fingerprint start.1 done).db ∧
        FingerprintStored fingerprint (run fingerprint start.1 (done ++ [.commit])).db) ↔
      GuardedRun.Meets (step fingerprint) (FingerprintInPlace fingerprint) ⟨start.1, none, none⟩ events := by
  have commits (done : List (EncryptionEvent Key)) :
      (run fingerprint start.1 (done ++ [.commit])).db = (run fingerprint start.1 done).visible := by
    rw [run, List.foldl_append]
    rfl
  simp only [commits]
  exact GuardedRun.Meets.iff_always (P := fun w : EncryptionWorld Key Fingerprint => w.Vouched fingerprint w.key)
    (Q := fun w => FingerprintStored fingerprint w.db ∧ FingerprintStored fingerprint w.visible)
    (Vouched.of_closed rfl (.of_keyless start.2)) (fun _ vouched => ⟨vouched.committed.stored, vouched.seen.stored⟩)
    (fun _ event vouched inPlace => vouched.step event inPlace)
    (fun _ _ _ stored => inPlace_of_stored stored.1 stored.2)

/-- No user has a token yet, and no fingerprint is stored. -/
def unencrypted : { db : TokenDb String String // FingerprintStored id db } where
  val := ⟨⟨[⟨"ada", "acme", none, none⟩], by decide⟩, none⟩
  property := by
    rintro _ (_ | ⟨_, ⟨⟩⟩) key ⟨_ | _, _, _, ⟨⟩⟩

/-- The transaction that stored the fingerprint rolls back and the flag stays, so the next
token is encrypted without one, and a later boot adopts another key. -/
def rolledBack : List (EncryptionEvent String) :=
  [.boot (some "k1"), .migratePlaintext, .begin, .encrypt "ada" .idpAccessToken "acme" "gho_1", .rollback,
    .begin, .encrypt "ada" .idpAccessToken "acme" "gho_1", .commit, .crash, .boot (some "k2")]

theorem not_fingerprint_stored : ¬ ∀ (start : { db : TokenDb String String // FingerprintStored id db })
    (events : List (EncryptionEvent String)), FingerprintStored id (run id start.1 events).db := by
  intro always
  have stored := always unencrypted rolledBack
  have adopted := stored ⟨"ada", "acme", some (.ciphertext "k1" ⟨"acme", .idpAccessToken, "ada"⟩ "gho_1"), none⟩
    (by decide +kernel) "k1" ⟨.idpAccessToken, _, _, rfl⟩
  revert adopted
  decide +kernel

end EncryptionWorld

end Coordinator
