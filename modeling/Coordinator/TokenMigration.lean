import Coordinator.EncryptionFingerprint
import Coordinator.EnvelopeEncryption
import Coordinator.Library.Keyset
import Mathlib.Data.String.Basic

namespace Coordinator
open IdealAead

/-- A row of `users` as it is stored, with the columns that the migrations read and write. -/
structure UserRow where
  id : String
  primaryOrgId : String
  idpAccessToken : Option String
  idpRefreshToken : Option String
  deriving DecidableEq, Repr

namespace UserRow

def cell (u : UserRow) : IdpColumn → Option String
  | .idpAccessToken => u.idpAccessToken
  | .idpRefreshToken => u.idpRefreshToken

def put (u : UserRow) (value : Option String) : IdpColumn → UserRow
  | .idpAccessToken => { u with idpAccessToken := value }
  | .idpRefreshToken => { u with idpRefreshToken := value }

def context (u : UserRow) (column : IdpColumn) : EncryptionContext := ⟨u.primaryOrgId, column, u.id⟩

@[simp] theorem put_id (u : UserRow) (value : Option String) (column : IdpColumn) : (u.put value column).id = u.id := by
  cases column <;> rfl

end UserRow

/-- `random` is what `randomBytes` gives to the call. -/
structure EncryptionProvider where
  encrypt : EncryptRandom → String → EncryptionContext → Except EncryptionError String
  decrypt : String → EncryptionContext → Except EncryptionError String

def EnvelopeEncryption.provider (rt : CryptoRuntime) (made : List ByteSealing) (e : EnvelopeEncryption) :
    EncryptionProvider where
  encrypt random text context := (e.encrypt rt random text context).map Prod.fst
  decrypt ciphertext context := e.decrypt rt made ciphertext context

namespace EncryptionProvider

def encryptNullable (provider : EncryptionProvider) (random : EncryptRandom) (value : Option String)
    (context : EncryptionContext) : Except EncryptionError (Option String) :=
  match value with
  | none => .ok none
  | some text => if text = "" then .ok none else (provider.encrypt random text context).map some

def decryptNullable (provider : EncryptionProvider) (value : Option String) (context : EncryptionContext) :
    Except EncryptionError (Option String) :=
  match value with
  | none => .ok none
  | some text => (provider.decrypt text context).map some

end EncryptionProvider

inductive MigrateDirection
  | encrypt
  | decrypt
  deriving DecidableEq, Repr

structure MigrateSummary where
  direction : MigrateDirection
  scanned : Nat
  changed : Nat
  skippedCas : Nat
  alreadyDone : Nat
  nullSkipped : Nat
  deriving DecidableEq, Repr

def MigrateSummary.zero (direction : MigrateDirection) : MigrateSummary := ⟨direction, 0, 0, 0, 0, 0⟩

/-- What a batch does with a cell; a write names the value that was read. -/
inductive CellOutcome
  | nullSkipped
  | alreadyDone
  | write (old : String) (value : Option String)
  deriving DecidableEq, Repr

abbrev CellOutcomes : Type := UserRow → IdpColumn → Except EncryptionError CellOutcome

/-- A cell that was NULL, or is an empty text left alone, or holds a ciphertext of what it held. -/
inductive SealedCell (provider : EncryptionProvider) (context : EncryptionContext) : Option String → Option String → Prop
  | null : SealedCell provider context none none
  | empty : SealedCell provider context (some "") (some "")
  | ciphertext {text ciphertext : String} (spelled : encRe ciphertext = true)
      (opens : provider.decrypt ciphertext context = .ok text) : SealedCell provider context (some text) (some ciphertext)

structure SealedRow (provider : EncryptionProvider) (u s : UserRow) : Prop where
  id : s.id = u.id
  primaryOrgId : s.primaryOrgId = u.primaryOrgId
  cells : ∀ column, SealedCell provider (u.context column) (u.cell column) (s.cell column)

namespace UserRow

/-- What a migration leaves in a cell. -/
def settled (outcome : CellOutcomes) (u : UserRow) (column : IdpColumn) : Option String :=
  match outcome u column with
  | .ok (.write _ value) => value
  | _ => u.cell column

def settle (outcome : CellOutcomes) (u : UserRow) : UserRow :=
  { u with
    idpAccessToken := u.settled outcome .idpAccessToken
    idpRefreshToken := u.settled outcome .idpRefreshToken }

variable {outcome : CellOutcomes} {u v : UserRow} {column : IdpColumn}

@[simp] theorem settle_id : (u.settle outcome).id = u.id := rfl

end UserRow

section batches
variable {outcome : CellOutcomes} {row : UserRow}

end batches

section cells
variable {provider : EncryptionProvider} {random : String → IdpColumn → EncryptRandom} {u s : UserRow} {column : IdpColumn}
  {before : Option String}

end cells

section boot
variable {provider : EncryptionProvider} {random : String → IdpColumn → EncryptRandom} {u s : UserRow} {column : IdpColumn}
  {before : Option String}

end boot

section tables
variable {provider : EncryptionProvider} {u s : UserRow} {users t : UserTable} {g : UserRow → UserRow}

theorem SealedRow.context (row : SealedRow provider u s) (column : IdpColumn) : s.context column = u.context column := by
  rw [UserRow.context, UserRow.context, row.id, row.primaryOrgId]

theorem SealedRow.cell (row : SealedRow provider u s) (column : IdpColumn) :
    SealedCell provider (s.context column) (u.cell column) (s.cell column) := by
  rw [row.context]
  exact row.cells column

end tables

section envelope
variable {rt : CryptoRuntime} {calls : List EncryptCall} {e : EnvelopeEncryption} {users : UserTable}
  {random boot : String → IdpColumn → EncryptRandom} {u : UserRow} {column : IdpColumn}

end envelope

end Coordinator
