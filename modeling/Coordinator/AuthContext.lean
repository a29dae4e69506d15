import Mathlib.Data.Nat.Digits.Defs
import Coordinator.RefreshTokens

namespace Coordinator

inductive Role
  | admin
  | member
  | service
  deriving DecidableEq, Repr

/-- A row of `users`, without the columns that the refresh flow does not read. -/
structure User where
  id : String
  primaryOrgId : String
  role : Option String
  idpProvider : String
  idpAccessToken : Option String
  idpRefreshToken : Option String
  tokenEpoch : Int
  deriving DecidableEq, Repr

/-- A row of `orgs`. -/
structure AllowlistOrg where
  id : String
  name : String
  allowlistGithubOrg : Option String
  deriving DecidableEq, Repr

structure AllowlistMatch where
  orgId : String
  orgName : String
  matchedOrgLogin : String
  deriving DecidableEq, Repr

def resolveOrgFromMemberships (orgs : List AllowlistOrg) (memberships : List String) : Option AllowlistMatch :=
  let listed := orgs.filterMap fun o => o.allowlistGithubOrg.bind fun login =>
    if memberships.contains login.toLower then some ⟨o.id, o.name, login⟩ else none
  (listed.mergeSort fun a b => a.matchedOrgLogin ≤ b.matchedOrgLogin).head?

inductive IdpColumn
  | idpAccessToken
  | idpRefreshToken
  deriving DecidableEq, Repr

structure EncryptionContext where
  orgId : String
  column : IdpColumn
  userId : String
  deriving DecidableEq, Repr

/-- `DecryptionError` and `UnknownCipherVersion` are told apart from every other exception. -/
inductive DecryptFailure
  | undecryptable
  | other
  deriving DecidableEq, Repr

inductive AllowlistStrategy
  | memberships
  | idpOrgId
  | idTokenGroups
  | none
  deriving DecidableEq, Repr

/-- The optional methods of a provider are there or not. -/
structure IdPProvider where
  name : String
  allowlistStrategy : Option AllowlistStrategy
  refreshIdpToken : Bool
  listMemberships : Bool
  deriving DecidableEq, Repr

inductive IdpFailure
  | tokenRevoked
  | transient
  | other
  deriving DecidableEq, Repr

structure IdpRefreshResult where
  accessToken : String
  refreshToken : Option String
  deriving DecidableEq, Repr

/-- What the identity provider answers at each of the three places where it is asked. -/
structure IdpAnswers where
  getMemberships : Except IdpFailure (List String)
  refreshIdpToken : Except IdpFailure IdpRefreshResult
  listMemberships : Except IdpFailure (List String)

structure AuthHandlerContext where
  decrypt : EncryptionContext → String → Except DecryptFailure String
  encrypt : EncryptionContext → String → String
  providers : String → Option IdPProvider
  sessionIdleTimeout : String → String

def decryptNullable (ctx : AuthHandlerContext) (context : EncryptionContext) :
    Option String → Except DecryptFailure (Option String)
  | none => .ok none
  | some cell => (ctx.decrypt context cell).map some

def encryptNullable (ctx : AuthHandlerContext) (context : EncryptionContext) : Option String → Option String
  | none => none
  | some value => if value = "" then none else some (ctx.encrypt context value)

def durationUnit : Char → Option Nat
  | 's' => some 1
  | 'm' => some 60
  | 'h' => some 3600
  | 'd' => some 86400
  | _ => none

/-- `none` where the source throws. -/
def parseDuration (s : String) : Option Nat :=
  match s.toList.reverse with
  | [] => none
  | unit :: digits =>
    if digits ≠ [] ∧ digits.all Char.isDigit then
      (durationUnit unit).map (Nat.ofDigitChars 10 digits.reverse 0 * ·)
    else none

inductive TokenType
  | access
  | refresh
  deriving DecidableEq, Repr

/-- The claims of a refresh token that `jwtVerify` accepts. -/
structure ParsedRefreshClaims where
  sub : String
  jti : Nat
  iat : Int
  typ : Option TokenType
  serviceAccount : Bool
  deriving DecidableEq, Repr

/-- `none` stands for the empty `family_id` of a row without a family. -/
structure AccessTokenClaims where
  sub : String
  activeOrgId : String
  familyId : Option Nat
  role : Role
  jti : Nat
  iat : Int
  exp : Int
  deriving DecidableEq, Repr

structure RefreshTokenClaims where
  sub : String
  activeOrgId : String
  familyId : Option Nat
  parentJti : Option Nat
  jti : Nat
  iat : Int
  exp : Int
  deriving DecidableEq, Repr

structure TokenPair where
  accessJwt : AccessTokenClaims
  refreshJwt : RefreshTokenClaims
  deriving DecidableEq, Repr

inductive Reply
  | tokens (pair : TokenPair)
  | oauthError (status : Nat) (error description : String)
  | thrown
  deriving DecidableEq, Repr

/-- Answered 200. -/
def Reply.served : Reply → Bool
  | .tokens _ => true
  | _ => false

structure AuthDb where
  clock : Int
  draws : Nat
  users : Table User User.id
  orgs : Table AllowlistOrg AllowlistOrg.id
  refreshTokens : RefreshTokens
  epochFloor : String → Int

def AuthDb.setTokens (db : AuthDb) (tokens : RefreshTokens) : AuthDb := { db with refreshTokens := tokens }

def AuthDb.wait (db : AuthDb) (seconds : Int) : AuthDb := { db with clock := db.clock + seconds }

@[simp] theorem AuthDb.wait_refreshTokens (db : AuthDb) (seconds : Int) :
    (db.wait seconds).refreshTokens = db.refreshTokens := rfl

@[simp] theorem AuthDb.wait_clock (db : AuthDb) (seconds : Int) : (db.wait seconds).clock = db.clock + seconds := rfl

def readTokenEpoch (db : AuthDb) (userId : String) : Int := ((db.users.find userId).map User.tokenEpoch).getD 0

def User.bump (now : Int) (u : User) : User := { u with tokenEpoch := max now (u.tokenEpoch + 1) }

theorem User.bump_id (now : Int) (u : User) : (u.bump now).id = u.id := rfl

def bumpTokenEpoch (db : AuthDb) (userId : String) : AuthDb :=
  { db with users := db.users.update (fun u => u.id = userId) (User.bump db.clock) (User.bump_id db.clock) }

def bumpTokenEpochAllUsers (db : AuthDb) : AuthDb :=
  { db with users := db.users.update (fun _ => true) (User.bump db.clock) (User.bump_id db.clock) }

def User.storeIdpTokens (access refresh : Option String) (u : User) : User :=
  { u with idpAccessToken := access, idpRefreshToken := refresh }

theorem User.storeIdpTokens_id (access refresh : Option String) (u : User) : (u.storeIdpTokens access refresh).id = u.id :=
  rfl

end Coordinator
