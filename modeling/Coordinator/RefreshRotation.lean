import Coordinator.AuthContext

namespace Coordinator

def accessTtlS : Int := 15 * 60
def refreshTtlS : Int := 30 * 24 * 3600
def graceWindowS : Int := 10
def replayThreshold : Nat := 3

/-- What the membership step holds while it waits for the provider. -/
structure MembershipCheck where
  row : RefreshRow
  now : Int
  user : User
  accessToken : String
  refreshToken : Option String
  provider : IdPProvider
  deriving DecidableEq, Repr

/-- What `mintTokenPair` holds between its awaits. -/
structure Mint where
  row : RefreshRow
  familyId : Nat
  refreshJti : Nat
  now : Int
  accessJwt : AccessTokenClaims
  deriving DecidableEq, Repr

/-- Where a refresh request stands: each stage but the last is an `await`. -/
inductive Stage
  | verifying
  | gettingMemberships (check : MembershipCheck)
  | refreshingIdpToken (check : MembershipCheck)
  | listingMemberships (check : MembershipCheck)
  | checked (row : RefreshRow) (now : Int) (user : Option User) (recheckFailed : Bool)
  | signingAccess (mint : Mint)
  | signingRefresh (mint : Mint) (refreshJwt : RefreshTokenClaims)
  | inserted (mint : Mint) (refreshJwt : RefreshTokenClaims)
  | reminting (row : RefreshRow) (pair : TokenPair)
  | answered (row : Option RefreshRow) (reply : Reply)
  deriving DecidableEq, Repr

/-- `token` is `none` when the signature, issuer or lifetime check of `jwtVerify` fails. -/
structure RefreshRequest where
  token : Option ParsedRefreshClaims
  fingerprint : Option String
  deriving DecidableEq, Repr

def invalidGrant (description : String) (status : Nat) : Reply := .oauthError status "invalid_grant" description

def verifyAndValidateClaims (request : RefreshRequest) : Except Reply ParsedRefreshClaims :=
  match request.token with
  | none => .error (invalidGrant "Token verification failed" 400)
  | some claims =>
    if claims.typ ≠ some .refresh then .error (invalidGrant "Token verification failed" 400) else .ok claims

def checkNotServiceAccount (claims : ParsedRefreshClaims) : Except Reply Unit :=
  if claims.serviceAccount then
    .error (invalidGrant "Service tokens do not rotate. Mint a new one via admin CLI." 400)
  else .ok ()

def checkTokenEpoch (db : AuthDb) (claims : ParsedRefreshClaims) : Except Reply Unit :=
  if claims.iat < max (readTokenEpoch db claims.sub) (db.epochFloor claims.sub) then
    .error (invalidGrant "Session invalidated by admin" 400)
  else .ok ()

def selectRefreshRow (db : AuthDb) (claims : ParsedRefreshClaims) : Except Reply RefreshRow :=
  match db.refreshTokens.find claims.jti with
  | none => .error (invalidGrant "Unknown refresh token" 400)
  | some row => .ok row

/-- The checks up to the row: its claims are genuine, current and known. -/
def acceptToken (db : AuthDb) (request : RefreshRequest) : Except Reply (ParsedRefreshClaims × RefreshRow) := do
  let claims ← verifyAndValidateClaims request
  checkNotServiceAccount claims
  checkTokenEpoch db claims
  let row ← selectRefreshRow db claims
  return (claims, row)

inductive IdleCheck
  | active
  | expired
  | invalid
  deriving DecidableEq, Repr

/-- The idle timeout of the row's org against the last use of the row, or the
issue of the token when no use is recorded. -/
def idleCheck (ctx : AuthHandlerContext) (row : RefreshRow) (iat now : Int) : IdleCheck :=
  let raw := ctx.sessionIdleTimeout row.orgId
  if raw = "" ∨ raw = "0" then .active
  else match parseDuration raw with
    | none => .invalid
    | some timeout => if now - row.lastUsedAt.getD iat > timeout then .expired else .active

/-- The decrypted access and refresh tokens of the provider. -/
def readIdpTokens (ctx : AuthHandlerContext) (userId : String) :
    Option User → Except DecryptFailure (Option String × Option String)
  | none => .ok (none, none)
  | some user =>
    if user.primaryOrgId = "" then .ok (none, none)
    else do
      let access ← decryptNullable ctx ⟨user.primaryOrgId, .idpAccessToken, userId⟩ user.idpAccessToken
      let refresh ← decryptNullable ctx ⟨user.primaryOrgId, .idpRefreshToken, userId⟩ user.idpRefreshToken
      return (access, refresh)

def idpRejected : Reply := invalidGrant "Identity provider rejected the token" 401

/-- The provider to ask for memberships: registered and of the memberships strategy. -/
def recheckProvider (ctx : AuthHandlerContext) (user : User) : Option IdPProvider :=
  if user.idpProvider = "" then none
  else (ctx.providers user.idpProvider).filter fun p => p.allowlistStrategy.getD .memberships = .memberships

/-- The membership step up to its first await. -/
def refreshIdpMembershipAndAllowlist (ctx : AuthHandlerContext) (db : AuthDb) (row : RefreshRow) (now : Int) :
    AuthDb × Stage :=
  let user := db.users.find row.userId
  match readIdpTokens ctx row.userId user with
  | .error .undecryptable => (bumpTokenEpoch db row.userId, .answered row idpRejected)
  | .error .other => (db, .answered row .thrown)
  | .ok (access, refresh) =>
    match user, access with
    | some user, some accessToken =>
      match recheckProvider ctx user with
      | some provider =>
        if accessToken = "" then (db, .checked row now user false)
        else (db, .gettingMemberships ⟨row, now, user, accessToken, refresh, provider⟩)
      | none => (db, .checked row now user false)
    | user, _ => (db, .checked row now user false)

/-- From the end of `jwtVerify` to the first await of the membership step. -/
def lookUp (ctx : AuthHandlerContext) (db : AuthDb) (request : RefreshRequest) : AuthDb × Stage :=
  match acceptToken db request with
  | .error reply => (db, .answered none reply)
  | .ok (claims, row) =>
    match idleCheck ctx row claims.iat db.clock with
    | .invalid => (db, .answered row .thrown)
    | .expired =>
      (db.setTokens (db.refreshTokens.revokeToken claims.jti db.clock .idleExpired),
        .answered row (invalidGrant "Session idle timeout" 400))
    | .active => refreshIdpMembershipAndAllowlist ctx db row db.clock

def lookupFailed (row : RefreshRow) : IdpFailure → Stage
  | .tokenRevoked => .answered row idpRejected
  | .transient => .answered row (.oauthError 503 "temporarily_unavailable" "Identity provider unavailable")
  | .other => .answered row .thrown

/-- The end of the membership step: a user who is in no allowlisted org loses
an unrevoked row at once, and the reuse branch decides about a revoked one. -/
def checkAllowlist (db : AuthDb) (check : MembershipCheck) (memberships : List String) : AuthDb × Stage :=
  let unlisted := (resolveOrgFromMemberships db.orgs.rows memberships).isNone
  if unlisted ∧ check.row.revokedAt = none then
    (db.setTokens (db.refreshTokens.revokeToken check.row.jti check.now .admin),
      .answered check.row (invalidGrant "User is not in any allowlisted org" 401))
  else (db, .checked check.row check.now check.user unlisted)

def membershipsFound (db : AuthDb) (check : MembershipCheck) : Except IdpFailure (List String) → AuthDb × Stage
  | .ok memberships => checkAllowlist db check memberships
  | .error failure => (db, lookupFailed check.row failure)

/-- A revoked provider token is exchanged when the provider and the row allow it. -/
def membershipsAnswered (db : AuthDb) (check : MembershipCheck) (answer : Except IdpFailure (List String)) :
    AuthDb × Stage :=
  match answer with
  | .error .tokenRevoked =>
    if check.refreshToken.isSome ∧ check.provider.refreshIdpToken then (db, .refreshingIdpToken check)
    else (db, lookupFailed check.row .tokenRevoked)
  | answer => membershipsFound db check answer

def storeRefreshed (ctx : AuthHandlerContext) (db : AuthDb) (check : MembershipCheck) (refreshed : IdpRefreshResult) :
    AuthDb :=
  let context := fun column => (⟨check.user.primaryOrgId, column, check.row.userId⟩ : EncryptionContext)
  let access := encryptNullable ctx (context .idpAccessToken) refreshed.accessToken
  let refresh := encryptNullable ctx (context .idpRefreshToken) (refreshed.refreshToken.or check.refreshToken)
  let store := User.storeIdpTokens access refresh
  { db with users := db.users.update (fun u => u.id = check.row.userId) store (User.storeIdpTokens_id access refresh) }

def idpTokenRefreshed (ctx : AuthHandlerContext) (db : AuthDb) (check : MembershipCheck)
    (answer : Except IdpFailure IdpRefreshResult) : AuthDb × Stage :=
  match answer with
  | .error failure => (db, lookupFailed check.row failure)
  | .ok refreshed =>
    (storeRefreshed ctx db check refreshed,
      if check.provider.listMemberships then .listingMemberships check else lookupFailed check.row .other)

/-- The branches of `handleReuseBranch`. -/
inductive ReuseVerdict
  | hardReuse
  | noSuccessor
  | deniedRetry
  | retry (successor : RefreshRow)
  | replayed (replayCount : Nat)
  | rowGone
  deriving DecidableEq, Repr

def reuseVerdict (db : AuthDb) (row : RefreshRow) (revokedAt : Int) (fingerprint : Option String)
    (recheckFailed : Bool) : ReuseVerdict :=
  if db.clock - revokedAt ≥ graceWindowS ∨ row.revokedReason ≠ some .rotated then .hardReuse
  else match db.refreshTokens.rows.find? fun r => r.parentJti = some row.jti with
    | none => .noSuccessor
    | some successor =>
      -- an unknown fingerprint matches nothing
      if fingerprint ≠ none ∧ successor.consumerFingerprint = fingerprint then
        if recheckFailed then .deniedRetry else .retry successor
      else match db.refreshTokens.find row.jti with
        | none => .rowGone
        | some current => .replayed (current.replayCount + 1)

def ReuseVerdict.revokesFamily : ReuseVerdict → Bool
  | .hardReuse | .noSuccessor | .deniedRetry => true
  | .replayed replayCount => replayThreshold ≤ replayCount
  | .retry _ | .rowGone => false

/-- `revokeFamilyForReuse`, on a row with a family. -/
def revokeFamilyForReuse (db : AuthDb) : Option Nat → AuthDb
  | none => db
  | some family => db.setTokens (db.refreshTokens.revokeFamily family db.clock .reuseDetected)

/-- The re-mint of the successor, dated from its expiry. -/
def remintPair (successor : RefreshRow) (accessJti : Nat) : TokenPair :=
  let iat := successor.expiresAt - refreshTtlS
  { accessJwt := ⟨successor.userId, successor.orgId, successor.familyId, .member, accessJti, iat, iat + accessTtlS⟩
    refreshJwt := ⟨successor.userId, successor.orgId, successor.familyId, successor.parentJti, successor.jti, iat,
      iat + refreshTtlS⟩ }

def handleReuseBranch (db : AuthDb) (row : RefreshRow) (revokedAt : Int) (fingerprint : Option String)
    (recheckFailed : Bool) : AuthDb × Stage :=
  match reuseVerdict db row revokedAt fingerprint recheckFailed with
  | .hardReuse | .noSuccessor =>
    (revokeFamilyForReuse db row.familyId, .answered row (invalidGrant "Refresh token chain revoked" 401))
  | .deniedRetry =>
    (revokeFamilyForReuse db row.familyId, .answered row (invalidGrant "User no longer in allowlisted org" 401))
  | .retry successor => ({ db with draws := db.draws + 1 }, .reminting row (remintPair successor db.draws))
  | .replayed replayCount =>
    let counted := db.setTokens (db.refreshTokens.countReplay row.jti)
    if replayThreshold ≤ replayCount then
      (revokeFamilyForReuse counted row.familyId, .answered row (invalidGrant "Refresh token chain revoked" 401))
    else (counted, .answered row (invalidGrant "Refresh token validation failed" 401))
  | .rowGone => (db, .answered row .thrown)

def mintedRole (user : Option User) : Role :=
  match user.bind User.role with
  | some "admin" => .admin
  | some "service" => .service
  | _ => .member

/-- The start of `mintTokenPair`, up to the signing of the access token. A new
session draws a family, and both tokens draw a `jti`. -/
def beginMint (db : AuthDb) (row : RefreshRow) (role : Role) : AuthDb × Stage :=
  let first := if row.familyId = none then db.draws + 1 else db.draws
  let familyId := row.familyId.getD db.draws
  let accessJwt : AccessTokenClaims :=
    ⟨row.userId, row.orgId, familyId, role, first + 1, db.clock, db.clock + accessTtlS⟩
  ({ db with draws := first + 2 }, .signingAccess ⟨row, familyId, first, db.clock, accessJwt⟩)

/-- The compare-and-set of the row, and the first part of the mint. -/
def rotateRefreshToken (db : AuthDb) (row : RefreshRow) (user : Option User) (now : Int) : AuthDb × Stage :=
  if db.refreshTokens.changes (RefreshTokens.unrevoked fun r => r.jti = row.jti) ≠ 1 then
    (db, .answered row (invalidGrant "Rotation race; please retry" 400))
  else beginMint (db.setTokens (db.refreshTokens.revokeToken row.jti now .rotated)) row (mintedRole user)

def signRefresh (db : AuthDb) (mint : Mint) : AuthDb × Stage :=
  (db, .signingRefresh mint
    ⟨mint.row.userId, mint.row.orgId, mint.familyId, none, mint.refreshJti, db.clock, db.clock + refreshTtlS⟩)

/-- The row that `mintTokenPair` inserts; the successor is linked to its parent later. -/
def Mint.successor (mint : Mint) (fingerprint : Option String) : RefreshRow where
  jti := mint.refreshJti
  userId := mint.row.userId
  orgId := mint.row.orgId
  familyId := mint.familyId
  parentJti := none
  revokedAt := none
  revokedReason := none
  replayCount := 0
  consumerFingerprint := fingerprint
  expiresAt := mint.now + refreshTtlS
  lastUsedAt := mint.now

def insertSuccessor (db : AuthDb) (mint : Mint) (refreshJwt : RefreshTokenClaims) (fingerprint : Option String) :
    AuthDb × Stage :=
  match db.refreshTokens.insert (mint.successor fingerprint) with
  | none => (db, .answered mint.row .thrown)
  | some tokens => (db.setTokens tokens, .inserted mint refreshJwt)

def linkSuccessor (db : AuthDb) (mint : Mint) (refreshJwt : RefreshTokenClaims) : AuthDb × Stage :=
  match db.refreshTokens.link mint.refreshJti mint.row.jti with
  | none => (db, .answered mint.row .thrown)
  | some tokens => (db.setTokens tokens, .answered mint.row (.tokens ⟨mint.accessJwt, refreshJwt⟩))

/-- One turn of the event loop: the request runs from one await to the next. -/
def advance (ctx : AuthHandlerContext) (db : AuthDb) (request : RefreshRequest) (answers : IdpAnswers) :
    Stage → AuthDb × Stage
  | .verifying => lookUp ctx db request
  | .gettingMemberships check => membershipsAnswered db check answers.getMemberships
  | .refreshingIdpToken check => idpTokenRefreshed ctx db check answers.refreshIdpToken
  | .listingMemberships check => membershipsFound db check answers.listMemberships
  | .checked row now user recheckFailed =>
    match row.revokedAt with
    | some revokedAt => handleReuseBranch db row revokedAt request.fingerprint recheckFailed
    | none => rotateRefreshToken db row user now
  | .signingAccess mint => signRefresh db mint
  | .signingRefresh mint refreshJwt => insertSuccessor db mint refreshJwt request.fingerprint
  | .inserted mint refreshJwt => linkSuccessor db mint refreshJwt
  | .reminting row pair => (db, .answered row (.tokens pair))
  | .answered row reply => (db, .answered row reply)

end Coordinator
