import Coordinator.AdminBootstrap
import Coordinator.LoginLockout
import Coordinator.OAuthLogin

namespace Coordinator

/-- `IdpUserInfo`, with what the provider says about orgs and groups. -/
structure IdpUserInfo extends IdpUser where
  idpOrgId : Option String
  groups : Option (List String)
  deriving DecidableEq

structure ExchangeCodeResult where
  user : IdpUserInfo
  accessToken : String
  refreshToken : Option String
  deriving DecidableEq

/-- `allowlistIdpOrgId` is the column of `orgs` by that name. -/
def resolveOrgFromIdpOrgId (orgs : List AllowlistOrg) (allowlistIdpOrgId : String → Option String) (idpOrgId : String) :
    Option AllowlistMatch :=
  let listed := orgs.filterMap fun o => (allowlistIdpOrgId o.id).bind fun login =>
    if login.toLower = idpOrgId.toLower then some ⟨o.id, o.name, login⟩ else none
  (listed.mergeSort fun a b => a.matchedOrgLogin ≤ b.matchedOrgLogin).head?

/-- What the server is configured with; `allowlistStrategy` is that of a provider's class. -/
structure SignInEnv where
  oauth : OAuthEnv
  auth : AuthHandlerContext
  allowlistStrategy : String → Option AllowlistStrategy
  hashIdentifier : String → String
  hashIdpUserId : String → String
  sha256 : String → String
  toLowerCase : String → String

/-- `null` only where both are missing or empty. -/
def SignInEnv.computeFingerprint (env : SignInEnv) (ip userAgent : Option String) : Option String :=
  if ip.getD "" = "" ∧ userAgent.getD "" = "" then none else some (env.sha256 (ip.getD "" ++ "|" ++ userAgent.getD ""))

/-- `idp_user_id || ip || "unknown"`. -/
def lockoutIdentifier (user : IdpUserInfo) (ip : Option String) : String :=
  if user.idpUserId ≠ "" then user.idpUserId else (ip.filter (· ≠ "")).getD "unknown"

inductive SignInChannel
  /-- The callback, with the exchange that it began. -/
  | browser (exchange : Exchange)
  /-- The `authorization_code` grant. -/
  | authCode (code redirectUri : String) (codeVerifier : Option String)
  deriving DecidableEq

inductive SignInRefusal
  | codeRejected
  | idpUnavailable
  | locked (retryAfterSeconds : Int)
  | membershipsRejected
  | notInAllowlist
  | notProvisioned
  deriving DecidableEq

/-- Status, code and text. -/
structure SignInAnswer where
  status : Nat
  code : String
  text : String
  deriving DecidableEq

def SignInChannel.answer : SignInChannel → SignInRefusal → SignInAnswer
  | .browser _, .codeRejected => ⟨401, "IDP_TOKEN_REVOKED", "Identity provider rejected the token"⟩
  | .browser _, .idpUnavailable => ⟨503, "IDP_UNAVAILABLE", "Identity provider temporarily unavailable"⟩
  | .browser _, .locked _ => ⟨429, "LOGIN_LOCKED", "Too many failed login attempts"⟩
  | .browser _, .membershipsRejected => ⟨401, "IDP_TOKEN_REVOKED", "Identity provider rejected the token"⟩
  | .browser _, .notInAllowlist => ⟨403, "NOT_IN_ALLOWLIST", "User is not in any allowlisted org"⟩
  | .browser _, .notProvisioned => ⟨403, "USER_NOT_PROVISIONED", "User must be provisioned by an admin before signing in"⟩
  | .authCode _ _ _, .codeRejected => ⟨401, "invalid_grant", "IdP rejected the authorization code"⟩
  | .authCode _ _ _, .idpUnavailable => ⟨503, "temporarily_unavailable", "Identity provider unavailable"⟩
  | .authCode _ _ _, .locked _ => ⟨429, "access_denied", "Too many failed login attempts"⟩
  | .authCode _ _ _, .membershipsRejected => ⟨401, "invalid_grant", "IdP rejected the token"⟩
  | .authCode _ _ _, .notInAllowlist => ⟨403, "access_denied", "User is not in any allowlisted org"⟩
  | .authCode _ _ _, .notProvisioned => ⟨403, "access_denied", "User must be provisioned by an admin before signing in"⟩

inductive SignInAudit
  | unknownProvider (observed : String)
  /-- `auth.idp.token_revoked`. -/
  | tokenRevoked (phase : String)
  | loginLocked (identifierHash : String)
  /-- `auth.login.denied.not_in_org`; only the browser's has the count. -/
  | notInOrg (idpUserIdHash identifierHash : String) (membershipsCount : Option Nat)
  /-- `auth.login.failure`. -/
  | userNotProvisioned (idpUserIdHash : String)
  | userCreated (userId orgId : String) (bootstrapAdmin : Bool)
  | adminBootstrapped (userId orgId : String)
  | loginSuccess (userId orgId : String) (familyId : Nat)
  deriving DecidableEq

def SignInChannel.exchangePhase : SignInChannel → String
  | .browser _ => "callback_exchange"
  | .authCode _ _ _ => "auth_code_grant"

def SignInChannel.membershipPhase : SignInChannel → String
  | .browser _ => "callback_memberships"
  | .authCode _ _ _ => "auth_code_membership"

def SignInChannel.membershipsCount (memberships : List String) : SignInChannel → Option Nat
  | .browser _ => some memberships.length
  | .authCode _ _ _ => none

/-- What `mintTokenPair` has read and drawn by its first `await`. -/
structure SessionMint where
  user : ProvisionResult
  familyId : Nat
  refreshJti : Nat
  now : Int
  fingerprint : Option String
  deriving DecidableEq

/-- The row that `mintTokenPair` inserts. -/
def SessionMint.row (mint : SessionMint) : RefreshRow where
  jti := mint.refreshJti
  userId := mint.user.userId
  orgId := mint.user.primaryOrgId
  familyId := mint.familyId
  parentJti := none
  revokedAt := none
  revokedReason := none
  replayCount := 0
  consumerFingerprint := mint.fingerprint
  expiresAt := mint.now + refreshTtlS
  lastUsedAt := mint.now

def SessionMint.audit (mint : SessionMint) : SignInAudit :=
  .loginSuccess mint.user.userId mint.user.primaryOrgId mint.familyId

/-- Where a sign-in stands; the first three await the provider or the signatures. -/
inductive SignInStage
  | exchanging
  | matching (exchange : ExchangeCodeResult)
  | minting (exchange : ExchangeCodeResult) (mint : SessionMint)
  | signedIn (exchange : ExchangeCodeResult) (mint : SessionMint)
  | refused (refusal : SignInRefusal)
  | thrown
  /-- The server stopped before the answer. -/
  | lost
  deriving DecidableEq

/-- What a sign-in was asked with. -/
structure SignInRequest where
  channel : SignInChannel
  provider : String
  ip : Option String
  userAgent : Option String
  deriving DecidableEq

structure SignIn where
  request : SignInRequest
  stage : SignInStage
  deriving DecidableEq

/-- What the grant reads of its body. -/
structure AuthCodeRequest where
  code : Option String
  redirectUri : Option String
  codeVerifier : Option String
  provider : Option String
  deriving DecidableEq

/-- What comes back to a sign-in that is resumed: the provider's answers, the
UUID of a new user, and whether the tokens could be signed. -/
structure SignInAnswers where
  exchangeCode : Except IdpFailure ExchangeCodeResult
  getMemberships : Except IdpFailure (List String)
  userId : String
  signed : Bool

/-- The browser flow, the users with their sessions, and the sign-ins in the
order they came in. `autoProvision` is the environment variable. -/
structure SignInWorld where
  oauth : OAuthWorld
  login : LoginWorld
  allowlistIdpOrgId : String → Option String
  autoProvision : Option String
  flights : List SignIn
  audits : List SignInAudit

inductive SignInEvent
  | tick (seconds : Int)
  | restart (providers : List String) (autoProvision : Option String)
  | login (request : AuthLoginRequest) (draws : LoginDraws)
  | callback (request : CallbackRequest) (later : Int) (ip userAgent : Option String)
  | authCode (request : AuthCodeRequest) (ip userAgent : Option String)
  | advance (i : Nat) (answers : SignInAnswers)
  | sweepStates (victims : List String)
  | updateUser (request : UpdateUserRequest) (commits : Bool)
  /-- Any change to the orgs and their allowlists. -/
  | writeOrgs (orgs : Table AllowlistOrg AllowlistOrg.id) (allowlistIdpOrgId : String → Option String)

/-- A restart ends every sign-in that is still under way. -/
def SignIn.crash (f : SignIn) : SignIn :=
  match f.stage with
  | .exchanging | .matching _ | .minting _ _ => { f with stage := .lost }
  | _ => f

namespace SignInWorld

def boot (orgs : Table AllowlistOrg AllowlistOrg.id) (allowlistIdpOrgId : String → Option String)
    (autoProvision : Option String) (clock : Int) (providers : List String) : SignInWorld :=
  ⟨.boot clock providers, .started orgs clock, allowlistIdpOrgId, autoProvision, [], []⟩

def log (w : SignInWorld) (audits : List SignInAudit) : SignInWorld := { w with audits := w.audits ++ audits }

/-- The allowlist step of a sign-in, with the memberships it went by. -/
def matchAllowlist (env : SignInEnv) (w : SignInWorld) (provider : String) (user : IdpUserInfo)
    (getMemberships : Except IdpFailure (List String)) : Except IdpFailure (List String × Option AllowlistMatch) :=
  match (env.allowlistStrategy provider).getD .memberships with
  | .memberships => getMemberships.map fun m => (m, resolveOrgFromMemberships w.login.db.orgs.rows m)
  | .idpOrgId =>
    .ok ([], (user.idpOrgId.filter (· ≠ "")).bind (resolveOrgFromIdpOrgId w.login.db.orgs.rows w.allowlistIdpOrgId))
  | .idTokenGroups =>
    let groups := (user.groups.getD []).map env.toLowerCase
    .ok (groups, resolveOrgFromMemberships w.login.db.orgs.rows groups)
  | .none => .ok ([], none)

def provisionArgs (provider : String) (x : ExchangeCodeResult) (allowlistOrg : AllowlistMatch) : ProvisionUserArgs :=
  { idpUser := x.user.toIdpUser, accessToken := x.accessToken, allowlistOrg, providerName := provider,
    idpRefreshToken := x.refreshToken }

/-- The start of `mintTokenPair`, up to its first `await`. -/
def beginMint (env : SignInEnv) (w : SignInWorld) (request : SignInRequest) (user : ProvisionResult) :
    SignInWorld × SessionMint :=
  let draws := w.login.db.draws
  ({ w with login := { w.login with db := { w.login.db with draws := draws + 3 } } },
    ⟨user, draws, draws + 1, w.login.db.clock, env.computeFingerprint request.ip request.userAgent⟩)

def provisionAudits (result : ProvisionResult) : List SignInAudit :=
  (if result.isNew then [.userCreated result.userId result.primaryOrgId result.bootstrapAdmin] else []) ++
    if result.bootstrapAdmin then [.adminBootstrapped result.userId result.primaryOrgId] else []

/-- After `exchangeCode`: the lockout is looked up. -/
def exchanged (env : SignInEnv) (w : SignInWorld) (request : SignInRequest) :
    Except IdpFailure ExchangeCodeResult → SignInWorld × SignInStage
  | .error .tokenRevoked => (w.log [.tokenRevoked request.channel.exchangePhase], .refused .codeRejected)
  | .error .transient => (w, .refused .idpUnavailable)
  | .error .other => (w, .thrown)
  | .ok x =>
    let identifierHash := env.hashIdentifier (lockoutIdentifier x.user request.ip)
    let lockState := isLocked identifierHash {} w.oauth.clock w.oauth.limiter
    if lockState.locked then
      (w.log [.loginLocked identifierHash], .refused (.locked (lockState.retryAfterSeconds.getD 900)))
    else (w, .matching x)

/-- A failed login counts towards the lockout. -/
def denyNotInOrg (env : SignInEnv) (w : SignInWorld) (request : SignInRequest) (x : ExchangeCodeResult)
    (memberships : List String) : SignInWorld × SignInStage :=
  let identifierHash := env.hashIdentifier (lockoutIdentifier x.user request.ip)
  let limiter := (recordFailedLogin identifierHash {} w.oauth.clock w.oauth.limiter).1
  ({ w with oauth := { w.oauth with limiter } }.log
      [.notInOrg (env.hashIdpUserId x.user.idpUserId) identifierHash (request.channel.membershipsCount memberships)],
    .refused .notInAllowlist)

def provision (env : SignInEnv) (w : SignInWorld) (request : SignInRequest) (x : ExchangeCodeResult)
    (allowlistOrg : AllowlistMatch) (userId : String) : SignInWorld × SignInStage :=
  match w.login.provisionUserWithAutoProvisionGate env.auth w.autoProvision
    (provisionArgs request.provider x allowlistOrg) userId with
  | (_, .denied _) =>
    (w.log [.userNotProvisioned (env.hashIdpUserId x.user.idpUserId)], .refused .notProvisioned)
  | (_, .thrown) => (w, .thrown)
  | (login, .provisioned result) =>
    let (w, mint) := beginMint env ({ w with login }.log (provisionAudits result)) request result
    (w, .minting x mint)

/-- After the memberships: the allowlist is asked, and the user found or made. -/
def matched (env : SignInEnv) (w : SignInWorld) (request : SignInRequest) (x : ExchangeCodeResult)
    (answers : SignInAnswers) : SignInWorld × SignInStage :=
  match w.matchAllowlist env request.provider x.user answers.getMemberships with
  | .error .tokenRevoked => (w.log [.tokenRevoked request.channel.membershipPhase], .refused .membershipsRejected)
  | .error .transient => (w, .refused .idpUnavailable)
  | .error .other => (w, .thrown)
  | .ok (memberships, none) => w.denyNotInOrg env request x memberships
  | .ok (_, some allowlistOrg) => w.provision env request x allowlistOrg answers.userId

/-- After the signatures: the session's row is inserted. -/
def minted (w : SignInWorld) (x : ExchangeCodeResult) (mint : SessionMint) (signed : Bool) : SignInWorld × SignInStage :=
  if signed then
    match w.login.db.refreshTokens.insert mint.row with
    | none => (w, .thrown)
    | some tokens =>
      ({ w with login := { w.login with db := w.login.db.setTokens tokens } }.log [mint.audit], .signedIn x mint)
  else (w, .thrown)

/-- A sign-in from one `await` to the next. -/
def resume (env : SignInEnv) (w : SignInWorld) (f : SignIn) (answers : SignInAnswers) : SignInWorld × SignInStage :=
  match f.stage with
  | .exchanging => w.exchanged env f.request answers.exchangeCode
  | .matching x => w.matched env f.request x answers
  | .minting x mint => w.minted x mint answers.signed
  | settled => (w, settled)

def begin (w : SignInWorld) (request : SignInRequest) : SignInWorld :=
  { w with flights := w.flights ++ [⟨request, .exchanging⟩] }

/-- `handleOAuthCallback`; one that gets as far as `exchangeCode` is under way from here on. -/
def callback (env : SignInEnv) (w : SignInWorld) (request : CallbackRequest) (later : Int) (ip userAgent : Option String) :
    SignInWorld :=
  let (oauth, reply) := w.oauth.handleOAuthCallback env.oauth request later
  match reply with
  | .exchanging exchange => { w with oauth }.begin ⟨.browser exchange, exchange.provider, ip, userAgent⟩
  | .refused _ | .thrown => { w with oauth }

/-- `handleAuthorizationCodeGrant` up to `exchangeCode`. -/
def authCode (w : SignInWorld) (request : AuthCodeRequest) (ip userAgent : Option String) : SignInWorld :=
  match request.code.filter (· ≠ ""), request.redirectUri.filter (· ≠ "") with
  | some code, some redirectUri =>
    match request.provider.filter (· ≠ "") with
    | some requested =>
      if requested ∈ w.oauth.providers then
        w.begin ⟨.authCode code redirectUri request.codeVerifier, requested, ip, userAgent⟩
      else w.log [.unknownProvider requested]
    | none =>
      match w.oauth.providers.head? with
      | none => w
      | some provider => w.begin ⟨.authCode code redirectUri request.codeVerifier, provider, ip, userAgent⟩
  | _, _ => w

def step (env : SignInEnv) (w : SignInWorld) : SignInEvent → SignInWorld
  | .tick seconds =>
    { w with oauth := w.oauth.step env.oauth (.tick seconds), login := { w.login with db := w.login.db.wait seconds } }
  | .restart providers autoProvision =>
    { w with
      oauth := w.oauth.step env.oauth (.restart providers), autoProvision, flights := w.flights.map SignIn.crash }
  | .login request draws => { w with oauth := w.oauth.step env.oauth (.login request draws) }
  | .callback request later ip userAgent => w.callback env request later ip userAgent
  | .authCode request ip userAgent => w.authCode request ip userAgent
  | .advance i answers =>
    match w.flights[i]? with
    | none => w
    | some f =>
      let (after, stage) := w.resume env f answers
      { after with flights := w.flights.set i { f with stage } }
  | .sweepStates victims => { w with oauth := w.oauth.step env.oauth (.sweep victims) }
  | .updateUser request commits => { w with login := (w.login.serveCall env.auth (.updateUser request commits)).1 }
  | .writeOrgs orgs allowlistIdpOrgId =>
    { w with login := { w.login with db := { w.login.db with orgs } }, allowlistIdpOrgId }

end SignInWorld

end Coordinator
