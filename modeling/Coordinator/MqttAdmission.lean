import Coordinator.AuthContext
import Coordinator.MqttTopics
import Coordinator.RevokedAgents

namespace Coordinator

/-- The claims set of a token; a claim that is not there is `none`. -/
structure JwtPayload where
  sub : Option ClaimValue
  iss : Option ClaimValue
  iat : Option ClaimValue
  nbf : Option ClaimValue
  exp : Option ClaimValue
  jti : Option ClaimValue
  typ : Option ClaimValue
  role : Option ClaimValue
  userId : Option ClaimValue
  org : Option ClaimValue
  activeOrgId : Option ClaimValue
  familyId : Option ClaimValue
  serviceAccount : Option ClaimValue
  scope : Option ClaimValue
  deriving DecidableEq, Repr

structure Jwt where
  kid : Option ClaimValue
  payload : JwtPayload
  signature : String
  deriving DecidableEq, Repr

inductive JoseError
  | signatureVerificationFailed
  | expired
  | other
  deriving DecidableEq, Repr

/-- What is not in the repository: whether a token bears the HS256 signature of a key, and the text that
a claim is compared as when it is bound to a statement, `none` where binding it throws. -/
structure AuthLibraries (Key : Type) where
  signed : Key → Jwt → Bool
  bindText : ClaimValue → Option String

/-- The claim is absent, or a number that passes. -/
def dateOk (claim : Option ClaimValue) (ok : Rat → Bool) : Bool := claim = none || (ClaimValue.number claim).any ok

/-- An empty issuer is only asked to be there. -/
def issuerOk : Option String → Option ClaimValue → Bool
  | none, _ => true
  | some issuer, iss => iss ≠ none && (issuer = "" || iss = some (.str issuer))

variable {Key : Type}

/-- The first complaint about the issuer or the dates of a claims set. -/
def validateClaimsSet (now : Int) (issuer : Option String) (clockTolerance : Rat) (payload : JwtPayload) :
    Option JoseError :=
  if !issuerOk issuer payload.iss then some .other
  else if !dateOk payload.iat fun _ => true then some .other
  else if !dateOk payload.nbf fun nbf => nbf ≤ now + clockTolerance then some .other
  else if !dateOk payload.exp fun _ => true then some .other
  else if !dateOk payload.exp fun exp => now - clockTolerance < exp then some .expired
  else none

def jwtVerify (libs : AuthLibraries Key) (now : Int) (key : Key) (issuer : Option String) (clockTolerance : Rat)
    (token : Jwt) : Except JoseError JwtPayload :=
  if !libs.signed key token then .error .signatureVerificationFailed
  else
    match validateClaimsSet now issuer clockTolerance token.payload with
    | some err => .error err
    | none => .ok token.payload

structure JwtKeyRegistry (Key : Type) where
  current : Key
  previous : Option Key

def acceptedKids : List String := ["hs256-v1", "hs256-v0"]

def JwtKeyRegistry.getKey (registry : JwtKeyRegistry Key) (kid : String) : Option Key :=
  if kid = "hs256-v1" then some registry.current else if kid = "hs256-v0" then registry.previous else none

structure Phase2AuthContext (Key : Type) where
  signingKeys : JwtKeyRegistry Key
  publicUrl : String

/-- The state of the module `auth`. -/
structure AuthModule (Key : Type) where
  signingKey : Key
  prevKey : Option Key
  phase2Ctx : Option (Phase2AuthContext Key)

/-- A row of `refresh_tokens`, as service tokens are looked up in it. -/
structure ServiceTokenRow where
  jti : String
  familyId : String
  revokedAt : Option String
  deriving DecidableEq, Repr

/-- What both entrances read, at one instant. -/
structure AccessDb where
  auth : AuthDb
  globalFloor : Int
  revokedAgents : RevokedAgents
  serviceTokens : Table ServiceTokenRow ServiceTokenRow.jti

def verifyServiceTokenJti (db : AccessDb) (jti : String) : Bool :=
  match db.serviceTokens.find jti with
  | none => false
  | some row => startsWith row.familyId.toLower "service:" && row.revokedAt = none

def getEpochFloor (db : AccessDb) : ClaimValue → Int
  | .str userId => max db.globalFloor (db.auth.epochFloor userId)
  | _ => db.globalFloor

/-- The epoch that a session must not be older than. -/
def tokenEpoch (libs : AuthLibraries Key) (db : AccessDb) (sub : ClaimValue) : Option Int :=
  (libs.bindText sub).map fun userId => max (readTokenEpoch db.auth userId) (getEpochFloor db sub)

/-- `payload.role`, with what the verifier falls back on. -/
def strictRole (role : Option ClaimValue) : AuthRole :=
  match ClaimValue.text role with
  | some "agent" => .agent
  | some "admin" => .admin
  | some "internal" => .internal
  | _ => .member

def sessionRole (role : Option ClaimValue) : AuthRole :=
  match ClaimValue.text role with
  | some "agent" => .agent
  | some "admin" => .admin
  | some "service" => .service
  | _ => .member

def strictOrg (payload : JwtPayload) : String := (ClaimValue.text payload.org).getD "default"

def strictClaims (payload : JwtPayload) (sub : ClaimValue) : StrictClaims :=
  ⟨sub, strictRole payload.role, (ClaimValue.text payload.userId).getD "legacy", strictOrg payload,
    ClaimValue.text payload.jti⟩

/-- `user_id` and `org` are not both there as strings. -/
def wasLegacy (payload : JwtPayload) : Bool :=
  !((ClaimValue.text payload.userId).isSome && (ClaimValue.text payload.org).isSome)

/-- A signature that fails under the key is tried under the previous one. -/
def verifyWithPrevKey (libs : AuthLibraries Key) (m : AuthModule Key) (now : Int) (token : Jwt) :
    Except JoseError JwtPayload :=
  match jwtVerify libs now m.signingKey none 0 token, m.prevKey with
  | .error .signatureVerificationFailed, some prevKey => jwtVerify libs now prevKey none 0 token
  | verified, _ => verified

def verifyTokenStrict (libs : AuthLibraries Key) (m : AuthModule Key) (now : Int) (token : Jwt) :
    Except JoseError (StrictClaims × Bool) :=
  match verifyWithPrevKey libs m now token with
  | .error err => .error err
  | .ok payload =>
    match payload.sub.filter ClaimValue.truthy with
    | none => .error .other
    | some sub => .ok (strictClaims payload sub, wasLegacy payload)

/-- The claims of an accepted request. -/
structure AuthClaims where
  sub : ClaimValue
  userId : ClaimValue
  org : ClaimValue
  role : AuthRole
  jti : Option String
  activeOrgId : Option ClaimValue
  familyId : Option ClaimValue
  serviceAccount : Option ClaimValue
  scope : Option String
  deriving DecidableEq, Repr

def StrictClaims.toAuthClaims (claims : StrictClaims) : AuthClaims :=
  ⟨claims.sub, .str claims.userId, .str claims.org, claims.role, claims.jti, none, none, none, none⟩

inductive AuthResult
  | accepted (claims : AuthClaims)
  | refused (status : Nat) (error : String) (wwwAuthenticate : Option String)
  | thrown
  deriving DecidableEq, Repr

/-- None of the descriptions has a character that is escaped. -/
def bearerAuthHeader (err description : String) : String :=
  "Bearer realm=\"coordinator\", error=\"" ++ err ++ "\", error_description=\"" ++ description ++ "\""

def refuseSession (error description : String) : AuthResult :=
  .refused 401 error (some (bearerAuthHeader "invalid_token" description))

def sessionClockTolerance : Rat := 30

/-- `publicUrl.replace(/\/$/, "")`. -/
def Phase2AuthContext.issuer (ctx : Phase2AuthContext Key) : String :=
  if ctx.publicUrl.toList.getLast? = some '/' then String.ofList ctx.publicUrl.toList.dropLast else ctx.publicUrl

/-- The key that the header of a token names. -/
def Phase2AuthContext.kidKey (ctx : Phase2AuthContext Key) (token : Jwt) : Option Key :=
  (ClaimValue.text token.kid).bind fun kid => if acceptedKids.contains kid then ctx.signingKeys.getKey kid else none

/-- `claims.active_org_id ?? "default"`. -/
def sessionOrg (payload : JwtPayload) : ClaimValue :=
  match payload.activeOrgId with
  | none | some .null => .str "default"
  | some org => org

def sessionScope (scope : Option ClaimValue) : Option String :=
  (ClaimValue.text scope).filter fun s => ["read", "write", "admin"].contains s

/-- A service token that its row does not vouch for. -/
def serviceTokenRefusal (db : AccessDb) (payload : JwtPayload) : Option AuthResult :=
  if payload.serviceAccount = some (.bool true) then
    match ClaimValue.text payload.jti with
    | none => some (refuseSession "Invalid service token" "Invalid service token")
    | some jti =>
      if verifyServiceTokenJti db jti then none
      else some (refuseSession "Service token revoked" "Service token revoked")
  else none

def sessionClaims (payload : JwtPayload) (sub : ClaimValue) : AuthClaims :=
  ⟨sub, sub, sessionOrg payload, sessionRole payload.role, ClaimValue.text payload.jti, payload.activeOrgId,
    payload.familyId, payload.serviceAccount, sessionScope payload.scope⟩

/-- What is thrown inside is caught and refused. -/
def verifyPhase2SessionCookie (libs : AuthLibraries Key) (db : AccessDb) (ctx : Phase2AuthContext Key) (token : Jwt) :
    AuthResult :=
  match ctx.kidKey token with
  | none => refuseSession "Invalid session cookie" "Invalid session"
  | some key =>
    match jwtVerify libs db.auth.clock key (some ctx.issuer) sessionClockTolerance token with
    | .error _ => refuseSession "Invalid session cookie" "Invalid session"
    | .ok payload =>
      if payload.typ ≠ some (.str "access") then refuseSession "Invalid session" "Invalid session"
      else
        match payload.sub.filter ClaimValue.truthy, ClaimValue.number payload.iat with
        | some sub, some iat =>
          match tokenEpoch libs db sub with
          | none => refuseSession "Invalid session cookie" "Invalid session"
          | some epoch =>
            if iat < epoch then refuseSession "Session invalidated" "Session invalidated"
            else (serviceTokenRefusal db payload).getD (.accepted (sessionClaims payload sub))
        | _, _ => refuseSession "Invalid session cookie" "Invalid session"

def adminOnlyRoutes : List String := ["/api/auth/revoke", "/api/reset"]

/-- `url.split(/[?#]/)[0]`. -/
def pathOnly (url : String) : String := String.ofList (url.toList.takeWhile fun c => c ≠ '?' && c ≠ '#')

/-- `isRevoked`, as it is called on claims. -/
def revocation (libs : AuthLibraries Key) (db : AccessDb) (org sub : ClaimValue) : Option Bool :=
  match libs.bindText org, libs.bindText sub with
  | some orgId, some agentId => some (db.revokedAgents.isRevoked orgId agentId)
  | _, _ => none

def applyRouteGuards (libs : AuthLibraries Key) (db : AccessDb) (url : String) : AuthResult → AuthResult
  | .accepted claims =>
    match revocation libs db claims.org claims.sub with
    | none => .thrown
    | some true => .refused 403 "Agent has been revoked" none
    | some false =>
      if adminOnlyRoutes.contains (pathOnly url) ∧ claims.role ≠ .admin then .refused 403 "Admin access required" none
      else .accepted claims
  | result => result

inductive Authorization
  | absent
  | bearer (token : Jwt)
  | otherScheme
  deriving DecidableEq, Repr

structure AuthRequest where
  authorization : Authorization
  isGet : Bool
  queryToken : Option Jwt
  sessionCookie : Option Jwt
  url : String
  deriving DecidableEq, Repr

/-- The header wins over `?token=`, which only counts on GET. -/
def AuthRequest.effective (req : AuthRequest) : Authorization :=
  match req.authorization, req.isGet, req.queryToken with
  | .absent, true, some token => .bearer token
  | authorization, _, _ => authorization

def legacyClaims : AuthClaims := ⟨.str "legacy", .str "legacy", .str "default", .admin, none, none, none, none, none⟩

def coordinatorRealm (error : String) : String := "Bearer realm=\"mcp-coordinator\", error=\"" ++ error ++ "\""

/-- The first-phase verifier behind a Bearer token. -/
def authenticateStrict (libs : AuthLibraries Key) (m : AuthModule Key) (db : AccessDb) (authEnabled : Bool)
    (url : String) (token : Jwt) : AuthResult :=
  match verifyTokenStrict libs m db.auth.clock token with
  | .error .expired => .refused 401 "Token expired" (some (coordinatorRealm "expired_token"))
  | .error _ => .refused 401 "Invalid or expired token" (some (coordinatorRealm "invalid_token"))
  | .ok (claims, legacy) =>
    if claims.role = .internal then .refused 401 "Invalid or expired token" (some (coordinatorRealm "invalid_token"))
    else if legacy && authEnabled then
      .refused 401 "v0.6 token rejected: upgrade required (AUTH_ENABLED=true)" (some (coordinatorRealm "invalid_token"))
    else applyRouteGuards libs db url (.accepted claims.toAuthClaims)

def authenticateRequest (libs : AuthLibraries Key) (m : AuthModule Key) (db : AccessDb) (authEnabled : Bool)
    (req : AuthRequest) : AuthResult :=
  match req.effective, m.phase2Ctx, req.sessionCookie with
  | .absent, some ctx, some cookie => applyRouteGuards libs db req.url (verifyPhase2SessionCookie libs db ctx cookie)
  | .bearer token, some ctx, _ =>
    if (ClaimValue.text token.kid).isSome then
      applyRouteGuards libs db req.url (verifyPhase2SessionCookie libs db ctx token)
    else authenticateStrict libs m db authEnabled req.url token
  | .bearer token, none, _ => authenticateStrict libs m db authEnabled req.url token
  | _, _, _ =>
    if authEnabled then
      .refused 401 "Missing or invalid Authorization header" (some (coordinatorRealm "invalid_token"))
    else .accepted legacyClaims

/-- The authenticate hook of the broker: the password is the token. -/
def mqttAuthenticate (libs : AuthLibraries Key) (m : AuthModule Key) (db : AccessDb) (password : Option Jwt) :
    Option MqttClient :=
  match password with
  | none => none
  | some token =>
    match verifyTokenStrict libs m db.auth.clock token with
    | .error _ => none
    | .ok (claims, _) => some (.ofClaims claims)

/-- The dates of a claims set hold, give or take the tolerance. -/
def InTime (now : Int) (clockTolerance : Rat) (payload : JwtPayload) : Prop :=
  dateOk payload.iat (fun _ => true) ∧ dateOk payload.nbf (fun nbf => nbf ≤ now + clockTolerance) ∧
    dateOk payload.exp (fun _ => true) ∧ dateOk payload.exp (fun exp => now - clockTolerance < exp)

/-- The first-phase verifier lets the token pass as that of `sub`. -/
structure StrictlyVerified (libs : AuthLibraries Key) (m : AuthModule Key) (now : Int) (token : Jwt)
    (sub : ClaimValue) : Prop where
  signed : libs.signed m.signingKey token ∨ ∃ prevKey, m.prevKey = some prevKey ∧ libs.signed prevKey token
  inTime : InTime now 0 token.payload
  subject : token.payload.sub = some sub
  truthy : sub.truthy

/-- The second-phase verifier lets the token pass as that of `sub`: it is signed under the
key of its `kid`, from this server, an access token, not older than the epoch, and the row
of a service token vouches for it. -/
structure SessionVerified (libs : AuthLibraries Key) (db : AccessDb) (ctx : Phase2AuthContext Key) (token : Jwt)
    (sub : ClaimValue) : Prop where
  signed : ∃ key, ctx.kidKey token = some key ∧ libs.signed key token
  issued : issuerOk (some ctx.issuer) token.payload.iss
  inTime : InTime db.auth.clock sessionClockTolerance token.payload
  access : token.payload.typ = some (.str "access")
  subject : token.payload.sub = some sub
  truthy : sub.truthy
  fresh : ∃ iat epoch, token.payload.iat = some (.num iat) ∧ tokenEpoch libs db sub = some epoch ∧ (epoch : Rat) ≤ iat
  vouched : token.payload.serviceAccount = some (.bool true) →
    ∃ jti, token.payload.jti = some (.str jti) ∧ verifyServiceTokenJti db jti

/-- What REST asks of a token that the first-phase verifier lets pass: one with a `kid` passes the
second-phase verifier and names the same organisation, one without has `user_id` and `org`,
and in either case the agent is not revoked. -/
def RestAgrees (libs : AuthLibraries Key) (db : AccessDb) (ctx : Phase2AuthContext Key) (token : Jwt)
    (sub : ClaimValue) : Prop :=
  ((ClaimValue.text token.kid).isSome →
    SessionVerified libs db ctx token sub ∧ sessionOrg token.payload = .str (strictOrg token.payload)) ∧
  ((ClaimValue.text token.kid).isNone → wasLegacy token.payload = false) ∧
  revocation libs db (.str (strictOrg token.payload)) sub = some false

/-- Whom the broker takes for a client other than the bridge, REST takes for the same subject in the same organisation. -/
def MqttNoLooser (libs : AuthLibraries Key) (m : AuthModule Key) (db : AccessDb) (token : Jwt) : Prop :=
  ∀ client, mqttAuthenticate libs m db (some token) = some client → client.role ≠ internalBridgeRole →
    ∀ req : AuthRequest, req.authorization = .bearer token → pathOnly req.url ∉ adminOnlyRoutes →
      ∃ claims, authenticateRequest libs m db true req = .accepted claims ∧ claims.org = .str client.org ∧
        token.payload.sub = some claims.sub

section
variable {libs : AuthLibraries Key} {m : AuthModule Key} {db : AccessDb} {ctx : Phase2AuthContext Key} {token : Jwt}

theorem validateClaimsSet_none_iff {now : Int} {issuer : Option String} {clockTolerance : Rat} {payload : JwtPayload} :
    validateClaimsSet now issuer clockTolerance payload = none ↔
      issuerOk issuer payload.iss ∧ InTime now clockTolerance payload := by
  unfold validateClaimsSet InTime
  grind

theorem validateClaimsSet_ne {now : Int} {issuer : Option String} {clockTolerance : Rat} {payload : JwtPayload} :
    validateClaimsSet now issuer clockTolerance payload ≠ some .signatureVerificationFailed := by
  unfold validateClaimsSet
  grind

theorem jwtVerify_ok_iff {now : Int} {key : Key} {issuer : Option String} {clockTolerance : Rat} {payload : JwtPayload} :
    jwtVerify libs now key issuer clockTolerance token = .ok payload ↔
      libs.signed key token ∧ issuerOk issuer token.payload.iss ∧ InTime now clockTolerance token.payload ∧
        payload = token.payload := by
  rw [← and_assoc (a := issuerOk issuer token.payload.iss = true), ← validateClaimsSet_none_iff, jwtVerify]
  split
  · rename_i unsigned
    simp_all
  · rename_i signed
    split
    · rename_i err complaint
      simp [complaint]
    · rename_i fine
      simp only [Bool.not_eq_true', Bool.not_eq_false] at signed
      simp only [signed, fine, true_and, Except.ok.injEq]
      exact eq_comm

theorem jwtVerify_unsigned_iff {now : Int} {key : Key} {issuer : Option String} {clockTolerance : Rat} :
    jwtVerify libs now key issuer clockTolerance token = .error .signatureVerificationFailed ↔
      ¬ libs.signed key token := by
  rw [jwtVerify]
  split
  · rename_i unsigned
    simpa using unsigned
  · rename_i signed
    split
    · rename_i err complaint
      have other : err ≠ .signatureVerificationFailed := fun same => validateClaimsSet_ne (same ▸ complaint)
      simp_all
    · simp_all

theorem verifyWithPrevKey_ok_iff {now : Int} {payload : JwtPayload} :
    verifyWithPrevKey libs m now token = .ok payload ↔
      (libs.signed m.signingKey token ∨ ∃ prevKey, m.prevKey = some prevKey ∧ libs.signed prevKey token) ∧
        InTime now 0 token.payload ∧ payload = token.payload := by
  unfold verifyWithPrevKey
  split
  · rename_i prevKey unsigned atPrev
    rw [jwtVerify_ok_iff]
    simp [jwtVerify_unsigned_iff.mp unsigned, atPrev, issuerOk]
  · rename_i notTried
    rw [jwtVerify_ok_iff]
    constructor
    · intro ⟨signed, _, rest⟩
      exact ⟨.inl signed, rest⟩
    · intro ⟨signed, rest⟩
      refine ⟨?_, rfl, rest⟩
      by_contra unsigned
      obtain ⟨prevKey, atPrev, _⟩ := signed.resolve_left unsigned
      exact notTried prevKey (jwtVerify_unsigned_iff.mpr unsigned) atPrev

theorem filter_truthy_eq_some {claim : Option ClaimValue} {sub : ClaimValue} :
    claim.filter ClaimValue.truthy = some sub ↔ claim = some sub ∧ sub.truthy := by
  rw [Option.filter_eq_some_iff]

theorem verifyTokenStrict_ok_iff {now : Int} {result : StrictClaims × Bool} :
    verifyTokenStrict libs m now token = .ok result ↔
      ∃ sub, StrictlyVerified libs m now token sub ∧
        result = (strictClaims token.payload sub, wasLegacy token.payload) := by
  unfold verifyTokenStrict
  constructor
  · intro passed
    split at passed
    · cases passed
    · rename_i payload verified
      obtain ⟨signed, inTime, rfl⟩ := verifyWithPrevKey_ok_iff.mp verified
      split at passed
      · cases passed
      · rename_i sub named
        obtain ⟨subject, truthy⟩ := filter_truthy_eq_some.mp named
        exact ⟨sub, ⟨signed, inTime, subject, truthy⟩, (Except.ok.inj passed).symm⟩
  · intro ⟨sub, verified, result⟩
    rw [verifyWithPrevKey_ok_iff.mpr ⟨verified.signed, verified.inTime, rfl⟩]
    simp only [filter_truthy_eq_some.mpr ⟨verified.subject, verified.truthy⟩, result]

theorem serviceTokenRefusal_none_iff {payload : JwtPayload} :
    serviceTokenRefusal db payload = none ↔
      (payload.serviceAccount = some (.bool true) →
        ∃ jti, payload.jti = some (.str jti) ∧ verifyServiceTokenJti db jti) := by
  unfold serviceTokenRefusal
  split
  · rename_i service
    split
    · rename_i missing
      simp [service, ← ClaimValue.text_eq_some, missing]
    · rename_i jti named
      simp [service, ← ClaimValue.text_eq_some, named]
  · rename_i person
    simp [person]

theorem serviceTokenRefusal_refuses {payload : JwtPayload} {refusal : AuthResult} {claims : AuthClaims}
    (refused : serviceTokenRefusal db payload = some refusal) : refusal ≠ .accepted claims := by
  unfold serviceTokenRefusal refuseSession at refused
  grind

theorem verifyPhase2_accepted_iff {claims : AuthClaims} :
    verifyPhase2SessionCookie libs db ctx token = .accepted claims ↔
      ∃ sub, SessionVerified libs db ctx token sub ∧ claims = sessionClaims token.payload sub := by
  unfold verifyPhase2SessionCookie
  constructor
  · intro passed
    split at passed
    · cases passed
    · rename_i key named
      split at passed
      · cases passed
      · rename_i payload verified
        obtain ⟨signed, issued, inTime, rfl⟩ := jwtVerify_ok_iff.mp verified
        split at passed
        · cases passed
        · rename_i access
          split at passed
          · rename_i sub iat subject dated
            obtain ⟨subject, truthy⟩ := filter_truthy_eq_some.mp subject
            split at passed
            · cases passed
            · rename_i epoch atEpoch
              split at passed
              · cases passed
              · rename_i fresh
                cases vouched : serviceTokenRefusal db token.payload with
                | some refusal =>
                  rw [vouched] at passed
                  exact absurd passed (serviceTokenRefusal_refuses vouched)
                | none =>
                  rw [vouched] at passed
                  refine ⟨sub, ⟨⟨key, named, signed⟩, issued, inTime, not_not.mp access, subject, truthy, ?_, ?_⟩, ?_⟩
                  · exact ⟨iat, epoch, ClaimValue.number_eq_some.mp dated, atEpoch, not_lt.mp fresh⟩
                  · exact serviceTokenRefusal_none_iff.mp vouched
                  · exact (AuthResult.accepted.inj passed).symm
          · cases passed
  · intro ⟨sub, verified, result⟩
    obtain ⟨key, named, signed⟩ := verified.signed
    obtain ⟨iat, epoch, dated, atEpoch, fresh⟩ := verified.fresh
    rw [named]
    simp only [jwtVerify_ok_iff.mpr ⟨signed, verified.issued, verified.inTime, rfl⟩, verified.access, ne_eq, not_true,
      if_false, filter_truthy_eq_some.mpr ⟨verified.subject, verified.truthy⟩, ClaimValue.number_eq_some.mpr dated,
      atEpoch, if_neg (not_lt.mpr fresh), serviceTokenRefusal_none_iff.mpr verified.vouched, Option.getD_none, result]

theorem applyRouteGuards_accepted_iff {url : String} (open' : pathOnly url ∉ adminOnlyRoutes) {result : AuthResult}
    {claims : AuthClaims} :
    applyRouteGuards libs db url result = .accepted claims ↔
      result = .accepted claims ∧ revocation libs db claims.org claims.sub = some false := by
  cases result with
  | refused status error header => simp [applyRouteGuards]
  | thrown => simp [applyRouteGuards]
  | accepted given =>
    simp only [applyRouteGuards]
    split
    · rename_i thrown
      simp only [AuthResult.accepted.injEq, reduceCtorEq, false_iff, not_and]
      rintro rfl
      simp [thrown]
    · rename_i revoked
      simp only [AuthResult.accepted.injEq, reduceCtorEq, false_iff, not_and]
      rintro rfl
      simp [revoked]
    · rename_i current
      rw [if_neg (by simp [open'])]
      constructor
      · intro same
        obtain rfl := AuthResult.accepted.inj same
        exact ⟨rfl, current⟩
      · exact And.left

theorem authenticateStrict_accepted_iff {url : String} (open' : pathOnly url ∉ adminOnlyRoutes) {claims : AuthClaims} :
    authenticateStrict libs m db true url token = .accepted claims ↔
      ∃ sub, StrictlyVerified libs m db.auth.clock token sub ∧ strictRole token.payload.role ≠ .internal ∧
        wasLegacy token.payload = false ∧ claims = (strictClaims token.payload sub).toAuthClaims ∧
        revocation libs db (.str (strictOrg token.payload)) sub = some false := by
  unfold authenticateStrict
  constructor
  · intro passed
    split at passed
    · cases passed
    · cases passed
    · rename_i given legacy passing
      obtain ⟨sub, verified, result⟩ := verifyTokenStrict_ok_iff.mp passing
      obtain ⟨rfl, rfl⟩ := Prod.mk.inj result
      split at passed
      · cases passed
      · rename_i outsider
        split at passed
        · cases passed
        · rename_i current
          obtain ⟨same, revoked⟩ := (applyRouteGuards_accepted_iff open').mp passed
          obtain rfl := AuthResult.accepted.inj same
          exact ⟨sub, verified, outsider, by simpa using current, rfl, revoked⟩
  · intro ⟨sub, verified, outsider, current, result, revoked⟩
    rw [verifyTokenStrict_ok_iff.mpr ⟨sub, verified, rfl⟩]
    subst result
    simp only [show (strictClaims token.payload sub).role = strictRole token.payload.role from rfl, if_neg outsider,
      current, Bool.false_and, Bool.false_eq_true, if_false]
    exact (applyRouteGuards_accepted_iff open').mpr ⟨rfl, revoked⟩

theorem mqttAuthenticate_eq_some {client : MqttClient} :
    mqttAuthenticate libs m db (some token) = some client ↔
      ∃ sub, StrictlyVerified libs m db.auth.clock token sub ∧ client = .ofClaims (strictClaims token.payload sub) := by
  simp only [mqttAuthenticate]
  split
  · rename_i err failed
    simp only [reduceCtorEq, false_iff, not_exists, not_and]
    intro sub verified
    rw [verifyTokenStrict_ok_iff.mpr ⟨sub, verified, rfl⟩] at failed
    cases failed
  · rename_i claims legacy passed
    obtain ⟨sub, verified, result⟩ := verifyTokenStrict_ok_iff.mp passed
    obtain ⟨rfl, -⟩ := Prod.mk.inj result
    constructor
    · intro same
      exact ⟨sub, verified, (Option.some.inj same).symm⟩
    · intro ⟨sub', verified', same⟩
      obtain rfl := Option.some.inj (verified.subject.symm.trans verified'.subject)
      rw [same]

/-- Which verifier a Bearer token meets. -/
theorem authenticateRequest_bearer {req : AuthRequest} (bearer : req.authorization = .bearer token)
    (wired : m.phase2Ctx = some ctx) :
    authenticateRequest libs m db true req =
      if (ClaimValue.text token.kid).isSome then
        applyRouteGuards libs db req.url (verifyPhase2SessionCookie libs db ctx token)
      else authenticateStrict libs m db true req.url token := by
  have effective : req.effective = .bearer token := by
    unfold AuthRequest.effective
    rw [bearer]
  unfold authenticateRequest
  rw [effective, wired]

theorem restAgrees_of_accepted {req : AuthRequest} (bearer : req.authorization = .bearer token)
    (open' : pathOnly req.url ∉ adminOnlyRoutes) (wired : m.phase2Ctx = some ctx) {sub : ClaimValue}
    {claims : AuthClaims} (accepted : authenticateRequest libs m db true req = .accepted claims)
    (org : claims.org = .str (strictOrg token.payload)) (subject : token.payload.sub = some sub) :
    RestAgrees libs db ctx token sub := by
  rw [authenticateRequest_bearer bearer wired] at accepted
  split at accepted
  · rename_i second
    obtain ⟨passed, revoked⟩ := (applyRouteGuards_accepted_iff open').mp accepted
    obtain ⟨sub', verified, rfl⟩ := verifyPhase2_accepted_iff.mp passed
    obtain rfl := Option.some.inj (subject.symm.trans verified.subject)
    rw [org] at revoked
    refine ⟨fun _ => ⟨verified, org⟩, ?_, revoked⟩
    intro none
    simp_all
  · rename_i first
    obtain ⟨sub', verified, outsider, current, rfl, revoked⟩ := (authenticateStrict_accepted_iff open').mp accepted
    obtain rfl := Option.some.inj (subject.symm.trans verified.subject)
    exact ⟨fun second => absurd second first, fun _ => current, revoked⟩

theorem accepted_of_restAgrees {req : AuthRequest} (bearer : req.authorization = .bearer token)
    (open' : pathOnly req.url ∉ adminOnlyRoutes) (wired : m.phase2Ctx = some ctx) {sub : ClaimValue}
    (verified : StrictlyVerified libs m db.auth.clock token sub) (outsider : strictRole token.payload.role ≠ .internal)
    (agrees : RestAgrees libs db ctx token sub) :
    ∃ claims, authenticateRequest libs m db true req = .accepted claims ∧
      claims.org = .str (strictOrg token.payload) ∧ claims.sub = sub := by
  obtain ⟨second, first, revoked⟩ := agrees
  rw [authenticateRequest_bearer bearer wired]
  split
  · rename_i kid
    obtain ⟨session, org⟩ := second kid
    refine ⟨sessionClaims token.payload sub, ?_, org, rfl⟩
    refine (applyRouteGuards_accepted_iff open').mpr ⟨verifyPhase2_accepted_iff.mpr ⟨sub, session, rfl⟩, ?_⟩
    rw [← org] at revoked
    exact revoked
  · rename_i noKid
    refine ⟨(strictClaims token.payload sub).toAuthClaims, ?_, rfl, rfl⟩
    exact (authenticateStrict_accepted_iff open').mpr
      ⟨sub, verified, outsider, first (Option.not_isSome_iff_eq_none.mp noKid ▸ rfl), rfl, revoked⟩

/-- The broker lets in nobody whom REST would refuse: exactly when the token, if the first-phase
verifier lets it pass for anybody but the bridge, is one that REST agrees about. -/
theorem mqtt_no_looser_iff (libs : AuthLibraries Key) (signingKey : Key) (prevKey : Option Key)
    (ctx : Phase2AuthContext Key) (db : AccessDb) (token : Jwt) :
    MqttNoLooser libs ⟨signingKey, prevKey, some ctx⟩ db token ↔
      ∀ sub, StrictlyVerified libs ⟨signingKey, prevKey, some ctx⟩ db.auth.clock token sub →
        strictRole token.payload.role ≠ .internal → RestAgrees libs db ctx token sub := by
  constructor
  · intro noLooser sub verified outsider
    have admitted := mqttAuthenticate_eq_some.mpr ⟨sub, verified, rfl⟩
    have served : pathOnly "/" ∉ adminOnlyRoutes := by decide
    obtain ⟨req, bearer, open'⟩ : ∃ req : AuthRequest, req.authorization = .bearer token ∧
        pathOnly req.url ∉ adminOnlyRoutes := ⟨⟨.bearer token, true, none, none, "/"⟩, rfl, served⟩
    obtain ⟨claims, accepted, org, subject⟩ := noLooser _ admitted outsider req bearer open'
    exact restAgrees_of_accepted bearer open' rfl accepted org verified.subject
  · intro agree client admitted outsider req bearer open'
    obtain ⟨sub, verified, rfl⟩ := mqttAuthenticate_eq_some.mp admitted
    obtain ⟨claims, accepted, org, subject⟩ :=
      accepted_of_restAgrees bearer open' rfl verified outsider (agree sub verified outsider)
    exact ⟨claims, accepted, org, subject ▸ verified.subject⟩

/-- Keys that sign what bears their name. -/
def namedLibraries : AuthLibraries String where
  signed key token := token.signature = key
  bindText claim := ClaimValue.text (some claim)

/-- Both verifiers under one secret. -/
def oneSecret : AuthModule String := ⟨"secret", none, some ⟨⟨"secret", none⟩, "https://coordinator"⟩⟩

/-- Nobody has logged in yet, and one agent of acme is revoked. -/
def revokedDb : AccessDb where
  auth :=
    { clock := 1000, draws := 0, users := .empty, orgs := .empty, refreshTokens := .empty, epochFloor := fun _ => 0 }
  globalFloor := 0
  revokedAgents := RevokedAgents.revokeAgent .empty ⟨0, toString, none⟩ "acme" "ada" "root"
  serviceTokens := .empty

/-- What `createToken` mints for the agent. -/
def agentToken : Jwt where
  kid := none
  payload :=
    { sub := some (.str "ada"), iss := none, iat := some (.num 900), nbf := none, exp := some (.num 90000)
      jti := some (.str "j1"), typ := none, role := some (.str "agent"), userId := some (.str "ada")
      org := some (.str "acme"), activeOrgId := none, familyId := none, serviceAccount := none, scope := none }
  signature := "secret"

/-- A revoked agent is turned away by REST and goes on publishing over MQTT. -/
theorem not_mqtt_no_looser :
    ¬ ∀ (db : AccessDb) (token : Jwt), MqttNoLooser namedLibraries oneSecret db token := by
  intro noLooser
  have admitted : mqttAuthenticate namedLibraries oneSecret revokedDb (some agentToken) =
      some ⟨"acme", .agent, some (.str "ada")⟩ := by decide +kernel
  have refused : authenticateRequest namedLibraries oneSecret revokedDb true
      ⟨.bearer agentToken, true, none, none, "/api/threads"⟩ = .refused 403 "Agent has been revoked" none := by
    decide +kernel
  obtain ⟨claims, accepted, -⟩ := noLooser revokedDb agentToken _ admitted (by decide)
    ⟨.bearer agentToken, true, none, none, "/api/threads"⟩ rfl (by decide)
  rw [refused] at accepted
  cases accepted

end

end Coordinator
