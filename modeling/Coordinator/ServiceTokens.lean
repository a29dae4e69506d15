import Coordinator.Library.GuardedRun
import Coordinator.MqttAdmission
import Coordinator.Sweeper

namespace Coordinator

def serviceTokenMaxTtlS : Nat := 90 * 86400

def serviceTokenMinReasonLen : Nat := 10

/-- A row of `refresh_tokens`, with the columns that service tokens use. -/
structure IssuedRow where
  jti : String
  familyId : String
  userId : String
  orgId : String
  expiresAt : Int
  lastUsedAt : Int
  revokedAt : Option Int
  revokedReason : Option String
  deriving DecidableEq

abbrev IssuedRows := Table IssuedRow IssuedRow.jti

/-- `family_id LIKE 'service:%'`. -/
def IssuedRow.isService (r : IssuedRow) : Bool := startsWith r.familyId.toLower "service:"

def IssuedRow.toServiceTokenRow (r : IssuedRow) : ServiceTokenRow := ⟨r.jti, r.familyId, r.revokedAt.map toString⟩

def IssuedRow.revoke (now : Int) (reason : String) (r : IssuedRow) : IssuedRow :=
  { r with revokedAt := some now, revokedReason := some reason }

@[simp] theorem IssuedRow.revoke_jti (now : Int) (reason : String) (r : IssuedRow) : (r.revoke now reason).jti = r.jti := rfl

/-- The rows as `verifyServiceTokenJti` reads them. -/
def serviceTokenRows (rows : IssuedRows) : Table ServiceTokenRow ServiceTokenRow.jti where
  rows := rows.rows.map IssuedRow.toServiceTokenRow
  keyed := by
    rw [List.map_map]
    exact rows.keyed

/-- A service token as it is handed out, with who asked for it and why. -/
structure IssuedToken where
  jti : String
  familyId : String
  userId : String
  orgId : String
  scope : String
  reason : String
  iat : Int
  exp : Int
  issuedBy : AuthClaims
  deriving DecidableEq

/-- What `mintAccessJWT` signs. -/
def IssuedToken.payload (issuer : String) (t : IssuedToken) : JwtPayload where
  sub := some (.str t.userId)
  iss := some (.str issuer)
  iat := some (.num t.iat)
  nbf := none
  exp := some (.num t.exp)
  jti := some (.str t.jti)
  typ := some (.str "access")
  role := some (.str "service")
  userId := none
  org := none
  activeOrgId := some (.str t.orgId)
  familyId := some (.str t.familyId)
  serviceAccount := some (.bool true)
  scope := some (.str t.scope)

/-- The claims that the token stands for when it is accepted. -/
def IssuedToken.claims (t : IssuedToken) : AuthClaims :=
  ⟨.str t.userId, .str t.userId, .str t.orgId, .service, some t.jti, some (.str t.orgId), some (.str t.familyId),
    some (.bool true), some t.scope⟩

/-- The verifiers, and the library that signs for them. -/
structure ServiceEnv (Key : Type) where
  libs : AuthLibraries Key
  auth : AuthModule Key
  ctx : Phase2AuthContext Key
  wired : auth.phase2Ctx = some ctx
  sign : Key → String → JwtPayload → Jwt
  sign_kid : ∀ key kid payload, (sign key kid payload).kid = some (.str kid)
  sign_payload : ∀ key kid payload, (sign key kid payload).payload = payload
  signed : ∀ key kid payload, libs.signed key (sign key kid payload) = true
  bindText : ∀ text, libs.bindText (.str text) = some text

variable {Key : Type}

def ServiceEnv.jwt (env : ServiceEnv Key) (t : IssuedToken) : Jwt :=
  env.sign env.ctx.signingKeys.current "hs256-v1" (t.payload env.ctx.issuer)

/-- A request that carries the token. -/
def ServiceEnv.bearing (env : ServiceEnv Key) (t : IssuedToken) (url : String) : AuthRequest :=
  ⟨.bearer (env.jwt t), true, none, none, url⟩

/-- The body of an issue request; a field that is not a string is `none`. -/
inductive IssueBody
  | tooLarge
  | malformed
  | null
  | object (userId orgId scope ttl reason : Option String)
  deriving DecidableEq

inductive ServiceReply
  | refused (status : Nat) (code message : String)
  | issued (jti : String) (expiresAt : Int)
  | revoked (jti : String)
  | done
  | thrown
  deriving DecidableEq

/-- `revoked` has every `jti` whose row was marked as revoked. -/
structure ServiceWorld where
  access : AccessDb
  userOrgs : List (String × String)
  rows : IssuedRows
  issued : List IssuedToken
  revoked : List String

/-- What is drawn for a new token. -/
structure TokenDraws where
  family : String
  jti : String
  deriving DecidableEq

/-- `authResult` is what `authenticateRequest` said when the request came in. -/
inductive ServiceEvent
  | tick (seconds : Nat)
  | issue (authResult : AuthResult) (body : IssueBody) (draws : TokenDraws)
  | revoke (authResult : AuthResult) (jti : String)
  | logout (authResult : AuthResult)
  | logoutAll (authResult : AuthResult) (allowed : Bool)
  | revokeToken (authResult : AuthResult) (jti : Option String)
  | sweep (env : SweepEnv) (victims : List String)
  /-- Any other write to the users, the epochs, the agents or the memberships. -/
  | write (users : Table User User.id) (globalFloor : Int) (epochFloor : String → Int) (revokedAgents : RevokedAgents)
    (userOrgs : List (String × String))

namespace ServiceWorld

def boot (access : AccessDb) (userOrgs : List (String × String)) : ServiceWorld := ⟨access, userOrgs, .empty, [], []⟩

def now (w : ServiceWorld) : Int := w.access.auth.clock

/-- The database as the verifiers read it. -/
def db (w : ServiceWorld) : AccessDb := { w.access with serviceTokens := serviceTokenRows w.rows }

/-- `UPDATE refresh_tokens SET revoked_at, revoked_reason … WHERE … AND revoked_at IS NULL`. -/
def revokeWhere (w : ServiceWorld) (p : IssuedRow → Bool) (reason : String) : ServiceWorld :=
  { w with
    rows := w.rows.update (fun r => p r && r.revokedAt.isNone) (IssuedRow.revoke w.now reason)
      (IssuedRow.revoke_jti w.now reason)
    revoked := w.revoked ++ (w.rows.rows.filter fun r => p r && r.revokedAt.isNone).map IssuedRow.jti }

/-- The checks of `issueServiceToken`, in their order. -/
def validateIssue (w : ServiceWorld) (userId orgId scope reason : String) (ttlSeconds : Nat) :
    Except (String × String) Unit :=
  if ttlSeconds = 0 then .error ("INVALID_TTL", "TTL must be positive")
  else if serviceTokenMaxTtlS < ttlSeconds then
    .error ("TTL_EXCEEDS_MAX", "TTL " ++ toString ttlSeconds ++ "s exceeds hardcoded 90d ceiling")
  else if utf16Length reason < serviceTokenMinReasonLen then
    .error ("REASON_TOO_SHORT", "Reason must be at least " ++ toString serviceTokenMinReasonLen ++ " chars")
  else if scope ≠ "read" ∧ scope ≠ "write" ∧ scope ≠ "admin" then
    .error ("INVALID_SCOPE", "Scope must be read|write|admin")
  else
    match w.access.auth.users.find userId with
    | none => .error ("USER_NOT_FOUND", "Target user does not exist")
    | some user =>
      if user.primaryOrgId ≠ orgId ∧ (userId, orgId) ∉ w.userOrgs then
        .error ("USER_NOT_IN_ORG", "Target user is not a member of the target org")
      else .ok ()

def issueServiceToken (w : ServiceWorld) (claims : AuthClaims) (userId orgId scope reason : String) (ttlSeconds : Nat)
    (draws : TokenDraws) : ServiceWorld × ServiceReply :=
  match w.validateIssue userId orgId scope reason ttlSeconds with
  | .error (code, message) => (w, .refused 400 code message)
  | .ok () =>
    let t : IssuedToken :=
      { jti := draws.jti, familyId := "service:" ++ draws.family, userId, orgId, scope, reason, iat := w.now,
        exp := w.now + ttlSeconds, issuedBy := claims }
    match w.rows.insert ⟨t.jti, t.familyId, userId, orgId, t.exp, w.now, none, none⟩ with
    | none => (w, .thrown)
    | some rows => ({ w with rows, issued := w.issued ++ [t] }, .issued t.jti t.exp)

/-- The gate in front of the admin routes. -/
def asAdmin (w : ServiceWorld) (authResult : AuthResult) (forbidden : String)
    (go : AuthClaims → ServiceWorld × ServiceReply) : ServiceWorld × ServiceReply :=
  match authResult with
  | .refused status error _ => (w, .refused status "UNAUTHORIZED" error)
  | .thrown => (w, .thrown)
  | .accepted claims => if claims.role = .admin then go claims else (w, .refused 403 "FORBIDDEN" forbidden)

def handleIssueServiceToken (w : ServiceWorld) (authResult : AuthResult) (body : IssueBody) (draws : TokenDraws) :
    ServiceWorld × ServiceReply :=
  w.asAdmin authResult "Only admins can issue service tokens" fun claims =>
    match body with
    | .tooLarge => (w, .refused 400 "INVALID_REQUEST" "Request body too large")
    | .malformed => (w, .refused 400 "INVALID_REQUEST" "Could not parse JSON body")
    | .null => (w, .thrown)
    | .object (some userId) (some orgId) (some scope) (some ttl) (some reason) =>
      match parseDuration ttl with
      | none => (w, .refused 400 "INVALID_TTL" "Invalid TTL format; use Ns/Nm/Nh/Nd")
      | some ttlSeconds => w.issueServiceToken claims userId orgId scope reason ttlSeconds draws
    | .object _ _ _ _ _ => (w, .refused 400 "INVALID_REQUEST" "Missing required fields")

def handleRevokeServiceToken (w : ServiceWorld) (authResult : AuthResult) (jti : String) : ServiceWorld × ServiceReply :=
  w.asAdmin authResult "Only admins can revoke service tokens" fun _ =>
    if w.rows.changes (fun r => r.jti = jti && r.isService && r.revokedAt.isNone) = 0 then
      (w, .refused 404 "NOT_FOUND" "Service token not found or already revoked")
    else (w.revokeWhere (fun r => r.jti = jti && r.isService) "admin", .revoked jti)

/-- The gate in front of the logout routes. -/
def asCaller (w : ServiceWorld) (authResult : AuthResult) (go : AuthClaims → ServiceWorld × ServiceReply) :
    ServiceWorld × ServiceReply :=
  match authResult with
  | .refused status error _ => (w, .refused status "UNAUTHORIZED" error)
  | .thrown => (w, .thrown)
  | .accepted claims => go claims

def handleLogout (env : ServiceEnv Key) (w : ServiceWorld) (authResult : AuthResult) : ServiceWorld × ServiceReply :=
  w.asCaller authResult fun claims =>
    match claims.familyId.filter ClaimValue.truthy with
    | none => (w, .done)
    | some family =>
      match env.libs.bindText family with
      | none => (w, .thrown)
      | some familyId => (w.revokeWhere (fun r => r.familyId = familyId) "logout", .done)

def handleLogoutAll (env : ServiceEnv Key) (w : ServiceWorld) (authResult : AuthResult) (allowed : Bool) :
    ServiceWorld × ServiceReply :=
  w.asCaller authResult fun claims =>
    if allowed then
      match env.libs.bindText claims.userId with
      | none => (w, .thrown)
      | some userId =>
        ({ w with access := { w.access with auth := bumpTokenEpoch w.access.auth userId } }.revokeWhere
          (fun r => r.userId = userId) "logout_all", .done)
    else (w, .refused 429 "RATE_LIMITED" "Too many logout-all requests")

/-- `jti` is that of the token in the body, if it has one. -/
def handleRevoke (w : ServiceWorld) (authResult : AuthResult) (jti : Option String) : ServiceWorld × ServiceReply :=
  w.asCaller authResult fun claims =>
    match jti.bind w.rows.find with
    | none => (w, .done)
    | some row =>
      if row.revokedAt ≠ none ∨ (claims.userId ≠ .str row.userId ∧ claims.role ≠ .admin) then (w, .done)
      else (w.revokeWhere (fun r => r.jti = row.jti) "admin", .done)

/-- A batch of the sweeper: rows that were revoked, or that expired, long enough ago. -/
def swept (env : SweepEnv) (now : Int) (r : IssuedRow) : Bool :=
  match r.revokedAt with
  | some t => (t : ℚ) < cutoff now (getOrgSetting env .refreshRetentionDays)
  | none => (r.expiresAt : ℚ) < cutoff now (.ofDays refreshExpiredRetentionDays)

def step (env : ServiceEnv Key) (w : ServiceWorld) : ServiceEvent → ServiceWorld
  | .tick seconds => { w with access := { w.access with auth := w.access.auth.wait seconds } }
  | .issue authResult body draws => (w.handleIssueServiceToken authResult body draws).1
  | .revoke authResult jti => (w.handleRevokeServiceToken authResult jti).1
  | .logout authResult => (w.handleLogout env authResult).1
  | .logoutAll authResult allowed => (w.handleLogoutAll env authResult allowed).1
  | .revokeToken authResult jti => (w.handleRevoke authResult jti).1
  | .sweep settings victims =>
    { w with rows := w.rows.delete fun r => victims.contains r.jti && swept settings w.now r }
  | .write users globalFloor epochFloor revokedAgents userOrgs =>
    { w with
      access := { w.access with auth := { w.access.auth with users, epochFloor }, globalFloor, revokedAgents }, userOrgs }

/-- The new UUID is that of no token before. -/
def Fresh (w : ServiceWorld) : ServiceEvent → Prop
  | .issue _ _ draws => ∀ t ∈ w.issued, t.jti ≠ draws.jti
  | _ => True

instance (w : ServiceWorld) : (e : ServiceEvent) → Decidable (w.Fresh e)
  | .issue _ _ draws => inferInstanceAs (Decidable (∀ t ∈ w.issued, t.jti ≠ draws.jti))
  | .tick _ | .revoke _ _ | .logout _ | .logoutAll _ _ | .revokeToken _ _ | .sweep _ _ | .write _ _ _ _ _ =>
    .isTrue trivial

/-- The epoch that the tokens of a user must not be older than. -/
def epoch (w : ServiceWorld) (userId : String) : Int :=
  max (readTokenEpoch w.access.auth userId) (max w.access.globalFloor (w.access.auth.epochFloor userId))

/-- The token is in force: not expired beyond the tolerance, not from before the
epoch of its user, not revoked, and its user not barred from the org. -/
structure Standing (w : ServiceWorld) (t : IssuedToken) : Prop where
  named : t.userId ≠ ""
  inTime : (w.now : ℚ) - sessionClockTolerance < t.exp
  current : w.epoch t.userId ≤ t.iat
  unrevoked : t.jti ∉ w.revoked
  allowed : w.access.revokedAgents.isRevoked t.orgId t.userId = false

/-- What holds of the service tokens of a server, `before` being the revocations at an earlier point. -/
structure TokenLaws (env : ServiceEnv Key) (before : List String) (w : ServiceWorld) : Prop where
  /-- A token is accepted for as long as it stands, and not any longer. -/
  accepted : ∀ t ∈ w.issued, ∀ url, pathOnly url ∉ adminOnlyRoutes → ∀ claims,
    authenticateRequest env.libs env.auth w.db true (env.bearing t url) = .accepted claims ↔
      claims = t.claims ∧ w.Standing t
  /-- What was revoked stays so. -/
  final : ∀ jti ∈ before, jti ∈ w.revoked
  /-- What takes a token out of force: an admin who revokes it, a logout with it, a
  logout of its user everywhere. -/
  revocable : ∀ t ∈ w.issued, ∀ claims : AuthClaims, claims.role = .admin →
    ¬ (w.handleRevokeServiceToken (.accepted claims) t.jti).1.Standing t
  logoutEnds : ∀ t ∈ w.issued, ∀ claims : AuthClaims, claims.familyId = some (.str t.familyId) →
    ¬ (w.handleLogout env (.accepted claims)).1.Standing t
  logoutAllEnds : ∀ t ∈ w.issued, ∀ claims : AuthClaims, claims.userId = .str t.userId →
    ¬ (w.handleLogoutAll env (.accepted claims) true).1.Standing t
  /-- No token lives longer than the ceiling, and only an admin has tokens made. -/
  capped : ∀ t ∈ w.issued, t.iat < t.exp ∧ t.exp ≤ t.iat + serviceTokenMaxTtlS
  issuers : ∀ t ∈ w.issued, t.issuedBy.role = .admin
  /-- No token makes or revokes tokens by the admin routes, whatever it says of its scope. -/
  barren : ∀ t ∈ w.issued, ∀ (db : AccessDb) (url : String) (w' : ServiceWorld) (body : IssueBody) (draws : TokenDraws)
    (jti : String), let answer := authenticateRequest env.libs env.auth db true (env.bearing t url)
    (w'.handleIssueServiceToken answer body draws).1 = w' ∧ (w'.handleRevokeServiceToken answer jti).1 = w'

section
variable {env : ServiceEnv Key} {w : ServiceWorld}

/-- What every event keeps. A token has its row, or the row was swept after a revocation
or long after the expiry. -/
structure Kept (w : ServiceWorld) : Prop where
  scopes : ∀ t ∈ w.issued, t.scope = "read" ∨ t.scope = "write" ∨ t.scope = "admin"
  capped : ∀ t ∈ w.issued, t.iat < t.exp ∧ t.exp ≤ t.iat + serviceTokenMaxTtlS
  issuers : ∀ t ∈ w.issued, t.issuedBy.role = .admin
  marked : ∀ t ∈ w.issued, startsWith t.familyId.toLower "service:" = true
  origin : ∀ r ∈ w.rows.rows, ∃ t ∈ w.issued, t.jti = r.jti
  known : ∀ jti ∈ w.revoked, ∃ t ∈ w.issued, t.jti = jti
  rows : ∀ t ∈ w.issued, ∀ r, w.rows.find t.jti = some r →
    r.familyId = t.familyId ∧ r.userId = t.userId ∧ r.expiresAt = t.exp ∧ (r.revokedAt ≠ none ↔ t.jti ∈ w.revoked)
  gone : ∀ t ∈ w.issued, w.rows.find t.jti = none → t.jti ∈ w.revoked ∨ (t.exp : ℚ) < w.now - sessionClockTolerance

theorem Kept.boot (access : AccessDb) (userOrgs : List (String × String)) : Kept (boot access userOrgs) := by
  constructor <;> simp [ServiceWorld.boot, Table.empty]

theorem find_revokeWhere (w : ServiceWorld) (p : IssuedRow → Bool) (reason jti : String) :
    (w.revokeWhere p reason).rows.find jti =
      (w.rows.find jti).map fun r => if p r && r.revokedAt.isNone then r.revoke w.now reason else r :=
  Table.find_update _ _ _ (IssuedRow.revoke_jti w.now reason) _

theorem mem_revokeWhere {p : IssuedRow → Bool} {reason : String} {r : IssuedRow} :
    r ∈ (w.revokeWhere p reason).rows.rows ↔
      ∃ old ∈ w.rows.rows, (if p old && old.revokedAt.isNone then old.revoke w.now reason else old) = r := by
  simp only [revokeWhere, Table.mem_update]

/-- Time passes, and what is not about the tokens changes. -/
theorem Kept.frame (kept : Kept w) (access : AccessDb) (userOrgs : List (String × String))
    (later : w.now ≤ access.auth.clock) : Kept { w with access, userOrgs } where
  scopes := kept.scopes
  capped := kept.capped
  issuers := kept.issuers
  marked := kept.marked
  origin := kept.origin
  known := kept.known
  rows := kept.rows
  gone t inIssued missing := by
    refine (kept.gone t inIssued missing).imp_right fun expired => lt_of_lt_of_le expired ?_
    exact sub_le_sub_right (by exact_mod_cast later) _

theorem Kept.revokeWhere (kept : Kept w) (p : IssuedRow → Bool) (reason : String) : Kept (w.revokeWhere p reason) where
  scopes := kept.scopes
  capped := kept.capped
  issuers := kept.issuers
  marked := kept.marked
  origin r inRows := by
    obtain ⟨old, before, rfl⟩ := mem_revokeWhere.mp inRows
    obtain ⟨t, inIssued, same⟩ := kept.origin old before
    refine ⟨t, inIssued, ?_⟩
    split
    · exact same
    · exact same
  known jti inRevoked := by
    rcases List.mem_append.mp inRevoked with before | now
    · exact kept.known jti before
    · obtain ⟨r, chosen, rfl⟩ := List.mem_map.mp now
      exact kept.origin r (List.mem_filter.mp chosen).1
  rows t inIssued r found := by
    rw [find_revokeWhere, Option.map_eq_some_iff] at found
    obtain ⟨old, before, rfl⟩ := found
    obtain ⟨family, user, expires, marks⟩ := kept.rows t inIssued old before
    obtain ⟨inRows, named⟩ := Table.find_eq_some.mp before
    have chosen : t.jti ∈ (w.rows.rows.filter fun r => p r && r.revokedAt.isNone).map IssuedRow.jti ↔
        (p old && old.revokedAt.isNone) = true := by
      constructor
      · intro listed
        obtain ⟨other, inFilter, same⟩ := List.mem_map.mp listed
        obtain ⟨inRows', holds⟩ := List.mem_filter.mp inFilter
        rwa [List.inj_on_of_nodup_map w.rows.keyed inRows' inRows (same.trans named.symm)] at holds
      · intro holds
        exact List.mem_map.mpr ⟨old, List.mem_filter.mpr ⟨inRows, holds⟩, named⟩
    change _ ∧ _ ∧ _ ∧ (_ ↔ t.jti ∈ w.revoked ++ _)
    rw [List.mem_append, chosen]
    split
    · rename_i holds
      exact ⟨family, user, expires, iff_of_true nofun (.inr holds)⟩
    · rename_i fails
      refine ⟨family, user, expires, ?_⟩
      rw [marks]
      exact ⟨.inl, fun either => either.resolve_right fails⟩
  gone t inIssued missing := by
    rw [find_revokeWhere, Option.map_eq_none_iff] at missing
    exact (kept.gone t inIssued missing).imp_left fun before => List.mem_append_left _ before

theorem Kept.swept (kept : Kept w) (settings : SweepEnv) (victims : List String) :
    Kept { w with rows := w.rows.delete fun r => victims.contains r.jti && ServiceWorld.swept settings w.now r } where
  scopes := kept.scopes
  capped := kept.capped
  issuers := kept.issuers
  marked := kept.marked
  origin r inRows := kept.origin r (Table.mem_delete.mp inRows).1
  known := kept.known
  rows t inIssued r found := by
    change (w.rows.delete _).find t.jti = some r at found
    rw [Table.find_delete, Option.filter_eq_some_iff] at found
    exact kept.rows t inIssued r found.1
  gone t inIssued missing := by
    change (w.rows.delete _).find t.jti = none at missing
    rw [Table.find_delete] at missing
    cases found : w.rows.find t.jti with
    | none => exact kept.gone t inIssued found
    | some r =>
      obtain ⟨-, -, expires, marks⟩ := kept.rows t inIssued r found
      rw [found] at missing
      have old : ServiceWorld.swept settings w.now r = true := by
        have dropped := Option.filter_eq_none_iff.mp missing r rfl
        simp only [Bool.not_eq_true', Bool.not_eq_false, Bool.and_eq_true] at dropped
        exact dropped.2
      unfold ServiceWorld.swept at old
      split at old
      · rename_i time revoked
        exact .inl (marks.mp (by rw [revoked]; nofun))
      · refine .inr ?_
        have early : cutoff w.now (.ofDays refreshExpiredRetentionDays) < w.now - sessionClockTolerance := by
          norm_num [cutoff, RetentionDays.ofDays, refreshExpiredRetentionDays, secondsPerDay, sessionClockTolerance]
        rw [← expires]
        exact (of_decide_eq_true old).trans early

theorem validateIssue_ok {userId orgId scope reason : String} {ttlSeconds : Nat}
    (valid : w.validateIssue userId orgId scope reason ttlSeconds = .ok ()) :
    0 < ttlSeconds ∧ ttlSeconds ≤ serviceTokenMaxTtlS ∧ (scope = "read" ∨ scope = "write" ∨ scope = "admin") := by
  unfold validateIssue at valid
  split at valid
  · cases valid
  · split at valid
    · cases valid
    · split at valid
      · cases valid
      · split at valid
        · cases valid
        · refine ⟨by omega, by omega, ?_⟩
          tauto

theorem startsWith_service (family : String) : startsWith ("service:" ++ family).toLower "service:" = true := by
  change "service:".toList.isPrefixOf (("service:" ++ family).map Char.toLower).toList = true
  rw [String.toList_map, String.toList_append, List.map_append, List.isPrefixOf_iff_prefix]
  exact List.prefix_append _ _

theorem Kept.issue (kept : Kept w) {t : IssuedToken} (fresh : ∀ old ∈ w.issued, old.jti ≠ t.jti)
    (scope : t.scope = "read" ∨ t.scope = "write" ∨ t.scope = "admin")
    (capped : t.iat < t.exp ∧ t.exp ≤ t.iat + serviceTokenMaxTtlS) (issuer : t.issuedBy.role = .admin)
    (marked : startsWith t.familyId.toLower "service:" = true) {row : IssuedRow} (named : row.jti = t.jti)
    (family : row.familyId = t.familyId) (user : row.userId = t.userId) (expires : row.expiresAt = t.exp)
    (unrevoked : row.revokedAt = none)
    {rows : IssuedRows} (inserted : w.rows.insert row = some rows) :
    Kept { w with rows, issued := w.issued ++ [t] } := by
  have each {P : IssuedToken → Prop} (before : ∀ old ∈ w.issued, P old) (new : P t) :
      ∀ old ∈ w.issued ++ [t], P old := by
    intro old inIssued
    rcases List.mem_append.mp inIssued with earlier | now
    · exact before old earlier
    · exact List.mem_singleton.mp now ▸ new
  have still {jti : String} (known : ∃ old ∈ w.issued, old.jti = jti) : ∃ old ∈ w.issued ++ [t], old.jti = jti := by
    obtain ⟨old, inIssued, same⟩ := known
    exact ⟨old, List.mem_append_left _ inIssued, same⟩
  have finds : ∀ jti, rows.find jti = if row.jti = jti then some row else w.rows.find jti := Table.find_insert inserted
  refine ⟨each kept.scopes scope, each kept.capped capped, each kept.issuers issuer, each kept.marked marked, ?_, ?_,
    ?_, ?_⟩
  · intro r inRows
    rcases (Table.mem_insert inserted).mp inRows with before | rfl
    · exact still (kept.origin r before)
    · exact ⟨t, List.mem_append_right _ (List.mem_singleton_self t), named.symm⟩
  · exact fun jti inRevoked => still (kept.known jti inRevoked)
  · refine each ?_ ?_
    · intro old inIssued r found
      rw [finds, if_neg (named ▸ (fresh old inIssued).symm)] at found
      exact kept.rows old inIssued r found
    · intro r found
      rw [finds, if_pos named] at found
      cases found
      refine ⟨family, user, expires, iff_of_false (fun revoked => revoked unrevoked) fun inRevoked => ?_⟩
      obtain ⟨old, inIssued, same⟩ := kept.known _ inRevoked
      exact fresh old inIssued same
  · refine each ?_ ?_
    · intro old inIssued missing
      rw [finds, if_neg (named ▸ (fresh old inIssued).symm)] at missing
      exact kept.gone old inIssued missing
    · intro missing
      rw [finds, if_pos named] at missing
      cases missing

/-- What an admin route answers, it answers to an admin, or nothing has changed. -/
theorem asAdmin_cases {authResult : AuthResult} {forbidden : String} {go : AuthClaims → ServiceWorld × ServiceReply}
    {P : ServiceWorld → Prop} (same : P w) (served : ∀ claims, claims.role = .admin → P (go claims).1) :
    P (w.asAdmin authResult forbidden go).1 := by
  unfold asAdmin
  split
  · exact same
  · exact same
  · split
    · rename_i claims admin
      exact served claims admin
    · exact same

theorem asCaller_cases {authResult : AuthResult} {go : AuthClaims → ServiceWorld × ServiceReply}
    {P : ServiceWorld → Prop} (same : P w) (served : ∀ claims, P (go claims).1) : P (w.asCaller authResult go).1 := by
  unfold asCaller
  split
  · exact same
  · exact same
  · exact served _

/-- The invariant after an event, with the revocations that it leaves in force. -/
structure Follows (w after : ServiceWorld) : Prop where
  kept : Kept after
  revoked : w.revoked ⊆ after.revoked

theorem Kept.follows (kept : Kept w) : Follows w w := ⟨kept, List.Subset.refl _⟩

theorem Kept.follows_revokeWhere (kept : Kept w) (p : IssuedRow → Bool) (reason : String) :
    Follows w (w.revokeWhere p reason) := ⟨kept.revokeWhere p reason, List.subset_append_left _ _⟩

theorem Kept.follows_issue (kept : Kept w) {authResult : AuthResult} {body : IssueBody} {draws : TokenDraws}
    (fresh : ∀ t ∈ w.issued, t.jti ≠ draws.jti) : Follows w (w.handleIssueServiceToken authResult body draws).1 := by
  refine asAdmin_cases kept.follows fun claims admin => ?_
  split
  · exact kept.follows
  · exact kept.follows
  · exact kept.follows
  · split
    · exact kept.follows
    · unfold issueServiceToken
      split
      · exact kept.follows
      · rename_i valid
        obtain ⟨positive, bounded, scope⟩ := validateIssue_ok valid
        dsimp only
        split
        · exact kept.follows
        · rename_i inserted
          refine ⟨kept.issue fresh scope ⟨?_, ?_⟩ admin (startsWith_service _) rfl rfl rfl rfl rfl inserted,
            List.Subset.refl _⟩
          · dsimp only
            omega
          · dsimp only
            omega
  · exact kept.follows

theorem Kept.step (kept : Kept w) (e : ServiceEvent) (fresh : w.Fresh e) : Follows w (w.step env e) := by
  cases e with
  | tick seconds =>
    refine ⟨kept.frame _ _ ?_, List.Subset.refl _⟩
    change w.access.auth.clock ≤ w.access.auth.clock + seconds
    omega
  | issue authResult body draws => exact kept.follows_issue fresh
  | revoke authResult jti =>
    refine asAdmin_cases kept.follows fun claims admin => ?_
    split
    · exact kept.follows
    · exact kept.follows_revokeWhere _ _
  | logout authResult =>
    refine asCaller_cases kept.follows fun claims => ?_
    split
    · exact kept.follows
    · split
      · exact kept.follows
      · exact kept.follows_revokeWhere _ _
  | logoutAll authResult allowed =>
    refine asCaller_cases kept.follows fun claims => ?_
    split
    · split
      · exact kept.follows
      · rename_i userId bound
        have bumped : Kept { w with access := { w.access with auth := bumpTokenEpoch w.access.auth userId } } :=
          kept.frame _ _ le_rfl
        exact ⟨(bumped.follows_revokeWhere _ _).kept, List.subset_append_left _ _⟩
    · exact kept.follows
  | revokeToken authResult jti =>
    refine asCaller_cases kept.follows fun claims => ?_
    split
    · exact kept.follows
    · split
      · exact kept.follows
      · exact kept.follows_revokeWhere _ _
  | sweep settings victims => exact ⟨kept.swept settings victims, List.Subset.refl _⟩
  | write users globalFloor epochFloor revokedAgents userOrgs => exact ⟨kept.frame _ _ le_rfl, List.Subset.refl _⟩

/-- A run keeps the invariant, and every revocation it started with. -/
theorem Kept.run (kept : Kept w) {events : List ServiceEvent}
    (fresh : GuardedRun.Meets (ServiceWorld.step env) Fresh w events) :
    Follows w (events.foldl (ServiceWorld.step env) w) := by
  induction events generalizing w with
  | nil => exact kept.follows
  | cons e rest ih =>
    have first : Follows w (w.step env e) := kept.step e fresh.1
    have later := ih first.kept fresh.2
    exact ⟨later.kept, List.Subset.trans first.revoked later.revoked⟩

theorem find_serviceTokenRows (rows : IssuedRows) (jti : String) :
    (serviceTokenRows rows).find jti = (rows.find jti).map IssuedRow.toServiceTokenRow := by
  simp only [Table.find, serviceTokenRows, List.find?_map]
  rfl

/-- The row of a token vouches for it for as long as it is there and the token is not revoked. -/
theorem Kept.verify_iff (kept : Kept w) {t : IssuedToken} (inIssued : t ∈ w.issued) :
    verifyServiceTokenJti w.db t.jti = true ↔ (w.rows.find t.jti).isSome ∧ t.jti ∉ w.revoked := by
  rw [verifyServiceTokenJti, db, find_serviceTokenRows]
  cases found : w.rows.find t.jti with
  | none => simp
  | some r =>
    obtain ⟨family, -, -, marks⟩ := kept.rows t inIssued r found
    have marked := kept.marked t inIssued
    rw [← family] at marked
    simp only [Option.map_some, IssuedRow.toServiceTokenRow, marked, Bool.true_and, decide_eq_true_eq,
      Option.map_eq_none_iff, Option.isSome_some, true_and, ← marks, ne_eq, not_not]

theorem tokenEpoch_db (userId : String) : tokenEpoch env.libs w.db (.str userId) = some (w.epoch userId) := by
  rw [tokenEpoch, env.bindText, Option.map_some]
  rfl

/-- A missing row belongs to a token that was revoked or has long expired. -/
theorem Kept.present (kept : Kept w) {t : IssuedToken} (inIssued : t ∈ w.issued)
    (inTime : (w.now : ℚ) - sessionClockTolerance < t.exp) (unrevoked : t.jti ∉ w.revoked) :
    (w.rows.find t.jti).isSome := by
  by_contra missing
  rcases kept.gone t inIssued (Option.not_isSome_iff_eq_none.mp missing) with revoked | expired
  · exact unrevoked revoked
  · exact lt_asymm expired inTime

theorem inTime_payload {now : Int} {issuer : String} {t : IssuedToken} :
    InTime now sessionClockTolerance (t.payload issuer) ↔ (now : ℚ) - sessionClockTolerance < t.exp := by
  simp [InTime, IssuedToken.payload, dateOk, ClaimValue.number]

theorem truthy_str {text : String} : (ClaimValue.str text).truthy = true ↔ text ≠ "" := by
  simp [ClaimValue.truthy]

/-- The header of a token names the key that it is signed with. -/
theorem kidKey_jwt (t : IssuedToken) : env.ctx.kidKey (env.jwt t) = some env.ctx.signingKeys.current := by
  rw [Phase2AuthContext.kidKey, ServiceEnv.jwt, env.sign_kid]
  rfl

theorem issuerOk_payload {issuer : String} {t : IssuedToken} : issuerOk (some issuer) (t.payload issuer).iss = true := by
  simp [issuerOk, IssuedToken.payload]

/-- What the session verifier asks of a token comes down to its being in force. -/
theorem Kept.verified_iff (kept : Kept w) {t : IssuedToken} (inIssued : t ∈ w.issued) {sub : ClaimValue} :
    SessionVerified env.libs w.db env.ctx (env.jwt t) sub ↔
      sub = .str t.userId ∧ t.userId ≠ "" ∧ (w.now : ℚ) - sessionClockTolerance < t.exp ∧ w.epoch t.userId ≤ t.iat ∧
        t.jti ∉ w.revoked := by
  have payload : (env.jwt t).payload = t.payload env.ctx.issuer := env.sign_payload _ _ _
  constructor
  · intro verified
    have subject := verified.subject
    have inTime := verified.inTime
    obtain ⟨iat, epoch, dated, atEpoch, fresh⟩ := verified.fresh
    obtain ⟨jti, named, vouched⟩ := verified.vouched (by rw [payload]; rfl)
    rw [payload] at subject inTime dated named
    cases subject
    cases dated
    cases named
    rw [tokenEpoch_db] at atEpoch
    cases atEpoch
    refine ⟨rfl, truthy_str.mp verified.truthy, inTime_payload.mp inTime, ?_, ((kept.verify_iff inIssued).mp vouched).2⟩
    exact_mod_cast fresh
  · rintro ⟨rfl, truthy, inTime, fresh, unrevoked⟩
    refine
      { signed := ⟨_, kidKey_jwt t, env.signed _ _ _⟩
        issued := ?_
        inTime := ?_
        access := ?_
        subject := ?_
        truthy := truthy_str.mpr truthy
        fresh := ⟨t.iat, w.epoch t.userId, ?_, tokenEpoch_db t.userId, by exact_mod_cast fresh⟩
        vouched := fun _ => ⟨t.jti, ?_, ?_⟩ }
    · rw [payload]
      exact issuerOk_payload
    · rw [payload]
      exact inTime_payload.mpr inTime
    · rw [payload]
      rfl
    · rw [payload]
      rfl
    · rw [payload]
      rfl
    · rw [payload]
      rfl
    · exact (kept.verify_iff inIssued).mpr ⟨kept.present inIssued inTime unrevoked, unrevoked⟩

theorem sessionClaims_payload {issuer : String} {t : IssuedToken}
    (scope : t.scope = "read" ∨ t.scope = "write" ∨ t.scope = "admin") :
    sessionClaims (t.payload issuer) (.str t.userId) = t.claims := by
  have listed : sessionScope (some (.str t.scope)) = some t.scope := by
    rcases scope with same | same | same
    all_goals
      rw [same]
      decide
  unfold sessionClaims IssuedToken.claims
  rw [IssuedToken.payload, listed]
  rfl

theorem authenticateRequest_bearing (t : IssuedToken) (db : AccessDb) (url : String) :
    authenticateRequest env.libs env.auth db true (env.bearing t url) =
      applyRouteGuards env.libs db url (verifyPhase2SessionCookie env.libs db env.ctx (env.jwt t)) := by
  have named : (ClaimValue.text (env.jwt t).kid).isSome = true := by
    rw [ServiceEnv.jwt, env.sign_kid]
    rfl
  have bearer : (env.bearing t url).authorization = .bearer (env.jwt t) := rfl
  rw [authenticateRequest_bearer bearer env.wired, if_pos named]
  rfl

theorem Kept.accepted_iff (kept : Kept w) {t : IssuedToken} (inIssued : t ∈ w.issued) {url : String}
    (open' : pathOnly url ∉ adminOnlyRoutes) {claims : AuthClaims} :
    authenticateRequest env.libs env.auth w.db true (env.bearing t url) = .accepted claims ↔
      claims = t.claims ∧ w.Standing t := by
  have payload : (env.jwt t).payload = t.payload env.ctx.issuer := env.sign_payload _ _ _
  have asked : revocation env.libs w.db t.claims.org t.claims.sub =
      some (w.access.revokedAgents.isRevoked t.orgId t.userId) := by
    simp only [revocation, IssuedToken.claims, env.bindText]
    rfl
  rw [authenticateRequest_bearing, applyRouteGuards_accepted_iff open', verifyPhase2_accepted_iff]
  constructor
  · rintro ⟨⟨sub, verified, rfl⟩, allowed⟩
    obtain ⟨rfl, named, inTime, current, unrevoked⟩ := (kept.verified_iff inIssued).mp verified
    rw [payload, sessionClaims_payload (kept.scopes t inIssued)] at allowed ⊢
    rw [asked] at allowed
    exact ⟨rfl, named, inTime, current, unrevoked, Option.some.inj allowed⟩
  · rintro ⟨rfl, stands⟩
    refine ⟨⟨.str t.userId, ?_, ?_⟩, ?_⟩
    · exact (kept.verified_iff inIssued).mpr ⟨rfl, stands.named, stands.inTime, stands.current, stands.unrevoked⟩
    · rw [payload, sessionClaims_payload (kept.scopes t inIssued)]
    · rw [asked, stands.allowed]

/-- A service token is never taken for an admin. -/
theorem role_bearing {t : IssuedToken} {db : AccessDb} {url : String} {claims : AuthClaims}
    (accepted : authenticateRequest env.libs env.auth db true (env.bearing t url) = .accepted claims) :
    claims.role = .service := by
  rw [authenticateRequest_bearing] at accepted
  cases result : verifyPhase2SessionCookie env.libs db env.ctx (env.jwt t) with
  | refused status error header =>
    rw [result] at accepted
    cases accepted
  | thrown =>
    rw [result] at accepted
    cases accepted
  | accepted given =>
    obtain ⟨sub, verified, rfl⟩ := verifyPhase2_accepted_iff.mp result
    have payload : (env.jwt t).payload = t.payload env.ctx.issuer := env.sign_payload _ _ _
    rw [result, applyRouteGuards] at accepted
    split at accepted
    · cases accepted
    · cases accepted
    · split at accepted
      · cases accepted
      · cases accepted
        rw [payload]
        rfl

theorem asAdmin_of_service {authResult : AuthResult}
    (service : ∀ claims, authResult = .accepted claims → claims.role = .service) (w : ServiceWorld) (forbidden : String) (go : AuthClaims → ServiceWorld × ServiceReply) :
    (w.asAdmin authResult forbidden go).1 = w := by
  unfold asAdmin
  split
  · rfl
  · rfl
  · rename_i claims
    rw [if_neg]
    rw [service claims rfl]
    decide

/-- An update that picks the row of a token takes the token out of force. -/
theorem Kept.not_standing (kept : Kept w) {t : IssuedToken} (inIssued : t ∈ w.issued) {p : IssuedRow → Bool}
    {reason : String} (picks : ∀ r, w.rows.find t.jti = some r → p r = true) :
    ¬ (w.revokeWhere p reason).Standing t := by
  intro stands
  have unrevoked : t.jti ∉ w.revoked := fun before => stands.unrevoked (List.mem_append_left _ before)
  obtain ⟨r, found⟩ := Option.isSome_iff_exists.mp (kept.present inIssued stands.inTime unrevoked)
  obtain ⟨-, -, -, marks⟩ := kept.rows t inIssued r found
  have unmarked : r.revokedAt = none := not_not.mp fun marked => unrevoked (marks.mp marked)
  obtain ⟨inRows, named⟩ := Table.find_eq_some.mp found
  refine stands.unrevoked (List.mem_append_right _ (List.mem_map.mpr ⟨r, List.mem_filter.mpr ⟨inRows, ?_⟩, named⟩))
  rw [picks r found, unmarked]
  rfl

theorem Kept.revocable (kept : Kept w) {t : IssuedToken} (inIssued : t ∈ w.issued) {claims : AuthClaims}
    (admin : claims.role = .admin) : ¬ (w.handleRevokeServiceToken (.accepted claims) t.jti).1.Standing t := by
  have picks : ∀ r, w.rows.find t.jti = some r → (decide (r.jti = t.jti) && r.isService) = true := by
    intro r found
    obtain ⟨family, -⟩ := kept.rows t inIssued r found
    have service : r.isService = true := by
      rw [IssuedRow.isService, family]
      exact kept.marked t inIssued
    rw [service, decide_eq_true (Table.find_eq_some.mp found).2]
    rfl
  simp only [handleRevokeServiceToken, asAdmin, if_pos admin]
  split
  · rename_i none'
    intro stands
    obtain ⟨r, found⟩ := Option.isSome_iff_exists.mp (kept.present inIssued stands.inTime stands.unrevoked)
    obtain ⟨-, -, -, marks⟩ := kept.rows t inIssued r found
    have unmarked : r.revokedAt = none := not_not.mp fun marked => stands.unrevoked (marks.mp marked)
    refine Nat.lt_irrefl 0 (none' ▸ Table.changes_pos.mpr ⟨r, (Table.find_eq_some.mp found).1, ?_⟩)
    rw [picks r found, unmarked]
    rfl
  · exact kept.not_standing inIssued picks

theorem Kept.logoutEnds (kept : Kept w) {t : IssuedToken} (inIssued : t ∈ w.issued) {claims : AuthClaims}
    (same : claims.familyId = some (.str t.familyId)) : ¬ (w.handleLogout env (.accepted claims)).1.Standing t := by
  have named : t.familyId ≠ "" := by
    intro empty
    have marked := kept.marked t inIssued
    rw [empty] at marked
    exact absurd marked (by decide +kernel)
  have present : claims.familyId.filter ClaimValue.truthy = some (.str t.familyId) := by
    rw [same, Option.filter_some, if_pos (truthy_str.mpr named)]
  simp only [handleLogout, asCaller, present, env.bindText]
  refine kept.not_standing inIssued fun r found => ?_
  exact decide_eq_true (kept.rows t inIssued r found).1

theorem Kept.logoutAllEnds (kept : Kept w) {t : IssuedToken} (inIssued : t ∈ w.issued) {claims : AuthClaims}
    (same : claims.userId = .str t.userId) : ¬ (w.handleLogoutAll env (.accepted claims) true).1.Standing t := by
  simp only [handleLogoutAll, asCaller, if_true, same, env.bindText]
  have bumped : Kept { w with access := { w.access with auth := bumpTokenEpoch w.access.auth t.userId } } :=
    kept.frame _ _ le_rfl
  refine bumped.not_standing inIssued fun r found => ?_
  exact decide_eq_true (kept.rows t inIssued r found).2.1

/-- Every service token answers for its user exactly as long as it stands: a revocation
takes effect at the next request and for good, in whatever order logouts, sweeps and
other writes come, and the sweeper never takes the row of a token that is still in time. -/
theorem service_tokens_lawful (env : ServiceEnv Key) (access : AccessDb) (userOrgs : List (String × String))
    (before after : List ServiceEvent)
    (fresh : GuardedRun.Meets (ServiceWorld.step env) Fresh (boot access userOrgs) (before ++ after)) :
    TokenLaws env (before.foldl (ServiceWorld.step env) (boot access userOrgs)).revoked
      ((before ++ after).foldl (ServiceWorld.step env) (boot access userOrgs)) := by
  have first := (Kept.boot access userOrgs).run (fresh.initial (List.prefix_append before after))
  have second := first.kept.run fresh.rest
  rw [List.foldl_append]
  exact
    { accepted := fun t inIssued url open' claims => second.kept.accepted_iff inIssued open'
      final := fun jti inRevoked => second.revoked inRevoked
      revocable := fun t inIssued claims => second.kept.revocable inIssued
      logoutEnds := fun t inIssued claims => second.kept.logoutEnds inIssued
      logoutAllEnds := fun t inIssued claims => second.kept.logoutAllEnds inIssued
      capped := second.kept.capped
      issuers := second.kept.issuers
      barren := fun t inIssued db url w' body draws jti =>
        ⟨asAdmin_of_service (fun claims => role_bearing) w' _ _, asAdmin_of_service (fun claims => role_bearing) w' _ _⟩ }

end

/-- Keys that sign by their name. -/
def namedEnv : ServiceEnv String where
  libs := namedLibraries
  auth := oneSecret
  ctx := ⟨⟨"secret", none⟩, "https://coordinator"⟩
  wired := rfl
  sign key kid payload := ⟨some (.str kid), payload, key⟩
  sign_kid _ _ _ := rfl
  sign_payload _ _ _ := rfl
  signed _ _ _ := decide_eq_true rfl
  bindText _ := rfl

def ciUsers : Table User User.id := ⟨[⟨"ci", "acme", some "member", "github", none, none, 0⟩], by decide +kernel⟩

def ciServer : ServiceWorld := boot { revokedDb with auth := { revokedDb.auth with users := ciUsers } } []

/-- An admin has a token made for the builds and revokes it, a minute later another one. -/
def ciEvents : List ServiceEvent :=
  [.issue (.accepted legacyClaims) (.object (some "ci") (some "acme") (some "admin") (some "30d") (some "nightly builds"))
      ⟨"f1", "j1"⟩,
    .revoke (.accepted legacyClaims) "j1"]

def laterCiEvents : List ServiceEvent :=
  [.tick 60,
    .issue (.accepted legacyClaims) (.object (some "ci") (some "acme") (some "read") (some "1d") (some "weekly builds"))
      ⟨"f2", "j2"⟩,
    .sweep ⟨fun _ => none, fun _ => ""⟩ ["j1", "j2"]]

theorem service_tokens_lawful_ci :
    (ciEvents.foldl (ServiceWorld.step namedEnv) ciServer).revoked = ["j1"] ∧
      ((ciEvents ++ laterCiEvents).foldl (ServiceWorld.step namedEnv) ciServer).issued.map IssuedToken.jti =
        ["j1", "j2"] ∧
      TokenLaws namedEnv (ciEvents.foldl (ServiceWorld.step namedEnv) ciServer).revoked
        ((ciEvents ++ laterCiEvents).foldl (ServiceWorld.step namedEnv) ciServer) :=
  ⟨by decide +kernel, by decide +kernel, service_tokens_lawful namedEnv _ [] ciEvents laterCiEvents (by decide +kernel)⟩

end ServiceWorld

end Coordinator
