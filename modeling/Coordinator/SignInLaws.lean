import Coordinator.SignInMoves

namespace Coordinator

namespace SignInWorld

/-- The sign-in is told that its code was good, while its user is not locked out. -/
structure Unlocked (env : SignInEnv) (w : SignInWorld) (i : Nat) (request : SignInRequest) (x : ExchangeCodeResult)
    (answers : SignInAnswers) : Prop where
  flight : w.flights[i]? = some ⟨request, .exchanging⟩
  exchanged : answers.exchangeCode = .ok x
  unlocked : (isLocked (env.hashIdentifier (lockoutIdentifier x.user request.ip)) {} w.oauth.clock
    w.oauth.limiter).locked = false

/-- The sign-in's user matches an allowlist, and is found, or made where that is allowed. -/
structure Admitted (env : SignInEnv) (w : SignInWorld) (i : Nat) (request : SignInRequest) (x : ExchangeCodeResult)
    (answers : SignInAnswers) (allowlistOrg : AllowlistMatch) (mint : SessionMint) : Prop where
  flight : w.flights[i]? = some ⟨request, .matching x⟩
  listed : ∃ memberships, w.matchAllowlist env request.provider x.user answers.getMemberships =
    .ok (memberships, some allowlistOrg)
  user : (∃ user, w.login.existing (provisionArgs request.provider x allowlistOrg) = some user ∧
      mint.user = ⟨user.id, user.primaryOrgId, user.role, false, false⟩) ∨
    w.login.existing (provisionArgs request.provider x allowlistOrg) = none ∧
      (autoProvisionSetting w.autoProvision).toLower ≠ "false" ∧ mint.user.isNew = true ∧
      mint.user.primaryOrgId = allowlistOrg.orgId
  began : mint.now = w.login.db.clock
  fingerprint : mint.fingerprint = env.computeFingerprint request.ip request.userAgent

/-- The two moments at which a run let the sign-in pass. -/
def Passed (env : SignInEnv) (start : SignInWorld) (events : List SignInEvent) (i : Nat) (request : SignInRequest)
    (x : ExchangeCodeResult) (mint : SessionMint) : Prop :=
  ∃ before between rest first second allowlistOrg,
    events = before ++ .advance i first :: (between ++ .advance i second :: rest) ∧
    Unlocked env (before.foldl (step env) start) i request x first ∧
    Admitted env ((before ++ .advance i first :: between).foldl (step env) start) i request x second allowlistOrg mint

/-- No login draws a state that was drawn before. -/
def Fresh (w : SignInWorld) : SignInEvent → Prop
  | .login request draws => w.oauth.Fresh (.login request draws)
  | _ => True

instance (w : SignInWorld) : (e : SignInEvent) → Decidable (w.Fresh e)
  | .login request draws => inferInstanceAs (Decidable (w.oauth.Fresh (.login request draws)))
  | .tick _ | .restart _ _ | .callback _ _ _ _ | .authCode _ _ _ | .advance _ _ | .sweepStates _ | .updateUser _ _
  | .writeOrgs _ _ => .isTrue trivial

/-- What holds of the sessions that a run has opened, however its sign-ins interleave. -/
structure SignInLaws (env : SignInEnv) (start : SignInWorld) (events : List SignInEvent) (w : SignInWorld) : Prop where
  /-- Nobody has a session who did not pass the lockout and then the allowlist. -/
  passed : ∀ i request x mint, w.flights[i]? = some ⟨request, .signedIn x mint⟩ → Passed env start events i request x mint
  /-- A browser's sign-in answers the one login that has its cookie. -/
  bound : ∀ f ∈ w.flights, ∀ x, f.request.channel = .browser x →
    (∃ login ∈ w.oauth.issued, OAuthWorld.Answers x login) ∧
      ∀ login ∈ w.oauth.issued, login.cookie = x.cookie → OAuthWorld.Answers x login
  /-- No login of a browser leads to two sign-ins. -/
  once : ∀ (i j : Nat) (f g : SignIn) (x y : Exchange), w.flights[i]? = some f → w.flights[j]? = some g →
    f.request.channel = .browser x → g.request.channel = .browser y → x.state = y.state → i = j
  /-- Sessions are of one user when their providers' users are one, and only then. -/
  identity : ∀ f ∈ w.flights, ∀ g ∈ w.flights, ∀ x y m n, f.stage = .signedIn x m → g.stage = .signedIn y n →
    (m.user.userId = n.user.userId ↔
      f.request.provider = g.request.provider ∧ x.user.idpUserId = y.user.idpUserId)
  /-- The rows are those of the sign-ins that were answered, one for each. -/
  rows : ∀ r, r ∈ w.login.db.refreshTokens.rows ↔ ∃ f ∈ w.flights, ∃ x mint, f.stage = .signedIn x mint ∧ r = mint.row
  distinct : ∀ (i j : Nat) (f g : SignIn) (x y : ExchangeCodeResult) (m n : SessionMint), w.flights[i]? = some f →
    w.flights[j]? = some g → f.stage = .signedIn x m → g.stage = .signedIn y n → m.familyId = n.familyId → i = j
  /-- The audit log tells of every session and of every new user, once. -/
  logged : w.audits.filterMap SignInAudit.session? = w.login.db.refreshTokens.rows.map RefreshRow.session
  created : w.audits.filterMap SignInAudit.created? = w.login.accounts.map Account.userId

section
variable {env : SignInEnv} {w : SignInWorld}

/-- What every event keeps. -/
structure Kept (env : SignInEnv) (w : SignInWorld) : Prop where
  oauth : OAuthWorld.Kept env.oauth w.oauth
  callbacks : (w.flights.map SignIn.request).filterMap (fun q => q.channel.exchange?) = w.oauth.exchanges
  users : w.login.accounts.map Account.userId = w.login.db.users.rows.map User.id
  identities : (w.login.accounts.map fun a => (a.idpProvider, a.idpUserId)).Nodup
  owned : ∀ (i : Nat) (f : SignIn) (x : ExchangeCodeResult) (mint : SessionMint), w.flights[i]? = some f →
    f.stage.held = some (x, mint) → ∃ a ∈ w.login.accounts, a.userId = mint.user.userId ∧
      a.idpProvider = f.request.provider ∧ a.idpUserId = x.user.idpUserId
  drawn : ∀ (i : Nat) (f : SignIn) (x : ExchangeCodeResult) (mint : SessionMint), w.flights[i]? = some f →
    f.stage.held = some (x, mint) → mint.familyId < w.login.db.draws
  distinct : ∀ (i j : Nat) (f g : SignIn) (x y : ExchangeCodeResult) (m n : SessionMint), w.flights[i]? = some f →
    w.flights[j]? = some g → f.stage.held = some (x, m) → g.stage.held = some (y, n) → m.familyId = n.familyId → i = j
  rows : ∀ r, r ∈ w.login.db.refreshTokens.rows ↔ ∃ (i : Nat) (f : SignIn) (x : ExchangeCodeResult) (mint : SessionMint),
    w.flights[i]? = some f ∧ f.stage = .signedIn x mint ∧ r = mint.row
  logged : w.audits.filterMap SignInAudit.session? = w.login.db.refreshTokens.rows.map RefreshRow.session
  created : w.audits.filterMap SignInAudit.created? = w.login.accounts.map Account.userId

theorem Kept.boot (env : SignInEnv) (orgs : Table AllowlistOrg AllowlistOrg.id)
    (allowlistIdpOrgId : String → Option String) (autoProvision : Option String) (clock : Int) (providers : List String) :
    Kept env (boot orgs allowlistIdpOrgId autoProvision clock providers) where
  oauth := .boot env.oauth clock providers
  callbacks := rfl
  users := rfl
  identities := .nil
  owned := by simp [SignInWorld.boot]
  drawn := by simp [SignInWorld.boot]
  distinct := by simp [SignInWorld.boot]
  rows r := iff_of_false List.not_mem_nil (by simp [SignInWorld.boot])
  logged := rfl
  created := rfl

/-- A state with the same sign-ins, sessions and accounts, whatever the rest of its users. -/
theorem Kept.frame (kept : Kept env w) {oauth : OAuthWorld} (flow : OAuthWorld.Kept env.oauth oauth)
    (exchanges : oauth.exchanges = w.oauth.exchanges) (login : LoginWorld) (accounts : login.accounts = w.login.accounts)
    (ids : login.db.users.rows.map User.id = w.login.db.users.rows.map User.id)
    (tokens : login.db.refreshTokens = w.login.db.refreshTokens) (draws : login.db.draws = w.login.db.draws)
    (allowlistIdpOrgId : String → Option String) (autoProvision : Option String) :
    Kept env { w with oauth, login, allowlistIdpOrgId, autoProvision } where
  oauth := flow
  callbacks := kept.callbacks.trans exchanges.symm
  users := by
    change login.accounts.map Account.userId = login.db.users.rows.map User.id
    rw [accounts, ids, kept.users]
  identities := by
    change (login.accounts.map _).Nodup
    rw [accounts]
    exact kept.identities
  owned := by
    change ∀ i f x mint, w.flights[i]? = some f → _ → ∃ a ∈ login.accounts, _
    rw [accounts]
    exact kept.owned
  drawn := by
    change ∀ i f x mint, w.flights[i]? = some f → _ → _ < login.db.draws
    rw [draws]
    exact kept.drawn
  distinct := kept.distinct
  rows := by
    change ∀ r, r ∈ login.db.refreshTokens.rows ↔ _
    rw [tokens]
    exact kept.rows
  logged := by
    change w.audits.filterMap _ = login.db.refreshTokens.rows.map _
    rw [tokens, kept.logged]
  created := by
    change w.audits.filterMap _ = login.accounts.map _
    rw [accounts, kept.created]

theorem Kept.noted (kept : Kept env w) {audits : List SignInAudit}
    (sessionless : audits.filterMap SignInAudit.session? = []) (userless : audits.filterMap SignInAudit.created? = []) :
    Kept env (w.log audits) where
  oauth := kept.oauth
  callbacks := kept.callbacks
  users := kept.users
  identities := kept.identities
  owned := kept.owned
  drawn := kept.drawn
  distinct := kept.distinct
  rows := kept.rows
  logged := by
    change (w.audits ++ audits).filterMap _ = _
    rw [List.filterMap_append, sessionless, List.append_nil, kept.logged]
    rfl
  created := by
    change (w.audits ++ audits).filterMap _ = _
    rw [List.filterMap_append, userless, List.append_nil, kept.created]
    rfl

/-- The sign-ins change, but none of those that hold a user. -/
theorem Kept.reflight (kept : Kept env w) {flights : List SignIn} {oauth : OAuthWorld}
    (flow : OAuthWorld.Kept env.oauth oauth)
    (callbacks : (flights.map SignIn.request).filterMap (fun q => q.channel.exchange?) = oauth.exchanges)
    (held : ∀ (i : Nat) (f : SignIn) (x : ExchangeCodeResult) (mint : SessionMint), flights[i]? = some f →
      f.stage.held = some (x, mint) → w.flights[i]? = some f)
    (sessions : ∀ (i : Nat) (f : SignIn) (x : ExchangeCodeResult) (mint : SessionMint), w.flights[i]? = some f →
      f.stage = .signedIn x mint → flights[i]? = some f) : Kept env { w with flights, oauth } where
  oauth := flow
  callbacks := callbacks
  users := kept.users
  identities := kept.identities
  owned i f x mint listed holds := kept.owned i f x mint (held i f x mint listed holds) holds
  drawn i f x mint listed holds := kept.drawn i f x mint (held i f x mint listed holds) holds
  distinct i j f g x y m n listed listed' holds holds' :=
    kept.distinct i j f g x y m n (held i f x m listed holds) (held j g y n listed' holds') holds holds'
  rows r := by
    rw [kept.rows]
    constructor
    · rintro ⟨i, f, x, mint, listed, done, rfl⟩
      exact ⟨i, f, x, mint, sessions i f x mint listed done, done, rfl⟩
    · rintro ⟨i, f, x, mint, listed, done, rfl⟩
      exact ⟨i, f, x, mint, held i f x mint listed (by rw [done]; rfl), done, rfl⟩
  logged := kept.logged
  created := kept.created

theorem requests_set {i : Nat} {f : SignIn} (listed : w.flights[i]? = some f) (stage : SignInStage) :
    (w.flights.set i { f with stage }).map SignIn.request = w.flights.map SignIn.request := by
  obtain ⟨bound, rfl⟩ := List.getElem?_eq_some_iff.mp listed
  rw [List.map_set, ← List.getElem_map SignIn.request, List.set_getElem_self]
  rwa [List.length_map]

/-- A sign-in under way goes on to a stage without a user. -/
theorem Kept.proceed (kept : Kept env w) {i : Nat} {f : SignIn} (listed : w.flights[i]? = some f)
    (pending : ∀ x mint, f.stage ≠ .signedIn x mint) {stage : SignInStage} (without : stage.held = none) :
    Kept env { w with flights := w.flights.set i { f with stage } } := by
  refine kept.reflight kept.oauth ?_ ?_ ?_
  · rw [requests_set listed, kept.callbacks]
  · intro j g x mint listed' holds
    rcases List.getElem?_set_cases listed' with ⟨rfl, rfl⟩ | ⟨-, before⟩
    · rw [without] at holds
      cases holds
    · exact before
  · intro j g x mint listed' done
    rw [List.getElem?_set_ne, listed']
    rintro rfl
    rw [listed] at listed'
    cases listed'
    exact pending x mint done

theorem Kept.admitted (kept : Kept env w) {i : Nat} {f : SignIn} (listed : w.flights[i]? = some f)
    {x : ExchangeCodeResult} (waiting : f.stage = .matching x) {login : LoginWorld} {result : ProvisionResult}
    (welcome : Welcomed w.login login f.request.provider x.user.idpUserId result) :
    Kept env { (beginMint env ({ w with login }.log (provisionAudits result)) f.request result).1 with
      flights := w.flights.set i
        ⟨f.request, .minting x (beginMint env ({ w with login }.log (provisionAudits result)) f.request result).2⟩ } := by
  have old : ∀ {j : Nat} {g : SignIn} {y : ExchangeCodeResult} {n : SessionMint}, w.flights[j]? = some g →
      g.stage.held = some (y, n) → n.familyId < login.db.draws := by
    intro j g y n listed' holds
    rw [welcome.draws]
    exact kept.drawn j g y n listed' holds
  refine ⟨kept.oauth, ?_, welcome.users, welcome.identities, ?_, ?_, ?_, ?_, ?_, ?_⟩
  · rw [requests_set listed]
    exact kept.callbacks
  · intro j g y n listed' holds
    rcases List.getElem?_set_cases listed' with ⟨rfl, rfl⟩ | ⟨-, before⟩
    · cases holds
      exact welcome.mine
    · obtain ⟨a, inAccounts, named, byProvider, byUser⟩ := kept.owned j g y n before holds
      obtain ⟨b, inAccounts', sameId, sameProvider, sameUser⟩ := welcome.kept a inAccounts
      exact ⟨b, inAccounts', sameId.trans named, sameProvider.trans byProvider, sameUser.trans byUser⟩
  · intro j g y n listed' holds
    change n.familyId < login.db.draws + 3
    rcases List.getElem?_set_cases listed' with ⟨rfl, rfl⟩ | ⟨-, before⟩
    · cases holds
      change login.db.draws < login.db.draws + 3
      omega
    · have drawn := old before holds
      omega
  · intro j k g h y z m n listed' listed'' holds holds' same
    rcases List.getElem?_set_cases listed' with ⟨rfl, rfl⟩ | ⟨-, before⟩
    · rcases List.getElem?_set_cases listed'' with ⟨rfl, rfl⟩ | ⟨-, before'⟩
      · rfl
      · -- a family drawn now is not one drawn before
        cases holds
        have drawn := old before' holds'
        change login.db.draws = n.familyId at same
        omega
    · rcases List.getElem?_set_cases listed'' with ⟨rfl, rfl⟩ | ⟨-, before'⟩
      · cases holds'
        have drawn := old before holds
        change m.familyId = login.db.draws at same
        omega
      · exact kept.distinct j k g h y z m n before before' holds holds' same
  · intro r
    change r ∈ login.db.refreshTokens.rows ↔ _
    rw [welcome.tokens, kept.rows]
    constructor
    · rintro ⟨j, g, y, n, listed', done, rfl⟩
      refine ⟨j, g, y, n, ?_, done, rfl⟩
      rw [List.getElem?_set_ne, listed']
      rintro rfl
      rw [listed] at listed'
      cases listed'
      rw [waiting] at done
      cases done
    · rintro ⟨j, g, y, n, listed', done, rfl⟩
      rcases List.getElem?_set_cases listed' with ⟨rfl, rfl⟩ | ⟨-, before⟩
      · cases done
      · exact ⟨j, g, y, n, before, done, rfl⟩
  · change (w.audits ++ provisionAudits result).filterMap _ = login.db.refreshTokens.rows.map _
    rw [List.filterMap_append, provisionAudits_sessionless, List.append_nil, welcome.tokens, kept.logged]
  · change (w.audits ++ provisionAudits result).filterMap _ = login.accounts.map _
    rw [List.filterMap_append, kept.created, welcome.created]

theorem Kept.inserted (kept : Kept env w) {i : Nat} {f : SignIn} (listed : w.flights[i]? = some f)
    {x : ExchangeCodeResult} {mint : SessionMint} (waiting : f.stage = .minting x mint) {tokens : RefreshTokens}
    (added : w.login.db.refreshTokens.insert mint.row = some tokens) :
    Kept env { ({ w with login := { w.login with db := w.login.db.setTokens tokens } }.log [mint.audit]) with
      flights := w.flights.set i ⟨f.request, .signedIn x mint⟩ } := by
  -- what the sign-in holds, it held before
  have before : ∀ {j : Nat} {g : SignIn} {y : ExchangeCodeResult} {n : SessionMint},
      (w.flights.set i ⟨f.request, .signedIn x mint⟩)[j]? = some g → g.stage.held = some (y, n) →
      ∃ h, w.flights[j]? = some h ∧ h.request = g.request ∧ h.stage.held = some (y, n) := by
    intro j g y n listed' holds
    rcases List.getElem?_set_cases listed' with ⟨rfl, rfl⟩ | ⟨-, same⟩
    · cases holds
      exact ⟨f, listed, rfl, by rw [waiting]; rfl⟩
    · exact ⟨g, same, rfl, holds⟩
  refine ⟨kept.oauth, ?_, kept.users, kept.identities, ?_, ?_, ?_, ?_, ?_, ?_⟩
  · rw [requests_set listed]
    exact kept.callbacks
  · intro j g y n listed' holds
    obtain ⟨h, was, sameRequest, held⟩ := before listed' holds
    rw [← sameRequest]
    exact kept.owned j h y n was held
  · intro j g y n listed' holds
    obtain ⟨h, was, -, held⟩ := before listed' holds
    exact kept.drawn j h y n was held
  · intro j k g g' y z m n listed' listed'' holds holds' same
    obtain ⟨h, was, -, held⟩ := before listed' holds
    obtain ⟨h', was', -, held'⟩ := before listed'' holds'
    exact kept.distinct j k h h' y z m n was was' held held' same
  · intro r
    change r ∈ tokens.rows ↔ _
    rw [Table.mem_insert added, kept.rows]
    constructor
    · rintro (⟨j, g, y, n, listed', done, rfl⟩ | rfl)
      · refine ⟨j, g, y, n, ?_, done, rfl⟩
        rw [List.getElem?_set_ne, listed']
        rintro rfl
        rw [listed] at listed'
        cases listed'
        rw [waiting] at done
        cases done
      · exact ⟨i, _, x, mint, List.getElem?_set_self (List.getElem?_eq_some_iff.mp listed).1, rfl, rfl⟩
    · rintro ⟨j, g, y, n, listed', done, rfl⟩
      rcases List.getElem?_set_cases listed' with ⟨rfl, rfl⟩ | ⟨-, was⟩
      · cases done
        exact .inr rfl
      · exact .inl ⟨j, g, y, n, was, done, rfl⟩
  · change (w.audits ++ [mint.audit]).filterMap _ = tokens.rows.map _
    rw [List.filterMap_append, kept.logged, Table.insert_rows added, List.map_append]
    rfl
  · change (w.audits ++ [mint.audit]).filterMap _ = w.login.accounts.map _
    rw [List.filterMap_append, kept.created]
    exact List.append_nil _

theorem Kept.oauthStep (kept : Kept env w) {oauth : OAuthWorld} (flow : OAuthWorld.Kept env.oauth oauth)
    (exchanges : oauth.exchanges = w.oauth.exchanges) : Kept env { w with oauth } :=
  kept.frame flow exchanges w.login rfl rfl rfl rfl w.allowlistIdpOrgId w.autoProvision

/-- A new sign-in holds no user yet. -/
theorem Kept.arrive (kept : Kept env w) {oauth : OAuthWorld} (flow : OAuthWorld.Kept env.oauth oauth)
    (request : SignInRequest) (exchanges : oauth.exchanges = w.oauth.exchanges ++ request.channel.exchange?.toList) :
    Kept env ({ w with oauth }.begin request) := by
  refine kept.reflight flow ?_ ?_ ?_
  · rw [List.map_append, List.filterMap_append, kept.callbacks, exchanges, List.map_singleton, List.filterMap_cons]
    cases request.channel <;> rfl
  · intro i f x mint listed holds
    rcases List.getElem?_snoc_cases listed with before | ⟨-, rfl⟩
    · exact before
    · cases holds
  · intro i f x mint listed _
    exact List.getElem?_snoc_old listed

theorem crash_request (f : SignIn) : f.crash.request = f.request := by
  unfold SignIn.crash
  split <;> rfl

/-- Nobody's user is held across a restart but by the sign-ins that were answered. -/
theorem Kept.restart (kept : Kept env w) : Kept env { w with flights := w.flights.map SignIn.crash } := by
  refine kept.reflight kept.oauth ?_ ?_ ?_
  · have same : (w.flights.map SignIn.crash).map SignIn.request = w.flights.map SignIn.request := by
      rw [List.map_map]
      exact List.map_congr_left fun f _ => crash_request f
    rw [same]
    exact kept.callbacks
  · intro i f x mint listed holds
    rw [List.getElem?_map, Option.map_eq_some_iff] at listed
    obtain ⟨g, before, rfl⟩ := listed
    unfold SignIn.crash at holds ⊢
    split at holds <;> first | (cases holds) | exact before
  · intro i f x mint listed done
    rw [List.getElem?_map, listed, Option.map_some, SignIn.crash, done]

theorem Kept.advance (kept : Kept env w) {i : Nat} {f : SignIn} (listed : w.flights[i]? = some f) (answers : SignInAnswers) :
    Kept env { (w.resume env f answers).1 with
      flights := w.flights.set i { f with stage := (w.resume env f answers).2 } } := by
  have move := resume_move env w f answers
  revert move
  generalize (w.resume env f answers).1 = after
  generalize (w.resume env f answers).2 = stage
  intro move
  cases move with
  | settled =>
    have same : w.flights.set i { f with stage := f.stage } = w.flights := by
      obtain ⟨bound, rfl⟩ := List.getElem?_eq_some_iff.mp listed
      exact List.set_getElem_self bound
    rw [same]
    exact kept
  | ended limiter audits stage pending past sessionless userless =>
    exact ((kept.oauthStep (kept.oauth.limit limiter) rfl).noted sessionless userless).proceed listed pending
      (SignInStage.held_of_isOver past)
  | unlocked x waiting answered open_ =>
    refine kept.proceed listed ?_ rfl
    rw [waiting]
    nofun
  | admitted x memberships allowlistOrg login result waiting asked served =>
    exact kept.admitted listed waiting (welcomed kept.users kept.identities served)
  | inserted x mint tokens waiting added => exact kept.inserted listed waiting added

theorem Kept.step (kept : Kept env w) (e : SignInEvent) (fresh : w.Fresh e) : Kept env (w.step env e) := by
  cases e with
  | tick seconds =>
    exact kept.frame (kept.oauth.step (.tick seconds) trivial) rfl { w.login with db := w.login.db.wait seconds } rfl rfl rfl
      rfl w.allowlistIdpOrgId w.autoProvision
  | restart providers autoProvision =>
    exact (kept.frame (kept.oauth.step (.restart providers) trivial) rfl w.login rfl rfl rfl rfl w.allowlistIdpOrgId
      autoProvision).restart
  | login request draws =>
    exact kept.oauthStep (kept.oauth.step (.login request draws) fresh) (OAuthWorld.login_exchanges ..)
  | callback request later ip userAgent =>
    have flow := kept.oauth.step (.callback request later) trivial
    have exchanges := OAuthWorld.callback_exchanges env.oauth request later w.oauth
    rw [OAuthWorld.step] at flow
    change Kept env (w.callback env request later ip userAgent)
    unfold callback
    cases served : w.oauth.handleOAuthCallback env.oauth request later with
    | mk oauth reply =>
      rw [served] at flow exchanges
      cases reply with
      | exchanging exchange => exact kept.arrive flow _ exchanges
      | refused refusal => exact kept.oauthStep flow (exchanges.trans (List.append_nil _))
      | thrown => exact kept.oauthStep flow (exchanges.trans (List.append_nil _))
  | authCode request ip userAgent =>
    have begun (q : SignInRequest) (code redirectUri : String) (verifier : Option String)
        (grant : q.channel = .authCode code redirectUri verifier) : Kept env (w.begin q) := by
      refine kept.arrive kept.oauth q ?_
      rw [grant]
      exact (List.append_nil _).symm
    change Kept env (w.authCode request ip userAgent)
    unfold authCode
    split
    · split
      · split
        · exact begun _ _ _ _ rfl
        · exact kept.noted rfl rfl
      · split
        · exact kept
        · exact begun _ _ _ _ rfl
    · exact kept
  | advance i answers =>
    rw [SignInWorld.step]
    split
    · exact kept
    · rename_i f listed
      exact kept.advance listed answers
  | sweepStates victims => exact kept.oauthStep (kept.oauth.step (.sweep victims) trivial) rfl
  | updateUser request commits =>
    obtain ⟨users, ids, same⟩ := updateUser_frame env.auth w.login request commits
    rw [SignInWorld.step, same]
    exact kept.frame kept.oauth rfl { w.login with db := { w.login.db with users } } rfl ids rfl rfl w.allowlistIdpOrgId
      w.autoProvision
  | writeOrgs orgs allowlistIdpOrgId =>
    exact kept.frame kept.oauth rfl { w.login with db := { w.login.db with orgs } } rfl rfl rfl rfl allowlistIdpOrgId
      w.autoProvision

/-- Where a sign-in comes from in one step. -/
theorem step_flight {e : SignInEvent} {i : Nat} {g : SignIn} (listed : (w.step env e).flights[i]? = some g) :
    w.flights[i]? = some g ∨ g.stage = .exchanging ∨ g.stage = .lost ∨ ∃ answers f, e = .advance i answers ∧
      w.flights[i]? = some f ∧ g = ⟨f.request, (w.resume env f answers).2⟩ := by
  have arrived {q : SignInRequest} (oauth : OAuthWorld) (new : ({ w with oauth }.begin q).flights[i]? = some g) :
      w.flights[i]? = some g ∨ g.stage = .exchanging := by
    rcases List.getElem?_snoc_cases new with before | ⟨-, rfl⟩
    · exact .inl before
    · exact .inr rfl
  cases e with
  | tick seconds => exact .inl listed
  | restart providers autoProvision =>
    rw [SignInWorld.step, List.getElem?_map, Option.map_eq_some_iff] at listed
    obtain ⟨f, before, rfl⟩ := listed
    unfold SignIn.crash
    split
    · exact .inr (.inr (.inl rfl))
    · exact .inr (.inr (.inl rfl))
    · exact .inr (.inr (.inl rfl))
    · exact .inl before
  | login request draws => exact .inl listed
  | callback request later ip userAgent =>
    rw [SignInWorld.step, callback] at listed
    dsimp only at listed
    split at listed
    · exact (arrived _ listed).imp_right .inl
    · exact .inl listed
    · exact .inl listed
  | authCode request ip userAgent =>
    rw [SignInWorld.step, authCode] at listed
    split at listed
    · split at listed
      · split at listed
        · exact (arrived w.oauth listed).imp_right .inl
        · exact .inl listed
      · split at listed
        · exact .inl listed
        · exact (arrived w.oauth listed).imp_right .inl
    · exact .inl listed
  | advance j answers =>
    rw [SignInWorld.step] at listed
    split at listed
    · exact .inl listed
    · rename_i f found
      rcases List.getElem?_set_cases listed with ⟨rfl, rfl⟩ | ⟨-, before⟩
      · exact .inr (.inr (.inr ⟨answers, f, rfl, found, rfl⟩))
      · exact .inl before
  | sweepStates victims => exact .inl listed
  | updateUser request commits => exact .inl listed
  | writeOrgs orgs allowlistIdpOrgId => exact .inl listed

/-- The step after which a sign-in waits for its memberships. -/
theorem step_unlocked {e : SignInEvent} {i : Nat} {request : SignInRequest} {x : ExchangeCodeResult}
    (without : w.flights[i]? ≠ some ⟨request, .matching x⟩)
    (brought : (w.step env e).flights[i]? = some ⟨request, .matching x⟩) :
    ∃ answers, e = .advance i answers ∧ Unlocked env w i request x answers := by
  rcases step_flight brought with before | fresh | lost | ⟨answers, f, rfl, found, same⟩
  · exact absurd before without
  · cases fresh
  · cases lost
  · obtain ⟨rfl, arrived⟩ := SignIn.mk.inj same
    have move := resume_move env w f answers
    rw [← arrived] at move
    refine ⟨answers, rfl, ?_⟩
    revert move
    generalize (w.resume env f answers).1 = after
    generalize reached : SignInStage.matching x = stage
    intro move
    cases move with
    | settled => exact absurd (by rw [found, reached]) without
    | ended limiter audits stage pending past sessionless userless =>
      subst reached
      cases past
    | unlocked y waiting answered unlocked =>
      cases reached
      refine ⟨?_, answered, unlocked⟩
      rw [found, ← waiting]
    | admitted y memberships allowlistOrg login result waiting asked served => cases reached
    | inserted y mint tokens waiting added => cases reached

/-- The step after which a sign-in holds a user. -/
theorem step_admitted {e : SignInEvent} {i : Nat} {request : SignInRequest} {x : ExchangeCodeResult} {mint : SessionMint}
    (without : ¬ ∃ stage, w.flights[i]? = some ⟨request, stage⟩ ∧ stage.held = some (x, mint))
    (brought : ∃ stage, (w.step env e).flights[i]? = some ⟨request, stage⟩ ∧ stage.held = some (x, mint)) :
    ∃ answers allowlistOrg, e = .advance i answers ∧ Admitted env w i request x answers allowlistOrg mint := by
  obtain ⟨stage, listed, holds⟩ := brought
  rcases step_flight listed with before | fresh | lost | ⟨answers, f, rfl, found, same⟩
  · exact absurd ⟨stage, before, holds⟩ without
  · change stage = _ at fresh
    subst fresh
    cases holds
  · change stage = _ at lost
    subst lost
    cases holds
  · obtain ⟨rfl, arrived⟩ := SignIn.mk.inj same
    have move := resume_move env w f answers
    rw [← arrived] at move
    refine ⟨answers, ?_⟩
    revert move
    generalize (w.resume env f answers).1 = after
    intro move
    cases move with
    | settled => exact absurd ⟨f.stage, found, holds⟩ without
    | ended limiter audits stage pending past sessionless userless =>
      rw [SignInStage.held_of_isOver past] at holds
      cases holds
    | unlocked y waiting answered unlocked => cases holds
    | admitted y memberships allowlistOrg login result waiting asked served =>
      cases holds
      refine ⟨allowlistOrg, rfl, ?_, ⟨memberships, asked⟩, ?_, ?_, rfl⟩
      · rw [found, ← waiting]
      · rcases gate_provisioned served with ⟨user, known, -, rfl⟩ | ⟨unknown, allowed, users, made, -, rfl⟩
        · exact .inl ⟨user, known, rfl⟩
        · exact .inr ⟨unknown, allowed, rfl, rfl⟩
      · rcases gate_provisioned served with ⟨user, known, rfl, -⟩ | ⟨unknown, allowed, users, made, rfl, -⟩
        · rfl
        · rfl
    | inserted y n tokens waiting added =>
      cases holds
      exact absurd ⟨f.stage, found, by rw [waiting]; rfl⟩ without

/-- A sign-in that holds a user has passed the lockout, and the allowlist after it. -/
theorem passed_of_held {start : SignInWorld} (idle : start.flights = []) {events : List SignInEvent} {i : Nat}
    {request : SignInRequest} {x : ExchangeCodeResult} {mint : SessionMint}
    (reached : ∃ stage, (events.foldl (step env) start).flights[i]? = some ⟨request, stage⟩ ∧
      stage.held = some (x, mint)) : Passed env start events i request x mint := by
  obtain ⟨earlier, e, rest, rfl, without, brought⟩ := GuardedRun.exists_turn
    (P := fun w : SignInWorld => ∃ stage, w.flights[i]? = some ⟨request, stage⟩ ∧ stage.held = some (x, mint))
    (by simp [idle]) reached
  obtain ⟨second, allowlistOrg, rfl, admitted⟩ := step_admitted without brought
  obtain ⟨before, e, between, rfl, without', brought'⟩ := GuardedRun.exists_turn
    (P := fun w : SignInWorld => w.flights[i]? = some ⟨request, .matching x⟩) (by simp [idle]) admitted.flight
  obtain ⟨first, rfl, unlocked⟩ := step_unlocked without' brought'
  exact ⟨before, between, rest, first, second, allowlistOrg, by simp, unlocked, admitted⟩

theorem Kept.exchange_mem (kept : Kept env w) {f : SignIn} (inFlights : f ∈ w.flights) {x : Exchange}
    (browser : f.request.channel = .browser x) : x ∈ w.oauth.exchanges := by
  rw [← kept.callbacks, List.mem_filterMap]
  exact ⟨f.request, List.mem_map_of_mem inFlights, by rw [browser]; rfl⟩

/-- A state is exchanged for one sign-in at most. -/
theorem Kept.once (kept : Kept env w) (i j : Nat) (f g : SignIn) (x y : Exchange) (here : w.flights[i]? = some f)
    (there : w.flights[j]? = some g) (browser : f.request.channel = .browser x) (browser' : g.request.channel = .browser y)
    (same : x.state = y.state) : i = j := by
  have apart : w.flights.Pairwise fun f g => ∀ x, f.request.channel.exchange? = some x →
      ∀ y, g.request.channel.exchange? = some y → x.state ≠ y.state := by
    have distinct : (w.oauth.exchanges.map Exchange.state).Pairwise (· ≠ ·) := kept.oauth.once.sublist kept.oauth.exchanged
    rwa [List.pairwise_map, ← kept.callbacks, List.pairwise_filterMap, List.pairwise_map] at distinct
  rw [List.pairwise_iff_getElem] at apart
  obtain ⟨inBounds, rfl⟩ := List.getElem?_eq_some_iff.mp here
  obtain ⟨inBounds', rfl⟩ := List.getElem?_eq_some_iff.mp there
  rcases Nat.lt_trichotomy i j with before | rfl | after
  · exact absurd same (apart i j inBounds inBounds' before x (by rw [browser]; rfl) y (by rw [browser']; rfl))
  · rfl
  · exact absurd same.symm (apart j i inBounds' inBounds after y (by rw [browser']; rfl) x (by rw [browser]; rfl))

/-- A user has one identity, and an identity has one user. -/
theorem Kept.identity (kept : Kept env w) {i j : Nat} {f g : SignIn} {x y : ExchangeCodeResult} {m n : SessionMint}
    (here : w.flights[i]? = some f) (there : w.flights[j]? = some g) (holds : f.stage.held = some (x, m))
    (holds' : g.stage.held = some (y, n)) : m.user.userId = n.user.userId ↔
      f.request.provider = g.request.provider ∧ x.user.idpUserId = y.user.idpUserId := by
  obtain ⟨a, inAccounts, named, byProvider, byUser⟩ := kept.owned i f x m here holds
  obtain ⟨b, inAccounts', named', byProvider', byUser'⟩ := kept.owned j g y n there holds'
  have ids : (w.login.accounts.map Account.userId).Nodup := kept.users ▸ w.login.db.users.keyed
  constructor
  · intro same
    have one := List.inj_on_of_nodup_map ids inAccounts inAccounts' (named.trans (same.trans named'.symm))
    subst one
    exact ⟨byProvider.symm.trans byProvider', byUser.symm.trans byUser'⟩
  · intro same
    obtain ⟨sameProvider, sameUser⟩ := same
    have one := List.inj_on_of_nodup_map kept.identities inAccounts inAccounts'
      (Prod.ext (byProvider.trans (sameProvider.trans byProvider'.symm)) (byUser.trans (sameUser.trans byUser'.symm)))
    subst one
    exact named.symm.trans named'

theorem Kept.laws (kept : Kept env w) (keyed : Function.Injective env.oauth.bindState) {start : SignInWorld}
    {events : List SignInEvent} (idle : start.flights = []) (reached : events.foldl (SignInWorld.step env) start = w) :
    SignInLaws env start events w where
  passed i request x mint listed := passed_of_held idle (reached ▸ ⟨_, listed, rfl⟩)
  bound f inFlights x browser :=
    have inExchanges := kept.exchange_mem inFlights browser
    have flow := kept.oauth.flow keyed
    ⟨flow.origin x inExchanges, flow.binding x inExchanges⟩
  once := kept.once
  identity f inFlights g inFlights' x y m n done done' := by
    obtain ⟨i, here⟩ := List.getElem?_of_mem inFlights
    obtain ⟨j, there⟩ := List.getElem?_of_mem inFlights'
    exact kept.identity here there (by rw [done]; rfl) (by rw [done']; rfl)
  rows r := by
    rw [kept.rows]
    constructor
    · rintro ⟨i, f, x, mint, listed, done, rfl⟩
      exact ⟨f, List.mem_of_getElem? listed, x, mint, done, rfl⟩
    · rintro ⟨f, inFlights, x, mint, done, rfl⟩
      obtain ⟨i, listed⟩ := List.getElem?_of_mem inFlights
      exact ⟨i, f, x, mint, listed, done, rfl⟩
  distinct i j f g x y m n here there done done' same :=
    kept.distinct i j f g x y m n here there (by rw [done]; rfl) (by rw [done']; rfl) same
  logged := kept.logged
  created := kept.created

end

/-- The sign-ins of a server from its first start on, over every order in which
browsers, grants, the providers' answers, the admins and restarts come. -/
theorem sign_ins_lawful (env : SignInEnv) (keyed : Function.Injective env.oauth.bindState)
    (orgs : Table AllowlistOrg AllowlistOrg.id) (allowlistIdpOrgId : String → Option String)
    (autoProvision : Option String) (clock : Int) (providers : List String) (events : List SignInEvent)
    (fresh : GuardedRun.Meets (step env) Fresh (boot orgs allowlistIdpOrgId autoProvision clock providers) events) :
    SignInLaws env (boot orgs allowlistIdpOrgId autoProvision clock providers) events
      (events.foldl (step env) (boot orgs allowlistIdpOrgId autoProvision clock providers)) :=
  ((GuardedRun.of_meets fresh).invariant (fun _ e kept allowed => kept.step e allowed)
    (Kept.boot env orgs allowlistIdpOrgId autoProvision clock providers)).laws keyed rfl rfl

/-- One org, which lets in its members. -/
def sampleSignInEnv : SignInEnv where
  oauth := OAuthWorld.sampleOAuthEnv
  auth := LoginWorld.sealingContext
  allowlistStrategy := fun _ => none
  hashIdentifier identifier := "lockout#" ++ identifier
  hashIdpUserId id := "user#" ++ id
  sha256 text := "sha#" ++ text
  toLowerCase := String.toLower

def adasCode : ExchangeCodeResult :=
  ⟨⟨⟨"1815", "ada@acme.example", none⟩, none, none⟩, "gho_1", none⟩

def adasAnswers : SignInAnswers := ⟨.ok adasCode, .ok ["acme"], "ada", true⟩

/-- A browser signs in, and then the same user with a code of its own. -/
def adasSignIns : List SignInEvent :=
  [.login ⟨some "10.0.0.1", none⟩ ⟨"s1", "v1", "n1"⟩, .tick 30,
    .callback ⟨some "s1", some "c1", none, none, some "hmac:s1"⟩ 30 (some "10.0.0.1") (some "browser"),
    .authCode ⟨some "c2", some "http://localhost/done", none, none⟩ (some "10.0.0.1") (some "cli"),
    .advance 1 adasAnswers, .advance 0 adasAnswers, .advance 0 adasAnswers, .advance 1 adasAnswers, .advance 1 adasAnswers,
    .advance 0 adasAnswers]

theorem sign_ins_lawful_twice :
    let start := boot (.single AllowlistOrg.id ⟨"o1", "Acme", some "acme"⟩) (fun _ => none) none 0 ["github"]
    ((adasSignIns.foldl (step sampleSignInEnv) start).login.db.refreshTokens.rows.map RefreshRow.session =
        [("ada", "o1", some 3), ("ada", "o1", some 0)]) ∧
      SignInLaws sampleSignInEnv start adasSignIns (adasSignIns.foldl (step sampleSignInEnv) start) :=
  ⟨by decide +kernel, sign_ins_lawful sampleSignInEnv (fun _ _ same => String.append_right_inj _ |>.mp same) _ _ _ _ _ _
    (by decide +kernel)⟩

end SignInWorld

end Coordinator
