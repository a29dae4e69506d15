import Coordinator.SignIn

namespace Coordinator

/-- What a sign-in holds once its user is provisioned. -/
def SignInStage.held : SignInStage → Option (ExchangeCodeResult × SessionMint)
  | .minting x mint | .signedIn x mint => some (x, mint)
  | _ => none

def SignInStage.isOver : SignInStage → Bool
  | .refused _ | .thrown | .lost => true
  | _ => false

theorem SignInStage.held_of_isOver {stage : SignInStage} (past : stage.isOver = true) : stage.held = none := by
  cases stage with
  | exchanging => rfl
  | matching => rfl
  | minting => cases past
  | signedIn => cases past
  | refused => rfl
  | thrown => rfl
  | lost => rfl

def SignInChannel.exchange? : SignInChannel → Option Exchange
  | .browser exchange => some exchange
  | .authCode _ _ _ => none

/-- The user that an entry says was made. -/
def SignInAudit.created? : SignInAudit → Option String
  | .userCreated userId _ _ => some userId
  | _ => none

/-- The session that an entry says was opened. -/
def SignInAudit.session? : SignInAudit → Option (String × String × Option Nat)
  | .loginSuccess userId orgId familyId => some (userId, orgId, some familyId)
  | _ => none

def RefreshRow.session (r : RefreshRow) : String × String × Option Nat := (r.userId, r.orgId, r.familyId)

namespace SignInWorld
variable {env : SignInEnv} {w : SignInWorld}

/-- What the transaction of a login did to the users. -/
theorem gate_provisioned {ctx : AuthHandlerContext} {autoProvision : Option String} {l login : LoginWorld}
    {args : ProvisionUserArgs} {userId : String} {result : ProvisionResult}
    (served : l.provisionUserWithAutoProvisionGate ctx autoProvision args userId = (login, .provisioned result)) :
    (∃ user, l.existing args = some user ∧ login = (l.provisionReturning ctx args user).1 ∧
      result = ⟨user.id, user.primaryOrgId, user.role, false, false⟩) ∨
    (l.existing args = none ∧ (autoProvisionSetting autoProvision).toLower ≠ "false" ∧
      ∃ users, l.db.users.insert (l.newUser ctx args userId) = some users ∧ login = { l with
        db := { l.db with users }
        accounts := l.accounts ++
          [⟨userId, args.providerName, args.idpUser.idpUserId, args.idpUser.email, args.idpUser.name, l.db.clock⟩]
        userOrgs := l.userOrgs ++ [⟨userId, args.allowlistOrg.orgId, l.bootstrapRole userId, l.db.clock⟩] } ∧
      result = ⟨userId, args.allowlistOrg.orgId, some (if l.bootstrapRole userId = .admin then "admin" else "member"), true,
        l.bootstrapRole userId = .admin⟩) := by
  unfold LoginWorld.provisionUserWithAutoProvisionGate LoginWorld.provisionUser at served
  dsimp only at served
  split at served
  · cases served
  · rename_i allowed
    cases known : l.existing args with
    | some user =>
      simp only [known] at served
      cases served
      exact .inl ⟨user, rfl, rfl, rfl⟩
    | none =>
      simp only [known] at served
      cases inserted : l.db.users.insert (l.newUser ctx args userId) with
      | none =>
        simp only [inserted, Option.map_none] at served
        cases served
      | some users =>
        simp only [inserted, Option.map_some] at served
        cases served
        exact .inr ⟨rfl, fun closed => allowed ⟨closed, known⟩, users, rfl, rfl, rfl⟩

/-- What a sign-in does from one `await` to the next. -/
inductive Move (env : SignInEnv) (w : SignInWorld) (f : SignIn) (answers : SignInAnswers) :
    SignInWorld → SignInStage → Prop
  | settled : Move env w f answers w f.stage
  | ended (limiter : RateLimiter) (audits : List SignInAudit) (stage : SignInStage) :
    (∀ x mint, f.stage ≠ .signedIn x mint) → stage.isOver = true → audits.filterMap SignInAudit.session? = [] →
    audits.filterMap SignInAudit.created? = [] →
    Move env w f answers ({ w with oauth := { w.oauth with limiter } }.log audits) stage
  | unlocked (x : ExchangeCodeResult) : f.stage = .exchanging → answers.exchangeCode = .ok x →
    (isLocked (env.hashIdentifier (lockoutIdentifier x.user f.request.ip)) {} w.oauth.clock w.oauth.limiter).locked =
      false →
    Move env w f answers w (.matching x)
  | admitted (x : ExchangeCodeResult) (memberships : List String) (allowlistOrg : AllowlistMatch) (login : LoginWorld)
    (result : ProvisionResult) : f.stage = .matching x →
    w.matchAllowlist env f.request.provider x.user answers.getMemberships = .ok (memberships, some allowlistOrg) →
    w.login.provisionUserWithAutoProvisionGate env.auth w.autoProvision
      (provisionArgs f.request.provider x allowlistOrg) answers.userId = (login, .provisioned result) →
    Move env w f answers (beginMint env ({ w with login }.log (provisionAudits result)) f.request result).1
      (.minting x (beginMint env ({ w with login }.log (provisionAudits result)) f.request result).2)
  | inserted (x : ExchangeCodeResult) (mint : SessionMint) (tokens : RefreshTokens) : f.stage = .minting x mint →
    w.login.db.refreshTokens.insert mint.row = some tokens →
    Move env w f answers ({ w with login := { w.login with db := w.login.db.setTokens tokens } }.log [mint.audit])
      (.signedIn x mint)

/-- A sign-in that stops without a word, or with audit entries about no session and no user. -/
theorem Move.stopped {f : SignIn} {answers : SignInAnswers} {stage : SignInStage} (audits : List SignInAudit)
    (pending : ∀ x mint, f.stage ≠ .signedIn x mint) (past : stage.isOver = true)
    (sessionless : audits.filterMap SignInAudit.session? = []) (userless : audits.filterMap SignInAudit.created? = []) :
    Move env w f answers (w.log audits) stage := .ended w.oauth.limiter audits stage pending past sessionless userless

theorem log_nil (w : SignInWorld) : w.log [] = w := by
  rw [log, List.append_nil]

theorem exchanged_move (f : SignIn) (answers : SignInAnswers) (waiting : f.stage = .exchanging) :
    Move env w f answers (w.exchanged env f.request answers.exchangeCode).1
      (w.exchanged env f.request answers.exchangeCode).2 := by
  have pending : ∀ x mint, f.stage ≠ .signedIn x mint := by
    rw [waiting]
    nofun
  have quiet (stage : SignInStage) (past : stage.isOver = true) : Move env w f answers w stage := by
    simpa only [log_nil] using (Move.stopped [] pending past rfl rfl : Move env w f answers (w.log []) stage)
  cases answered : answers.exchangeCode with
  | error failure =>
    cases failure with
    | tokenRevoked => exact .stopped [_] pending rfl rfl rfl
    | transient => exact quiet _ rfl
    | other => exact quiet _ rfl
  | ok x =>
    simp only [exchanged]
    split
    · exact .stopped [_] pending rfl rfl rfl
    · rename_i unlocked
      exact .unlocked x waiting answered (Bool.eq_false_iff.mpr unlocked)

theorem matched_move (f : SignIn) (answers : SignInAnswers) (x : ExchangeCodeResult) (waiting : f.stage = .matching x) :
    Move env w f answers (w.matched env f.request x answers).1 (w.matched env f.request x answers).2 := by
  have pending : ∀ x mint, f.stage ≠ .signedIn x mint := by
    rw [waiting]
    nofun
  have quiet (stage : SignInStage) (past : stage.isOver = true) : Move env w f answers w stage := by
    simpa only [log_nil] using (Move.stopped [] pending past rfl rfl : Move env w f answers (w.log []) stage)
  unfold matched
  cases asked : w.matchAllowlist env f.request.provider x.user answers.getMemberships with
  | error failure =>
    cases failure with
    | tokenRevoked => exact .stopped [_] pending rfl rfl rfl
    | transient => exact quiet _ rfl
    | other => exact quiet _ rfl
  | ok found =>
    obtain ⟨memberships, found⟩ := found
    cases found with
    | none => exact .ended _ [_] _ pending rfl rfl rfl
    | some allowlistOrg =>
      simp only [provision]
      cases served : w.login.provisionUserWithAutoProvisionGate env.auth w.autoProvision
          (provisionArgs f.request.provider x allowlistOrg) answers.userId with
      | mk login reply =>
        cases reply with
        | denied code => exact .stopped [_] pending rfl rfl rfl
        | thrown => exact quiet _ rfl
        | provisioned result => exact .admitted x memberships allowlistOrg login result waiting asked served

theorem resume_move (env : SignInEnv) (w : SignInWorld) (f : SignIn) (answers : SignInAnswers) :
    Move env w f answers (w.resume env f answers).1 (w.resume env f answers).2 := by
  unfold resume
  split
  · rename_i waiting
    exact exchanged_move f answers waiting
  · rename_i x waiting
    exact matched_move f answers x waiting
  · rename_i x mint waiting
    have pending : ∀ x mint, f.stage ≠ .signedIn x mint := by
      rw [waiting]
      nofun
    have thrown : Move env w f answers w .thrown := by
      simpa only [log_nil] using (Move.stopped [] pending rfl rfl rfl : Move env w f answers (w.log []) .thrown)
    unfold minted
    split
    · cases inserted : w.login.db.refreshTokens.insert mint.row with
      | none => exact thrown
      | some tokens => exact .inserted x mint tokens waiting inserted
    · exact thrown
  · exact .settled

/-- What a login that is let in does to the accounts. -/
structure Welcomed (l login : LoginWorld) (provider idpUserId : String) (result : ProvisionResult) : Prop where
  users : login.accounts.map Account.userId = login.db.users.rows.map User.id
  identities : (login.accounts.map fun a => (a.idpProvider, a.idpUserId)).Nodup
  kept : ∀ a ∈ l.accounts, ∃ b ∈ login.accounts, b.userId = a.userId ∧ b.idpProvider = a.idpProvider ∧
    b.idpUserId = a.idpUserId
  mine : ∃ a ∈ login.accounts, a.userId = result.userId ∧ a.idpProvider = provider ∧ a.idpUserId = idpUserId
  tokens : login.db.refreshTokens = l.db.refreshTokens
  draws : login.db.draws = l.db.draws
  created : login.accounts.map Account.userId =
    l.accounts.map Account.userId ++ (provisionAudits result).filterMap SignInAudit.created?

/-- An account that is missing for an identity is missing among the users too. -/
theorem existing_eq_none {l : LoginWorld} {args : ProvisionUserArgs}
    (users : l.accounts.map Account.userId = l.db.users.rows.map User.id) (unknown : l.existing args = none) :
    ∀ a ∈ l.accounts, ¬ (a.idpProvider = args.providerName ∧ a.idpUserId = args.idpUser.idpUserId) := by
  intro a inAccounts same
  have found : (l.accounts.find? fun a =>
      a.idpProvider = args.providerName && a.idpUserId = args.idpUser.idpUserId).isSome := by
    rw [List.find?_isSome]
    exact ⟨a, inAccounts, by simp [same]⟩
  obtain ⟨b, isB⟩ := Option.isSome_iff_exists.mp found
  have listed : b.userId ∈ l.db.users.rows.map User.id :=
    users ▸ List.mem_map_of_mem (List.mem_of_find?_eq_some isB)
  obtain ⟨user, inRows, named⟩ := List.mem_map.mp listed
  rw [LoginWorld.existing, isB, Option.bind_some, Table.find_eq_none] at unknown
  exact unknown user inRows named

theorem Welcomed.returning {ctx : AuthHandlerContext} {l : LoginWorld} {args : ProvisionUserArgs} {user : User}
    (users : l.accounts.map Account.userId = l.db.users.rows.map User.id)
    (identities : (l.accounts.map fun a => (a.idpProvider, a.idpUserId)).Nodup) (known : l.existing args = some user) :
    Welcomed l (l.provisionReturning ctx args user).1 args.providerName args.idpUser.idpUserId
      ⟨user.id, user.primaryOrgId, user.role, false, false⟩ := by
  let touch (a : Account) : Account := if a.userId = user.id then { a with lastLoginAt := l.db.clock } else a
  have sameId : ∀ a, (touch a).userId = a.userId := by
    intro a
    simp only [touch]
    split <;> rfl
  have sameProvider : ∀ a, (touch a).idpProvider = a.idpProvider := by
    intro a
    simp only [touch]
    split <;> rfl
  have sameIdentity : ∀ a, (touch a).idpUserId = a.idpUserId := by
    intro a
    simp only [touch]
    split <;> rfl
  have ids : (l.accounts.map touch).map Account.userId = l.accounts.map Account.userId := by
    rw [List.map_map]
    exact List.map_congr_left fun a _ => sameId a
  obtain ⟨a, isA, isUser⟩ := Option.bind_eq_some_iff.mp known
  have agrees := List.find?_some isA
  rw [Bool.and_eq_true, decide_eq_true_eq, decide_eq_true_eq] at agrees
  refine ⟨?_, ?_, ?_, ?_, rfl, rfl, ?_⟩
  · refine ids.trans (users.trans ?_)
    simp only [LoginWorld.provisionReturning, Table.update, List.map_map]
    refine List.map_congr_left fun u _ => ?_
    simp only [Function.comp_apply]
    split <;> rfl
  · change ((l.accounts.map touch).map _).Nodup
    rw [List.map_map, List.map_congr_left (g := fun a : Account => (a.idpProvider, a.idpUserId))]
    · exact identities
    · intro b _
      rw [Function.comp_apply, sameProvider, sameIdentity]
  · intro b inAccounts
    exact ⟨touch b, List.mem_map_of_mem inAccounts, sameId b, sameProvider b, sameIdentity b⟩
  · refine ⟨touch a, List.mem_map_of_mem (List.mem_of_find?_eq_some isA), ?_, ?_, ?_⟩
    · exact (sameId a).trans (Table.find_eq_some.mp isUser).2.symm
    · exact (sameProvider a).trans agrees.1
    · exact (sameIdentity a).trans agrees.2
  · exact ids.trans (List.append_nil _).symm

theorem Welcomed.created_new {ctx : AuthHandlerContext} {l : LoginWorld} {args : ProvisionUserArgs} {userId : String}
    {inserted : Table User User.id} {userOrgs : List UserOrg} {role : Option String} {bootstrapAdmin : Bool}
    (users : l.accounts.map Account.userId = l.db.users.rows.map User.id)
    (identities : (l.accounts.map fun a => (a.idpProvider, a.idpUserId)).Nodup) (unknown : l.existing args = none)
    (made : l.db.users.insert (l.newUser ctx args userId) = some inserted) :
    Welcomed l { l with
        db := { l.db with users := inserted }
        accounts := l.accounts ++
          [⟨userId, args.providerName, args.idpUser.idpUserId, args.idpUser.email, args.idpUser.name, l.db.clock⟩]
        userOrgs }
      args.providerName args.idpUser.idpUserId ⟨userId, args.allowlistOrg.orgId, role, true, bootstrapAdmin⟩ where
  users := by
    change (l.accounts ++ [_]).map Account.userId = inserted.rows.map User.id
    rw [Table.insert_rows made, List.map_append, List.map_append, users]
    rfl
  identities := by
    rw [List.map_append]
    refine List.nodup_append.mpr ⟨identities, List.nodup_singleton _, ?_⟩
    intro pair before pair' now same
    obtain ⟨a, inAccounts, rfl⟩ := List.mem_map.mp before
    rw [List.map_cons, List.map_nil, List.mem_singleton] at now
    rw [now, Prod.mk.injEq] at same
    exact existing_eq_none users unknown a inAccounts same
  kept a inAccounts := ⟨a, List.mem_append_left _ inAccounts, rfl, rfl, rfl⟩
  mine := ⟨_, List.mem_append_right _ (List.mem_singleton_self _), rfl, rfl, rfl⟩
  tokens := rfl
  draws := rfl
  created := by
    rw [List.map_append]
    cases bootstrapAdmin <;> rfl

theorem welcomed {ctx : AuthHandlerContext} {autoProvision : Option String} {l login : LoginWorld}
    {args : ProvisionUserArgs} {userId : String} {result : ProvisionResult}
    (users : l.accounts.map Account.userId = l.db.users.rows.map User.id)
    (identities : (l.accounts.map fun a => (a.idpProvider, a.idpUserId)).Nodup)
    (served : l.provisionUserWithAutoProvisionGate ctx autoProvision args userId = (login, .provisioned result)) :
    Welcomed l login args.providerName args.idpUser.idpUserId result := by
  rcases gate_provisioned served with ⟨user, known, rfl, rfl⟩ | ⟨unknown, -, inserted, made, rfl, rfl⟩
  · exact .returning users identities known
  · exact .created_new users identities unknown made

theorem provisionAudits_sessionless (result : ProvisionResult) :
    (provisionAudits result).filterMap SignInAudit.session? = [] := by
  unfold provisionAudits
  cases result.isNew <;> cases result.bootstrapAdmin <;> rfl

/-- The role of a user changes at most. -/
theorem changeRole_frame (l : LoginWorld) (userId newRole : String) :
    ∃ users : Table User User.id, users.rows.map User.id = l.db.users.rows.map User.id ∧
      (l.changeRole userId newRole).1 = { l with db := { l.db with users } } := by
  have same : ∃ users : Table User User.id, users.rows.map User.id = l.db.users.rows.map User.id ∧
      l = { l with db := { l.db with users } } := ⟨l.db.users, rfl, rfl⟩
  unfold LoginWorld.changeRole
  split
  · exact same
  · split
    · exact same
    · split
      · exact same
      · split
        · exact same
        · refine ⟨_, ?_, rfl⟩
          simp only [Table.update, List.map_map]
          refine List.map_congr_left fun u _ => ?_
          simp only [Function.comp_apply]
          split <;> rfl

theorem updateUser_frame (ctx : AuthHandlerContext) (l : LoginWorld) (request : UpdateUserRequest) (commits : Bool) :
    ∃ users : Table User User.id, users.rows.map User.id = l.db.users.rows.map User.id ∧
      (l.serveCall ctx (.updateUser request commits)).1 = { l with db := { l.db with users } } := by
  have same : ∃ users : Table User User.id, users.rows.map User.id = l.db.users.rows.map User.id ∧
      l = { l with db := { l.db with users } } := ⟨l.db.users, rfl, rfl⟩
  have handled : ∃ users : Table User User.id, users.rows.map User.id = l.db.users.rows.map User.id ∧
      (l.handleUpdateUser request).1 = { l with db := { l.db with users } } := by
    unfold LoginWorld.handleUpdateUser
    split
    · exact same
    · exact same
    · split
      · exact same
      · split
        · exact same
        · split
          · exact same
          · split
            · exact same
            · split
              · exact same
              · exact same
              · split
                · exact same
                · exact same
                · exact changeRole_frame l _ _
  cases commits with
  | false => exact same
  | true => exact handled

end SignInWorld

end Coordinator
