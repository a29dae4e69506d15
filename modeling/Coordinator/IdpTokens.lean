import Coordinator.Library.GuardedRun
import Coordinator.Library.JsonObject
import Coordinator.RefreshRotation

namespace Coordinator

/-- The columns of `users` that the refresh path does not read. -/
structure Account where
  userId : String
  idpProvider : String
  idpUserId : String
  email : String
  name : Option String
  lastLoginAt : Int
  deriving DecidableEq, Repr

structure UserOrg where
  userId : String
  orgId : String
  role : Role
  joinedAt : Int
  deriving DecidableEq, Repr

/-- The user as the identity provider describes it. -/
structure IdpUser where
  idpUserId : String
  email : String
  name : Option String
  deriving DecidableEq, Repr

structure ProvisionUserArgs where
  idpUser : IdpUser
  accessToken : String
  allowlistOrg : AllowlistMatch
  providerName : String
  idpRefreshToken : Option String
  deriving DecidableEq, Repr

structure ProvisionResult where
  userId : String
  primaryOrgId : String
  role : Option String
  isNew : Bool
  bootstrapAdmin : Bool
  deriving DecidableEq, Repr

/-- The database, with the refresh requests that hold a user's decrypted provider tokens. -/
structure LoginWorld where
  db : AuthDb
  accounts : List Account
  userOrgs : List UserOrg
  checks : List MembershipCheck

/-- `userId` is the UUID drawn for a new user. -/
inductive LoginEvent
  | tick (seconds : Int)
  | provisionUser (args : ProvisionUserArgs) (userId : String)
  | checkMembership (row : RefreshRow)
  | storeRefreshed (i : Nat) (refreshed : IdpRefreshResult)
  deriving DecidableEq, Repr

/-- An AEAD that opens a cell under the context it was sealed with and under no other. -/
structure AuthHandlerContext.IdealAead (ctx : AuthHandlerContext) : Prop where
  opens : ∀ context value, ctx.decrypt context (ctx.encrypt context value) = .ok value
  binds : ∀ context context' value, context ≠ context' →
    ctx.decrypt context' (ctx.encrypt context value) = .error .undecryptable

namespace LoginWorld

def started (orgs : Table AllowlistOrg AllowlistOrg.id) (clock : Int) : LoginWorld where
  db := { clock := clock, draws := 0, users := .empty, orgs := orgs, refreshTokens := .empty, epochFloor := fun _ => 0 }
  accounts := []
  userOrgs := []
  checks := []

/-- `SELECT … WHERE idp_provider = ? AND idp_user_id = ?`. -/
def existing (w : LoginWorld) (args : ProvisionUserArgs) : Option User :=
  (w.accounts.find? fun a => a.idpProvider = args.providerName && a.idpUserId = args.idpUser.idpUserId).bind
    fun a => w.db.users.find a.userId

/-- The two cells of a login, sealed for the org that the login matched. -/
def sealed (ctx : AuthHandlerContext) (args : ProvisionUserArgs) (userId : String) : Option String × Option String :=
  (encryptNullable ctx ⟨args.allowlistOrg.orgId, .idpAccessToken, userId⟩ args.accessToken,
    encryptNullable ctx ⟨args.allowlistOrg.orgId, .idpRefreshToken, userId⟩ args.idpRefreshToken)

def provisionReturning (ctx : AuthHandlerContext) (w : LoginWorld) (args : ProvisionUserArgs) (user : User) :
    LoginWorld × ProvisionResult :=
  let (access, refresh) := sealed ctx args user.id
  ({ w with
      db := { w.db with users :=
        w.db.users.update (fun u => u.id = user.id) (User.storeIdpTokens access refresh) (User.storeIdpTokens_id access refresh) }
      accounts := w.accounts.map fun a => if a.userId = user.id then { a with lastLoginAt := w.db.clock } else a },
    ⟨user.id, user.primaryOrgId, user.role, false, false⟩)

/-- The first user becomes the admin. -/
def bootstrapRole (w : LoginWorld) (userId : String) : Role :=
  if w.db.users.rows.any fun u => u.role = some "admin" && u.id ≠ userId then .member else .admin

def newUser (ctx : AuthHandlerContext) (w : LoginWorld) (args : ProvisionUserArgs) (userId : String) : User where
  id := userId
  primaryOrgId := args.allowlistOrg.orgId
  role := some (if w.bootstrapRole userId = .admin then "admin" else "member")
  idpProvider := args.providerName
  idpAccessToken := (sealed ctx args userId).1
  idpRefreshToken := (sealed ctx args userId).2
  tokenEpoch := 0

/-- `none` where an INSERT throws and the transaction is rolled back. -/
def provisionUser (ctx : AuthHandlerContext) (w : LoginWorld) (args : ProvisionUserArgs) (userId : String) :
    Option (LoginWorld × ProvisionResult) :=
  match w.existing args with
  | some user => some (w.provisionReturning ctx args user)
  | none =>
    (w.db.users.insert (w.newUser ctx args userId)).map fun users =>
      let role := w.bootstrapRole userId
      ({ w with
          db := { w.db with users := users }
          accounts := w.accounts ++
            [⟨userId, args.providerName, args.idpUser.idpUserId, args.idpUser.email, args.idpUser.name, w.db.clock⟩]
          userOrgs := w.userOrgs ++ [⟨userId, args.allowlistOrg.orgId, role, w.db.clock⟩] },
        ⟨userId, args.allowlistOrg.orgId, some (if role = .admin then "admin" else "member"), true, role = .admin⟩)

def step (ctx : AuthHandlerContext) (w : LoginWorld) : LoginEvent → LoginWorld
  | .tick seconds => { w with db := w.db.wait seconds }
  | .provisionUser args userId => ((w.provisionUser ctx args userId).map Prod.fst).getD w
  | .checkMembership row =>
    let (db, stage) := refreshIdpMembershipAndAllowlist ctx w.db row w.db.clock
    match stage with
    | .gettingMemberships check => { w with db := db, checks := w.checks ++ [check] }
    | _ => { w with db := db }
  | .storeRefreshed i refreshed =>
    match w.checks[i]? with
    | none => w
    | some check =>
      if check.refreshToken.isSome ∧ check.provider.refreshIdpToken then
        { w with db := Coordinator.storeRefreshed ctx w.db check refreshed }
      else w

/-- The cells of a user open under the contexts that the refresh path builds. -/
def Readable (ctx : AuthHandlerContext) (u : User) : Prop :=
  (decryptNullable ctx ⟨u.primaryOrgId, .idpAccessToken, u.id⟩ u.idpAccessToken).isOk = true ∧
    (decryptNullable ctx ⟨u.primaryOrgId, .idpRefreshToken, u.id⟩ u.idpRefreshToken).isOk = true

def TokensReadable (ctx : AuthHandlerContext) (w : LoginWorld) : Prop := ∀ u ∈ w.db.users.rows, Readable ctx u

/-- A returning user matched the org it first signed in with, or the login brought no token. -/
def MatchesPrimary (w : LoginWorld) : LoginEvent → Prop
  | .provisionUser args _ => ∀ user ∈ w.existing args,
      args.allowlistOrg.orgId = user.primaryOrgId ∨ args.accessToken = "" ∧ args.idpRefreshToken.getD "" = ""
  | _ => True

instance MatchesPrimary.decidable (w : LoginWorld) : (event : LoginEvent) → Decidable (w.MatchesPrimary event)
  | .tick _ => .isTrue trivial
  | .provisionUser args _ => inferInstanceAs (Decidable (∀ user ∈ w.existing args, _))
  | .checkMembership _ => .isTrue trivial
  | .storeRefreshed _ _ => .isTrue trivial

variable {ctx : AuthHandlerContext} {w : LoginWorld}

/-- What was sealed for one context is read under another only when there was nothing to seal. -/
theorem decryptNullable_encryptNullable (aead : ctx.IdealAead) (context context' : EncryptionContext)
    (value : Option String) : (decryptNullable ctx context' (encryptNullable ctx context value)).isOk = true ↔
      context = context' ∨ value.getD "" = "" := by
  cases value with
  | none => exact iff_of_true rfl (.inr rfl)
  | some text =>
    rw [encryptNullable]
    split
    · rename_i empty
      exact iff_of_true rfl (.inr empty)
    · rename_i filled
      by_cases same : context = context'
      · rw [same, decryptNullable, aead.opens]
        exact iff_of_true rfl (.inl rfl)
      · rw [decryptNullable, aead.binds context context' text same]
        exact iff_of_false (fun ok => by cases ok) (by simp [same, filled])

theorem readable_iff (aead : ctx.IdealAead) (u : User) (orgId : String) (access refresh : Option String) :
    Readable ctx (u.storeIdpTokens (encryptNullable ctx ⟨orgId, .idpAccessToken, u.id⟩ access)
        (encryptNullable ctx ⟨orgId, .idpRefreshToken, u.id⟩ refresh)) ↔
      orgId = u.primaryOrgId ∨ access.getD "" = "" ∧ refresh.getD "" = "" := by
  rw [Readable, User.storeIdpTokens, decryptNullable_encryptNullable aead, decryptNullable_encryptNullable aead]
  simp only [EncryptionContext.mk.injEq, and_true]
  exact or_and_left.symm

/-- Every user can be read, and a refresh request in flight knows its user's org. -/
structure Kept (ctx : AuthHandlerContext) (w : LoginWorld) : Prop where
  readable : TokensReadable ctx w
  checks : ∀ check ∈ w.checks, (w.db.users.find check.row.userId).map User.primaryOrgId = some check.user.primaryOrgId

/-- New tokens are stored for one user. -/
theorem Kept.store (kept : Kept ctx w) {w' : LoginWorld} (userId : String) {access refresh : Option String}
    (users : w'.db.users = w.db.users.update (fun u => u.id = userId) (User.storeIdpTokens access refresh)
      (User.storeIdpTokens_id access refresh)) (checks : w'.checks = w.checks)
    (readable : ∀ u ∈ w.db.users.rows, u.id = userId → Readable ctx (u.storeIdpTokens access refresh)) :
    Kept ctx w' where
  readable u member := by
    rw [users, Table.mem_update] at member
    obtain ⟨u, listed, rfl⟩ := member
    split
    · rename_i same
      exact readable u listed (of_decide_eq_true same)
    · exact kept.readable u listed
  checks check listed := by
    rw [users, Table.find_update]
    rw [checks] at listed
    have known := kept.checks check listed
    cases found : w.db.users.find check.row.userId with
    | none =>
      rw [found] at known
      cases known
    | some u =>
      rw [found] at known
      rw [← known, Option.map_some, Option.map_some, Option.map_some]
      split <;> rfl

theorem Kept.returning (kept : Kept ctx w) (aead : ctx.IdealAead) {args : ProvisionUserArgs} {user : User}
    (member : user ∈ w.db.users.rows)
    (matched : args.allowlistOrg.orgId = user.primaryOrgId ∨ args.accessToken = "" ∧ args.idpRefreshToken.getD "" = "") :
    Kept ctx (w.provisionReturning ctx args user).1 := by
  refine kept.store user.id rfl rfl ?_
  intro u listed same
  obtain rfl : u = user := List.inj_on_of_nodup_map w.db.users.keyed listed member same
  exact (readable_iff aead u args.allowlistOrg.orgId args.accessToken args.idpRefreshToken).mpr matched

theorem Kept.inserted (kept : Kept ctx w) (aead : ctx.IdealAead) {args : ProvisionUserArgs} {userId : String}
    {w' : LoginWorld} (inserted : w.db.users.insert (w.newUser ctx args userId) = some w'.db.users)
    (checks : w'.checks = w.checks) : Kept ctx w' where
  readable u member := by
    rcases (Table.mem_insert inserted).mp member with old | rfl
    · exact kept.readable u old
    · exact (readable_iff aead (w.newUser ctx args userId) args.allowlistOrg.orgId args.accessToken
        args.idpRefreshToken).mpr (.inl rfl)
  checks check listed := by
    rw [checks] at listed
    have known := kept.checks check listed
    rw [Table.find_insert inserted]
    split
    · rename_i same
      have vacant := Table.insert_fresh inserted
      rw [same] at vacant
      rw [vacant] at known
      cases known
    · exact known

theorem Kept.provisionUser (kept : Kept ctx w) (aead : ctx.IdealAead) {args : ProvisionUserArgs} {userId : String}
    (matched : w.MatchesPrimary (.provisionUser args userId)) : Kept ctx (w.step ctx (.provisionUser args userId)) := by
  rw [LoginWorld.step, LoginWorld.provisionUser]
  cases found : w.existing args with
  | some user =>
    rw [existing, Option.bind_eq_some_iff] at found
    obtain ⟨account, listed, row⟩ := found
    refine kept.returning aead (Table.find_eq_some.mp row).1 (matched user ?_)
    rw [existing, Option.mem_def, Option.bind_eq_some_iff]
    exact ⟨account, listed, row⟩
  | none =>
    cases inserted : w.db.users.insert (w.newUser ctx args userId) with
    | none => exact kept
    | some users => exact kept.inserted aead inserted rfl

theorem Kept.epochs (kept : Kept ctx w) (userId : String) : Kept ctx { w with db := bumpTokenEpoch w.db userId } where
  readable u member := by
    change u ∈ (w.db.users.update _ _ (User.bump_id w.db.clock)).rows at member
    rw [Table.mem_update] at member
    obtain ⟨u, listed, rfl⟩ := member
    have readable := kept.readable u listed
    split
    · exact readable
    · exact readable
  checks check listed := by
    have user := kept.checks check listed
    simp only [bumpTokenEpoch, Table.find_update, Option.map_map]
    rw [← user]
    congr 1
    funext u
    simp only [Function.comp_apply]
    split <;> rfl

/-- What a refresh request does up to its first await: it holds the user it looked up, or bumps an epoch. -/
theorem refreshIdpMembershipAndAllowlist_cases (ctx : AuthHandlerContext) (db : AuthDb) (row : RefreshRow) (now : Int) :
    let after := refreshIdpMembershipAndAllowlist ctx db row now
    (after.1 = db ∨ after.1 = bumpTokenEpoch db row.userId) ∧
      ∀ check, after.2 = .gettingMemberships check →
        after.1 = db ∧ check.row = row ∧ db.users.find row.userId = some check.user := by
  intro after
  unfold after refreshIdpMembershipAndAllowlist
  dsimp only
  split
  · exact ⟨.inr rfl, fun _ waiting => by cases waiting⟩
  · exact ⟨.inl rfl, fun _ waiting => by cases waiting⟩
  · split
    · rename_i user accessToken found access
      split
      · split
        · exact ⟨.inl rfl, fun _ waiting => by cases waiting⟩
        · refine ⟨.inl rfl, ?_⟩
          intro check waiting
          obtain rfl := Stage.gettingMemberships.inj waiting
          exact ⟨rfl, rfl, found⟩
      · exact ⟨.inl rfl, fun _ waiting => by cases waiting⟩
    · exact ⟨.inl rfl, fun _ waiting => by cases waiting⟩

theorem Kept.checkMembership (kept : Kept ctx w) (row : RefreshRow) :
    Kept ctx (w.step ctx (.checkMembership row)) := by
  obtain ⟨changes, holds⟩ := refreshIdpMembershipAndAllowlist_cases ctx w.db row w.db.clock
  rw [LoginWorld.step]
  dsimp only
  generalize refreshIdpMembershipAndAllowlist ctx w.db row w.db.clock = after at changes holds ⊢
  obtain ⟨db, stage⟩ := after
  dsimp only at changes holds ⊢
  split
  · rename_i check
    obtain ⟨rfl, rfl, found⟩ := holds check rfl
    refine ⟨kept.readable, ?_⟩
    intro other listed
    rcases List.mem_append.mp listed with old | new
    · exact kept.checks other old
    · obtain rfl := List.mem_singleton.mp new
      rw [found]
      rfl
  · rcases changes with rfl | rfl
    · exact kept
    · exact kept.epochs row.userId

theorem Kept.storeRefreshed (kept : Kept ctx w) (aead : ctx.IdealAead) (i : Nat) (refreshed : IdpRefreshResult) :
    Kept ctx (w.step ctx (.storeRefreshed i refreshed)) := by
  rw [LoginWorld.step]
  split
  · exact kept
  · rename_i check listed
    split
    · refine kept.store check.row.userId rfl rfl ?_
      intro u member same
      have org := kept.checks check (List.mem_of_getElem? listed)
      rw [← same, Table.find_self member, Option.map_some] at org
      rw [← same]
      exact (readable_iff aead u check.user.primaryOrgId refreshed.accessToken
        (refreshed.refreshToken.or check.refreshToken)).mpr (.inl (Option.some.inj org).symm)
    · exact kept

theorem Kept.step (kept : Kept ctx w) (aead : ctx.IdealAead) {event : LoginEvent} (matched : w.MatchesPrimary event) :
    Kept ctx (w.step ctx event) := by
  cases event with
  | tick seconds => exact ⟨kept.readable, kept.checks⟩
  | provisionUser args userId => exact kept.provisionUser aead matched
  | checkMembership row => exact kept.checkMembership row
  | storeRefreshed i refreshed => exact kept.storeRefreshed aead i refreshed

/-- A login after which every user can be read matched the user's org. -/
theorem matchesPrimary_of_readable (aead : ctx.IdealAead) {event : LoginEvent}
    (readable : TokensReadable ctx (w.step ctx event)) : w.MatchesPrimary event := by
  cases event with
  | provisionUser args userId =>
    intro user found
    have stored : (w.step ctx (.provisionUser args userId)) = (w.provisionReturning ctx args user).1 := by
      rw [LoginWorld.step, LoginWorld.provisionUser, show w.existing args = some user from found]
      rfl
    obtain ⟨account, -, row⟩ := Option.bind_eq_some_iff.mp found
    have member : user.storeIdpTokens (sealed ctx args user.id).1 (sealed ctx args user.id).2 ∈
        (w.provisionReturning ctx args user).1.db.users.rows := by
      change _ ∈ (w.db.users.update _ _ (User.storeIdpTokens_id _ _)).rows
      rw [Table.mem_update]
      exact ⟨user, (Table.find_eq_some.mp row).1, if_pos (decide_eq_true rfl)⟩
    rw [stored] at readable
    exact (readable_iff aead user args.allowlistOrg.orgId args.accessToken args.idpRefreshToken).mp (readable _ member)
  | tick => trivial
  | checkMembership => trivial
  | storeRefreshed => trivial

theorem kept_started (ctx : AuthHandlerContext) (orgs : Table AllowlistOrg AllowlistOrg.id) (clock : Int) :
    Kept ctx (started orgs clock) where
  readable _ member := by cases member
  checks _ listed := by cases listed

/-- The refresh path can read what was stored for every user, in every state of
a run, exactly when each returning user matched the org it first signed in with. -/
theorem tokens_readable_iff (ctx : AuthHandlerContext) (aead : ctx.IdealAead) (orgs : Table AllowlistOrg AllowlistOrg.id)
    (clock : Int) (events : List LoginEvent) :
    (∀ done, done <+: events → TokensReadable ctx (done.foldl (step ctx) (started orgs clock))) ↔
      GuardedRun.Meets (step ctx) MatchesPrimary (started orgs clock) events :=
  GuardedRun.Meets.iff_always (kept_started ctx orgs clock) (fun _ kept => kept.readable)
    (fun _ _ kept matched => kept.step aead matched) (fun _ _ _ readable => matchesPrimary_of_readable aead readable)

/-- Writes the context, in front of the text, in a form that no other context begins with. -/
def contextText (context : EncryptionContext) (text : List Char) : List Char :=
  let column := if context.column = .idpAccessToken then 'a' else 'r'
  JsonObject.quoted context.orgId (JsonObject.quoted context.userId (column :: text))

theorem contextText_append (context : EncryptionContext) (text : List Char) :
    contextText context text = contextText context [] ++ text := by
  simp [contextText, JsonObject.quoted]

theorem contextText_cancel {context context' : EncryptionContext} {text text' : List Char}
    (same : contextText context text = contextText context' text') : context = context' := by
  obtain ⟨org, rest⟩ := JsonObject.quoted_cancel same
  obtain ⟨user, rest⟩ := JsonObject.quoted_cancel rest
  obtain ⟨orgId, column, userId⟩ := context
  obtain ⟨orgId', column', userId'⟩ := context'
  obtain ⟨rfl, rfl⟩ := And.intro org user
  have column_eq := (List.cons.inj rest).1
  cases column <;> cases column' <;> simp_all

/-- Seals by writing the context, and opens what begins with it. -/
def sealingContext : AuthHandlerContext where
  decrypt context cell :=
    if contextText context [] <+: cell.toList then
      .ok (String.ofList (cell.toList.drop (contextText context []).length))
    else .error .undecryptable
  encrypt context value := String.ofList (contextText context value.toList)
  providers name := if name = "github" then some ⟨"github", none, true, true⟩ else none
  sessionIdleTimeout _ := ""

theorem sealingContext_ideal : sealingContext.IdealAead where
  opens context value := by
    simp only [sealingContext, String.toList_ofList]
    rw [contextText_append context value.toList, if_pos (List.prefix_append _ _), List.drop_left, String.ofList_toList]
  binds context context' value other := by
    have apart : ¬ contextText context' [] <+: contextText context value.toList := by
      intro opened
      obtain ⟨rest, same⟩ := opened
      rw [← contextText_append] at same
      exact other (contextText_cancel same).symm
    simp only [sealingContext, String.toList_ofList, if_neg apart]

def adasLogin (orgId : String) : ProvisionUserArgs where
  idpUser := ⟨"1", "ada@example.com", none⟩
  accessToken := "gho_1"
  allowlistOrg := ⟨orgId, orgId, orgId⟩
  providerName := "github"
  idpRefreshToken := some "ghr_1"

/-- The row of a refresh token of Ada's. -/
def adasRow : RefreshRow where
  jti := 1
  userId := "ada"
  orgId := "acme"
  familyId := some 0
  parentJti := none
  revokedAt := none
  revokedReason := none
  replayCount := 0
  consumerFingerprint := none
  expiresAt := 0
  lastUsedAt := none

/-- Ada signs in, her provider tokens are refreshed, and she signs in to the same org again. -/
theorem tokens_readable_acme :
    TokensReadable sealingContext (List.foldl (step sealingContext) (started .empty 0)
      [.provisionUser (adasLogin "acme") "ada", .checkMembership adasRow, .storeRefreshed 0 ⟨"gho_2", none⟩,
        .provisionUser (adasLogin "acme") "eve"]) :=
  (tokens_readable_iff sealingContext sealingContext_ideal .empty 0 _).mpr (by decide) _ (List.prefix_refl _)

/-- Ada's second login matches another of her orgs, and the refresh path cannot open what it stores. -/
theorem not_tokens_readable : ¬ ∀ ctx : AuthHandlerContext, ctx.IdealAead → ∀ orgs clock events,
    TokensReadable ctx (List.foldl (step ctx) (started orgs clock) events) := by
  intro readable
  let first := (started .empty 0).step sealingContext (.provisionUser (adasLogin "acme") "ada")
  have stored : TokensReadable sealingContext (first.step sealingContext (.provisionUser (adasLogin "globex") "eve")) :=
    readable sealingContext sealingContext_ideal .empty 0
      [.provisionUser (adasLogin "acme") "ada", .provisionUser (adasLogin "globex") "eve"]
  have matched := matchesPrimary_of_readable sealingContext_ideal stored
  exact absurd matched (by decide)

end LoginWorld

end Coordinator
