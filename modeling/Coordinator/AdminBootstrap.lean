import Coordinator.IdpTokens
import Coordinator.MqttAdmission

namespace Coordinator

inductive ValidationCode
  | invalidRole
  | unknownField
  | emptyBody
  | badId
  deriving DecidableEq, Repr

def ValidationCode.text : ValidationCode → String
  | .invalidRole => "INVALID_ROLE"
  | .unknownField => "UNKNOWN_FIELD"
  | .emptyBody => "EMPTY_BODY"
  | .badId => "BAD_ID"

structure AdminValidationError where
  code : ValidationCode
  field : Option String
  deriving DecidableEq, Repr

def AdminValidationError.message (err : AdminValidationError) : String :=
  match orNull err.field with
  | some field => err.code.text ++ ":" ++ field
  | none => err.code.text

def validatePathParam (value field : String) : Except AdminValidationError String :=
  let allowed (c : Char) : Bool := c.isAlphanum || c = '_' || c = '-'
  if value.toList.all allowed ∧ 1 ≤ value.length ∧ value.length ≤ 64 then .ok value else .error ⟨.badId, some field⟩

/-- A value of a JSON body; the checks only look into texts. -/
inductive BodyValue
  | text (value : String)
  | other
  deriving DecidableEq, Repr

def validateUpdateBody (body : List (String × BodyValue)) (allowedFields : List String) :
    Except AdminValidationError Unit :=
  if body.isEmpty then .error ⟨.emptyBody, none⟩
  else
    match body.find? fun member => ¬ allowedFields.contains member.1 with
    | some unknown => .error ⟨.unknownField, some unknown.1⟩
    | none => .ok ()

def validateRoleField (value : Option BodyValue) (field : String) : Except AdminValidationError String :=
  if value = some (.text "admin") then .ok "admin"
  else if value = some (.text "member") then .ok "member"
  else .error ⟨.invalidRole, some field⟩

/-- The first capture of `/^\/api\/admin\/users\/([^/]+)$/`. -/
def userPathId (path : String) : Option String :=
  let id := path.toList.drop "/api/admin/users/".length
  if startsWith path "/api/admin/users/" ∧ id ≠ [] ∧ '/' ∉ id then some (String.ofList id) else none

def hexDigit (c : Char) : Option Nat :=
  if '0' ≤ c ∧ c ≤ '9' then some (c.toNat - '0'.toNat)
  else if 'a' ≤ c ∧ c ≤ 'f' then some (c.toNat - 'a'.toNat + 10)
  else if 'A' ≤ c ∧ c ≤ 'F' then some (c.toNat - 'A'.toNat + 10)
  else none

def uriBytes : List Char → Option (List UInt8)
  | [] => some []
  | '%' :: high :: low :: rest =>
    match hexDigit high, hexDigit low, uriBytes rest with
    | some h, some l, some bytes => some (UInt8.ofNat (h * 16 + l) :: bytes)
    | _, _, _ => none
  | c :: rest => if c = '%' then none else (uriBytes rest).map (String.utf8EncodeChar c ++ ·)

/-- `none` where it throws a `URIError`. -/
def decodeURIComponent (text : String) : Option String :=
  (uriBytes text.toList).bind fun bytes => String.fromUTF8? ⟨bytes.toArray⟩

def verifyCsrfToken : Option String → Option String → Bool
  | some cookieValue, some formValue => cookieValue ≠ "" && formValue ≠ "" && cookieValue = formValue
  | _, _ => false

/-- `PATCH /api/admin/users/:id`, with the answer of `authenticateRequest` and
the body as `readJsonBody` leaves it, or the text it refuses it with. -/
structure UpdateUserRequest where
  authResult : AuthResult
  csrfCookie : Option String
  csrfHeader : Option String
  url : String
  body : Except String (List (String × BodyValue))

/-- The metadata of `admin.user.role_changed`. -/
structure RoleChanged where
  targetUserId : String
  oldRole : Option String
  newRole : String
  deriving DecidableEq, Repr

inductive UpdateUserReply
  | refused (status : Nat) (code message : String)
  | updated (id role : String) (audited : Option RoleChanged)
  | thrown
  deriving DecidableEq, Repr

def UpdateUserReply.invalid (err : AdminValidationError) : UpdateUserReply := .refused 400 err.code.text err.message

inductive LoginReply
  | provisioned (result : ProvisionResult)
  /-- `ProvisioningDeniedError`. -/
  | denied (code : String)
  | thrown
  deriving DecidableEq, Repr

def User.setRole (role : String) (u : User) : User := { u with role := some role }

@[simp] theorem User.setRole_id (role : String) (u : User) : (u.setRole role).id = u.id := rfl

def User.isAdmin (u : User) : Bool := u.role = some "admin"

/-- `users.role IN ('admin', 'member')`. -/
def User.isHuman (u : User) : Bool := u.role = some "admin" || u.role = some "member"

/-- `getOrgSetting` of `auto_provision` without an org: the environment, then the default. -/
def autoProvisionSetting (envValue : Option String) : String := envValue.getD "true"

namespace LoginWorld

def provisionUserWithAutoProvisionGate (ctx : AuthHandlerContext) (envValue : Option String) (w : LoginWorld)
    (args : ProvisionUserArgs) (userId : String) : LoginWorld × LoginReply :=
  let autoProvision := (autoProvisionSetting envValue).toLower
  if autoProvision = "false" ∧ w.existing args = none then (w, .denied "USER_NOT_PROVISIONED")
  else
    match w.provisionUser ctx args userId with
    | none => (w, .thrown)
    | some (after, result) => (after, .provisioned result)

/-- The transaction of `handleUpdateUser`. -/
def changeRole (w : LoginWorld) (userId newRole : String) : LoginWorld × UpdateUserReply :=
  match w.db.users.find userId with
  | none => (w, .refused 404 "NOT_FOUND" "User not found")
  | some target =>
    if target.role = some "agent" ∨ target.role = some "service" then
      (w, .refused 400 "NOT_HUMAN_USER" "Cannot change role of non-human user")
    else if target.role = some newRole then (w, .updated target.id newRole none)
    else if (target.role = some "admin" ∧ newRole ≠ "admin") ∧ w.db.users.rows.countP User.isAdmin = 1 then
      (w, .refused 409 "LAST_ADMIN" "Cannot demote last admin. Promote another user first.")
    else
      ({ w with db := { w.db with
          users := w.db.users.update (fun u => u.id = userId) (User.setRole newRole) (User.setRole_id newRole) } },
        .updated userId newRole (some ⟨userId, target.role, newRole⟩))

def handleUpdateUser (w : LoginWorld) (req : UpdateUserRequest) : LoginWorld × UpdateUserReply :=
  match req.authResult with
  | .refused status error _ => (w, .refused status "UNAUTHORIZED" error)
  | .thrown => (w, .thrown)
  | .accepted claims =>
    if claims.role ≠ .admin then (w, .refused 403 "FORBIDDEN" "Admin role required")
    else if ¬ verifyCsrfToken req.csrfCookie req.csrfHeader then
      (w, .refused 403 "CSRF_FAILED" "CSRF validation failed")
    else
      match userPathId (pathOnly req.url) with
      | none => (w, .refused 400 "BAD_PATH" "Invalid user path")
      | some encoded =>
        match decodeURIComponent encoded with
        | none => (w, .refused 400 "BAD_PATH" "Invalid user path encoding")
        | some rawId =>
          match validatePathParam rawId "id", req.body with
          | .error err, _ => (w, .invalid err)
          | .ok _, .error text => (w, .refused 400 "INVALID_REQUEST" text)
          | .ok userId, .ok body =>
            match validateUpdateBody body ["role"], validateRoleField (body.lookup "role") "role" with
            | .error err, _ => (w, .invalid err)
            | .ok (), .error err => (w, .invalid err)
            | .ok (), .ok newRole => w.changeRole userId newRole

end LoginWorld

/-- One call on `users`, each a transaction of its own; one that does not commit
leaves nothing behind and answers with an error. `userId` is the UUID drawn. -/
inductive DirectoryCall
  | tick (seconds : Int)
  | login (autoProvision : Option String) (args : ProvisionUserArgs) (userId : String) (commits : Bool)
  | updateUser (req : UpdateUserRequest) (commits : Bool)

inductive DirectoryReply
  | none
  | login (reply : LoginReply)
  | updateUser (reply : UpdateUserReply)
  deriving DecidableEq, Repr

/-- The login whose caller audits `auth.admin.bootstrapped`. -/
def DirectoryReply.bootstraps : DirectoryReply → Bool
  | .login (.provisioned result) => result.bootstrapAdmin
  | _ => false

namespace LoginWorld

def serveCall (ctx : AuthHandlerContext) (w : LoginWorld) : DirectoryCall → LoginWorld × DirectoryReply
  | .tick seconds => ({ w with db := w.db.wait seconds }, .none)
  | .login autoProvision args userId commits =>
    let (after, reply) := w.provisionUserWithAutoProvisionGate ctx autoProvision args userId
    if commits then (after, .login reply) else (w, .login .thrown)
  | .updateUser req commits =>
    let (after, reply) := w.handleUpdateUser req
    if commits then (after, .updateUser reply) else (w, .updateUser .thrown)

def directoryStep (ctx : AuthHandlerContext) (w : LoginWorld) (call : DirectoryCall) : LoginWorld := (w.serveCall ctx call).1

/-- How many calls of a run have bootstrapped an admin. -/
def bootstraps (ctx : AuthHandlerContext) : LoginWorld → List DirectoryCall → Nat
  | _, [] => 0
  | w, call :: rest =>
    (if (w.serveCall ctx call).2.bootstraps then 1 else 0) + bootstraps ctx (w.directoryStep ctx call) rest

/-- Where there is a human user there is an admin. -/
def Administered (w : LoginWorld) : Prop :=
  (∃ u ∈ w.db.users.rows, u.isHuman) → ∃ u ∈ w.db.users.rows, u.isAdmin

/-- No users, or an admin among them. -/
def Governed (w : LoginWorld) : Prop := w.db.users.rows ≠ [] → ∃ u ∈ w.db.users.rows, u.isAdmin

variable {ctx : AuthHandlerContext} {w : LoginWorld}

/-- What a call does to `users`: nothing, a returning login, a first login, or a role that changes. -/
inductive DirectoryChange (w : LoginWorld) (after : LoginWorld) : DirectoryCall → DirectoryReply → Prop
  | same (call : DirectoryCall) (reply : DirectoryReply) : after.db.users = w.db.users → reply.bootstraps = false →
    DirectoryChange w after call reply
  | returning (autoProvision : Option String) (args : ProvisionUserArgs) (userId : String)
    (id : String) (access refresh : Option String) (result : ProvisionResult) :
    after.db.users = w.db.users.update (fun u => u.id = id) (User.storeIdpTokens access refresh)
      (User.storeIdpTokens_id access refresh) → result.bootstrapAdmin = false →
    DirectoryChange w after (.login autoProvision args userId true) (.login (.provisioned result))
  | created (autoProvision : Option String) (args : ProvisionUserArgs) (user : User) (result : ProvisionResult) :
    w.db.users.insert user = some after.db.users →
    user.role = some (if w.bootstrapRole user.id = .admin then "admin" else "member") →
    result.bootstrapAdmin = decide (w.bootstrapRole user.id = .admin) →
    DirectoryChange w after (.login autoProvision args user.id true) (.login (.provisioned result))
  | changed (req : UpdateUserRequest) (target : User) (newRole : String) (reply : UpdateUserReply) :
    w.db.users.find target.id = some target → (newRole = "admin" ∨ newRole = "member") →
    (target.isAdmin → newRole ≠ "admin" → w.db.users.rows.countP User.isAdmin ≠ 1) →
    after.db.users = w.db.users.update (fun u => u.id = target.id) (User.setRole newRole) (User.setRole_id newRole) →
    DirectoryChange w after (.updateUser req true) (.updateUser reply)

theorem provisionUser_change {args : ProvisionUserArgs} {userId : String} {after : LoginWorld}
    {result : ProvisionResult} (provisioned : w.provisionUser ctx args userId = some (after, result))
    (autoProvision : Option String) :
    DirectoryChange w after (.login autoProvision args userId true) (.login (.provisioned result)) := by
  rw [provisionUser] at provisioned
  split at provisioned
  · rename_i user known
    obtain ⟨rfl, rfl⟩ := Prod.mk.inj (Option.some.inj provisioned)
    exact .returning autoProvision args userId user.id _ _ _ rfl rfl
  · obtain ⟨users, inserted, made⟩ := Option.map_eq_some_iff.mp provisioned
    obtain ⟨rfl, rfl⟩ := Prod.mk.inj made
    exact .created autoProvision args (w.newUser ctx args userId) _ inserted rfl rfl

theorem validateRoleField_ok {value : Option BodyValue} {field newRole : String}
    (valid : validateRoleField value field = .ok newRole) : newRole = "admin" ∨ newRole = "member" := by
  unfold validateRoleField at valid
  split at valid
  · exact .inl (Except.ok.inj valid).symm
  · split at valid
    · exact .inr (Except.ok.inj valid).symm
    · cases valid

theorem changeRole_change {userId newRole : String} (known : newRole = "admin" ∨ newRole = "member")
    (req : UpdateUserRequest) : DirectoryChange w (w.changeRole userId newRole).1 (.updateUser req true)
      (.updateUser (w.changeRole userId newRole).2) := by
  unfold changeRole
  split
  · exact .same _ _ rfl rfl
  · rename_i target found
    split
    · exact .same _ _ rfl rfl
    · split
      · exact .same _ _ rfl rfl
      · split
        · exact .same _ _ rfl rfl
        · rename_i spared
          obtain rfl := (Table.find_eq_some.mp found).2
          refine .changed req target newRole _ found known ?_ rfl
          intro admin demoted last
          exact spared ⟨⟨of_decide_eq_true admin, demoted⟩, last⟩

theorem handleUpdateUser_change (w : LoginWorld) (req : UpdateUserRequest) :
    DirectoryChange w (w.handleUpdateUser req).1 (.updateUser req true) (.updateUser (w.handleUpdateUser req).2) := by
  unfold handleUpdateUser
  split
  · exact .same _ _ rfl rfl
  · exact .same _ _ rfl rfl
  · split
    · exact .same _ _ rfl rfl
    · split
      · exact .same _ _ rfl rfl
      · split
        · exact .same _ _ rfl rfl
        · split
          · exact .same _ _ rfl rfl
          · split
            · exact .same _ _ rfl rfl
            · exact .same _ _ rfl rfl
            · split
              · exact .same _ _ rfl rfl
              · exact .same _ _ rfl rfl
              · rename_i valid
                exact changeRole_change (validateRoleField_ok valid) req

theorem gate_change (ctx : AuthHandlerContext) (w : LoginWorld) (autoProvision : Option String)
    (args : ProvisionUserArgs) (userId : String) :
    let gated := w.provisionUserWithAutoProvisionGate ctx autoProvision args userId
    DirectoryChange w gated.1 (.login autoProvision args userId true) (.login gated.2) := by
  unfold provisionUserWithAutoProvisionGate
  dsimp only
  split
  · exact .same _ _ rfl rfl
  · split
    · exact .same _ _ rfl rfl
    · rename_i provisioned
      exact provisionUser_change provisioned autoProvision

theorem serveCall_change (ctx : AuthHandlerContext) (w : LoginWorld) (call : DirectoryCall) :
    DirectoryChange w (w.serveCall ctx call).1 call (w.serveCall ctx call).2 := by
  cases call with
  | tick seconds => exact .same _ _ rfl rfl
  | login autoProvision args userId commits =>
    cases commits with
    | false => exact .same _ _ rfl rfl
    | true => exact gate_change ctx w autoProvision args userId
  | updateUser req commits =>
    cases commits with
    | false => exact .same _ _ rfl rfl
    | true => exact handleUpdateUser_change w req

/-- Another admin remains where one of several is demoted. -/
theorem other_admin {target : User} (member : target ∈ w.db.users.rows) (admin : target.isAdmin)
    (several : w.db.users.rows.countP User.isAdmin ≠ 1) : ∃ u ∈ w.db.users.rows, u.isAdmin ∧ u.id ≠ target.id := by
  by_contra alone
  have most : w.db.users.changes User.isAdmin ≤ 1 := by
    refine Table.changes_le_one ?_
    intro u listed v listed' holds holds'
    have atU : u.id = target.id := by_contra fun other => alone ⟨u, listed, holds, other⟩
    have atV : v.id = target.id := by_contra fun other => alone ⟨v, listed', holds', other⟩
    exact List.inj_on_of_nodup_map w.db.users.keyed listed listed' (atU.trans atV.symm)
  have least : 0 < w.db.users.changes User.isAdmin := Table.changes_pos.mpr ⟨target, member, admin⟩
  rw [Table.changes] at most least
  omega

theorem bootstrapRole_admin_iff (governed : w.Governed) {userId : String} (fresh : w.db.users.find userId = none) :
    w.bootstrapRole userId = .admin ↔ w.db.users.rows = [] := by
  unfold bootstrapRole
  constructor
  · intro first
    by_contra peopled
    obtain ⟨u, listed, admin⟩ := governed peopled
    rw [if_pos] at first
    · cases first
    · refine List.any_eq_true.mpr ⟨u, listed, ?_⟩
      have other := Table.find_eq_none.mp fresh u listed
      rw [Bool.and_eq_true, decide_eq_true_eq, decide_eq_true_eq]
      exact ⟨of_decide_eq_true admin, other⟩
  · intro empty
    rw [empty]
    rfl

variable {after : LoginWorld} {call : DirectoryCall} {reply : DirectoryReply}

/-- Admins stay, and an admin is bootstrapped where the first user is created. -/
theorem DirectoryChange.governed (change : DirectoryChange w after call reply) (governed : w.Governed) :
    after.Governed ∧ (reply.bootstraps ↔ w.db.users.rows = [] ∧ after.db.users.rows ≠ []) := by
  cases change with
  | same call reply users silent =>
    rw [Governed, users, silent]
    exact ⟨governed, by simp⟩
  | returning _ _ _ id access refresh result users silent =>
    constructor
    · intro peopled
      rw [users, Ne, Table.update_rows_nil] at peopled
      obtain ⟨u, listed, admin⟩ := governed peopled
      rw [users]
      refine ⟨_, Table.mem_update.mpr ⟨u, listed, rfl⟩, ?_⟩
      split <;> exact admin
    · rw [DirectoryReply.bootstraps, silent, users, Ne, Table.update_rows_nil]
      simp
  | created _ _ user result inserted role flag =>
    have rows := Table.insert_rows inserted
    have first := bootstrapRole_admin_iff governed (Table.insert_fresh inserted)
    constructor
    · intro _
      by_cases peopled : w.db.users.rows = []
      · refine ⟨user, by simp [rows], ?_⟩
        rw [User.isAdmin, role, if_pos (first.mpr peopled)]
        rfl
      · obtain ⟨u, listed, admin⟩ := governed peopled
        exact ⟨u, by simp [rows, listed], admin⟩
    · rw [DirectoryReply.bootstraps, flag, decide_eq_true_eq, first, rows]
      simp
  | changed _ target newRole _ found known several users =>
    have member := (Table.find_eq_some.mp found).1
    constructor
    · intro _
      rw [users]
      by_cases promoted : newRole = "admin"
      · refine ⟨target.setRole newRole, Table.mem_update.mpr ⟨target, member, by simp⟩, ?_⟩
        rw [promoted]
        rfl
      · have others : ∃ u ∈ w.db.users.rows, u.isAdmin ∧ u.id ≠ target.id := by
          by_cases admin : target.isAdmin
          · exact other_admin member admin (several admin promoted)
          · obtain ⟨u, listed, holds⟩ := governed (List.ne_nil_of_mem member)
            refine ⟨u, listed, holds, ?_⟩
            intro same
            obtain rfl := List.inj_on_of_nodup_map w.db.users.keyed listed member same
            exact admin holds
        obtain ⟨u, listed, admin, other⟩ := others
        exact ⟨u, Table.mem_update.mpr ⟨u, listed, by simp [other]⟩, admin⟩
    · have peopled : w.db.users.rows ≠ [] := List.ne_nil_of_mem member
      simp [DirectoryReply.bootstraps, peopled]

/-- A login writes the role of nobody but the user it creates. -/
theorem login_roles (ctx : AuthHandlerContext) (w : LoginWorld) (autoProvision : Option String)
    (args : ProvisionUserArgs) (userId : String) (commits : Bool) {u : User} (listed : u ∈ w.db.users.rows) :
    ((w.directoryStep ctx (.login autoProvision args userId commits)).db.users.find u.id).map User.role = some u.role := by
  have change := serveCall_change ctx w (.login autoProvision args userId commits)
  rw [directoryStep]
  generalize (w.serveCall ctx (.login autoProvision args userId commits)).1 = after at change ⊢
  generalize (w.serveCall ctx (.login autoProvision args userId commits)).2 = reply at change
  cases change with
  | same _ _ users => rw [users, Table.find_self listed, Option.map_some]
  | returning _ _ _ id access refresh result users =>
    rw [users, Table.find_update, Table.find_self listed, Option.map_some, Option.map_some]
    split <;> rfl
  | created _ _ user result inserted =>
    rw [Table.find_insert inserted, if_neg (fun same => ?_), Table.find_self listed, Option.map_some]
    exact Table.find_eq_none.mp (Table.insert_fresh inserted) u listed same.symm

theorem governed_run (ctx : AuthHandlerContext) (governed : w.Governed) (calls : List DirectoryCall) :
    (calls.foldl (directoryStep ctx) w).Governed := by
  induction calls generalizing w with
  | nil => exact governed
  | cons call rest ih => exact ih ((serveCall_change ctx w call).governed governed).1

/-- Users are not deleted. -/
theorem DirectoryChange.peopled (change : DirectoryChange w after call reply) (peopled : w.db.users.rows ≠ []) :
    after.db.users.rows ≠ [] := by
  cases change with
  | same _ _ users => rwa [users]
  | returning _ _ _ _ _ _ _ users =>
    rwa [users, Ne, Table.update_rows_nil]
  | created _ _ user _ inserted => simp [Table.insert_rows inserted]
  | changed _ _ _ _ _ _ _ users =>
    rwa [users, Ne, Table.update_rows_nil]

theorem bootstraps_peopled (ctx : AuthHandlerContext) (governed : w.Governed) (peopled : w.db.users.rows ≠ [])
    (calls : List DirectoryCall) :
    bootstraps ctx w calls = 0 ∧ (calls.foldl (directoryStep ctx) w).db.users.rows ≠ [] := by
  induction calls generalizing w with
  | nil => exact ⟨rfl, peopled⟩
  | cons call rest ih =>
    have change := serveCall_change ctx w call
    obtain ⟨later, first⟩ := change.governed governed
    obtain ⟨none, still⟩ := ih later (change.peopled peopled)
    refine ⟨?_, still⟩
    rw [bootstraps, directoryStep, none, if_neg]
    exact fun fires => peopled (first.mp fires).1

/-- As long as nobody has been created no admin is bootstrapped, and then one is. -/
theorem bootstraps_empty (ctx : AuthHandlerContext) (empty : w.db.users.rows = []) (calls : List DirectoryCall) :
    bootstraps ctx w calls = if (calls.foldl (directoryStep ctx) w).db.users.rows = [] then 0 else 1 := by
  induction calls generalizing w with
  | nil => rw [List.foldl_nil, if_pos empty, bootstraps]
  | cons call rest ih =>
    have governed : w.Governed := fun peopled => absurd empty peopled
    obtain ⟨later, first⟩ := (serveCall_change ctx w call).governed governed
    rw [← directoryStep] at later first
    rw [bootstraps, List.foldl_cons]
    by_cases still : (w.directoryStep ctx call).db.users.rows = []
    · rw [ih still, if_neg (fun fires => (first.mp fires).2 still), Nat.zero_add]
    · obtain ⟨none, peopled⟩ := bootstraps_peopled ctx later still rest
      rw [none, if_pos (first.mpr ⟨empty, still⟩), if_neg peopled]

/-- Where there is a human user there is an admin; the call that creates the
first user of all is the only one that bootstraps an admin; and a login leaves
the role of everybody who is already there. -/
theorem admin_bootstrapped_once (ctx : AuthHandlerContext) (orgs : Table AllowlistOrg AllowlistOrg.id) (clock : Int)
    (calls : List DirectoryCall) :
    let w := calls.foldl (directoryStep ctx) (started orgs clock)
    w.Administered ∧
      bootstraps ctx (started orgs clock) calls = (if w.db.users.rows = [] then 0 else 1) ∧
      (∀ call, (w.serveCall ctx call).2.bootstraps ↔
        w.db.users.rows = [] ∧ (w.directoryStep ctx call).db.users.rows ≠ []) ∧
      ∀ autoProvision args userId commits, ∀ u ∈ w.db.users.rows,
        ((w.directoryStep ctx (.login autoProvision args userId commits)).db.users.find u.id).map User.role =
          some u.role := by
  intro w
  have governed : w.Governed := governed_run ctx (fun peopled => absurd rfl peopled) calls
  refine ⟨?_, bootstraps_empty ctx rfl calls, ?_, ?_⟩
  · intro human
    obtain ⟨u, listed, -⟩ := human
    exact governed (List.ne_nil_of_mem listed)
  · intro call
    exact ((serveCall_change ctx w call).governed governed).2
  · intro autoProvision args userId commits u listed
    exact login_roles ctx w autoProvision args userId commits listed

end LoginWorld

end Coordinator
