import Coordinator.Library.GuardedRun
import Coordinator.RefreshTurn
import Coordinator.Sweeper

namespace Coordinator

/-- A refresh request that the server has received. -/
structure Flight where
  request : RefreshRequest
  stage : Stage
  deriving DecidableEq, Repr

/-- The database and the requests in the order they came in. -/
structure AuthWorld where
  db : AuthDb
  flights : List Flight

/-- `jti` of the presented token and the authenticated caller of `/api/auth/revoke`. -/
structure RevokeCall where
  jti : Nat
  callerId : String
  callerRole : Role
  deriving DecidableEq, Repr

inductive AuthEvent
  | tick (seconds : Int)
  | arrive (request : RefreshRequest)
  | advance (i : Nat) (answers : IdpAnswers)
  | login (userId orgId : String) (fingerprint : Option String)
  | logout (familyId : Option Nat)
  | logoutAll (userId : String)
  | revoke (call : RevokeCall)
  | bumpTokenEpoch (userId : String)
  | noteEpochBump (userId : String) (epoch : Int)
  | writeUser (user : User)
  | sweep (env : SweepEnv) (victims : List Nat)

/-- The row of a new session: `mintTokenPair` without a family. -/
def sessionRow (db : AuthDb) (userId orgId : String) (fingerprint : Option String) : RefreshRow where
  jti := db.draws + 1
  userId := userId
  orgId := orgId
  familyId := db.draws
  parentJti := none
  revokedAt := none
  revokedReason := none
  replayCount := 0
  consumerFingerprint := fingerprint
  expiresAt := db.clock + refreshTtlS
  lastUsedAt := db.clock

def openSession (db : AuthDb) (userId orgId : String) (fingerprint : Option String) : AuthDb :=
  match db.refreshTokens.insert (sessionRow db userId orgId fingerprint) with
  | none => db
  | some tokens => { db with draws := db.draws + 3, refreshTokens := tokens }

/-- An access token that `authenticateRequest` accepts names no family or one that was drawn. -/
def authenticated (db : AuthDb) (familyId : Option Nat) : Bool := familyId.all (· < db.draws)

def handleLogout (db : AuthDb) (familyId : Option Nat) : AuthDb :=
  if authenticated db familyId then
    match familyId with
    | none => db
    | some family => db.setTokens (db.refreshTokens.revokeFamily family db.clock .logout)
  else db

def handleLogoutAll (db : AuthDb) (userId : String) : AuthDb :=
  let bumped := bumpTokenEpoch db userId
  bumped.setTokens (bumped.refreshTokens.revokeWhere (fun r => r.userId = userId) db.clock .logoutAll)

def handleRevoke (db : AuthDb) (call : RevokeCall) : AuthDb :=
  match db.refreshTokens.find call.jti with
  | none => db
  | some row =>
    if row.revokedAt ≠ none ∨ (row.userId ≠ call.callerId ∧ call.callerRole ≠ .admin) then db
    else db.setTokens (db.refreshTokens.revokeToken call.jti db.clock .admin)

/-- Any of the other writes to a user: provisioning, a change of role. -/
def User.overwrite (user u : User) : User := if u.id = user.id then user else u

theorem User.overwrite_id (user u : User) : (user.overwrite u).id = u.id := by
  unfold User.overwrite
  split
  · rename_i same
    exact same.symm
  · rfl

def sweepTokens (env : SweepEnv) (db : AuthDb) (victims : List Nat) : AuthDb :=
  db.setTokens (db.refreshTokens.delete fun r =>
    victims.contains r.jti && (refreshRevokedExpired env db.clock r || refreshExpired db.clock r))

namespace AuthWorld

def step (ctx : AuthHandlerContext) (w : AuthWorld) : AuthEvent → AuthWorld
  | .tick seconds => { w with db := w.db.wait seconds }
  | .arrive request => { w with flights := w.flights ++ [⟨request, .verifying⟩] }
  | .advance i answers =>
    match w.flights[i]? with
    | none => w
    | some flight =>
      let (db, stage) := Coordinator.advance ctx w.db flight.request answers flight.stage
      { db := db, flights := w.flights.set i ⟨flight.request, stage⟩ }
  | .login userId orgId fingerprint => { w with db := openSession w.db userId orgId fingerprint }
  | .logout familyId => { w with db := handleLogout w.db familyId }
  | .logoutAll userId => { w with db := handleLogoutAll w.db userId }
  | .revoke call => { w with db := handleRevoke w.db call }
  | .bumpTokenEpoch userId => { w with db := Coordinator.bumpTokenEpoch w.db userId }
  | .noteEpochBump userId epoch =>
    { w with db := { w.db with
        epochFloor := fun u => if u = userId then max epoch (w.db.epochFloor u) else w.db.epochFloor u } }
  | .writeUser user =>
    { w with db := { w.db with users := w.db.users.update (fun _ => true) user.overwrite user.overwrite_id } }
  | .sweep env victims => { w with db := sweepTokens env w.db victims }

abbrev Run (ctx : AuthHandlerContext) (guard : AuthWorld → AuthEvent → Prop) : AuthWorld → AuthWorld → Prop :=
  GuardedRun (step ctx) guard

/-- A server with any users and orgs, before the first session. -/
def boot (users : Table User User.id) (orgs : Table AllowlistOrg AllowlistOrg.id) (clock : Int) : AuthWorld where
  db := { clock := clock, draws := 0, users := users, orgs := orgs, refreshTokens := .empty, epochFloor := fun _ => 0 }
  flights := []

end AuthWorld

end Coordinator
