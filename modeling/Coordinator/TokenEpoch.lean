import Coordinator.FamilyRevocation

namespace Coordinator

/-- A bump seen on the pub/sub channel; `*` stands for all users. -/
def noteEpochBump (db : AuthDb) (userId : String) (epoch : Int) : AuthDb :=
  { db with epochFloor := fun u => if userId = "*" ∨ u = userId then max (db.epochFloor u) epoch else db.epochFloor u }

/-- A new row of `users`, with the default epoch. -/
def createUser (db : AuthDb) (user : User) : AuthDb :=
  match db.users.insert { user with tokenEpoch := 0 } with
  | none => db
  | some users => { db with users := users }

/-- The database and the tokens minted so far. -/
structure EpochWorld where
  db : AuthDb
  minted : List ParsedRefreshClaims

inductive EpochEvent
  | tick (seconds : Int)
  | mint (sub : String) (typ : TokenType)
  | createUser (user : User)
  | bumpTokenEpoch (userId : String)
  | bumpTokenEpochAllUsers
  | noteEpochBump (userId : String) (epoch : Int)

/-- The event is a bump of the user's epoch. -/
def EpochEvent.bumps (userId : String) : EpochEvent → Bool
  | .bumpTokenEpoch bumped => bumped = userId
  | .bumpTokenEpochAllUsers => true
  | _ => false

namespace EpochWorld

def step (w : EpochWorld) : EpochEvent → EpochWorld
  | .tick seconds => { w with db := w.db.wait seconds }
  | .mint sub typ => { w with minted := w.minted ++ [⟨sub, w.minted.length, w.db.clock, some typ, false⟩] }
  | .createUser user => { w with db := Coordinator.createUser w.db user }
  | .bumpTokenEpoch userId => { w with db := Coordinator.bumpTokenEpoch w.db userId }
  | .bumpTokenEpochAllUsers => { w with db := Coordinator.bumpTokenEpochAllUsers w.db }
  | .noteEpochBump userId epoch => { w with db := Coordinator.noteEpochBump w.db userId epoch }

abbrev Run : EpochWorld → EpochWorld → Prop := GuardedRun step fun _ _ => True

end EpochWorld

/-- The epoch check ends the request. -/
def RejectedByEpoch (db : AuthDb) (claims : ParsedRefreshClaims) : Prop :=
  checkTokenEpoch db claims = .error (invalidGrant "Session invalidated by admin" 400)

theorem rejectedByEpoch_iff {db : AuthDb} {claims : ParsedRefreshClaims} :
    RejectedByEpoch db claims ↔ claims.iat < max (readTokenEpoch db claims.sub) (db.epochFloor claims.sub) := by
  unfold RejectedByEpoch checkTokenEpoch
  split
  · rename_i early
    exact iff_of_true rfl early
  · rename_i late
    exact iff_of_false (nomatch ·) late

/-- Epochs and floors only rise. -/
structure EpochsRise (db db' : AuthDb) : Prop where
  epoch : ∀ u, readTokenEpoch db u ≤ readTokenEpoch db' u
  floor : ∀ u, db.epochFloor u ≤ db'.epochFloor u

namespace EpochsRise
variable {db db' db'' : AuthDb}

theorem refl (db : AuthDb) : EpochsRise db db := ⟨fun _ => le_rfl, fun _ => le_rfl⟩

theorem trans (early : EpochsRise db db') (late : EpochsRise db' db'') : EpochsRise db db'' :=
  ⟨fun u => (early.epoch u).trans (late.epoch u), fun u => (early.floor u).trans (late.floor u)⟩

theorem rejected (rise : EpochsRise db db') {claims : ParsedRefreshClaims} (before : RejectedByEpoch db claims) :
    RejectedByEpoch db' claims := by
  rw [rejectedByEpoch_iff] at before ⊢
  have epoch := rise.epoch claims.sub
  have floor := rise.floor claims.sub
  omega

end EpochsRise

/-- What an update of the users does to the epoch of one of them. -/
theorem readTokenEpoch_bump (db : AuthDb) (p : User → Bool) (u : String) :
    readTokenEpoch { db with users := db.users.update p (User.bump db.clock) (User.bump_id db.clock) } u =
      match db.users.find u with
      | none => 0
      | some user => if p user then max db.clock (user.tokenEpoch + 1) else user.tokenEpoch := by
  simp only [readTokenEpoch, Table.find_update]
  cases db.users.find u with
  | none => rfl
  | some user =>
    simp only [Option.map_some, Option.getD_some]
    split <;> rfl

theorem bump_rises (db : AuthDb) (p : User → Bool) :
    EpochsRise db { db with users := db.users.update p (User.bump db.clock) (User.bump_id db.clock) } := by
  refine ⟨fun u => ?_, fun _ => le_rfl⟩
  rw [readTokenEpoch_bump, readTokenEpoch]
  cases db.users.find u with
  | none => exact le_rfl
  | some user =>
    simp only [Option.map_some, Option.getD_some]
    split <;> omega

theorem createUser_rises (db : AuthDb) (user : User) : EpochsRise db (createUser db user) := by
  unfold createUser
  split
  · exact .refl db
  · rename_i users inserted
    refine ⟨fun u => ?_, fun _ => le_rfl⟩
    simp only [readTokenEpoch, Table.find_insert inserted]
    split
    · rename_i same
      have vacant := Table.insert_fresh inserted
      rw [same] at vacant
      rw [vacant]
      exact le_rfl
    · exact le_rfl

namespace EpochWorld

theorem step_rises (w : EpochWorld) (event : EpochEvent) : EpochsRise w.db (w.step event).db := by
  cases event with
  | tick seconds => exact ⟨fun _ => le_rfl, fun _ => le_rfl⟩
  | mint sub typ => exact .refl w.db
  | createUser user => exact createUser_rises w.db user
  | bumpTokenEpoch userId => exact bump_rises w.db _
  | bumpTokenEpochAllUsers => exact bump_rises w.db _
  | noteEpochBump userId epoch =>
    refine ⟨fun _ => le_rfl, fun u => ?_⟩
    simp only [step, noteEpochBump]
    split
    · exact le_max_left _ _
    · exact le_rfl

/-- Along every run, with the clock moving freely, epochs never decrease. -/
theorem Run.rises {w w' : EpochWorld} (run : Run w w') : EpochsRise w.db w'.db := by
  refine run.invariant (P := fun v => EpochsRise w.db v.db) ?_ (.refl w.db)
  intro v event before _
  exact before.trans (step_rises v event)

/-- The epoch of a user right after a bump. -/
theorem readTokenEpoch_step {w : EpochWorld} {userId : String} {event : EpochEvent} (bumps : event.bumps userId)
    (known : (w.db.users.find userId).isSome) :
    readTokenEpoch (w.step event).db userId = max w.db.clock (readTokenEpoch w.db userId + 1) := by
  obtain ⟨user, found⟩ := Option.isSome_iff_exists.mp known
  have sameId : user.id = userId := (Table.find_eq_some.mp found).2
  have before : readTokenEpoch w.db userId = user.tokenEpoch := by
    simp [readTokenEpoch, found]
  rw [before]
  cases event with
  | bumpTokenEpoch bumped =>
    obtain rfl : bumped = userId := of_decide_eq_true bumps
    refine (readTokenEpoch_bump w.db _ bumped).trans ?_
    simp [found, sameId]
  | bumpTokenEpochAllUsers =>
    refine (readTokenEpoch_bump w.db _ userId).trans ?_
    simp [found]
  | tick | mint | createUser | noteEpochBump => cases bumps

theorem epochFloor_step {w : EpochWorld} {userId : String} {event : EpochEvent} (bumps : event.bumps userId) :
    (w.step event).db.epochFloor = w.db.epochFloor := by
  cases event with
  | bumpTokenEpoch | bumpTokenEpochAllUsers => rfl
  | tick | mint | createUser | noteEpochBump => cases bumps

/-- After the bump every token minted before it is rejected, in every later state,
and no epoch ever decreases. -/
def Invalidates (w : EpochWorld) (event : EpochEvent) (userId : String) : Prop :=
  ∀ w', Run (w.step event) w' →
    (∀ claims ∈ w.minted, claims.sub = userId → RejectedByEpoch w'.db claims) ∧
      ∀ u, readTokenEpoch w.db u ≤ readTokenEpoch w'.db u

/-- A bump invalidates what was issued before it exactly when every token of the
user dates from before the second of the bump, is not newer than the epoch
the user had, or is below the floor. -/
theorem bump_invalidates_iff (w : EpochWorld) (event : EpochEvent) (userId : String) (bumps : event.bumps userId)
    (known : (w.db.users.find userId).isSome) :
    w.Invalidates event userId ↔ ∀ claims ∈ w.minted, claims.sub = userId →
      claims.iat < w.db.clock ∨ claims.iat ≤ readTokenEpoch w.db userId ∨ claims.iat < w.db.epochFloor userId := by
  have rejected_iff : ∀ claims : ParsedRefreshClaims, claims.sub = userId →
      (RejectedByEpoch (w.step event).db claims ↔ claims.iat < w.db.clock ∨
        claims.iat ≤ readTokenEpoch w.db userId ∨ claims.iat < w.db.epochFloor userId) := by
    intro claims owner
    rw [rejectedByEpoch_iff, owner, readTokenEpoch_step bumps known, epochFloor_step bumps]
    omega
  constructor
  · intro invalidates claims member owner
    obtain ⟨rejected, -⟩ := invalidates _ (.start _)
    exact (rejected_iff claims owner).mp (rejected claims member owner)
  · intro older w' run
    refine ⟨?_, ((step_rises w event).trans run.rises).epoch⟩
    intro claims member owner
    exact run.rises.rejected ((rejected_iff claims owner).mpr (older claims member owner))

/-- Ada's token from 1000. -/
def adasSession : EpochWorld :=
  (⟨AuthWorld.adasServer.db, []⟩ : EpochWorld).step (.mint "ada" .refresh)

/-- Five seconds later a bump of all users invalidates it. -/
theorem bump_invalidates_later : (adasSession.step (.tick 5)).Invalidates .bumpTokenEpochAllUsers "ada" :=
  (bump_invalidates_iff _ _ _ rfl (by decide)).mpr (by decide)

/-- In the same second it does not: the token has the epoch as its `iat`. -/
theorem not_bump_invalidates : ¬ ∀ w event userId, EpochEvent.bumps userId event → (w.db.users.find userId).isSome →
    Invalidates w event userId := by
  intro invalidates
  obtain ⟨rejected, -⟩ := invalidates adasSession (.bumpTokenEpoch "ada") "ada" rfl (by decide) _ (.start _)
  have early := rejectedByEpoch_iff.mp (rejected ⟨"ada", 0, 1000, some .refresh, false⟩ (by decide) rfl)
  revert early
  decide

end EpochWorld

end Coordinator
