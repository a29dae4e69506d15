import Coordinator.RefreshRotation

namespace Coordinator

/-- The row that the request selected. -/
def Stage.row : Stage → Option RefreshRow
  | .verifying => none
  | .gettingMemberships check | .refreshingIdpToken check | .listingMemberships check => some check.row
  | .checked row _ _ _ => some row
  | .signingAccess mint | .signingRefresh mint _ | .inserted mint _ => some mint.row
  | .reminting row _ => some row
  | .answered row _ => row

/-- The mint whose successor is not yet inserted. -/
def Stage.mint : Stage → Option Mint
  | .signingAccess mint | .signingRefresh mint _ => some mint
  | _ => none

/-- Nothing but an error can still be answered, or the outcome is open. -/
def Stage.unserved : Stage → Bool
  | .signingAccess _ | .signingRefresh _ _ | .inserted _ _ | .reminting _ _ => false
  | .answered _ reply => !reply.served
  | _ => true

/-- The request waits for the provider. -/
inductive Stage.Asks (row : RefreshRow) : Stage → Prop
  | gettingMemberships {check : MembershipCheck} : check.row = row → Asks row (.gettingMemberships check)
  | refreshingIdpToken {check : MembershipCheck} : check.row = row → Asks row (.refreshingIdpToken check)
  | listingMemberships {check : MembershipCheck} : check.row = row → Asks row (.listingMemberships check)

/-- Between the selection of the row and the decision about it. -/
inductive Stage.Waits (row : RefreshRow) : Stage → Prop
  | asks {stage : Stage} : stage.Asks row → Waits row stage
  | checked {now : Int} {user : Option User} {recheckFailed : Bool} : Waits row (.checked row now user recheckFailed)

/-- The writes of the idle and the membership checks: the row's own token may lapse. -/
structure Lapse (row : RefreshRow) (db db' : AuthDb) : Prop where
  draws : db'.draws = db.draws
  clock : db'.clock = db.clock
  tokens : db'.refreshTokens = db.refreshTokens ∨ ∃ now, ∃ reason ∈ [RevokedReason.idleExpired, .admin],
    db'.refreshTokens = db.refreshTokens.revokeToken row.jti now reason

theorem Lapse.refl (row : RefreshRow) (db : AuthDb) : Lapse row db db := ⟨rfl, rfl, .inl rfl⟩

/-- `SELECT … WHERE jti = ?` for the presented token. -/
def Selects (db : AuthDb) (request : RefreshRequest) (row : RefreshRow) : Prop :=
  request.token.map ParsedRefreshClaims.jti = some row.jti ∧ db.refreshTokens.find row.jti = some row

/-- What the reuse branch writes. -/
def reuseWrites (db : AuthDb) (row : RefreshRow) (verdict : ReuseVerdict) : AuthDb :=
  let counted := match verdict with
    | .replayed _ => db.setTokens (db.refreshTokens.countReplay row.jti)
    | _ => db
  if verdict.revokesFamily then revokeFamilyForReuse counted row.familyId else counted

/-- The idle and membership checks end the request with an error or let it go on. -/
inductive Screened (row : RefreshRow) (db : AuthDb) : AuthDb × Stage → Prop
  | refused {db' : AuthDb} {reply : Reply} : reply.served = false → Lapse row db db' →
    Screened row db (db', .answered row reply)
  | waits {db' : AuthDb} {stage : Stage} : stage.Waits row → Lapse row db db' → Screened row db (db', stage)

/-- Everything one turn of a request can do. -/
inductive Turn (db : AuthDb) (request : RefreshRequest) : Stage → AuthDb × Stage → Prop
  | rejected {reply : Reply} : reply.served = false → Turn db request .verifying (db, .answered none reply)
  | selected {row : RefreshRow} {result : AuthDb × Stage} : Selects db request row → Screened row db result →
    Turn db request .verifying result
  | screened {row : RefreshRow} {stage : Stage} {result : AuthDb × Stage} : stage.Asks row →
    Screened row db result → Turn db request stage result
  | reused {row : RefreshRow} {now revokedAt : Int} {user : Option User} {recheckFailed : Bool} {reply : Reply} :
    row.revokedAt = some revokedAt → reply.served = false →
    Turn db request (.checked row now user recheckFailed)
      (reuseWrites db row (reuseVerdict db row revokedAt request.fingerprint recheckFailed), .answered row reply)
  | retried {row successor : RefreshRow} {now revokedAt : Int} {user : Option User} {recheckFailed : Bool} :
    row.revokedAt = some revokedAt →
    reuseVerdict db row revokedAt request.fingerprint recheckFailed = .retry successor →
    Turn db request (.checked row now user recheckFailed)
      ({ db with draws := db.draws + 1 }, .reminting row (remintPair successor db.draws))
  | raced {row : RefreshRow} {now : Int} {user : Option User} {recheckFailed : Bool} {reply : Reply} :
    row.revokedAt = none → reply.served = false →
    Turn db request (.checked row now user recheckFailed) (db, .answered row reply)
  | rotated {row : RefreshRow} {now : Int} {user : Option User} {recheckFailed : Bool} :
    row.revokedAt = none → db.refreshTokens.changes (RefreshTokens.unrevoked fun r => r.jti = row.jti) = 1 →
    Turn db request (.checked row now user recheckFailed)
      (beginMint (db.setTokens (db.refreshTokens.revokeToken row.jti now .rotated)) row (mintedRole user))
  | signed {mint : Mint} : Turn db request (.signingAccess mint) (signRefresh db mint)
  | inserted {mint : Mint} {refreshJwt : RefreshTokenClaims} {tokens : RefreshTokens} :
    db.refreshTokens.insert (mint.successor request.fingerprint) = some tokens →
    Turn db request (.signingRefresh mint refreshJwt) (db.setTokens tokens, .inserted mint refreshJwt)
  | clashed {mint : Mint} {refreshJwt : RefreshTokenClaims} :
    db.refreshTokens.insert (mint.successor request.fingerprint) = none →
    Turn db request (.signingRefresh mint refreshJwt) (db, .answered mint.row .thrown)
  | linked {mint : Mint} {refreshJwt : RefreshTokenClaims} {tokens : RefreshTokens} :
    db.refreshTokens.link mint.refreshJti mint.row.jti = some tokens →
    Turn db request (.inserted mint refreshJwt)
      (db.setTokens tokens, .answered mint.row (.tokens ⟨mint.accessJwt, refreshJwt⟩))
  | unlinked {mint : Mint} {refreshJwt : RefreshTokenClaims} :
    db.refreshTokens.link mint.refreshJti mint.row.jti = none →
    Turn db request (.inserted mint refreshJwt) (db, .answered mint.row .thrown)
  | reminted {row : RefreshRow} {pair : TokenPair} :
    Turn db request (.reminting row pair) (db, .answered row (.tokens pair))
  | settled {row : Option RefreshRow} {reply : Reply} : Turn db request (.answered row reply) (db, .answered row reply)

/-- The checks only ever end a request with an error. -/
def Refuses {α : Type} (x : Except Reply α) : Prop := ∀ reply, x = .error reply → reply.served = false

theorem Refuses.ok {α : Type} (a : α) : Refuses (.ok a) := fun _ impossible => nomatch impossible

theorem Refuses.error {α : Type} {reply : Reply} (refused : reply.served = false) :
    Refuses (.error reply : Except Reply α) := by
  intro other same
  obtain rfl := Except.error.inj same
  exact refused

theorem Refuses.bind {α β : Type} {x : Except Reply α} {f : α → Except Reply β} (first : Refuses x)
    (later : ∀ a, Refuses (f a)) : Refuses (x >>= f) := by
  cases x with
  | error reply => exact Refuses.error (first reply rfl)
  | ok a => exact later a

theorem bind_eq_ok {α β : Type} {x : Except Reply α} {f : α → Except Reply β} {b : β} :
    x >>= f = .ok b ↔ ∃ a, x = .ok a ∧ f a = .ok b := by
  cases x with
  | error reply => exact iff_of_false (nomatch ·) fun ⟨_, impossible, _⟩ => nomatch impossible
  | ok a =>
    refine ⟨fun result => ⟨a, rfl, result⟩, ?_⟩
    intro bound
    obtain ⟨_, same, result⟩ := bound
    obtain rfl := Except.ok.inj same
    exact result

theorem verifyAndValidateClaims_refuses (request : RefreshRequest) : Refuses (verifyAndValidateClaims request) := by
  unfold verifyAndValidateClaims
  split
  · exact .error rfl
  · split
    · exact .error rfl
    · exact .ok _

theorem verifyAndValidateClaims_ok {request : RefreshRequest} {claims : ParsedRefreshClaims} :
    verifyAndValidateClaims request = .ok claims ↔ request.token = some claims ∧ claims.typ = some .refresh := by
  unfold verifyAndValidateClaims
  cases request.token with
  | none => simp
  | some presented =>
    by_cases typed : presented.typ = some .refresh
    · simp only [typed, ne_eq, not_true_eq_false, if_false, Except.ok.injEq, Option.some.injEq]
      exact ⟨fun same => ⟨same, same ▸ typed⟩, And.left⟩
    · simp only [typed, ne_eq, not_false_eq_true, if_true, reduceCtorEq, Option.some.injEq, false_iff, not_and]
      exact fun same => same ▸ typed

theorem checkNotServiceAccount_refuses (claims : ParsedRefreshClaims) : Refuses (checkNotServiceAccount claims) := by
  unfold checkNotServiceAccount
  split
  · exact .error rfl
  · exact .ok _

theorem checkTokenEpoch_refuses (db : AuthDb) (claims : ParsedRefreshClaims) : Refuses (checkTokenEpoch db claims) := by
  unfold checkTokenEpoch
  split
  · exact .error rfl
  · exact .ok _

theorem selectRefreshRow_refuses (db : AuthDb) (claims : ParsedRefreshClaims) : Refuses (selectRefreshRow db claims) := by
  unfold selectRefreshRow
  split
  · exact .error rfl
  · exact .ok _

theorem selectRefreshRow_ok {db : AuthDb} {claims : ParsedRefreshClaims} {row : RefreshRow} :
    selectRefreshRow db claims = .ok row ↔ db.refreshTokens.find claims.jti = some row := by
  unfold selectRefreshRow
  cases db.refreshTokens.find claims.jti with
  | none => simp
  | some found => simp

/-- The token passes the type, service-account and epoch checks. -/
structure Acceptable (db : AuthDb) (claims : ParsedRefreshClaims) : Prop where
  typ : claims.typ = some .refresh
  user : claims.serviceAccount = false
  epoch : max (readTokenEpoch db claims.sub) (db.epochFloor claims.sub) ≤ claims.iat

theorem acceptToken_refuses (db : AuthDb) (request : RefreshRequest) : Refuses (acceptToken db request) :=
  (verifyAndValidateClaims_refuses request).bind fun claims =>
    (checkNotServiceAccount_refuses claims).bind fun _ =>
      (checkTokenEpoch_refuses db claims).bind fun _ => (selectRefreshRow_refuses db claims).bind fun _ => .ok _

theorem acceptToken_ok {db : AuthDb} {request : RefreshRequest} {claims : ParsedRefreshClaims} {row : RefreshRow} :
    acceptToken db request = .ok (claims, row) ↔
      request.token = some claims ∧ Acceptable db claims ∧ db.refreshTokens.find claims.jti = some row := by
  have service : checkNotServiceAccount claims = .ok () ↔ claims.serviceAccount = false := by
    unfold checkNotServiceAccount
    cases claims.serviceAccount <;> simp
  have epoch : checkTokenEpoch db claims = .ok () ↔
      max (readTokenEpoch db claims.sub) (db.epochFloor claims.sub) ≤ claims.iat := by
    unfold checkTokenEpoch
    split
    · exact iff_of_false (nomatch ·) (by omega)
    · exact iff_of_true rfl (by omega)
  simp only [acceptToken, bind_eq_ok, verifyAndValidateClaims_ok, selectRefreshRow_ok, pure, Except.pure,
    Except.ok.injEq, Prod.mk.injEq]
  constructor
  · intro accepted
    obtain ⟨_, ⟨token, typ⟩, _, user, _, current, _, found, rfl, rfl⟩ := accepted
    exact ⟨token, ⟨typ, service.mp user, epoch.mp current⟩, found⟩
  · intro acceptable
    obtain ⟨token, ⟨typ, user, current⟩, found⟩ := acceptable
    exact ⟨claims, ⟨token, typ⟩, (), service.mpr user, (), epoch.mpr current, row, found, rfl, rfl⟩

theorem acceptToken_selects {db : AuthDb} {request : RefreshRequest} {claims : ParsedRefreshClaims} {row : RefreshRow}
    (accepted : acceptToken db request = .ok (claims, row)) : row.jti = claims.jti ∧ Selects db request row := by
  obtain ⟨token, -, found⟩ := acceptToken_ok.mp accepted
  have same : row.jti = claims.jti := (Table.find_eq_some.mp found).2
  exact ⟨same, by rw [token, same]; rfl, by rw [same]; exact found⟩

section
variable {ctx : AuthHandlerContext} {db : AuthDb} {request : RefreshRequest} {row : RefreshRow} {check : MembershipCheck}

theorem lookupFailed_screened (db : AuthDb) (row : RefreshRow) (failure : IdpFailure) :
    Screened row db (db, lookupFailed row failure) := by
  cases failure with
  | tokenRevoked => exact .refused rfl (.refl row db)
  | transient => exact .refused rfl (.refl row db)
  | other => exact .refused rfl (.refl row db)

theorem refreshIdpMembershipAndAllowlist_screened (now : Int) :
    Screened row db (refreshIdpMembershipAndAllowlist ctx db row now) := by
  have checked (user : Option User) : Screened row db (db, .checked row now user false) := .waits .checked (.refl row db)
  unfold refreshIdpMembershipAndAllowlist
  dsimp only
  split
  · exact .refused rfl ⟨rfl, rfl, .inl rfl⟩
  · exact .refused rfl (.refl row db)
  · split
    · split
      · split
        · exact checked _
        · exact .waits (.asks (.gettingMemberships rfl)) (.refl row db)
      · exact checked _
    · exact checked _

theorem checkAllowlist_screened (memberships : List String) :
    Screened check.row db (checkAllowlist db check memberships) := by
  unfold checkAllowlist
  dsimp only
  split
  · exact .refused rfl ⟨rfl, rfl, .inr ⟨check.now, .admin, by simp, rfl⟩⟩
  · exact .waits .checked (.refl check.row db)

theorem membershipsFound_screened (answer : Except IdpFailure (List String)) :
    Screened check.row db (membershipsFound db check answer) := by
  cases answer with
  | ok memberships => exact checkAllowlist_screened memberships
  | error failure => exact lookupFailed_screened db check.row failure

theorem membershipsAnswered_screened (answer : Except IdpFailure (List String)) :
    Screened check.row db (membershipsAnswered db check answer) := by
  unfold membershipsAnswered
  split
  · split
    · exact .waits (.asks (.refreshingIdpToken rfl)) (.refl check.row db)
    · exact lookupFailed_screened db check.row .tokenRevoked
  · exact membershipsFound_screened _

theorem idpTokenRefreshed_screened (answer : Except IdpFailure IdpRefreshResult) :
    Screened check.row db (idpTokenRefreshed ctx db check answer) := by
  cases answer with
  | error failure => exact lookupFailed_screened db check.row failure
  | ok refreshed =>
    have quiet : Lapse check.row db (storeRefreshed ctx db check refreshed) := ⟨rfl, rfl, .inl rfl⟩
    unfold idpTokenRefreshed
    dsimp only
    split
    · exact .waits (.asks (.listingMemberships rfl)) quiet
    · exact .refused rfl quiet

theorem lookUp_turn : Turn db request .verifying (lookUp ctx db request) := by
  unfold lookUp
  split
  · rename_i reply rejected
    exact .rejected (acceptToken_refuses db request reply rejected)
  · rename_i claims row accepted
    obtain ⟨same, selects⟩ := acceptToken_selects accepted
    refine .selected selects ?_
    split
    · exact .refused rfl (.refl row db)
    · rw [← same]
      exact .refused rfl ⟨rfl, rfl, .inr ⟨db.clock, .idleExpired, by simp, rfl⟩⟩
    · exact refreshIdpMembershipAndAllowlist_screened db.clock

theorem handleReuseBranch_turn {now revokedAt : Int} {user : Option User} {recheckFailed : Bool}
    (revoked : row.revokedAt = some revokedAt) : Turn db request (.checked row now user recheckFailed)
      (handleReuseBranch db row revokedAt request.fingerprint recheckFailed) := by
  have answer (reply : Reply) (refused : reply.served = false) {verdict : ReuseVerdict} {db' : AuthDb}
      (decided : reuseVerdict db row revokedAt request.fingerprint recheckFailed = verdict)
      (writes : reuseWrites db row verdict = db') :
      Turn db request (.checked row now user recheckFailed) (db', .answered row reply) := by
    rw [← writes, ← decided]
    exact .reused revoked refused
  unfold handleReuseBranch
  split
  · rename_i decided; exact answer _ rfl decided rfl
  · rename_i decided; exact answer _ rfl decided rfl
  · rename_i decided; exact answer _ rfl decided rfl
  · rename_i successor decided; exact .retried revoked decided
  · rename_i replayCount decided
    dsimp only
    split
    · rename_i many
      exact answer _ rfl decided (by simp [reuseWrites, ReuseVerdict.revokesFamily, many])
    · rename_i few
      exact answer _ rfl decided (by simp [reuseWrites, ReuseVerdict.revokesFamily, few])
  · rename_i decided; exact answer _ rfl decided rfl

theorem rotateRefreshToken_turn {now : Int} {user : Option User} {recheckFailed : Bool} (live : row.revokedAt = none) :
    Turn db request (.checked row now user recheckFailed) (rotateRefreshToken db row user now) := by
  unfold rotateRefreshToken
  split
  · exact .raced live rfl
  · rename_i single
    exact .rotated live (not_not.mp single)

theorem insertSuccessor_turn {mint : Mint} {refreshJwt : RefreshTokenClaims} :
    Turn db request (.signingRefresh mint refreshJwt) (insertSuccessor db mint refreshJwt request.fingerprint) := by
  unfold insertSuccessor
  split
  · rename_i taken; exact .clashed taken
  · rename_i tokens fresh; exact .inserted fresh

theorem linkSuccessor_turn {mint : Mint} {refreshJwt : RefreshTokenClaims} :
    Turn db request (.inserted mint refreshJwt) (linkSuccessor db mint refreshJwt) := by
  unfold linkSuccessor
  split
  · rename_i taken; exact .unlinked taken
  · rename_i tokens linked; exact .linked linked

theorem advance_turn (ctx : AuthHandlerContext) (db : AuthDb) (request : RefreshRequest) (answers : IdpAnswers)
    (stage : Stage) : Turn db request stage (advance ctx db request answers stage) := by
  cases stage with
  | verifying => exact lookUp_turn
  | gettingMemberships check => exact .screened (.gettingMemberships rfl) (membershipsAnswered_screened _)
  | refreshingIdpToken check => exact .screened (.refreshingIdpToken rfl) (idpTokenRefreshed_screened _)
  | listingMemberships check => exact .screened (.listingMemberships rfl) (membershipsFound_screened _)
  | checked row now user recheckFailed =>
    rw [advance]
    split
    · rename_i revokedAt revoked
      exact handleReuseBranch_turn revoked
    · rename_i live
      exact rotateRefreshToken_turn live
  | signingAccess mint => exact .signed
  | signingRefresh mint refreshJwt => exact insertSuccessor_turn
  | inserted mint refreshJwt => exact linkSuccessor_turn
  | reminting row pair => exact .reminted
  | answered row reply => exact .settled

end

end Coordinator
