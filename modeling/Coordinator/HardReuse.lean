import Coordinator.FamilyRevocation

namespace Coordinator
open RefreshTokens

/-- The turns of one request with nothing else running; `delays n` seconds pass
before the turn with `n` turns to go. -/
def serve (ctx : AuthHandlerContext) (request : RefreshRequest) (answers : IdpAnswers) (delays : Nat → Nat) :
    Nat → AuthDb → Stage → AuthDb × Stage
  | 0, db, stage => (db, stage)
  | n + 1, db, stage =>
    let result := advance ctx db request answers stage
    serve ctx request answers delays n (result.1.wait (delays n)) result.2

/-- The whole handler: no request takes more than eight turns. -/
def refreshTokenGrant (ctx : AuthHandlerContext) (db : AuthDb) (request : RefreshRequest) (answers : IdpAnswers)
    (delays : Nat → Nat) : AuthDb × Stage :=
  serve ctx request answers delays 8 db .verifying

def Stage.isAnswered : Stage → Bool
  | .answered _ _ => true
  | _ => false

/-- The turns that are left at most. -/
def Stage.rank : Stage → Nat
  | .verifying => 8
  | .gettingMemberships _ => 7
  | .refreshingIdpToken _ => 6
  | .listingMemberships _ => 5
  | .checked _ _ _ _ => 4
  | .signingAccess _ => 3
  | .signingRefresh _ _ => 2
  | .inserted _ _ | .reminting _ _ => 1
  | .answered _ _ => 0

section
variable {ctx : AuthHandlerContext} {db : AuthDb} {request : RefreshRequest} {answers : IdpAnswers}
  {delays : Nat → Nat} {check : MembershipCheck} {row : RefreshRow}

theorem rank_lookupFailed (row : RefreshRow) (failure : IdpFailure) : (lookupFailed row failure).rank = 0 := by
  cases failure <;> rfl

theorem rank_membershipsFound (answer : Except IdpFailure (List String)) :
    (membershipsFound db check answer).2.rank ≤ 4 := by
  cases answer with
  | error failure => exact (rank_lookupFailed check.row failure).le.trans (Nat.zero_le _)
  | ok memberships =>
    simp only [membershipsFound, checkAllowlist]
    split
    · exact Nat.zero_le 4
    · exact le_rfl

theorem rank_refreshIdpMembershipAndAllowlist (now : Int) :
    (refreshIdpMembershipAndAllowlist ctx db row now).2.rank ≤ 7 := by
  unfold refreshIdpMembershipAndAllowlist
  dsimp only
  split
  · exact Nat.zero_le 7
  · exact Nat.zero_le 7
  · split
    · split
      · split
        · exact show 4 ≤ 7 by decide
        · exact le_rfl
      · exact show 4 ≤ 7 by decide
    · exact show 4 ≤ 7 by decide

theorem rank_lookUp : (lookUp ctx db request).2.rank ≤ 7 := by
  unfold lookUp
  split
  · exact Nat.zero_le 7
  · split
    · exact Nat.zero_le 7
    · exact Nat.zero_le 7
    · exact rank_refreshIdpMembershipAndAllowlist _

theorem rank_handleReuseBranch (revokedAt : Int) (fingerprint : Option String) (recheckFailed : Bool) :
    (handleReuseBranch db row revokedAt fingerprint recheckFailed).2.rank ≤ 1 := by
  unfold handleReuseBranch
  split
  · exact Nat.zero_le 1
  · exact Nat.zero_le 1
  · exact Nat.zero_le 1
  · exact le_rfl
  · dsimp only
    split
    · exact Nat.zero_le 1
    · exact Nat.zero_le 1
  · exact Nat.zero_le 1

theorem rank_membershipsAnswered (answer : Except IdpFailure (List String)) :
    (membershipsAnswered db check answer).2.rank ≤ 6 := by
  unfold membershipsAnswered
  split
  · split
    · exact le_rfl
    · exact (rank_lookupFailed check.row .tokenRevoked).le.trans (Nat.zero_le 6)
  · exact (rank_membershipsFound _).trans (by decide)

theorem rank_idpTokenRefreshed (answer : Except IdpFailure IdpRefreshResult) :
    (idpTokenRefreshed ctx db check answer).2.rank ≤ 5 := by
  unfold idpTokenRefreshed
  split
  · exact (rank_lookupFailed check.row _).le.trans (Nat.zero_le _)
  · dsimp only
    split
    · exact le_rfl
    · exact (rank_lookupFailed check.row _).le.trans (Nat.zero_le _)

theorem rank_rotateRefreshToken (user : Option User) (now : Int) : (rotateRefreshToken db row user now).2.rank ≤ 3 := by
  unfold rotateRefreshToken
  split
  · exact Nat.zero_le 3
  · exact le_rfl

theorem rank_insertSuccessor (mint : Mint) (refreshJwt : RefreshTokenClaims) (fingerprint : Option String) :
    (insertSuccessor db mint refreshJwt fingerprint).2.rank ≤ 1 := by
  unfold insertSuccessor
  split
  · exact Nat.zero_le 1
  · exact le_rfl

theorem rank_linkSuccessor (mint : Mint) (refreshJwt : RefreshTokenClaims) :
    (linkSuccessor db mint refreshJwt).2.rank ≤ 0 := by
  unfold linkSuccessor
  split <;> exact le_rfl

end

section
variable (ctx : AuthHandlerContext) (db : AuthDb) (request : RefreshRequest) (answers : IdpAnswers) (delays : Nat → Nat)

theorem rank_advance (stage : Stage) : (advance ctx db request answers stage).2.rank ≤ stage.rank - 1 := by
  cases stage with
  | verifying => exact rank_lookUp
  | gettingMemberships check => exact rank_membershipsAnswered _
  | refreshingIdpToken check => exact rank_idpTokenRefreshed _
  | listingMemberships check => exact rank_membershipsFound _
  | checked row now user recheckFailed =>
    rw [advance]
    split
    · exact (rank_handleReuseBranch _ _ _).trans (show 1 ≤ 3 by decide)
    · exact rank_rotateRefreshToken _ _
  | signingAccess mint => exact le_rfl
  | signingRefresh mint refreshJwt => exact rank_insertSuccessor _ _ _
  | inserted mint refreshJwt => exact rank_linkSuccessor _ _
  | reminting row pair => exact le_rfl
  | answered row reply => exact le_rfl

theorem rank_serve (n : Nat) (stage : Stage) :
    (serve ctx request answers delays n db stage).2.rank ≤ stage.rank - n := by
  induction n generalizing db stage with
  | zero => exact le_rfl
  | succ n ih =>
    have turn := rank_advance ctx db request answers stage
    have rest := ih ((advance ctx db request answers stage).1.wait (delays n)) (advance ctx db request answers stage).2
    rw [serve]
    omega

/-- Every request is answered. -/
theorem refreshTokenGrant_answered : (refreshTokenGrant ctx db request answers delays).2.isAnswered := by
  have done : (refreshTokenGrant ctx db request answers delays).2.rank ≤ 0 :=
    rank_serve ctx db request answers delays 8 .verifying
  cases stage : (refreshTokenGrant ctx db request answers delays).2 with
  | answered row reply => rfl
  | verifying | gettingMemberships | refreshingIdpToken | listingMemberships | checked | signingAccess | signingRefresh
  | inserted | reminting =>
    rw [stage] at done
    cases done

end

/-- A row of the family that was revoked for another reason than rotation, or
longer ago than the grace window. -/
def PastGrace (db : AuthDb) (row : RefreshRow) (family : Nat) : Prop :=
  row.familyId = some family ∧ ∃ revokedAt, row.revokedAt = some revokedAt ∧
    (row.revokedReason ≠ some .rotated ∨ revokedAt + graceWindowS ≤ db.clock)

/-- The presented token passes the checks of its claims, and its row is past grace. -/
structure HardReuse (db : AuthDb) (request : RefreshRequest) (claims : ParsedRefreshClaims) (row : RefreshRow)
    (family : Nat) : Prop where
  token : request.token = some claims
  acceptable : Acceptable db claims
  found : db.refreshTokens.find claims.jti = some row
  past : PastGrace db row family

/-- The request is answered, and no row of the family is left unrevoked. -/
def DetectsReuse (ctx : AuthHandlerContext) (db : AuthDb) (request : RefreshRequest) (answers : IdpAnswers)
    (delays : Nat → Nat) (family : Nat) : Prop :=
  (refreshTokenGrant ctx db request answers delays).2.isAnswered ∧
    (refreshTokenGrant ctx db request answers delays).1.refreshTokens.FamilyDead family

/-- The provider answers the membership question, if need be after an exchange of its token. -/
def MembershipsAnswered (refreshToken : Option String) (provider : IdPProvider) (answers : IdpAnswers) : Prop :=
  answers.getMemberships.isOk ∨ (answers.getMemberships = .error .tokenRevoked ∧ refreshToken.isSome ∧
    provider.refreshIdpToken ∧ answers.refreshIdpToken.isOk ∧ provider.listMemberships ∧ answers.listMemberships.isOk)

/-- A membership check is due: the user has a provider token and the provider lists memberships. -/
def CheckDue (ctx : AuthHandlerContext) (found : Option User) (access : Option String) (user : User)
    (accessToken : String) (provider : IdPProvider) : Prop :=
  found = some user ∧ access = some accessToken ∧ accessToken ≠ "" ∧ recheckProvider ctx user = some provider

/-- The stored provider tokens decrypt, and where a membership check is due, it is answered. -/
def LookupPasses (ctx : AuthHandlerContext) (db : AuthDb) (row : RefreshRow) (answers : IdpAnswers) : Prop :=
  ∃ access refresh, readIdpTokens ctx row.userId (db.users.find row.userId) = .ok (access, refresh) ∧
    ∀ user accessToken provider, CheckDue ctx (db.users.find row.userId) access user accessToken provider →
      MembershipsAnswered refresh provider answers

section
variable {ctx : AuthHandlerContext} {db : AuthDb} {request : RefreshRequest} {answers : IdpAnswers}
  {delays : Nat → Nat} {row : RefreshRow} {family n : Nat}

/-- A row past grace stays so. -/
theorem PastGrace.later {db' : AuthDb} (past : PastGrace db row family) (clock : db'.clock = db.clock) (seconds : Nat) :
    PastGrace (db'.wait seconds) row family := by
  obtain ⟨inFamily, revokedAt, revoked, hard⟩ := past
  refine ⟨inFamily, revokedAt, revoked, hard.imp_right fun passed => ?_⟩
  rw [AuthDb.wait_clock, clock]
  omega

theorem serve_answered (old : Option RefreshRow) (reply : Reply) :
    (serve ctx request answers delays n db (.answered old reply)).1.refreshTokens = db.refreshTokens := by
  induction n generalizing db with
  | zero => rfl
  | succ n ih => exact ih

theorem serve_checked (past : PastGrace db row family) {now : Int} {user : Option User} {recheckFailed : Bool} :
    (serve ctx request answers delays (n + 1) db (.checked row now user recheckFailed)).1.refreshTokens.FamilyDead family := by
  obtain ⟨inFamily, revokedAt, revoked, hard⟩ := past
  have verdict : reuseVerdict db row revokedAt request.fingerprint recheckFailed = .hardReuse := by
    rw [reuseVerdict, if_pos]
    rcases hard with other | passed
    · exact .inr other
    · exact .inl (by omega)
  have result : advance ctx db request answers (.checked row now user recheckFailed) =
      (revokeFamilyForReuse db row.familyId, .answered row (invalidGrant "Refresh token chain revoked" 401)) := by
    simp only [advance, revoked, handleReuseBranch, verdict]
  rw [serve, result, serve_answered, inFamily]
  exact familyDead_revokeFamily db.refreshTokens family db.clock .reuseDetected

/-- A failed lookup leaves the tokens as they are. -/
theorem serve_lookupFailed (failure : IdpFailure) :
    (serve ctx request answers delays n db (lookupFailed row failure)).1.refreshTokens = db.refreshTokens := by
  cases failure <;> exact serve_answered _ _

theorem PastGrace.revoked (past : PastGrace db row family) : row.revokedAt ≠ none := by
  obtain ⟨-, revokedAt, revoked, -⟩ := past
  rw [revoked]
  exact Option.some_ne_none revokedAt

theorem serve_membershipsFound {check : MembershipCheck} (past : PastGrace db check.row family) (seconds : Nat)
    (answer : Except IdpFailure (List String)) :
    (serve ctx request answers delays (n + 1) ((membershipsFound db check answer).1.wait seconds)
      (membershipsFound db check answer).2).1.refreshTokens.FamilyDead family ↔
        db.refreshTokens.FamilyDead family ∨ answer.isOk := by
  cases answer with
  | error failure =>
    rw [membershipsFound, serve_lookupFailed, AuthDb.wait_refreshTokens]
    exact (or_iff_left Bool.false_ne_true).symm
  | ok memberships =>
    simp only [membershipsFound, checkAllowlist, past.revoked, and_false, if_false]
    exact iff_of_true (serve_checked (past.later rfl seconds)) (.inr rfl)

theorem serve_listing {check : MembershipCheck} (past : PastGrace db check.row family) :
    (serve ctx request answers delays (n + 2) db (.listingMemberships check)).1.refreshTokens.FamilyDead family ↔
      db.refreshTokens.FamilyDead family ∨ answers.listMemberships.isOk := by
  rw [serve, advance]
  exact serve_membershipsFound past _ _

theorem serve_refreshing {check : MembershipCheck} (past : PastGrace db check.row family) :
    (serve ctx request answers delays (n + 3) db (.refreshingIdpToken check)).1.refreshTokens.FamilyDead family ↔
      db.refreshTokens.FamilyDead family ∨ (answers.refreshIdpToken.isOk ∧ check.provider.listMemberships ∧
        answers.listMemberships.isOk) := by
  rw [serve, advance]
  cases answers.refreshIdpToken with
  | error failure =>
    simp only [idpTokenRefreshed]
    rw [serve_lookupFailed, AuthDb.wait_refreshTokens]
    exact (or_iff_left fun passes => Bool.false_ne_true passes.1).symm
  | ok refreshed =>
    simp only [idpTokenRefreshed]
    by_cases lists : check.provider.listMemberships
    · have later : PastGrace ((storeRefreshed ctx db check refreshed).wait (delays (n + 2))) check.row family :=
        past.later rfl _
      rw [if_pos lists, serve_listing later]
      exact or_congr_right (by simp [lists, Except.isOk, Except.toBool])
    · rw [if_neg lists, serve_lookupFailed, AuthDb.wait_refreshTokens]
      exact (or_iff_left fun passes => lists passes.2.1).symm

theorem serve_getting {check : MembershipCheck} (past : PastGrace db check.row family) :
    (serve ctx request answers delays (n + 4) db (.gettingMemberships check)).1.refreshTokens.FamilyDead family ↔
      db.refreshTokens.FamilyDead family ∨ MembershipsAnswered check.refreshToken check.provider answers := by
  rw [serve, advance, MembershipsAnswered]
  cases answers.getMemberships with
  | ok memberships =>
    have asked : membershipsAnswered db check (.ok memberships) = membershipsFound db check (.ok memberships) := rfl
    rw [asked, serve_membershipsFound past]
    exact or_congr_right (by simp [Except.isOk, Except.toBool])
  | error failure =>
    by_cases exchange : failure = .tokenRevoked ∧ check.refreshToken.isSome ∧ check.provider.refreshIdpToken
    · obtain ⟨rfl, refreshToken, refreshes⟩ := exchange
      have asked : membershipsAnswered db check (.error .tokenRevoked) = (db, .refreshingIdpToken check) :=
        if_pos ⟨refreshToken, refreshes⟩
      rw [asked, serve_refreshing (past.later rfl _), AuthDb.wait_refreshTokens]
      exact or_congr_right (by simp [refreshToken, refreshes, Except.isOk, Except.toBool])
    · have asked : membershipsAnswered db check (.error failure) = (db, lookupFailed check.row failure) := by
        cases failure with
        | tokenRevoked => exact if_neg fun both => exchange ⟨rfl, both⟩
        | transient => rfl
        | other => rfl
      rw [asked, serve_lookupFailed, AuthDb.wait_refreshTokens]
      refine (or_iff_left ?_).symm
      intro answers
      rcases answers with answered | ⟨revoked, refreshToken, refreshes, -⟩
      · exact Bool.false_ne_true answered
      · exact exchange ⟨Except.error.inj revoked, refreshToken, refreshes⟩

/-- The idle check does nothing to a revoked row. -/
theorem revokeToken_of_revoked {T : RefreshTokens} {jti : Nat} {now : Int} {reason : RevokedReason}
    (found : T.find jti = some row) (revoked : row.revokedAt ≠ none) (family : Nat) :
    (T.revokeToken jti now reason).FamilyDead family ↔ T.FamilyDead family := by
  have untouched : ∀ r ∈ T.rows, unrevoked (fun s => s.jti = jti) r = false := by
    intro r member
    rw [Bool.eq_false_iff]
    intro hit
    simp only [unrevoked, Bool.and_eq_true, decide_eq_true_eq, Option.isNone_iff_eq_none] at hit
    obtain ⟨rowMember, rowJti⟩ := Table.find_eq_some.mp found
    rw [List.inj_on_of_nodup_map T.keyed member rowMember (hit.1.trans rowJti.symm)] at hit
    exact revoked hit.2
  refine ⟨fun dead r member => ?_, (Evolves.revokeWhere _ _ _ _).familyDead⟩
  refine dead r (mem_revokeWhere.mpr ⟨r, member, ?_⟩)
  rw [if_neg (by simp [untouched r member])]

theorem CheckDue.functional {found : Option User} {access : Option String} {user user' : User}
    {accessToken accessToken' : String} {provider provider' : IdPProvider}
    (due : CheckDue ctx found access user accessToken provider)
    (due' : CheckDue ctx found access user' accessToken' provider') : provider' = provider := by
  obtain ⟨sameUser, -, -, supported⟩ := due
  obtain ⟨sameUser', -, -, supported'⟩ := due'
  obtain rfl := Option.some.inj (sameUser.symm.trans sameUser')
  exact Option.some.inj (supported'.symm.trans supported)

theorem membership_due {access refresh : Option String} {user : User} {accessToken : String} {provider : IdPProvider}
    (now : Int) (tokens : readIdpTokens ctx row.userId (db.users.find row.userId) = .ok (access, refresh))
    (due : CheckDue ctx (db.users.find row.userId) access user accessToken provider) :
    refreshIdpMembershipAndAllowlist ctx db row now =
      (db, .gettingMemberships ⟨row, now, user, accessToken, refresh, provider⟩) := by
  obtain ⟨found, rfl, nonempty, supported⟩ := due
  simp only [refreshIdpMembershipAndAllowlist, tokens]
  simp only [found, supported, nonempty, if_false]

theorem membership_skipped {access refresh : Option String} (now : Int)
    (tokens : readIdpTokens ctx row.userId (db.users.find row.userId) = .ok (access, refresh))
    (skipped : ¬ ∃ user accessToken provider, CheckDue ctx (db.users.find row.userId) access user accessToken provider) :
    ∃ user, refreshIdpMembershipAndAllowlist ctx db row now = (db, .checked row now user false) := by
  simp only [refreshIdpMembershipAndAllowlist, tokens]
  split
  · rename_i user accessToken found
    split
    · rename_i provider supported
      split
      · exact ⟨_, rfl⟩
      · rename_i nonempty
        exact absurd ⟨user, accessToken, provider, found, rfl, nonempty, supported⟩ skipped
    · exact ⟨_, rfl⟩
  · exact ⟨_, rfl⟩

/-- The membership step of a row past grace. -/
theorem serve_membership (past : PastGrace db row family) {now : Int} (seconds : Nat) :
    (serve ctx request answers delays (n + 4) ((refreshIdpMembershipAndAllowlist ctx db row now).1.wait seconds)
      (refreshIdpMembershipAndAllowlist ctx db row now).2).1.refreshTokens.FamilyDead family ↔
      db.refreshTokens.FamilyDead family ∨ LookupPasses ctx db row answers := by
  rcases tokens : readIdpTokens ctx row.userId (db.users.find row.userId) with failure | ⟨access, refresh⟩
  · have fails : ¬ LookupPasses ctx db row answers := by
      intro passes
      obtain ⟨access, refresh, decrypted, -⟩ := passes
      cases tokens.symm.trans decrypted
    rw [or_iff_left fails]
    simp only [refreshIdpMembershipAndAllowlist, tokens]
    cases failure with
    | undecryptable => rw [serve_answered]; rfl
    | other => rw [serve_answered]; rfl
  · by_cases due : ∃ user accessToken provider, CheckDue ctx (db.users.find row.userId) access user accessToken provider
    · obtain ⟨user, accessToken, provider, due⟩ := due
      have later : PastGrace (db.wait seconds) row family := past.later rfl seconds
      rw [membership_due now tokens due, serve_getting later, AuthDb.wait_refreshTokens]
      refine or_congr_right ⟨fun answered => ⟨access, refresh, tokens, ?_⟩, ?_⟩
      · intro user' accessToken' provider' due'
        rw [due.functional due']
        exact answered
      · intro looksUp
        obtain ⟨access', refresh', tokens', passes⟩ := looksUp
        obtain ⟨rfl, rfl⟩ := Prod.mk.inj (Except.ok.inj (tokens'.symm.trans tokens))
        exact passes user accessToken provider due
    · obtain ⟨user, skipped⟩ := membership_skipped now tokens due
      rw [skipped]
      refine iff_of_true (serve_checked (past.later rfl seconds)) (.inr ⟨access, refresh, tokens, ?_⟩)
      exact fun user accessToken provider now => absurd ⟨user, accessToken, provider, now⟩ due

/-- Hard reuse is detected exactly when the family has no unrevoked row anyway,
or neither the idle timeout nor the membership step ends the request first. -/
theorem hardReuse_detected_iff {claims : ParsedRefreshClaims} (reuse : HardReuse db request claims row family) :
    DetectsReuse ctx db request answers delays family ↔
      db.refreshTokens.FamilyDead family ∨
        (idleCheck ctx row claims.iat db.clock = .active ∧ LookupPasses ctx db row answers) := by
  have accepted := acceptToken_ok.mpr ⟨reuse.token, reuse.acceptable, reuse.found⟩
  rw [DetectsReuse, and_iff_right (refreshTokenGrant_answered ctx db request answers delays), refreshTokenGrant, serve,
    advance]
  cases idle : idleCheck ctx row claims.iat db.clock with
  | active =>
    simp only [lookUp, accepted, idle, true_and]
    exact serve_membership reuse.past (delays 7)
  | expired =>
    simp only [lookUp, accepted, idle, reduceCtorEq, false_and, or_false]
    rw [serve_answered]
    exact revokeToken_of_revoked reuse.found reuse.past.revoked family
  | invalid =>
    simp only [lookUp, accepted, idle, reduceCtorEq, false_and, or_false]
    rw [serve_answered]
    rfl

end

namespace AuthWorld

/-- The turns of a single request are a run of the server. -/
theorem run_serve (ctx : AuthHandlerContext) (w : AuthWorld) (request : RefreshRequest) (answers : IdpAnswers)
    (delays : Nat → Nat) (n : Nat) (stage : Stage) :
    Run ctx (fun _ _ => True) { w with flights := w.flights ++ [⟨request, stage⟩] }
      { db := (serve ctx request answers delays n w.db stage).1
        flights := w.flights ++ [⟨request, (serve ctx request answers delays n w.db stage).2⟩] } := by
  induction n generalizing w stage with
  | zero => exact .start _
  | succ n ih =>
    have found : (w.flights ++ [(⟨request, stage⟩ : Flight)])[w.flights.length]? = some ⟨request, stage⟩ := by simp
    have turn : step ctx { w with flights := w.flights ++ [⟨request, stage⟩] } (.advance w.flights.length answers) =
        { db := (Coordinator.advance ctx w.db request answers stage).1
          flights := w.flights ++ [⟨request, (Coordinator.advance ctx w.db request answers stage).2⟩] } := by
      rw [step_advance ctx answers found]
      simp
    have first : Run ctx (fun _ _ => True) { w with flights := w.flights ++ [⟨request, stage⟩] } _ :=
      GuardedRun.single (.advance w.flights.length answers) trivial
    rw [turn] at first
    have wait := first.next (.tick (delays n)) trivial
    exact wait.trans (ih { w with db := (Coordinator.advance ctx w.db request answers stage).1.wait (delays n) } _)

/-- The handler is a run of the server from the arrival of the request. -/
theorem run_refreshTokenGrant (ctx : AuthHandlerContext) (w : AuthWorld) (request : RefreshRequest)
    (answers : IdpAnswers) (delays : Nat → Nat) : Run ctx (fun _ _ => True) w
      { db := (refreshTokenGrant ctx w.db request answers delays).1
        flights := w.flights ++ [⟨request, (refreshTokenGrant ctx w.db request answers delays).2⟩] } := by
  have arrived : Run ctx (fun _ _ => True) w (w.step ctx (.arrive request)) := .single _ trivial
  exact arrived.trans (run_serve ctx w request answers delays 8 .verifying)

/-- Ada's server 35 s after she signed in and 15 s after she rotated her token. -/
def rotatedServer (ctx : AuthHandlerContext) : AuthWorld :=
  adasServer.after ctx ([signIn, .tick 20, .arrive adasToken] ++ turns 0 6 ++ [.tick 15])

def adasClaims : ParsedRefreshClaims := ⟨"ada", 1, 1000, some .refresh, false⟩

theorem hardReuse_of_rotated (ctx : AuthHandlerContext)
    (rotated : ((rotatedServer ctx).db.refreshTokens.find 1).map (fun r => (r.familyId, r.revokedAt)) = some (some 0, some 1020))
    (clock : (rotatedServer ctx).db.clock = 1035) (acceptable : Acceptable (rotatedServer ctx).db adasClaims) :
    ∃ row, HardReuse (rotatedServer ctx).db adasToken adasClaims row 0 := by
  obtain ⟨row, found, same⟩ := Option.map_eq_some_iff.mp rotated
  obtain ⟨inFamily, revoked⟩ := Prod.mk.inj same
  refine ⟨row, rfl, acceptable, found, inFamily, 1020, revoked, .inr ?_⟩
  rw [clock]
  decide

/-- Without an idle timeout and without a provider token the replay kills the family. -/
theorem hardReuse_detected_replay :
    DetectsReuse plainContext (rotatedServer plainContext).db adasToken silentIdp (fun _ => 0) 0 := by
  obtain ⟨row, reuse⟩ := hardReuse_of_rotated plainContext (by decide) (by decide) ⟨rfl, rfl, by decide⟩
  have user : row.userId = "ada" := by
    have owner : ((rotatedServer plainContext).db.refreshTokens.find 1).map RefreshRow.userId = some "ada" := by decide
    rw [show (rotatedServer plainContext).db.refreshTokens.find 1 = some row from reuse.found] at owner
    exact Option.some.inj owner
  refine (hardReuse_detected_iff reuse).mpr (.inr ⟨rfl, none, none, ?_, ?_⟩)
  · rw [user]
    rfl
  · rintro _ _ _ ⟨-, none, -⟩
    cases none

/-- `COORDINATOR_SESSION_IDLE_TIMEOUT=30s`. -/
def idleContext : AuthHandlerContext := { plainContext with sessionIdleTimeout := fun _ => "30s" }

/-- The replay of the rotated token is taken for an idle session, and the successor stays alive. -/
theorem not_hardReuse_detected : ¬ ∀ ctx users orgs clock w, Run ctx (fun _ _ => True) (boot users orgs clock) w →
    ∀ request claims row family answers delays, HardReuse w.db request claims row family →
      DetectsReuse ctx w.db request answers delays family := by
  intro detects
  have run : Run idleContext (fun _ _ => True) adasServer (rotatedServer idleContext) := .of_inputs fun _ _ => trivial
  obtain ⟨row, reuse⟩ := hardReuse_of_rotated idleContext (by decide) (by decide) ⟨rfl, rfl, by decide⟩
  obtain ⟨-, dead⟩ := detects idleContext _ _ _ _ run _ _ row 0 silentIdp (fun _ => 0) reuse
  have alive : ((refreshTokenGrant idleContext (rotatedServer idleContext).db adasToken silentIdp
      fun _ => 0).1.refreshTokens.rows.any fun r => r.familyId = some 0 && r.revokedAt.isNone) = true := by decide
  obtain ⟨r, member, live⟩ := List.any_eq_true.mp alive
  simp only [Bool.and_eq_true, decide_eq_true_eq, Option.isNone_iff_eq_none] at live
  exact dead r member live.1 live.2

end AuthWorld

end Coordinator
