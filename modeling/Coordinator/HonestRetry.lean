import Coordinator.GraceRetry
import Coordinator.HardReuse

namespace Coordinator
open RefreshTokens

/-- The memberships lead to an allowlisted org. -/
def allowlisted (db : AuthDb) (memberships : List String) : Bool :=
  (resolveOrgFromMemberships db.orgs.rows memberships).isSome

/-- The next turn passes its checks: the token is accepted, no idle timeout is
set, the stored provider tokens decrypt and the provider confirms the membership. -/
def passesChecks (ctx : AuthHandlerContext) (db : AuthDb) (request : RefreshRequest) (answers : IdpAnswers) :
    Stage → Bool
  | .verifying => match acceptToken db request with
    | .error _ => false
    | .ok (_, row) => (ctx.sessionIdleTimeout row.orgId = "" || ctx.sessionIdleTimeout row.orgId = "0") &&
      (readIdpTokens ctx row.userId (db.users.find row.userId)).isOk
  | .gettingMemberships check => match answers.getMemberships with
    | .ok memberships => allowlisted db memberships
    | .error failure => failure = .tokenRevoked && check.refreshToken.isSome && check.provider.refreshIdpToken
  | .refreshingIdpToken check => answers.refreshIdpToken.isOk && check.provider.listMemberships
  | .listingMemberships _ => match answers.listMemberships with
    | .ok memberships => allowlisted db memberships
    | .error _ => false
  | _ => true

/-- Between the selection of the row and the decision about it, with no check failed. -/
inductive Stage.Cleared (row : RefreshRow) : Stage → Prop
  | asks {stage : Stage} : stage.Asks row → Cleared row stage
  | checked {now : Int} {user : Option User} : Cleared row (.checked row now user false)

section
variable {ctx : AuthHandlerContext} {db : AuthDb} {request : RefreshRequest} {answers : IdpAnswers} {row : RefreshRow}

/-- A turn that passes its checks leaves the tokens, the draws and the clock alone. -/
structure PassedOn (db : AuthDb) (row : RefreshRow) (result : AuthDb × Stage) : Prop where
  tokens : result.1.refreshTokens = db.refreshTokens
  draws : result.1.draws = db.draws
  cleared : result.2.Cleared row

theorem passedOn_checked (db : AuthDb) (row : RefreshRow) (now : Int) (user : Option User) :
    PassedOn db row (db, .checked row now user false) := ⟨rfl, rfl, .checked⟩

theorem checkAllowlist_passedOn {check : MembershipCheck} {memberships : List String}
    (listed : allowlisted db memberships) : PassedOn db check.row (checkAllowlist db check memberships) := by
  have found : (resolveOrgFromMemberships db.orgs.rows memberships).isNone = false := by
    rw [← Option.not_isSome]
    simpa [allowlisted] using listed
  simp only [checkAllowlist, found, Bool.false_eq_true, false_and, if_false]
  exact passedOn_checked db check.row check.now check.user

theorem asks_passedOn {stage : Stage} (asks : stage.Asks row) (passes : passesChecks ctx db request answers stage) :
    PassedOn db row (advance ctx db request answers stage) := by
  cases asks with
  | @gettingMemberships check same =>
    subst same
    simp only [passesChecks, advance] at passes ⊢
    cases answered : answers.getMemberships with
    | ok memberships =>
      rw [answered] at passes
      exact checkAllowlist_passedOn passes
    | error failure =>
      rw [answered] at passes
      simp only [Bool.and_eq_true, decide_eq_true_eq] at passes
      obtain ⟨⟨rfl, refreshToken⟩, refreshes⟩ := passes
      have exchanged : membershipsAnswered db check (.error .tokenRevoked) = (db, .refreshingIdpToken check) :=
        if_pos ⟨refreshToken, refreshes⟩
      rw [exchanged]
      exact ⟨rfl, rfl, .asks (.refreshingIdpToken rfl)⟩
  | @refreshingIdpToken check same =>
    subst same
    simp only [passesChecks, advance, Bool.and_eq_true] at passes ⊢
    cases answered : answers.refreshIdpToken with
    | ok refreshed =>
      simp only [idpTokenRefreshed, passes.2, if_true]
      exact ⟨rfl, rfl, .asks (.listingMemberships rfl)⟩
    | error failure =>
      rw [answered] at passes
      cases passes.1
  | @listingMemberships check same =>
    subst same
    simp only [passesChecks, advance] at passes ⊢
    cases answered : answers.listMemberships with
    | ok memberships =>
      rw [answered] at passes
      exact checkAllowlist_passedOn passes
    | error failure =>
      rw [answered] at passes
      cases passes

theorem lookUp_passedOn {claims : ParsedRefreshClaims} (presented : request.token = some claims)
    (found : db.refreshTokens.find claims.jti = some row)
    (passes : passesChecks ctx db request answers .verifying) :
    PassedOn db row (advance ctx db request answers .verifying) := by
  simp only [passesChecks] at passes
  split at passes
  · cases passes
  · rename_i presentedClaims selected accepted
    obtain ⟨token, -, atJti⟩ := acceptToken_ok.mp accepted
    obtain rfl := Option.some.inj (presented.symm.trans token)
    obtain rfl := Option.some.inj (found.symm.trans atJti)
    simp only [Bool.and_eq_true, Bool.or_eq_true, decide_eq_true_eq] at passes
    obtain ⟨off, decrypted⟩ := passes
    have idle : idleCheck ctx row claims.iat db.clock = .active := if_pos off
    simp only [advance, lookUp, accepted, idle]
    rcases tokens : readIdpTokens ctx row.userId (db.users.find row.userId) with failure | ⟨access, refresh⟩
    · rw [tokens] at decrypted
      cases decrypted
    · by_cases due : ∃ user accessToken provider, CheckDue ctx (db.users.find row.userId) access user accessToken provider
      · obtain ⟨user, accessToken, provider, due⟩ := due
        rw [membership_due db.clock tokens due]
        exact ⟨rfl, rfl, .asks (.gettingMemberships rfl)⟩
      · obtain ⟨user, skipped⟩ := membership_skipped db.clock tokens due
        rw [skipped]
        exact passedOn_checked db row db.clock user

end

def rotationRace : Reply := invalidGrant "Rotation race; please retry" 400

/-- The request has not decided about the unrevoked row yet. -/
inductive Stage.Early (row : RefreshRow) : Stage → Prop
  | verifying : Early row .verifying
  | cleared {stage : Stage} : stage.Cleared row → Early row stage

/-- The live row that a rotation of the family put in place of its parent. -/
structure Successor (T : RefreshTokens) (family : Nat) (fingerprint : Option String) (jti : Nat) (s : RefreshRow) : Prop where
  member : s ∈ T.rows
  jti : s.jti = jti
  family : s.familyId = some family
  live : s.revokedAt = none
  fingerprint : s.consumerFingerprint = fingerprint

/-- The request that won the compare-and-set, on its way to the link. -/
inductive Stage.Leads (T : RefreshTokens) (family : Nat) (fingerprint : Option String) (mint : Mint) : Stage → Prop
  | signingAccess : Leads T family fingerprint mint (.signingAccess mint)
  | signingRefresh {refreshJwt : RefreshTokenClaims} : refreshJwt.jti = mint.refreshJti →
    Leads T family fingerprint mint (.signingRefresh mint refreshJwt)
  | inserted {refreshJwt : RefreshTokenClaims} {s : RefreshRow} : refreshJwt.jti = mint.refreshJti →
    Successor T family fingerprint mint.refreshJti s → Leads T family fingerprint mint (.inserted mint refreshJwt)

/-- The other request: it holds the row as it was or as it is, lost the race, or
was served the successor. -/
inductive Stage.Follows (row revoked : RefreshRow) (successor : Option Nat) : Stage → Prop
  | verifying : Follows row revoked successor .verifying
  | stale {stage : Stage} : stage.Cleared row → Follows row revoked successor stage
  | seen {stage : Stage} : stage.Cleared revoked → Follows row revoked successor stage
  | raced : Follows row revoked successor (.answered (some row) rotationRace)
  | reminting {pair : TokenPair} : successor = some pair.refreshJwt.jti →
    Follows row revoked successor (.reminting revoked pair)
  | served {pair : TokenPair} : successor = some pair.refreshJwt.jti →
    Follows row revoked successor (.answered (some revoked) (.tokens pair))

theorem Stage.Leads.rotation_eq {T : RefreshTokens} {family : Nat} {fingerprint : Option String} {mint : Mint}
    {stage : Stage} (leads : stage.Leads T family fingerprint mint) : stage.rotation = some mint := by
  cases leads <;> rfl

theorem Stage.Early.follows {row revoked : RefreshRow} {successor : Option Nat} {stage : Stage} (early : stage.Early row) :
    stage.Follows row revoked successor := by
  cases early with
  | verifying => exact .verifying
  | cleared cleared => exact .stale cleared

/-- A race that was lost before the link is lost after it, and so on. -/
theorem Stage.Follows.later {row revoked : RefreshRow} {successor : Option Nat} {stage : Stage}
    (follows : stage.Follows row revoked none) : stage.Follows row revoked successor := by
  cases follows with
  | verifying => exact .verifying
  | stale cleared => exact .stale cleared
  | seen cleared => exact .seen cleared
  | raced => exact .raced
  | reminting impossible => cases impossible
  | served impossible => cases impossible

namespace AuthWorld

/-- A rotation of the token is between its compare-and-set and its link. -/
def rotationUnderWay (w : AuthWorld) (jti : Nat) : Bool :=
  w.flights.any fun flight => flight.stage.rotation.any fun mint => mint.row.jti = jti

/-- A request runs its reuse branch only while no rotation of its token is under
way, and less than ten seconds after the token was rotated. -/
def reusesInTime (w : AuthWorld) : AuthEvent → Bool
  | .advance i _ => (w.reuse i).all fun (row, _) => !w.rotationUnderWay row.jti &&
      row.revokedAt.all fun revokedAt => w.db.clock < revokedAt + graceWindowS
  | _ => true

def familyRows (w : AuthWorld) (family : Nat) : List RefreshRow :=
  w.db.refreshTokens.rows.filter fun r => r.familyId = some family

/-- The turns of the two requests pass their checks, and no other step touches the family. -/
def undisturbed (ctx : AuthHandlerContext) (family a b : Nat) (w : AuthWorld) : AuthEvent → Bool
  | .advance i answers =>
    if i = a ∨ i = b then
      w.flights[i]?.all fun flight => passesChecks ctx w.db flight.request answers flight.stage
    else (w.step ctx (.advance i answers)).familyRows family = w.familyRows family
  | event => (w.step ctx event).familyRows family = w.familyRows family

/-- How far the two requests have come: neither has decided, one rotates, or one has rotated. -/
inductive Phase (row : RefreshRow) (family : Nat) (request : RefreshRequest) (x y : Nat) (w : AuthWorld) : Prop
  | fresh {leading following : Stage} : w.flights[x]? = some ⟨request, leading⟩ →
    w.flights[y]? = some ⟨request, following⟩ → w.db.refreshTokens.find row.jti = some row → leading.Early row →
    following.Early row → Phase row family request x y w
  | rotating {leading following : Stage} {mint : Mint} {revokedAt : Int} : w.flights[x]? = some ⟨request, leading⟩ →
    w.flights[y]? = some ⟨request, following⟩ →
    w.db.refreshTokens.find row.jti = some (row.revoke revokedAt .rotated) → mint.row = row → mint.familyId = family →
    leading.Leads w.db.refreshTokens family request.fingerprint mint →
    following.Follows row (row.revoke revokedAt .rotated) none → Phase row family request x y w
  | rotated {following : Stage} {pair : TokenPair} {revokedAt : Int} {s : RefreshRow} :
    w.flights[x]? = some ⟨request, .answered (some row) (.tokens pair)⟩ → w.flights[y]? = some ⟨request, following⟩ →
    w.db.refreshTokens.find row.jti = some (row.revoke revokedAt .rotated) →
    Successor w.db.refreshTokens family request.fingerprint pair.refreshJwt.jti s → s.parentJti = some row.jti →
    following.Follows row (row.revoke revokedAt .rotated) (some pair.refreshJwt.jti) → Phase row family request x y w

theorem mem_of_familyRows {w w' : AuthWorld} {family : Nat} (same : w'.familyRows family = w.familyRows family)
    {r : RefreshRow} (member : r ∈ w.db.refreshTokens.rows) (inFamily : r.familyId = some family) :
    r ∈ w'.db.refreshTokens.rows := by
  have listed : r ∈ w'.familyRows family := by
    rw [same]
    exact List.mem_filter.mpr ⟨member, decide_eq_true inFamily⟩
  exact (List.mem_filter.mp listed).1

theorem Successor.frame {w w' : AuthWorld} {family jti : Nat} {fingerprint : Option String} {s : RefreshRow}
    (successor : Successor w.db.refreshTokens family fingerprint jti s)
    (same : w'.familyRows family = w.familyRows family) : Successor w'.db.refreshTokens family fingerprint jti s :=
  { successor with member := mem_of_familyRows same successor.member successor.family }

section
variable {ctx : AuthHandlerContext} {w w' : AuthWorld} {row : RefreshRow} {family x y : Nat} {request : RefreshRequest}
  {claims : ParsedRefreshClaims} {answers : IdpAnswers}

/-- What leaves the family and the two requests alone leaves the phase as it is. -/
theorem Phase.frame (phase : Phase row family request x y w) (inFamily : row.familyId = some family)
    (same : w'.familyRows family = w.familyRows family) (atX : w'.flights[x]? = w.flights[x]?)
    (atY : w'.flights[y]? = w.flights[y]?) : Phase row family request x y w' := by
  have find : ∀ r : RefreshRow, r.familyId = some family → w.db.refreshTokens.find row.jti = some r →
      w'.db.refreshTokens.find row.jti = some r := by
    intro r ofFamily found
    obtain ⟨member, atJti⟩ := Table.find_eq_some.mp found
    exact Table.find_eq_some.mpr ⟨mem_of_familyRows same member ofFamily, atJti⟩
  cases phase with
  | fresh foundX foundY found early early' =>
    exact .fresh (atX.trans foundX) (atY.trans foundY) (find row inFamily found) early early'
  | rotating foundX foundY found sameRow sameFamily leads follows =>
    refine .rotating (atX.trans foundX) (atY.trans foundY) (find _ inFamily found) sameRow sameFamily ?_ follows
    cases leads with
    | signingAccess => exact .signingAccess
    | signingRefresh sameJti => exact .signingRefresh sameJti
    | inserted sameJti successor => exact .inserted sameJti (Successor.frame successor same)
  | rotated foundX foundY found successor child follows =>
    exact .rotated (atX.trans foundX) (atY.trans foundY) (find _ inFamily found) (Successor.frame successor same) child
      follows

/-- The request at `i` has taken its turn. -/
def turned (w : AuthWorld) (i : Nat) (request : RefreshRequest) (result : AuthDb × Stage) : AuthWorld :=
  { db := result.1, flights := w.flights.set i ⟨request, result.2⟩ }

theorem turned_self {i : Nat} {flight : Flight} {result : AuthDb × Stage} (found : w.flights[i]? = some flight) :
    (w.turned i request result).flights[i]? = some ⟨request, result.2⟩ := by
  obtain ⟨bound, -⟩ := List.getElem?_eq_some_iff.mp found
  simp [turned, bound]

theorem turned_other {i j : Nat} {result : AuthDb × Stage} (apart : i ≠ j) :
    (w.turned i request result).flights[j]? = w.flights[j]? := by
  simp [turned, apart]

theorem step_turned {i : Nat} {stage : Stage} (found : w.flights[i]? = some ⟨request, stage⟩) :
    w.step ctx (.advance i answers) = w.turned i request (Coordinator.advance ctx w.db request answers stage) :=
  step_advance ctx answers found

theorem advance_live {now : Int} {user : Option User} {recheckFailed : Bool} (live : row.revokedAt = none) (db : AuthDb) :
    Coordinator.advance ctx db request answers (.checked row now user recheckFailed) = rotateRefreshToken db row user now := by
  simp only [Coordinator.advance, live]

/-- The compare-and-set wins against an unrevoked row. -/
theorem Phase.begin {now : Int} {user : Option User} {following : Stage} (apart : x ≠ y)
    (live : row.revokedAt = none) (inFamily : row.familyId = some family)
    (foundX : w.flights[x]? = some ⟨request, .checked row now user false⟩)
    (foundY : w.flights[y]? = some ⟨request, following⟩) (found : w.db.refreshTokens.find row.jti = some row)
    (early : following.Early row) :
    Phase row family request x y (w.turned x request (rotateRefreshToken w.db row user now)) := by
  have single : w.db.refreshTokens.changes (unrevoked fun r => r.jti = row.jti) = 1 :=
    changes_jti_eq_one.mpr ⟨row, (Table.find_eq_some.mp found).1, rfl, live⟩
  have revoked : (w.db.refreshTokens.revokeToken row.jti now .rotated).find row.jti = some (row.revoke now .rotated) := by
    rw [revokeToken, revokeWhere, Table.find_update, found]
    simp [unrevoked, live]
  have begun : rotateRefreshToken w.db row user now =
      beginMint (w.db.setTokens (w.db.refreshTokens.revokeToken row.jti now .rotated)) row (mintedRole user) := by
    rw [rotateRefreshToken, if_neg (not_not.mpr single)]
  rw [begun]
  refine .rotating (turned_self foundX) ((turned_other apart).trans foundY) revoked rfl ?_ .signingAccess early.follows
  simp only [inFamily, Option.getD_some]

/-- The compare-and-set fails against a row that is revoked by now. -/
theorem rotateRefreshToken_raced {db : AuthDb} {revokedAt now : Int} {user : Option User}
    (found : db.refreshTokens.find row.jti = some (row.revoke revokedAt .rotated)) :
    rotateRefreshToken db row user now = (db, .answered (some row) rotationRace) := by
  have lost : db.refreshTokens.changes (unrevoked fun r => r.jti = row.jti) ≠ 1 := by
    intro single
    obtain ⟨r, member, atJti, live⟩ := changes_jti_eq_one.mp single
    obtain rfl := Option.some.inj (found.symm.trans (Table.find_eq_some.mpr ⟨member, atJti⟩))
    cases live
  rw [rotateRefreshToken, if_pos lost]
  rfl

/-- The successor is inserted: its identifier is nobody else's. -/
theorem Phase.insert {mint : Mint} {refreshJwt : RefreshTokenClaims} {following : Stage} {revokedAt : Int}
    (coherent : Coherent w) (apart : x ≠ y)
    (foundX : w.flights[x]? = some ⟨request, .signingRefresh mint refreshJwt⟩)
    (foundY : w.flights[y]? = some ⟨request, following⟩)
    (found : w.db.refreshTokens.find row.jti = some (row.revoke revokedAt .rotated)) (sameRow : mint.row = row)
    (sameFamily : mint.familyId = family) (atJti : refreshJwt.jti = mint.refreshJti)
    (follows : following.Follows row (row.revoke revokedAt .rotated) none) :
    Phase row family request x y (w.turned x request (insertSuccessor w.db mint refreshJwt request.fingerprint)) := by
  have unused := (coherent.pending x mint ⟨_, foundX, rfl⟩).unused
  have vacant : w.db.refreshTokens.find (mint.successor request.fingerprint).jti = none := Table.find_eq_none.mpr unused
  obtain ⟨tokens, inserted⟩ := Option.isSome_iff_exists.mp (Table.insert_isSome.mpr vacant)
  have other : (mint.successor request.fingerprint).jti ≠ row.jti := (unused _ (Table.find_eq_some.mp found).1).symm
  have kept : tokens.find row.jti = some (row.revoke revokedAt .rotated) := by
    rw [Table.find_insert inserted, if_neg other]
    exact found
  have successor : Successor tokens family request.fingerprint mint.refreshJti (mint.successor request.fingerprint) := by
    refine ⟨?_, rfl, congrArg some sameFamily, rfl, rfl⟩
    rw [Table.insert_rows inserted]
    exact List.mem_append_right _ (List.mem_singleton_self _)
  simp only [insertSuccessor, inserted]
  exact .rotating (turned_self foundX) ((turned_other apart).trans foundY) kept sameRow sameFamily
    (.inserted atJti successor) follows

/-- The successor is linked: its parent has no other. -/
theorem Phase.link {mint : Mint} {refreshJwt : RefreshTokenClaims} {following : Stage} {revokedAt : Int} {s : RefreshRow}
    (parented : Parented w) (apart : x ≠ y) (foundX : w.flights[x]? = some ⟨request, .inserted mint refreshJwt⟩)
    (foundY : w.flights[y]? = some ⟨request, following⟩)
    (found : w.db.refreshTokens.find mint.row.jti = some (mint.row.revoke revokedAt .rotated))
    (atJti : refreshJwt.jti = mint.refreshJti)
    (successor : Successor w.db.refreshTokens family request.fingerprint mint.refreshJti s)
    (follows : following.Follows mint.row (mint.row.revoke revokedAt .rotated) none) :
    Phase mint.row family request x y (w.turned x request (linkSuccessor w.db mint refreshJwt)) := by
  have childless := parented.childless x mint ⟨_, foundX, rfl⟩
  have other : ¬ mint.row.jti = mint.refreshJti := by
    intro same
    have hit := Table.find_eq_some.mpr ⟨successor.member, successor.jti.trans same.symm⟩
    obtain rfl := Option.some.inj (found.symm.trans hit)
    cases successor.live
  have linked : w.db.refreshTokens.link mint.refreshJti mint.row.jti = some (w.db.refreshTokens.update
      (fun r => r.jti = mint.refreshJti) (RefreshRow.follow mint.row.jti) (RefreshRow.follow_jti mint.row.jti)) := by
    rw [RefreshTokens.link, if_neg]
    intro taken
    rw [Bool.and_eq_true] at taken
    obtain ⟨r, member, child⟩ := List.any_eq_true.mp taken.2
    rw [Bool.and_eq_true] at child
    exact childless r member (of_decide_eq_true child.2)
  have member : s.follow mint.row.jti ∈ (w.db.refreshTokens.update (fun r => r.jti = mint.refreshJti)
      (RefreshRow.follow mint.row.jti) (RefreshRow.follow_jti mint.row.jti)).rows := by
    refine Table.mem_update.mpr ⟨s, successor.member, ?_⟩
    rw [if_pos (decide_eq_true successor.jti)]
  simp only [linkSuccessor, linked]
  refine .rotated (turned_self foundX) ((turned_other apart).trans foundY) ?_
    ⟨member, successor.jti.trans atJti.symm, successor.family, successor.live, successor.fingerprint⟩ rfl follows.later
  refine (Table.find_update w.db.refreshTokens _ _ (RefreshRow.follow_jti mint.row.jti) _).trans ?_
  rw [found]
  simp [RefreshRow.revoke, other]

/-- A turn of the one who decides first, or has decided. -/
theorem Phase.lead (lineage : Lineage w) (apart : x ≠ y) (live : row.revokedAt = none)
    (inFamily : row.familyId = some family) (presented : request.token = some claims) (sameJti : claims.jti = row.jti)
    (phase : Phase row family request x y w)
    (passes : ∀ stage, w.flights[x]? = some ⟨request, stage⟩ → passesChecks ctx w.db request answers stage) :
    Phase row family request x y (w.step ctx (.advance x answers)) := by
  cases phase with
  | @fresh leading following foundX foundY found early early' =>
    rw [step_turned foundX]
    have waits (passed : PassedOn w.db row (Coordinator.advance ctx w.db request answers leading)) :
        Phase row family request x y
          (w.turned x request (Coordinator.advance ctx w.db request answers leading)) := by
      refine .fresh (turned_self foundX) ((turned_other apart).trans foundY) ?_ (.cleared passed.cleared) early'
      exact (congrArg (fun T => Table.find T row.jti) passed.tokens).trans found
    cases early with
    | verifying => exact waits (lookUp_passedOn presented (sameJti ▸ found) (passes _ foundX))
    | cleared cleared =>
      cases cleared with
      | asks asks => exact waits (asks_passedOn asks (passes _ foundX))
      | checked =>
        rw [advance_live live]
        exact Phase.begin apart live inFamily foundX foundY found early'
  | rotating foundX foundY found sameRow sameFamily leads follows =>
    rw [step_turned foundX]
    cases leads with
    | signingAccess =>
      exact .rotating (turned_self foundX) ((turned_other apart).trans foundY) found sameRow sameFamily
        (.signingRefresh rfl) follows
    | signingRefresh atJti =>
      exact Phase.insert lineage.coherent apart foundX foundY found sameRow sameFamily atJti follows
    | inserted atJti successor =>
      subst sameRow
      exact Phase.link lineage.parented apart foundX foundY found atJti successor follows
  | rotated foundX foundY found successor child follows =>
    rw [step_turned foundX]
    exact .rotated (turned_self foundX) ((turned_other apart).trans foundY) found successor child follows

/-- The reuse branch finds the successor and the fingerprint it was minted for. -/
theorem reuseVerdict_eq_retry {db : AuthDb} {revokedAt : Int} {s : RefreshRow} {fingerprint : Option String} {jti : Nat}
    (parents : db.refreshTokens.ParentsInjective) (known : fingerprint ≠ none)
    (successor : Successor db.refreshTokens family fingerprint jti s) (child : s.parentJti = some row.jti)
    (inTime : db.clock < revokedAt + graceWindowS) :
    reuseVerdict db (row.revoke revokedAt .rotated) revokedAt fingerprint false = .retry s := by
  have first : db.refreshTokens.rows.find? (fun r => r.parentJti = some row.jti) = some s := by
    cases hit : db.refreshTokens.rows.find? (fun r => r.parentJti = some row.jti) with
    | none =>
      have absent := List.find?_eq_none.mp hit s successor.member
      simp [child] at absent
    | some other =>
      have otherChild : other.parentJti = some row.jti := by simpa using List.find?_some hit
      have same := parents other (List.mem_of_find?_eq_some hit) s successor.member (by simp [otherChild])
        (otherChild.trans child.symm)
      rw [same]
  have soft : ¬ (db.clock - revokedAt ≥ graceWindowS ∨
      (row.revoke revokedAt .rotated).revokedReason ≠ some .rotated) := by
    rintro (late | other)
    · omega
    · exact other rfl
  have sameJti : (row.revoke revokedAt .rotated).jti = row.jti := rfl
  rw [reuseVerdict, if_neg soft, sameJti, first]
  simp [known, successor.fingerprint]

/-- What the guard says of a request that is about to run its reuse branch. -/
theorem inTime_of_checked {i : Nat} {now revokedAt : Int} {user : Option User} {recheckFailed : Bool}
    (found : w.flights[i]? = some ⟨request, .checked row now user recheckFailed⟩) (revoked : row.revokedAt = some revokedAt)
    (inTime : w.reusesInTime (.advance i answers)) :
    w.rotationUnderWay row.jti = false ∧ w.db.clock < revokedAt + graceWindowS := by
  simpa [reusesInTime, reuse, found, revoked] using inTime

theorem rotationUnderWay_of_leads {i : Nat} {stage : Stage} {mint : Mint} (found : w.flights[i]? = some ⟨request, stage⟩)
    (rotation : stage.rotation = some mint) : w.rotationUnderWay mint.row.jti := by
  refine List.any_eq_true.mpr ⟨_, List.mem_of_getElem? found, ?_⟩
  simp [rotation]

/-- While the rotation is under way, a request that is in time does not decide about the revoked row. -/
theorem not_checked_of_rotating {leading following : Stage} {mint : Mint}
    (foundX : w.flights[x]? = some ⟨request, leading⟩) (rotation : leading.rotation = some mint) (sameRow : mint.row = row)
    (foundY : w.flights[y]? = some ⟨request, following⟩) (inTime : w.reusesInTime (.advance y answers)) :
    ∀ revokedAt now user, following ≠ .checked (row.revoke revokedAt .rotated) now user false := by
  rintro revokedAt now user rfl
  have busy := rotationUnderWay_of_leads foundX rotation
  rw [sameRow] at busy
  have idle := (inTime_of_checked foundY rfl inTime).1
  rw [RefreshRow.revoke_jti, busy] at idle
  cases idle

/-- Until it decides about the revoked row, a following request writes no token and goes on following. -/
theorem follows_advance {following : Stage} {revokedAt : Int} {jti : Option Nat}
    (follows : following.Follows row (row.revoke revokedAt .rotated) jti) (live : row.revokedAt = none)
    (presented : request.token = some claims) (sameJti : claims.jti = row.jti)
    (found : w.db.refreshTokens.find row.jti = some (row.revoke revokedAt .rotated))
    (passes : passesChecks ctx w.db request answers following)
    (undecided : ∀ now user, following ≠ .checked (row.revoke revokedAt .rotated) now user false) :
    (Coordinator.advance ctx w.db request answers following).1.refreshTokens = w.db.refreshTokens ∧
      (Coordinator.advance ctx w.db request answers following).2.Follows row (row.revoke revokedAt .rotated) jti := by
  cases follows with
  | verifying =>
    have passed := lookUp_passedOn presented (sameJti ▸ found) passes
    exact ⟨passed.tokens, .seen passed.cleared⟩
  | stale cleared =>
    cases cleared with
    | asks asks =>
      have passed := asks_passedOn asks passes
      exact ⟨passed.tokens, .stale passed.cleared⟩
    | checked =>
      rw [advance_live live, rotateRefreshToken_raced found]
      exact ⟨rfl, .raced⟩
  | seen cleared =>
    cases cleared with
    | asks asks =>
      have passed := asks_passedOn asks passes
      exact ⟨passed.tokens, .seen passed.cleared⟩
    | @checked now user => exact absurd rfl (undecided now user)
  | raced => exact ⟨rfl, .raced⟩
  | reminting atJti => exact ⟨rfl, .served atJti⟩
  | served atJti => exact ⟨rfl, .served atJti⟩

/-- A turn of the other one: it keeps to its row, loses the race or is served the successor. -/
theorem Phase.follow (lineage : Lineage w) (apart : x ≠ y) (live : row.revokedAt = none)
    (inFamily : row.familyId = some family) (presented : request.token = some claims) (sameJti : claims.jti = row.jti)
    (known : request.fingerprint ≠ none) (phase : Phase row family request x y w)
    (passes : ∀ stage, w.flights[y]? = some ⟨request, stage⟩ → passesChecks ctx w.db request answers stage)
    (inTime : w.reusesInTime (.advance y answers)) :
    Phase row family request x y (w.step ctx (.advance y answers)) ∨
      Phase row family request y x (w.step ctx (.advance y answers)) := by
  cases phase with
  | fresh foundX foundY found leads follows =>
    have swapped : Phase row family request y x w := .fresh foundY foundX found follows leads
    exact .inr (swapped.lead lineage apart.symm live inFamily presented sameJti passes)
  | @rotating leading following mint revokedAt foundX foundY found sameRow sameFamily leads follows =>
    rw [step_turned foundY]
    have waiting := not_checked_of_rotating foundX leads.rotation_eq sameRow foundY inTime revokedAt
    -- whatever stands for the leading request stands on as long as the tokens do
    obtain ⟨tokens, follows'⟩ := follows_advance follows live presented sameJti found (passes _ foundY) waiting
    refine .inl (.rotating ((turned_other apart.symm).trans foundX) (turned_self foundY) ?_ sameRow sameFamily ?_ follows')
    · exact (congrArg (fun T => Table.find T row.jti) tokens).trans found
    · exact (congrArg (fun T => leading.Leads T family request.fingerprint mint) tokens).mpr leads
  | @rotated following pair revokedAt s foundX foundY found successor child follows =>
    rw [step_turned foundY]
    by_cases decides : ∃ now user, following = .checked (row.revoke revokedAt .rotated) now user false
    · obtain ⟨now, user, rfl⟩ := decides
      have verdict := reuseVerdict_eq_retry lineage.parented.parents known successor child
        (inTime_of_checked foundY rfl inTime).2
      have result : Coordinator.advance ctx w.db request answers
          (.checked (row.revoke revokedAt .rotated) now user false) =
          ({ w.db with draws := w.db.draws + 1 },
            .reminting (row.revoke revokedAt .rotated) (remintPair s w.db.draws)) := by
        show handleReuseBranch w.db (row.revoke revokedAt .rotated) revokedAt request.fingerprint false = _
        simp only [handleReuseBranch, verdict]
      rw [result]
      exact .inl (.rotated ((turned_other apart.symm).trans foundX) (turned_self foundY) found successor child
        (.reminting (congrArg some successor.jti.symm)))
    · obtain ⟨tokens, follows'⟩ := follows_advance follows live presented sameJti found (passes _ foundY)
        fun now user same => decides ⟨now, user, same⟩
      refine .inl (.rotated ((turned_other apart.symm).trans foundX) (turned_self foundY) ?_ ?_ child follows')
      · exact (congrArg (fun T => Table.find T row.jti) tokens).trans found
      · exact (congrArg (fun T => Successor T family request.fingerprint pair.refreshJwt.jti s) tokens).mpr successor

/-- A request that has not decided about a revoked row revokes nothing. -/
theorem revokedFamily_undecided {i : Nat} {stage : Stage} (found : w.flights[i]? = some ⟨request, stage⟩)
    (undecided : ∀ old now user recheckFailed, stage = .checked old now user recheckFailed → old.revokedAt = none) :
    w.revokedFamily (.advance i answers) = none := by
  have unused : w.reuse i = none := by
    unfold reuse
    split
    · rename_i old now user recheckFailed same
      obtain ⟨-, atStage⟩ := Flight.mk.inj (Option.some.inj (found.symm.trans same))
      rw [undecided old now user recheckFailed atStage]
      rfl
    · rfl
  simp only [revokedFamily, unused, Option.bind_none]

theorem cleared_undecided {stage : Stage} (live : row.revokedAt = none) (cleared : stage.Cleared row) :
    ∀ old now user recheckFailed, stage = .checked old now user recheckFailed → old.revokedAt = none := by
  intro old now user recheckFailed same
  cases cleared with
  | asks asks =>
    subst same
    cases asks
  | checked =>
    obtain ⟨rfl, -⟩ := Stage.checked.inj same
    exact live

/-- The leading request never runs the reuse branch. -/
theorem Phase.leader_spares (live : row.revokedAt = none) (phase : Phase row family request x y w) :
    w.revokedFamily (.advance x answers) = none := by
  cases phase with
  | fresh foundX _ _ early _ =>
    cases early with
    | verifying => exact revokedFamily_undecided foundX (by simp)
    | cleared cleared => exact revokedFamily_undecided foundX (cleared_undecided live cleared)
  | rotating foundX _ _ _ _ leads _ => cases leads <;> exact revokedFamily_undecided foundX (by simp)
  | rotated foundX _ _ _ _ _ => exact revokedFamily_undecided foundX (by simp)

/-- The other one runs it in time, and then to the successor. -/
theorem Phase.follower_spares (lineage : Lineage w) (live : row.revokedAt = none) (known : request.fingerprint ≠ none)
    (phase : Phase row family request x y w) (inTime : w.reusesInTime (.advance y answers)) :
    w.revokedFamily (.advance y answers) = none := by
  have spared {following : Stage} {revokedAt : Int} {jti : Option Nat}
      (foundY : w.flights[y]? = some ⟨request, following⟩)
      (follows : following.Follows row (row.revoke revokedAt .rotated) jti)
      (decided : ∀ now user, following = .checked (row.revoke revokedAt .rotated) now user false →
        w.revokedFamily (.advance y answers) = none) : w.revokedFamily (.advance y answers) = none := by
    cases follows with
    | stale cleared => exact revokedFamily_undecided foundY (cleared_undecided live cleared)
    | seen cleared =>
      cases cleared with
      | asks asks => cases asks <;> exact revokedFamily_undecided foundY (by simp)
      | @checked now user => exact decided now user rfl
    | verifying | raced | reminting | served => exact revokedFamily_undecided foundY (by simp)
  cases phase with
  | fresh _ foundY _ _ early =>
    cases early with
    | verifying => exact revokedFamily_undecided foundY (by simp)
    | cleared cleared => exact revokedFamily_undecided foundY (cleared_undecided live cleared)
  | @rotating _ _ mint _ foundX foundY _ sameRow _ leads follows =>
    refine spared foundY follows fun now user same => ?_
    exact absurd same (not_checked_of_rotating foundX leads.rotation_eq sameRow foundY inTime _ now user)
  | @rotated _ _ revokedAt s _ foundY _ successor child follows =>
    refine spared foundY follows ?_
    rintro now user rfl
    have verdict := reuseVerdict_eq_retry lineage.parented.parents known successor child
      (inTime_of_checked foundY rfl inTime).2
    have reused : w.reuse y = some (row.revoke revokedAt .rotated, .retry s) := by
      simp only [reuse, foundY]
      exact congrArg (fun verdict => some (row.revoke revokedAt .rotated, verdict)) verdict
    simp [revokedFamily, reused, ReuseVerdict.revokesFamily]

/-- A request stands where it stands until its own turn. -/
theorem getElem?_step {i : Nat} {flight : Flight} {event : AuthEvent} (found : w.flights[i]? = some flight)
    (others : ∀ answers, event ≠ .advance i answers) : (w.step ctx event).flights[i]? = w.flights[i]? := by
  cases event with
  | arrive request =>
    obtain ⟨bound, -⟩ := List.getElem?_eq_some_iff.mp found
    exact List.getElem?_append_left bound
  | advance j answers =>
    have apart : j ≠ i := fun same => others answers (same ▸ rfl)
    cases atJ : w.flights[j]? with
    | none => simp only [step, atJ]
    | some other =>
      rw [step_advance ctx answers atJ]
      exact List.getElem?_set_ne apart
  | tick | login | logout | logoutAll | revoke | bumpTokenEpoch | noteEpochBump | writeUser | sweep => rfl

theorem Phase.atFlights (phase : Phase row family request x y w) :
    (∃ stage, w.flights[x]? = some ⟨request, stage⟩) ∧ ∃ stage, w.flights[y]? = some ⟨request, stage⟩ := by
  cases phase with
  | fresh foundX foundY _ _ _ => exact ⟨⟨_, foundX⟩, ⟨_, foundY⟩⟩
  | rotating foundX foundY _ _ _ _ _ => exact ⟨⟨_, foundX⟩, ⟨_, foundY⟩⟩
  | rotated foundX foundY _ _ _ _ => exact ⟨⟨_, foundX⟩, ⟨_, foundY⟩⟩

/-- One step: a turn of one of the two, or one that leaves both alone. -/
theorem Phase.step (lineage : Lineage w) (apart : x ≠ y) (live : row.revokedAt = none)
    (inFamily : row.familyId = some family) (presented : request.token = some claims) (sameJti : claims.jti = row.jti)
    (known : request.fingerprint ≠ none) (phase : Phase row family request x y w) (event : AuthEvent)
    (undisturbed : w.undisturbed ctx family x y event) (inTime : w.reusesInTime event) :
    Phase row family request x y (w.step ctx event) ∨ Phase row family request y x (w.step ctx event) := by
  obtain ⟨⟨stageX, foundX⟩, ⟨stageY, foundY⟩⟩ := phase.atFlights
  have aside (same : (w.step ctx event).familyRows family = w.familyRows family)
      (notX : ∀ answers, event ≠ .advance x answers) (notY : ∀ answers, event ≠ .advance y answers) :
      Phase row family request x y (w.step ctx event) :=
    phase.frame inFamily same (getElem?_step foundX notX) (getElem?_step foundY notY)
  cases event with
  | advance i answers =>
    simp only [AuthWorld.undisturbed] at undisturbed
    split at undisturbed
    · rename_i one
      have passes : ∀ stage, w.flights[i]? = some ⟨request, stage⟩ → passesChecks ctx w.db request answers stage := by
        intro stage found
        simpa [found] using undisturbed
      rcases one with rfl | rfl
      · exact .inl (phase.lead lineage apart live inFamily presented sameJti passes)
      · exact phase.follow lineage apart live inFamily presented sameJti known passes inTime
    · rename_i neither
      rw [not_or] at neither
      refine .inl (aside (of_decide_eq_true undisturbed) ?_ ?_)
      · intro _ same
        exact neither.1 (AuthEvent.advance.inj same).1
      · intro _ same
        exact neither.2 (AuthEvent.advance.inj same).1
  | tick | arrive | login | logout | logoutAll | revoke | bumpTokenEpoch | noteEpochBump | writeUser | sweep =>
    exact .inl (aside (of_decide_eq_true undisturbed) (fun _ => nofun) fun _ => nofun)

end

/-- The request was told to retry. -/
def Raced (w : AuthWorld) (i : Nat) : Prop :=
  ∃ request row, w.flights[i]? = some ⟨request, .answered (some row) rotationRace⟩

def Answered (w : AuthWorld) (i : Nat) : Prop := ∃ flight, w.flights[i]? = some flight ∧ flight.stage.isAnswered

/-- One request rotated the token, the other lost the race or has the successor. -/
def SettledBy (w : AuthWorld) (jti x y : Nat) : Prop :=
  ∃ row pair, w.Rotated x row pair ∧ row.jti = jti ∧ (w.Raced y ∨
    ∃ old again, w.Retried y old again ∧ old.jti = jti ∧ again.refreshJwt.jti = pair.refreshJwt.jti)

/-- Neither request revokes the family with its next turn, each turn brings it
nearer to its answer, and in the end one has rotated and the family lives on in one token. -/
structure Unpunished (ctx : AuthHandlerContext) (guard : AuthWorld → AuthEvent → Prop) (jti family a b : Nat)
    (w : AuthWorld) : Prop where
  spared : ∀ i answers, i = a ∨ i = b → guard w (.advance i answers) → w.revokedFamily (.advance i answers) ≠ some family
  moves : ∀ (i : Nat) (flight : Flight) (answers : IdpAnswers), w.flights[i]? = some flight →
    (Coordinator.advance ctx w.db flight.request answers flight.stage).2.rank ≤ flight.stage.rank - 1
  settled : w.Answered a → w.Answered b → (w.SettledBy jti a b ∨ w.SettledBy jti b a) ∧
    w.db.refreshTokens.changes (unrevoked fun r => r.familyId = some family) = 1

theorem Phase.settled {w : AuthWorld} {row : RefreshRow} {family x y : Nat} {request : RefreshRequest}
    (lineage : Lineage w) (live : row.revokedAt = none) (phase : Phase row family request x y w) (doneX : w.Answered x)
    (doneY : w.Answered y) : w.SettledBy row.jti x y ∧
      w.db.refreshTokens.changes (unrevoked fun r => r.familyId = some family) = 1 := by
  obtain ⟨flightX, foundX', answeredX⟩ := doneX
  obtain ⟨flightY, foundY', answeredY⟩ := doneY
  have unanswered {old : RefreshRow} {stage : Stage} (cleared : stage.Cleared old) : stage.isAnswered = false := by
    cases cleared with
    | asks asks => cases asks <;> rfl
    | checked => rfl
  cases phase with
  | fresh foundX _ _ early _ =>
    obtain rfl := Option.some.inj (foundX.symm.trans foundX')
    cases early with
    | verifying => cases answeredX
    | cleared cleared => cases (unanswered cleared).symm.trans answeredX
  | rotating foundX _ _ _ _ leads _ =>
    obtain rfl := Option.some.inj (foundX.symm.trans foundX')
    cases leads <;> cases answeredX
  | @rotated following pair revokedAt s foundX foundY found successor child follows =>
    obtain rfl := Option.some.inj (foundY.symm.trans foundY')
    refine ⟨⟨row, pair, ⟨request, foundX, live⟩, rfl, ?_⟩, ?_⟩
    · cases follows with
      | verifying => cases answeredY
      | stale cleared => cases (unanswered cleared).symm.trans answeredY
      | seen cleared => cases (unanswered cleared).symm.trans answeredY
      | raced => exact .inl ⟨request, row, foundY⟩
      | reminting _ => cases answeredY
      | served atJti =>
        exact .inr ⟨_, _, ⟨request, foundY, Option.some_ne_none revokedAt⟩, rfl, (Option.some.inj atJti).symm⟩
    · have most := lineage.exclusive.oneLive family
      have least : 0 < w.db.refreshTokens.changes (unrevoked fun r => r.familyId = some family) :=
        Table.changes_pos.mpr ⟨s, successor.member, by simp [unrevoked, successor.family, successor.live]⟩
      omega

/-- Two requests with one token have just come in. -/
def arriveTwice (ctx : AuthHandlerContext) (w : AuthWorld) (request : RefreshRequest) : AuthWorld :=
  (w.step ctx (.arrive request)).step ctx (.arrive request)

theorem phase_arriveTwice (ctx : AuthHandlerContext) {w : AuthWorld} {row : RefreshRow} (family : Nat)
    (request : RefreshRequest) (found : w.db.refreshTokens.find row.jti = some row) :
    Phase row family request w.flights.length (w.flights.length + 1) (w.arriveTwice ctx request) := by
  have shape : (w.arriveTwice ctx request).flights =
      w.flights ++ [⟨request, .verifying⟩, ⟨request, .verifying⟩] := by
    simp [arriveTwice, step]
  have first : (w.arriveTwice ctx request).flights[w.flights.length]? = some ⟨request, .verifying⟩ := by
    rw [shape, List.getElem?_append_right le_rfl]
    simp
  have second : (w.arriveTwice ctx request).flights[w.flights.length + 1]? = some ⟨request, .verifying⟩ := by
    rw [shape, List.getElem?_append_right (Nat.le_succ _)]
    simp
  exact .fresh first second found .verifying .verifying

/-- The steps of the two requests of the family that came in last at `w`: undisturbed and allowed. -/
def honestStep (ctx : AuthHandlerContext) (family n : Nat) (allowed : AuthWorld → AuthEvent → Bool) (w : AuthWorld)
    (event : AuthEvent) : Prop :=
  w.undisturbed ctx family n (n + 1) event ∧ allowed w event

instance (ctx : AuthHandlerContext) (family n : Nat) (allowed : AuthWorld → AuthEvent → Bool) (w : AuthWorld)
    (event : AuthEvent) : Decidable (honestStep ctx family n allowed w event) :=
  inferInstanceAs (Decidable (_ ∧ _))

/-- Two requests with the same live token and the same fingerprint are never taken for theft. -/
def HonestRetry (allowed : AuthWorld → AuthEvent → Bool) : Prop :=
  ∀ ctx users orgs clock w, Run ctx (fun _ _ => True) (boot users orgs clock) w →
    ∀ row family claims fingerprint, w.db.refreshTokens.find claims.jti = some row → row.revokedAt = none →
      row.familyId = some family →
      ∀ w', Run ctx (honestStep ctx family w.flights.length allowed) (w.arriveTwice ctx ⟨some claims, some fingerprint⟩) w' →
        Unpunished ctx (honestStep ctx family w.flights.length allowed) claims.jti family w.flights.length
          (w.flights.length + 1) w'

/-- In every interleaving in which no reuse branch runs between the
compare-and-set and the link of a rotation of its token, or ten seconds after
it, the two requests are not punished. -/
theorem honest_retry_unpunished (ctx : AuthHandlerContext) (users : Table User User.id)
    (orgs : Table AllowlistOrg AllowlistOrg.id) (clock : Int) (w : AuthWorld)
    (before : Run ctx (fun _ _ => True) (boot users orgs clock) w) (row : RefreshRow) (family : Nat)
    (claims : ParsedRefreshClaims) (fingerprint : String) (found : w.db.refreshTokens.find claims.jti = some row)
    (live : row.revokedAt = none) (inFamily : row.familyId = some family) (w' : AuthWorld)
    (run : Run ctx (honestStep ctx family w.flights.length reusesInTime)
      (w.arriveTwice ctx ⟨some claims, some fingerprint⟩) w') :
    Unpunished ctx (honestStep ctx family w.flights.length reusesInTime) claims.jti family w.flights.length
      (w.flights.length + 1) w' := by
  have sameJti : row.jti = claims.jti := (Table.find_eq_some.mp found).2
  let request : RefreshRequest := ⟨some claims, some fingerprint⟩
  let n := w.flights.length
  have apart : n ≠ n + 1 := Nat.ne_of_lt (Nat.lt_succ_self n)
  have known : request.fingerprint ≠ none := Option.some_ne_none fingerprint
  have start : Lineage (w.arriveTwice ctx request) :=
    lineage_step ctx (lineage_step ctx (before.lineage (lineage_boot users orgs clock)) _) _
  have phases : Lineage w' ∧ (Phase row family request n (n + 1) w' ∨ Phase row family request (n + 1) n w') := by
    refine run.invariant (P := fun v => Lineage v ∧
      (Phase row family request n (n + 1) v ∨ Phase row family request (n + 1) n v)) ?_
      ⟨start, .inl (phase_arriveTwice ctx family request (sameJti ▸ found))⟩
    intro v event held ok
    obtain ⟨lineage, phase⟩ := held
    obtain ⟨undisturbed, inTime⟩ := ok
    refine ⟨lineage_step ctx lineage event, ?_⟩
    rcases phase with phase | phase
    · exact phase.step lineage apart live inFamily rfl sameJti.symm known event undisturbed inTime
    · have swapped : v.undisturbed ctx family (n + 1) n event := by
        cases event with
        | advance i answers => simpa only [AuthWorld.undisturbed, or_comm] using undisturbed
        | tick | arrive | login | logout | logoutAll | revoke | bumpTokenEpoch | noteEpochBump | writeUser | sweep =>
          exact undisturbed
      exact (phase.step lineage apart.symm live inFamily rfl sameJti.symm known event swapped inTime).symm
  obtain ⟨lineage, phase⟩ := phases
  refine ⟨?_, fun i flight answers _ => rank_advance ctx w'.db flight.request answers flight.stage, ?_⟩
  · intro i answers one ok
    have spared : w'.revokedFamily (.advance i answers) = none := by
      rcases phase with phase | phase
      · rcases one with rfl | rfl
        · exact phase.leader_spares live
        · exact phase.follower_spares lineage live known ok.2
      · rcases one with rfl | rfl
        · exact phase.follower_spares lineage live known ok.2
        · exact phase.leader_spares live
    rw [spared]
    exact (Option.some_ne_none family).symm
  · intro doneA doneB
    rw [← sameJti]
    rcases phase with phase | phase
    · obtain ⟨settled, single⟩ := phase.settled lineage live doneA doneB
      exact ⟨.inl settled, single⟩
    · obtain ⟨settled, single⟩ := phase.settled lineage live doneB doneA
      exact ⟨.inr settled, single⟩

/-- Ada's token before its first rotation. -/
def adasRow : RefreshRow := ⟨1, "ada", "acme", some 0, none, none, none, 0, some "laptop", 1000 + refreshTtlS, some 1000⟩

def signedIn : AuthWorld := adasServer.after plainContext [signIn]

theorem signedIn_run : Run plainContext (fun _ _ => True) adasServer signedIn := .of_inputs fun _ _ => trivial

/-- The second request looks its row up before the first one rotates it and loses
the race, or comes three seconds later and is served the successor. -/
theorem honest_retry_unpunished_race :
    let raced := (signedIn.arriveTwice plainContext adasToken).after plainContext (turns 0 1 ++ turns 1 1 ++ turns 0 1 ++
      turns 1 1 ++ turns 0 3)
    let retried := (signedIn.arriveTwice plainContext adasToken).after plainContext (turns 0 5 ++ [.tick 3] ++ turns 1 3)
    (raced.SettledBy 1 0 1 ∨ raced.SettledBy 1 1 0) ∧ (retried.SettledBy 1 0 1 ∨ retried.SettledBy 1 1 0) := by
  intro raced retried
  have unpunished (events : List AuthEvent)
      (meets : GuardedRun.Meets (step plainContext) (honestStep plainContext 0 0 reusesInTime)
        (signedIn.arriveTwice plainContext adasToken) events) :=
    honest_retry_unpunished plainContext _ _ _ signedIn signedIn_run adasRow 0 adasClaims "laptop" (by decide) rfl rfl
      ((signedIn.arriveTwice plainContext adasToken).after plainContext events) (.of_meets meets)
  constructor
  · exact ((unpunished _ (by decide)).settled ⟨_, by rfl, by decide⟩ ⟨_, by rfl, by decide⟩).1
  · exact ((unpunished _ (by decide)).settled ⟨_, by rfl, by decide⟩ ⟨_, by rfl, by decide⟩).1

/-- Only turns of requests, and no time passes. -/
def onlyTurns (_ : AuthWorld) : AuthEvent → Bool
  | .advance _ _ => true
  | _ => false

/-- The first request has rotated the token and is about to sign the successor;
the second, in the same second, finds no successor and revokes the family. -/
theorem not_honestRetry : ¬ HonestRetry onlyTurns := by
  intro honest
  let w := (signedIn.arriveTwice plainContext adasToken).after plainContext (turns 0 2 ++ turns 1 1)
  have run : Run plainContext (honestStep plainContext 0 0 onlyTurns) (signedIn.arriveTwice plainContext adasToken) w :=
    .of_meets (by decide)
  have unpunished := honest plainContext _ _ _ signedIn signedIn_run adasRow 0 adasClaims "laptop" (by decide) rfl rfl w run
  exact unpunished.spared 1 silentIdp (.inr rfl) (by decide) (by decide)

end AuthWorld

end Coordinator
