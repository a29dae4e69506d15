import Coordinator.TokenFamily

namespace Coordinator
open RefreshTokens

/-- What a retry verdict rests on. -/
structure RetryVerdict (db : AuthDb) (row : RefreshRow) (revokedAt : Int) (fingerprint : Option String)
    (successor : RefreshRow) : Prop where
  member : successor ∈ db.refreshTokens.rows
  parent : successor.parentJti = some row.jti
  fingerprint : successor.consumerFingerprint = fingerprint ∧ fingerprint ≠ none
  window : db.clock - revokedAt < graceWindowS
  reason : row.revokedReason = some .rotated

theorem reuseVerdict_retry {db : AuthDb} {row successor : RefreshRow} {revokedAt : Int} {fingerprint : Option String}
    {recheckFailed : Bool}
    (verdict : reuseVerdict db row revokedAt fingerprint recheckFailed = .retry successor) :
    RetryVerdict db row revokedAt fingerprint successor := by
  unfold reuseVerdict at verdict
  split at verdict
  · cases verdict
  · rename_i soft
    have within : ¬ db.clock - revokedAt ≥ graceWindowS ∧ row.revokedReason = some .rotated := by
      simpa only [not_or, not_not] using soft
    split at verdict
    · cases verdict
    · rename_i found first
      split at verdict
      · rename_i matched
        split at verdict
        · cases verdict
        · obtain rfl := ReuseVerdict.retry.inj verdict
          exact ⟨List.mem_of_find?_eq_some first, by simpa using List.find?_some first, ⟨matched.2, matched.1⟩,
            not_le.mp within.1, within.2⟩
      · split at verdict <;> cases verdict

/-- The `jti` of the access token that the request mints or has minted. -/
def Stage.accessJti : Stage → Option Nat
  | .signingAccess mint | .signingRefresh mint _ | .inserted mint _ => some mint.accessJwt.jti
  | .reminting _ pair | .answered _ (.tokens pair) => some pair.accessJwt.jti
  | _ => none

/-- The `parent_jti` claim of the refresh token: a rotation sets none, a re-mint the presented token's. -/
def Stage.Parentage : Stage → Prop
  | .signingAccess mint => mint.row.revokedAt = none
  | .signingRefresh mint refreshJwt | .inserted mint refreshJwt =>
    mint.row.revokedAt = none ∧ refreshJwt.parentJti = none
  | .reminting row pair => row.revokedAt ≠ none ∧ pair.refreshJwt.parentJti = some row.jti
  | .answered (some row) (.tokens pair) =>
    (row.revokedAt = none ∧ pair.refreshJwt.parentJti = none) ∨
      (row.revokedAt ≠ none ∧ pair.refreshJwt.parentJti = some row.jti)
  | .answered none (.tokens _) => False
  | _ => True

theorem Stage.Waits.accessJti_eq {row : RefreshRow} {stage : Stage} (waits : stage.Waits row) :
    stage.accessJti = none := by
  cases waits with
  | asks asks => cases asks <;> rfl
  | checked => rfl

theorem Stage.Waits.parentage {row : RefreshRow} {stage : Stage} (waits : stage.Waits row) : stage.Parentage := by
  cases waits with
  | asks asks => cases asks <;> trivial
  | checked => trivial

theorem Stage.parentage_of_refused {row : Option RefreshRow} {reply : Reply} (refused : reply.served = false) :
    (Stage.answered row reply).Parentage := by
  cases reply with
  | tokens pair => cases refused
  | oauthError status error description => cases row <;> trivial
  | thrown => cases row <;> trivial

theorem Stage.accessJti_of_refused {row : Option RefreshRow} {reply : Reply} (refused : reply.served = false) :
    (Stage.answered row reply).accessJti = none := by
  cases reply with
  | tokens pair => cases refused
  | oauthError status error description => rfl
  | thrown => rfl

theorem Screened.parentage {row : RefreshRow} {db : AuthDb} {result : AuthDb × Stage}
    (screened : Screened row db result) : result.2.Parentage ∧ result.2.accessJti = none := by
  cases screened with
  | refused refused _ => exact ⟨Stage.parentage_of_refused refused, Stage.accessJti_of_refused refused⟩
  | waits waits _ => exact ⟨waits.parentage, waits.accessJti_eq⟩

theorem Turn.parentage {db : AuthDb} {request : RefreshRequest} {stage : Stage} {result : AuthDb × Stage}
    (turn : Turn db request stage result) (before : stage.Parentage) : result.2.Parentage := by
  cases turn with
  | rejected refused => exact Stage.parentage_of_refused refused
  | selected _ screened => exact screened.parentage.1
  | screened _ screened => exact screened.parentage.1
  | reused _ refused => exact Stage.parentage_of_refused refused
  | retried revoked verdict =>
    refine ⟨?_, (reuseVerdict_retry verdict).parent⟩
    rw [revoked]
    exact Option.some_ne_none _
  | raced _ refused => exact Stage.parentage_of_refused refused
  | rotated live _ => exact live
  | signed => exact ⟨before, rfl⟩
  | inserted _ => exact before
  | clashed _ => trivial
  | linked _ => exact .inl before
  | unlinked _ => trivial
  | reminted => exact .inr before
  | settled => exact before

/-- An access token keeps its `jti`, and a new one draws it. -/
theorem Turn.accessJti {db : AuthDb} {request : RefreshRequest} {stage : Stage} {result : AuthDb × Stage}
    (turn : Turn db request stage result) {jti : Nat} (minted : result.2.accessJti = some jti) :
    stage.accessJti = some jti ∨ (db.draws ≤ jti ∧ jti < result.1.draws) := by
  cases turn with
  | rejected refused => cases (Stage.accessJti_of_refused refused).symm.trans minted
  | selected _ screened => cases screened.parentage.2.symm.trans minted
  | screened _ screened => cases screened.parentage.2.symm.trans minted
  | reused _ refused => cases (Stage.accessJti_of_refused refused).symm.trans minted
  | retried _ _ =>
    obtain rfl : db.draws = jti := Option.some.inj minted
    exact .inr ⟨le_rfl, Nat.lt_succ_self _⟩
  | raced _ refused => cases (Stage.accessJti_of_refused refused).symm.trans minted
  | @rotated row now user _ _ _ =>
    refine .inr ?_
    have drawn := Option.some.inj minted
    simp only [beginMint, AuthDb.setTokens] at drawn ⊢
    split
    · rename_i familyless
      rw [if_pos familyless] at drawn
      omega
    · rename_i inFamily
      rw [if_neg inFamily] at drawn
      omega
  | signed => exact .inl minted
  | inserted _ => exact .inl minted
  | clashed _ => cases minted
  | linked _ => exact .inl minted
  | unlinked _ => cases minted
  | reminted => exact .inl minted
  | settled => exact .inl minted

namespace AuthWorld

/-- Every request's access token has a `jti` of its own, and its refresh token the parent of its branch. -/
structure Minted (w : AuthWorld) : Prop where
  parentage : ∀ (i : Nat) (flight : Flight), w.flights[i]? = some flight → flight.stage.Parentage
  drawn : ∀ (i : Nat) (flight : Flight) (jti : Nat), w.flights[i]? = some flight →
    flight.stage.accessJti = some jti → jti < w.db.draws
  single : ∀ (i j : Nat) (flight other : Flight) (jti : Nat), w.flights[i]? = some flight → w.flights[j]? = some other →
    flight.stage.accessJti = some jti → other.stage.accessJti = some jti → i = j

theorem Minted.turn {w : AuthWorld} (minted : Minted w) {i : Nat} {flight : Flight} {result : AuthDb × Stage}
    (found : w.flights[i]? = some flight) (turn : Turn w.db flight.request flight.stage result) :
    Minted { db := result.1, flights := w.flights.set i ⟨flight.request, result.2⟩ } := by
  have draws : w.db.draws ≤ result.1.draws := turn.tracked.draws
  have moved : ∀ j other, (w.flights.set i ⟨flight.request, result.2⟩)[j]? = some other →
      (j = i ∧ other.stage = result.2) ∨ (j ≠ i ∧ w.flights[j]? = some other) :=
    fun j other => getElem?_setStage (w := w)
  -- a `jti` of the request that moves is its own or newer than all others
  have fresh : ∀ j other jti, j ≠ i → w.flights[j]? = some other → other.stage.accessJti = some jti →
      result.2.accessJti ≠ some jti := by
    intro j other jti apart kept atJti now
    rcases turn.accessJti now with before | ⟨new, -⟩
    · exact apart (minted.single j i other flight jti kept found atJti before)
    · have known := minted.drawn j other jti kept atJti
      omega
  constructor
  · intro j other now
    rcases moved j other now with ⟨-, same⟩ | ⟨-, kept⟩
    · rw [same]
      exact turn.parentage (minted.parentage i flight found)
    · exact minted.parentage j other kept
  · intro j other jti now atJti
    rcases moved j other now with ⟨-, same⟩ | ⟨-, kept⟩
    · rw [same] at atJti
      rcases turn.accessJti atJti with before | ⟨-, bound⟩
      · exact (minted.drawn i flight jti found before).trans_le draws
      · exact bound
    · exact (minted.drawn j other jti kept atJti).trans_le draws
  · intro j k other other' jti now now' atJti atJti'
    rcases moved j other now with ⟨rfl, same⟩ | ⟨apart, kept⟩
    · rcases moved k other' now' with ⟨rfl, -⟩ | ⟨apart', kept'⟩
      · rfl
      · exact absurd (same ▸ atJti) (fresh k other' jti apart' kept' atJti')
    · rcases moved k other' now' with ⟨rfl, same'⟩ | ⟨-, kept'⟩
      · exact absurd (same' ▸ atJti') (fresh j other jti apart kept atJti)
      · exact minted.single j k other other' jti kept kept' atJti atJti'

theorem Minted.database {w : AuthWorld} (minted : Minted w) {db : AuthDb} (draws : w.db.draws ≤ db.draws) :
    Minted { w with db := db } where
  parentage := minted.parentage
  drawn i flight jti found atJti := (minted.drawn i flight jti found atJti).trans_le draws
  single := minted.single

theorem Minted.arrive {w : AuthWorld} (minted : Minted w) (request : RefreshRequest) :
    Minted { w with flights := w.flights ++ [⟨request, .verifying⟩] } := by
  have older : ∀ (j : Nat) (flight : Flight) (jti : Nat), (w.flights ++ [⟨request, .verifying⟩])[j]? = some flight →
      flight.stage.accessJti = some jti → w.flights[j]? = some flight := by
    intro j flight jti found atJti
    exact held_arrive found atJti rfl
  constructor
  · intro j flight found
    rcases List.getElem?_snoc_cases found with old | ⟨-, rfl⟩
    · exact minted.parentage j flight old
    · trivial
  · intro j flight jti found atJti
    exact minted.drawn j flight jti (older j flight jti found atJti) atJti
  · intro j k flight other jti found found' atJti atJti'
    exact minted.single j k flight other jti (older j flight jti found atJti) (older k other jti found' atJti') atJti atJti'

theorem minted_boot (users : Table User User.id) (orgs : Table AllowlistOrg AllowlistOrg.id) (clock : Int) :
    Minted (boot users orgs clock) := by
  constructor <;> simp [boot]

theorem minted_step (ctx : AuthHandlerContext) {w : AuthWorld} (minted : Minted w) (event : AuthEvent) :
    Minted (w.step ctx event) := by
  cases event with
  | arrive request => exact minted.arrive request
  | advance i answers =>
    cases found : w.flights[i]? with
    | none => simpa only [step, found] using minted
    | some flight =>
      rw [step_advance ctx answers found]
      exact minted.turn found (advance_turn ctx w.db flight.request answers flight.stage)
  | login userId orgId fingerprint =>
    simp only [step, openSession]
    split
    · exact minted
    · exact minted.database (Nat.le_add_right _ 3)
  | logout familyId => exact minted.database (handleLogout_keeps w.db familyId).1.ge
  | revoke call => exact minted.database (handleRevoke_keeps w.db call).1.ge
  | tick seconds => exact minted.database le_rfl
  | logoutAll userId => exact minted.database le_rfl
  | bumpTokenEpoch userId => exact minted.database le_rfl
  | noteEpochBump userId epoch => exact minted.database le_rfl
  | writeUser user => exact minted.database le_rfl
  | sweep env victims => exact minted.database le_rfl

/-- The request was answered 200 by the rotation of an unrevoked row. -/
def Rotated (w : AuthWorld) (i : Nat) (row : RefreshRow) (pair : TokenPair) : Prop :=
  ∃ request, w.flights[i]? = some ⟨request, .answered (some row) (.tokens pair)⟩ ∧ row.revokedAt = none

/-- The request was answered 200 by the grace branch of a revoked row. -/
def Retried (w : AuthWorld) (i : Nat) (row : RefreshRow) (pair : TokenPair) : Prop :=
  ∃ request, w.flights[i]? = some ⟨request, .answered (some row) (.tokens pair)⟩ ∧ row.revokedAt ≠ none

/-- A grace retry of a token answers with the claims that its rotation answered with. -/
def RetryIdempotent (w : AuthWorld) : Prop :=
  ∀ i j row old pair again, w.Rotated i row pair → w.Retried j old again → old.jti = row.jti → again = pair

/-- A grace retry never answers with the tokens of the rotation: the access
token is another one, and the refresh token has a claim more. -/
theorem retry_never_idempotent (ctx : AuthHandlerContext) (users : Table User User.id)
    (orgs : Table AllowlistOrg AllowlistOrg.id) (clock : Int) (w : AuthWorld)
    (run : Run ctx (fun _ _ => True) (boot users orgs clock) w) (i j : Nat) (row old : RefreshRow)
    (pair again : TokenPair) (rotated : w.Rotated i row pair) (retried : w.Retried j old again)
    (sameToken : old.jti = row.jti) :
    again ≠ pair ∧ again.accessJwt.jti ≠ pair.accessJwt.jti ∧
      pair.refreshJwt.parentJti = none ∧ again.refreshJwt.parentJti = some row.jti := by
  have minted := run.invariant (P := Minted) (fun _ event minted _ => minted_step ctx minted event)
    (minted_boot users orgs clock)
  obtain ⟨request, found, live⟩ := rotated
  obtain ⟨request', found', revoked⟩ := retried
  have root : pair.refreshJwt.parentJti = none := by
    rcases minted.parentage i _ found with ⟨-, root⟩ | ⟨revoked, -⟩
    · exact root
    · exact absurd live revoked
  have child : again.refreshJwt.parentJti = some row.jti := by
    rcases minted.parentage j _ found' with ⟨live, -⟩ | ⟨-, child⟩
    · exact absurd live revoked
    · exact child.trans (congrArg some sameToken)
  have apart : again.accessJwt.jti ≠ pair.accessJwt.jti := by
    intro same
    obtain rfl := minted.single i j _ _ pair.accessJwt.jti found found' rfl (congrArg some same)
    obtain ⟨-, answered⟩ := Flight.mk.inj (Option.some.inj (found.symm.trans found'))
    obtain ⟨sameRow, -⟩ := Stage.answered.inj answered
    obtain rfl := Option.some.inj sameRow
    exact revoked live
  exact ⟨fun same => apart (congrArg (fun tokens => tokens.accessJwt.jti) same), apart, root, child⟩

/-- Ada as an administrator, after a rotation and a retry three seconds later. -/
def retriedServer : AuthWorld :=
  (boot ⟨[⟨"ada", "acme", some "admin", "github", none, none, 0⟩], by decide⟩ .empty 1000).after plainContext
    ([signIn, .arrive adasToken] ++ turns 0 5 ++ [.tick 3, .arrive adasToken] ++ turns 1 3)

theorem retriedServer_run : Run plainContext (fun _ _ => True)
    (boot ⟨[⟨"ada", "acme", some "admin", "github", none, none, 0⟩], by decide⟩ .empty 1000) retriedServer :=
  .of_inputs fun _ _ => trivial

/-- The token is rotated and then retried; the retry says `member` and names the parent. -/
theorem retriedServer_answers : ∃ row old pair again, retriedServer.Rotated 0 row pair ∧
    retriedServer.Retried 1 old again ∧ old.jti = row.jti ∧ pair.accessJwt.role = .admin ∧
    again.accessJwt.role = .member := by
  refine ⟨_, _, _, _, ⟨_, by rfl, by decide⟩, ⟨_, by rfl, by decide⟩, by decide, by decide, by decide⟩

theorem retry_never_idempotent_admin : ∃ row old pair again, retriedServer.Rotated 0 row pair ∧
    retriedServer.Retried 1 old again ∧ again ≠ pair := by
  obtain ⟨row, old, pair, again, rotated, retried, sameToken, -, -⟩ := retriedServer_answers
  exact ⟨row, old, pair, again, rotated, retried,
    (retry_never_idempotent _ _ _ _ _ retriedServer_run 0 1 row old pair again rotated retried sameToken).1⟩

/-- The retry of an administrator's token is answered with a member's access token. -/
theorem not_retryIdempotent : ¬ ∀ ctx users orgs clock w, Run ctx (fun _ _ => True) (boot users orgs clock) w →
    w.RetryIdempotent := by
  intro idempotent
  obtain ⟨row, old, pair, again, rotated, retried, sameToken, admin, member⟩ := retriedServer_answers
  have same := idempotent _ _ _ _ _ retriedServer_run 0 1 row old pair again rotated retried sameToken
  rw [same, admin] at member
  cases member

end AuthWorld

end Coordinator
