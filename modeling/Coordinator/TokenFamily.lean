import Coordinator.FamilyRevocation

namespace Coordinator
open RefreshTokens

/-- The mint of a rotation that is not linked to its parent yet. -/
def Stage.rotation : Stage → Option Mint
  | .signingAccess mint | .signingRefresh mint _ | .inserted mint _ => some mint
  | _ => none

theorem Stage.rotation_of_mint {stage : Stage} {mint : Mint} (minting : stage.mint = some mint) :
    stage.rotation = some mint := by
  cases stage with
  | signingAccess _ => exact minting
  | signingRefresh _ _ => exact minting
  | verifying | gettingMemberships | refreshingIdpToken | listingMemberships | checked | inserted | reminting
  | answered => cases minting

theorem Stage.row_of_rotation {stage : Stage} {mint : Mint} (rotating : stage.rotation = some mint) :
    stage.row = some mint.row := by
  cases stage with
  | signingAccess _ => exact congrArg (Option.map Mint.row) rotating
  | signingRefresh _ _ => exact congrArg (Option.map Mint.row) rotating
  | inserted _ _ => exact congrArg (Option.map Mint.row) rotating
  | verifying | gettingMemberships | refreshingIdpToken | listingMemberships | checked | reminting | answered =>
    cases rotating

theorem Stage.Waits.rotation_eq {row : RefreshRow} {stage : Stage} (waits : stage.Waits row) : stage.rotation = none := by
  cases waits with
  | asks asks => cases asks <;> rfl
  | checked => rfl

namespace RefreshTokens

/-- Each family has at most one unrevoked row. -/
def OneLive (T : RefreshTokens) : Prop :=
  ∀ family, T.changes (unrevoked fun r => r.familyId = some family) ≤ 1

/-- No row is the parent of two. -/
def ParentsInjective (T : RefreshTokens) : Prop :=
  ∀ r ∈ T.rows, ∀ s ∈ T.rows, r.parentJti ≠ none → r.parentJti = s.parentJti → r = s

/-- All rows of the token are revoked. -/
def TokenDead (T : RefreshTokens) (jti : Nat) : Prop := ∀ r ∈ T.rows, r.jti = jti → r.revokedAt ≠ none

theorem Evolves.tokenDead {T U : RefreshTokens} (evolves : Evolves T U) {jti : Nat} (dead : T.TokenDead jti) :
    U.TokenDead jti := by
  intro r member same
  obtain ⟨old, oldMember, sameJti, -, stays⟩ := evolves r member
  exact stays (dead old oldMember (sameJti.trans same))

theorem tokenDead_revokeToken (T : RefreshTokens) (jti : Nat) (now : Int) (reason : RevokedReason) :
    (T.revokeToken jti now reason).TokenDead jti := by
  intro r member atJti
  obtain ⟨old, -, same⟩ := mem_revokeWhere.mp member
  split at same
  · rw [← same]
    exact Option.some_ne_none now
  · rename_i skipped
    subst same
    simpa [unrevoked, atJti] using skipped

theorem changes_jti_eq_one {T : RefreshTokens} {jti : Nat} :
    T.changes (unrevoked fun r => r.jti = jti) = 1 ↔ ∃ r ∈ T.rows, r.jti = jti ∧ r.revokedAt = none := by
  have fixes : ∀ r : RefreshRow, unrevoked (fun r => r.jti = jti) r → r.jti = jti := by
    intro r hit
    simp only [unrevoked, Bool.and_eq_true, decide_eq_true_eq] at hit
    exact hit.1
  rw [Table.changes_eq_one fixes]
  simp only [unrevoked, Bool.and_eq_true, decide_eq_true_eq, Option.isNone_iff_eq_none, Table.find_eq_some]
  constructor
  · intro found
    obtain ⟨r, ⟨member, -⟩, atJti, live⟩ := found
    exact ⟨r, member, atJti, live⟩
  · intro found
    obtain ⟨r, member, atJti, live⟩ := found
    exact ⟨r, ⟨member, atJti⟩, atJti, live⟩

theorem link_eq_some {T U : RefreshTokens} {jti parent : Nat} (linked : T.link jti parent = some U) :
    (∀ r ∈ T.rows, (∃ s ∈ T.rows, s.jti = jti) → r.jti ≠ jti → r.parentJti ≠ some parent) ∧
      U = T.update (fun r => r.jti = jti) (RefreshRow.follow parent) (RefreshRow.follow_jti parent) := by
  rw [link] at linked
  split at linked
  · cases linked
  · rename_i free
    refine ⟨?_, (Option.some.inj linked).symm⟩
    intro r member found apart child
    obtain ⟨s, inRows, atJti⟩ := found
    refine free ?_
    rw [Bool.and_eq_true]
    refine ⟨?_, List.any_eq_true.mpr ⟨r, member, by simp [apart, child]⟩⟩
    rw [← atJti, Table.find_self inRows]
    rfl

end RefreshTokens

/-- What one turn does to the table and to the rotation the request is in. -/
inductive Rotates (db : AuthDb) (stage : Stage) : AuthDb × Stage → Prop
  | quiet {db' : AuthDb} {stage' : Stage} : Keeps db.refreshTokens db'.refreshTokens → db.draws ≤ db'.draws →
    (stage'.rotation = none ∨ stage'.rotation = stage.rotation) → (stage'.mint = none ∨ stage'.mint = stage.mint) →
    Rotates db stage (db', stage')
  | began {row : RefreshRow} {mint : Mint} {now : Int} {db' : AuthDb} {stage' : Stage} : stage.row = some row →
    db.refreshTokens.changes (unrevoked fun r => r.jti = row.jti) = 1 → Begins db db' row mint →
    db'.refreshTokens = db.refreshTokens.revokeToken row.jti now .rotated → stage'.rotation = some mint →
    Rotates db stage (db', stage')
  | inserted {mint : Mint} {fingerprint : Option String} {tokens : RefreshTokens} {stage' : Stage} :
    stage.mint = some mint → db.refreshTokens.insert (mint.successor fingerprint) = some tokens →
    stage'.rotation = some mint → stage'.mint = none → Rotates db stage (db.setTokens tokens, stage')
  | linked {mint : Mint} {tokens : RefreshTokens} {stage' : Stage} : stage.rotation = some mint →
    db.refreshTokens.link mint.refreshJti mint.row.jti = some tokens → stage'.rotation = none →
    Rotates db stage (db.setTokens tokens, stage')

theorem Screened.rotates {row : RefreshRow} {db : AuthDb} {stage : Stage} {result : AuthDb × Stage}
    (screened : Screened row db result) : Rotates db stage result := by
  cases screened with
  | refused _ lapse => exact .quiet lapse.keeps lapse.draws.ge (.inl rfl) (.inl rfl)
  | waits waits lapse => exact .quiet lapse.keeps lapse.draws.ge (.inl waits.rotation_eq) (.inl waits.mint_eq)

theorem Turn.rotates {db : AuthDb} {request : RefreshRequest} {stage : Stage} {result : AuthDb × Stage}
    (turn : Turn db request stage result) : Rotates db stage result := by
  cases turn with
  | rejected _ => exact .quiet (.refl _) le_rfl (.inl rfl) (.inl rfl)
  | selected _ screened => exact screened.rotates
  | screened _ screened => exact screened.rotates
  | reused _ _ =>
    exact .quiet (reuseWrites_keeps db _ _).2 (reuseWrites_keeps db _ _).1.ge (.inl rfl) (.inl rfl)
  | retried _ _ => exact .quiet (.refl _) (Nat.le_succ _) (.inl rfl) (.inl rfl)
  | raced _ _ => exact .quiet (.refl _) le_rfl (.inl rfl) (.inl rfl)
  | @rotated row now user _ _ single =>
    obtain ⟨mint, stage, begins⟩ :=
      beginMint_begins (db.setTokens (db.refreshTokens.revokeToken row.jti now .rotated)) row (mintedRole user)
    exact .began rfl single ⟨begins.row_eq, begins.refreshJti, begins.familyId⟩ rfl (congrArg Stage.rotation stage)
  | signed => exact .quiet (.refl _) le_rfl (.inr rfl) (.inr rfl)
  | inserted fresh => exact .inserted rfl fresh rfl rfl
  | clashed _ => exact .quiet (.refl _) le_rfl (.inl rfl) (.inl rfl)
  | linked link => exact .linked rfl link rfl
  | unlinked _ => exact .quiet (.refl _) le_rfl (.inl rfl) (.inl rfl)
  | reminted => exact .quiet (.refl _) le_rfl (.inl rfl) (.inl rfl)
  | settled => exact .quiet (.refl _) le_rfl (.inl rfl) (.inl rfl)

namespace AuthWorld

/-- The `i`-th request is between its compare-and-set and the link of its successor. -/
def Rotating (w : AuthWorld) (i : Nat) (mint : Mint) : Prop :=
  ∃ flight, w.flights[i]? = some flight ∧ flight.stage.rotation = some mint

theorem Pending.rotating {w : AuthWorld} {i : Nat} {mint : Mint} (pending : w.Pending i mint) : w.Rotating i mint := by
  obtain ⟨flight, found, atMint⟩ := pending
  exact ⟨flight, found, Stage.rotation_of_mint atMint⟩

theorem Rotating.selected {w : AuthWorld} {i : Nat} {mint : Mint} (rotating : w.Rotating i mint) :
    w.Selected i mint.row := by
  obtain ⟨flight, found, atMint⟩ := rotating
  exact ⟨flight, found, Stage.row_of_rotation atMint⟩

theorem rotating_setStage {w : AuthWorld} {i j : Nat} {request : RefreshRequest} {stage : Stage} {mint : Mint}
    (rotating : (w.setStage i request stage).Rotating j mint) :
    (j = i ∧ stage.rotation = some mint) ∨ (j ≠ i ∧ w.Rotating j mint) := by
  obtain ⟨flight, found, atMint⟩ := rotating
  rcases getElem?_setStage found with ⟨same, moved⟩ | ⟨other, kept⟩
  · exact .inl ⟨same, moved ▸ atMint⟩
  · exact .inr ⟨other, flight, kept, atMint⟩

/-- Every rotation and every pending mint was there before. -/
structure NothingBegins (w w' : AuthWorld) : Prop where
  rotating : ∀ j mint, w'.Rotating j mint → w.Rotating j mint
  pending : ∀ j mint, w'.Pending j mint → w.Pending j mint

/-- Everything one step of the server does to the table of tokens and to the rotations. -/
inductive Effect (w w' : AuthWorld) : Prop
  | quiet : Keeps w.db.refreshTokens w'.db.refreshTokens → w.db.draws ≤ w'.db.draws → NothingBegins w w' → Effect w w'
  | opened {r : RefreshRow} : w.db.refreshTokens.insert r = some w'.db.refreshTokens → w.db.draws < w'.db.draws →
    w.db.draws ≤ r.jti → r.familyId = some w.db.draws → r.parentJti = none → NothingBegins w w' → Effect w w'
  | began {i : Nat} {row : RefreshRow} {mint : Mint} {now : Int} : w.Selected i row →
    w.db.refreshTokens.changes (unrevoked fun r => r.jti = row.jti) = 1 → Begins w.db w'.db row mint →
    w'.db.refreshTokens = w.db.refreshTokens.revokeToken row.jti now .rotated →
    (∀ j other, w'.Rotating j other → (j = i ∧ other = mint) ∨ (j ≠ i ∧ w.Rotating j other)) →
    (∀ j other, w'.Pending j other → (j = i ∧ other = mint) ∨ (j ≠ i ∧ w.Pending j other)) → Effect w w'
  | inserted {i : Nat} {mint : Mint} {fingerprint : Option String} : w.Pending i mint →
    w.db.refreshTokens.insert (mint.successor fingerprint) = some w'.db.refreshTokens → w'.db.draws = w.db.draws →
    (∀ j other, w'.Rotating j other → w.Rotating j other) →
    (∀ j other, w'.Pending j other → j ≠ i ∧ w.Pending j other) → Effect w w'
  | linked {i : Nat} {mint : Mint} : w.Rotating i mint →
    w.db.refreshTokens.link mint.refreshJti mint.row.jti = some w'.db.refreshTokens → w'.db.draws = w.db.draws →
    (∀ j other, w'.Rotating j other → j ≠ i ∧ w.Rotating j other) →
    (∀ j other, w'.Pending j other → w.Pending j other) → Effect w w'

theorem NothingBegins.refl (w : AuthWorld) (db : AuthDb) : NothingBegins w { w with db := db } :=
  ⟨fun _ _ => id, fun _ _ => id⟩

theorem effect_turn {w : AuthWorld} {i : Nat} {flight : Flight} {db : AuthDb} {stage : Stage}
    (found : w.flights[i]? = some flight) (rotates : Rotates w.db flight.stage (db, stage)) :
    Effect w { db := db, flights := w.flights.set i ⟨flight.request, stage⟩ } := by
  have rotating : ∀ j mint, Rotating { db := db, flights := w.flights.set i ⟨flight.request, stage⟩ } j mint →
      (j = i ∧ stage.rotation = some mint) ∨ (j ≠ i ∧ w.Rotating j mint) := fun j mint => rotating_setStage (w := w)
  have pending : ∀ j mint, Pending { db := db, flights := w.flights.set i ⟨flight.request, stage⟩ } j mint →
      (j = i ∧ stage.mint = some mint) ∨ (j ≠ i ∧ w.Pending j mint) := fun j mint => pending_setStage (w := w)
  cases rotates with
  | quiet keeps draws noRotation noMint =>
    refine .quiet keeps draws ⟨?_, ?_⟩
    · intro j mint now
      rcases rotating j mint now with ⟨rfl, moved⟩ | ⟨-, kept⟩
      · rcases noRotation with none | same
        · cases none.symm.trans moved
        · exact ⟨flight, found, same.symm.trans moved⟩
      · exact kept
    · intro j mint now
      rcases pending j mint now with ⟨rfl, moved⟩ | ⟨-, kept⟩
      · rcases noMint with none | same
        · cases none.symm.trans moved
        · exact ⟨flight, found, same.symm.trans moved⟩
      · exact kept
  | began selected single begins revoked atMint =>
    refine .began ⟨flight, found, selected⟩ single begins revoked ?_ ?_
    · intro j other now
      rcases rotating j other now with ⟨same, moved⟩ | kept
      · exact .inl ⟨same, Option.some.inj (moved.symm.trans atMint)⟩
      · exact .inr kept
    · intro j other now
      rcases pending j other now with ⟨same, moved⟩ | kept
      · exact .inl ⟨same, Option.some.inj ((Stage.rotation_of_mint moved).symm.trans atMint)⟩
      · exact .inr kept
  | inserted minting fresh atMint done =>
    have before : w.Pending i _ := ⟨flight, found, minting⟩
    refine .inserted before fresh rfl ?_ ?_
    · intro j other now
      rcases rotating j other now with ⟨rfl, moved⟩ | ⟨-, kept⟩
      · obtain rfl := Option.some.inj (atMint.symm.trans moved)
        exact before.rotating
      · exact kept
    · intro j other now
      rcases pending j other now with ⟨-, moved⟩ | kept
      · cases done.symm.trans moved
      · exact kept
  | linked atMint link done =>
    refine .linked ⟨flight, found, atMint⟩ link rfl ?_ ?_
    · intro j other now
      rcases rotating j other now with ⟨-, moved⟩ | kept
      · cases done.symm.trans moved
      · exact kept
    · intro j other now
      rcases pending j other now with ⟨-, moved⟩ | ⟨-, kept⟩
      · cases done.symm.trans (Stage.rotation_of_mint moved)
      · exact kept

theorem nothingBegins_arrive (w : AuthWorld) (request : RefreshRequest) :
    NothingBegins w { w with flights := w.flights ++ [⟨request, .verifying⟩] } := by
  constructor
  · intro j mint now
    obtain ⟨flight, found, atMint⟩ := now
    exact ⟨flight, held_arrive found atMint rfl, atMint⟩
  · intro j mint now
    obtain ⟨flight, found, atMint⟩ := now
    exact ⟨flight, held_arrive found atMint rfl, atMint⟩

theorem step_effect (ctx : AuthHandlerContext) (w : AuthWorld) (event : AuthEvent) : Effect w (w.step ctx event) := by
  cases event with
  | tick seconds => exact .quiet (.refl _) le_rfl (.refl w _)
  | arrive request => exact .quiet (.refl _) le_rfl (nothingBegins_arrive w request)
  | advance i answers =>
    cases found : w.flights[i]? with
    | none =>
      simp only [step, found]
      exact .quiet (.refl _) le_rfl (.refl w w.db)
    | some flight =>
      rw [step_advance ctx answers found]
      exact effect_turn found (advance_turn ctx w.db flight.request answers flight.stage).rotates
  | login userId orgId fingerprint =>
    simp only [step, openSession]
    split
    · exact .quiet (.refl _) le_rfl (.refl w w.db)
    · rename_i tokens inserted
      refine .opened (r := sessionRow w.db userId orgId fingerprint) inserted ?_ ?_ rfl rfl (.refl w _)
      · show w.db.draws < w.db.draws + 3
        omega
      · exact Nat.le_succ w.db.draws
  | logout familyId =>
    exact .quiet (handleLogout_keeps w.db familyId).2 (handleLogout_keeps w.db familyId).1.ge (.refl w _)
  | logoutAll userId => exact .quiet (.revokeWhere _ _ _ _) le_rfl (.refl w _)
  | revoke call => exact .quiet (handleRevoke_keeps w.db call).2 (handleRevoke_keeps w.db call).1.ge (.refl w _)
  | bumpTokenEpoch userId => exact .quiet (.refl _) le_rfl (.refl w _)
  | noteEpochBump userId epoch => exact .quiet (.refl _) le_rfl (.refl w _)
  | writeUser user => exact .quiet (.refl _) le_rfl (.refl w _)
  | sweep env victims => exact .quiet (.delete _ _) le_rfl (.refl w _)

/-- A family has one unrevoked row at most, none while its successor is pending, and
one pending successor at most. -/
structure Exclusive (w : AuthWorld) : Prop where
  live : ∀ r ∈ w.db.refreshTokens.rows, ∀ s ∈ w.db.refreshTokens.rows, ∀ family, r.familyId = some family →
    s.familyId = some family → r.revokedAt = none → s.revokedAt = none → r = s
  pending : ∀ i mint, w.Pending i mint → w.db.refreshTokens.FamilyDead mint.familyId
  single : ∀ i j mint other, w.Pending i mint → w.Pending j other → mint.familyId = other.familyId → i = j

/-- A parent is revoked for good, its rotation is the only one, and it has one successor at most. -/
structure Parented (w : AuthWorld) : Prop where
  parents : w.db.refreshTokens.ParentsInjective
  drawn : ∀ r ∈ w.db.refreshTokens.rows, ∀ parent, r.parentJti = some parent →
    parent < w.db.draws ∧ ∀ i mint, w.Pending i mint → mint.refreshJti ≠ parent
  dead : ∀ r ∈ w.db.refreshTokens.rows, ∀ parent, r.parentJti = some parent → w.db.refreshTokens.TokenDead parent
  rotating : ∀ i mint, w.Rotating i mint → w.db.refreshTokens.TokenDead mint.row.jti
  childless : ∀ i mint, w.Rotating i mint → ∀ r ∈ w.db.refreshTokens.rows, r.parentJti ≠ some mint.row.jti
  single : ∀ i j mint other, w.Rotating i mint → w.Rotating j other → mint.row.jti = other.row.jti → i = j

section
variable {w w' : AuthWorld}

theorem Exclusive.evolve (exclusive : Exclusive w) (evolves : Evolves w.db.refreshTokens w'.db.refreshTokens)
    (pending : ∀ j mint, w'.Pending j mint → w.Pending j mint) : Exclusive w' where
  live r member s member' family inFamily inFamily' live live' := by
    obtain ⟨old, oldMember, sameJti, sameFamily, stays⟩ := evolves r member
    obtain ⟨old', oldMember', sameJti', sameFamily', stays'⟩ := evolves s member'
    have same := exclusive.live old oldMember old' oldMember' family (sameFamily.trans inFamily)
      (sameFamily'.trans inFamily') (not_not.mp fun revoked => stays revoked live)
      (not_not.mp fun revoked => stays' revoked live')
    rw [same] at sameJti
    exact List.inj_on_of_nodup_map w'.db.refreshTokens.keyed member member' (sameJti.symm.trans sameJti')
  pending i mint now := evolves.familyDead (exclusive.pending i mint (pending i mint now))
  single i j mint other now now' same := exclusive.single i j mint other (pending i mint now) (pending j other now') same

/-- A row is born alive into a family without a live row and without a pending one. -/
theorem Exclusive.born (exclusive : Exclusive w) {r : RefreshRow} {family : Nat}
    (inserted : w.db.refreshTokens.insert r = some w'.db.refreshTokens) (inFamily : r.familyId = some family)
    (dead : w.db.refreshTokens.FamilyDead family) (pending : ∀ j mint, w'.Pending j mint → w.Pending j mint)
    (apart : ∀ j mint, w'.Pending j mint → mint.familyId ≠ family) : Exclusive w' := by
  have cases_on : ∀ s ∈ w'.db.refreshTokens.rows, s ∈ w.db.refreshTokens.rows ∨ s = r :=
    fun _ member => (Table.mem_insert inserted).mp member
  have other : ∀ s ∈ w.db.refreshTokens.rows, ∀ f, s.familyId = some f → s.revokedAt = none → r.familyId ≠ some f := by
    intro s member f inF live same
    obtain rfl := Option.some.inj (inFamily.symm.trans same)
    exact dead s member inF live
  refine ⟨?_, ?_, fun i j mint other now now' => exclusive.single i j mint other (pending i mint now) (pending j other now')⟩
  · intro s member t member' f inF inF' live live'
    rcases cases_on s member with old | rfl
    · rcases cases_on t member' with old' | rfl
      · exact exclusive.live s old t old' f inF inF' live live'
      · exact absurd inF' (other s old f inF live)
    · rcases cases_on t member' with old' | rfl
      · exact absurd inF (other t old' f inF' live')
      · rfl
  · intro i mint now s member inF
    rcases cases_on s member with old | rfl
    · exact exclusive.pending i mint (pending i mint now) s old inF
    · obtain rfl := Option.some.inj (inFamily.symm.trans inF)
      exact absurd rfl (apart i mint now)

/-- The family of a rotation that begins has nothing alive and nothing pending but its successor. -/
theorem Exclusive.begin (exclusive : Exclusive w) (coherent : Coherent w) {i : Nat} {row : RefreshRow} {mint : Mint}
    {now : Int} (selected : w.Selected i row)
    (single : w.db.refreshTokens.changes (unrevoked fun r => r.jti = row.jti) = 1)
    (begins : Begins w.db w'.db row mint)
    (revoked : w'.db.refreshTokens = w.db.refreshTokens.revokeToken row.jti now .rotated)
    (pending : ∀ j other, w'.Pending j other → (j = i ∧ other = mint) ∨ (j ≠ i ∧ w.Pending j other)) :
    Exclusive w' := by
  obtain ⟨r, member, atJti, live⟩ := changes_jti_eq_one.mp single
  have sameFamily := (coherent.selected i row selected).2.2 r member atJti
  have evolves : Evolves w.db.refreshTokens w'.db.refreshTokens := by
    rw [revoked]
    exact .revokeWhere _ _ _ _
  have dead : w'.db.refreshTokens.FamilyDead mint.familyId := by
    intro s member' inFamily
    rcases begins.familyId with inherited | ⟨-, fresh, -⟩
    · intro live'
      obtain ⟨old, oldMember, oldJti, oldFamily, stays⟩ := evolves s member'
      have same := exclusive.live old oldMember r member mint.familyId (oldFamily.trans inFamily)
        (sameFamily.trans inherited) (not_not.mp fun revoked => stays revoked live') live
      rw [revoked] at member'
      exact tokenDead_revokeToken _ _ _ _ s member' (oldJti.symm.trans (same ▸ atJti)) live'
    · obtain ⟨old, oldMember, -, oldFamily, -⟩ := evolves s member'
      have known := (coherent.rows old oldMember).2 mint.familyId (oldFamily.trans inFamily)
      omega
  have apart : ∀ j other, w.Pending j other → other.familyId ≠ mint.familyId := by
    intro j other before same
    rcases begins.familyId with inherited | ⟨-, fresh, -⟩
    · exact exclusive.pending j other before r member ((sameFamily.trans inherited).trans (congrArg some same.symm)) live
    · have known := (coherent.pending j other before).familyId
      omega
  constructor
  · have still : Exclusive { w with db := w'.db } := exclusive.evolve evolves fun _ _ => id
    exact still.live
  · intro j other now
    rcases pending j other now with ⟨-, rfl⟩ | ⟨-, before⟩
    · exact dead
    · exact evolves.familyDead (exclusive.pending j other before)
  · intro j k other other' now now' same
    rcases pending j other now with ⟨rfl, rfl⟩ | ⟨-, before⟩
    · rcases pending k other' now' with ⟨rfl, -⟩ | ⟨-, before'⟩
      · rfl
      · exact absurd same.symm (apart k other' before')
    · rcases pending k other' now' with ⟨rfl, rfl⟩ | ⟨-, before'⟩
      · exact absurd same (apart j other before)
      · exact exclusive.single j k other other' before before' same

theorem Exclusive.step (exclusive : Exclusive w) (coherent : Coherent w) (effect : Effect w w') : Exclusive w' := by
  cases effect with
  | quiet keeps _ nothing => exact exclusive.evolve keeps.evolves nothing.pending
  | opened inserted _ _ inFamily _ nothing =>
    refine exclusive.born inserted inFamily ?_ nothing.pending ?_
    · intro r member same
      exact absurd ((coherent.rows r member).2 _ same) (Nat.lt_irrefl _)
    · intro j mint now same
      exact absurd (coherent.pending j mint (nothing.pending j mint now)).familyId (same ▸ Nat.lt_irrefl _)
  | began selected single begins revoked _ pending => exact exclusive.begin coherent selected single begins revoked pending
  | @inserted i mint _ minting inserted _ _ pending =>
    refine exclusive.born inserted rfl (exclusive.pending i mint minting) (fun j other now => (pending j other now).2) ?_
    intro j other now same
    obtain ⟨apart, before⟩ := pending j other now
    exact apart (exclusive.single j i other mint before minting same)
  | linked _ link _ _ pending => exact exclusive.evolve (.link link) pending

theorem Parented.keep (parented : Parented w) (keeps : Keeps w.db.refreshTokens w'.db.refreshTokens)
    (draws : w.db.draws ≤ w'.db.draws) (nothing : NothingBegins w w') : Parented w' where
  parents r member s member' linked same := by
    obtain ⟨old, oldMember, sameJti, -, sameParent, -⟩ := keeps r member
    obtain ⟨old', oldMember', sameJti', -, sameParent', -⟩ := keeps s member'
    have same := parented.parents old oldMember old' oldMember' (sameParent ▸ linked)
      (sameParent.trans (same.trans sameParent'.symm))
    rw [same] at sameJti
    exact List.inj_on_of_nodup_map w'.db.refreshTokens.keyed member member' (sameJti.symm.trans sameJti')
  drawn r member parent child := by
    obtain ⟨old, oldMember, -, -, sameParent, -⟩ := keeps r member
    obtain ⟨drawn, unclaimed⟩ := parented.drawn old oldMember parent (sameParent.trans child)
    exact ⟨drawn.trans_le draws, fun i mint now => unclaimed i mint (nothing.pending i mint now)⟩
  dead r member parent child := by
    obtain ⟨old, oldMember, -, -, sameParent, -⟩ := keeps r member
    exact keeps.evolves.tokenDead (parented.dead old oldMember parent (sameParent.trans child))
  rotating i mint now := keeps.evolves.tokenDead (parented.rotating i mint (nothing.rotating i mint now))
  childless i mint now r member := by
    obtain ⟨old, oldMember, -, -, sameParent, -⟩ := keeps r member
    rw [← sameParent]
    exact parented.childless i mint (nothing.rotating i mint now) old oldMember
  single i j mint other now now' :=
    parented.single i j mint other (nothing.rotating i mint now) (nothing.rotating j other now')

/-- A row is born without a parent, under an identifier that is no parent's and no rotation's. -/
theorem Parented.born (parented : Parented w) {r : RefreshRow}
    (inserted : w.db.refreshTokens.insert r = some w'.db.refreshTokens) (orphan : r.parentJti = none)
    (draws : w.db.draws ≤ w'.db.draws) (nothing : NothingBegins w w')
    (childless : ∀ s ∈ w.db.refreshTokens.rows, s.parentJti ≠ some r.jti)
    (unrotated : ∀ i mint, w.Rotating i mint → mint.row.jti ≠ r.jti) : Parented w' := by
  have cases_on : ∀ s ∈ w'.db.refreshTokens.rows, s ∈ w.db.refreshTokens.rows ∨ s = r :=
    fun _ member => (Table.mem_insert inserted).mp member
  have older : ∀ s ∈ w'.db.refreshTokens.rows, s.parentJti ≠ none → s ∈ w.db.refreshTokens.rows := by
    intro s member linked
    rcases cases_on s member with old | rfl
    · exact old
    · exact absurd orphan linked
  have dead : ∀ jti, jti ≠ r.jti → w.db.refreshTokens.TokenDead jti → w'.db.refreshTokens.TokenDead jti := by
    intro jti apart dead s member same
    rcases cases_on s member with old | rfl
    · exact dead s old same
    · exact absurd same.symm apart
  constructor
  · intro s member t member' linked same
    exact parented.parents s (older s member linked) t (older t member' (same ▸ linked)) linked same
  · intro s member parent child
    obtain ⟨drawn, unclaimed⟩ := parented.drawn s (older s member (by simp [child])) parent child
    exact ⟨drawn.trans_le draws, fun i mint now => unclaimed i mint (nothing.pending i mint now)⟩
  · intro s member parent child
    have old := older s member (by simp [child])
    refine dead parent ?_ (parented.dead s old parent child)
    intro same
    exact childless s old (same ▸ child)
  · intro i mint now
    have before := nothing.rotating i mint now
    exact dead mint.row.jti (unrotated i mint before) (parented.rotating i mint before)
  · intro i mint now s member
    rcases cases_on s member with old | rfl
    · exact parented.childless i mint (nothing.rotating i mint now) s old
    · simp [orphan]
  · intro i j mint other now now'
    exact parented.single i j mint other (nothing.rotating i mint now) (nothing.rotating j other now')

/-- A token that is rotated was alive: it has no successor and no other rotation. -/
theorem Parented.begin (parented : Parented w) {i : Nat} {row : RefreshRow} {mint : Mint}
    {now : Int} (single : w.db.refreshTokens.changes (unrevoked fun r => r.jti = row.jti) = 1)
    (begins : Begins w.db w'.db row mint)
    (revoked : w'.db.refreshTokens = w.db.refreshTokens.revokeToken row.jti now .rotated)
    (rotating : ∀ j other, w'.Rotating j other → (j = i ∧ other = mint) ∨ (j ≠ i ∧ w.Rotating j other))
    (pending : ∀ j other, w'.Pending j other → (j = i ∧ other = mint) ∨ (j ≠ i ∧ w.Pending j other)) :
    Parented w' := by
  obtain ⟨r, member, atJti, live⟩ := changes_jti_eq_one.mp single
  have keeps : Keeps w.db.refreshTokens w'.db.refreshTokens := by
    rw [revoked]
    exact .revokeWhere _ _ _ _
  have draws : w.db.draws ≤ w'.db.draws := by
    have fresh := begins.refreshJti
    omega
  have still : Parented { w with db := w'.db } := parented.keep keeps draws ⟨fun _ _ => id, fun _ _ => id⟩
  have orphaned : ∀ s ∈ w'.db.refreshTokens.rows, s.parentJti ≠ some mint.row.jti := by
    intro s member' child
    obtain ⟨old, oldMember, -, -, sameParent, -⟩ := keeps s member'
    rw [begins.row_eq] at child
    exact parented.dead old oldMember row.jti (sameParent.trans child) r member atJti live
  have apart : ∀ j other, w.Rotating j other → other.row.jti ≠ mint.row.jti := by
    intro j other before same
    rw [begins.row_eq] at same
    exact parented.rotating j other before r member (atJti.trans same.symm) live
  refine ⟨still.parents, ?_, still.dead, ?_, ?_, ?_⟩
  · intro s member' parent child
    obtain ⟨drawn, unclaimed⟩ := still.drawn s member' parent child
    obtain ⟨old, oldMember, -, -, sameParent, -⟩ := keeps s member'
    have known := (parented.drawn old oldMember parent (sameParent.trans child)).1
    refine ⟨drawn, fun j other now => ?_⟩
    rcases pending j other now with ⟨-, rfl⟩ | ⟨-, before⟩
    · have fresh := begins.refreshJti
      omega
    · exact unclaimed j other before
  · intro j other now
    rcases rotating j other now with ⟨-, rfl⟩ | ⟨-, before⟩
    · rw [begins.row_eq, revoked]
      exact tokenDead_revokeToken _ _ _ _
    · exact still.rotating j other before
  · intro j other now
    rcases rotating j other now with ⟨-, rfl⟩ | ⟨-, before⟩
    · exact orphaned
    · exact still.childless j other before
  · intro j k other other' now now' same
    rcases rotating j other now with ⟨rfl, rfl⟩ | ⟨-, before⟩
    · rcases rotating k other' now' with ⟨rfl, -⟩ | ⟨-, before'⟩
      · rfl
      · exact absurd same.symm (apart k other' before')
    · rcases rotating k other' now' with ⟨rfl, rfl⟩ | ⟨-, before'⟩
      · exact absurd same (apart j other before)
      · exact parented.single j k other other' before before' same

/-- A finished rotation gives its parent the one successor. -/
theorem Parented.link (parented : Parented w) (coherent : Coherent w) {i : Nat} {mint : Mint}
    (rotated : w.Rotating i mint)
    (linked : w.db.refreshTokens.link mint.refreshJti mint.row.jti = some w'.db.refreshTokens)
    (draws : w'.db.draws = w.db.draws) (rotating : ∀ j other, w'.Rotating j other → j ≠ i ∧ w.Rotating j other)
    (pending : ∀ j other, w'.Pending j other → w.Pending j other) : Parented w' := by
  obtain ⟨-, updated⟩ := link_eq_some linked
  have evolves : Evolves w.db.refreshTokens w'.db.refreshTokens := .link linked
  have cases_on : ∀ s ∈ w'.db.refreshTokens.rows, (s ∈ w.db.refreshTokens.rows) ∨
      (s.jti = mint.refreshJti ∧ s.parentJti = some mint.row.jti) := by
    intro s member
    rw [updated] at member
    obtain ⟨old, inRows, same⟩ := Table.mem_update.mp member
    split at same
    · rename_i atJti
      rw [← same]
      exact .inr ⟨of_decide_eq_true atJti, rfl⟩
    · exact .inl (same ▸ inRows)
  constructor
  · intro s member t member' child same
    rcases cases_on s member with old | ⟨atJti, atParent⟩
    · rcases cases_on t member' with old' | ⟨-, atParent'⟩
      · exact parented.parents s old t old' child same
      · exact absurd (same.trans atParent') (parented.childless i mint rotated s old)
    · rcases cases_on t member' with old' | ⟨atJti', -⟩
      · exact absurd (same.symm.trans atParent) (parented.childless i mint rotated t old')
      · exact List.inj_on_of_nodup_map w'.db.refreshTokens.keyed member member' (atJti.trans atJti'.symm)
  · intro s member parent child
    rw [draws]
    rcases cases_on s member with old | ⟨-, atParent⟩
    · obtain ⟨drawn, unclaimed⟩ := parented.drawn s old parent child
      exact ⟨drawn, fun j other now => unclaimed j other (pending j other now)⟩
    · obtain rfl := Option.some.inj (atParent.symm.trans child)
      refine ⟨(coherent.selected i mint.row rotated.selected).1, fun j other now => ?_⟩
      exact ((coherent.pending j other (pending j other now)).unselected i mint.row rotated.selected).symm
  · intro s member parent child
    rcases cases_on s member with old | ⟨-, atParent⟩
    · exact evolves.tokenDead (parented.dead s old parent child)
    · obtain rfl := Option.some.inj (atParent.symm.trans child)
      exact evolves.tokenDead (parented.rotating i mint rotated)
  · intro j other now
    exact evolves.tokenDead (parented.rotating j other (rotating j other now).2)
  · intro j other now s member child
    obtain ⟨apart, before⟩ := rotating j other now
    rcases cases_on s member with old | ⟨-, atParent⟩
    · exact parented.childless j other before s old child
    · have same := Option.some.inj (child.symm.trans atParent)
      exact apart (parented.single j i other mint before rotated same)
  · intro j k other other' now now'
    exact parented.single j k other other' (rotating j other now).2 (rotating k other' now').2

theorem Parented.step (parented : Parented w) (coherent : Coherent w) (effect : Effect w w') : Parented w' := by
  cases effect with
  | quiet keeps draws nothing => exact parented.keep keeps draws nothing
  | opened inserted draws fresh _ orphan nothing =>
    refine parented.born inserted orphan draws.le nothing ?_ ?_
    · intro s member child
      have known := (parented.drawn s member _ child).1
      omega
    · intro i mint rotating
      have known := (coherent.selected i mint.row rotating.selected).1
      omega
  | began _ single begins revoked rotating pending => exact parented.begin single begins revoked rotating pending
  | @inserted i mint _ minting inserted draws rotating pending =>
    refine parented.born inserted rfl draws.ge ⟨rotating, fun j other now => (pending j other now).2⟩ ?_ ?_
    · intro s member child
      exact (parented.drawn s member _ child).2 i mint minting rfl
    · intro j other rotating
      exact (coherent.pending i mint minting).unselected j other.row rotating.selected
  | linked rotated link draws rotating pending => exact parented.link coherent rotated link draws rotating pending

end

/-- What holds of the tokens in every reachable state. -/
structure Lineage (w : AuthWorld) : Prop where
  coherent : Coherent w
  exclusive : Exclusive w
  parented : Parented w

theorem lineage_boot (users : Table User User.id) (orgs : Table AllowlistOrg AllowlistOrg.id) (clock : Int) :
    Lineage (boot users orgs clock) := by
  have unstarted : ∀ i mint, ¬ (boot users orgs clock).Rotating i mint := by
    rintro i mint ⟨flight, found, -⟩
    simp [boot] at found
  refine ⟨coherent_boot users orgs clock, ⟨?_, ?_, ?_⟩, ⟨?_, ?_, ?_, ?_, ?_, ?_⟩⟩
  · exact fun r member => absurd member List.not_mem_nil
  · exact fun i mint pending => absurd pending.rotating (unstarted i mint)
  · exact fun i j mint other pending => absurd pending.rotating (unstarted i mint)
  · exact fun r member => absurd member List.not_mem_nil
  · exact fun r member => absurd member List.not_mem_nil
  · exact fun r member => absurd member List.not_mem_nil
  · exact fun i mint rotating => absurd rotating (unstarted i mint)
  · exact fun i mint rotating => absurd rotating (unstarted i mint)
  · exact fun i j mint other rotating => absurd rotating (unstarted i mint)

theorem lineage_step (ctx : AuthHandlerContext) {w : AuthWorld} (lineage : Lineage w) (event : AuthEvent) :
    Lineage (w.step ctx event) where
  coherent := coherent_step ctx lineage.coherent event
  exclusive := lineage.exclusive.step lineage.coherent (step_effect ctx w event)
  parented := lineage.parented.step lineage.coherent (step_effect ctx w event)

theorem Run.lineage {ctx : AuthHandlerContext} {guard : AuthWorld → AuthEvent → Prop} {w w' : AuthWorld}
    (run : Run ctx guard w w') (initially : Lineage w) : Lineage w' :=
  run.invariant (fun _ event lineage _ => lineage_step ctx lineage event) initially

theorem Exclusive.oneLive {w : AuthWorld} (exclusive : Exclusive w) : w.db.refreshTokens.OneLive := by
  intro family
  refine Table.changes_le_one ?_
  intro r member s member' hit hit'
  simp only [unrevoked, Bool.and_eq_true, decide_eq_true_eq, Option.isNone_iff_eq_none] at hit hit'
  exact exclusive.live r member s member' family hit.1 hit'.1 hit.2 hit'.2

/-- In every reachable state a family has at most one unrevoked token, and no
token is the parent of two. -/
theorem one_live_token_per_family {ctx : AuthHandlerContext} {users : Table User User.id}
    {orgs : Table AllowlistOrg AllowlistOrg.id} {clock : Int} {w : AuthWorld}
    (run : Run ctx (fun _ _ => True) (boot users orgs clock) w) :
    w.db.refreshTokens.OneLive ∧ w.db.refreshTokens.ParentsInjective := by
  have lineage := run.lineage (lineage_boot users orgs clock)
  exact ⟨lineage.exclusive.oneLive, lineage.parented.parents⟩

/-- Ada rotates while a second request with her token waits, then that request
is served the successor, and her session lives on in one token. -/
theorem one_live_token_after_retry :
    let w := adasServer.after plainContext ([signIn, .arrive adasToken, .arrive adasToken] ++ turns 0 5 ++ turns 1 5)
    (w.db.refreshTokens.rows.map fun r => (r.jti, r.parentJti, r.revokedAt)) =
      [(1, none, some 1000), (3, some 1, none)] ∧
    w.db.refreshTokens.OneLive ∧ w.db.refreshTokens.ParentsInjective := by
  intro w
  have run : Run plainContext (fun _ _ => True) adasServer w := .of_inputs fun _ _ => trivial
  exact ⟨by decide, one_live_token_per_family run⟩

end AuthWorld

end Coordinator
