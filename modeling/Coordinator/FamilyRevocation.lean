import Coordinator.TokenLineage

namespace Coordinator
open RefreshTokens

namespace AuthWorld

/-- The row and the verdict of the reuse branch, when that is what the request runs next. -/
def reuse (w : AuthWorld) (i : Nat) : Option (RefreshRow × ReuseVerdict) :=
  match w.flights[i]? with
  | some ⟨request, .checked row _ _ recheckFailed⟩ =>
    row.revokedAt.map fun revokedAt => (row, reuseVerdict w.db row revokedAt request.fingerprint recheckFailed)
  | _ => none

/-- The family that the event revokes, through `handleLogout` or `revokeFamilyForReuse`. -/
def revokedFamily (w : AuthWorld) : AuthEvent → Option Nat
  | .logout familyId => if authenticated w.db familyId then familyId else none
  | .advance i _ => (w.reuse i).bind fun (row, verdict) => if verdict.revokesFamily then row.familyId else none
  | _ => none

/-- The family of a grace retry that the event lets through to the re-mint. -/
def retriedFamily (w : AuthWorld) : AuthEvent → Option Nat
  | .advance i _ => (w.reuse i).bind fun
    | (row, .retry _) => row.familyId
    | _ => none
  | _ => none

/-- A successor of the family is signed but not yet inserted. -/
def minting (w : AuthWorld) (family : Nat) : Bool :=
  w.flights.any fun flight => flight.stage.mint.any fun mint => mint.familyId = family

def living (w : AuthWorld) (family : Nat) : Bool :=
  w.db.refreshTokens.rows.any fun r => r.familyId = some family && r.revokedAt.isNone

/-- A family is revoked only while none of its rotations is between the
compare-and-set and the INSERT. -/
def revokesInOrder (w : AuthWorld) (event : AuthEvent) : Bool :=
  (w.revokedFamily event).all fun family => !w.minting family

/-- A grace retry is re-minted only while the family has an unrevoked row or a
rotation under way. -/
def retriesInOrder (w : AuthWorld) (event : AuthEvent) : Bool :=
  (w.retriedFamily event).all fun family => w.living family || w.minting family

def orderly (w : AuthWorld) (event : AuthEvent) : Bool := w.revokesInOrder event && w.retriesInOrder event

/-- No row of the family is unrevoked, and no request from the `n`-th on with a
token of the family is answered 200. -/
def StaysRevoked (w : AuthWorld) (family n : Nat) : Prop :=
  w.db.refreshTokens.FamilyDead family ∧
    ∀ i request row reply, n ≤ i → w.flights[i]? = some ⟨request, .answered (some row) reply⟩ →
      row.familyId = some family → reply.served = false

/-- Once a family is revoked it stays so: for the requests that arrive later too. -/
def RevocationFinal (guard : AuthWorld → AuthEvent → Prop) : Prop :=
  ∀ ctx users orgs clock w, Run ctx guard (boot users orgs clock) w →
    ∀ event family, guard w event → w.revokedFamily event = some family →
      ∀ w', Run ctx guard (w.step ctx event) w' → w'.StaysRevoked family w.flights.length

theorem minting_iff {w : AuthWorld} {family : Nat} :
    w.minting family ↔ ∃ i mint, w.Pending i mint ∧ mint.familyId = family := by
  simp only [minting, List.any_eq_true, Option.any_eq_true, decide_eq_true_eq, Pending]
  constructor
  · intro minted
    obtain ⟨flight, member, mint, pending, same⟩ := minted
    obtain ⟨i, found⟩ := List.getElem?_of_mem member
    exact ⟨i, mint, ⟨flight, found, pending⟩, same⟩
  · intro minted
    obtain ⟨i, mint, ⟨flight, found, pending⟩, same⟩ := minted
    exact ⟨flight, List.mem_of_getElem? found, mint, pending, same⟩

theorem living_eq_false {w : AuthWorld} {family : Nat} (dead : w.db.refreshTokens.FamilyDead family) :
    w.living family = false := by
  rw [Bool.eq_false_iff, living]
  intro alive
  obtain ⟨r, member, live⟩ := List.any_eq_true.mp alive
  simp only [Bool.and_eq_true, decide_eq_true_eq, Option.isNone_iff_eq_none] at live
  exact dead r member live.1 live.2

/-- A revoked family: nothing of it lives, nothing of it is on the way, and no
request from the `n`-th on that selected a row of it is on its way to a 200. -/
structure Closed (w : AuthWorld) (family n : Nat) : Prop where
  coherent : Coherent w
  drawn : family < w.db.draws
  dead : w.db.refreshTokens.FamilyDead family
  idle : w.minting family = false
  unserved : ∀ i flight row, n ≤ i → w.flights[i]? = some flight → flight.stage.row = some row →
    row.familyId = some family → flight.stage.unserved

end AuthWorld

theorem Screened.unserved {row : RefreshRow} {db : AuthDb} {result : AuthDb × Stage} (screened : Screened row db result) :
    result.2.unserved := by
  cases screened with
  | refused refused _ => simp [Stage.unserved, refused]
  | waits waits _ =>
    cases waits with
    | asks asks => cases asks <;> rfl
    | checked => rfl

/-- A turn that sets a request on the way to a 200 is a grace retry or a rotation. -/
theorem Turn.serves {db : AuthDb} {request : RefreshRequest} {stage : Stage} {result : AuthDb × Stage}
    (turn : Turn db request stage result) (serves : result.2.unserved = false) :
    (stage.unserved = false ∧ stage.row = result.2.row) ∨
    ∃ row now user recheckFailed, stage = .checked row now user recheckFailed ∧ result.2.row = some row ∧
      ((∃ revokedAt successor, row.revokedAt = some revokedAt ∧
        reuseVerdict db row revokedAt request.fingerprint recheckFailed = .retry successor) ∨
      db.refreshTokens.changes (unrevoked fun r => r.jti = row.jti) = 1) := by
  cases turn with
  | rejected refused => simp [Stage.unserved, refused] at serves
  | selected _ screened => exact absurd serves (by simp [screened.unserved])
  | screened _ screened => exact absurd serves (by simp [screened.unserved])
  | reused _ refused => simp [Stage.unserved, refused] at serves
  | retried revoked verdict => exact .inr ⟨_, _, _, _, rfl, rfl, .inl ⟨_, _, revoked, verdict⟩⟩
  | raced _ refused => simp [Stage.unserved, refused] at serves
  | rotated _ single => exact .inr ⟨_, _, _, _, rfl, rfl, .inr single⟩
  | signed => exact .inl ⟨rfl, rfl⟩
  | inserted _ => exact .inl ⟨rfl, rfl⟩
  | clashed _ => simp [Stage.unserved, Reply.served] at serves
  | linked _ => exact .inl ⟨rfl, rfl⟩
  | unlinked _ => simp [Stage.unserved, Reply.served] at serves
  | reminted => exact .inl ⟨rfl, rfl⟩
  | settled => exact .inl ⟨serves, rfl⟩

namespace AuthWorld

namespace Closed
variable {ctx : AuthHandlerContext} {w : AuthWorld} {family n : Nat}

theorem evolve (closed : Closed w family n) {db : AuthDb} (coherent : Coherent { w with db := db })
    (draws : w.db.draws ≤ db.draws) (evolves : Evolves w.db.refreshTokens db.refreshTokens) :
    Closed { w with db := db } family n where
  coherent := coherent
  drawn := closed.drawn.trans_le draws
  dead := evolves.familyDead closed.dead
  idle := closed.idle
  unserved := closed.unserved

/-- The compare-and-set finds no row of a closed family. -/
theorem not_rotated (closed : Closed w family n) {i : Nat} {row : RefreshRow} (selected : w.Selected i row)
    (inFamily : row.familyId = some family) :
    w.db.refreshTokens.changes (unrevoked fun r => r.jti = row.jti) ≠ 1 := by
  have none := changes_of_familyDead closed.dead fun r member same =>
    ((closed.coherent.selected i row selected).2.2 r member same).trans inFamily
  omega

theorem not_pending (closed : Closed w family n) {i : Nat} {mint : Mint} (pending : w.Pending i mint) :
    mint.familyId ≠ family := by
  intro same
  have busy := minting_iff.mpr ⟨i, mint, pending, same⟩
  rw [closed.idle] at busy
  cases busy

theorem not_retried (closed : Closed w family n) {event : AuthEvent} (orderly : w.orderly event) :
    w.retriedFamily event ≠ some family := by
  intro retried
  rw [AuthWorld.orderly, Bool.and_eq_true, retriesInOrder, retried] at orderly
  simp [living_eq_false closed.dead, closed.idle] at orderly

theorem arrive (closed : Closed w family n) (request : RefreshRequest) : Closed (w.step ctx (.arrive request)) family n where
  coherent := coherent_step ctx closed.coherent _
  drawn := closed.drawn
  dead := closed.dead
  idle := by
    rw [Bool.eq_false_iff, Ne, minting_iff]
    intro minted
    obtain ⟨i, mint, ⟨flight, found, pending⟩, same⟩ := minted
    exact closed.not_pending ⟨flight, held_arrive found pending rfl, pending⟩ same
  unserved := by
    intro i flight row late found selected inFamily
    exact closed.unserved i flight row late (held_arrive found selected rfl) selected inFamily

theorem login (closed : Closed w family n) (userId orgId : String) (fingerprint : Option String) :
    Closed (w.step ctx (.login userId orgId fingerprint)) family n := by
  have coherent := coherent_step ctx closed.coherent (.login userId orgId fingerprint)
  simp only [step, openSession] at coherent ⊢
  split at coherent
  · exact closed
  · rename_i tokens inserted
    refine ⟨coherent, Nat.lt_of_lt_of_le closed.drawn (Nat.le_add_right _ 3), ?_, closed.idle, closed.unserved⟩
    intro r member inFamily
    rcases (Table.mem_insert inserted).mp member with old | rfl
    · exact closed.dead r old inFamily
    · obtain rfl : w.db.draws = family := Option.some.inj inFamily
      exact absurd closed.drawn (Nat.lt_irrefl _)

theorem dead_turn (closed : Closed w family n) {i : Nat} {flight : Flight} {result : AuthDb × Stage}
    (found : w.flights[i]? = some flight) (tracked : Tracked w.db flight.stage result) :
    result.1.refreshTokens.FamilyDead family := by
  rcases tracked.tokens with evolves | ⟨mint, fingerprint, pending, -, -, -, -, inserted⟩
  · exact evolves.familyDead closed.dead
  · intro r member inFamily
    rcases (Table.mem_insert inserted).mp member with old | rfl
    · exact closed.dead r old inFamily
    · exact absurd (Option.some.inj inFamily) (closed.not_pending ⟨flight, found, pending⟩)

theorem idle_turn (closed : Closed w family n) {i : Nat} {flight : Flight} {result : AuthDb × Stage}
    (found : w.flights[i]? = some flight) (tracked : Tracked w.db flight.stage result) {j : Nat} {mint : Mint}
    (pending : (w.setStage i flight.request result.2).Pending j mint) : mint.familyId ≠ family := by
  rcases pending_setStage pending with ⟨-, moved⟩ | ⟨-, kept⟩
  · rcases tracked.mint mint moved with before | ⟨row, selected, begins, single⟩
    · exact closed.not_pending ⟨flight, found, before⟩
    · intro same
      rcases begins.familyId with inherited | ⟨-, fresh, -⟩
      · exact closed.not_rotated ⟨flight, found, selected⟩ (same ▸ inherited) single
      · have drawn := closed.drawn
        omega
  · exact closed.not_pending kept

theorem reuse_eq {i : Nat} {request : RefreshRequest} {row : RefreshRow} {now revokedAt : Int} {user : Option User}
    {recheckFailed : Bool} (found : w.flights[i]? = some ⟨request, .checked row now user recheckFailed⟩)
    (revoked : row.revokedAt = some revokedAt) :
    w.reuse i = some (row, reuseVerdict w.db row revokedAt request.fingerprint recheckFailed) := by
  simp [reuse, found, revoked]

theorem unserved_turn (closed : Closed w family n) {i : Nat} {flight : Flight} {answers : IdpAnswers}
    {result : AuthDb × Stage} {row : RefreshRow} (orderly : w.orderly (.advance i answers)) (late : n ≤ i)
    (found : w.flights[i]? = some flight) (turn : Turn w.db flight.request flight.stage result)
    (selected : result.2.row = some row) (inFamily : row.familyId = some family) : result.2.unserved := by
  by_contra served
  rcases turn.serves (Bool.eq_false_iff.mpr served) with ⟨before, same⟩ | ⟨old, now, user, failed, stage, same, how⟩
  · have still := closed.unserved i flight row late found (same.trans selected) inFamily
    rw [before] at still
    cases still
  · obtain rfl : old = row := Option.some.inj (same.symm.trans selected)
    obtain ⟨request, _⟩ := flight
    subst stage
    rcases how with ⟨revokedAt, successor, revoked, verdict⟩ | single
    · refine closed.not_retried orderly ?_
      simp only [retriedFamily, reuse_eq found revoked, verdict, Option.bind_some]
      exact inFamily
    · exact closed.not_rotated ⟨_, found, rfl⟩ inFamily single

theorem advance (closed : Closed w family n) {i : Nat} {answers : IdpAnswers}
    (orderly : w.orderly (.advance i answers)) : Closed (w.step ctx (.advance i answers)) family n := by
  have coherent := coherent_step ctx closed.coherent (.advance i answers)
  cases found : w.flights[i]? with
  | none =>
    simp only [step, found]
    exact closed
  | some flight =>
    have turn := advance_turn ctx w.db flight.request answers flight.stage
    have tracked := turn.tracked
    rw [step_advance ctx answers found] at coherent ⊢
    generalize Coordinator.advance ctx w.db flight.request answers flight.stage = result at *
    refine ⟨coherent, closed.drawn.trans_le tracked.draws, ?_, ?_, ?_⟩
    · exact closed.dead_turn found tracked
    · rw [Bool.eq_false_iff, Ne, minting_iff]
      intro minted
      obtain ⟨j, mint, pending, same⟩ := minted
      exact closed.idle_turn found tracked pending same
    · intro j other row late foundOther selected inFamily
      rcases getElem?_setStage foundOther with ⟨rfl, moved⟩ | ⟨-, kept⟩
      · rw [moved] at selected ⊢
        exact closed.unserved_turn orderly late found turn selected inFamily
      · exact closed.unserved j other row late kept selected inFamily

theorem step (closed : Closed w family n) {event : AuthEvent} (orderly : w.orderly event) :
    Closed (w.step ctx event) family n := by
  have coherent := coherent_step ctx closed.coherent event
  cases event with
  | tick seconds => exact closed.evolve coherent le_rfl (.refl _)
  | arrive request => exact closed.arrive request
  | advance i answers => exact closed.advance orderly
  | login userId orgId fingerprint => exact closed.login userId orgId fingerprint
  | logout familyId =>
    obtain ⟨draws, keeps⟩ := handleLogout_keeps w.db familyId
    exact closed.evolve coherent draws.ge keeps.evolves
  | logoutAll userId => exact closed.evolve coherent le_rfl (.revokeWhere _ _ _ _)
  | revoke call =>
    obtain ⟨draws, keeps⟩ := handleRevoke_keeps w.db call
    exact closed.evolve coherent draws.ge keeps.evolves
  | bumpTokenEpoch userId => exact closed.evolve coherent le_rfl (.refl _)
  | noteEpochBump userId epoch => exact closed.evolve coherent le_rfl (.refl _)
  | writeUser user => exact closed.evolve coherent le_rfl (.refl _)
  | sweep env victims => exact closed.evolve coherent le_rfl (Keeps.delete _ _).evolves

end Closed

theorem familyDead_reuseWrites {db : AuthDb} {row : RefreshRow} {verdict : ReuseVerdict} {family : Nat}
    (revokes : verdict.revokesFamily) (inFamily : row.familyId = some family) :
    (reuseWrites db row verdict).refreshTokens.FamilyDead family := by
  simp only [reuseWrites, revokes, if_true, inFamily, revokeFamilyForReuse]
  exact familyDead_revokeFamily _ _ _ _

theorem reuse_cases {w : AuthWorld} {i : Nat} {row : RefreshRow} {verdict : ReuseVerdict}
    (reuse : w.reuse i = some (row, verdict)) : ∃ request now user recheckFailed revokedAt,
      w.flights[i]? = some ⟨request, .checked row now user recheckFailed⟩ ∧ row.revokedAt = some revokedAt ∧
      reuseVerdict w.db row revokedAt request.fingerprint recheckFailed = verdict := by
  unfold AuthWorld.reuse at reuse
  split at reuse
  · rename_i request old now user recheckFailed found
    obtain ⟨revokedAt, revoked, same⟩ := Option.map_eq_some_iff.mp reuse
    obtain ⟨rfl, rfl⟩ := Prod.mk.inj same
    exact ⟨request, now, user, recheckFailed, revokedAt, found, revoked, rfl⟩
  · cases reuse

/-- A verdict that revokes the family ends the request. -/
theorem revokes_turn {db : AuthDb} {request : RefreshRequest} {row : RefreshRow} {now revokedAt : Int}
    {user : Option User} {recheckFailed : Bool} {result : AuthDb × Stage}
    (turn : Turn db request (.checked row now user recheckFailed) result) (revoked : row.revokedAt = some revokedAt)
    (revokes : (reuseVerdict db row revokedAt request.fingerprint recheckFailed).revokesFamily) :
    result.1 = reuseWrites db row (reuseVerdict db row revokedAt request.fingerprint recheckFailed) ∧
      result.2.mint = none := by
  cases turn with
  | screened asks _ => cases asks
  | reused revoked' _ =>
    obtain rfl := Option.some.inj (revoked.symm.trans revoked')
    exact ⟨rfl, rfl⟩
  | retried revoked' verdict =>
    obtain rfl := Option.some.inj (revoked.symm.trans revoked')
    rw [verdict] at revokes
    cases revokes
  | raced live _ => cases revoked.symm.trans live
  | rotated live _ => cases revoked.symm.trans live

/-- A logout closes its family while no rotation of the family is under way. -/
theorem closed_of_logout {ctx : AuthHandlerContext} {w : AuthWorld} {family : Nat} (coherent : Coherent w)
    (genuine : authenticated w.db (some family)) (idle : w.minting family = false) :
    Closed (w.step ctx (.logout (some family))) family w.flights.length := by
  have next := coherent_step ctx coherent (.logout (some family))
  have drawn : family < w.db.draws := by simpa [authenticated] using genuine
  have dead := familyDead_revokeFamily w.db.refreshTokens family w.db.clock .logout
  simp only [AuthWorld.step, handleLogout, genuine, if_true] at next ⊢
  refine ⟨next, drawn, dead, idle, ?_⟩
  intro i flight row late found
  rw [List.getElem?_eq_none late] at found
  cases found

/-- So does a reuse branch that revokes it. -/
theorem closed_of_reuse {ctx : AuthHandlerContext} {w : AuthWorld} {i : Nat} {answers : IdpAnswers}
    {row : RefreshRow} {verdict : ReuseVerdict} {family : Nat} (coherent : Coherent w)
    (reuse : w.reuse i = some (row, verdict)) (revokes : verdict.revokesFamily)
    (inFamily : row.familyId = some family) (idle : w.minting family = false) :
    Closed (w.step ctx (.advance i answers)) family w.flights.length := by
  have next := coherent_step ctx coherent (.advance i answers)
  obtain ⟨request, now, user, recheckFailed, revokedAt, found, atRevoked, rfl⟩ := reuse_cases reuse
  have turn := advance_turn ctx w.db request answers (.checked row now user recheckFailed)
  have tracked := turn.tracked
  obtain ⟨writes, done⟩ := revokes_turn turn atRevoked revokes
  have drawn := (coherent.selected i row ⟨_, found, rfl⟩).2.1 family inFamily
  rw [step_advance ctx answers found] at next ⊢
  generalize Coordinator.advance ctx w.db request answers (.checked row now user recheckFailed) = result at *
  refine ⟨next, drawn.trans_le tracked.draws, ?_, ?_, ?_⟩
  · rw [writes]
    exact familyDead_reuseWrites revokes inFamily
  · -- the request that revokes mints nothing, and the others stand where they stood
    rw [Bool.eq_false_iff, Ne, minting_iff]
    intro minted
    obtain ⟨j, mint, pending, same⟩ := minted
    have before : w.minting family := by
      have moved : (w.setStage i request result.2).Pending j mint := pending
      rcases pending_setStage moved with ⟨-, moved⟩ | ⟨-, kept⟩
      · cases done.symm.trans moved
      · exact minting_iff.mpr ⟨j, mint, kept, same⟩
    rw [idle] at before
    cases before
  · intro j flight old late foundOther
    rw [List.getElem?_eq_none (by rwa [List.length_set])] at foundOther
    cases foundOther

/-- An orderly revocation closes the family. -/
theorem closed_of_revokedFamily {ctx : AuthHandlerContext} {w : AuthWorld} {event : AuthEvent} {family : Nat}
    (coherent : Coherent w) (orderly : w.orderly event) (revoked : w.revokedFamily event = some family) :
    Closed (w.step ctx event) family w.flights.length := by
  have idle : w.minting family = false := by
    rw [AuthWorld.orderly, Bool.and_eq_true, revokesInOrder, revoked] at orderly
    simpa using orderly.1
  cases event with
  | logout familyId =>
    rw [revokedFamily] at revoked
    split at revoked
    · rename_i genuine
      subst revoked
      exact closed_of_logout coherent genuine idle
    · cases revoked
  | advance i answers =>
    obtain ⟨⟨row, verdict⟩, reuse, ifRevokes⟩ := Option.bind_eq_some_iff.mp revoked
    have revokes : verdict.revokesFamily := by
      by_contra keeps
      simp [keeps] at ifRevokes
    have inFamily : row.familyId = some family := by simpa [revokes] using ifRevokes
    exact closed_of_reuse coherent reuse revokes inFamily idle
  | tick | arrive | login | logoutAll | revoke | bumpTokenEpoch | noteEpochBump | writeUser | sweep => cases revoked

/-- In runs that revoke and retry in order, the revocation of a family is final. -/
theorem revocation_final {ctx : AuthHandlerContext} {users : Table User User.id}
    {orgs : Table AllowlistOrg AllowlistOrg.id} {clock : Int} {w w' : AuthWorld} {event : AuthEvent} {family : Nat}
    (before : Run ctx (fun w event => w.orderly event) (boot users orgs clock) w) (orderly : w.orderly event)
    (revoked : w.revokedFamily event = some family)
    (after : Run ctx (fun w event => w.orderly event) (w.step ctx event) w') :
    w'.StaysRevoked family w.flights.length := by
  have coherent := before.coherent (coherent_boot users orgs clock)
  have closed := after.invariant (P := fun v => Closed v family w.flights.length)
    (fun _ _ closed ok => closed.step ok) (closed_of_revokedFamily coherent orderly revoked)
  refine ⟨closed.dead, ?_⟩
  intro i request row reply late found inFamily
  have unserved := closed.unserved i _ row late found rfl inFamily
  simpa [Stage.unserved] using unserved

/-- No idle timeout, and no provider to ask. -/
def plainContext : AuthHandlerContext where
  decrypt _ cell := .ok cell
  encrypt _ value := value
  providers _ := none
  sessionIdleTimeout _ := ""

def silentIdp : IdpAnswers := ⟨.error .other, .error .other, .error .other⟩

/-- Ada's server: she signs in at 1000, and her session is family 0 with token 1. -/
def adasServer : AuthWorld :=
  boot ⟨[⟨"ada", "acme", some "member", "github", none, none, 0⟩], by decide⟩ .empty 1000

def adasToken : RefreshRequest := ⟨some ⟨"ada", 1, 1000, some .refresh, false⟩, some "laptop"⟩

def signIn : AuthEvent := .login "ada" "acme" (some "laptop")

def turns (i count : Nat) : List AuthEvent := List.replicate count (.advance i silentIdp)

def after (ctx : AuthHandlerContext) (w : AuthWorld) (events : List AuthEvent) : AuthWorld := events.foldl (step ctx) w

/-- A replay one minute after an orderly logout is refused, and the family stays dead. -/
theorem revocation_final_replay :
    let w := adasServer.after plainContext ([signIn, .arrive adasToken] ++ turns 0 6)
    let w' := (w.step plainContext (.logout (some 0))).after plainContext ([.tick 60, .arrive adasToken] ++ turns 1 2)
    w'.StaysRevoked 0 1 := by
  intro w w'
  have before : Run plainContext (fun w event => w.orderly event) adasServer w := .of_meets (by decide)
  have later : Run plainContext (fun w event => w.orderly event) (w.step plainContext (.logout (some 0))) w' :=
    .of_meets (by decide)
  exact revocation_final before (by decide) (by decide) later

/-- Ada logs out while her rotation is between the compare-and-set and the
INSERT: the successor is inserted alive into the revoked family. -/
theorem not_revocationFinal : ¬ RevocationFinal fun _ _ => True := by
  intro final
  let w := adasServer.after plainContext ([signIn, .arrive adasToken] ++ turns 0 2)
  let w' := (w.step plainContext (.logout (some 0))).after plainContext (turns 0 2)
  have before : Run plainContext (fun _ _ => True) adasServer w := .of_inputs fun _ _ => trivial
  have later : Run plainContext (fun _ _ => True) (w.step plainContext (.logout (some 0))) w' :=
    .of_inputs fun _ _ => trivial
  obtain ⟨dead, -⟩ := final plainContext _ _ _ w before (.logout (some 0)) 0 trivial (by decide) w' later
  have alive : w'.living 0 = true := by decide
  rw [living_eq_false dead] at alive
  cases alive

/-- The order of the retries is needed too: within the grace window after a
logout the re-mint from the revoked successor is answered 200. -/
theorem not_revocationFinal_of_revokesInOrder : ¬ RevocationFinal fun w event => w.revokesInOrder event := by
  intro final
  let w := adasServer.after plainContext ([signIn, .arrive adasToken] ++ turns 0 6)
  let w' := (w.step plainContext (.logout (some 0))).after plainContext ([.arrive adasToken] ++ turns 1 3)
  have before : Run plainContext (fun w event => w.revokesInOrder event) adasServer w := .of_meets (by decide)
  have later : Run plainContext (fun w event => w.revokesInOrder event) (w.step plainContext (.logout (some 0))) w' :=
    .of_meets (by decide)
  obtain ⟨-, unserved⟩ := final plainContext _ _ _ w before (.logout (some 0)) 0 (by decide) (by decide) w' later
  have served : ∃ row reply, w'.flights[1]? = some ⟨adasToken, .answered (some row) reply⟩ ∧
      row.familyId = some 0 ∧ reply.served = true := ⟨_, _, by rfl, by decide, by decide⟩
  obtain ⟨row, reply, found, inFamily, ok⟩ := served
  rw [unserved 1 adasToken row reply (by decide) found inFamily] at ok
  cases ok

end AuthWorld

end Coordinator
