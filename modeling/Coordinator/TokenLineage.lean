import Coordinator.AuthWorld

namespace Coordinator
open RefreshTokens

theorem Lapse.keeps {row : RefreshRow} {db db' : AuthDb} (lapse : Lapse row db db') :
    Keeps db.refreshTokens db'.refreshTokens := by
  rcases lapse.tokens with same | ⟨now, reason, -, revoked⟩
  · rw [same]
    exact .refl _
  · rw [revoked]
    exact .revokeWhere _ _ _ _

theorem revokeFamilyForReuse_keeps (db : AuthDb) (family : Option Nat) :
    Keeps db.refreshTokens (revokeFamilyForReuse db family).refreshTokens := by
  cases family with
  | none => exact .refl _
  | some family => exact .revokeWhere _ _ _ _

theorem revokeFamilyForReuse_draws (db : AuthDb) (family : Option Nat) :
    (revokeFamilyForReuse db family).draws = db.draws := by
  cases family <;> rfl

theorem reuseWrites_keeps (db : AuthDb) (row : RefreshRow) (verdict : ReuseVerdict) :
    (reuseWrites db row verdict).draws = db.draws ∧
      Keeps db.refreshTokens (reuseWrites db row verdict).refreshTokens := by
  have counted : ∀ counted : AuthDb, counted.draws = db.draws ∧ Keeps db.refreshTokens counted.refreshTokens →
      (if verdict.revokesFamily then revokeFamilyForReuse counted row.familyId else counted).draws = db.draws ∧
      Keeps db.refreshTokens
        (if verdict.revokesFamily then revokeFamilyForReuse counted row.familyId else counted).refreshTokens := by
    rintro counted ⟨draws, keeps⟩
    split
    · exact ⟨(revokeFamilyForReuse_draws _ _).trans draws, keeps.trans (revokeFamilyForReuse_keeps _ _)⟩
    · exact ⟨draws, keeps⟩
  unfold reuseWrites
  apply counted
  split
  · exact ⟨rfl, .countReplay _ _⟩
  · exact ⟨rfl, .refl _⟩

theorem Stage.Asks.row_eq {row : RefreshRow} {stage : Stage} (asks : stage.Asks row) : stage.row = some row := by
  cases asks with
  | gettingMemberships same => exact congrArg some same
  | refreshingIdpToken same => exact congrArg some same
  | listingMemberships same => exact congrArg some same

theorem Stage.Waits.row_eq {row : RefreshRow} {stage : Stage} (waits : stage.Waits row) : stage.row = some row := by
  cases waits with
  | asks asks => exact asks.row_eq
  | checked => rfl

theorem Stage.Waits.mint_eq {row : RefreshRow} {stage : Stage} (waits : stage.Waits row) : stage.mint = none := by
  cases waits with
  | asks asks => cases asks <;> rfl
  | checked => rfl

/-- What a mint begins with: fresh identifiers, and the family of the row if it has one. -/
structure Begins (db db' : AuthDb) (row : RefreshRow) (mint : Mint) : Prop where
  row_eq : mint.row = row
  refreshJti : db.draws ≤ mint.refreshJti ∧ mint.refreshJti < db'.draws
  familyId : row.familyId = some mint.familyId ∨ (row.familyId = none ∧ db.draws ≤ mint.familyId ∧ mint.familyId < db'.draws)

/-- How a turn moves the selected row, the pending mint and the table of tokens. -/
structure Tracked (db : AuthDb) (stage : Stage) (result : AuthDb × Stage) : Prop where
  draws : db.draws ≤ result.1.draws
  row : ∀ row, result.2.row = some row → stage.row = some row ∨ row ∈ db.refreshTokens.rows
  mint : ∀ mint, result.2.mint = some mint →
    stage.mint = some mint ∨ ∃ row, stage.row = some row ∧ Begins db result.1 row mint ∧
      db.refreshTokens.changes (unrevoked fun r => r.jti = row.jti) = 1
  tokens : Evolves db.refreshTokens result.1.refreshTokens ∨ ∃ mint fingerprint, stage.mint = some mint ∧
    stage.row = some mint.row ∧ result.2.mint = none ∧ result.2.row = some mint.row ∧ result.1.draws = db.draws ∧
    db.refreshTokens.insert (mint.successor fingerprint) = some result.1.refreshTokens

/-- A turn that keeps the row, mints nothing and inserts nothing. -/
theorem Tracked.quiet {db db' : AuthDb} {stage stage' : Stage} (draws : db.draws ≤ db'.draws)
    (row : ∀ row, stage'.row = some row → stage.row = some row ∨ row ∈ db.refreshTokens.rows)
    (idle : stage'.mint = none) (evolves : Evolves db.refreshTokens db'.refreshTokens) :
    Tracked db stage (db', stage') where
  draws := draws
  row := row
  mint _ pending := nomatch idle.symm.trans pending
  tokens := .inl evolves

theorem Screened.tracked {row : RefreshRow} {db : AuthDb} {stage : Stage} {result : AuthDb × Stage}
    (screened : Screened row db result) (known : stage.row = some row ∨ row ∈ db.refreshTokens.rows) :
    Tracked db stage result := by
  have same : ∀ other, some row = some other → stage.row = some other ∨ other ∈ db.refreshTokens.rows := by
    intro other hit
    obtain rfl := Option.some.inj hit
    exact known
  cases screened with
  | refused _ lapse => exact .quiet lapse.draws.ge same rfl lapse.keeps.evolves
  | waits waits lapse => exact .quiet lapse.draws.ge (waits.row_eq ▸ same) waits.mint_eq lapse.keeps.evolves

theorem beginMint_begins (db : AuthDb) (row : RefreshRow) (role : Role) :
    ∃ mint, (beginMint db row role).2 = .signingAccess mint ∧ Begins db (beginMint db row role).1 row mint := by
  refine ⟨_, rfl, rfl, ?_, ?_⟩
  · simp only [beginMint]
    split <;> omega
  · simp only [beginMint]
    cases family : row.familyId with
    | none => exact .inr ⟨rfl, le_rfl, by simp; omega⟩
    | some family => exact .inl rfl

theorem Turn.tracked {db : AuthDb} {request : RefreshRequest} {stage : Stage} {result : AuthDb × Stage}
    (turn : Turn db request stage result) : Tracked db stage result := by
  cases turn with
  | rejected _ => exact .quiet le_rfl (fun _ none => nomatch none) rfl (.refl _)
  | selected selects screened => exact screened.tracked (.inr (Table.find_eq_some.mp selects.2).1)
  | screened waits screened => exact screened.tracked (.inl waits.row_eq)
  | reused revoked _ =>
    obtain ⟨draws, keeps⟩ := reuseWrites_keeps db _ _
    exact .quiet draws.ge (fun _ => .inl) rfl keeps.evolves
  | retried _ _ => exact .quiet (Nat.le_succ _) (fun _ => .inl) rfl (.refl _)
  | raced _ _ => exact .quiet le_rfl (fun _ => .inl) rfl (.refl _)
  | @rotated row now user _ _ single =>
    obtain ⟨mint, stage, begins⟩ :=
      beginMint_begins (db.setTokens (db.refreshTokens.revokeToken row.jti now .rotated)) row (mintedRole user)
    have bounds : db.draws ≤ mint.refreshJti ∧ _ := begins.refreshJti
    refine ⟨by omega, ?_, ?_, .inl (.revokeWhere _ _ _ _)⟩
    · rw [stage]
      intro other same
      obtain rfl := Option.some.inj same
      exact .inl (congrArg some begins.row_eq.symm)
    · rw [stage]
      intro other same
      obtain rfl := Option.some.inj same
      exact .inr ⟨row, rfl, ⟨begins.row_eq, begins.refreshJti, begins.familyId⟩, single⟩
  | signed =>
    exact { draws := le_rfl, row := fun _ => .inl, mint := fun _ => .inl, tokens := .inl (.refl _) }
  | inserted fresh =>
    exact { draws := le_rfl, row := fun _ => .inl, mint := fun _ none => nomatch none
            tokens := .inr ⟨_, _, rfl, rfl, rfl, rfl, rfl, fresh⟩ }
  | clashed _ => exact .quiet le_rfl (fun _ => .inl) rfl (.refl _)
  | linked link => exact .quiet le_rfl (fun _ => .inl) rfl (.link link)
  | unlinked _ => exact .quiet le_rfl (fun _ => .inl) rfl (.refl _)
  | reminted => exact .quiet le_rfl (fun _ => .inl) rfl (.refl _)
  | settled => exact .quiet le_rfl (fun _ => .inl) rfl (.refl _)

namespace AuthWorld

/-- The `i`-th request has selected the row. -/
def Selected (w : AuthWorld) (i : Nat) (row : RefreshRow) : Prop :=
  ∃ flight, w.flights[i]? = some flight ∧ flight.stage.row = some row

/-- The `i`-th request is about to insert the successor. -/
def Pending (w : AuthWorld) (i : Nat) (mint : Mint) : Prop :=
  ∃ flight, w.flights[i]? = some flight ∧ flight.stage.mint = some mint

/-- A mint whose identifier nobody else holds. -/
structure Unclaimed (w : AuthWorld) (i : Nat) (mint : Mint) : Prop where
  refreshJti : mint.refreshJti < w.db.draws
  familyId : mint.familyId < w.db.draws
  unused : ∀ r ∈ w.db.refreshTokens.rows, r.jti ≠ mint.refreshJti
  unselected : ∀ j row, w.Selected j row → row.jti ≠ mint.refreshJti
  unpending : ∀ j other, w.Pending j other → other.refreshJti = mint.refreshJti → j = i

/-- Identifiers are drawn once, and a token keeps its family. -/
structure Coherent (w : AuthWorld) : Prop where
  rows : ∀ r ∈ w.db.refreshTokens.rows, r.jti < w.db.draws ∧ ∀ family, r.familyId = some family → family < w.db.draws
  selected : ∀ i row, w.Selected i row → row.jti < w.db.draws ∧
    (∀ family, row.familyId = some family → family < w.db.draws) ∧
    ∀ r ∈ w.db.refreshTokens.rows, r.jti = row.jti → r.familyId = row.familyId
  pending : ∀ i mint, w.Pending i mint → w.Unclaimed i mint

theorem coherent_boot (users : Table User User.id) (orgs : Table AllowlistOrg AllowlistOrg.id) (clock : Int) :
    Coherent (boot users orgs clock) where
  rows r member := nomatch member
  selected _ _ selected := by
    obtain ⟨flight, found, -⟩ := selected
    simp [boot] at found
  pending _ _ pending := by
    obtain ⟨flight, found, -⟩ := pending
    simp [boot] at found

namespace Coherent
variable {w : AuthWorld} {db : AuthDb}

theorem evolve (coherent : Coherent w) (draws : w.db.draws ≤ db.draws)
    (evolves : Evolves w.db.refreshTokens db.refreshTokens) : Coherent { w with db := db } where
  rows r member := by
    obtain ⟨old, oldMember, sameJti, sameFamily, -⟩ := evolves r member
    obtain ⟨jti, family⟩ := coherent.rows old oldMember
    rw [sameJti] at jti
    rw [sameFamily] at family
    exact ⟨jti.trans_le draws, fun f inFamily => (family f inFamily).trans_le draws⟩
  selected i row selected := by
    obtain ⟨jti, family, sameFamily⟩ := coherent.selected i row selected
    refine ⟨jti.trans_le draws, fun f inFamily => (family f inFamily).trans_le draws, ?_⟩
    intro r member same
    obtain ⟨old, oldMember, oldJti, oldFamily, -⟩ := evolves r member
    rw [← oldFamily]
    exact sameFamily old oldMember (oldJti.trans same)
  pending i mint pending := by
    obtain ⟨jti, family, unused, unselected, unique⟩ := coherent.pending i mint pending
    refine ⟨jti.trans_le draws, family.trans_le draws, ?_, unselected, unique⟩
    intro r member
    obtain ⟨old, oldMember, oldJti, -, -⟩ := evolves r member
    rw [← oldJti]
    exact unused old oldMember

/-- A row whose identifier nobody holds may be inserted. -/
theorem insert (coherent : Coherent w) {r : RefreshRow} (draws : w.db.draws ≤ db.draws)
    (inserted : w.db.refreshTokens.insert r = some db.refreshTokens) (jti : r.jti < db.draws)
    (family : ∀ f, r.familyId = some f → f < db.draws) (unselected : ∀ i row, w.Selected i row → row.jti ≠ r.jti)
    (unpending : ∀ i mint, w.Pending i mint → mint.refreshJti ≠ r.jti) : Coherent { w with db := db } := by
  have cases_on : ∀ s ∈ db.refreshTokens.rows, s ∈ w.db.refreshTokens.rows ∨ s = r :=
    fun _ member => (Table.mem_insert inserted).mp member
  constructor
  · intro s member
    rcases cases_on s member with old | rfl
    · obtain ⟨oldJti, oldFamily⟩ := coherent.rows s old
      exact ⟨oldJti.trans_le draws, fun f inFamily => (oldFamily f inFamily).trans_le draws⟩
    · exact ⟨jti, family⟩
  · intro i row selected
    obtain ⟨rowJti, rowFamily, sameFamily⟩ := coherent.selected i row selected
    refine ⟨rowJti.trans_le draws, fun f inFamily => (rowFamily f inFamily).trans_le draws, ?_⟩
    intro s member same
    rcases cases_on s member with old | rfl
    · exact sameFamily s old same
    · exact absurd same.symm (unselected i row selected)
  · intro i mint pending
    obtain ⟨mintJti, mintFamily, unused, others, unique⟩ := coherent.pending i mint pending
    refine ⟨mintJti.trans_le draws, mintFamily.trans_le draws, ?_, others, unique⟩
    intro s member
    rcases cases_on s member with old | rfl
    · exact unused s old
    · exact (unpending i mint pending).symm

end Coherent

/-- The request at `i` moves on; the others stay. -/
def setStage (w : AuthWorld) (i : Nat) (request : RefreshRequest) (stage : Stage) : AuthWorld :=
  { w with flights := w.flights.set i ⟨request, stage⟩ }

theorem getElem?_setStage {w : AuthWorld} {i j : Nat} {request : RefreshRequest} {stage : Stage} {flight : Flight}
    (found : (w.setStage i request stage).flights[j]? = some flight) :
    (j = i ∧ flight.stage = stage) ∨ (j ≠ i ∧ w.flights[j]? = some flight) := by
  rw [setStage, List.getElem?_set] at found
  split at found
  · rename_i same
    split at found
    · obtain rfl := Option.some.inj found
      exact .inl ⟨same.symm, rfl⟩
    · cases found
  · rename_i other
    exact .inr ⟨fun same => other same.symm, found⟩

theorem selected_setStage {w : AuthWorld} {i j : Nat} {request : RefreshRequest} {stage : Stage} {row : RefreshRow}
    (selected : (w.setStage i request stage).Selected j row) : (j = i ∧ stage.row = some row) ∨ w.Selected j row := by
  obtain ⟨flight, found, atRow⟩ := selected
  rcases getElem?_setStage found with ⟨same, moved⟩ | ⟨-, kept⟩
  · exact .inl ⟨same, moved ▸ atRow⟩
  · exact .inr ⟨flight, kept, atRow⟩

theorem pending_setStage {w : AuthWorld} {i j : Nat} {request : RefreshRequest} {stage : Stage} {mint : Mint}
    (pending : (w.setStage i request stage).Pending j mint) :
    (j = i ∧ stage.mint = some mint) ∨ (j ≠ i ∧ w.Pending j mint) := by
  obtain ⟨flight, found, atMint⟩ := pending
  rcases getElem?_setStage found with ⟨same, moved⟩ | ⟨other, kept⟩
  · exact .inl ⟨same, moved ▸ atMint⟩
  · exact .inr ⟨other, flight, kept, atMint⟩

theorem Coherent.setStage {w : AuthWorld} (coherent : Coherent w) {i : Nat} {request : RefreshRequest} {stage : Stage}
    (row : ∀ row, stage.row = some row → w.Selected i row ∨ row ∈ w.db.refreshTokens.rows)
    (mint : ∀ mint, stage.mint = some mint → w.Unclaimed i mint) : Coherent (w.setStage i request stage) := by
  have known : ∀ j old, (w.setStage i request stage).Selected j old →
      (∃ j, w.Selected j old) ∨ old ∈ w.db.refreshTokens.rows := by
    intro j old selected
    rcases selected_setStage selected with ⟨-, moved⟩ | kept
    · exact (row old moved).imp_left fun before => ⟨i, before⟩
    · exact .inl ⟨j, kept⟩
  have unclaimed : ∀ j old, (w.setStage i request stage).Pending j old → w.Unclaimed j old := by
    intro j old pending
    rcases pending_setStage pending with ⟨rfl, moved⟩ | ⟨-, kept⟩
    · exact mint old moved
    · exact coherent.pending j old kept
  refine ⟨coherent.rows, ?_, ?_⟩
  · intro j old selected
    rcases known j old selected with ⟨k, before⟩ | inRows
    · exact coherent.selected k old before
    · obtain ⟨jti, family⟩ := coherent.rows old inRows
      refine ⟨jti, family, fun r member same => ?_⟩
      rw [List.inj_on_of_nodup_map w.db.refreshTokens.keyed member inRows same]
  · intro j old pending
    have held := unclaimed j old pending
    refine ⟨held.refreshJti, held.familyId, held.unused, ?_, ?_⟩
    · intro k other selected
      rcases known k other selected with ⟨k', before⟩ | inRows
      · exact held.unselected k' other before
      · exact held.unused other inRows
    · intro k other pending' same
      rcases pending_setStage pending with ⟨rfl, moved⟩ | ⟨apart, kept⟩
      · rcases pending_setStage pending' with ⟨rfl, -⟩ | ⟨-, kept'⟩
        · rfl
        · exact held.unpending k other kept' same
      · rcases pending_setStage pending' with ⟨rfl, moved'⟩ | ⟨-, kept'⟩
        · exact ((unclaimed k other pending').unpending j old kept same.symm).symm
        · exact held.unpending k other kept' same

/-- Identifiers that a turn draws are unclaimed. -/
theorem Coherent.unclaimed_of_begins {w : AuthWorld} (coherent : Coherent w) {i : Nat} {db : AuthDb} {row : RefreshRow}
    {mint : Mint} (selected : w.Selected i row) (begins : Begins w.db db row mint) :
    Unclaimed { w with db := { w.db with draws := db.draws } } i mint := by
  obtain ⟨drawn, bound⟩ := begins.refreshJti
  have draws : w.db.draws ≤ db.draws := by omega
  refine ⟨bound, ?_, ?_, ?_, ?_⟩
  · rcases begins.familyId with inherited | ⟨-, -, fresh⟩
    · exact ((coherent.selected i row selected).2.1 mint.familyId inherited).trans_le draws
    · exact fresh
  · intro r member
    have known := (coherent.rows r member).1
    omega
  · intro j other before
    have known := (coherent.selected j other before).1
    omega
  · intro j other before same
    have known := (coherent.pending j other before).refreshJti
    omega

theorem Coherent.turn {w : AuthWorld} (coherent : Coherent w) {i : Nat} {flight : Flight} {db : AuthDb} {stage : Stage}
    (found : w.flights[i]? = some flight) (tracked : Tracked w.db flight.stage (db, stage)) :
    Coherent { db := db, flights := w.flights.set i ⟨flight.request, stage⟩ } := by
  have row : ∀ row, stage.row = some row → w.Selected i row ∨ row ∈ w.db.refreshTokens.rows :=
    fun row atRow => (tracked.row row atRow).imp_left fun before => ⟨flight, found, before⟩
  rcases tracked.tokens with evolves | ⟨mint, fingerprint, pending, atRow, done, sameRow, sameDraws, inserted⟩
  · -- first the draws, then the request, then the table: a selected row is a row of the old table
    have drawn : Coherent { w with db := { w.db with draws := db.draws } } := coherent.evolve tracked.draws (.refl _)
    have moved : Coherent (AuthWorld.setStage { w with db := { w.db with draws := db.draws } } i flight.request stage) := by
      refine drawn.setStage row fun mint atMint => ?_
      rcases tracked.mint mint atMint with before | ⟨old, selected, begins, -⟩
      · exact drawn.pending i mint ⟨flight, found, before⟩
      · exact coherent.unclaimed_of_begins ⟨flight, found, selected⟩ begins
    exact moved.evolve (le_refl db.draws) evolves
  · have held := coherent.pending i mint ⟨flight, found, pending⟩
    have moved : Coherent (w.setStage i flight.request stage) :=
      coherent.setStage row fun other atMint => nomatch done.symm.trans atMint
    refine moved.insert sameDraws.ge inserted (held.refreshJti.trans_le sameDraws.ge) ?_ ?_ ?_
    · intro family inFamily
      obtain rfl := Option.some.inj inFamily
      exact held.familyId.trans_le sameDraws.ge
    · intro j other selected
      rcases selected_setStage selected with ⟨-, moved⟩ | kept
      · obtain rfl := Option.some.inj (sameRow.symm.trans moved)
        exact held.unselected i mint.row ⟨flight, found, atRow⟩
      · exact held.unselected j other kept
    · intro j other pending' same
      rcases pending_setStage pending' with ⟨-, moved⟩ | ⟨apart, kept⟩
      · cases done.symm.trans moved
      · exact apart (held.unpending j other kept same)

/-- A request that has just arrived holds nothing, so one that holds something was there before. -/
theorem held_arrive {w : AuthWorld} {request : RefreshRequest} {i : Nat} {flight : Flight} {α : Type}
    {holds : Stage → Option α} {value : α} (found : (w.flights ++ [⟨request, .verifying⟩])[i]? = some flight)
    (held : holds flight.stage = some value) (nothing : holds .verifying = none) : w.flights[i]? = some flight := by
  rcases List.getElem?_snoc_cases found with old | ⟨-, rfl⟩
  · exact old
  · rw [nothing] at held
    cases held

theorem Coherent.arrive {w : AuthWorld} (coherent : Coherent w) (request : RefreshRequest) :
    Coherent { w with flights := w.flights ++ [⟨request, .verifying⟩] } := by
  have selected : ∀ i row, Selected { w with flights := w.flights ++ [⟨request, .verifying⟩] } i row → w.Selected i row := by
    rintro i row ⟨flight, found, atRow⟩
    exact ⟨flight, held_arrive found atRow rfl, atRow⟩
  have pending : ∀ i mint, Pending { w with flights := w.flights ++ [⟨request, .verifying⟩] } i mint → w.Pending i mint := by
    rintro i mint ⟨flight, found, atMint⟩
    exact ⟨flight, held_arrive found atMint rfl, atMint⟩
  refine ⟨coherent.rows, fun i row now => coherent.selected i row (selected i row now), fun i mint now => ?_⟩
  have held := coherent.pending i mint (pending i mint now)
  exact ⟨held.refreshJti, held.familyId, held.unused, fun j row before => held.unselected j row (selected j row before),
    fun j other before => held.unpending j other (pending j other before)⟩

theorem Coherent.openSession {w : AuthWorld} (coherent : Coherent w) (userId orgId : String)
    (fingerprint : Option String) : Coherent { w with db := openSession w.db userId orgId fingerprint } := by
  unfold Coordinator.openSession
  split
  · exact coherent
  · rename_i tokens inserted
    refine coherent.insert (Nat.le_add_right _ 3) inserted (show w.db.draws + 1 < w.db.draws + 3 by omega) ?_ ?_ ?_
    · intro family inFamily
      obtain rfl : w.db.draws = family := Option.some.inj inFamily
      show w.db.draws < w.db.draws + 3
      omega
    · intro i row selected
      have known := (coherent.selected i row selected).1
      show row.jti ≠ w.db.draws + 1
      omega
    · intro i mint pending
      have known := (coherent.pending i mint pending).refreshJti
      show mint.refreshJti ≠ w.db.draws + 1
      omega

theorem handleLogout_keeps (db : AuthDb) (familyId : Option Nat) :
    (handleLogout db familyId).draws = db.draws ∧ Keeps db.refreshTokens (handleLogout db familyId).refreshTokens := by
  unfold handleLogout
  split
  · cases familyId with
    | none => exact ⟨rfl, .refl _⟩
    | some family => exact ⟨rfl, .revokeWhere _ _ _ _⟩
  · exact ⟨rfl, .refl _⟩

theorem handleRevoke_keeps (db : AuthDb) (call : RevokeCall) :
    (handleRevoke db call).draws = db.draws ∧ Keeps db.refreshTokens (handleRevoke db call).refreshTokens := by
  unfold handleRevoke
  split
  · exact ⟨rfl, .refl _⟩
  · split
    · exact ⟨rfl, .refl _⟩
    · exact ⟨rfl, .revokeWhere _ _ _ _⟩

theorem step_advance (ctx : AuthHandlerContext) {w : AuthWorld} {i : Nat} {flight : Flight} (answers : IdpAnswers)
    (found : w.flights[i]? = some flight) : w.step ctx (.advance i answers) =
      { db := (Coordinator.advance ctx w.db flight.request answers flight.stage).1
        flights := w.flights.set i ⟨flight.request, (Coordinator.advance ctx w.db flight.request answers flight.stage).2⟩ } := by
  simp only [step, found]

theorem coherent_step (ctx : AuthHandlerContext) {w : AuthWorld} (coherent : Coherent w) (event : AuthEvent) :
    Coherent (w.step ctx event) := by
  cases event with
  | tick seconds => exact coherent.evolve le_rfl (.refl _)
  | arrive request => exact coherent.arrive request
  | advance i answers =>
    cases found : w.flights[i]? with
    | none => simpa only [step, found] using coherent
    | some flight =>
      rw [step_advance ctx answers found]
      exact coherent.turn found (advance_turn ctx w.db flight.request answers flight.stage).tracked
  | login userId orgId fingerprint => exact coherent.openSession userId orgId fingerprint
  | logout familyId =>
    obtain ⟨draws, keeps⟩ := handleLogout_keeps w.db familyId
    exact coherent.evolve draws.ge keeps.evolves
  | logoutAll userId => exact coherent.evolve le_rfl (.revokeWhere _ _ _ _)
  | revoke call =>
    obtain ⟨draws, keeps⟩ := handleRevoke_keeps w.db call
    exact coherent.evolve draws.ge keeps.evolves
  | bumpTokenEpoch userId => exact coherent.evolve le_rfl (.refl _)
  | noteEpochBump userId epoch => exact coherent.evolve le_rfl (.refl _)
  | writeUser user => exact coherent.evolve le_rfl (.refl _)
  | sweep env victims => exact coherent.evolve le_rfl (Keeps.delete _ _).evolves

/-- Every reachable state is coherent. -/
theorem Run.coherent {ctx : AuthHandlerContext} {guard : AuthWorld → AuthEvent → Prop} {w w' : AuthWorld}
    (run : Run ctx guard w w') (initially : Coherent w) : Coherent w' :=
  run.invariant (fun _ event coherent _ => coherent_step ctx coherent event) initially

end AuthWorld

end Coordinator
