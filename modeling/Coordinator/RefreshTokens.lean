import Coordinator.Library.Table

namespace Coordinator

inductive RevokedReason
  | rotated
  | reuseDetected
  | suspiciousReplay
  | logout
  | logoutAll
  | admin
  | keyRotation
  | idleExpired
  | restoreInvalidation
  deriving DecidableEq, Repr

/-- The values of `crypto.randomUUID()` are numbered in the order they are drawn. -/
structure RefreshRow where
  jti : Nat
  userId : String
  orgId : String
  familyId : Option Nat
  parentJti : Option Nat
  revokedAt : Option Int
  revokedReason : Option RevokedReason
  replayCount : Nat
  consumerFingerprint : Option String
  expiresAt : Int
  lastUsedAt : Option Int
  deriving DecidableEq, Repr

def RefreshRow.revoke (now : Int) (reason : RevokedReason) (r : RefreshRow) : RefreshRow :=
  { r with revokedAt := some now, revokedReason := some reason }

theorem RefreshRow.revoke_jti (now : Int) (reason : RevokedReason) (r : RefreshRow) :
    (r.revoke now reason).jti = r.jti := rfl

def RefreshRow.follow (parent : Nat) (r : RefreshRow) : RefreshRow := { r with parentJti := some parent }

theorem RefreshRow.follow_jti (parent : Nat) (r : RefreshRow) : (r.follow parent).jti = r.jti := rfl

def RefreshRow.countReplay (r : RefreshRow) : RefreshRow := { r with replayCount := r.replayCount + 1 }

theorem RefreshRow.countReplay_jti (r : RefreshRow) : r.countReplay.jti = r.jti := rfl

abbrev RefreshTokens := Table RefreshRow RefreshRow.jti

namespace RefreshTokens

def unrevoked (p : RefreshRow → Bool) (r : RefreshRow) : Bool := p r && r.revokedAt.isNone

/-- `UPDATE refresh_tokens SET revoked_at, revoked_reason WHERE p AND revoked_at IS NULL`. -/
def revokeWhere (T : RefreshTokens) (p : RefreshRow → Bool) (now : Int) (reason : RevokedReason) : RefreshTokens :=
  T.update (unrevoked p) (RefreshRow.revoke now reason) (RefreshRow.revoke_jti now reason)

theorem mem_revokeWhere {T : RefreshTokens} {p : RefreshRow → Bool} {now : Int} {reason : RevokedReason} {r : RefreshRow} :
    r ∈ (T.revokeWhere p now reason).rows ↔
      ∃ old ∈ T.rows, (if unrevoked p old then old.revoke now reason else old) = r :=
  Table.mem_update

def revokeToken (T : RefreshTokens) (jti : Nat) (now : Int) (reason : RevokedReason) : RefreshTokens :=
  revokeWhere T (fun r => r.jti = jti) now reason

def revokeFamily (T : RefreshTokens) (family : Nat) (now : Int) (reason : RevokedReason) : RefreshTokens :=
  revokeWhere T (fun r => r.familyId = some family) now reason

/-- `UPDATE refresh_tokens SET parent_jti = ? WHERE jti = ?`. The partial UNIQUE
index on `parent_jti` refuses a second successor. -/
def link (T : RefreshTokens) (jti parent : Nat) : Option RefreshTokens :=
  if (T.find jti).isSome && T.rows.any (fun r => r.jti ≠ jti && r.parentJti = some parent) then none
  else some (T.update (fun r => r.jti = jti) (RefreshRow.follow parent) (RefreshRow.follow_jti parent))

def countReplay (T : RefreshTokens) (jti : Nat) : RefreshTokens :=
  T.update (fun r => r.jti = jti) RefreshRow.countReplay RefreshRow.countReplay_jti

/-- No row of the family is unrevoked. -/
def FamilyDead (T : RefreshTokens) (family : Nat) : Prop :=
  ∀ r ∈ T.rows, r.familyId = some family → r.revokedAt ≠ none

/-- Every row comes from one of the same token, family and parent, and none comes back to life. -/
def Keeps (T U : RefreshTokens) : Prop :=
  ∀ r ∈ U.rows, ∃ old ∈ T.rows, old.jti = r.jti ∧ old.familyId = r.familyId ∧ old.parentJti = r.parentJti ∧
    (old.revokedAt ≠ none → r.revokedAt ≠ none)

namespace Keeps
variable {T U V : RefreshTokens}

theorem refl (T : RefreshTokens) : Keeps T T := fun r member => ⟨r, member, rfl, rfl, rfl, id⟩

theorem trans (early : Keeps T U) (late : Keeps U V) : Keeps T V := by
  intro r member
  obtain ⟨mid, midMember, midJti, midFamily, midParent, midStays⟩ := late r member
  obtain ⟨old, oldMember, oldJti, oldFamily, oldParent, oldStays⟩ := early mid midMember
  exact ⟨old, oldMember, oldJti.trans midJti, oldFamily.trans midFamily, oldParent.trans midParent,
    fun revoked => midStays (oldStays revoked)⟩

theorem update {p : RefreshRow → Bool} {f : RefreshRow → RefreshRow} {keeps : ∀ r, (f r).jti = r.jti}
    (family : ∀ r, (f r).familyId = r.familyId) (parent : ∀ r, (f r).parentJti = r.parentJti)
    (revoked : ∀ r, r.revokedAt ≠ none → (f r).revokedAt ≠ none) : Keeps T (T.update p f keeps) := by
  intro r member
  obtain ⟨old, inRows, same⟩ := Table.mem_update.mp member
  refine ⟨old, inRows, ?_⟩
  split at same
  · rw [← same]
    exact ⟨(keeps old).symm, (family old).symm, (parent old).symm, revoked old⟩
  · rw [← same]
    exact ⟨rfl, rfl, rfl, id⟩

theorem revokeWhere (T : RefreshTokens) (p : RefreshRow → Bool) (now : Int) (reason : RevokedReason) :
    Keeps T (T.revokeWhere p now reason) :=
  update (fun _ => rfl) (fun _ => rfl) fun _ _ => Option.some_ne_none now

theorem countReplay (T : RefreshTokens) (jti : Nat) : Keeps T (T.countReplay jti) :=
  update (fun _ => rfl) (fun _ => rfl) fun _ => id

theorem delete (T : RefreshTokens) (p : RefreshRow → Bool) : Keeps T (T.delete p) :=
  fun r member => ⟨r, (Table.mem_delete.mp member).1, rfl, rfl, rfl, id⟩

end Keeps

/-- Every row comes from one of the same token and family, and none comes back to life. -/
def Evolves (T U : RefreshTokens) : Prop :=
  ∀ r ∈ U.rows, ∃ old ∈ T.rows, old.jti = r.jti ∧ old.familyId = r.familyId ∧ (old.revokedAt ≠ none → r.revokedAt ≠ none)

theorem Keeps.evolves {T U : RefreshTokens} (keeps : Keeps T U) : Evolves T U := by
  intro r member
  obtain ⟨old, oldMember, sameJti, sameFamily, -, stays⟩ := keeps r member
  exact ⟨old, oldMember, sameJti, sameFamily, stays⟩

namespace Evolves
variable {T U : RefreshTokens}

theorem refl (T : RefreshTokens) : Evolves T T := (Keeps.refl T).evolves

theorem revokeWhere (T : RefreshTokens) (p : RefreshRow → Bool) (now : Int) (reason : RevokedReason) :
    Evolves T (T.revokeWhere p now reason) := (Keeps.revokeWhere T p now reason).evolves

/-- A link changes the parent of a row, and nothing else. -/
theorem link {jti parent : Nat} (linked : T.link jti parent = some U) : Evolves T U := by
  rw [RefreshTokens.link] at linked
  split at linked
  · cases linked
  · obtain rfl := Option.some.inj linked
    intro r member
    obtain ⟨old, inRows, same⟩ := Table.mem_update.mp member
    refine ⟨old, inRows, ?_⟩
    split at same
    · rw [← same]
      exact ⟨rfl, rfl, id⟩
    · rw [← same]
      exact ⟨rfl, rfl, id⟩

theorem familyDead (evolves : Evolves T U) {family : Nat} (dead : T.FamilyDead family) : U.FamilyDead family := by
  intro r member inFamily
  obtain ⟨old, oldMember, -, sameFamily, stays⟩ := evolves r member
  exact stays (dead old oldMember (sameFamily.trans inFamily))

end Evolves

theorem familyDead_revokeFamily (T : RefreshTokens) (family : Nat) (now : Int) (reason : RevokedReason) :
    (T.revokeFamily family now reason).FamilyDead family := by
  intro r member inFamily
  obtain ⟨old, -, same⟩ := mem_revokeWhere.mp member
  split at same
  · rw [← same]
    exact Option.some_ne_none now
  · rename_i skipped
    subst same
    simpa [unrevoked, inFamily] using skipped

/-- No row of a dead family is left to compare and set. -/
theorem changes_of_familyDead {T : RefreshTokens} {family jti : Nat} (dead : T.FamilyDead family)
    (inFamily : ∀ r ∈ T.rows, r.jti = jti → r.familyId = some family) :
    T.changes (unrevoked fun r => r.jti = jti) = 0 := by
  rw [Table.changes, List.countP_eq_zero]
  intro r member hit
  simp only [unrevoked, Bool.and_eq_true, decide_eq_true_eq, Option.isNone_iff_eq_none] at hit
  exact dead r member (inFamily r member hit.1) hit.2

end RefreshTokens

end Coordinator
