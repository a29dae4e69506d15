import Coordinator.ThreadStep

namespace Coordinator

/-- An open task in the hands of an agent. -/
def Thread.heldBy (t : Thread) (agentId : AgentId) : Prop := t.status = .opened ∧ t.claimedBy = some agentId

namespace Db

/-- No two open tasks of an org in different hands share a file. -/
def Exclusive (db : Db) : Prop :=
  ∀ t ∈ db.threads.rows, ∀ u ∈ db.threads.rows, t.id ≠ u.id → t.orgId = u.orgId →
    ∀ a b, t.heldBy a → u.heldBy b → a ≠ b → ∀ file, ¬ (file ∈ t.targetFiles ∧ file ∈ u.targetFiles)

theorem sharesFile_iff {mine theirs : List FilePath} :
    sharesFile mine theirs ↔ ∃ file, file ∈ mine ∧ file ∈ theirs := by
  simp [sharesFile]

theorem heldElsewhere_iff {db : Db} {agentId : AgentId} {t : Thread} :
    db.heldElsewhere agentId t ↔ ∃ u ∈ db.threads.rows, u.orgId = t.orgId ∧ u.id ≠ t.id ∧
      (∃ b, u.heldBy b ∧ b ≠ agentId) ∧ ∃ file, file ∈ t.targetFiles ∧ file ∈ u.targetFiles := by
  simp only [heldElsewhere, List.any_eq_true, decide_eq_true_eq, Option.any_eq_true, sharesFile_iff, Thread.heldBy]
  constructor
  · intro holder
    obtain ⟨u, member, sameOrg, apart, opened, ⟨b, claimed, other⟩, shared⟩ := holder
    exact ⟨u, member, sameOrg, apart, ⟨b, ⟨opened, claimed⟩, other⟩, shared⟩
  · intro holder
    obtain ⟨u, member, sameOrg, apart, ⟨b, ⟨opened, claimed⟩, other⟩, shared⟩ := holder
    exact ⟨u, member, sameOrg, apart, opened, ⟨b, claimed, other⟩, shared⟩

/-- A contest that takes a claimed thread back to open finds its files free:
no other open task of the org in different hands shares one. -/
def reopensFree (db : Db) : Env × Op → Prop
  | (_, .contestResolution orgId threadId agentId _) =>
    ∀ t holder, db.getThread orgId threadId = some t → t.status = .resolving → db.registered orgId agentId →
      t.round + 1 ≤ t.maxRounds → t.claimedBy = some holder → ¬ db.heldElsewhere holder t
  | _ => True

/-- The one thread that a call may put into somebody's hands. -/
def handsOver : Op → Option ThreadId
  | .handleClaimTask _ threadId _ => some threadId
  | .contestResolution _ threadId _ _ => some threadId
  | _ => none

theorem departed_held {env : Env} {agentId a : AgentId} {db : Db} {t : Thread}
    (held : (departed env agentId db t).heldBy a) : t.heldBy a := by
  rcases departed_cases env agentId db t with settled | stays
  · rw [settled] at held
    cases held.1
  · rw [stays] at held
    exact ⟨held.1, held.2⟩

/-- Whoever holds a task after a call held it before, or the call handed it
over and found its files free. -/
theorem ThreadChange.held {db : Db} {env : Env} {op : Op} {k : ThreadId} {t t' : Thread} {a : AgentId}
    (free : db.reopensFree (env, op)) (found : db.threads.find k = some t) (change : db.ThreadChange env op t t')
    (held : t'.heldBy a) : t.heldBy a ∨ handsOver op = some t.id ∧ ¬ db.heldElsewhere a t := by
  cases change with
  | keep | override | concern => exact .inl ⟨held.1, held.2⟩
  | autoResolve | propose | approve | contestLast | cancel | close | timeout => cases held.1
  | contest _ _ _ resolving author room =>
    have target : db.getThread t.orgId t.id = some t := getThread_eq_some.mpr ⟨find_id found ▸ found, rfl⟩
    exact .inr ⟨rfl, free t a target resolving author room held.2⟩
  | depart _ agentId _ =>
    have before := departed_held held
    split at before
    · cases before.2
    · exact .inl before
  | claim _ _ _ _ alone =>
    cases held.2
    exact .inr ⟨rfl, alone⟩
  | unclaim | poison => cases held.2

/-- A row of the next state that is held comes from a row of the same
identity, held by the same agent or handed over by the call. -/
theorem held_origin {db : Db} {env : Env} {op : Op} {t' : Thread} {a : AgentId} (free : db.reopensFree (env, op))
    (member : t' ∈ (db.step (env, op)).threads.rows) (held : t'.heldBy a) :
    ∃ t ∈ db.threads.rows, t.id = t'.id ∧ t.orgId = t'.orgId ∧ t.targetFiles = t'.targetFiles ∧
      (t.heldBy a ∨ handsOver op = some t.id ∧ ¬ db.heldElsewhere a t) := by
  rcases step_origin (Table.find_self member) with ⟨t, found, change⟩ | ⟨-, orgId, params, rfl, rfl⟩
  · obtain ⟨sameId, sameOrg, sameFiles⟩ := change.identity
    exact ⟨t, (Table.find_eq_some.mp found).1, sameId.symm, sameOrg.symm, sameFiles.symm,
      change.held free found held⟩
  · cases held.2

theorem step_exclusive {db : Db} {env : Env} {op : Op} (exclusive : db.Exclusive)
    (free : db.reopensFree (env, op)) : (db.step (env, op)).Exclusive := by
  intro t' memberT u' memberU apart sameOrg a b heldT heldU distinct file shared
  obtain ⟨t, oldT, idT, orgT, filesT, originT⟩ := held_origin free memberT heldT
  obtain ⟨u, oldU, idU, orgU, filesU, originU⟩ := held_origin free memberU heldU
  rw [← idT, ← idU] at apart
  rw [← orgT, ← orgU] at sameOrg
  rw [← filesT, ← filesU] at shared
  -- the call hands over at most one thread, so one of the two was held before
  rcases originT with before | ⟨handed, alone⟩
  · rcases originU with beforeU | ⟨handed, alone⟩
    · exact exclusive t oldT u oldU apart sameOrg a b before beforeU distinct file shared
    · exact alone (heldElsewhere_iff.mpr
        ⟨t, oldT, sameOrg, apart, ⟨a, before, distinct⟩, file, shared.2, shared.1⟩)
  · rcases originU with beforeU | ⟨handedU, -⟩
    · exact alone (heldElsewhere_iff.mpr
        ⟨u, oldU, sameOrg.symm, apart.symm, ⟨b, beforeU, distinct.symm⟩, file, shared⟩)
    · rw [handed] at handedU
      exact apart (Option.some.inj handedU)

/-- From a state where claims are exclusive, a call keeps them so exactly
when it reopens no claimed thread onto files held by another agent. -/
theorem step_exclusive_iff {db : Db} (exclusive : db.Exclusive) (env : Env) (op : Op) :
    (db.step (env, op)).Exclusive ↔ db.reopensFree (env, op) := by
  refine ⟨fun later => ?_, step_exclusive exclusive⟩
  cases op with
  | contestResolution orgId threadId agentId reason =>
    intro t holder target resolving author room claimed elsewhere
    obtain ⟨u, memberU, sameOrg, apart, ⟨b, heldU, other⟩, file, mine, theirs⟩ := heldElsewhere_iff.mp elsewhere
    obtain ⟨found, atOrg⟩ := getThread_eq_some.mp target
    have atId := find_id found
    have rewrites := contestResolution_rewrites env orgId threadId agentId reason db
    have reopened := rewrites.at_target target
    rw [if_pos ⟨resolving, author⟩, if_neg (by omega)] at reopened
    have kept := rewrites.frame (atId ▸ apart)
    rw [Table.find_self memberU] at kept
    exact later _ (Table.find_eq_some.mp reopened).1 u (Table.find_eq_some.mp kept).1 apart.symm sameOrg.symm
      holder b ⟨rfl, claimed⟩ heldU other.symm file ⟨mine, theirs⟩
  | _ => trivial

/-- In every run from an empty threads table whose calls meet the guard,
claims stay exclusive. -/
def ClaimsExclusive (guard : Db → Env × Op → Prop) : Prop :=
  ∀ start later : Db, start.threads = Table.empty → Run guard start later → later.Exclusive

/-- Claims stay exclusive as long as contests find the files free. -/
theorem claims_exclusive {start later : Db} (fresh : start.threads = Table.empty) (run : Run reopensFree start later) :
    later.Exclusive := by
  refine run.invariant (P := Exclusive) ?_ ?_
  · rintro db ⟨env, op⟩ exclusive free
    exact step_exclusive exclusive free
  · intro t member
    rw [fresh] at member
    cases member

def pair : Db := team [("ada", []), ("bob", [])]

/-- Both keep a task on the same file open, and Ada claims hers. -/
def pairClaim : List (Env × Op) :=
  [(.drawing "t1", .announceWork "acme" (.ofFiles "ada" ["a.ts"] true)),
    (.drawing "t2", .announceWork "acme" (.ofFiles "bob" ["a.ts"] true)),
    (.drawing "m1", .handleClaimTask "acme" "t1" "ada")]

theorem claims_exclusive_pair :
    ((pair.after pairClaim).step (.drawing "m2", .handleClaimTask "acme" "t2" "bob")).Exclusive := by
  refine claims_exclusive (show pair.threads = Table.empty from rfl) (.next _ ?_ trivial)
  exact .of_meets ⟨trivial, trivial, trivial, trivial⟩

/-- While Ada's proposal is pending her file looks free, so Bob's claim goes
through; his contest then reopens her claimed thread beside his. -/
theorem not_claimsExclusive : ¬ ClaimsExclusive fun _ call => call.2.onThreads := by
  intro exclusive
  let calls := pairClaim ++
    [(.drawing "m2", .proposeResolution "acme" "t1" "ada" "done"), (.drawing "m3", .handleClaimTask "acme" "t2" "bob"),
      (.drawing "m4", .contestResolution "acme" "t1" "bob" "not yet")]
  let columns (t : Thread) := (t.orgId, t.status, t.claimedBy, t.targetFiles)
  have ada : ((pair.after calls).threads.find "t1").map columns =
      some ("acme", .opened, some "ada", ["a.ts"]) := by decide
  have bob : ((pair.after calls).threads.find "t2").map columns =
      some ("acme", .opened, some "bob", ["a.ts"]) := by decide
  obtain ⟨t, foundT, rowT⟩ := Option.map_eq_some_iff.mp ada
  obtain ⟨u, foundU, rowU⟩ := Option.map_eq_some_iff.mp bob
  obtain ⟨memberT, idT⟩ := Table.find_eq_some.mp foundT
  obtain ⟨memberU, idU⟩ := Table.find_eq_some.mp foundU
  simp only [columns, Prod.mk.injEq] at rowT rowU
  refine exclusive pair (pair.after calls) rfl (threadRun_after pair (by decide)) t memberT u memberU ?_ ?_
    "ada" "bob" ⟨rowT.2.1, rowT.2.2.1⟩ ⟨rowU.2.1, rowU.2.2.1⟩ (by decide) "a.ts" ?_
  · rw [idT, idU]
    decide
  · rw [rowT.1, rowU.1]
  · rw [rowT.2.2.2, rowU.2.2.2]
    decide

end Db

end Coordinator
