import Coordinator.ThreadStep

namespace Coordinator

namespace Db

/-- The two calls that write the status of a thread without reading it are
not made on a finished thread: no entitled agent proposes on one, and no
initiator cancels one that is not cancelled already. -/
def sparesFinished (db : Db) : Env × Op → Prop
  | (_, .proposeResolution orgId threadId agentId _) =>
    ∀ t, db.getThread orgId threadId = some t → t.initiatorId = agentId ∨ t.claimedBy = some agentId →
      t.status.active
  | (_, .cancelThread orgId threadId agentId _) =>
    ∀ t, db.getThread orgId threadId = some t → t.initiatorId = agentId → t.status.active ∨ t.status = .cancelled
  | _ => True

/-- Finished threads go through a call with their status. -/
def KeepsFinished (before after : Db) : Prop :=
  ∀ k t, before.threads.find k = some t → ¬ t.status.active →
    ∃ t', after.threads.find k = some t' ∧ t'.status = t.status

theorem KeepsFinished.refl (db : Db) : KeepsFinished db db := fun _ t found _ => ⟨t, found, rfl⟩

theorem KeepsFinished.trans {first second third : Db} (early : KeepsFinished first second)
    (late : KeepsFinished second third) : KeepsFinished first third := by
  intro k t found finished
  obtain ⟨u, foundU, sameU⟩ := early k t found finished
  obtain ⟨v, foundV, sameV⟩ := late k u foundU (sameU ▸ finished)
  exact ⟨v, foundV, sameV.trans sameU⟩

theorem ThreadChange.keeps_finished {db : Db} {env : Env} {op : Op} {k : ThreadId} {t t' : Thread}
    (spares : db.sparesFinished (env, op)) (found : db.threads.find k = some t) (finished : ¬ t.status.active)
    (change : db.ThreadChange env op t t') : t'.status = t.status := by
  have target : db.getThread t.orgId t.id = some t := getThread_eq_some.mpr ⟨find_id found ▸ found, rfl⟩
  have opened : t.status ≠ .opened := fun same => finished (by rw [same]; rfl)
  have resolving : t.status ≠ .resolving := fun same => finished (by rw [same]; rfl)
  cases change with
  | keep | override | claim | unclaim | concern => rfl
  | autoResolve _ _ _ atStatus => exact absurd atStatus opened
  | propose _ _ _ entitled => exact absurd (spares t target entitled) finished
  | approve _ _ _ atStatus => exact absurd atStatus resolving
  | contestLast _ _ _ atStatus => exact absurd atStatus resolving
  | contest _ _ _ atStatus => exact absurd atStatus resolving
  | cancel =>
    rcases spares t target rfl with active | cancelled
    · exact absurd active finished
    · exact cancelled.symm
  | close _ _ active => exact absurd active finished
  | depart _ _ active => exact absurd active finished
  | timeout _ active => exact absurd active finished
  | poison _ _ _ atStatus => exact absurd atStatus opened

/-- One call keeps every finished status exactly when it spares finished threads. -/
theorem step_keepsFinished_iff (db : Db) (env : Env) (op : Op) :
    KeepsFinished db (db.step (env, op)) ↔ db.sparesFinished (env, op) := by
  constructor
  · intro keeps
    cases op with
    | proposeResolution orgId threadId agentId summary =>
      intro t target entitled
      by_contra finished
      obtain ⟨u, later, same⟩ := keeps threadId t (getThread_eq_some.mp target).1 finished
      have row := (proposeResolution_rewrites env orgId threadId agentId summary db).at_target target
      have atNow : (db.proposeResolution env orgId threadId agentId summary).1.threads.find threadId = some u := later
      rw [row, if_pos entitled] at atNow
      cases atNow
      exact finished (by rw [← same]; rfl)
    | cancelThread orgId threadId agentId reason =>
      intro t target initiator
      by_contra altered
      obtain ⟨finished, uncancelled⟩ := not_or.mp altered
      obtain ⟨u, later, same⟩ := keeps threadId t (getThread_eq_some.mp target).1 finished
      have row := (cancelThread_rewrites env orgId threadId agentId reason db).at_target target
      have atNow : (db.cancelThread env orgId threadId agentId reason).1.threads.find threadId = some u := later
      rw [row, if_pos initiator] at atNow
      cases atNow
      exact uncancelled same.symm
    | _ => trivial
  · intro spares k t found finished
    obtain ⟨t', later, change⟩ := step_change env op found
    exact ⟨t', later, change.keeps_finished spares found finished⟩

/-- In every run from an empty threads table whose calls meet the guard, a
status that is resolved, cancelled or poisoned is there to stay. -/
def TerminalAbsorbing (guard : Db → Env × Op → Prop) : Prop :=
  ∀ start mid later : Db, start.threads = Table.empty → Run guard start mid → Run guard mid later →
    KeepsFinished mid later

/-- In runs that spare finished threads a finished status is there to stay. -/
theorem terminal_absorbing {start mid later : Db} (_fresh : start.threads = Table.empty)
    (_before : Run sparesFinished start mid) (rest : Run sparesFinished mid later) : KeepsFinished mid later := by
  refine GuardedRun.climbs (P := fun _ => True) KeepsFinished.refl KeepsFinished.trans ?_ ?_ trivial rest
  · intros; trivial
  · rintro db ⟨env, op⟩ - spares
    exact (step_keepsFinished_iff db env op).mpr spares

def solo : Db := team [("ada", [])]

/-- Ada's announce, resolved at once because she is alone. -/
def soloAnnounce : List (Env × Op) := [(.drawing "t1", .announceWork "acme" (.ofFiles "ada" ["a.ts"] false))]

/-- A second `close` of Ada's thread is refused and leaves it resolved. -/
theorem terminal_absorbing_solo :
    ∃ t', ((solo.after soloAnnounce).step (.drawing "m1", .closeThread "acme" "t1" "ada" "done")).threads.find "t1" =
      some t' ∧ t'.status = .resolved := by
  have resolved : ((solo.after soloAnnounce).threads.find "t1").map Thread.status = some .resolved := by decide
  obtain ⟨t, found, status⟩ := Option.map_eq_some_iff.mp resolved
  have run : Run sparesFinished solo (solo.after soloAnnounce) := .of_meets ⟨trivial, trivial⟩
  have again : Run sparesFinished (solo.after soloAnnounce) ((solo.after soloAnnounce).step
      (.drawing "m1", .closeThread "acme" "t1" "ada" "done")) := .single _ trivial
  obtain ⟨t', later, kept⟩ := terminal_absorbing rfl run again "t1" t found (by rw [status]; decide)
  exact ⟨t', later, kept.trans status⟩

/-- A proposal on the thread that was resolved by its own announce brings it back. -/
theorem not_terminalAbsorbing : ¬ TerminalAbsorbing fun _ call => call.2.onThreads := by
  intro absorbing
  have resolved : ((solo.after soloAnnounce).threads.find "t1").map Thread.status = some .resolved := by decide
  have reopened : (((solo.after soloAnnounce).step
      (.drawing "m1", .proposeResolution "acme" "t1" "ada" "done")).threads.find "t1").map Thread.status =
        some .resolving := by decide
  obtain ⟨t, found, status⟩ := Option.map_eq_some_iff.mp resolved
  have run : solo.ThreadRun (solo.after soloAnnounce) := threadRun_after solo (by decide)
  have again : (solo.after soloAnnounce).ThreadRun ((solo.after soloAnnounce).step
      (.drawing "m1", .proposeResolution "acme" "t1" "ada" "done")) := .single _ rfl
  obtain ⟨t', later, kept⟩ := absorbing solo _ _ rfl run again "t1" t found (by rw [status]; decide)
  rw [later, Option.map_some, kept, status] at reopened
  cases reopened

end Db

end Coordinator
