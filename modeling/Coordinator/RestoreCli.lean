import Mathlib.Data.List.TakeWhile
import Coordinator.Library.Dictionary
import Coordinator.Schema

namespace Coordinator

inductive FsNode
  | dir
  | file (content : String)
  deriving DecidableEq

/-- A directory: what it holds, by relative path. -/
abbrev FsTree := Dictionary String FsNode

/-- The directories next to the config dir, and it, by their paths. -/
abbrev FsDirs := Dictionary String FsTree

/-- `rename` of a directory: over another one only if that is empty. -/
def renameSync (allowed : Bool) (source target : String) (D : FsDirs) : Option FsDirs :=
  match Dictionary.get D source with
  | none => none
  | some tree =>
    if allowed ∧ (Dictionary.get D target).all fun old => old.rows.isEmpty then
      some (Dictionary.set (Dictionary.erase D source) target tree)
    else none

/-- `path.replace(/\\/g, "/").split("/")[0]`. -/
def topLevel (path : String) : String :=
  String.ofList ((path.toList.map fun c => if c = '\\' then '/' else c).takeWhile (· ≠ '/'))

def listTarballEntries (paths : List String) : List String :=
  paths.foldl (fun entries path =>
    if topLevel path ≠ "" ∧ topLevel path ∉ entries then entries ++ [topLevel path] else entries) []

/-- What `server restore` finds at the path it is given. -/
inductive Tarball
  | missing
  | notRegular
  | unreadable (message : String)
  | archive (paths : List String)
  deriving DecidableEq

/-- A call of `server restore`: its options, and what the system answers it. `running`
is the answer of `getRunningCoordinatorPid`, which throws where `config.json` does not
parse; `extracted` is what the config dir holds once `tar` is done, or has failed. -/
structure RestoreCall where
  tarball : Tarball
  force : Bool
  backup : Bool
  running : Except String (Option Nat)
  snapshotSlug : String
  failedSlug : String
  movesAside : Bool
  makesDir : Bool
  extracted : FsTree
  extractError : Option String
  movesFailed : Bool
  movesBack : Bool

inductive Rollback
  | noSnapshot
  | rolledBack (failedPath : String)
  | manual (snapshotPath : String)
  deriving DecidableEq

inductive RestoreReply
  | notFound
  | notRegular
  | running (pid : Nat)
  | unreadable (message : String)
  | unexpected (entries : List String)
  /-- Before anything was done. -/
  | thrown
  /-- By `mkdirSync`, after the old config dir was moved aside. -/
  | thrownAfter (snapshotPath : Option String)
  | failed (message : String) (rollback : Rollback)
  | complete (restored : List String) (previous : Option String)
  deriving DecidableEq

def snapshotPath (configDir slug : String) : String := configDir ++ ".bak-" ++ slug

def failedPath (configDir slug : String) : String := configDir ++ ".failed-" ++ slug

namespace RestoreCall

/-- The rollback of a failed extraction. -/
def rollBack (configDir : String) (call : RestoreCall) (message : String) (snapshot : Option String) (D : FsDirs) :
    FsDirs × RestoreReply :=
  match snapshot with
  | none => (D, .failed message .noSnapshot)
  | some snapshot =>
    if (Dictionary.get D snapshot).isSome then
      match renameSync call.movesFailed configDir (failedPath configDir call.failedSlug) D with
      | none => (D, .failed message (.manual snapshot))
      | some quarantined =>
        match renameSync call.movesBack snapshot configDir quarantined with
        | none => (quarantined, .failed message (.manual snapshot))
        | some restored => (restored, .failed message (.rolledBack (failedPath configDir call.failedSlug)))
    else (D, .failed message .noSnapshot)

/-- `mkdirSync` and the extraction. -/
def extract (configDir : String) (call : RestoreCall) (entries : List String) (snapshot : Option String) (D : FsDirs) :
    FsDirs × RestoreReply :=
  if call.makesDir then
    let D := Dictionary.set D configDir call.extracted
    match call.extractError with
    | some message => call.rollBack configDir message snapshot D
    | none => (D, .complete (entries.filter fun e => e = "config.json" || e = "data") snapshot)
  else (D, .thrownAfter snapshot)

/-- The move of the existing config dir out of the way. -/
def moveAside (configDir : String) (call : RestoreCall) (entries : List String) (D : FsDirs) : FsDirs × RestoreReply :=
  if call.backup ∧ (Dictionary.get D configDir).isSome then
    let snapshot := snapshotPath configDir call.snapshotSlug
    match renameSync call.movesAside configDir snapshot D with
    | none => (D, .thrown)
    | some moved => call.extract configDir entries (some snapshot) moved
  else call.extract configDir entries none D

/-- The answer where a server may be running. -/
def refusal (call : RestoreCall) : Option RestoreReply :=
  match call.running with
  | .error _ => some .thrown
  | .ok none => none
  | .ok (some pid) => if call.force then none else some (.running pid)

def restore (configDir : String) (call : RestoreCall) (D : FsDirs) : FsDirs × RestoreReply :=
  match call.tarball with
  | .missing => (D, .notFound)
  | .notRegular => (D, .notRegular)
  | .unreadable message => (D, call.refusal.getD (.unreadable message))
  | .archive paths =>
    match call.refusal with
    | some reply => (D, reply)
    | none =>
      let entries := listTarballEntries paths
      if "config.json" ∉ entries ∧ "data" ∉ entries then (D, .unexpected entries)
      else call.moveAside configDir entries D

end RestoreCall

/-- The path at which the output of the command says that the old config dir is. -/
def RestoreReply.whereabouts (configDir : String) : RestoreReply → String
  | .thrownAfter (some snapshot) | .failed _ (.manual snapshot) | .complete _ (some snapshot) => snapshot
  | _ => configDir

/-- A restore, or any other change to the config dir. -/
inductive HomeEvent
  | write (tree : FsTree)
  | restore (call : RestoreCall)

namespace FsDirs

def step (configDir : String) (D : FsDirs) : HomeEvent → FsDirs
  | .write tree => Dictionary.set D configDir tree
  | .restore call => (call.restore configDir D).1

end FsDirs

/-- What a restore does, at whatever point of a run, and what the rest of the run leaves of it. -/
structure RestoreLaws (configDir : String) (before : FsDirs) (call : RestoreCall) (rest : List HomeEvent) : Prop where
  /-- The old config dir is where the output says. -/
  found : ∀ tree, call.backup = true → Dictionary.get before configDir = some tree →
    Dictionary.get (call.restore configDir before).1 ((call.restore configDir before).2.whereabouts configDir) = some tree
  /-- A directory that was put aside, by this or by an earlier restore, is never written over. -/
  spared : ∀ path tree, path ≠ configDir → tree.rows ≠ [] → Dictionary.get (call.restore configDir before).1 path = some tree →
    Dictionary.get (rest.foldl (FsDirs.step configDir) (call.restore configDir before).1) path = some tree
  /-- A restore that completes leaves in the config dir what `tar` has left there. -/
  exact : ∀ restored previous, (call.restore configDir before).2 = .complete restored previous →
    Dictionary.get (call.restore configDir before).1 configDir = some call.extracted
  /-- A rollback leaves the config dir as it was, and what was extracted next to it. -/
  rolledBack : ∀ message quarantine, (call.restore configDir before).2 = .failed message (.rolledBack quarantine) →
    Dictionary.get (call.restore configDir before).1 configDir = Dictionary.get before configDir ∧
      Dictionary.get (call.restore configDir before).1 quarantine = some call.extracted
  /-- Only three paths are ever touched, and without a snapshot only the config dir. -/
  frame : ∀ path, path ≠ configDir → (call.backup = true → path ≠ snapshotPath configDir call.snapshotSlug ∧
    path ≠ failedPath configDir call.failedSlug) →
    Dictionary.get (call.restore configDir before).1 path = Dictionary.get before path

theorem renameSync_get {allowed : Bool} {source target : String} {D E : FsDirs}
    (moved : renameSync allowed source target D = some E) : ∃ tree, Dictionary.get D source = some tree ∧
      (∀ old, Dictionary.get D target = some old → old.rows = []) ∧
      ∀ path, Dictionary.get E path =
        if path = target then some tree else if path = source then none else Dictionary.get D path := by
  unfold renameSync at moved
  cases found : Dictionary.get D source with
  | none =>
    rw [found] at moved
    cases moved
  | some tree =>
    simp only [found] at moved
    split at moved
    · rename_i allowed
      cases moved
      refine ⟨tree, rfl, ?_, ?_⟩
      · intro old there
        rw [there, Option.all_some, List.isEmpty_iff] at allowed
        exact allowed.2
      · intro path
        rw [Dictionary.get_set, Dictionary.get_erase]
        simp only [eq_comm]
    · cases moved

theorem snapshotPath_ne (configDir slug : String) : snapshotPath configDir slug ≠ configDir := by
  intro same
  have lengths := congrArg String.length same
  simp only [snapshotPath, String.length_append, show ".bak-".length = 5 from rfl] at lengths
  omega

theorem failedPath_ne (configDir slug : String) : failedPath configDir slug ≠ configDir := by
  intro same
  have lengths := congrArg String.length same
  simp only [failedPath, String.length_append, show ".failed-".length = 8 from rfl] at lengths
  omega

theorem snapshotPath_ne_failedPath (configDir slug slug' : String) :
    snapshotPath configDir slug ≠ failedPath configDir slug' := by
  intro same
  have texts := congrArg String.toList same
  simp only [snapshotPath, failedPath, String.toList_append, List.append_assoc, List.append_cancel_left_eq] at texts
  cases texts

/-- No directory with anything in it stands at the path. -/
def Vacant (D : FsDirs) (path : String) : Prop := ∀ old, Dictionary.get D path = some old → old.rows = []

namespace RestoreCall
variable {configDir : String} {call : RestoreCall} {D : FsDirs}

/-- Where a restore leaves every path. -/
inductive Outcome (configDir : String) (call : RestoreCall) (D : FsDirs) : FsDirs → RestoreReply → Prop
  | refused (reply : RestoreReply) : reply.whereabouts configDir = configDir →
    (∀ restored previous, reply ≠ .complete restored previous) →
    (∀ message path, reply ≠ .failed message (.rolledBack path)) → Outcome configDir call D D reply
  | overlaid (E : FsDirs) (reply : RestoreReply) : (call.backup = true → Dictionary.get D configDir = none) →
    (∀ message path, reply ≠ .failed message (.rolledBack path)) →
    (∀ path, Dictionary.get E path = if path = configDir then some call.extracted else Dictionary.get D path) →
    Outcome configDir call D E reply
  | aside (E : FsDirs) (tree : FsTree) (left : Option FsTree) (reply : RestoreReply) : call.backup = true →
    Dictionary.get D configDir = some tree → Vacant D (snapshotPath configDir call.snapshotSlug) →
    (∀ path, Dictionary.get E path = if path = snapshotPath configDir call.snapshotSlug then some tree
      else if path = configDir then left else Dictionary.get D path) →
    reply.whereabouts configDir = snapshotPath configDir call.snapshotSlug →
    (∀ restored previous, reply = .complete restored previous → left = some call.extracted) →
    (∀ message path, reply ≠ .failed message (.rolledBack path)) → Outcome configDir call D E reply
  | stuck (E : FsDirs) (tree : FsTree) (message : String) : call.backup = true → Dictionary.get D configDir = some tree →
    Vacant D (snapshotPath configDir call.snapshotSlug) → Vacant D (failedPath configDir call.failedSlug) →
    (∀ path, Dictionary.get E path = if path = snapshotPath configDir call.snapshotSlug then some tree
      else if path = failedPath configDir call.failedSlug then some call.extracted
      else if path = configDir then none else Dictionary.get D path) →
    Outcome configDir call D E (.failed message (.manual (snapshotPath configDir call.snapshotSlug)))
  | rolledBack (E : FsDirs) (tree : FsTree) (message : String) : call.backup = true →
    Dictionary.get D configDir = some tree → Vacant D (snapshotPath configDir call.snapshotSlug) →
    Vacant D (failedPath configDir call.failedSlug) →
    (∀ path, Dictionary.get E path = if path = configDir then some tree
      else if path = snapshotPath configDir call.snapshotSlug then none
      else if path = failedPath configDir call.failedSlug then some call.extracted else Dictionary.get D path) →
    Outcome configDir call D E (.failed message (.rolledBack (failedPath configDir call.failedSlug)))

theorem extract_none (entries : List String) (fresh : call.backup = true → Dictionary.get D configDir = none) :
    Outcome configDir call D (call.extract configDir entries none D).1 (call.extract configDir entries none D).2 := by
  have written : ∀ path, Dictionary.get (Dictionary.set D configDir call.extracted) path =
      if path = configDir then some call.extracted else Dictionary.get D path := by
    intro path
    rw [Dictionary.get_set]
    simp only [eq_comm]
  unfold extract
  split
  · cases failed : call.extractError with
    | some message => exact .overlaid _ _ fresh nofun written
    | none => exact .overlaid _ _ fresh nofun written
  · exact .refused _ rfl nofun nofun

/-- The state in which `tar` is done, behind a snapshot. -/
theorem extract_some (entries : List String) {tree : FsTree} {moved : FsDirs} (asked : call.backup = true)
    (there : Dictionary.get D configDir = some tree) (vacant : Vacant D (snapshotPath configDir call.snapshotSlug))
    (gets : ∀ path, Dictionary.get moved path = if path = snapshotPath configDir call.snapshotSlug then some tree
      else if path = configDir then none else Dictionary.get D path) :
    Outcome configDir call D (call.extract configDir entries (some (snapshotPath configDir call.snapshotSlug)) moved).1
      (call.extract configDir entries (some (snapshotPath configDir call.snapshotSlug)) moved).2 := by
  have apart := snapshotPath_ne configDir call.snapshotSlug
  have apart' := failedPath_ne configDir call.failedSlug
  have apart'' := snapshotPath_ne_failedPath configDir call.snapshotSlug call.failedSlug
  have written : ∀ path, Dictionary.get (Dictionary.set moved configDir call.extracted) path =
      if path = snapshotPath configDir call.snapshotSlug then some tree
      else if path = configDir then some call.extracted else Dictionary.get D path := by
    intro path
    rw [Dictionary.get_set, gets]
    grind
  unfold extract
  split
  · cases failed : call.extractError with
    | none => exact .aside _ tree _ _ asked there vacant written rfl (fun _ _ _ => rfl) nofun
    | some message =>
      simp only [rollBack]
      rw [if_pos (by rw [written, if_pos rfl]; rfl)]
      cases first : renameSync call.movesFailed configDir (failedPath configDir call.failedSlug)
          (Dictionary.set moved configDir call.extracted) with
      | none => exact .aside _ tree _ _ asked there vacant written rfl nofun nofun
      | some quarantined =>
        obtain ⟨found, isFound, free, gets'⟩ := renameSync_get first
        obtain rfl : call.extracted = found := by simpa [written, Ne.symm apart] using isFound
        have vacant' : Vacant D (failedPath configDir call.failedSlug) := by
          intro old isOld
          refine free old ?_
          rw [written, if_neg apart''.symm, if_neg apart', isOld]
        simp only
        cases second : renameSync call.movesBack (snapshotPath configDir call.snapshotSlug) configDir quarantined with
        | none =>
          refine .stuck _ tree message asked there vacant vacant' fun path => ?_
          rw [gets', written]
          grind
        | some restored =>
          obtain ⟨found', isFound', -, gets''⟩ := renameSync_get second
          obtain rfl : tree = found' := by
            rw [gets', written, if_neg apart'', if_neg apart, if_pos rfl] at isFound'
            exact Option.some.inj isFound'
          refine .rolledBack _ tree message asked there vacant vacant' fun path => ?_
          rw [gets'', gets', written]
          grind
  · exact .aside _ tree none _ asked there vacant gets rfl nofun nofun

theorem restore_outcome (configDir : String) (call : RestoreCall) (D : FsDirs) :
    Outcome configDir call D (call.restore configDir D).1 (call.restore configDir D).2 := by
  have refuses : ∀ reply, call.refusal = some reply → Outcome configDir call D D reply := by
    intro reply refused
    unfold refusal at refused
    split at refused
    · cases refused
      exact .refused _ rfl nofun nofun
    · cases refused
    · split at refused
      · cases refused
      · cases refused
        exact .refused _ rfl nofun nofun
  unfold restore
  split
  · exact .refused _ rfl nofun nofun
  · exact .refused _ rfl nofun nofun
  · cases blocked : call.refusal with
    | none => exact .refused _ rfl nofun nofun
    | some reply => exact refuses reply blocked
  · split
    · rename_i reply blocked
      exact refuses reply blocked
    · simp only
      split
      · exact .refused _ rfl nofun nofun
      · unfold moveAside
        split
        · rename_i present
          cases moved : renameSync call.movesAside configDir (snapshotPath configDir call.snapshotSlug) D with
          | none =>
            simp only [moved]
            exact .refused _ rfl nofun nofun
          | some E =>
            simp only [moved]
            obtain ⟨tree, there, vacant, gets⟩ := renameSync_get moved
            exact extract_some _ present.1 there vacant gets
        · rename_i absent
          refine extract_none _ fun asked => ?_
          rw [← Option.not_isSome_iff_eq_none]
          exact fun present => absent ⟨asked, present⟩

/-- What stands next to the config dir stays, unless it is empty. -/
theorem Outcome.spares {E : FsDirs} {reply : RestoreReply} (outcome : Outcome configDir call D E reply) {path : String}
    {tree : FsTree} (aside : path ≠ configDir) (filled : tree.rows ≠ [])
    (there : Dictionary.get D path = some tree) : Dictionary.get E path = some tree := by
  have off : ∀ {target : String}, Vacant D target → path ≠ target := by
    rintro target vacant rfl
    exact filled (vacant tree there)
  cases outcome with
  | refused => exact there
  | overlaid E reply fresh sound gets => rw [gets, if_neg aside, there]
  | aside E old left reply asked was vacant gets => rw [gets, if_neg (off vacant), if_neg aside, there]
  | stuck E old message asked was vacant vacant' gets =>
    rw [gets, if_neg (off vacant), if_neg (off vacant'), if_neg aside, there]
  | rolledBack E old message asked was vacant vacant' gets =>
    rw [gets, if_neg aside, if_neg (off vacant), if_neg (off vacant'), there]

theorem Outcome.found {E : FsDirs} {reply : RestoreReply} (outcome : Outcome configDir call D E reply) {tree : FsTree}
    (asked : call.backup = true) (there : Dictionary.get D configDir = some tree) :
    Dictionary.get E (reply.whereabouts configDir) = some tree := by
  cases outcome with
  | refused reply here => rw [here, there]
  | overlaid E reply fresh =>
    rw [fresh asked] at there
    cases there
  | aside E old left reply asked was vacant gets moved =>
    rw [moved, gets, if_pos rfl, ← was, there]
  | stuck E old message asked was vacant vacant' gets =>
    change Dictionary.get E (snapshotPath configDir call.snapshotSlug) = _
    rw [gets, if_pos rfl, ← was, there]
  | rolledBack E old message asked was vacant vacant' gets =>
    change Dictionary.get E configDir = _
    rw [gets, if_pos rfl, ← was, there]

end RestoreCall

/-- The other changes to the config dir leave what is next to it alone. -/
theorem FsDirs.step_spares {configDir : String} {D : FsDirs} (e : HomeEvent) {path : String} {tree : FsTree}
    (aside : path ≠ configDir) (filled : tree.rows ≠ []) (there : Dictionary.get D path = some tree) :
    Dictionary.get (step configDir D e) path = some tree := by
  cases e with
  | write written => rw [step, Dictionary.get_set, if_neg aside.symm, there]
  | restore call => exact (call.restore_outcome configDir D).spares aside filled there

theorem FsDirs.run_spares {configDir : String} {path : String} {tree : FsTree} (aside : path ≠ configDir)
    (filled : tree.rows ≠ []) (events : List HomeEvent) {D : FsDirs} (there : Dictionary.get D path = some tree) :
    Dictionary.get (events.foldl (step configDir) D) path = some tree := by
  induction events generalizing D with
  | nil => exact there
  | cons e rest ih => exact ih (step_spares e aside filled there)

/-- No restore loses what was in the config dir, in whatever order restores and
other changes come, and whichever of its steps fail. -/
theorem restores_lose_nothing (configDir : String) (before : FsDirs) (call : RestoreCall) (rest : List HomeEvent) :
    RestoreLaws configDir before call rest := by
  have outcome := call.restore_outcome configDir before
  refine ⟨fun tree asked there => outcome.found asked there, ?_, ?_, ?_, ?_⟩
  · intro path tree aside filled there
    exact FsDirs.run_spares aside filled rest there
  · intro restored previous done
    generalize (call.restore configDir before).1 = E at outcome ⊢
    rw [done] at outcome
    generalize reached : RestoreReply.complete restored previous = reply at outcome
    cases outcome with
    | refused reply here notComplete => exact absurd reached.symm (notComplete _ _)
    | overlaid E reply fresh sound gets => rw [gets, if_pos rfl]
    | aside E old left reply asked was vacant gets moved written =>
      rw [gets, if_neg (snapshotPath_ne _ _).symm, if_pos rfl, written _ _ reached.symm]
    | stuck => cases reached
    | rolledBack => cases reached
  · intro message quarantine done
    generalize (call.restore configDir before).1 = E at outcome ⊢
    rw [done] at outcome
    generalize reached : RestoreReply.failed message (.rolledBack quarantine) = reply at outcome
    cases outcome with
    | refused reply here notComplete notBack => exact absurd reached.symm (notBack _ _)
    | overlaid E reply fresh notBack => exact absurd reached.symm (notBack _ _)
    | aside E old left reply asked was vacant gets moved written notBack => exact absurd reached.symm (notBack _ _)
    | stuck => cases reached
    | rolledBack E old message asked was vacant vacant' gets =>
      cases reached
      refine ⟨?_, ?_⟩
      · rw [gets, if_pos rfl, was]
      · rw [gets, if_neg (failedPath_ne _ _), if_neg (snapshotPath_ne_failedPath _ _ _).symm, if_pos rfl]
  · intro path aside apart
    generalize (call.restore configDir before).1 = E at outcome ⊢
    generalize (call.restore configDir before).2 = reply at outcome
    cases outcome with
    | refused => rfl
    | overlaid E reply fresh sound gets => rw [gets, if_neg aside]
    | aside E old left reply asked was vacant gets => rw [gets, if_neg (apart asked).1, if_neg aside]
    | stuck E old message asked was vacant vacant' gets =>
      rw [gets, if_neg (apart asked).1, if_neg (apart asked).2, if_neg aside]
    | rolledBack E old message asked was vacant vacant' gets =>
      rw [gets, if_neg aside, if_neg (apart asked).1, if_neg (apart asked).2]

/-! What `server backup` packs. -/

/-- The entry itself, or something under it. -/
def within (entry path : String) : Bool := path = entry || startsWith path (entry ++ "/")

/-- Nothing stands in the way of the call, and `tar` takes out what is in the archive. -/
structure RestoreCall.Undisturbed (configDir : String) (call : RestoreCall) (archive : List (String × FsNode)) (D : FsDirs) :
    Prop where
  tarball : call.tarball = .archive (archive.map Prod.fst)
  stopped : call.refusal = none
  asked : call.backup = true
  vacant : Vacant D (snapshotPath configDir call.snapshotSlug)
  movesAside : call.movesAside = true
  makesDir : call.makesDir = true
  extracts : call.extractError = none
  faithful : ∀ path node, Dictionary.get call.extracted path = some node ↔ (path, node) ∈ archive

theorem RestoreCall.Undisturbed.completes {configDir : String} {call : RestoreCall} {archive : List (String × FsNode)}
    {D : FsDirs} (undisturbed : call.Undisturbed configDir archive D)
    (expected : "config.json" ∈ listTarballEntries (archive.map Prod.fst) ∨
      "data" ∈ listTarballEntries (archive.map Prod.fst)) :
    ∃ previous, (call.restore configDir D).2 = .complete
        ((listTarballEntries (archive.map Prod.fst)).filter fun e => e = "config.json" || e = "data") previous ∧
      Dictionary.get (call.restore configDir D).1 configDir = some call.extracted := by
  have apart := snapshotPath_ne configDir call.snapshotSlug
  have extracts : ∀ (entries : List String) (snapshot : Option String) (E : FsDirs),
      call.extract configDir entries snapshot E = (Dictionary.set E configDir call.extracted,
        .complete (entries.filter fun e => e = "config.json" || e = "data") snapshot) := by
    intro entries snapshot E
    simp [extract, undisturbed.makesDir, undisturbed.extracts]
  have moves : ∀ {tree : FsTree}, Dictionary.get D configDir = some tree →
      (renameSync call.movesAside configDir (snapshotPath configDir call.snapshotSlug) D).isSome := by
    intro tree there
    have free : (Dictionary.get D (snapshotPath configDir call.snapshotSlug)).all fun old => old.rows.isEmpty := by
      cases found : Dictionary.get D (snapshotPath configDir call.snapshotSlug) with
      | none => rfl
      | some old => exact List.isEmpty_iff.mpr (undisturbed.vacant old found)
    simp only [renameSync, there]
    rw [if_pos ⟨undisturbed.movesAside, free⟩]
    rfl
  simp only [restore, undisturbed.tarball, undisturbed.stopped]
  rw [if_neg (by tauto), moveAside]
  split
  · rename_i present
    obtain ⟨tree, there⟩ := Option.isSome_iff_exists.mp present.2
    obtain ⟨moved, isMoved⟩ := Option.isSome_iff_exists.mp (moves there)
    simp only [isMoved, extracts]
    exact ⟨_, rfl, Dictionary.get_set_self⟩
  · simp only [extracts]
    exact ⟨_, rfl, Dictionary.get_set_self⟩

end Coordinator
