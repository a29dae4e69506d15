import Coordinator.Library.EventStream
import Coordinator.TenantServed

namespace Coordinator

namespace Db
variable {env : Env} {params : ScoreParams} {db : Db} {agent : Agent}

/-! The documented layers, asked agent by agent and file by file. -/
section Plain
variable (env : Env) (params : ScoreParams) (agent : Agent) (db : Db)

def activeThreads : List Thread :=
  (db.announcedThreads env params.orgId layer0WindowMinutes none).filter fun t => t.initiatorId = agent.id

def editedBy (filePath : FilePath) : Bool :=
  (db.checkFileConflict env params.orgId filePath params.agentId fileActivityWindowMinutes).contains agent.id

def inFlightBy (filePath : FilePath) : Bool :=
  (db.getWorkingIndex env params.orgId [filePath] params.agentId).contains (filePath, agent.id)

def sameFileLink : Bool :=
  (db.activeThreads env params agent).any (fun t => params.targetFiles.any fun f => t.targetFiles.contains f) ||
    params.targetFiles.any fun f => db.editedBy env params agent f || db.inFlightBy env params agent f

def dependencyLink : Bool :=
  (db.activeThreads env params agent).any (fun t =>
    (params.dependsOnFiles.getD []).any (fun f => t.targetFiles.contains f) ||
      params.targetFiles.any fun f => t.dependsOnFiles.contains f) ||
    (params.dependsOnFiles.getD []).any fun f => db.editedBy env params agent f

def moduleLink : Bool :=
  (safeJsonParse agent.modules []).any fun am => params.targetModules.any fun tm => moduleOverlap am tm

def cochangeLinks : List CochangeCandidate :=
  (params.targetFiles.flatMap (db.layer4Candidates params.orgId)).filter fun c => db.editedBy env params agent c.partner

def plainLayers : List Nat :=
  (if db.sameFileLink env params agent then [100] else []) ++
    (if db.dependencyLink env params agent then [80] else []) ++
    (if moduleLink params agent then [30] else []) ++
    (db.cochangeLinks env params agent).map (·.score)

def plainScore : Nat := (db.plainLayers env params agent).foldl max 0

/-- Edits of co-change partners in the window, by anybody. -/
def partnerEdits : List FileActivity :=
  db.fileActivity.filter fun r =>
    r.orgId = params.orgId ∧
      r.filePath ∈ (params.targetFiles.flatMap (db.layer4Candidates params.orgId)).map (·.partner) ∧
      (env.minutesAgo 60).lt r.createdAt

/-- Where the joined texts of two different (file, agent) pairs meet, some
documented layer gives as much as the co-change would. -/
def CollisionsCovered : Prop :=
  ∀ c ∈ params.targetFiles.flatMap (db.layer4Candidates params.orgId), ∀ r ∈ db.partnerEdits env params,
    s!"{r.filePath}|{r.agentId}" = s!"{c.partner}|{agent.id}" → (r.filePath, r.agentId) ≠ (c.partner, agent.id) →
      ∃ n ∈ db.plainLayers env params agent, c.score ≤ n

end Plain

theorem editedBy_iff {filePath : FilePath} : db.editedBy env params agent filePath ↔
    ∃ r ∈ db.fileActivity, r.orgId = params.orgId ∧ r.filePath = filePath ∧ r.agentId = agent.id ∧
      agent.id ≠ params.agentId ∧ (env.minutesAgo fileActivityWindowMinutes).lt r.createdAt := by
  simp only [editedBy, checkFileConflict, List.contains_iff_mem, List.mem_eraseDups, List.mem_map, List.mem_filter,
    decide_eq_true_eq]
  constructor
  · rintro ⟨r, ⟨member, atOrg, atFile, other, recent⟩, author⟩
    exact ⟨r, member, atOrg, atFile, author, author ▸ other, recent⟩
  · rintro ⟨r, member, atOrg, atFile, author, other, recent⟩
    exact ⟨r, ⟨member, atOrg, atFile, author ▸ other, recent⟩, author⟩

/-- The batched index is one file conflict check for each of its files. -/
theorem mem_getFileToAgentsIndex {files : List FilePath} {filePath : FilePath} :
    (filePath, agent.id) ∈ db.getFileToAgentsIndex env params.orgId files params.agentId fileActivityWindowMinutes ↔
      filePath ∈ files ∧ db.editedBy env params agent filePath := by
  simp only [editedBy_iff, getFileToAgentsIndex, List.mem_eraseDups, List.mem_map, List.mem_filter, decide_eq_true_eq,
    Prod.mk.injEq]
  constructor
  · rintro ⟨r, ⟨member, atOrg, listed, other, recent⟩, atFile, author⟩
    exact ⟨atFile ▸ listed, r, member, atOrg, atFile, author, author ▸ other, recent⟩
  · rintro ⟨listed, r, member, atOrg, atFile, author, other, recent⟩
    exact ⟨r, ⟨member, atOrg, atFile ▸ listed, author ▸ other, recent⟩, atFile, author⟩

theorem mem_getWorkingIndex {files : List FilePath} {filePath : FilePath} :
    (filePath, agent.id) ∈ db.getWorkingIndex env params.orgId files params.agentId ↔
      filePath ∈ files ∧ db.inFlightBy env params agent filePath := by
  simp only [inFlightBy, getWorkingIndex, List.contains_iff_mem, List.mem_eraseDups, List.mem_map, List.mem_filter,
    decide_eq_true_eq, Prod.mk.injEq, List.mem_singleton]
  constructor
  · rintro ⟨w, ⟨member, atOrg, listed, other, unexpired⟩, atFile, holder⟩
    exact ⟨atFile ▸ listed, w, ⟨member, atOrg, atFile, other, unexpired⟩, atFile, holder⟩
  · rintro ⟨listed, w, ⟨member, atOrg, atFile, other, unexpired⟩, -, holder⟩
    exact ⟨w, ⟨member, atOrg, atFile ▸ listed, other, unexpired⟩, atFile, holder⟩

/-- Some finding of a pass has the score. -/
def Scores (found : List Finding) (n : Nat) : Prop := ∃ f ∈ found, f.score = n

section Scores
variable {n : Nat}

theorem scores_append {found more : List Finding} : Scores (found ++ more) n ↔ Scores found n ∨ Scores more n := by
  simp only [Scores, List.mem_append, or_and_right, exists_or]

theorem scores_flatMap {α : Type} {items : List α} {g : α → List Finding} :
    Scores (items.flatMap g) n ↔ ∃ a ∈ items, Scores (g a) n := by
  simp only [Scores, List.mem_flatMap]
  tauto

theorem scores_ite {p : Prop} [Decidable p] {f : Finding} : Scores (if p then [f] else []) n ↔ p ∧ f.score = n := by
  by_cases holds : p
  · simp [Scores, holds]
  · simp [Scores, holds]

theorem scores_unless_empty {α : Type} {items : List α} {p : α → Bool} {f : Finding} :
    Scores (if (items.filter p).isEmpty then [] else [f]) n ↔ items.any p ∧ f.score = n := by
  cases holds : items.any p with
  | true => simp_all [Scores]
  | false => simp_all [Scores]

theorem scores_layer0 {t : Thread} : Scores (layer0 params t) n ↔
    (params.targetFiles.any fun f => t.targetFiles.contains f) ∧ 100 = n ∨
      ((params.dependsOnFiles.getD []).any (fun f => t.targetFiles.contains f) ||
        params.targetFiles.any fun f => t.dependsOnFiles.contains f) ∧ 80 = n := by
  simp only [layer0, scores_append, scores_unless_empty, Bool.or_eq_true]
  tauto

theorem scores_layer1 {fileToAgents inFlight : List (FilePath × AgentId)} {symbols : List (String × List String)}
    {targetFile : FilePath} : Scores (layer1 params fileToAgents inFlight symbols agent.id targetFile) n ↔
      ((targetFile, agent.id) ∈ fileToAgents ∨ (targetFile, agent.id) ∈ inFlight) ∧ 100 = n := by
  simp only [layer1, scores_append, scores_ite]
  tauto

theorem scores_layer2 {fileToAgents : List (FilePath × AgentId)} {depFile : FilePath} :
    Scores (layer2 fileToAgents agent.id depFile) n ↔ (depFile, agent.id) ∈ fileToAgents ∧ 80 = n := scores_ite

theorem scores_layer3 : Scores (layer3 params agent) n ↔ moduleLink params agent ∧ 30 = n := by
  simp only [layer3, scores_unless_empty, moduleLink]

theorem scores_layer4 {partnerActivity : List String} {candidates : List CochangeCandidate} {targetFile : FilePath} :
    Scores (layer4 partnerActivity candidates agent.id targetFile) n ↔
      ∃ c ∈ candidates, s!"{c.partner}|{agent.id}" ∈ partnerActivity ∧ c.score = n := by
  simp only [Scores, layer4, List.mem_filterMap, Option.ite_none_right_eq_some, Option.some.injEq]
  constructor
  · rintro ⟨f, ⟨c, member, keyed, rfl⟩, score⟩
    exact ⟨c, member, keyed, score⟩
  · rintro ⟨c, member, keyed, score⟩
    exact ⟨_, ⟨c, member, keyed, rfl⟩, score⟩

/-- The scores that fire: those of the first layers are the documented ones, and
a co-change fires on the joined text of a partner's edit. -/
theorem scores_findings : Scores (db.findings env params agent) n ↔
    db.sameFileLink env params agent ∧ 100 = n ∨ db.dependencyLink env params agent ∧ 80 = n ∨
      moduleLink params agent ∧ 30 = n ∨
      ∃ c ∈ params.targetFiles.flatMap (db.layer4Candidates params.orgId),
        s!"{c.partner}|{agent.id}" ∈ db.layer4PartnerActivity env params.orgId params.targetFiles ∧ c.score = n := by
  simp only [findings, scores_append, scores_flatMap, scores_layer0, scores_layer1, scores_layer2, scores_layer3,
    scores_layer4, mem_getFileToAgentsIndex, mem_getWorkingIndex, sameFileLink, dependencyLink, activeThreads,
    Bool.or_eq_true, List.any_eq_true, List.mem_flatMap, List.mem_append]
  constructor
  · rintro ((((⟨t, active, same | dependency⟩ | ⟨f, target, edited, rfl⟩) | ⟨f, depends, edited, rfl⟩) | overlap) |
      ⟨f, target, c, candidate, fires⟩)
    · exact .inl ⟨.inl ⟨t, active, same.1⟩, same.2⟩
    · exact .inr (.inl ⟨.inl ⟨t, active, dependency.1⟩, dependency.2⟩)
    · exact .inl ⟨.inr ⟨f, target, edited.imp And.right And.right⟩, rfl⟩
    · exact .inr (.inl ⟨.inr ⟨f, depends, edited.2⟩, rfl⟩)
    · exact .inr (.inr (.inl overlap))
    · exact .inr (.inr (.inr ⟨c, ⟨f, target, candidate⟩, fires⟩))
  · rintro (⟨⟨t, active, same⟩ | ⟨f, target, edited⟩, rfl⟩ | ⟨⟨t, active, dependency⟩ | ⟨f, depends, edited⟩, rfl⟩ |
      overlap | ⟨c, ⟨f, target, candidate⟩, fires⟩)
    · exact .inl (.inl (.inl (.inl ⟨t, active, .inl ⟨same, rfl⟩⟩)))
    · exact .inl (.inl (.inl (.inr ⟨f, target, edited.imp (⟨.inl target, ·⟩) (⟨.inl target, ·⟩), rfl⟩)))
    · exact .inl (.inl (.inl (.inl ⟨t, active, .inr ⟨dependency, rfl⟩⟩)))
    · exact .inl (.inl (.inr ⟨f, depends, ⟨.inr depends, edited⟩, rfl⟩))
    · exact .inl (.inr overlap)
    · exact .inr ⟨f, target, c, candidate, fires⟩

end Scores

theorem mem_plainLayers {n : Nat} : n ∈ db.plainLayers env params agent ↔
    db.sameFileLink env params agent ∧ 100 = n ∨ db.dependencyLink env params agent ∧ 80 = n ∨
      moduleLink params agent ∧ 30 = n ∨
      ∃ c ∈ params.targetFiles.flatMap (db.layer4Candidates params.orgId),
        db.editedBy env params agent c.partner ∧ c.score = n := by
  have one {p : Bool} {k : Nat} : n ∈ (if p then [k] else []) ↔ p ∧ k = n := by
    cases p with
    | true => simp [eq_comm]
    | false => simp
  simp only [plainLayers, cochangeLinks, List.mem_append, one, List.mem_map, List.mem_filter]
  tauto

theorem mem_layer4PartnerActivity {key : String} :
    key ∈ db.layer4PartnerActivity env params.orgId params.targetFiles ↔
      ∃ r ∈ db.partnerEdits env params, s!"{r.filePath}|{r.agentId}" = key := List.mem_map

/-- The edits of a partner by the agent itself are among those that are joined. -/
theorem editedBy_partner {c : CochangeCandidate}
    (candidate : c ∈ params.targetFiles.flatMap (db.layer4Candidates params.orgId)) (other : agent.id ≠ params.agentId) :
    db.editedBy env params agent c.partner ↔
      ∃ r ∈ db.partnerEdits env params, (r.filePath, r.agentId) = (c.partner, agent.id) := by
  simp only [editedBy_iff, partnerEdits, List.mem_filter, decide_eq_true_eq, Prod.mk.injEq]
  constructor
  · rintro ⟨r, member, atOrg, atFile, author, -, recent⟩
    exact ⟨r, ⟨member, atOrg, atFile ▸ List.mem_map_of_mem candidate, recent⟩, atFile, author⟩
  · rintro ⟨r, ⟨member, atOrg, -, recent⟩, atFile, author⟩
    exact ⟨r, member, atOrg, atFile, author, other, recent⟩

theorem layer4Candidates_score {orgId : OrgId} {targetFile : FilePath} {c : CochangeCandidate}
    (candidate : c ∈ db.layer4Candidates orgId targetFile) : c.score = 60 ∨ c.score = 40 := by
  obtain ⟨row, -, shape⟩ := List.mem_filterMap.mp candidate
  simp only at shape
  generalize (if row.fileA = targetFile then row.fileB else row.fileA) = partner at shape
  split at shape
  · cases shape
    exact .inl rfl
  · split at shape
    · cases shape
      exact .inr rfl
    · cases shape

theorem scoreAgent_le {bound : Nat} :
    (db.scoreAgent env params agent).score ≤ bound ↔ ∀ n, Scores (db.findings env params agent) n → n ≤ bound := by
  rw [scoreAgent, ← Nat.lt_succ_iff, foldl_score_lt]
  simp only [Scores, Nat.lt_succ_iff, Nat.zero_le, true_and]
  constructor
  · rintro below n ⟨f, fired, rfl⟩
    exact below f fired
  · intro below f fired
    exact below f.score ⟨f, fired, rfl⟩

theorem plainScore_le {bound : Nat} :
    db.plainScore env params agent ≤ bound ↔ ∀ n ∈ db.plainLayers env params agent, n ≤ bound := by
  rw [plainScore, ← Nat.lt_succ_iff, EventStream.foldl_max_lt]
  simp only [Nat.lt_succ_iff, Nat.zero_le, true_and]

/-- What the plain layers give always fires in the batched pass. -/
theorem plainScore_le_score (other : agent.id ≠ params.agentId) :
    db.plainScore env params agent ≤ (db.scoreAgent env params agent).score := by
  refine plainScore_le.mpr fun n layer => scoreAgent_le.mp le_rfl n (scores_findings.mpr ?_)
  rcases mem_plainLayers.mp layer with same | dependency | overlap | ⟨c, candidate, edited, score⟩
  · exact .inl same
  · exact .inr (.inl dependency)
  · exact .inr (.inr (.inl overlap))
  · obtain ⟨r, edit, pair⟩ := (editedBy_partner candidate other).mp edited
    obtain ⟨atFile, author⟩ := Prod.mk.inj pair
    exact .inr (.inr (.inr ⟨c, candidate, mem_layer4PartnerActivity.mpr ⟨r, edit, by rw [atFile, author]⟩, score⟩))

/-- The batched scorer gives an online peer the plain score exactly when no
collision of joined texts lifts it. -/
theorem score_eq_plainScore_iff (online : agent ∈ db.otherOnline env params.orgId params.agentId) :
    db.scoreAgent env params agent ∈ db.score env params ∧
      ((db.scoreAgent env params agent).score = db.plainScore env params agent ↔
        db.CollisionsCovered env params agent) := by
  have other : agent.id ≠ params.agentId := by
    rw [otherOnline, List.mem_filter, decide_eq_true_eq] at online
    exact online.2
  refine ⟨List.mem_map_of_mem online, ?_, ?_⟩
  · intro same c candidate r edit joined _
    have fires : c.score ≤ db.plainScore env params agent := by
      refine same ▸ scoreAgent_le.mp le_rfl c.score (scores_findings.mpr (.inr (.inr (.inr ⟨c, candidate, ?_, rfl⟩))))
      exact mem_layer4PartnerActivity.mpr ⟨r, edit, joined⟩
    by_contra uncovered
    have positive : 0 < c.score := by
      obtain ⟨f, -, atFile⟩ := List.mem_flatMap.mp candidate
      rcases layer4Candidates_score atFile with sixty | forty
      · omega
      · omega
    have below : db.plainScore env params agent ≤ c.score - 1 := by
      refine plainScore_le.mpr fun n layer => ?_
      have under : ¬ c.score ≤ n := fun reaches => uncovered ⟨n, layer, reaches⟩
      omega
    omega
  · intro covered
    refine Nat.le_antisymm (scoreAgent_le.mpr fun n fires => ?_) (plainScore_le_score other)
    have layer : ∀ n ∈ db.plainLayers env params agent, n ≤ db.plainScore env params agent := plainScore_le.mp le_rfl
    rcases scores_findings.mp fires with same | dependency | overlap | ⟨c, candidate, keyed, rfl⟩
    · exact layer n (mem_plainLayers.mpr (.inl same))
    · exact layer n (mem_plainLayers.mpr (.inr (.inl dependency)))
    · exact layer n (mem_plainLayers.mpr (.inr (.inr (.inl overlap))))
    · obtain ⟨r, edit, joined⟩ := mem_layer4PartnerActivity.mp keyed
      by_cases pair : (r.filePath, r.agentId) = (c.partner, agent.id)
      · have edited := (editedBy_partner candidate other).mpr ⟨r, edit, pair⟩
        exact layer c.score (mem_plainLayers.mpr (.inr (.inr (.inr ⟨c, candidate, edited, rfl⟩))))
      · obtain ⟨n, given, reaches⟩ := covered c candidate r edit joined pair
        exact reaches.trans (layer n given)

/-- Two partners of `t.ts`, and an edit of one of them half a minute ago. -/
def pipes : Db :=
  { team [("ada", []), ("z", []), ("y|z", [])] with
    gitCochange := [
      { orgId := "acme", fileA := "t.ts", fileB := "x", count := 3, totalCommits := 4 },
      { orgId := "acme", fileA := "t.ts", fileB := "x|y", count := 3, totalCommits := 4 }]
    fileActivity := [
      { id := 1, orgId := "acme", agentId := "y|z", filePath := "x", symbolsTouched := .null, createdAt := .sqlite 30 }] }

/-- Ada is about to edit `t.ts`. -/
def editing : ScoreParams :=
  { orgId := "acme", agentId := "ada", targetModules := [], targetFiles := ["t.ts"], dependsOnFiles := none
    targetSymbols := none }

def minuteIn : Env := { Env.drawing "n1" with now := 60000 }

/-- The editor of `x` gets the score of the co-change from both scorers. -/
theorem score_eq_plainScore_editor :
    ∃ agent ∈ pipes.otherOnline minuteIn "acme" "ada", agent.id = "y|z" ∧
      (pipes.scoreAgent minuteIn editing agent).score = pipes.plainScore minuteIn editing agent := by
  have online : ((pipes.otherOnline minuteIn "acme" "ada").map (·.id)) = ["y|z", "z"] := by decide
  have covered : ∀ agent ∈ pipes.otherOnline minuteIn "acme" "ada", agent.id = "y|z" →
      60 ∈ pipes.plainLayers minuteIn editing agent := by decide
  obtain ⟨agent, member, named⟩ := List.mem_map.mp (online ▸ List.mem_cons_self : "y|z" ∈ _)
  have scored : _ ∧ ((pipes.scoreAgent minuteIn editing agent).score = pipes.plainScore minuteIn editing agent ↔ _) :=
    score_eq_plainScore_iff member
  refine ⟨agent, member, named, scored.2.mpr ?_⟩
  intro c candidate r edit _ _
  refine ⟨60, covered agent member named, ?_⟩
  obtain ⟨f, -, atFile⟩ := List.mem_flatMap.mp candidate
  rcases layer4Candidates_score atFile with sixty | forty
  · exact sixty.le
  · omega

/-- The batched scorer gives every online peer the plain score. -/
def PlainScoring : Prop :=
  ∀ (env : Env) (params : ScoreParams) (db : Db), ∀ agent ∈ db.otherOnline env params.orgId params.agentId,
    (db.scoreAgent env params agent).score = db.plainScore env params agent

/-- Agent `z` is scored 60 for the partner `x|y`, because `y|z` has edited `x`. -/
theorem not_plainScoring : ¬ PlainScoring := by
  intro plain
  have same := plain minuteIn editing pipes
  have lifted : ¬ ∀ agent ∈ pipes.otherOnline minuteIn "acme" "ada",
      (pipes.scoreAgent minuteIn editing agent).score = pipes.plainScore minuteIn editing agent := by decide
  exact lifted same

end Db

end Coordinator
