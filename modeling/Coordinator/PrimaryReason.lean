import Mathlib.Data.List.Infix
import Coordinator.AnnounceWorkflow
import Coordinator.PlainScorer

namespace Coordinator

theorem includes_iff {text part : String} : includes text part ↔ part.toList <:+: text.toList := by
  rw [includes, List.any_eq_true]
  simp only [List.mem_tails, List.isPrefixOf_iff_prefix]
  constructor
  · rintro ⟨rest, suffix, starts⟩
    exact starts.isInfix.trans suffix.isInfix
  · rintro ⟨before, after, shape⟩
    exact ⟨part.toList ++ after, ⟨before, by rw [← shape, List.append_assoc]⟩, List.prefix_append _ _⟩

theorem includes_append_left {text part : String} (rest : String) (found : includes text part) :
    includes (text ++ rest) part := by
  rw [includes_iff, String.toList_append]
  exact (includes_iff.mp found).trans (List.prefix_append _ _).isInfix

theorem includes_append_right {text part : String} (before : String) (found : includes text part) :
    includes (before ++ text) part := by
  rw [includes_iff, String.toList_append]
  exact (includes_iff.mp found).trans (List.suffix_append _ _).isInfix

/-- The layers a firing is logged under. -/
inductive Layer
  | l0
  | l05
  | l1
  | l2
  | l3
  | l4
  deriving DecidableEq, Repr

namespace Layer

def text : Layer → String
  | l0 => "L0"
  | l05 => "L0.5"
  | l1 => "L1"
  | l2 => "L2"
  | l3 => "L3"
  | l4 => "L4"

/-- The phrases `inferLayerFromReasons` takes for the layer. -/
def phrases : Layer → List String
  | l05 => ["disjoint symbols"]
  | l0 => ["announced same file", "modifies my dependency", "they depend on my target"]
  | l1 => ["same file (in flight)", "same file"]
  | l4 => ["co-change"]
  | l2 => ["depends on"]
  | l3 => ["module overlap"]

/-- The layers it tries before. -/
def earlier : Layer → List Layer
  | l05 => []
  | l0 => [l05]
  | l1 => [l05, l0]
  | l4 => [l05, l0, l1]
  | l2 => [l05, l0, l1, l4]
  | l3 => [l05, l0, l1, l4, l2]

def namedIn (layer : Layer) (text : String) : Bool := layer.phrases.any fun p => includes text p

/-- No phrase of an earlier layer stands in a text. -/
def ReadsFrom (layer : Layer) (text : String) : Prop := ∀ other ∈ layer.earlier, ¬ other.namedIn text

end Layer

/-- A link of an agent to the announced work, as the scorer comes across it. -/
inductive Evidence
  | announced (thread : Thread)
  | modifies (thread : Thread)
  | dependent (thread : Thread)
  | edited (targetFile : FilePath)
  | inFlight (targetFile : FilePath)
  | depends (depFile : FilePath)
  | modules
  | cochange (targetFile : FilePath) (c : CochangeCandidate)

/-- The symbols both sides declared on a file have none in common. -/
def disjointSymbols (params : ScoreParams) (symbols : List (String × List String)) (targetFile : FilePath)
    (agentId : AgentId) : Bool :=
  let mine := (params.targetSymbols.getD []).eraseDups
  let theirs := ((symbols.reverse.lookup s!"{targetFile}|{agentId}").getD []).eraseDups
  mine ≠ [] ∧ theirs ≠ [] ∧ mine.all fun s => s ∉ theirs

namespace Evidence

def score : Evidence → Nat
  | announced _ | edited _ | inFlight _ => 100
  | modifies _ | dependent _ | depends _ => 80
  | modules => 30
  | cochange _ c => c.score

/-- The place of the loop that comes across it. -/
def stage : Evidence → Nat
  | announced _ | modifies _ | dependent _ => 0
  | edited _ | inFlight _ => 1
  | depends _ => 2
  | modules => 3
  | cochange _ _ => 4

section Texts
variable (params : ScoreParams) (symbols : List (String × List String)) (agent : Agent)

def layer : Evidence → Layer
  | announced _ | modifies _ | dependent _ => .l0
  | edited targetFile => if disjointSymbols params symbols targetFile agent.id then .l05 else .l1
  | inFlight _ => .l1
  | depends _ => .l2
  | modules => .l3
  | cochange _ _ => .l4

def reason : Evidence → String
  | announced t =>
    let tag := s!"(thread {shortId t.id})"
    s!"announced same file: {commaList (params.targetFiles.filter fun f => t.targetFiles.contains f)} {tag}"
  | modifies t =>
    let tag := s!"(thread {shortId t.id})"
    s!"modifies my dependency: {commaList ((params.dependsOnFiles.getD []).filter fun f => t.targetFiles.contains f)} {tag}"
  | dependent t =>
    let tag := s!"(thread {shortId t.id})"
    s!"they depend on my target: {commaList (params.targetFiles.filter fun f => t.dependsOnFiles.contains f)} {tag}"
  | edited targetFile => Db.sameFileReason params symbols targetFile agent.id
  | inFlight targetFile => s!"same file (in flight): {targetFile}"
  | depends depFile => s!"depends on: {depFile}"
  | modules =>
    let overlapping := (safeJsonParse agent.modules []).filter fun am => params.targetModules.any fun tm => moduleOverlap am tm
    s!"module overlap: {commaList overlapping}"
  | cochange targetFile c => s!"co-change: {targetFile} ↔ {c.partner} (ratio {toFixed2 c.count c.total})"

def finding (e : Evidence) : Finding := { score := e.score, reason := e.reason params symbols agent }

end Texts

variable {params : ScoreParams} {symbols : List (String × List String)} {agent : Agent}

theorem sameFileReason_annotated {targetFile : FilePath} (declared : disjointSymbols params symbols targetFile agent.id) :
    ∃ you them : String, Db.sameFileReason params symbols targetFile agent.id =
      s!"same file: {targetFile}; disjoint symbols: you=[{you}], them=[{them}] — verify shared module state" :=
  ⟨_, _, if_pos (of_decide_eq_true declared)⟩

theorem sameFileReason_recent {targetFile : FilePath}
    (undeclared : ¬ disjointSymbols params symbols targetFile agent.id) :
    Db.sameFileReason params symbols targetFile agent.id = s!"same file (recent): {targetFile}" :=
  if_neg fun both => undeclared (decide_eq_true both)

/-- Every text has a phrase of its own layer. -/
theorem namedIn_reason (e : Evidence) :
    (e.layer params symbols agent).namedIn (e.reason params symbols agent) := by
  rw [Layer.namedIn, List.any_eq_true]
  cases e with
  | announced t =>
    refine ⟨"announced same file", by simp [layer, Layer.phrases], ?_⟩
    exact includes_append_left _ (includes_append_left _ (includes_append_left _ (by decide +kernel)))
  | modifies t =>
    refine ⟨"modifies my dependency", by simp [layer, Layer.phrases], ?_⟩
    exact includes_append_left _ (includes_append_left _ (includes_append_left _ (by decide +kernel)))
  | dependent t =>
    refine ⟨"they depend on my target", by simp [layer, Layer.phrases], ?_⟩
    exact includes_append_left _ (includes_append_left _ (includes_append_left _ (by decide +kernel)))
  | edited targetFile =>
    by_cases declared : disjointSymbols params symbols targetFile agent.id
    · obtain ⟨you, them, text⟩ := sameFileReason_annotated declared
      refine ⟨"disjoint symbols", by simp [layer, declared, Layer.phrases], ?_⟩
      change includes (Db.sameFileReason params symbols targetFile agent.id) _
      rw [text]
      iterate 4 refine includes_append_left _ ?_
      exact includes_append_right _ (by decide +kernel)
    · refine ⟨"same file", by simp [layer, declared, Layer.phrases], ?_⟩
      change includes (Db.sameFileReason params symbols targetFile agent.id) _
      rw [sameFileReason_recent declared]
      exact includes_append_left _ (by decide +kernel)
  | inFlight targetFile =>
    refine ⟨"same file", by simp [layer, Layer.phrases], ?_⟩
    exact includes_append_left _ (by decide +kernel)
  | depends depFile =>
    refine ⟨"depends on", by simp [layer, Layer.phrases], ?_⟩
    exact includes_append_left _ (by decide +kernel)
  | modules =>
    refine ⟨"module overlap", by simp [layer, Layer.phrases], ?_⟩
    exact includes_append_left _ (by decide +kernel)
  | cochange targetFile c =>
    refine ⟨"co-change", by simp [layer, Layer.phrases], ?_⟩
    iterate 6 refine includes_append_left _ ?_
    decide +kernel

/-- Texts of different kinds open differently, the two that open with an `m` apart. -/
def initial : Evidence → Char
  | announced _ => 'a'
  | modifies _ | modules => 'm'
  | dependent _ => 't'
  | edited _ | inFlight _ => 's'
  | depends _ => 'd'
  | cochange _ _ => 'c'

theorem head?_append {text : String} {c : Char} (rest : String) (opens : text.toList.head? = some c) :
    (text ++ rest).toList.head? = some c := by
  rw [String.toList_append, List.head?_append, opens, Option.some_or]

variable (params symbols agent) in
theorem reason_opens (e : Evidence) : (e.reason params symbols agent).toList.head? = some e.initial := by
  cases e with
  | announced t =>
    change _ = some 'a'
    iterate 3 refine head?_append _ ?_
    decide +kernel
  | modifies t =>
    change _ = some 'm'
    iterate 3 refine head?_append _ ?_
    decide +kernel
  | dependent t =>
    change _ = some 't'
    iterate 3 refine head?_append _ ?_
    decide +kernel
  | edited targetFile =>
    change (Db.sameFileReason params symbols targetFile agent.id).toList.head? = some 's'
    by_cases declared : disjointSymbols params symbols targetFile agent.id
    · obtain ⟨you, them, text⟩ := sameFileReason_annotated declared
      rw [text]
      iterate 6 refine head?_append _ ?_
      decide +kernel
    · rw [sameFileReason_recent declared]
      exact head?_append _ (by decide +kernel)
  | inFlight targetFile =>
    change _ = some 's'
    exact head?_append _ (by decide +kernel)
  | depends depFile =>
    change _ = some 'd'
    exact head?_append _ (by decide +kernel)
  | modules =>
    change _ = some 'm'
    exact head?_append _ (by decide +kernel)
  | cochange targetFile c =>
    change _ = some 'c'
    iterate 6 refine head?_append _ ?_
    decide +kernel

theorem initial_eq {e e' : Evidence} (same : e.reason params symbols agent = e'.reason params symbols agent) :
    e.initial = e'.initial := by
  have opens := reason_opens params symbols agent e
  rw [same, reason_opens] at opens
  exact (Option.some.inj opens).symm

end Evidence

theorem inferLayerFromReasons_cons {text : String} {rest : List String} :
    inferLayerFromReasons (text :: rest) =
      if Layer.l05.namedIn text then Layer.l05.text else if Layer.l0.namedIn text then Layer.l0.text
      else if Layer.l1.namedIn text then Layer.l1.text else if Layer.l4.namedIn text then Layer.l4.text
      else if Layer.l2.namedIn text then Layer.l2.text else if Layer.l3.namedIn text then Layer.l3.text
      else inferLayerFromReasons rest := by
  simp only [inferLayerFromReasons, Layer.namedIn, Layer.phrases, List.any_cons, List.any_nil, Bool.or_false,
    Bool.or_assoc, Layer.text]
  cases includes text "same file (in flight)" with
  | true => simp
  | false => simp

/-- A text with a phrase of a layer is filed under it exactly when no earlier phrase is in it. -/
theorem inferLayerFromReasons_eq_iff {layer : Layer} {text : String} {rest : List String} (own : layer.namedIn text) :
    inferLayerFromReasons (text :: rest) = layer.text ↔ layer.ReadsFrom text := by
  rw [inferLayerFromReasons_cons]
  cases layer with
  | l05 => simp [Layer.ReadsFrom, Layer.earlier, own]
  | _ =>
    simp only [Layer.ReadsFrom, Layer.earlier, List.forall_mem_cons, List.not_mem_nil, false_implies, implies_true,
      and_true, own, if_true]
    grind [Layer.text]

namespace Db

section Evidence
variable (env : Env) (params : ScoreParams) (agent : Agent) (db : Db)

def layerOf (e : Evidence) : Layer :=
  e.layer params (db.collectSymbolsTouched params.orgId params.targetFiles) agent

def reasonOf (e : Evidence) : String :=
  e.reason params (db.collectSymbolsTouched params.orgId params.targetFiles) agent

def layer0Evidence (t : Thread) : List Evidence :=
  (if params.targetFiles.any fun f => t.targetFiles.contains f then [.announced t] else []) ++
    (if (params.dependsOnFiles.getD []).any fun f => t.targetFiles.contains f then [.modifies t] else []) ++
    if params.targetFiles.any fun f => t.dependsOnFiles.contains f then [.dependent t] else []

def layer1Evidence (targetFile : FilePath) : List Evidence :=
  (if db.editedBy env params agent targetFile then [.edited targetFile] else []) ++
    if db.inFlightBy env params agent targetFile then [.inFlight targetFile] else []

def layer2Evidence (depFile : FilePath) : List Evidence :=
  if db.editedBy env params agent depFile then [.depends depFile] else []

def layer4Evidence (targetFile : FilePath) : List Evidence :=
  ((db.layer4Candidates params.orgId targetFile).filter fun c =>
    s!"{c.partner}|{agent.id}" ∈ db.layer4PartnerActivity env params.orgId params.targetFiles).map (.cochange targetFile)

/-- All links, in the order of the source. -/
def evidence : List Evidence :=
  (db.activeThreads env params agent).flatMap (layer0Evidence params) ++
    (params.targetFiles.flatMap (db.layer1Evidence env params agent) ++
      ((params.dependsOnFiles.getD []).flatMap (db.layer2Evidence env params agent) ++
        ((if moduleLink params agent then [.modules] else []) ++
          params.targetFiles.flatMap (db.layer4Evidence env params agent))))

end Evidence

variable {env : Env} {params : ScoreParams} {db : Db} {agent : Agent}

theorem unless_empty {α β : Type} {items : List α} {p : α → Bool} {b : β} :
    (if (items.filter p).isEmpty then [] else [b]) = if items.any p then [b] else [] := by
  cases holds : items.any p with
  | true => simp_all
  | false => simp_all

theorem filterMap_ite {α β : Type} {p : α → Prop} [DecidablePred p] {g : α → β} {items : List α} :
    items.filterMap (fun a => if p a then some (g a) else none) = (items.filter p).map g := by
  induction items with
  | nil => rfl
  | cons a rest ih =>
    by_cases holds : p a
    · simp [holds, ih]
    · simp [holds, ih]

/-- The findings of a pass are its links, each with its score and its text. -/
theorem findings_eq : db.findings env params agent =
    (db.evidence env params agent).map
      (Evidence.finding params (db.collectSymbolsTouched params.orgId params.targetFiles) agent) := by
  have edits {files : List FilePath} {f : FilePath} (listed : f ∈ files) :
      (f, agent.id) ∈ db.getFileToAgentsIndex env params.orgId files params.agentId fileActivityWindowMinutes ↔
        db.editedBy env params agent f := by
    rw [mem_getFileToAgentsIndex, and_iff_right listed]
  have flights {files : List FilePath} {f : FilePath} (listed : f ∈ files) :
      (f, agent.id) ∈ db.getWorkingIndex env params.orgId files params.agentId ↔ db.inFlightBy env params agent f := by
    rw [mem_getWorkingIndex, and_iff_right listed]
  simp only [findings, evidence, List.map_append, List.map_flatMap, List.append_assoc]
  refine congrArg₂ _ (List.flatMap_congr fun t _ => ?_) (congrArg₂ _ (List.flatMap_congr fun f target => ?_)
    (congrArg₂ _ (List.flatMap_congr fun f depends => ?_) (congrArg₂ _ ?_ (List.flatMap_congr fun f _ => ?_))))
  · simp only [layer0, unless_empty, layer0Evidence, List.map_append, apply_ite (List.map _), List.map_nil, List.map_cons]
    rfl
  · simp only [layer1, layer1Evidence, List.map_append, apply_ite (List.map _), List.map_nil, List.map_cons,
      edits (List.mem_append_left _ target), flights (List.mem_append_left _ target)]
    rfl
  · simp only [layer2, layer2Evidence, apply_ite (List.map _), List.map_nil, List.map_cons,
      edits (List.mem_append_right _ depends)]
    rfl
  · rw [layer3, unless_empty]
    change (if moduleLink params agent then _ else _) = _
    cases moduleLink params agent with
    | true => rfl
    | false => rfl
  · rw [layer4, filterMap_ite, layer4Evidence, List.map_map]
    rfl

theorem scores_findings_iff {n : Nat} :
    Scores (db.findings env params agent) n ↔ ∃ e ∈ db.evidence env params agent, e.score = n := by
  rw [findings_eq, Scores]
  simp only [List.mem_map]
  constructor
  · rintro ⟨_, ⟨e, member, rfl⟩, score⟩
    exact ⟨e, member, score⟩
  · rintro ⟨e, member, score⟩
    exact ⟨_, ⟨e, member, rfl⟩, score⟩

/-- Links from the given loop on, in the order of the loops. -/
structure StagedFrom (n : Nat) (links : List Evidence) : Prop where
  order : links.Pairwise fun e e' => e.stage ≤ e'.stage
  from_stage : ∀ e ∈ links, n ≤ e.stage

theorem StagedFrom.of_level {n : Nat} {links : List Evidence} (level : ∀ e ∈ links, e.stage = n) :
    StagedFrom n links where
  order := List.pairwise_of_forall_mem_list fun e member e' member' => by rw [level e member, level e' member']
  from_stage e member := (level e member).ge

theorem StagedFrom.append {n : Nat} {links later : List Evidence} (level : ∀ e ∈ links, e.stage = n)
    (staged : StagedFrom (n + 1) later) : StagedFrom n (links ++ later) where
  order := by
    refine List.pairwise_append.mpr ⟨(of_level level).order, staged.order, ?_⟩
    intro e member e' member'
    have first := level e member
    have second := staged.from_stage e' member'
    omega
  from_stage e member := by
    rcases List.mem_append.mp member with now | next
    · exact (level e now).ge
    · exact (Nat.le_succ n).trans (staged.from_stage e next)

/-- The loops run one after another. -/
theorem evidence_staged : StagedFrom 0 (db.evidence env params agent) := by
  refine .append ?_ (.append ?_ (.append ?_ (.append ?_ (.of_level ?_))))
  · intro e member
    obtain ⟨t, -, atThread⟩ := List.mem_flatMap.mp member
    simp only [layer0Evidence, List.mem_append, List.mem_ite_nil_right, List.mem_singleton] at atThread
    rcases atThread with (⟨-, rfl⟩ | ⟨-, rfl⟩) | ⟨-, rfl⟩ <;> rfl
  · intro e member
    obtain ⟨f, -, atFile⟩ := List.mem_flatMap.mp member
    simp only [layer1Evidence, List.mem_append, List.mem_ite_nil_right, List.mem_singleton] at atFile
    rcases atFile with ⟨-, rfl⟩ | ⟨-, rfl⟩ <;> rfl
  · intro e member
    obtain ⟨f, -, atFile⟩ := List.mem_flatMap.mp member
    simp only [layer2Evidence, List.mem_ite_nil_right, List.mem_singleton] at atFile
    rw [atFile.2]
    rfl
  · intro e member
    simp only [List.mem_ite_nil_right, List.mem_singleton] at member
    rw [member.2]
    rfl
  · intro e member
    obtain ⟨f, -, atFile⟩ := List.mem_flatMap.mp member
    obtain ⟨c, -, rfl⟩ := List.mem_map.mp atFile
    rfl

section Conditions
variable (env : Env) (params : ScoreParams) (agent : Agent) (db : Db)

/-- A target file the agent has edited recently, with disjoint symbols declared. -/
def Annotated : Prop :=
  ∃ f ∈ params.targetFiles, db.editedBy env params agent f ∧
    disjointSymbols params (db.collectSymbolsTouched params.orgId params.targetFiles) f agent.id

def CochangeFires (targetFile : FilePath) (c : CochangeCandidate) : Prop :=
  targetFile ∈ params.targetFiles ∧ c ∈ db.layer4Candidates params.orgId targetFile ∧
    s!"{c.partner}|{agent.id}" ∈ db.layer4PartnerActivity env params.orgId params.targetFiles

/-- The first link is one of the highest, and no file or module name in its text
is taken for the phrase of another layer. -/
def LeadsRightly (e : Evidence) : Prop :=
  let text := db.reasonOf params agent e
  match e with
  | .announced _ => Layer.l0.ReadsFrom text ∨ db.Annotated env params agent
  | .modifies _ | .dependent _ => Layer.l0.ReadsFrom text ∧ ¬ db.sameFileLink env params agent
  | .edited _ | .inFlight _ => Layer.l1.ReadsFrom text ∨ Layer.l05.namedIn text ∧ db.Annotated env params agent
  | .depends _ => Layer.l2.ReadsFrom text
  | .modules => Layer.l3.ReadsFrom text ∧ ∀ f c, ¬ db.CochangeFires env params agent f c
  | .cochange _ _ => Layer.l4.ReadsFrom text ∧
    ∃ f c, db.CochangeFires env params agent f c ∧ db.reasonOf params agent (.cochange f c) = text ∧
      ∀ f' c', db.CochangeFires env params agent f' c' → c'.score ≤ c.score

/-- The `reason` of a scored agent, and the layer it is logged under, are of links that give its score. -/
def PrimaryReason : Prop :=
  let s := db.scoreAgent env params agent
  0 < s.score →
    (∃ e ∈ db.evidence env params agent, db.reasonOf params agent e = s.reason ∧ e.score = s.score) ∧
      ∃ e ∈ db.evidence env params agent,
        (db.layerOf params agent e).text = inferLayerFromReasons s.reasons ∧ e.score = s.score

end Conditions

theorem mem_evidence_edited {f : FilePath} :
    .edited f ∈ db.evidence env params agent ↔ f ∈ params.targetFiles ∧ db.editedBy env params agent f := by
  simp [evidence, layer0Evidence, layer1Evidence, layer2Evidence, layer4Evidence]

theorem mem_evidence_cochange {f : FilePath} {c : CochangeCandidate} :
    .cochange f c ∈ db.evidence env params agent ↔ db.CochangeFires env params agent f c := by
  simp [evidence, layer0Evidence, layer1Evidence, layer2Evidence, layer4Evidence, CochangeFires]

theorem evidence_score {e : Evidence} (member : e ∈ db.evidence env params agent) :
    e.score = 100 ∧ e.stage ≤ 1 ∨ e.score = 80 ∧ e.stage ≤ 2 ∨ e.score = 30 ∧ e.stage = 3 ∨
      (e.score = 60 ∨ e.score = 40) ∧ e.stage = 4 := by
  cases e with
  | cochange f c =>
    have score := layer4Candidates_score (mem_evidence_cochange.mp member).2.1
    exact .inr (.inr (.inr ⟨score, rfl⟩))
  | _ => simp [Evidence.score, Evidence.stage]

theorem sameFileLink_iff : db.sameFileLink env params agent ↔ ∃ e ∈ db.evidence env params agent, e.score = 100 := by
  rw [← scores_findings_iff, scores_findings]
  constructor
  · exact fun link => .inl ⟨link, rfl⟩
  · rintro (⟨link, -⟩ | ⟨-, wrong⟩ | ⟨-, wrong⟩ | ⟨c, candidate, -, score⟩)
    · exact link
    · omega
    · omega
    · obtain ⟨f, -, atFile⟩ := List.mem_flatMap.mp candidate
      rcases layer4Candidates_score atFile with sixty | forty <;> omega

/-- What the scorer and the log make of the links, given the first of them. -/
structure Led (env : Env) (params : ScoreParams) (agent : Agent) (db : Db) (e : Evidence) (best : Nat)
    (inferred : String) : Prop where
  first : e ∈ db.evidence env params agent
  before : ∀ e' ∈ db.evidence env params agent, e.stage ≤ e'.stage
  bound : ∀ e' ∈ db.evidence env params agent, e'.score ≤ best
  attained : ∃ e' ∈ db.evidence env params agent, e'.score = best
  filed : ∀ layer : Layer,
    layer.namedIn (db.reasonOf params agent e) →
      (inferred = layer.text ↔
        layer.ReadsFrom (db.reasonOf params agent e))

theorem score_le_of_evidence {e : Evidence} (member : e ∈ db.evidence env params agent) :
    e.score ≤ (db.scoreAgent env params agent).score :=
  scoreAgent_le.mp le_rfl e.score (scores_findings_iff.mpr ⟨e, member, rfl⟩)

/-- Where there is evidence at all, some of it has the score. -/
theorem exists_best {e : Evidence} (member : e ∈ db.evidence env params agent) :
    ∃ e' ∈ db.evidence env params agent, e'.score = (db.scoreAgent env params agent).score := by
  by_contra missed
  have below : (db.scoreAgent env params agent).score ≤ (db.scoreAgent env params agent).score - 1 := by
    refine scoreAgent_le.mpr fun n fires => ?_
    obtain ⟨e', fired, rfl⟩ := scores_findings_iff.mp fires
    have other : e'.score ≠ (db.scoreAgent env params agent).score := fun same => missed ⟨e', fired, same⟩
    have bound := score_le_of_evidence fired
    omega
  have positive := score_le_of_evidence member
  have scored := evidence_score member
  omega

theorem reasonOf_ne_empty (e : Evidence) : db.reasonOf params agent e ≠ "" := by
  intro empty
  have opens : (db.reasonOf params agent e).toList.head? = some e.initial := Evidence.reason_opens ..
  rw [empty] at opens
  cases opens

theorem led_of_links {e : Evidence} {rest : List Evidence} (links : db.evidence env params agent = e :: rest) :
    db.Led env params agent e (db.scoreAgent env params agent).score
      (inferLayerFromReasons (db.scoreAgent env params agent).reasons) ∧
    (db.scoreAgent env params agent).reason =
      db.reasonOf params agent e := by
  have reasons : (db.scoreAgent env params agent).reasons =
      (e :: rest).map (db.reasonOf params agent) := by
    rw [scoreAgent, findings_eq, links, List.map_map]
    rfl
  have first : e ∈ db.evidence env params agent := links ▸ List.mem_cons_self
  have bound : ∀ e' ∈ db.evidence env params agent, e'.score ≤ (db.scoreAgent env params agent).score :=
    fun e' member => score_le_of_evidence member
  refine ⟨⟨first, ?_, bound, ?_, ?_⟩, ?_⟩
  · have order := (evidence_staged : StagedFrom 0 (db.evidence env params agent)).order
    rw [links, List.pairwise_cons] at order
    intro e' member
    rw [links, List.mem_cons] at member
    rcases member with rfl | later
    · exact le_rfl
    · exact order.1 e' later
  · exact exists_best first
  · intro layer own
    rw [reasons]
    exact inferLayerFromReasons_eq_iff own
  · have head : (db.scoreAgent env params agent).reason =
        (orNull (db.scoreAgent env params agent).reasons.head?).getD "no link detected" := rfl
    have nonempty : db.reasonOf params agent e ≠ "" := reasonOf_ne_empty e
    rw [head, reasons, List.map_cons, List.head?_cons, orNull, Option.filter_some]
    simp [nonempty]

theorem annotated_iff : db.Annotated env params agent ↔ ∃ e ∈ db.evidence env params agent,
    db.layerOf params agent e = .l05 := by
  constructor
  · rintro ⟨f, target, edited, declared⟩
    exact ⟨.edited f, mem_evidence_edited.mpr ⟨target, edited⟩, if_pos declared⟩
  · rintro ⟨e, member, layer⟩
    cases e with
    | edited f =>
      rw [layerOf, Evidence.layer, ite_eq_left_iff] at layer
      obtain ⟨target, edited⟩ := mem_evidence_edited.mp member
      exact ⟨f, target, edited, by_contra fun undeclared => absurd (layer undeclared) (by decide)⟩
    | _ => cases layer

namespace Led
variable {e : Evidence} {best : Nat} {inferred : String}

/-- Both halves of the claim about one agent, for its first link. -/
def Right (env : Env) (params : ScoreParams) (agent : Agent) (db : Db) (e : Evidence) (best : Nat)
    (inferred : String) : Prop :=
  (∃ e' ∈ db.evidence env params agent,
    db.reasonOf params agent e' =
      db.reasonOf params agent e ∧ e'.score = best) ∧
  ∃ e' ∈ db.evidence env params agent,
    (db.layerOf params agent e').text = inferred ∧ e'.score = best

theorem text_injective {a b : Layer} (same : a.text = b.text) : a = b := by
  cases a <;> cases b <;> first | rfl | exact absurd same (by decide)

/-- A text with the phrase of annotated edits is filed under them. -/
theorem annotated (led : db.Led env params agent e best inferred)
    (named : Layer.l05.namedIn (db.reasonOf params agent e)) :
    inferred = Layer.l05.text := (led.filed .l05 named).mpr (by simp [Layer.ReadsFrom, Layer.earlier])

/-- A link filed as it is named is read from its text. -/
theorem own_layer (led : db.Led env params agent e best inferred) :
    inferred = (db.layerOf params agent e).text ↔
      (db.layerOf params agent e).ReadsFrom
        (db.reasonOf params agent e) :=
  led.filed _ (Evidence.namedIn_reason e)

theorem right_of_top (led : db.Led env params agent e best inferred) (top : e.score = best)
    (reads : (db.layerOf params agent e).ReadsFrom
      (db.reasonOf params agent e)) :
    Right env params agent db e best inferred :=
  ⟨⟨e, led.first, rfl, top⟩, e, led.first, (led.own_layer.mpr reads).symm, top⟩

/-- An annotated edit of the same score makes up for a text that is taken for one. -/
theorem right_of_annotated (led : db.Led env params agent e best inferred) (top : e.score = best) (hundred : best = 100)
    (named : Layer.l05.namedIn (db.reasonOf params agent e))
    (made : db.Annotated env params agent) : Right env params agent db e best inferred := by
  obtain ⟨f, target, edited, declared⟩ := made
  refine ⟨⟨e, led.first, rfl, top⟩, .edited f, mem_evidence_edited.mpr ⟨target, edited⟩, ?_, hundred.symm⟩
  rw [layerOf, Evidence.layer, if_pos declared, led.annotated named]

theorem announced_iff {t : Thread} (led : db.Led env params agent (.announced t) best inferred) :
    Right env params agent db (.announced t) best inferred ↔ db.LeadsRightly env params agent (.announced t) := by
  have hundred : best = 100 := by
    obtain ⟨e', member, score⟩ := led.attained
    have scored := evidence_score member
    have low : 100 ≤ best := led.bound _ led.first
    omega
  rw [LeadsRightly]
  by_cases reads : Layer.l0.ReadsFrom (db.reasonOf params agent (Evidence.announced t))
  · exact ⟨fun _ => .inl reads, fun _ => led.right_of_top hundred.symm reads⟩
  · have named : Layer.l05.namedIn (db.reasonOf params agent (Evidence.announced t)) := by
      simpa [Layer.ReadsFrom, Layer.earlier] using reads
    constructor
    · rintro ⟨-, e', member, layer, -⟩
      rw [led.annotated named] at layer
      exact .inr (annotated_iff.mpr ⟨e', member, text_injective layer⟩)
    · rintro (absurdity | made)
      · exact absurd absurdity reads
      · exact led.right_of_annotated hundred.symm hundred named made

theorem score_of_l05 {e : Evidence} (layer : db.layerOf params agent e = .l05) : e.score = 100 := by
  cases e with
  | edited f => rfl
  | _ => cases layer

theorem stage_of_l0 {e : Evidence} (layer : db.layerOf params agent e = .l0) : e.stage = 0 := by
  cases e with
  | announced | modifies | dependent => rfl
  | edited f =>
    rw [layerOf, Evidence.layer] at layer
    split at layer
    · cases layer
    · cases layer
  | _ => cases layer

theorem thread_iff (led : db.Led env params agent e best inferred) (eighty : e.score = 80)
    (layer : db.layerOf params agent e = .l0) (opens : e.initial ≠ 'a' ∧ e.initial ≠ 's') :
    Right env params agent db e best inferred ↔
      Layer.l0.ReadsFrom (db.reasonOf params agent e) ∧ ¬ db.sameFileLink env params agent := by
  have low : 80 ≤ best := eighty ▸ led.bound e led.first
  constructor
  · rintro ⟨⟨e', member', text, score'⟩, e'', member'', layer'', score''⟩
    have unlinked : ¬ db.sameFileLink env params agent := by
      intro link
      obtain ⟨x, member, hundred⟩ := sameFileLink_iff.mp link
      have top := led.bound x member
      have scored := evidence_score member'
      have same := Evidence.initial_eq text
      cases e' with
      | announced => exact opens.1 same.symm
      | edited | inFlight => exact opens.2 same.symm
      | _ =>
        simp only [Evidence.score, Evidence.stage] at score' scored
        omega
    refine ⟨?_, unlinked⟩
    by_contra misread
    have named : Layer.l05.namedIn (db.reasonOf params agent e) := by
      simpa [Layer.ReadsFrom, Layer.earlier] using misread
    rw [led.annotated named] at layer''
    exact unlinked (sameFileLink_iff.mpr ⟨e'', member'', score_of_l05 (text_injective layer'')⟩)
  · rintro ⟨reads, unlinked⟩
    obtain ⟨x, member, score⟩ := led.attained
    have below : x.score ≠ 100 := fun hundred => unlinked (sameFileLink_iff.mpr ⟨x, member, hundred⟩)
    have scored := evidence_score member
    exact led.right_of_top (by omega) (layer ▸ reads)

theorem file_iff (led : db.Led env params agent e best inferred) (hundred : e.score = 100) (stage : e.stage = 1)
    (layer : db.layerOf params agent e = .l05 ∨ db.layerOf params agent e = .l1) :
    Right env params agent db e best inferred ↔
      Layer.l1.ReadsFrom (db.reasonOf params agent e) ∨
        Layer.l05.namedIn (db.reasonOf params agent e) ∧ db.Annotated env params agent := by
  have top : best = 100 := by
    obtain ⟨x, member, score⟩ := led.attained
    have scored := evidence_score member
    have low := led.bound e led.first
    omega
  have own : (db.layerOf params agent e).namedIn (db.reasonOf params agent e) := Evidence.namedIn_reason e
  by_cases named : Layer.l05.namedIn (db.reasonOf params agent e)
  · constructor
    · rintro ⟨-, x, member, filed, -⟩
      rw [led.annotated named] at filed
      exact .inr ⟨named, annotated_iff.mpr ⟨x, member, text_injective filed⟩⟩
    · rintro (reads | ⟨-, made⟩)
      · exact absurd named (reads .l05 (by simp [Layer.earlier]))
      · exact led.right_of_annotated (hundred.trans top.symm) top named made
  · have plain : db.layerOf params agent e = .l1 := layer.resolve_left fun other => named (other ▸ own)
    constructor
    · rintro ⟨-, x, member, filed, -⟩
      refine .inl ?_
      by_contra misread
      have zero : Layer.l0.namedIn (db.reasonOf params agent e) := by
        simpa [Layer.ReadsFrom, Layer.earlier, named] using misread
      have inferred : inferred = Layer.l0.text :=
        (led.filed .l0 zero).mpr (by simpa [Layer.ReadsFrom, Layer.earlier] using named)
      rw [inferred] at filed
      have early := stage_of_l0 (text_injective filed)
      have late := led.before x member
      omega
    · rintro (reads | ⟨absurdity, -⟩)
      · exact led.right_of_top (hundred.trans top.symm) (plain ▸ reads)
      · exact absurd absurdity named

theorem depends_iff {f : FilePath} (led : db.Led env params agent (.depends f) best inferred) :
    Right env params agent db (.depends f) best inferred ↔ db.LeadsRightly env params agent (.depends f) := by
  have late : ∀ x ∈ db.evidence env params agent, 2 ≤ x.stage := led.before
  have top : 80 = best := by
    obtain ⟨x, member, score⟩ := led.attained
    have scored := evidence_score member
    have stage := late x member
    have low : 80 ≤ best := led.bound _ led.first
    omega
  constructor
  · rintro ⟨-, x, member, filed, score⟩
    have layer : db.layerOf params agent x = .l2 := by
      have stage := late x member
      have scored := evidence_score member
      cases x with
      | depends => rfl
      | _ =>
        simp only [Evidence.score, Evidence.stage] at stage score scored
        omega
    exact led.own_layer.mp (filed.symm.trans (congrArg Layer.text layer))
  · exact fun reads => led.right_of_top top reads

theorem cochange_of_stage {x : Evidence} (stage : x.stage = 4) : ∃ f c, x = .cochange f c := by
  cases x with
  | cochange f c => exact ⟨f, c, rfl⟩
  | _ => cases stage

theorem modules_iff (led : db.Led env params agent .modules best inferred) :
    Right env params agent db .modules best inferred ↔ db.LeadsRightly env params agent .modules := by
  have late : ∀ x ∈ db.evidence env params agent, 3 ≤ x.stage := led.before
  constructor
  · rintro ⟨⟨x, member, text, score⟩, x', member', filed, score'⟩
    have silent : ∀ f c, ¬ db.CochangeFires env params agent f c := by
      intro f c fires
      have low := led.bound _ (mem_evidence_cochange.mpr fires)
      have sixty := layer4Candidates_score fires.2.1
      have scored := evidence_score member
      have stage := late x member
      simp only [Evidence.score] at low
      obtain ⟨f', c', rfl⟩ := cochange_of_stage (by omega : x.stage = 4)
      have same := Evidence.initial_eq text
      simp [Evidence.initial] at same
    refine ⟨?_, silent⟩
    have layer : db.layerOf params agent x' = .l3 := by
      have stage := late x' member'
      cases x' with
      | modules => rfl
      | cochange f c => exact absurd (mem_evidence_cochange.mp member') (silent f c)
      | _ =>
        simp only [Evidence.stage] at stage
        omega
    exact led.own_layer.mp (filed.symm.trans (congrArg Layer.text layer))
  · rintro ⟨reads, silent⟩
    have top : 30 = best := by
      obtain ⟨x, member, score⟩ := led.attained
      have scored := evidence_score member
      have stage := late x member
      by_cases last : x.stage = 4
      · obtain ⟨f, c, rfl⟩ := cochange_of_stage last
        exact absurd (mem_evidence_cochange.mp member) (silent f c)
      · omega
    exact led.right_of_top top reads

theorem cochange_iff {f : FilePath} {c : CochangeCandidate}
    (led : db.Led env params agent (.cochange f c) best inferred) :
    Right env params agent db (.cochange f c) best inferred ↔ db.LeadsRightly env params agent (.cochange f c) := by
  have last : ∀ x ∈ db.evidence env params agent, ∃ f c, x = .cochange f c ∧ db.CochangeFires env params agent f c := by
    intro x member
    have stage : 4 ≤ x.stage := led.before x member
    have scored := evidence_score member
    obtain ⟨f', c', rfl⟩ := cochange_of_stage (by omega : x.stage = 4)
    exact ⟨f', c', rfl, mem_evidence_cochange.mp member⟩
  constructor
  · rintro ⟨⟨x, member, text, score⟩, x', member', filed, -⟩
    obtain ⟨f₁, c₁, rfl, fires⟩ := last x member
    obtain ⟨f₂, c₂, rfl, -⟩ := last x' member'
    refine ⟨led.own_layer.mp filed.symm, f₁, c₁, fires, text, ?_⟩
    intro f' c' fires'
    have bound := led.bound _ (mem_evidence_cochange.mpr fires')
    rw [← score] at bound
    exact bound
  · rintro ⟨reads, f₁, c₁, fires, text, greatest⟩
    have member := mem_evidence_cochange.mpr fires
    have top : c₁.score = best := by
      obtain ⟨x, member', score⟩ := led.attained
      obtain ⟨f₂, c₂, rfl, fires'⟩ := last x member'
      exact Nat.le_antisymm (led.bound _ member) (score ▸ greatest f₂ c₂ fires')
    exact ⟨⟨_, member, text, top⟩, _, member, (led.own_layer.mpr reads).symm, top⟩

theorem right_iff (led : db.Led env params agent e best inferred) :
    Right env params agent db e best inferred ↔ db.LeadsRightly env params agent e := by
  cases e with
  | announced t => exact led.announced_iff
  | modifies t => exact led.thread_iff rfl rfl (by simp [Evidence.initial])
  | dependent t => exact led.thread_iff rfl rfl (by simp [Evidence.initial])
  | edited f =>
    refine led.file_iff rfl rfl ?_
    rw [layerOf, Evidence.layer]
    split
    · exact .inl rfl
    · exact .inr rfl
  | inFlight f => exact led.file_iff rfl rfl (.inr rfl)
  | depends f => exact led.depends_iff
  | modules => exact led.modules_iff
  | cochange f c => exact led.cochange_iff

end Led

/-- The reason is that of a highest link, and the log's layer that of one,
exactly when the first link of an agent leads rightly. -/
theorem primaryReason_iff (env : Env) (params : ScoreParams) (agent : Agent) (db : Db) :
    db.PrimaryReason env params agent ↔
      ∀ e ∈ (db.evidence env params agent).head?, db.LeadsRightly env params agent e := by
  cases links : db.evidence env params agent with
  | nil =>
    have silent : (db.scoreAgent env params agent).score = 0 := by
      rw [scoreAgent, findings_eq, links]
      rfl
    simp [PrimaryReason, silent]
  | cons e rest =>
    obtain ⟨led, reason⟩ := led_of_links links
    have positive : 0 < (db.scoreAgent env params agent).score := by
      have low := led.bound e led.first
      have scored := evidence_score led.first
      omega
    simp only [PrimaryReason, positive, reason, forall_true_left, List.head?_cons, Option.mem_some_iff, forall_eq']
    exact led.right_iff

/-- Every peer a pass scores has such a reason and layer. -/
def PrimaryReasons : Prop :=
  ∀ (env : Env) (params : ScoreParams) (db : Db), ∀ agent ∈ db.otherOnline env params.orgId params.agentId,
    db.PrimaryReason env params agent

/-- Bob has announced work that depends on `t.ts`, and is editing it. -/
def midEdit : Db :=
  (team [("ada", []), ("bob", [])]).after
    [(.drawing "t1", .announceWork "acme" { AnnounceParams.ofFiles "bob" [] true with dependsOnFiles := some ["t.ts"] }),
      (.drawing "w1", .startWorking "acme" "bob" "t.ts" 10)]

/-- Bob is scored 100 for the edit in flight, and the reason given is the dependency. -/
theorem not_primaryReasons : ¬ PrimaryReasons := by
  intro primary
  have reasons := primary minuteIn editing midEdit
  have outscored : ¬ ∀ agent ∈ midEdit.otherOnline minuteIn "acme" "ada",
      ∃ e ∈ midEdit.evidence minuteIn editing agent,
        midEdit.reasonOf editing agent e = (midEdit.scoreAgent minuteIn editing agent).reason ∧
          e.score = (midEdit.scoreAgent minuteIn editing agent).score := by decide +kernel
  have positive : ∀ agent ∈ midEdit.otherOnline minuteIn "acme" "ada",
      0 < (midEdit.scoreAgent minuteIn editing agent).score := by decide +kernel
  exact outscored fun agent online => (reasons agent online (positive agent online)).1

end Db

end Coordinator
