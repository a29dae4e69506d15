import Coordinator.Library.Unwinding
import Coordinator.TenantOperations

namespace Coordinator

/-- The operations that insert a thread. -/
def Operation.announces : Operation → Bool
  | .announce .. | .announceTool .. => true
  | _ => false

/-- The operations that never send an event. -/
def Operation.silent : Operation → Bool
  | .fileActivity .. | .startWorking .. | .stopWorking .. | .setMap .. | .unclaimTask .. => true
  | _ => false

/-- No online peer of the announcing agent scores 30 or more, so that the announcement logs no firing. -/
def Db.NobodyScored (flowEnv : Env) (orgId : OrgId) (body : AnnounceBody) (db : Db) : Prop :=
  ∀ peer ∈ db.otherOnline flowEnv orgId body.agentId,
    (db.scoreAgent flowEnv (body.flowParams orgId).scoreParams peer).score < 30

instance (flowEnv : Env) (orgId : OrgId) (body : AnnounceBody) (db : Db) :
    Decidable (db.NobodyScored flowEnv orgId body) := inferInstanceAs (Decidable (∀ peer ∈ _, _))

/-- An operation under which no layer fires. -/
def Db.FiresNothing (orgId : OrgId) (db : Db) : Operation → Prop
  | .announce flowEnv _ body => db.NobodyScored flowEnv orgId body
  | .announceTool flowEnv body => db.NobodyScored flowEnv orgId body
  | _ => True

instance (orgId : OrgId) (db : Db) (op : Operation) : Decidable (db.FiresNothing orgId op) :=
  match op with
  | .announce flowEnv _ body => inferInstanceAs (Decidable (db.NobodyScored flowEnv orgId body))
  | .announceTool flowEnv body => inferInstanceAs (Decidable (db.NobodyScored flowEnv orgId body))
  | .register .. | .sessionStop .. | .processDeparture .. | .heartbeat .. | .logFile .. | .fileActivity .. | .startWorking ..
  | .stopWorking .. | .setMap .. | .postToThread .. | .proposeResolution .. | .approveResolution ..
  | .contestResolution .. | .closeThread .. | .cancelThread .. | .claimTask .. | .unclaimTask ..
  | .introspectionResponse .. => .isTrue trivial

/-- Two served operations the org cannot tell apart. -/
structure Served.Agrees (A : OrgId) (stats : Prop) (s s' : Served) : Prop where
  alike : Db.Alike A stats s.db s'.db
  reply : s.reply = s'.reply
  events : s.events = s'.events
  stamp : s.stamp = s'.stamp

namespace Db

section Scores

theorem foldl_score_lt {found : List Finding} {start bound : Nat} :
    found.foldl (fun best f => max best f.score) start < bound ↔ start < bound ∧ ∀ f ∈ found, f.score < bound := by
  induction found generalizing start with
  | nil => simp
  | cons f rest ih =>
    rw [List.foldl_cons, ih, max_lt_iff, and_assoc]
    simp only [List.mem_cons, forall_eq_or_imp]

theorem scoreAgent_lt {env : Env} {params : ScoreParams} {db : Db} {agent : Agent} :
    (db.scoreAgent env params agent).score < 30 ↔ ∀ f ∈ db.findings env params agent, f.score < 30 := by
  simp only [scoreAgent, foldl_score_lt]
  exact ⟨fun both => both.2, fun low => ⟨by decide, low⟩⟩

/-- The tables the scorer reads about the peers of an agent are the same. -/
structure SamePeers (agentId : AgentId) (db later : Db) : Prop where
  agents : later.agents = db.agents
  files : later.fileActivity = db.fileActivity
  working : later.workingFiles = db.workingFiles
  cochange : later.gitCochange = db.gitCochange
  threads : ∀ t ∈ later.threads.rows, t.initiatorId ≠ agentId → t ∈ db.threads.rows

variable {db later : Db}

theorem SamePeers.trans {agentId : AgentId} {last : Db} (first : SamePeers agentId db later)
    (second : SamePeers agentId later last) : SamePeers agentId db last :=
  ⟨second.agents.trans first.agents, second.files.trans first.files, second.working.trans first.working,
    second.cochange.trans first.cochange, fun t member other => first.threads t (second.threads t member other) other⟩

theorem findings_samePeers {env : Env} {params : ScoreParams} {agent : Agent} (same : SamePeers params.agentId db later)
    (other : agent.id ≠ params.agentId) {f : Finding} (found : f ∈ later.findings env params agent) :
    f ∈ db.findings env params agent := by
  have index : ∀ filePaths, later.getFileToAgentsIndex env params.orgId filePaths params.agentId fileActivityWindowMinutes =
      db.getFileToAgentsIndex env params.orgId filePaths params.agentId fileActivityWindowMinutes := by
    intro filePaths
    simp only [getFileToAgentsIndex, same.files]
  have working : ∀ filePaths, later.getWorkingIndex env params.orgId filePaths params.agentId =
      db.getWorkingIndex env params.orgId filePaths params.agentId := by
    intro filePaths
    simp only [getWorkingIndex, same.working]
  have symbols : later.collectSymbolsTouched params.orgId = db.collectSymbolsTouched params.orgId := by
    funext files
    simp only [collectSymbolsTouched, same.files]
  have candidates : later.layer4Candidates params.orgId = db.layer4Candidates params.orgId := by
    funext targetFile
    simp only [layer4Candidates, same.cochange]
  have partners : later.layer4PartnerActivity env params.orgId params.targetFiles =
      db.layer4PartnerActivity env params.orgId params.targetFiles := by
    simp only [layer4PartnerActivity, candidates, same.files]
  have listed : ∀ t : Thread, t ∈ later.announcedThreads env params.orgId layer0WindowMinutes none → t.initiatorId = agent.id →
      t ∈ db.announcedThreads env params.orgId layer0WindowMinutes none := by
    intro t member author
    have kept : t ∈ later.threads.rows → t ∈ db.threads.rows := fun row => same.threads t row (author ▸ other)
    simp only [announcedThreads, listThreads, List.mem_append, List.mem_insertionSort, List.mem_filter] at member ⊢
    rcases member with (⟨row, test⟩ | ⟨row, test⟩) | ⟨row, test⟩
    · exact .inl (.inl ⟨kept row, test⟩)
    · exact .inl (.inr ⟨kept row, test⟩)
    · exact .inr ⟨kept row, test⟩
  simp only [findings, index, working, symbols, partners, candidates, List.append_assoc] at found ⊢
  rw [List.mem_append] at found ⊢
  rcases found with announced | rest
  · left
    obtain ⟨t, member, fires⟩ := List.mem_flatMap.mp announced
    obtain ⟨inList, author⟩ := List.mem_filter.mp member
    exact List.mem_flatMap.mpr ⟨t, List.mem_filter.mpr ⟨listed t inList (of_decide_eq_true author), author⟩, fires⟩
  · exact .inr rest

/-- Nobody scored before means nothing logged after. -/
theorem announceFirings_nil {flowEnv : Env} {orgId : OrgId} {body : AnnounceBody} (same : SamePeers body.agentId db later)
    (nobody : db.NobodyScored flowEnv orgId body) (k : ThreadId) :
    later.announceFirings flowEnv k (body.flowParams orgId) = [] := by
  have low : ∀ s ∈ (later.heartbeat flowEnv orgId body.agentId).score flowEnv (body.flowParams orgId).scoreParams,
      s.score < 30 := by
    intro s member
    obtain ⟨peer, online, rfl⟩ := List.mem_map.mp member
    have awake : peer ∈ later.otherOnline flowEnv orgId body.agentId := mem_otherOnline_heartbeat.mp online
    obtain ⟨-, -, -, -, other⟩ := mem_otherOnline.mp awake
    have before := nobody peer (by rw [mem_otherOnline, ← same.agents, ← mem_otherOnline]; exact awake)
    -- the heartbeat touches no table the scorer reads
    change (later.scoreAgent flowEnv (body.flowParams orgId).scoreParams peer).score < 30
    rw [scoreAgent_lt] at before ⊢
    exact fun f found => before f (findings_samePeers same other found)
  have concerned : (later.flowImpact flowEnv (body.flowParams orgId)).concerned = [] :=
    List.filter_eq_nil_iff.mpr fun s member high => absurd (low s member) (by have := of_decide_eq_true high; omega)
  have grayZone : (later.flowImpact flowEnv (body.flowParams orgId)).grayZone = [] :=
    List.filter_eq_nil_iff.mpr fun s member high => absurd (low s member) (by have := of_decide_eq_true high; omega)
  rw [announceFirings, concerned, grayZone]
  rfl

end Scores

variable {A o : OrgId} {stats : Prop} {db db' : Db}

namespace Alike

/-! The activity table. -/

section Activity
variable {activity activity' : List AgentActivity}

theorem activityOf (agentId : AgentId) : activity.find? (AgentActivity.isOf A agentId) =
    (ownedBy AgentActivity.orgId A activity).find? fun r => r.agentId = agentId := find?_scoped _

theorem getActivity (alike : Alike A stats db db')
    (rows : ownedBy AgentActivity.orgId A activity = ownedBy AgentActivity.orgId A activity') (env : Env)
    (agentId : AgentId) (idleAfterMinutes : Option Nat) :
    db.getActivity env A agentId idleAfterMinutes activity = db'.getActivity env A agentId idleAfterMinutes activity' := by
  simp only [Db.getActivity, alike.getAgent, activityOf, rows]

theorem put_congr (rows : ownedBy AgentActivity.orgId A activity = ownedBy AgentActivity.orgId A activity')
    {row : AgentActivity} (own : row.orgId = A) :
    ownedBy AgentActivity.orgId A (row.put activity) = ownedBy AgentActivity.orgId A (row.put activity') :=
  ownedBy_upsert_congr (fun _ same => (of_decide_eq_true same).1) own rows

theorem put_foreign {row : AgentActivity} (apart : row.orgId ≠ A) :
    ownedBy AgentActivity.orgId A (row.put activity) = ownedBy AgentActivity.orgId A activity :=
  ownedBy_upsert_foreign (fun _ same => (of_decide_eq_true same).1) apart

theorem cleared_org (orgId : OrgId) (agentId : AgentId) (r : AgentActivity) :
    (if r.isOf orgId agentId then r.clear else r).orgId = r.orgId := by
  split
  · rfl
  · rfl

theorem track (alike : Alike A stats db db')
    (rows : ownedBy AgentActivity.orgId A activity = ownedBy AgentActivity.orgId A activity') (env : Env)
    (op : Operation) :
    ownedBy AgentActivity.orgId A (db.track env A activity op) =
      ownedBy AgentActivity.orgId A (db'.track env A activity' op) := by
  cases op with
  | sessionStop agentId =>
    simp only [Db.track, AgentActivity.reportOffline, ownedBy_map (cleared_org A agentId), rows]
  | logFile agentId agentName toolName filePath =>
    simp only [Db.track, alike.registered]
    split
    · exact put_congr rows rfl
    · exact rows
  | heartbeat agentId currentFile currentThread =>
    simp only [Db.track, alike.registered]
    split
    · exact put_congr rows rfl
    · exact rows
  | _ => exact rows

theorem of_track (apart : o ≠ A) (env : Env) (op : Operation) :
    ownedBy AgentActivity.orgId A activity = ownedBy AgentActivity.orgId A (db.track env o activity op) := by
  cases op with
  | sessionStop agentId =>
    refine (ownedBy_map_foreign (cleared_org o agentId) fun r _ own => if_neg fun hit => ?_).symm
    exact apart ((of_decide_eq_true hit).1.symm.trans own)
  | logFile agentId agentName toolName filePath =>
    simp only [Db.track]
    split
    · refine (put_foreign ?_).symm
      exact apart
    · rfl
  | heartbeat agentId currentFile currentThread =>
    simp only [Db.track]
    split
    · refine (put_foreign ?_).symm
      exact apart
    · rfl
  | _ => rfl

theorem serveHeartbeat (alike : Alike A stats db db')
    (rows : ownedBy AgentActivity.orgId A activity = ownedBy AgentActivity.orgId A activity') (env : Env)
    (agentId : AgentId) (currentFile : Option FilePath) (currentThread : Option ThreadId) :
    Served.Agrees A stats (db.serveHeartbeat env A agentId currentFile currentThread activity)
      (db'.serveHeartbeat env A agentId currentFile currentThread activity') := by
  have beaten : Alike A stats (db.heartbeat env A agentId) (db'.heartbeat env A agentId) :=
    alike.setStatus .online env A agentId
  let row := AgentActivity.beat env A agentId (orNull currentFile) (orNull currentThread)
  have current := beaten.getActivity (put_congr rows (rfl : row.orgId = A)) env agentId none
  have news : row.isNews activity = row.isNews activity' := by
    have found : activity.find? (AgentActivity.isOf A agentId) = activity'.find? (AgentActivity.isOf A agentId) := by
      rw [activityOf, activityOf, rows]
    exact congrArg (Option.all _) found
  unfold Db.serveHeartbeat
  simp only [alike.registered, alike.getAgent, alike.isStale]
  split
  · refine ⟨beaten, congrArg Answer.activity current, ?_, rfl⟩
    simp only [row] at news current
    simp only [news, current]
  · exact ⟨beaten, rfl, rfl, rfl⟩

theorem of_serveHeartbeat (apart : o ≠ A) (env : Env) (agentId : AgentId) (currentFile : Option FilePath)
    (currentThread : Option ThreadId) :
    Alike A stats db (db.serveHeartbeat env o agentId currentFile currentThread activity).db := by
  unfold Db.serveHeartbeat
  simp only
  split
  · exact of_setStatus apart ..
  · exact of_setStatus apart ..

end Activity

/-! The operations as they are served. -/

theorem flowEvents (alike : Alike A stats db db') (k : ThreadId) (agentId : AgentId) (result : CommonFlowResult) :
    db.flowEvents A k agentId result = db'.flowEvents A k agentId result := by
  simp only [Db.flowEvents, alike.displayName]

theorem announced_getThread {env : Env} {params : AnnounceParams} {after : Db} {t : Thread}
    (result : db.announceWork env o params = (after, .ok t)) : (after.getThread o t.id).isSome := by
  rcases announceWork_outcome env o params db with ⟨threads, announced, found⟩ | ⟨e, failed, -⟩
  · rw [announced] at result
    cases result
    have row : ({ db with threads } : Db).getThread o (env.uuid 0) = some _ := getThread_eq_some.mpr ⟨found, rfl⟩
    exact Option.isSome_iff_exists.mpr ⟨_, row⟩
  · rw [failed] at result
    cases result

theorem setConflicts_getThread (k : ThreadId) (conflicts : List ConflictReport) (j : ThreadId) :
    ((db.setConflicts k conflicts).getThread o j).isSome = (db.getThread o j).isSome := by
  unfold Db.setConflicts
  split
  · rfl
  · simp only [Db.getThread, Table.find_update]
    cases db.threads.find j with
    | none => rfl
    | some t =>
      have sameOrg : (if decide (t.id = k) then t.report conflicts else t).orgId = t.orgId := by
        split <;> rfl
      simp only [Option.map_some, Option.filter_some, sameOrg]
      split
      · rfl
      · rfl

theorem serveAnnounce (alike : Alike A stats db db') {env : Env} (fresh : db.FreshThread (env.uuid 0))
    (fresh' : db'.FreshThread (env.uuid 0)) (flowEnv : Env) (sentFiles : List FilePath) (body : AnnounceBody) :
    Served.Agrees A stats (db.serveAnnounce env flowEnv A sentFiles body)
      (db'.serveAnnounce env flowEnv A sentFiles body) := by
  obtain ⟨announced, announced', outcome, first, first', kept⟩ :=
    (alike.announceWork fresh fresh' body.announceParams).split
  unfold Db.serveAnnounce
  rw [first, first']
  cases outcome with
  | error e => exact ⟨kept, rfl, rfl, rfl⟩
  | ok thread =>
    obtain ⟨after, after', flow, second, second', done⟩ :=
      (kept.runCommonAnnounceFlow flowEnv (body.flowParams A) rfl (announced_getThread first)).split
    simp only [second, second']
    cases flow with
    | error e => exact ⟨done, rfl, rfl, rfl⟩
    | ok result =>
      refine ⟨done, rfl, ?_, rfl⟩
      simp only [done.flowEvents, done.displayName]

theorem serveAnnounceTool (alike : Alike A stats db db') {env : Env} (fresh : db.FreshThread (env.uuid 0))
    (fresh' : db'.FreshThread (env.uuid 0)) (flowEnv : Env) (body : AnnounceBody) :
    Served.Agrees A stats (db.serveAnnounceTool env flowEnv A body) (db'.serveAnnounceTool env flowEnv A body) := by
  obtain ⟨announced, announced', outcome, first, first', kept⟩ :=
    (alike.announceWork fresh fresh' body.announceParams).split
  unfold Db.serveAnnounceTool
  rw [first, first', alike.detect env rfl]
  cases outcome with
  | error e => exact ⟨kept, rfl, rfl, rfl⟩
  | ok thread =>
    let query : DetectParams :=
      { orgId := A, agentId := body.agentId, targetModules := body.targetModules, targetFiles := body.targetFiles
        runId := body.runId }
    have reported := kept.setConflicts thread.id (db'.detect env query)
    have found : ((announced.setConflicts thread.id (db'.detect env query)).getThread A thread.id).isSome := by
      rw [setConflicts_getThread]
      exact announced_getThread first
    obtain ⟨after, after', flow, second, second', done⟩ :=
      (reported.runCommonAnnounceFlow flowEnv (body.flowParams A) rfl found).split
    simp only [query] at second second'
    simp only [second, second']
    cases flow with
    | error e => exact ⟨done, rfl, rfl, rfl⟩
    | ok result =>
      refine ⟨done, rfl, ?_, rfl⟩
      simp only [done.flowEvents]

theorem servePost (alike : Alike A stats db db') (env : Env) (params : PostParams) :
    Served.Agrees A stats (db.servePost env A params) (db'.servePost env A params) := by
  obtain ⟨posted, posted', outcome, first, first', kept⟩ :=
    ((alike.setStatus .online env A params.agentId).postToThread env params).split
  have first : (db.heartbeat env A params.agentId).postToThread env A params = (posted, outcome) := first
  have first' : (db'.heartbeat env A params.agentId).postToThread env A params = (posted', outcome) := first'
  unfold Db.servePost
  rw [alike.getThread, first, first']
  split
  · exact ⟨alike, rfl, rfl, rfl⟩
  · split
    · exact ⟨alike, rfl, rfl, rfl⟩
    · cases outcome with
      | error e => exact ⟨kept, rfl, rfl, rfl⟩
      | ok m =>
        refine ⟨kept, rfl, ?_, rfl⟩
        simp only [kept.getThread]

theorem of_servePost (apart : o ≠ A) (env : Env) (params : PostParams) :
    Alike A stats db (db.servePost env o params).db := by
  have posted : Alike A stats db ((db.heartbeat env o params.agentId).postToThread env o params).1 :=
    (of_setStatus apart ..).trans (of_postToThread apart ..)
  unfold Db.servePost
  split
  · exact refl db
  · split
    · exact refl db
    · split
      · rename_i failed e result
        exact posted.reaches result
      · rename_i after m result
        exact posted.reaches result

theorem concluded {r r' : Outcome Unit} (agrees : Agrees A stats r r') (env : Env) {reply : Db → Answer}
    (sameReply : ∀ {db db' : Db}, Alike A stats db db' → reply db = reply db') (events : List EventBody) :
    Served.Agrees A stats (Db.concluded env r reply events) (Db.concluded env r' reply events) := by
  obtain ⟨after, outcome⟩ := r
  obtain ⟨after', outcome'⟩ := r'
  obtain ⟨kept, rfl⟩ := agrees
  cases outcome with
  | error e => exact ⟨kept, rfl, rfl, rfl⟩
  | ok _ => exact ⟨kept, sameReply kept, rfl, rfl⟩

theorem of_concluded {result : Outcome Unit} (kept : Alike A stats db result.1) (env : Env) (reply : Db → Answer)
    (events : List EventBody) : Alike A stats db (Db.concluded env result reply events).db := by
  obtain ⟨after, outcome⟩ := result
  cases outcome with
  | error e => exact kept
  | ok _ => exact kept

/-- An insertion of one's own leaves what the scorer reads about the peers. -/
theorem announced_samePeers {env : Env} {params : AnnounceParams} {after : Db} {t : Thread}
    (result : db.announceWork env o params = (after, .ok t)) : SamePeers params.agentId db after := by
  have finds := announceWork_find env o params db
  rcases announceWork_outcome env o params db with ⟨threads, announced, -⟩ | ⟨e, failed, -⟩
  · rw [result] at finds
    rw [announced] at result
    cases result
    refine ⟨rfl, rfl, rfl, rfl, fun u member other => ?_⟩
    have found := finds u.id
    rw [Table.find_self member] at found
    split at found
    · cases Option.some.inj found
      exact absurd rfl other
    · exact (Table.find_eq_some.mp found.symm).1
  · rw [failed] at result
    cases result

theorem announced_author {env : Env} {params : AnnounceParams} {after : Db} {t : Thread}
    (result : db.announceWork env o params = (after, .ok t)) :
    ∀ u ∈ after.threads.rows, u.id = t.id → u.initiatorId = params.agentId := by
  intro u member same
  rcases announceWork_outcome env o params db with ⟨threads, announced, found⟩ | ⟨e, failed, -⟩
  · rw [announced] at result
    cases result
    have row := Table.find_self member
    rw [same] at row
    cases (found.symm.trans row)
    rfl
  · rw [failed] at result
    cases result

theorem setConflicts_samePeers {k : ThreadId} {agentId : AgentId} (conflicts : List ConflictReport)
    (author : ∀ t ∈ db.threads.rows, t.id = k → t.initiatorId = agentId) :
    SamePeers agentId db (db.setConflicts k conflicts) := by
  unfold Db.setConflicts
  split
  · exact ⟨rfl, rfl, rfl, rfl, fun t member _ => member⟩
  · refine ⟨rfl, rfl, rfl, rfl, fun t member other => ?_⟩
    simp only [Table.mem_update] at member
    obtain ⟨old, inRows, rfl⟩ := member
    split at other
    · rename_i here
      exact absurd (author old inRows (of_decide_eq_true here)) other
    · rename_i elsewhere
      rw [if_neg elsewhere]
      exact inRows

theorem of_serveAnnounce (apart : o ≠ A) (env flowEnv : Env) (sentFiles : List FilePath) (body : AnnounceBody)
    (quiet : stats → A = defaultOrg → db.NobodyScored flowEnv o body) :
    Alike A stats db (db.serveAnnounce env flowEnv o sentFiles body).db := by
  have announced : Alike A stats db (db.announceWork env o body.announceParams).1 := of_announceWork apart ..
  unfold Db.serveAnnounce
  split
  · rename_i failed e result
    exact announced.reaches result
  · rename_i after thread result
    rw [result] at announced
    obtain ⟨t, target⟩ := Option.isSome_iff_exists.mp (announced_getThread result)
    have flown : Alike A stats after (after.runCommonAnnounceFlow flowEnv thread.id (body.flowParams o)).1 :=
      of_runCommonAnnounceFlow apart (getThread_foreign apart target) flowEnv fun asked default =>
        announceFirings_nil (announced_samePeers result) (quiet asked default) _
    split
    · rename_i failed e flow
      exact announced.trans (flown.reaches flow)
    · rename_i done outcome flow
      exact announced.trans (flown.reaches flow)

theorem of_serveAnnounceTool (apart : o ≠ A) (env flowEnv : Env) (body : AnnounceBody)
    (quiet : stats → A = defaultOrg → db.NobodyScored flowEnv o body) :
    Alike A stats db (db.serveAnnounceTool env flowEnv o body).db := by
  have announced : Alike A stats db (db.announceWork env o body.announceParams).1 := of_announceWork apart ..
  unfold Db.serveAnnounceTool
  simp only
  split
  · rename_i failed e result
    exact announced.reaches result
  · rename_i after thread result
    rw [result] at announced
    obtain ⟨t, target⟩ := Option.isSome_iff_exists.mp (announced_getThread result)
    have foreign := getThread_foreign apart target
    let conflicts := db.detect env
      { orgId := o, agentId := body.agentId, targetModules := body.targetModules, targetFiles := body.targetFiles
        runId := body.runId }
    have reported : Alike A stats after (after.setConflicts thread.id conflicts) := of_setConflicts foreign conflicts
    have peers := (announced_samePeers result).trans (setConflicts_samePeers conflicts (announced_author result))
    have flown : Alike A stats (after.setConflicts thread.id conflicts)
        ((after.setConflicts thread.id conflicts).runCommonAnnounceFlow flowEnv thread.id (body.flowParams o)).1 :=
      of_runCommonAnnounceFlow apart (by rw [← reported.getThread, foreign]) flowEnv fun asked default =>
        announceFirings_nil peers (quiet asked default) _
    split
    · rename_i failed e flow
      exact announced.trans (reported.trans (flown.reaches flow))
    · rename_i done outcome flow
      exact announced.trans (reported.trans (flown.reaches flow))

theorem serve (alike : Alike A stats db db') {activity activity' : List AgentActivity}
    (rows : ownedBy AgentActivity.orgId A activity = ownedBy AgentActivity.orgId A activity') {env : Env}
    {op : Operation} (fresh : op.announces → db.FreshThread (env.uuid 0) ∧ db'.FreshThread (env.uuid 0)) :
    Served.Agrees A stats (db.serve env A activity op) (db'.serve env A activity' op) := by
  cases op with
  | register agentId name modules =>
    have registered := alike.register env agentId name modules
    exact ⟨registered, congrArg Answer.agent (registered.getAgent agentId), rfl, rfl⟩
  | sessionStop agentId =>
    exact ⟨(alike.setStatus .offline env A agentId).handleAgentDeparture env agentId, rfl, rfl, rfl⟩
  | processDeparture agentId =>
    have offline := alike.setStatus .offline env A agentId
    refine ⟨?_, rfl, rfl, rfl⟩
    simp only [Db.serve, alike.isStale]
    split
    · exact (offline.handleAgentDeparture env agentId).clearForAgent A agentId
    · exact offline
  | heartbeat agentId currentFile currentThread => exact alike.serveHeartbeat rows env agentId currentFile currentThread
  | logFile agentId agentName toolName filePath =>
    have logged := alike.logFile env agentId filePath none
    simp only [Db.serve, alike.registered]
    split
    · exact ⟨logged, rfl, rfl, rfl⟩
    · exact ⟨logged, rfl, rfl, rfl⟩
  | fileActivity agentId filePath symbols => exact ⟨alike.logFile env agentId filePath symbols, rfl, rfl, rfl⟩
  | startWorking agentId filePath ttlMinutes => exact ⟨alike.startWorking .., rfl, rfl, rfl⟩
  | stopWorking agentId filePath => exact ⟨alike.stopWorking .., rfl, rfl, rfl⟩
  | setMap map => exact ⟨alike.setMap map, rfl, rfl, rfl⟩
  | announce flowEnv sentFiles body => exact alike.serveAnnounce (fresh rfl).1 (fresh rfl).2 flowEnv sentFiles body
  | announceTool flowEnv body => exact alike.serveAnnounceTool (fresh rfl).1 (fresh rfl).2 flowEnv body
  | postToThread params => exact alike.servePost env params
  | proposeResolution threadId agentId summary =>
    simp only [Db.serve, alike.displayName]
    exact concluded (alike.proposeResolution ..) env (fun kept => congrArg Answer.threadRow (kept.getThread threadId)) _
  | approveResolution threadId agentId =>
    simp only [Db.serve, alike.getAgent]
    exact concluded (alike.approveResolution ..) env (fun kept => congrArg Answer.threadRow (kept.getThread threadId)) _
  | contestResolution threadId agentId reason =>
    exact concluded (alike.contestResolution ..) env (fun kept => congrArg Answer.threadRow (kept.getThread threadId)) _
  | closeThread threadId agentId summary => exact concluded (alike.closeThread ..) env (fun _ => rfl) _
  | cancelThread threadId agentId reason => exact concluded (alike.cancelThread ..) env (fun _ => rfl) _
  | claimTask threadId agentId =>
    obtain ⟨after, after', response, first, first', kept⟩ := (alike.handleClaimTask env threadId agentId).split
    simp only [Db.serve, first, first']
    exact ⟨kept, rfl, rfl, rfl⟩
  | unclaimTask threadId agentId =>
    obtain ⟨after, after', response, first, first', kept⟩ := (alike.handleUnclaimTask threadId agentId).split
    simp only [Db.serve, first, first']
    exact ⟨kept, rfl, rfl, rfl⟩
  | introspectionResponse introspectionId concerned reason =>
    obtain ⟨after, after', intro, first, first', kept⟩ :=
      (alike.handleIntrospectionResponse env introspectionId concerned reason).split
    simp only [Db.serve, first, first', kept.getAgent]
    exact ⟨kept, rfl, rfl, rfl⟩

/-- No operation of another org is seen, but for the layers it fires. -/
theorem of_serve (apart : o ≠ A) (env : Env) (activity : List AgentActivity) {op : Operation}
    (quiet : stats → A = defaultOrg → db.FiresNothing o op) :
    Alike A stats db (db.serve env o activity op).db := by
  cases op with
  | register agentId name modules => exact of_register apart ..
  | sessionStop agentId => exact (of_setStatus apart ..).trans (of_handleAgentDeparture apart ..)
  | processDeparture agentId =>
    have offline : Alike A stats db (db.setOffline env o agentId) := of_setStatus apart ..
    simp only [Db.serve]
    split
    · exact offline.trans ((of_handleAgentDeparture apart ..).trans (of_clearForAgent apart ..))
    · exact offline
  | heartbeat agentId currentFile currentThread => exact of_serveHeartbeat apart ..
  | logFile agentId agentName toolName filePath =>
    simp only [Db.serve]
    split
    · exact of_logFile apart env agentId filePath none
    · exact of_logFile apart env agentId filePath none
  | fileActivity agentId filePath symbols => exact of_logFile apart env agentId filePath symbols
  | startWorking agentId filePath ttlMinutes => exact of_startWorking apart ..
  | stopWorking agentId filePath => exact of_stopWorking apart ..
  | setMap map => exact of_setMap apart map
  | announce flowEnv sentFiles body => exact of_serveAnnounce apart env flowEnv sentFiles body quiet
  | announceTool flowEnv body => exact of_serveAnnounceTool apart env flowEnv body quiet
  | postToThread params => exact of_servePost apart env params
  | proposeResolution threadId agentId summary => exact of_concluded (of_proposeResolution apart ..) ..
  | approveResolution threadId agentId => exact of_concluded (of_approveResolution apart ..) ..
  | contestResolution threadId agentId reason => exact of_concluded (of_contestResolution apart ..) ..
  | closeThread threadId agentId summary => exact of_concluded (of_closeThread apart ..) ..
  | cancelThread threadId agentId reason => exact of_concluded (of_cancelThread apart ..) ..
  | claimTask threadId agentId => exact of_handleClaimTask apart ..
  | unclaimTask threadId agentId => exact of_handleUnclaimTask apart ..
  | introspectionResponse introspectionId concerned reason => exact of_handleIntrospectionResponse apart ..

end Alike

end Db

end Coordinator
