import Coordinator.ThreadMessages

namespace Coordinator

namespace Db

/-- Proposals start from a clean slate: the thread has no approval of its
current round, and the proposer is a registered agent, so the proposal gets
its message. Posts carry one of the types both transports accept. -/
def proposesAfresh (db : Db) : Env × Op → Prop
  | (_, .postToThread _ params) => params.type = .context ∨ params.type = .suggestion ∨ params.type = .warning
  | (_, .proposeResolution orgId threadId agentId _) =>
    ∀ t, db.getThread orgId threadId = some t → t.initiatorId = agentId ∨ t.claimedBy = some agentId →
      db.registered orgId agentId ∧ db.approvals threadId t.round = []
  | _ => True

/-- The last proposal on a thread is the one its summary was taken from, and
`later` is what was said after it. -/
def ProposalOf (messages : List ThreadMessage) (t : Thread) (later : List ThreadMessage) : Prop :=
  ∃ earlier proposal, messages = earlier ++ proposal :: later ∧ proposal.threadId = t.id ∧
    proposal.type = .resolution ∧ t.resolutionSummary = some proposal.content ∧
    ∀ m ∈ later, m.threadId = t.id → m.type ≠ .resolution

/-- An approval that comes before a proposal belongs to an earlier round. -/
def OutdatedBy (m proposal : ThreadMessage) : Prop :=
  proposal.type = .resolution → m.type = .approve → m.threadId = proposal.threadId → m.round < proposal.round

structure MessageLog (db : Db) : Prop where
  rounds : ∀ m ∈ db.messages, ∃ t, db.threads.find m.threadId = some t ∧ m.round ≤ t.round
  outdated : db.messages.Pairwise OutdatedBy
  proposed : ∀ k t, db.threads.find k = some t → t.status = .resolving → ∃ later, ProposalOf db.messages t later

theorem ProposalOf.append {messages later extra : List ThreadMessage} {t t' : Thread}
    (proposal : ProposalOf messages t later) (sameId : t'.id = t.id)
    (sameSummary : t'.resolutionSummary = t.resolutionSummary)
    (quiet : ∀ m ∈ extra, m.threadId = t.id → m.type ≠ .resolution) :
    ProposalOf (messages ++ extra) t' (later ++ extra) := by
  obtain ⟨earlier, p, rfl, atThread, isProposal, summary, last⟩ := proposal
  refine ⟨earlier, p, by simp, sameId ▸ atThread, isProposal, sameSummary ▸ summary, ?_⟩
  intro m member atId
  rw [sameId] at atId
  rcases List.mem_append.mp member with old | new
  · exact last m old atId
  · exact quiet m new atId

theorem ThreadChange.round_le {db : Db} {env : Env} {op : Op} {t t' : Thread} (change : db.ThreadChange env op t t') :
    t.round ≤ t'.round := by
  cases change with
  | contest => exact Nat.le_succ _
  | depart _ agentId =>
    rcases departed_cases env agentId db
      (if t.claimedBy = some agentId ∧ t.status = .opened then t.unclaim else t) with settled | stays
    · rw [settled]
      split <;> exact Nat.le_refl _
    · rw [stays]
      split <;> exact Nat.le_refl _
  | _ => exact Nat.le_refl _

/-- A thread is resolving because it was proposed on, or because it was so before. -/
theorem ThreadChange.resolving {db : Db} {env : Env} {op : Op} {t t' : Thread} (change : db.ThreadChange env op t t')
    (resolving : t'.status = .resolving) :
    (∃ agentId summary, op = .proposeResolution t.orgId t.id agentId summary ∧ t' = t.propose summary ∧
      (t.initiatorId = agentId ∨ t.claimedBy = some agentId)) ∨
    t.status = .resolving ∧ t'.id = t.id ∧ t'.resolutionSummary = t.resolutionSummary := by
  cases change with
  | propose _ agentId summary entitled => exact .inl ⟨agentId, summary, rfl, rfl, entitled⟩
  | depart _ agentId =>
    refine .inr ?_
    rcases departed_cases env agentId db
      (if t.claimedBy = some agentId ∧ t.status = .opened then t.unclaim else t) with settled | stays
    · rw [settled] at resolving
      cases resolving
    · rw [stays] at resolving ⊢
      by_cases claimed : t.claimedBy = some agentId ∧ t.status = .opened
      · rw [if_pos claimed] at resolving
        exact absurd (claimed.2.symm.trans resolving) (by decide)
      · rw [if_neg claimed] at resolving ⊢
        exact ⟨resolving, rfl, rfl⟩
  | keep | override | concern => exact .inr ⟨resolving, rfl, rfl⟩
  | claim | unclaim => exact .inr ⟨resolving, rfl, rfl⟩
  | autoResolve | approve | contestLast | contest | cancel | close | timeout | poison => cases resolving

/-- What a step posts is a proposal only if the step proposes. -/
theorem Posts.quiet {db : Db} {env : Env} {op : Op} {t : Thread} {m : ThreadMessage}
    (afresh : db.proposesAfresh (env, op)) (posts : Posts op t m) (proposal : m.type = .resolution) :
    ∃ agentId summary, op = .proposeResolution t.orgId t.id agentId summary ∧ m.content = summary ∧
      (t.initiatorId = agentId ∨ t.claimedBy = some agentId) := by
  cases posts with
  | post _ params _ _ _ type =>
    rw [type] at proposal
    rcases afresh with other | other | other <;> cases other.symm.trans proposal
  | propose _ agentId summary _ _ _ _ content entitled => exact ⟨agentId, summary, rfl, content, entitled⟩
  | approve _ _ _ _ _ _ type => cases type.symm.trans proposal
  | contest _ _ _ _ _ _ type => cases type.symm.trans proposal
  | cancel _ _ _ _ _ _ type => cases type.symm.trans proposal

theorem Posts.place {op : Op} {t : Thread} {m : ThreadMessage} (posts : Posts op t m) :
    m.threadId = t.id ∧ m.round = t.round := by
  cases posts <;> exact ⟨by assumption, by assumption⟩

namespace MessageLog
variable {db : Db} {env : Env} {op : Op}

theorem step_rounds (log : db.MessageLog) (m : ThreadMessage) (member : m ∈ (db.step (env, op)).messages) :
    ∃ t, (db.step (env, op)).threads.find m.threadId = some t ∧ m.round ≤ t.round := by
  have carried : ∀ t, db.threads.find m.threadId = some t → m.round ≤ t.round →
      ∃ t', (db.step (env, op)).threads.find m.threadId = some t' ∧ m.round ≤ t'.round := by
    intro t found bound
    obtain ⟨t', later, change⟩ := step_change env op found
    exact ⟨t', later, bound.trans change.round_le⟩
  have old : m ∈ db.messages → ∃ t', (db.step (env, op)).threads.find m.threadId = some t' ∧ m.round ≤ t'.round := by
    intro before
    obtain ⟨t, found, bound⟩ := log.rounds m before
    exact carried t found bound
  rcases step_messages db env op with same | ⟨t, posted, found, same, posts⟩
  · rw [same] at member
    exact old member
  · rw [same] at member
    rcases List.mem_append.mp member with before | new
    · exact old before
    · rw [List.mem_singleton] at new
      subst new
      obtain ⟨atThread, atRound⟩ := posts.place
      exact carried t (atThread ▸ found) (Nat.le_of_eq atRound)

theorem step_outdated (log : db.MessageLog) (afresh : db.proposesAfresh (env, op)) :
    (db.step (env, op)).messages.Pairwise OutdatedBy := by
  rcases step_messages db env op with same | ⟨t, posted, found, same, posts⟩
  · rw [same]
    exact log.outdated
  · rw [same, List.pairwise_append]
    refine ⟨log.outdated, List.pairwise_singleton .., ?_⟩
    intro m old p new proposal approve sameThread
    rw [List.mem_singleton] at new
    subst new
    obtain ⟨atThread, atRound⟩ := posts.place
    obtain ⟨agentId, summary, rfl, -, entitled⟩ := posts.quiet afresh proposal
    obtain ⟨-, none⟩ := afresh t (getThread_eq_some.mpr ⟨found, rfl⟩) entitled
    obtain ⟨u, foundU, bound⟩ := log.rounds m old
    rw [sameThread, atThread, found] at foundU
    cases foundU
    have other : m.round ≠ t.round := by
      intro sameRound
      have approved := mem_approvals.mpr ⟨m, old, sameThread.trans atThread, approve, sameRound, rfl⟩
      rw [none] at approved
      cases approved
    omega

/-- The thread just proposed on: its message is the last one. -/
theorem proposal_last {t t' : Thread} {agentId : AgentId} {summary : String} (found : db.threads.find t.id = some t)
    (entitled : t.initiatorId = agentId ∨ t.claimedBy = some agentId) (author : db.registered t.orgId agentId)
    (later : (db.step (env, .proposeResolution t.orgId t.id agentId summary)).threads.find t.id = some t') :
    ProposalOf (db.step (env, .proposeResolution t.orgId t.id agentId summary)).messages t' [] := by
  have target : db.getThread t.orgId t.id = some t := getThread_eq_some.mpr ⟨found, rfl⟩
  have row := (proposeResolution_rewrites env t.orgId t.id agentId summary db).at_target target
  rw [if_pos entitled] at row
  obtain rfl : t.propose summary = t' := Option.some.inj (row.symm.trans later)
  refine ⟨db.messages, resolutionMessage env t.orgId t agentId .resolution summary, ?_, rfl, rfl, rfl, by simp⟩
  exact (proposeResolution_messages target).trans (if_pos ⟨entitled, author⟩)

theorem step_proposed (log : db.MessageLog) (afresh : db.proposesAfresh (env, op)) (k : ThreadId) (t' : Thread)
    (found : (db.step (env, op)).threads.find k = some t') (resolving : t'.status = .resolving) :
    ∃ later, ProposalOf (db.step (env, op)).messages t' later := by
  rcases step_origin found with ⟨t, before, change⟩ | ⟨-, orgId, params, rfl, rfl⟩
  · obtain rfl := find_id before
    have target : db.getThread t.orgId t.id = some t := getThread_eq_some.mpr ⟨before, rfl⟩
    by_cases proposed : ∃ agentId summary, op = .proposeResolution t.orgId t.id agentId summary ∧
        (t.initiatorId = agentId ∨ t.claimedBy = some agentId)
    · obtain ⟨agentId, summary, rfl, entitled⟩ := proposed
      exact ⟨[], proposal_last before entitled (afresh t target entitled).1 found⟩
    · rcases change.resolving resolving with ⟨agentId, summary, isProposal, -, entitled⟩ | ⟨was, sameId, sameSummary⟩
      · exact absurd ⟨agentId, summary, isProposal, entitled⟩ proposed
      · obtain ⟨later, proposal⟩ := log.proposed t.id t before was
        rcases step_messages db env op with same | ⟨u, posted, foundU, same, posts⟩
        · have kept : ProposalOf (db.messages ++ []) t' (later ++ []) := proposal.append sameId sameSummary (by simp)
          rw [same, ← List.append_nil db.messages]
          exact ⟨_, kept⟩
        · rw [same]
          refine ⟨_, proposal.append sameId sameSummary ?_⟩
          intro m new atThread isProposal
          rw [List.mem_singleton] at new
          subst new
          -- a proposal posted on this thread would be this thread's own
          obtain ⟨agentId, summary, isPropose, -, entitled⟩ := posts.quiet afresh isProposal
          rw [← posts.place.1, atThread, before] at foundU
          cases foundU
          exact proposed ⟨agentId, summary, isPropose, entitled⟩
  · simp only [announcedThread] at resolving
    split at resolving <;> cases resolving

theorem step (log : db.MessageLog) (afresh : db.proposesAfresh (env, op)) : (db.step (env, op)).MessageLog where
  rounds := log.step_rounds
  outdated := log.step_outdated afresh
  proposed := log.step_proposed afresh

/-- An approval of the current round was given after the last proposal. -/
theorem approval_after {t : Thread} {later : List ThreadMessage} {m : ThreadMessage} (log : db.MessageLog)
    (found : db.threads.find t.id = some t) (proposal : ProposalOf db.messages t later) (member : m ∈ db.messages)
    (atThread : m.threadId = t.id) (approve : m.type = .approve) (atRound : m.round = t.round) : m ∈ later := by
  obtain ⟨earlier, p, split, pThread, isProposal, -, -⟩ := proposal
  have pMember : p ∈ db.messages := by rw [split]; simp
  obtain ⟨u, foundU, bound⟩ := log.rounds p pMember
  rw [pThread, found] at foundU
  cases foundU
  rw [split] at member
  rcases List.mem_append.mp member with before | after
  · have outdated := log.outdated
    rw [split, List.pairwise_append] at outdated
    have older := outdated.2.2 m before p (by simp) isProposal approve (atThread.trans pThread.symm)
    omega
  · rcases List.mem_cons.mp after with same | here
    · rw [same, isProposal] at approve
      cases approve
    · exact here

end MessageLog

/-- When an approval turns a resolving thread into a resolved one, everyone
expected to respond has approved since the proposal the summary was taken from. -/
def ApprovalsReal (db : Db) : Prop :=
  ∀ (env : Env) (orgId : OrgId) (threadId : ThreadId) (agentId : AgentId) (agentName : Option String) (t t' : Thread),
    db.getThread orgId threadId = some t → t.status = .resolving →
    (db.approveResolution env orgId threadId agentId agentName).1.getThread orgId threadId = some t' →
    t'.status = .resolved →
    ∃ later, ProposalOf (db.approveResolution env orgId threadId agentId agentName).1.messages t' later ∧
      ∀ id ∈ t'.respondents, ∃ m ∈ later, m.threadId = threadId ∧ m.type = .approve ∧ m.agentId = id

def ConsensusReal (guard : Db → Env × Op → Prop) : Prop :=
  ∀ start db : Db, start.threads = Table.empty → start.messages = [] → Run guard start db → db.ApprovalsReal

/-- An approval that settles the thread was written, and with it everyone
expected to respond has approved the current round. -/
theorem approveResolution_settled {env : Env} {agentId : AgentId} {agentName : Option String} {db : Db} {t t' : Thread}
    (target : db.getThread t.orgId t.id = some t) (resolving : t.status = .resolving)
    (settled : (db.approveResolution env t.orgId t.id agentId agentName).1.getThread t.orgId t.id = some t')
    (resolved : t'.status = .resolved) :
    t' = t.resolve env.isoNow ∧ db.registered t.orgId agentId ∧ ∀ id ∈ t.respondents,
      ∃ m ∈ db.messages ++ [resolutionMessage env t.orgId t agentId .approve "Approved"],
        m.threadId = t.id ∧ m.type = .approve ∧ m.round = t.round ∧ m.agentId = id := by
  have row := (approveResolution_rewrites env t.orgId t.id agentId agentName db).at_target target
  rw [(getThread_eq_some.mp settled).1, Option.some.injEq] at row
  have completes : db.approvalCompletes env t.orgId t.id agentId := by
    by_contra incomplete
    rw [row, if_neg fun both => incomplete both.2, resolving] at resolved
    cases resolved
  rw [if_pos ⟨resolving, completes⟩] at row
  simp only [approvalCompletes, Bool.and_eq_true, postResolutionMessage_found target] at completes
  obtain ⟨author, consent⟩ := completes
  have posted : (db.insertMessage (resolutionMessage env t.orgId t agentId .approve "Approved")).1.messages =
      db.messages ++ [resolutionMessage env t.orgId t agentId .approve "Approved"] := by
    rw [insertMessage_messages]
    exact if_pos author
  have sameRow : (db.insertMessage (resolutionMessage env t.orgId t agentId .approve "Approved")).1.getThread
      t.orgId t.id = some t := by
    rw [getThread, insertMessage_threads]
    exact target
  rw [allRespondentsApproved_found sameRow] at consent
  refine ⟨row, author, fun id expected => ?_⟩
  have approved := List.all_eq_true.mp consent id expected
  rw [List.contains_iff_mem] at approved
  obtain ⟨m, member, said⟩ := mem_approvals.mp approved
  exact ⟨m, posted ▸ member, said⟩

/-- Where the log is in order, the approvals that settle a thread are of its last proposal. -/
theorem MessageLog.approvalsReal {db : Db} (log : db.MessageLog) : db.ApprovalsReal := by
  intro env orgId threadId agentId agentName t t' target resolving settled resolved
  obtain ⟨found, rfl, rfl⟩ := target_eq target
  obtain ⟨rfl, author, approved⟩ := approveResolution_settled target resolving settled resolved
  obtain ⟨later, proposal⟩ := log.proposed t.id t found resolving
  refine ⟨later ++ [resolutionMessage env t.orgId t agentId .approve "Approved"], ?_, ?_⟩
  · rw [approveResolution_messages target, if_pos ⟨resolving, author⟩]
    refine proposal.append rfl rfl ?_
    intro m new _
    rw [List.mem_singleton] at new
    subst new
    exact fun isProposal => by cases isProposal
  · intro id expected
    obtain ⟨m, member, atThread, approve, atRound, by'⟩ := approved id expected
    refine ⟨m, ?_, atThread, approve, by'⟩
    rcases List.mem_append.mp member with old | new
    · exact List.mem_append_left _ (log.approval_after found proposal old atThread approve atRound)
    · exact List.mem_append_right _ new

/-- Consensus is real in every state that afresh proposals lead to. -/
theorem consensus_real {start db : Db} (noThreads : start.threads = Table.empty) (noMessages : start.messages = [])
    (run : Run proposesAfresh start db) : db.ApprovalsReal := by
  have initially : start.MessageLog := by
    refine ⟨?_, ?_, ?_⟩
    · simp [noMessages]
    · simp [noMessages]
    · simp [noThreads]
  have log : db.MessageLog := run.invariant (fun db call log afresh => log.step afresh) initially
  exact log.approvalsReal

/-- Ada, and Bob and Carol who own the module she works on. -/
def trio : Db := team [("ada", []), ("bob", ["core"]), ("carol", ["core"])]

def coreAnnounce : Env × Op :=
  (.drawing "t1", .announceWork "acme" { AnnounceParams.ofFiles "ada" [] false with targetModules := ["core"] })

/-- Ada proposes plan A and Bob approves it. -/
def halfApproved : List (Env × Op) :=
  [coreAnnounce, (.drawing "m1", .proposeResolution "acme" "t1" "ada" "plan A"),
    (.drawing "m2", .approveResolution "acme" "t1" "bob" none)]

/-- Carol's approval of the only proposal settles the thread: hers and Bob's are approvals of plan A. -/
theorem consensus_real_trio :
    ∃ t' later, ((trio.after halfApproved).approveResolution (.drawing "m3") "acme" "t1" "carol" none).1.getThread
        "acme" "t1" = some t' ∧ t'.respondents = ["bob", "carol"] ∧
      ProposalOf ((trio.after halfApproved).approveResolution (.drawing "m3") "acme" "t1" "carol" none).1.messages
        t' later ∧
      ∀ id ∈ t'.respondents, ∃ m ∈ later, m.threadId = "t1" ∧ m.type = .approve ∧ m.agentId = id := by
  have resolving : ((trio.after halfApproved).getThread "acme" "t1").map Thread.status = some .resolving := by decide
  have resolved : (((trio.after halfApproved).approveResolution (.drawing "m3") "acme" "t1" "carol" none).1.getThread
      "acme" "t1").map (fun t => (t.status, t.respondents)) = some (.resolved, ["bob", "carol"]) := by decide
  have run : Run proposesAfresh trio (trio.after halfApproved) := by
    refine .of_meets ⟨trivial, ?_, trivial, trivial⟩
    intro t target _
    have round : ((trio.after [coreAnnounce]).getThread "acme" "t1").map Thread.round = some 1 := by decide
    rw [show (trio.after [coreAnnounce]).getThread "acme" "t1" = some t from target, Option.map_some,
      Option.some.injEq] at round
    rw [round]
    exact ⟨by decide, by decide⟩
  obtain ⟨t, found, status⟩ := Option.map_eq_some_iff.mp resolving
  obtain ⟨t', settled, row⟩ := Option.map_eq_some_iff.mp resolved
  simp only [Prod.mk.injEq] at row
  have noThreads : trio.threads = Table.empty := rfl
  have noMessages : trio.messages = [] := rfl
  obtain ⟨later, proposal, approved⟩ := consensus_real noThreads noMessages run (.drawing "m3") "acme" "t1" "carol"
    none t t' found status settled row.1
  exact ⟨t', later, settled, row.2, proposal, approved⟩

/-- Ada replaces plan A by plan B within the round, and Carol's approval of B closes
the thread although Bob approved A only. -/
theorem not_consensusReal : ¬ ConsensusReal fun _ call => call.2.onThreads := by
  intro real
  let calls := halfApproved ++ [(.drawing "m3", .proposeResolution "acme" "t1" "ada" "plan B")]
  let db := trio.after calls
  let after := (db.approveResolution (.drawing "m4") "acme" "t1" "carol" none).1
  have resolving : (db.getThread "acme" "t1").map Thread.status = some .resolving := by decide
  have resolved : (after.getThread "acme" "t1").map (fun t => (t.status, t.respondents)) =
      some (.resolved, ["bob", "carol"]) := by decide
  -- wherever the list is cut at the last proposal, Bob has not approved after the cut
  have stale : ∀ n : Fin 4, (after.messages[n.val]?).map ThreadMessage.type = some .resolution →
      (∀ m ∈ after.messages.drop (n.val + 1), m.type ≠ .resolution) →
      ∀ m ∈ after.messages.drop (n.val + 1), m.type = .approve → m.agentId ≠ "bob" := by decide
  have size : after.messages.length = 4 := by decide
  have sameThread : ∀ m ∈ after.messages, m.threadId = "t1" := by decide
  obtain ⟨t, found, status⟩ := Option.map_eq_some_iff.mp resolving
  obtain ⟨t', later, row⟩ := Option.map_eq_some_iff.mp resolved
  simp only [Prod.mk.injEq] at row
  obtain ⟨since, ⟨earlier, p, split, -, isProposal, -, last⟩, approved⟩ :=
    real trio db rfl rfl (threadRun_after trio (by decide)) (.drawing "m4") "acme" "t1" "carol" none t t'
      found status later row.1
  obtain ⟨m, member, -, approve, author⟩ := approved "bob" (by rw [row.2]; decide)
  have cut : after.messages = earlier ++ p :: since := split
  have inside : earlier.length < 4 := by
    rw [← size, cut]
    simp
  have rest : after.messages.drop (earlier.length + 1) = since := by
    rw [cut]
    simp
  refine stale ⟨earlier.length, inside⟩ ?_ ?_ m (rest ▸ member) approve author
  · rw [cut]
    simp [isProposal]
  · intro other lateOther
    rw [rest] at lateOther
    have atT1 := sameThread other (by rw [cut]; simp [lateOther])
    have atId : t'.id = "t1" := find_id (getThread_eq_some.mp later).1
    exact last other lateOther (atT1.trans atId.symm)

end Db

end Coordinator
