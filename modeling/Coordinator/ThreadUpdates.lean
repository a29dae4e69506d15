import Mathlib.Data.List.Induction
import Coordinator.Library.CursorFeed
import Coordinator.Library.EventStream
import Coordinator.TenantWorld
import Coordinator.ThreadMessages

namespace Coordinator

namespace Stamp

/-- The place of a stamp in the order of the texts: the days, and on each day
the 86400 stamps with a blank before the 86400000 with a `T`. -/
def rank : Stamp → Nat
  | .sqlite s => s / 86400 * 86486400 + s % 86400
  | .iso ms => ms / 86400000 * 86486400 + 86400 + ms % 86400000

theorem lt_iff {a b : Stamp} : a.lt b ↔ a.rank < b.rank := by
  cases a with
  | sqlite s => cases b with
    | sqlite s' => simp only [lt, rank, decide_eq_true_eq]; omega
    | iso ms' => simp only [lt, rank, decide_eq_true_eq]; omega
  | iso ms => cases b with
    | sqlite s' => simp only [lt, rank, decide_eq_true_eq]; omega
    | iso ms' => simp only [lt, rank, decide_eq_true_eq]; omega

theorem not_lt {a b : Stamp} : ¬ a.lt b ↔ b.rank ≤ a.rank := by rw [lt_iff, Nat.not_lt]

/-- A time with an offset is cut to its second, one in the stored shape passes untouched. -/
def normalizeSinceCursor : Stamp → Stamp
  | .sqlite s => .sqlite s
  | .iso ms => .sqlite (ms / 1000)

end Stamp

namespace Db

theorem appended_eq {messages : List ThreadMessage} {m m' : ThreadMessage} {allowed : Prop} [Decidable allowed]
    (appended : (if allowed then messages ++ [m'] else messages) = messages ++ [m]) : m' = m := by
  split at appended
  · simpa using appended
  · simp at appended

/-- The message a call posts bears the database's own clock. -/
theorem Posts.stamped {db : Db} {env : Env} {op : Op} {t : Thread} {m : ThreadMessage} (posts : Posts op t m)
    (found : db.threads.find t.id = some t) (appended : (db.step (env, op)).messages = db.messages ++ [m]) :
    m.createdAt = env.currentTimestamp := by
  have target : db.getThread t.orgId t.id = some t := getThread_eq_some.mpr ⟨found, rfl⟩
  cases posts with
  | post _ params _ atThread =>
    simp only [step, postToThread] at appended
    split at appended
    · simp at appended
    · split at appended
      · simp at appended
      · rw [insertMessage_messages] at appended
        rw [← appended_eq appended]
  | propose _ agentId summary =>
    rw [← appended_eq ((proposeResolution_messages target).symm.trans appended)]
    rfl
  | approve _ agentId agentName =>
    rw [← appended_eq ((approveResolution_messages target).symm.trans appended)]
    rfl
  | contest _ agentId reason =>
    rw [← appended_eq ((contestResolution_messages target).symm.trans appended)]
    rfl
  | cancel _ agentId reason =>
    simp only [step, cancelThread, target] at appended
    split at appended
    · simp at appended
    · split at appended
      · simp at appended
      · have cancelled : (db.updateThread t.orgId t.id (.cancel env.isoNow) (Thread.cancel_id _)).getThread
            t.orgId t.id = some (t.cancel env.isoNow) := updateThread_getThread found rfl
        rw [Outcome.void, postResolutionMessage_found cancelled, insertMessage_messages] at appended
        rw [← appended_eq appended]
        rfl

/-- Messages are only appended, under the database's own clock. -/
theorem step_stamped (db : Db) (env : Env) (op : Op) :
    ∃ news, (db.step (env, op)).messages = db.messages ++ news ∧ ∀ m ∈ news, m.createdAt = env.currentTimestamp := by
  rcases step_messages db env op with same | ⟨t, m, found, appended, posts⟩
  · exact ⟨[], by rw [same, List.append_nil], by simp⟩
  · refine ⟨[m], appended, fun m' member => ?_⟩
    rw [List.mem_singleton.mp member, posts.stamped found appended]

end Db

/-- A run of the coordinator, as one polling agent sees it. -/
inductive PollEvent
  | call (env : Env) (op : Op)
  | poll

def PollEvent.clock : PollEvent → Option Nat
  | .call env _ => some env.now
  | .poll => none

/-- The clock never goes back from one call to the next. -/
def Timely (events : List PollEvent) : Prop := (events.filterMap PollEvent.clock).Pairwise (· ≤ ·)

instance (events : List PollEvent) : Decidable (Timely events) :=
  inferInstanceAs (Decidable ((events.filterMap PollEvent.clock).Pairwise (· ≤ ·)))

/-- The database with the agent that polls it: the cursor it passes next, and
what its polls have returned. -/
structure Poller where
  db : Db
  since : Option Stamp
  seen : List ThreadMessage

namespace Poller

def start : Poller := { db := Db.empty, since := none, seen := [] }

def updates (orgId : OrgId) (agentId : AgentId) (p : Poller) : List ThreadMessage :=
  p.db.getThreadUpdates orgId agentId (p.since.map Stamp.normalizeSinceCursor)

/-- The next cursor is the `created_at` of the last message returned. -/
def step (orgId : OrgId) (agentId : AgentId) (p : Poller) : PollEvent → Poller
  | .call env op => { p with db := p.db.step (env, op) }
  | .poll =>
    { p with
      since := CursorFeed.advance (·.createdAt) p.since (p.updates orgId agentId)
      seen := p.seen ++ p.updates orgId agentId }

def run (orgId : OrgId) (agentId : AgentId) (events : List PollEvent) : Poller :=
  events.foldl (step orgId agentId) start

variable {orgId : OrgId} {agentId : AgentId}

/-- The key that `ORDER BY` and the cursor compare. -/
def key (m : ThreadMessage) : Nat := m.createdAt.rank

def cursor (p : Poller) : Option Nat := p.since.map Stamp.rank

/-- Nothing is stamped later than the clock, the cursor included. -/
structure Stamped (now : Nat) (p : Poller) : Prop where
  messages : ∀ m ∈ p.db.messages, ∃ s, m.createdAt = .sqlite s ∧ s ≤ now / 1000
  since : ∀ c ∈ p.since, ∃ s, c = .sqlite s ∧ s ≤ now / 1000

theorem Stamped.start : Stamped 0 start := ⟨by simp [Poller.start, Db.empty], by simp [Poller.start]⟩

theorem Stamped.later {now now' : Nat} {p : Poller} (stamped : p.Stamped now) (later : now ≤ now') :
    p.Stamped now' where
  messages m member := by
    obtain ⟨s, shape, bound⟩ := stamped.messages m member
    exact ⟨s, shape, by omega⟩
  since c atCursor := by
    obtain ⟨s, shape, bound⟩ := stamped.since c atCursor
    exact ⟨s, shape, by omega⟩

/-- The cursor is in the stored shape, so `normalizeSinceCursor` leaves it. -/
theorem Stamped.normalized {now : Nat} {p : Poller} (stamped : p.Stamped now) :
    p.since.map Stamp.normalizeSinceCursor = p.since := by
  cases atCursor : p.since with
  | none => rfl
  | some c =>
    obtain ⟨s, rfl, -⟩ := stamped.since c atCursor
    rfl

theorem mem_updates {now : Nat} {p : Poller} (stamped : p.Stamped now) {m : ThreadMessage} :
    m ∈ p.updates orgId agentId ↔ m ∈ p.db.messages ∧
      p.db.joined (fun t => t.orgId = orgId ∧ t.status.active) m ∧ m.agentId ≠ agentId ∧
      CursorFeed.Due p.cursor (key m) := by
  rw [updates, stamped.normalized, Db.getThreadUpdates, List.mem_insertionSort, List.mem_filter]
  simp [CursorFeed.Due, cursor, key, Option.all_eq_true, ← Stamp.not_lt]

theorem updates_sorted (p : Poller) : (p.updates orgId agentId).Pairwise fun a b => key a ≤ key b := by
  have order (a b : ThreadMessage) : (¬ b.createdAt.lt a.createdAt) ↔ key a ≤ key b := Stamp.not_lt
  have total : Std.Total fun a b : ThreadMessage => ¬ b.createdAt.lt a.createdAt :=
    ⟨fun a b => by rw [order, order]; exact Nat.le_total _ _⟩
  have trans : IsTrans ThreadMessage fun a b => ¬ b.createdAt.lt a.createdAt :=
    ⟨fun a b c => by rw [order, order, order]; exact Nat.le_trans⟩
  exact (List.pairwise_insertionSort _ _).imp fun {a b} => (order a b).mp

theorem run_concat (events : List PollEvent) (event : PollEvent) :
    run orgId agentId (events ++ [event]) = (run orgId agentId events).step orgId agentId event := by
  rw [run, List.foldl_concat, run]

theorem Stamped.step {now : Nat} {p : Poller} (stamped : p.Stamped now) {event : PollEvent}
    (recent : ∀ t ∈ event.clock, t ≤ now) : (p.step orgId agentId event).Stamped now := by
  cases event with
  | call env op =>
    obtain ⟨news, appended, atCall⟩ := p.db.step_stamped env op
    have current : env.now ≤ now := recent env.now rfl
    refine ⟨?_, stamped.since⟩
    intro m member
    rw [Poller.step, appended] at member
    rcases List.mem_append.mp member with old | new
    · exact stamped.messages m old
    · exact ⟨env.now / 1000, atCall m new, by omega⟩
  | poll =>
    refine ⟨stamped.messages, ?_⟩
    intro c atCursor
    rcases CursorFeed.mem_advance atCursor with kept | ⟨r, returned, rfl⟩
    · exact stamped.since c kept
    · exact stamped.messages r ((mem_updates stamped).mp returned).1

theorem run_stamped {events : List PollEvent} {now : Nat} (recent : ∀ t ∈ events.filterMap PollEvent.clock, t ≤ now) :
    (run orgId agentId events).Stamped now := by
  induction events using List.reverseRec with
  | nil => exact Stamped.start.later (Nat.zero_le _)
  | append_singleton events event ih =>
    rw [run_concat]
    simp only [List.filterMap_append, List.mem_append] at recent
    refine (ih fun t early => recent t (.inl early)).step fun t atEvent => recent t (.inr ?_)
    simpa using atEvent

variable (orgId agentId) in
theorem exists_stamped (events : List PollEvent) : ∃ now, (run orgId agentId events).Stamped now :=
  ⟨(events.filterMap PollEvent.clock).foldl max 0,
    run_stamped fun t member => Nat.lt_succ_iff.mp ((EventStream.foldl_max_lt.mp (Nat.lt_succ_self _)).2 t member)⟩

variable (orgId agentId) in
/-- What one event does to the messages and to the cursor: a message stays, and
stays due unless the event is a poll that returns one of a later second. -/
theorem due_step {now : Nat} {p : Poller} (stamped : p.Stamped now) (event : PollEvent) {k : Nat} :
    ∃ rows, (p.step orgId agentId event).seen = p.seen ++ rows ∧
      p.db.messages <+: (p.step orgId agentId event).db.messages ∧
      (CursorFeed.Due (p.step orgId agentId event).cursor k ↔
        CursorFeed.Due p.cursor k ∧ ∀ r ∈ rows, key r ≤ k) := by
  cases event with
  | call env op =>
    obtain ⟨news, appended, -⟩ := p.db.step_stamped env op
    exact ⟨[], by simp [step], ⟨news, appended.symm⟩, by simp [step, cursor]⟩
  | poll =>
    refine ⟨p.updates orgId agentId, rfl, List.prefix_rfl, ?_⟩
    have due : ∀ r ∈ p.updates orgId agentId, CursorFeed.Due p.cursor (key r) :=
      fun r returned => ((mem_updates stamped).mp returned).2.2.2
    rw [cursor, step, CursorFeed.map_advance]
    exact CursorFeed.due_advance (updates_sorted p) due

variable (orgId agentId) in
/-- What a run of events after `before` does to the messages and to the cursor. -/
theorem due_run (before between : List PollEvent) {k : Nat} :
    ∃ rows, (run orgId agentId (before ++ between)).seen = (run orgId agentId before).seen ++ rows ∧
      (run orgId agentId before).db.messages <+: (run orgId agentId (before ++ between)).db.messages ∧
      (CursorFeed.Due (run orgId agentId (before ++ between)).cursor k ↔
        CursorFeed.Due (run orgId agentId before).cursor k ∧ ∀ r ∈ rows, key r ≤ k) := by
  induction between using List.reverseRec with
  | nil => exact ⟨[], by simp, by simp, by simp⟩
  | append_singleton between event ih =>
    obtain ⟨rows, seen, grown, due⟩ := ih
    obtain ⟨now, stamped⟩ := exists_stamped orgId agentId (before ++ between)
    obtain ⟨rows', seen', grown', due'⟩ := due_step orgId agentId stamped event (k := k)
    rw [← List.append_assoc, run_concat]
    refine ⟨rows ++ rows', by rw [seen', seen, List.append_assoc], grown.trans grown', ?_⟩
    rw [due', due, List.forall_mem_append, and_assoc]

/-- A poll after the insertion of another agent's message returns it exactly
when its thread is then open or resolving, and no poll since has returned a
message of a later second. -/
theorem mem_updates_iff {before between : List PollEvent} {env : Env} {op : Op} {m : ThreadMessage}
    (timely : Timely (before ++ .call env op :: between))
    (inserted : m ∈ ((run orgId agentId before).db.step (env, op)).messages.drop
      (run orgId agentId before).db.messages.length)
    (another : m.agentId ≠ agentId) :
    m ∈ (run orgId agentId (before ++ .call env op :: between)).updates orgId agentId ↔
      (run orgId agentId (before ++ .call env op :: between)).db.joined
        (fun t => t.orgId = orgId ∧ t.status.active) m ∧
      ∀ r ∈ (run orgId agentId (before ++ .call env op :: between)).seen.drop (run orgId agentId before).seen.length,
        ¬ m.createdAt.lt r.createdAt := by
  obtain ⟨news, appended, atCall⟩ := (run orgId agentId before).db.step_stamped env op
  rw [appended, List.drop_left] at inserted
  have atSecond : m.createdAt = .sqlite (env.now / 1000) := atCall m inserted
  have called : run orgId agentId (before ++ [.call env op]) =
      { run orgId agentId before with db := (run orgId agentId before).db.step (env, op) } := run_concat before _
  have early : (run orgId agentId before).Stamped env.now := by
    refine run_stamped fun t member => ?_
    rw [Timely, List.filterMap_append, List.pairwise_append] at timely
    exact timely.2.2 t member env.now (by simp [PollEvent.clock])
  have dueAtCall : CursorFeed.Due (run orgId agentId (before ++ [.call env op])).cursor (key m) := by
    intro c atCursor
    rw [called] at atCursor
    obtain ⟨stamp, atSince, rfl⟩ := Option.mem_map.mp atCursor
    obtain ⟨s, rfl, bound⟩ := early.since stamp atSince
    rw [key, atSecond]
    exact Stamp.not_lt.mp (by simpa [Stamp.lt] using bound)
  obtain ⟨rows, seen, grown, due⟩ := due_run orgId agentId (before ++ [.call env op]) between
    (k := key m)
  obtain ⟨now, stamped⟩ := exists_stamped orgId agentId (before ++ [.call env op] ++ between)
  have sinceCall : (run orgId agentId (before ++ [.call env op] ++ between)).seen.drop
      (run orgId agentId before).seen.length = rows := by
    rw [seen, called, List.drop_left]
  have kept : m ∈ (run orgId agentId (before ++ [.call env op] ++ between)).db.messages := by
    refine grown.subset ?_
    rw [called, appended]
    exact List.mem_append_right _ inserted
  rw [List.append_cons, mem_updates stamped, sinceCall, due]
  have later (r : ThreadMessage) : ¬ m.createdAt.lt r.createdAt ↔ key r ≤ key m := Stamp.not_lt
  simp only [later]
  tauto

/-- A peer's open thread, and what the peer posts to it. -/
def peerThread : List PollEvent :=
  [.call (.drawing "a1") (.register "acme" "ada" "Ada" []), .call (.drawing "b1") (.register "acme" "bob" "Bob" []),
    .call (.drawing "t1") (.announceWork "acme" (.ofFiles "bob" ["a.ts"] true))]

def peerPost : Op :=
  .postToThread "acme" { threadId := "t1", agentId := "bob", agentName := none, type := .context, content := "done"
                         contextSnapshot := none, inReplyTo := none }

/-- The peer's message comes with the first poll after it, the thread being open. -/
theorem mem_updates_peerPost :
    ∃ m, m.content = "done" ∧
      m ∈ (run "acme" "ada" (peerThread ++ [.call (.drawing "m1") peerPost])).updates "acme" "ada" := by
  have posted : (((run "acme" "ada" peerThread).db.step (.drawing "m1", peerPost)).messages.drop
      (run "acme" "ada" peerThread).db.messages.length).map (fun m => (m.agentId, m.content)) = [("bob", "done")] := by
    decide
  have opened : ∀ m ∈ ((run "acme" "ada" peerThread).db.step (.drawing "m1", peerPost)).messages,
      (run "acme" "ada" (peerThread ++ [.call (.drawing "m1") peerPost])).db.joined
        (fun t => t.orgId = "acme" ∧ t.status.active) m := by decide
  obtain ⟨m, only, row⟩ := List.map_eq_singleton_iff.mp posted
  have inserted : m ∈ ((run "acme" "ada" peerThread).db.step (.drawing "m1", peerPost)).messages.drop
      (run "acme" "ada" peerThread).db.messages.length := only ▸ List.mem_singleton_self m
  simp only [Prod.mk.injEq] at row
  refine ⟨m, row.2, (mem_updates_iff ?_ inserted ?_).mpr ⟨opened m (List.mem_of_mem_drop inserted), ?_⟩⟩
  · decide
  · rw [row.1]
    decide
  · exact fun r returned => absurd returned (List.not_mem_nil)

/-- Polls that return every message another agent posts to an active thread,
as long as one comes after it. -/
def UpdatesComplete : Prop :=
  ∀ (orgId : OrgId) (agentId : AgentId) (before between : List PollEvent) (env : Env) (op : Op) (m : ThreadMessage),
    Timely (before ++ .call env op :: between) →
    m ∈ ((run orgId agentId before).db.step (env, op)).messages.drop (run orgId agentId before).db.messages.length →
    m.agentId ≠ agentId →
    (run orgId agentId before).db.joined (fun t => t.orgId = orgId ∧ t.status.active) m →
    .poll ∈ between → m ∈ (run orgId agentId (before ++ .call env op :: between)).seen

/-- Bob closes the thread he has just posted to; Ada polls, and hears nothing of it. -/
theorem not_updatesComplete : ¬ UpdatesComplete := by
  intro complete
  let close : PollEvent := .call (.drawing "c1") (.closeThread "acme" "t1" "bob" "merged")
  have posted : ((run "acme" "ada" peerThread).db.step (.drawing "m1", peerPost)).messages.drop
      (run "acme" "ada" peerThread).db.messages.length ≠ [] := by decide
  obtain ⟨m, inserted⟩ := List.exists_mem_of_ne_nil _ posted
  have another : ∀ m ∈ ((run "acme" "ada" peerThread).db.step (.drawing "m1", peerPost)).messages,
      m.agentId ≠ "ada" ∧
        (run "acme" "ada" peerThread).db.joined (fun t => t.orgId = "acme" ∧ t.status.active) m := by decide
  obtain ⟨bobs, active⟩ := another m (List.mem_of_mem_drop inserted)
  have silent : (run "acme" "ada" (peerThread ++ .call (.drawing "m1") peerPost :: [close, .poll])).seen = [] := by
    decide
  have heard := complete "acme" "ada" peerThread [close, .poll] (.drawing "m1") peerPost m
    (by decide) inserted bobs active (by simp)
  rw [silent] at heard
  cases heard

end Poller

end Coordinator
