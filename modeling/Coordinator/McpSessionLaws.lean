import Coordinator.McpSessions

namespace Coordinator.McpServer

section
variable {env : McpEnv} {w w' : McpServer} {e : McpEvent}

/-- What holds of a request that waits: its session is known, or its transport
has not been registered yet. -/
def Awaits (env : McpEnv) (w : McpServer) : McpStage → Prop
  | .verifying sid => w.Known sid
  | .opening => True
  | .handling _ transport => transport < w.constructed ∧ ¬ w.Known (env.uuid transport)

/-- The ids that the maps have are those of the transports that were registered. -/
structure Numbered (env : McpEnv) (w : McpServer) : Prop where
  session : ∀ sid transport, w.sessions.get sid = some transport → sid = env.uuid transport ∧ transport < w.constructed
  past : ∀ e ∈ w.evicted, (∃ n < w.constructed, e.1 = env.uuid n) ∧ w.sessions.get e.1 = none
  waiting : ∀ r stage, w.pending.get r = some stage → Awaits env w stage
  apart : ∀ r r' claims claims' n, w.pending.get r = some (.handling claims n) →
    w.pending.get r' = some (.handling claims' n) → r = r'
  claims : ∀ sid, (w.sessionClaims.get sid).isSome → w.Known sid
  activity : ∀ sid, (w.sessionLastActivity.get sid).isSome → w.Known sid
  claimed : ∀ sid, (w.sessions.get sid).isSome → (w.sessionClaims.get sid).isSome
  tracked : ∀ sid, (w.sessions.get sid).isSome → (w.sessionLastActivity.get sid).isSome

theorem Numbered.boot (env : McpEnv) (clock : Int) : Numbered env (boot clock) where
  session _ _ listed := by simp [McpServer.boot] at listed
  past := nofun
  waiting _ _ waits := by simp [McpServer.boot] at waits
  apart _ _ _ _ _ waits := by simp [McpServer.boot] at waits
  claims _ listed := by simp [McpServer.boot] at listed
  activity _ listed := by simp [McpServer.boot] at listed
  claimed _ listed := by simp [McpServer.boot] at listed
  tracked _ listed := by simp [McpServer.boot] at listed

theorem Numbered.known (numbered : Numbered env w) {sid : String} (known : w.Known sid) :
    ∃ n < w.constructed, sid = env.uuid n := by
  rcases known with listed | ⟨e, past, rfl⟩
  · obtain ⟨n, found⟩ := Option.isSome_iff_exists.mp listed
    obtain ⟨same, bound⟩ := numbered.session sid n found
    exact ⟨n, bound, same⟩
  · exact (numbered.past e past).1

theorem Numbered.unknown (numbered : Numbered env w) (fresh : env.uuid.Injective) :
    ¬ w.Known (env.uuid w.constructed) := by
  intro known
  obtain ⟨n, bound, same⟩ := numbered.known known
  have := fresh same
  omega

theorem known_evict {sid closed : String} : (w.evict closed).Known sid ↔ w.Known sid := by
  unfold Known evict
  by_cases same : closed = sid
  · subst same
    by_cases listed : (w.sessions.get closed).isSome
    · simp [listed]
    · simp [listed]
  · rw [Dictionary.get_erase, if_neg same]
    split
    · simp only [List.mem_append, List.mem_singleton]
      refine or_congr_right ⟨?_, fun ⟨e, past, at'⟩ => ⟨e, .inl past, at'⟩⟩
      rintro ⟨e, past | rfl, at'⟩
      · exact ⟨e, past, at'⟩
      · exact absurd at' same
    · rfl

theorem known_register {number transport : Nat} {new sid : String} {claims : AuthClaims} :
    (w.register number transport new claims).Known sid ↔ new = sid ∨ w.Known sid := by
  unfold Known register settle
  dsimp only
  rw [Dictionary.get_set]
  split
  · simp [*]
  · simp [*]

theorem Awaits.mono {stage : McpStage} (awaits : Awaits env w stage) (known : ∀ sid, w'.Known sid ↔ w.Known sid)
    (built : w.constructed ≤ w'.constructed) : Awaits env w' stage := by
  cases stage with
  | verifying sid => exact (known sid).mpr awaits
  | opening => trivial
  | handling claims n => exact ⟨awaits.1.trans_le built, fun listed => awaits.2 ((known _).mp listed)⟩

theorem Numbered.wait (numbered : Numbered env w) {stage : McpStage} (awaits : Awaits env w stage)
    (plain : ∀ claims n, stage ≠ .handling claims n) (requests : List McpRequest) (number : Nat) :
    Numbered env { w with requests, pending := w.pending.set number stage } :=
  { numbered with
    waiting := by
      intro r found waits
      rcases Dictionary.get_set_cases waits with ⟨-, rfl⟩ | ⟨-, before⟩
      · exact awaits
      · exact numbered.waiting r found before
    apart := by
      intro r r' claims claims' n waits waits'
      rcases Dictionary.get_set_cases waits with ⟨-, same⟩ | ⟨-, before⟩
      · exact absurd same (plain claims n)
      · rcases Dictionary.get_set_cases waits' with ⟨-, same⟩ | ⟨-, before'⟩
        · exact absurd same (plain claims' n)
        · exact numbered.apart r r' claims claims' n before before' }

theorem Numbered.settle (numbered : Numbered env w) (number : Nat) : Numbered env (w.settle number) :=
  { numbered with
    waiting := fun r stage waits => numbered.waiting r stage (Dictionary.get_of_erase waits).2
    apart := fun r r' claims claims' n waits waits' =>
      numbered.apart r r' claims claims' n (Dictionary.get_of_erase waits).2 (Dictionary.get_of_erase waits').2 }

theorem Numbered.touch (numbered : Numbered env w) {sid : String} (known : w.Known sid) (number : Nat)
    (claims : AuthClaims) : Numbered env (w.touch number sid claims) :=
  { numbered.settle number with
    claims := fun l listed => (Dictionary.isSome_set.mp listed).elim (fun same => same ▸ known) (numbered.claims l)
    activity := fun l listed => (Dictionary.isSome_set.mp listed).elim (fun same => same ▸ known) (numbered.activity l)
    claimed := fun l listed => Dictionary.isSome_set.mpr (.inr (numbered.claimed l listed))
    tracked := fun l listed => Dictionary.isSome_set.mpr (.inr (numbered.tracked l listed)) }

theorem Numbered.construct (numbered : Numbered env w) (fresh : env.uuid.Injective) (number : Nat) (claims : AuthClaims) :
    Numbered env (w.construct number claims) where
  session sid n listed := by
    obtain ⟨same, bound⟩ := numbered.session sid n listed
    exact ⟨same, bound.trans (Nat.lt_succ_self _)⟩
  past e past := by
    obtain ⟨⟨n, bound, same⟩, gone⟩ := numbered.past e past
    exact ⟨⟨n, bound.trans (Nat.lt_succ_self _), same⟩, gone⟩
  waiting r stage waits := by
    rcases Dictionary.get_set_cases waits with ⟨-, rfl⟩ | ⟨-, before⟩
    · exact ⟨Nat.lt_succ_self _, numbered.unknown fresh⟩
    · exact (numbered.waiting r stage before).mono (fun _ => Iff.rfl) (Nat.le_succ _)
  apart r r' c c' n waits waits' := by
    rcases Dictionary.get_set_cases waits with ⟨rfl, same⟩ | ⟨-, before⟩ <;>
      rcases Dictionary.get_set_cases waits' with ⟨rfl, same'⟩ | ⟨-, before'⟩
    · rfl
    · cases same
      exact absurd (numbered.waiting r' _ before').1 (Nat.lt_irrefl _)
    · cases same'
      exact absurd (numbered.waiting r _ before).1 (Nat.lt_irrefl _)
    · exact numbered.apart r r' c c' n before before'
  claims := numbered.claims
  activity := numbered.activity
  claimed := numbered.claimed
  tracked := numbered.tracked

theorem Numbered.register (numbered : Numbered env w) (fresh : env.uuid.Injective) {number transport : Nat}
    {claims : AuthClaims} (waiting : w.pending.get number = some (.handling claims transport)) :
    Numbered env (w.register number transport (env.uuid transport) claims) := by
  obtain ⟨bound, unknown⟩ := numbered.waiting _ _ waiting
  refine ⟨?_, ?_, ?_, (numbered.settle number).apart, ?_, ?_, ?_, ?_⟩
  · intro sid n listed
    rcases Dictionary.get_set_cases listed with ⟨rfl, rfl⟩ | ⟨-, before⟩
    · exact ⟨rfl, bound⟩
    · exact numbered.session sid n before
  · intro e past
    obtain ⟨origin, gone⟩ := numbered.past e past
    refine ⟨origin, ?_⟩
    have other : env.uuid transport ≠ e.1 := fun same => unknown (.inr ⟨e, past, same.symm⟩)
    exact (Dictionary.get_set.trans (if_neg other)).trans gone
  · intro r stage waits
    obtain ⟨other, before⟩ := Dictionary.get_of_erase waits
    have awaits := numbered.waiting r stage before
    cases stage with
    | verifying sid => exact known_register.mpr (.inr awaits)
    | opening => trivial
    | handling claims' n =>
      refine ⟨awaits.1, fun listed => ?_⟩
      rcases known_register.mp listed with same | known
      · obtain rfl := fresh same
        exact other (numbered.apart number r claims claims' transport waiting before)
      · exact awaits.2 known
  · intro sid listed
    exact known_register.mpr ((Dictionary.isSome_set.mp listed).imp_right (numbered.claims sid))
  · intro sid listed
    exact known_register.mpr ((Dictionary.isSome_set.mp listed).imp_right (numbered.activity sid))
  · intro sid listed
    exact Dictionary.isSome_set.mpr ((Dictionary.isSome_set.mp listed).imp_right (numbered.claimed sid))
  · intro sid listed
    exact Dictionary.isSome_set.mpr ((Dictionary.isSome_set.mp listed).imp_right (numbered.tracked sid))

theorem mem_evicted {sid : String} {e : String × Int} (past : e ∈ (w.evict sid).evicted) :
    e ∈ w.evicted ∨ e = (sid, w.clock) ∧ (w.sessions.get sid).isSome := by
  simp only [evict] at past
  split at past
  · rcases List.mem_append.mp past with before | now
    · exact .inl before
    · exact .inr ⟨List.mem_singleton.mp now, ‹_›⟩
  · exact .inl past

theorem Numbered.evict (numbered : Numbered env w) (sid : String) : Numbered env (w.evict sid) where
  session l n listed := numbered.session l n (Dictionary.get_of_erase listed).2
  past e past := by
    rcases mem_evicted past with before | ⟨rfl, listed⟩
    · obtain ⟨origin, gone⟩ := numbered.past e before
      exact ⟨origin, by simp [McpServer.evict, Dictionary.get_erase, gone]⟩
    · exact ⟨numbered.known (.inl listed), Dictionary.get_erase_self⟩
  waiting r stage waits := (numbered.waiting r stage waits).mono (fun _ => known_evict) le_rfl
  apart := numbered.apart
  claims l listed := known_evict.mpr (numbered.claims l (Dictionary.isSome_erase.mp listed).2)
  activity l listed := known_evict.mpr (numbered.activity l (Dictionary.isSome_erase.mp listed).2)
  claimed l listed := by
    obtain ⟨other, before⟩ := Dictionary.isSome_erase.mp listed
    exact Dictionary.isSome_erase.mpr ⟨other, numbered.claimed l before⟩
  tracked l listed := by
    obtain ⟨other, before⟩ := Dictionary.isSome_erase.mp listed
    exact Dictionary.isSome_erase.mpr ⟨other, numbered.tracked l before⟩

theorem sweep_activity {sid : String} {last : Int}
    (found : (w.sweepIdleMcpSessions env).1.sessionLastActivity.get sid = some last) :
    w.sessionLastActivity.get sid = some last := by
  simp only [sweepIdleMcpSessions, Dictionary.get_delete] at found
  exact (Option.filter_eq_some_iff.mp found).1

theorem Numbered.sweep (numbered : Numbered env w) : Numbered env (w.sweepIdleMcpSessions env).1 :=
  { numbered with
    activity := by
      intro sid listed
      obtain ⟨last, found⟩ := Option.isSome_iff_exists.mp listed
      exact numbered.activity sid (Option.isSome_iff_exists.mpr ⟨last, sweep_activity found⟩)
    tracked := by
      intro sid listed
      have listed : (w.sessions.get sid).isSome := listed
      obtain ⟨last, found⟩ := Option.isSome_iff_exists.mp (numbered.tracked sid listed)
      simp [sweepIdleMcpSessions, Dictionary.get_delete, found, listed] }

theorem Numbered.step (numbered : Numbered env w) (fresh : env.uuid.Injective) (move : Move env w e w') :
    Numbered env w' := by
  cases move with
  | still => exact numbered
  | tick ms => exact { numbered with }
  | answered request => exact { numbered with }
  | verifying request sid _ _ listed =>
    have awaits : Awaits env w (.verifying sid) := .inl listed
    exact numbered.wait awaits (by simp) _ _
  | opening request =>
    have awaits : Awaits env w .opening := trivial
    exact numbered.wait awaits (by simp) _ _
  | settled number => exact numbered.settle number
  | dispatched number transport sid claims waiting listed =>
    exact { numbered.touch (.inl (Option.isSome_iff_exists.mpr ⟨_, listed⟩)) number claims with }
  | lost number result sid claims accepted waiting gone =>
    exact numbered.touch (numbered.waiting number _ waiting) number claims
  | constructed number claims => exact numbered.construct fresh number claims
  | initialized transport => exact { numbered with }
  | registered number transport claims waiting => exact numbered.register fresh waiting
  | evicted transport => exact numbered.evict _
  | swept => exact numbered.sweep

/-- What is known of the request with this number while it waits. -/
def Asked (w : McpServer) (number : Nat) : McpStage → Prop
  | .verifying sid => ∃ request, w.requests[number]? = some request ∧ request.originAllowed ∧
      request.sessionId = some sid ∧ ∀ d ∈ w.deliveries, d.request ≠ number
  | .opening => ∃ request, w.requests[number]? = some request ∧ request.originAllowed ∧
      request.sessionId = none ∧ request.method = .post ∧ ∀ d ∈ w.deliveries, d.request ≠ number
  | .handling claims transport => w.lastClaims transport = some claims

/-- What reached the transports, and from which requests. -/
structure Traced (env : McpEnv) (w : McpServer) : Prop where
  asked : ∀ r stage, w.pending.get r = some stage → w.Asked r stage
  attributed : ∀ d ∈ w.deliveries, ∃ request, Attributed env w d request
  once : (w.deliveries.map McpDelivery.request).Nodup
  current : ∀ sid transport, w.sessions.get sid = some transport → w.sessionClaims.get sid = w.lastClaims transport

theorem Traced.boot (env : McpEnv) (clock : Int) : Traced env (boot clock) where
  asked _ _ waits := by simp [McpServer.boot] at waits
  attributed _ called := absurd called List.not_mem_nil
  once := List.nodup_nil
  current _ _ listed := by simp [McpServer.boot] at listed

@[simp] theorem lastClaims_deliver (number transport other : Nat) (claims : AuthClaims) :
    (w.deliver number transport claims).lastClaims other =
      if transport = other then some claims else w.lastClaims other := by
  simp only [lastClaims, deliver, List.filter_append]
  by_cases same : transport = other <;> simp [same]

/-- Requests come after the ones that are numbered. -/
theorem Asked.more {stage : McpStage} {number : Nat} (asked : w.Asked number stage) (request : McpRequest)
    (pending : Dictionary Nat McpStage) : Asked { w with requests := w.requests ++ [request], pending } number stage := by
  cases stage with
  | verifying sid =>
    obtain ⟨asks, received, rest⟩ := asked
    exact ⟨asks, List.getElem?_snoc_old received, rest⟩
  | opening =>
    obtain ⟨asks, received, rest⟩ := asked
    exact ⟨asks, List.getElem?_snoc_old received, rest⟩
  | handling claims transport => exact asked

theorem Attributed.mono {d : McpDelivery} {request : McpRequest} (attributed : Attributed env w d request)
    (requests : w.requests <+: w'.requests) (verified : w.verified <+: w'.verified) : Attributed env w' d request where
  received := by
    obtain ⟨more, same⟩ := requests
    rw [← same, List.getElem?_append_left (List.getElem?_eq_some_iff.mp attributed.received).1]
    exact attributed.received
  allowed := attributed.allowed
  verified := verified.subset attributed.verified
  addressed := attributed.addressed

theorem Traced.attributed_mono (traced : Traced env w) (requests : w.requests <+: w'.requests)
    (verified : w.verified <+: w'.verified) (d : McpDelivery) (called : d ∈ w.deliveries) :
    ∃ request, Attributed env w' d request := by
  obtain ⟨request, attributed⟩ := traced.attributed d called
  exact ⟨request, attributed.mono requests verified⟩

theorem Traced.arrive (traced : Traced env w) (request : McpRequest) {pending : Dictionary Nat McpStage}
    (asked : ∀ r stage, pending.get r = some stage → w.pending.get r = some stage ∨
      Asked { w with requests := w.requests ++ [request], pending } r stage) :
    Traced env { w with requests := w.requests ++ [request], pending } where
  asked r stage waits := (asked r stage waits).elim (fun before => (traced.asked r stage before).more request pending) id
  attributed := traced.attributed_mono (List.prefix_append _ _) List.prefix_rfl
  once := traced.once
  current := traced.current

/-- No request that was delivered has the number of the next one. -/
theorem Traced.undelivered (traced : Traced env w) : ∀ d ∈ w.deliveries, d.request ≠ w.requests.length := by
  intro d called
  obtain ⟨asks, attributed⟩ := traced.attributed d called
  exact (List.getElem?_eq_some_iff.mp attributed.received).1.ne

theorem Traced.settle (traced : Traced env w) (number : Nat) : Traced env (w.settle number) where
  asked r stage waits := traced.asked r stage (Dictionary.get_of_erase waits).2
  attributed := traced.attributed_mono List.prefix_rfl List.prefix_rfl
  once := traced.once
  current := traced.current

/-- Other requests wait as before when one is delivered. -/
theorem Asked.deliver {stage : McpStage} {number other transport : Nat} {claims : AuthClaims}
    (asked : w.Asked other stage) (apart : number ≠ other)
    (elsewhere : ∀ claims n, stage = .handling claims n → transport ≠ n) :
    (w.deliver number transport claims).Asked other stage := by
  have called : ∀ d ∈ (w.deliver number transport claims).deliveries, d ∈ w.deliveries ∨ d.request = number := by
    intro d called
    rcases List.mem_append.mp called with before | now
    · exact .inl before
    · exact .inr (by rw [List.mem_singleton.mp now])
  cases stage with
  | verifying sid =>
    obtain ⟨asks, received, allowed, names, waits⟩ := asked
    refine ⟨asks, received, allowed, names, fun d call => ?_⟩
    rcases called d call with before | now
    · exact waits d before
    · rwa [now]
  | opening =>
    obtain ⟨asks, received, allowed, unnamed, post, waits⟩ := asked
    refine ⟨asks, received, allowed, unnamed, post, fun d call => ?_⟩
    rcases called d call with before | now
    · exact waits d before
    · rwa [now]
  | handling claims' n =>
    have kept := lastClaims_deliver (w := w) number transport n claims
    rw [if_neg (elsewhere claims' n rfl)] at kept
    exact kept.trans asked

theorem Traced.once_deliver (traced : Traced env w) {number : Nat} (transport : Nat) (claims : AuthClaims)
    (first : ∀ d ∈ w.deliveries, d.request ≠ number) :
    ((w.deliver number transport claims).deliveries.map McpDelivery.request).Nodup := by
  rw [deliver, List.map_append, List.nodup_append]
  refine ⟨traced.once, List.nodup_singleton _, ?_⟩
  intro r before r' now
  obtain ⟨d, called, rfl⟩ := List.mem_map.mp before
  rw [List.mem_singleton.mp now]
  exact first d called

theorem Traced.dispatch (traced : Traced env w) (numbered : Numbered env w) {number transport : Nat} {sid : String}
    (claims : AuthClaims) (waiting : w.pending.get number = some (.verifying sid))
    (listed : w.sessions.get sid = some transport) :
    Traced env ((w.touch number sid claims).deliver number transport claims) := by
  obtain ⟨request, received, allowed, names, first⟩ := traced.asked number _ waiting
  obtain ⟨same, -⟩ := numbered.session sid transport listed
  refine ⟨?_, ?_, traced.once_deliver transport claims first, ?_⟩
  · intro r stage waits
    obtain ⟨other, before⟩ := Dictionary.get_of_erase waits
    refine Asked.deliver (w := w.touch number sid claims) (traced.asked r stage before) other ?_
    rintro claims' n rfl rfl
    -- a transport that is still being built is not registered
    exact (numbered.waiting r _ before).2 (same ▸ .inl (Option.isSome_iff_exists.mpr ⟨_, listed⟩))
  · intro d called
    rcases List.mem_append.mp called with before | now
    · refine traced.attributed_mono ?_ ?_ d before
      · exact List.prefix_rfl
      · exact List.prefix_append _ _
    · rw [List.mem_singleton.mp now]
      exact ⟨request, received, allowed, List.mem_append_right _ (List.mem_singleton_self _),
        .inl (names.trans (congrArg some same))⟩
  · intro l n found
    have found : w.sessions.get l = some n := found
    obtain ⟨same', -⟩ := numbered.session l n found
    have called := lastClaims_deliver (w := w.touch number sid claims) number transport n claims
    by_cases here : sid = l
    · subst here
      obtain rfl := Option.some.inj (listed.symm.trans found)
      rw [if_pos rfl] at called
      exact Dictionary.get_set_self.trans called.symm
    · have there : transport ≠ n := fun equal => here (by rw [same, same', equal])
      rw [if_neg there] at called
      exact ((Dictionary.get_set.trans (if_neg here)).trans (traced.current l n found)).trans called.symm

theorem Traced.lost (traced : Traced env w) {sid : String} (gone : w.sessions.get sid = none) (number : Nat)
    (claims : AuthClaims) : Traced env (w.touch number sid claims) where
  asked := (traced.settle number).asked
  attributed := traced.attributed_mono List.prefix_rfl (List.prefix_append _ _)
  once := traced.once
  current l n listed := by
    have listed : w.sessions.get l = some n := listed
    have apart : sid ≠ l := fun same => by simp [← same, gone] at listed
    exact (Dictionary.get_set.trans (if_neg apart)).trans (traced.current l n listed)

theorem Traced.construct (traced : Traced env w) (numbered : Numbered env w) {number : Nat}
    (claims : AuthClaims) (waiting : w.pending.get number = some .opening) : Traced env (w.construct number claims) := by
  obtain ⟨request, received, allowed, unnamed, post, first⟩ := traced.asked number _ waiting
  refine ⟨?_, ?_, traced.once_deliver w.constructed claims first, ?_⟩
  · intro r stage waits
    rcases Dictionary.get_set_cases waits with ⟨-, rfl⟩ | ⟨other, before⟩
    · exact (lastClaims_deliver (w := w) number w.constructed w.constructed claims).trans (if_pos rfl)
    · refine Asked.deliver (traced.asked r stage before) other ?_
      rintro claims' n rfl rfl
      exact absurd (numbered.waiting r _ before).1 (Nat.lt_irrefl _)
  · intro d called
    rcases List.mem_append.mp called with before | now
    · refine traced.attributed_mono ?_ ?_ d before
      · exact List.prefix_rfl
      · exact List.prefix_append _ _
    · rw [List.mem_singleton.mp now]
      exact ⟨request, received, allowed, List.mem_append_right _ (List.mem_singleton_self _), .inr ⟨unnamed, post⟩⟩
  · intro l n listed
    obtain ⟨-, bound⟩ := numbered.session l n listed
    have called := lastClaims_deliver (w := w) number w.constructed n claims
    rw [if_neg bound.ne'] at called
    exact (traced.current l n listed).trans called.symm

theorem Traced.register (traced : Traced env w) {number transport : Nat} {claims : AuthClaims}
    (waiting : w.pending.get number = some (.handling claims transport)) :
    Traced env (w.register number transport (env.uuid transport) claims) where
  asked := (traced.settle number).asked
  attributed := traced.attributed_mono List.prefix_rfl List.prefix_rfl
  once := traced.once
  current sid n listed := by
    rcases Dictionary.get_set_cases listed with ⟨rfl, rfl⟩ | ⟨other, before⟩
    · exact Dictionary.get_set_self.trans (traced.asked number _ waiting).symm
    · exact (Dictionary.get_set.trans (if_neg other)).trans (traced.current sid n before)

theorem Traced.evict (traced : Traced env w) (sid : String) : Traced env (w.evict sid) where
  asked := traced.asked
  attributed := traced.attributed_mono List.prefix_rfl List.prefix_rfl
  once := traced.once
  current l n listed := by
    obtain ⟨other, before⟩ := Dictionary.get_of_erase listed
    exact (Dictionary.get_erase.trans (if_neg other)).trans (traced.current l n before)

theorem Traced.step (traced : Traced env w) (numbered : Numbered env w) (move : Move env w e w') : Traced env w' := by
  have plain : w'.requests = w.requests → w'.verified = w.verified → ∀ d ∈ w.deliveries, ∃ request,
      Attributed env w' d request := fun requests verified =>
    traced.attributed_mono (requests ▸ List.prefix_rfl) (verified ▸ List.prefix_rfl)
  cases move with
  | still => exact traced
  | tick ms => exact { traced with attributed := plain rfl rfl }
  | answered request => exact traced.arrive request fun r stage before => .inl before
  | verifying request sid allowed names listed =>
    refine traced.arrive request fun r stage waits => ?_
    rcases Dictionary.get_set_cases waits with ⟨rfl, rfl⟩ | ⟨-, before⟩
    · exact .inr ⟨request, by simp, allowed, names, traced.undelivered⟩
    · exact .inl before
  | opening request allowed unnamed post =>
    refine traced.arrive request fun r stage waits => ?_
    rcases Dictionary.get_set_cases waits with ⟨rfl, rfl⟩ | ⟨-, before⟩
    · exact .inr ⟨request, by simp, allowed, unnamed, post, traced.undelivered⟩
    · exact .inl before
  | settled number => exact traced.settle number
  | dispatched number transport sid claims waiting listed => exact traced.dispatch numbered claims waiting listed
  | lost number result sid claims accepted waiting gone => exact traced.lost gone number claims
  | constructed number claims waiting => exact traced.construct numbered claims waiting
  | initialized transport => exact { traced with attributed := plain rfl rfl }
  | registered number transport claims waiting => exact traced.register waiting
  | evicted transport => exact traced.evict _
  | swept => exact { traced with attributed := plain rfl rfl }

structure Timed (env : McpEnv) (w : McpServer) : Prop where
  past : ∀ d ∈ w.deliveries, d.time ≤ w.clock ∧ d.transport < w.constructed
  active : ∀ sid last, w.sessionLastActivity.get sid = some last →
    ∀ d ∈ w.deliveries, env.uuid d.transport = sid → d.time ≤ last
  evicted : ∀ e ∈ w.evicted, ∀ d ∈ w.deliveries, env.uuid d.transport = e.1 → d.time ≤ e.2
  closing : ∀ c ∈ w.closing, w.Known c.1 ∧ c.2 ≤ w.clock ∧
    ∀ d ∈ w.deliveries, env.uuid d.transport = c.1 → d.time < c.2 → d.time + env.sessionTtlMs < c.2

theorem Timed.boot (env : McpEnv) (clock : Int) : Timed env (boot clock) where
  past _ called := absurd called List.not_mem_nil
  active _ _ listed := by simp [McpServer.boot] at listed
  evicted _ past := absurd past List.not_mem_nil
  closing _ asked := absurd asked List.not_mem_nil

theorem Timed.tick (timed : Timed env w) (ms : Nat) : Timed env { w with clock := w.clock + ms } where
  past d called := by
    obtain ⟨past, built⟩ := timed.past d called
    exact ⟨past.trans (by simp), built⟩
  active := timed.active
  evicted := timed.evicted
  closing c asked := by
    obtain ⟨known, past, idle⟩ := timed.closing c asked
    exact ⟨known, past.trans (by simp), idle⟩

theorem Timed.touch (timed : Timed env w) (number : Nat) (sid : String) (claims : AuthClaims) :
    Timed env (w.touch number sid claims) where
  past := timed.past
  active l last listed d called names := by
    rcases Dictionary.get_set_cases listed with ⟨-, rfl⟩ | ⟨-, before⟩
    · exact (timed.past d called).1
    · exact timed.active l last before d called names
  evicted := timed.evicted
  closing := timed.closing

/-- A delivery to a transport whose session has not been closed, and has no
older time of activity. -/
theorem Timed.deliver (timed : Timed env w) {transport : Nat} (built : transport < w.constructed)
    (active : ∀ last, w.sessionLastActivity.get (env.uuid transport) = some last → last = w.clock)
    (open' : ∀ e ∈ w.evicted, e.1 ≠ env.uuid transport) (number : Nat) (claims : AuthClaims) :
    Timed env (w.deliver number transport claims) where
  past d called := by
    rcases List.mem_append.mp called with before | now
    · exact timed.past d before
    · rw [List.mem_singleton.mp now]
      exact ⟨le_rfl, built⟩
  active sid last listed d called names := by
    rcases List.mem_append.mp called with before | now
    · exact timed.active sid last listed d before names
    · rw [List.mem_singleton.mp now] at names ⊢
      exact (active last (names ▸ listed)).ge
  evicted e past d called names := by
    rcases List.mem_append.mp called with before | now
    · exact timed.evicted e past d before names
    · rw [List.mem_singleton.mp now] at names
      exact absurd names.symm (open' e past)
  closing c asked := by
    obtain ⟨known, past, idle⟩ := timed.closing c asked
    refine ⟨known, past, fun d called names early => ?_⟩
    rcases List.mem_append.mp called with before | now
    · exact idle d before names early
    · rw [List.mem_singleton.mp now] at early
      exact absurd early past.not_gt

theorem Timed.construct (timed : Timed env w) (numbered : Numbered env w) (fresh : env.uuid.Injective) (number : Nat)
    (claims : AuthClaims) : Timed env (w.construct number claims) := by
  have unknown := numbered.unknown fresh
  have built : Timed env { w with constructed := w.constructed + 1 } :=
    { timed with past := fun d called => ⟨(timed.past d called).1, (timed.past d called).2.trans (Nat.lt_succ_self _)⟩ }
  have delivered := built.deliver (Nat.lt_succ_self w.constructed)
    (fun last listed => absurd (numbered.activity _ (Option.isSome_iff_exists.mpr ⟨last, listed⟩)) unknown)
    (fun e past same => unknown (.inr ⟨e, past, same⟩)) number claims
  exact { delivered with }

theorem Timed.evict (timed : Timed env w) (sid : String) : Timed env (w.evict sid) where
  past := timed.past
  active l last listed := timed.active l last (Dictionary.get_of_erase listed).2
  evicted e past d called names := by
    rcases mem_evicted past with before | ⟨rfl, -⟩
    · exact timed.evicted e before d called names
    · exact (timed.past d called).1
  closing c asked := by
    obtain ⟨known, rest⟩ := timed.closing c asked
    exact ⟨known_evict.mpr known, rest⟩

theorem Timed.sweep (timed : Timed env w) : Timed env (w.sweepIdleMcpSessions env).1 where
  past := timed.past
  active sid last listed := timed.active sid last (sweep_activity listed)
  evicted := timed.evicted
  closing c asked := by
    rcases List.mem_append.mp asked with before | now
    · exact timed.closing c before
    · obtain ⟨⟨sid, last⟩, swept, rfl⟩ := List.mem_map.mp now
      obtain ⟨entry, idle⟩ := List.mem_filter.mp swept
      simp only [McpServer.idle, Bool.and_eq_true, decide_eq_true_eq] at idle
      refine ⟨.inl idle.2, le_rfl, fun d called names _ => ?_⟩
      have := timed.active sid last (Dictionary.get_eq_some.mpr entry) d called names
      show d.time + env.sessionTtlMs < w.clock
      omega

theorem Timed.step (timed : Timed env w) (numbered : Numbered env w) (fresh : env.uuid.Injective)
    (move : Move env w e w') : Timed env w' := by
  cases move with
  | still => exact timed
  | tick ms => exact timed.tick ms
  | answered request => exact { timed with }
  | verifying request => exact { timed with }
  | opening request => exact { timed with }
  | settled number => exact { timed with }
  | dispatched number transport sid claims waiting listed =>
    obtain ⟨rfl, built⟩ := numbered.session sid transport listed
    refine (timed.touch number _ claims).deliver built ?_ ?_ number claims
    · intro last active
      exact (Option.some.inj (Dictionary.get_set_self.symm.trans active)).symm
    · rintro e past same
      have gone := (numbered.past e past).2
      rw [same, listed] at gone
      cases gone
  | lost number result sid claims => exact timed.touch number sid claims
  | constructed number claims => exact timed.construct numbered fresh number claims
  | initialized transport => exact { timed with }
  | registered number transport claims waiting =>
    have touched := timed.touch number (env.uuid transport) claims
    exact { touched with
      closing := fun c asked => ⟨known_register.mpr (.inr (timed.closing c asked).1), (timed.closing c asked).2⟩ }
  | evicted transport => exact timed.evict _
  | swept => exact timed.sweep

/-- What every event keeps. -/
structure Kept (env : McpEnv) (w : McpServer) : Prop where
  numbered : Numbered env w
  traced : Traced env w
  timed : Timed env w

theorem Kept.boot (env : McpEnv) (clock : Int) : Kept env (boot clock) :=
  ⟨.boot env clock, .boot env clock, .boot env clock⟩

theorem Kept.step (kept : Kept env w) (fresh : env.uuid.Injective) (e : McpEvent) : Kept env (w.step env e) where
  numbered := kept.numbered.step fresh (step_move env w e)
  traced := kept.traced.step kept.numbered (step_move env w e)
  timed := kept.timed.step kept.numbered fresh (step_move env w e)

theorem Kept.run (fresh : env.uuid.Injective) (clock : Int) (events : List McpEvent) :
    Kept env (events.foldl (McpServer.step env) (McpServer.boot clock)) := by
  have run : GuardedRun (McpServer.step env) (fun _ _ => True) (McpServer.boot clock) _ :=
    .of_inputs fun e (_ : e ∈ events) => trivial
  exact run.invariant (fun w e kept _ => kept.step fresh e) (.boot env clock)

/-- The maps have the same keys. -/
structure InStep (w : McpServer) : Prop where
  claims : ∀ sid, (w.sessionClaims.get sid).isSome → (w.sessions.get sid).isSome
  activity : ∀ sid, (w.sessionLastActivity.get sid).isSome → (w.sessions.get sid).isSome

/-- No session is closed while a request that names it is authenticated. -/
def Undisturbed (env : McpEnv) (w : McpServer) : McpEvent → Prop
  | .verified number result => ∀ sid claims, w.pending.get number = some (.verifying sid) →
      env.authenticateMcpRequest result = .accepted claims → (w.sessions.get sid).isSome
  | _ => True

theorem InStep.touch (inStep : InStep w) {sid : String} (listed : (w.sessions.get sid).isSome) (number : Nat)
    (claims : AuthClaims) : InStep (w.touch number sid claims) where
  claims l found := (Dictionary.isSome_set.mp found).elim (fun same => same ▸ listed) (inStep.claims l)
  activity l found := (Dictionary.isSome_set.mp found).elim (fun same => same ▸ listed) (inStep.activity l)

theorem InStep.step (inStep : InStep w) (move : Move env w e w') (undisturbed : Undisturbed env w e) : InStep w' := by
  cases move with
  | still => exact inStep
  | tick ms => exact { inStep with }
  | answered request => exact { inStep with }
  | verifying request => exact { inStep with }
  | opening request => exact { inStep with }
  | settled number => exact { inStep with }
  | dispatched number transport sid claims waiting listed =>
    exact { inStep.touch (Option.isSome_iff_exists.mpr ⟨_, listed⟩) number claims with }
  | lost number result sid claims accepted waiting gone =>
    have listed := undisturbed sid claims waiting accepted
    rw [gone] at listed
    cases listed
  | constructed number claims => exact { inStep with }
  | initialized transport => exact { inStep with }
  | registered number transport claims waiting =>
    exact ⟨fun l found => Dictionary.isSome_set.mpr ((Dictionary.isSome_set.mp found).imp_right (inStep.claims l)),
      fun l found => Dictionary.isSome_set.mpr ((Dictionary.isSome_set.mp found).imp_right (inStep.activity l))⟩
  | evicted transport =>
    exact ⟨fun l found => Dictionary.isSome_erase.mpr ((Dictionary.isSome_erase.mp found).imp_right (inStep.claims l)),
      fun l found => Dictionary.isSome_erase.mpr ((Dictionary.isSome_erase.mp found).imp_right (inStep.activity l))⟩
  | swept =>
    refine ⟨inStep.claims, fun l found => ?_⟩
    obtain ⟨last, stays⟩ := Option.isSome_iff_exists.mp found
    exact inStep.activity l (Option.isSome_iff_exists.mpr ⟨last, sweep_activity stays⟩)

/-- A request that outlives its session leaves its claims behind. -/
theorem undisturbed_of_inStep (inStep : InStep (w.step env e)) : Undisturbed env w e := by
  cases e with
  | verified number result =>
    intro sid claims waiting accepted
    cases gone : w.sessions.get sid with
    | some transport => rfl
    | none =>
      have touched : w.step env (.verified number result) = w.touch number sid claims := by
        simp [McpServer.step, authenticated, waiting, accepted, dispatch, McpServer.touch, settle, gone]
      rw [touched] at inStep
      have listed : (w.sessions.get sid).isSome := inStep.claims sid (Dictionary.isSome_set.mpr (.inl rfl))
      rwa [gone] at listed
  | _ => trivial

theorem Kept.laws (kept : Kept env w) : SessionLaws env w where
  current sid transport listed := by
    refine ⟨?_, kept.traced.current sid transport listed⟩
    exact kept.numbered.claimed sid (Option.isSome_iff_exists.mpr ⟨_, listed⟩)
  tracked := kept.numbered.tracked
  attributed := kept.traced.attributed
  once := kept.traced.once
  final e past := ⟨(kept.numbered.past e past).2, kept.timed.evicted e past⟩
  idle c asked := ⟨(kept.timed.closing c asked).1, (kept.timed.closing c asked).2.2⟩

end

/-- Every request reaches at most one transport, that of the session it names or
its own, under its own claims; what is closed stays closed; the sweep closes
only what is idle. -/
theorem mcp_sessions_lawful (env : McpEnv) (fresh : env.uuid.Injective) (clock : Int) (events : List McpEvent) :
    SessionLaws env (events.foldl (McpServer.step env) (McpServer.boot clock)) :=
  (Kept.run fresh clock events).laws

def namedTransports : McpEnv :=
  { authEnabled := false, sessionTtlMs := 1800000, uuid := fun n => String.ofList (List.replicate (n + 1) 'x') }

theorem namedTransports_injective : namedTransports.uuid.Injective := by
  intro n m same
  simpa [namedTransports] using congrArg String.length same

/-- A session that is opened, and swept half an hour after its last request. -/
def openedAndSwept : List McpEvent :=
  [.arrive ⟨.post, true, none⟩, .verified 0 .thrown, .assigned 0, .handled 0, .arrive ⟨.post, true, some "x"⟩,
    .tick 1800001, .sweep, .onclose 0]

theorem mcp_sessions_lawful_swept :
    SessionLaws namedTransports (openedAndSwept.foldl (McpServer.step namedTransports) (boot 0)) ∧
      (openedAndSwept.foldl (McpServer.step namedTransports) (boot 0)).closing = [("x", 1800001)] ∧
      (openedAndSwept.foldl (McpServer.step namedTransports) (boot 0)).evicted = [("x", 1800001)] :=
  ⟨mcp_sessions_lawful namedTransports namedTransports_injective 0 openedAndSwept, by decide +kernel, by decide +kernel⟩

/-- The maps have the same keys all along a run exactly if no session is closed
while a request that names it is authenticated. -/
theorem maps_in_step_iff (env : McpEnv) (clock : Int) (events : List McpEvent) :
    (∀ done, done <+: events → InStep (done.foldl (McpServer.step env) (McpServer.boot clock))) ↔
      GuardedRun.Meets (McpServer.step env) (Undisturbed env) (McpServer.boot clock) events := by
  refine GuardedRun.Meets.iff_always (P := InStep) ?_ (fun _ inStep => inStep) ?_ ?_
  · constructor <;> simp [McpServer.boot]
  · intro w e inStep undisturbed
    exact inStep.step (step_move env w e) undisturbed
  · intro w e _ inStep
    exact undisturbed_of_inStep inStep

/-- The claims of a session that is closed by then. -/
example :
    let disturbed := openedAndSwept ++ [.verified 1 .thrown]
    (disturbed.foldl (McpServer.step namedTransports) (boot 0)).getSessionClaims none "x" = some mcpLegacyClaims := by
  decide +kernel

end Coordinator.McpServer
