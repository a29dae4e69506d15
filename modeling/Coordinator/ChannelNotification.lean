import Coordinator.GitCochange
import Coordinator.Library.JsonText

namespace Coordinator
namespace Channel

open PathNormalize (CodeUnits units slash)

/-- What a field of `null` is read as. -/
structure TypeError where
  reading : String
  deriving DecidableEq, Repr

def space : UInt16 := 32

def maxRelayedFieldChars : Nat := 200

def truncated : CodeUnits := units "... (truncated)"

/-- A code unit of a payload as it is passed on. The loop of `strField` goes by
code points, of which these are all below the surrogates. -/
def replaced (c : UInt16) : UInt16 :=
  if c < 32 || c = 127 then space else if c = 60 then 40 else if c = 62 then 41 else c

/-- `.replace(/ {2,}/g, " ")`. -/
def collapse : CodeUnits → CodeUnits
  | [] => []
  | [c] => [c]
  | c :: d :: rest => if c = space ∧ d = space then collapse (d :: rest) else c :: collapse (d :: rest)

def cap (s : CodeUnits) : CodeUnits :=
  if maxRelayedFieldChars < s.length then s.take maxRelayedFieldChars ++ truncated else s

def sanitise (v : CodeUnits) : CodeUnits := cap (GitCochange.trim (collapse (v.map replaced)))

def strField (obj : Json) (key : String) : Except TypeError CodeUnits :=
  match obj with
  | .null => .error ⟨key⟩
  | .object members =>
    match Json.member members (units key) with
    | some (.string v) => .ok (sanitise v)
    | _ => .ok []
  | _ => .ok []

/-- The topics that are passed on, with what is taken from their segments. -/
inductive Route where
  | consultationNew (org : CodeUnits)
  | consultationMessage (org threadId : CodeUnits)
  | agentStatus (org agentId : CodeUnits)
  deriving DecidableEq, Repr

def route (topic : CodeUnits) : Option Route :=
  let parts := topic.splitOn slash
  let org := parts[1]?.getD (units "unknown")
  if parts[2]? = some (units "consultations") ∧ parts[3]? = some (units "new") then some (.consultationNew org)
  else if parts[2]? = some (units "consultations") ∧ parts[4]? = some (units "messages") then
    some (.consultationMessage org (parts[3]?.getD []))
  else if parts[2]? = some (units "agents") ∧ parts[4]? = some (units "status") then
    some (.agentStatus org (parts[3]?.getD []))
  else none

/-- An event with the fields it relays. -/
inductive ChannelEvent where
  | consultationNew (org threadId agentId subject : CodeUnits)
  | consultationMessage (org threadId agentId type content : CodeUnits)
  | agentStatus (org agentId status name reason : CodeUnits)
  deriving DecidableEq, Repr

structure ChannelNotificationParams where
  content : CodeUnits
  metaBag : List (String × CodeUnits)
  deriving DecidableEq, Repr

/-- `text || other`. -/
def orText (text : CodeUnits) (other : String) : CodeUnits := if text = [] then units other else text

def ChannelEvent.params : ChannelEvent → ChannelNotificationParams
  | consultationNew org threadId agentId subject =>
    { content := units "New consultation from " ++ orText agentId "unknown agent" ++ units " (thread " ++
        orText threadId "?" ++ units "): " ++ orText subject "(no subject)"
      metaBag := [("event_type", units "consultation_new"), ("org", org), ("thread_id", threadId), ("agent_id", agentId)] }
  | consultationMessage org threadId agentId type content =>
    let trimmed := if 160 < content.length then content.take 157 ++ units "..." else content
    { content := units "Message on thread " ++ threadId ++ units " from " ++ orText agentId "unknown" ++ units " [" ++
        orText type "msg" ++ units "]: " ++ trimmed
      metaBag := [("event_type", units "consultation_message"), ("org", org), ("thread_id", threadId),
        ("agent_id", agentId), ("message_type", type)] }
  | agentStatus org agentId status name reason =>
    let who := if name ≠ [] then agentId ++ units " (" ++ name ++ units ")" else agentId
    let tail := if reason ≠ [] then units " — " ++ reason else []
    { content := units "Agent " ++ who ++ units " is " ++ orText status "unknown" ++ tail
      metaBag := [("event_type", units "agent_status"), ("org", org), ("agent_id", agentId), ("status", status)] }

/-- The fields that come from the topic or the payload. -/
def ChannelEvent.relayed : ChannelEvent → List CodeUnits
  | consultationNew org threadId agentId subject => [org, threadId, agentId, subject]
  | consultationMessage org threadId agentId type content => [org, threadId, agentId, type, content]
  | agentStatus org agentId status name reason => [org, agentId, status, name, reason]

/-- The fields of the payload, in the order in which they are read. -/
def Route.event (payload : Json) : Route → Except TypeError ChannelEvent
  | consultationNew org => do
    let threadId ← strField payload "thread_id"
    let agentId ← strField payload "agent_id"
    let subject ← strField payload "subject"
    return .consultationNew org threadId agentId subject
  | consultationMessage org threadId => do
    let agentId ← strField payload "agent_id"
    let type ← strField payload "type"
    let content ← strField payload "content"
    return .consultationMessage org threadId agentId type content
  | agentStatus org agentId => do
    let status ← strField payload "status"
    let name ← strField payload "name"
    let reason ← strField payload "reason"
    return .agentStatus org agentId status name reason

/-- The event of a message, where a tombstone, text that is not JSON and any other topic have none. -/
def channelEvent (topic rawPayload : CodeUnits) : Except TypeError (Option ChannelEvent) :=
  if rawPayload.length = 0 then .ok none
  else match Json.parse rawPayload with
    | none => .ok none
    | some payload =>
      match route topic with
      | none => .ok none
      | some r => (r.event payload).map some

def buildChannelNotification (topic rawPayload : CodeUnits) : Except TypeError (Option ChannelNotificationParams) :=
  (channelEvent topic rawPayload).map (·.map ChannelEvent.params)

/-- No angle bracket and no control character. -/
def harmless (c : UInt16) : Bool := c ≠ 60 && c ≠ 62 && 32 ≤ c && c ≠ 127

/-- A field at its longest: cut off, with the marker behind. -/
def relayedCap : Nat := maxRelayedFieldChars + truncated.length

/-- A field that may go into the context of another agent. -/
def Fits (field : CodeUnits) : Prop := field.all harmless ∧ field.length ≤ relayedCap

/-- What a notification may carry into the context of another agent. -/
structure Sanitised (n : ChannelNotificationParams) : Prop where
  content : n.content.all harmless
  metaBag : ∀ entry ∈ n.metaBag, entry.2.all harmless

/-- The call returns, and its notification, if there is one, is sanitised and made of capped fields. -/
structure Safe (topic rawPayload : CodeUnits) : Prop where
  returns : ∃ result, buildChannelNotification topic rawPayload = .ok result
  sanitised : ∀ n, buildChannelNotification topic rawPayload = .ok (some n) → Sanitised n
  capped : ∀ e, channelEvent topic rawPayload = .ok (some e) → ∀ field ∈ e.relayed, field.length ≤ relayedCap

/-- The segments of the topic that are relayed as they stand. -/
def Route.segments : Route → List CodeUnits
  | consultationNew org => [org]
  | consultationMessage org threadId => [org, threadId]
  | agentStatus org agentId => [org, agentId]

/-- A message of a topic that is passed on is not `null`, and the segments relayed from the topic are sanitised already. -/
def Relayable (topic rawPayload : CodeUnits) : Prop :=
  rawPayload ≠ [] → ∀ payload, Json.parse rawPayload = some payload → ∀ r, route topic = some r →
    payload ≠ .null ∧ ∀ segment ∈ r.segments, Fits segment

/-- The fields that a route reads from the payload. -/
def Route.fieldNames : Route → String × String × String
  | consultationNew _ => ("thread_id", "agent_id", "subject")
  | consultationMessage _ _ => ("agent_id", "type", "content")
  | agentStatus _ _ => ("status", "name", "reason")

def Route.withFields : Route → CodeUnits → CodeUnits → CodeUnits → ChannelEvent
  | consultationNew org => .consultationNew org
  | consultationMessage org threadId => .consultationMessage org threadId
  | agentStatus org agentId => .agentStatus org agentId

variable {topic rawPayload s v : CodeUnits} {payload : Json} {r : Route} {e : ChannelEvent}

theorem harmless_replaced (c : UInt16) : harmless (replaced c) := by
  unfold replaced
  split
  · decide
  · rename_i plain
    split
    · decide
    · split
      · decide
      · simp only [Bool.or_eq_true, decide_eq_true_eq, not_or, UInt16.not_lt] at plain
        simp only [harmless, Bool.and_eq_true, decide_eq_true_eq, ne_eq]
        exact ⟨⟨⟨‹_›, ‹_›⟩, plain.1⟩, plain.2⟩

theorem collapse_subset (s : CodeUnits) : collapse s ⊆ s := by
  fun_induction collapse s with
  | case1 => exact List.Subset.refl _
  | case2 c => exact List.Subset.refl _
  | case3 c d rest both ih => exact List.Subset.trans ih (List.subset_cons_self _ _)
  | case4 c d rest apart ih => exact List.cons_subset_cons _ ih

theorem trim_subset (s : CodeUnits) : GitCochange.trim s ⊆ s := by
  intro c member
  rw [GitCochange.trim, List.mem_reverse] at member
  have inner := List.mem_reverse.mp ((List.dropWhile_sublist _).subset member)
  exact (List.dropWhile_sublist _).subset inner

theorem all_of_subset (subset : s ⊆ v) (clean : v.all harmless) : s.all harmless :=
  List.all_eq_true.mpr fun c member => List.all_eq_true.mp clean c (subset member)

theorem cap_clean (clean : s.all harmless) : (cap s).all harmless := by
  unfold cap
  split
  · rw [List.all_append, Bool.and_eq_true]
    exact ⟨all_of_subset (List.take_subset _ _) clean, by decide +kernel⟩
  · exact clean

theorem cap_length (s : CodeUnits) : (cap s).length ≤ relayedCap := by
  unfold cap relayedCap
  split
  · rw [List.length_append, List.length_take]
    omega
  · omega

theorem sanitise_clean (v : CodeUnits) : (sanitise v).all harmless := by
  refine cap_clean (all_of_subset (List.Subset.trans (trim_subset _) (collapse_subset _)) ?_)
  rw [List.all_map]
  exact List.all_eq_true.mpr fun c _ => harmless_replaced c

/-- A field that is read is sanitised and capped, whatever the payload holds under its name. -/
theorem strField_ok {key : String} (read : strField payload key = .ok s) : Fits s := by
  have fits : ∀ w : CodeUnits, w = [] ∨ (∃ v, w = sanitise v) → Fits w := by
    rintro w (rfl | ⟨v, rfl⟩)
    · exact ⟨rfl, Nat.zero_le _⟩
    · exact ⟨sanitise_clean v, cap_length _⟩
  refine fits s ?_
  cases payload with
  | null => cases read
  | object members =>
    simp only [strField] at read
    split at read
    · cases read
      exact .inr ⟨_, rfl⟩
    · cases read
      exact .inl rfl
  | _ =>
    cases read
    exact .inl rfl

theorem strField_total (some : payload ≠ .null) (key : String) : ∃ s, strField payload key = .ok s := by
  cases payload with
  | null => exact absurd rfl some
  | object members =>
    simp only [strField]
    split <;> exact ⟨_, rfl⟩
  | _ => exact ⟨_, rfl⟩

theorem bind_ok {α β : Type} {x : Except TypeError α} {f : α → Except TypeError β} {b : β} (ok : x >>= f = .ok b) :
    ∃ a, x = .ok a ∧ f a = .ok b := by
  cases x with
  | error _ => cases ok
  | ok a => exact ⟨a, rfl, ok⟩

theorem event_eq (payload : Json) (r : Route) : r.event payload = do
    let a ← strField payload r.fieldNames.1
    let b ← strField payload r.fieldNames.2.1
    let c ← strField payload r.fieldNames.2.2
    return r.withFields a b c := by
  cases r <;> rfl

theorem event_ok (read : r.event payload = .ok e) : ∃ a b c, Fits a ∧ Fits b ∧ Fits c ∧ e = r.withFields a b c := by
  rw [event_eq] at read
  obtain ⟨a, readA, read⟩ := bind_ok read
  obtain ⟨b, readB, read⟩ := bind_ok read
  obtain ⟨c, readC, read⟩ := bind_ok read
  cases read
  exact ⟨a, b, c, strField_ok readA, strField_ok readB, strField_ok readC, rfl⟩

/-- What an event relays is a segment of the topic or a field that was read. -/
theorem event_relayed (read : r.event payload = .ok e) : ∀ field ∈ e.relayed, field ∈ r.segments ∨ Fits field := by
  obtain ⟨a, b, c, fitsA, fitsB, fitsC, rfl⟩ := event_ok read
  cases r <;> simp [Route.withFields, ChannelEvent.relayed, Route.segments, fitsA, fitsB, fitsC]

/-- Every segment is relayed, and stands in the meta bag as it is. -/
theorem event_segments (read : r.event payload = .ok e) :
    ∀ segment ∈ r.segments, segment ∈ e.relayed ∧ segment ∈ e.params.metaBag.map Prod.snd := by
  obtain ⟨a, b, c, -, -, -, rfl⟩ := event_ok read
  cases r <;> simp [Route.withFields, ChannelEvent.relayed, ChannelEvent.params, Route.segments]

theorem event_total (some : payload ≠ .null) (r : Route) : ∃ e, r.event payload = .ok e := by
  obtain ⟨a, readA⟩ := strField_total some r.fieldNames.1
  obtain ⟨b, readB⟩ := strField_total some r.fieldNames.2.1
  obtain ⟨c, readC⟩ := strField_total some r.fieldNames.2.2
  exact ⟨r.withFields a b c, by rw [event_eq, readA, readB, readC]; rfl⟩

theorem event_null (r : Route) : ∃ error, r.event .null = .error error := by
  cases r <;> exact ⟨_, rfl⟩

theorem orText_clean (clean : s.all harmless) {other : String} (plain : (units other).all harmless) :
    (orText s other).all harmless := by
  unfold orText
  split
  · exact plain
  · exact clean

/-- The texts around the fields are harmless, so clean fields make a clean notification. -/
theorem params_sanitised (clean : ∀ field ∈ e.relayed, field.all harmless) : Sanitised e.params := by
  cases e with
  | consultationNew org threadId agentId subject =>
    simp only [ChannelEvent.relayed, List.forall_mem_cons, List.not_mem_nil, false_implies, implies_true, and_true] at clean
    obtain ⟨ofOrg, ofThread, ofAgent, ofSubject⟩ := clean
    refine ⟨?_, ?_⟩
    · simp only [ChannelEvent.params, List.all_append, Bool.and_eq_true]
      exact ⟨⟨⟨⟨⟨by decide +kernel, orText_clean ofAgent (by decide +kernel)⟩, by decide +kernel⟩,
        orText_clean ofThread (by decide +kernel)⟩, by decide +kernel⟩, orText_clean ofSubject (by decide +kernel)⟩
    · simp only [ChannelEvent.params, List.forall_mem_cons, List.not_mem_nil, false_implies, implies_true, and_true]
      exact ⟨by decide +kernel, ofOrg, ofThread, ofAgent⟩
  | consultationMessage org threadId agentId type content =>
    simp only [ChannelEvent.relayed, List.forall_mem_cons, List.not_mem_nil, false_implies, implies_true, and_true] at clean
    obtain ⟨ofOrg, ofThread, ofAgent, ofType, ofContent⟩ := clean
    have trimmed : (if 160 < content.length then content.take 157 ++ units "..." else content).all harmless := by
      split
      · rw [List.all_append, Bool.and_eq_true]
        exact ⟨all_of_subset (List.take_subset _ _) ofContent, by decide +kernel⟩
      · exact ofContent
    refine ⟨?_, ?_⟩
    · simp only [ChannelEvent.params, List.all_append, Bool.and_eq_true]
      exact ⟨⟨⟨⟨⟨⟨⟨by decide +kernel, ofThread⟩, by decide +kernel⟩, orText_clean ofAgent (by decide +kernel)⟩,
        by decide +kernel⟩, orText_clean ofType (by decide +kernel)⟩, by decide +kernel⟩, trimmed⟩
    · simp only [ChannelEvent.params, List.forall_mem_cons, List.not_mem_nil, false_implies, implies_true, and_true]
      exact ⟨by decide +kernel, ofOrg, ofThread, ofAgent, ofType⟩
  | agentStatus org agentId status name reason =>
    simp only [ChannelEvent.relayed, List.forall_mem_cons, List.not_mem_nil, false_implies, implies_true, and_true] at clean
    obtain ⟨ofOrg, ofAgent, ofStatus, ofName, ofReason⟩ := clean
    have who : (if name ≠ [] then agentId ++ units " (" ++ name ++ units ")" else agentId).all harmless := by
      split
      · simp only [List.all_append, Bool.and_eq_true]
        exact ⟨⟨⟨ofAgent, by decide +kernel⟩, ofName⟩, by decide +kernel⟩
      · exact ofAgent
    have tail : (if reason ≠ [] then units " — " ++ reason else []).all harmless := by
      split
      · rw [List.all_append, Bool.and_eq_true]
        exact ⟨by decide +kernel, ofReason⟩
      · rfl
    refine ⟨?_, ?_⟩
    · simp only [ChannelEvent.params, List.all_append, Bool.and_eq_true]
      exact ⟨⟨⟨⟨by decide +kernel, who⟩, by decide +kernel⟩, orText_clean ofStatus (by decide +kernel)⟩, tail⟩
    · simp only [ChannelEvent.params, List.forall_mem_cons, List.not_mem_nil, false_implies, implies_true, and_true]
      exact ⟨by decide +kernel, ofOrg, ofAgent, ofStatus⟩

/-- What is built for a payload that is read, on a topic that is passed on. -/
theorem channelEvent_routed (given : rawPayload ≠ []) (parsed : Json.parse rawPayload = some payload)
    (routed : route topic = some r) : channelEvent topic rawPayload = (r.event payload).map some := by
  rw [channelEvent, if_neg (by simpa using given), parsed, routed]

theorem channelEvent_some (built : channelEvent topic rawPayload = .ok (some e)) :
    rawPayload ≠ [] ∧ ∃ payload r, Json.parse rawPayload = some payload ∧ route topic = some r ∧ r.event payload = .ok e := by
  unfold channelEvent at built
  split at built
  · cases built
  · rename_i given
    split at built
    · cases built
    · rename_i payload parsed
      split at built
      · cases built
      · rename_i r routed
        cases read : r.event payload with
        | error _ =>
          rw [read] at built
          cases built
        | ok event =>
          rw [read] at built
          cases built
          exact ⟨by simpa using given, payload, r, parsed, routed, read⟩

theorem notification_some {n : ChannelNotificationParams}
    (notified : buildChannelNotification topic rawPayload = .ok (some n)) :
    ∃ e, channelEvent topic rawPayload = .ok (some e) ∧ n = e.params := by
  rw [buildChannelNotification] at notified
  cases built : channelEvent topic rawPayload with
  | error _ =>
    rw [built] at notified
    cases notified
  | ok event =>
    rw [built] at notified
    cases event with
    | none => cases notified
    | some e =>
      cases notified
      exact ⟨e, rfl, rfl⟩

theorem notification_returns (regular : rawPayload ≠ [] → ∀ payload, Json.parse rawPayload = some payload →
    ∀ r, route topic = some r → payload ≠ .null) : ∃ result, buildChannelNotification topic rawPayload = .ok result := by
  unfold buildChannelNotification channelEvent
  split
  · exact ⟨none, rfl⟩
  · rename_i given
    split
    · exact ⟨none, rfl⟩
    · rename_i payload parsed
      split
      · exact ⟨none, rfl⟩
      · rename_i r routed
        obtain ⟨e, read⟩ := event_total (regular (by simpa using given) payload parsed r routed) r
        exact ⟨some e.params, by rw [read]; rfl⟩

/-- The call is safe just when the payload of a routed topic is not `null` and
what the topic itself relays needs no sanitising. -/
theorem safe_iff (topic rawPayload : CodeUnits) : Safe topic rawPayload ↔ Relayable topic rawPayload := by
  constructor
  · intro safe given payload parsed r routed
    have built := channelEvent_routed given parsed routed
    have some : payload ≠ .null := by
      rintro rfl
      obtain ⟨result, returned⟩ := safe.returns
      obtain ⟨error, thrown⟩ := event_null r
      rw [buildChannelNotification, built, thrown] at returned
      cases returned
    obtain ⟨e, read⟩ := event_total some r
    rw [read] at built
    refine ⟨some, fun segment member => ?_⟩
    obtain ⟨relayed, listed⟩ := event_segments read segment member
    obtain ⟨entry, inBag, rfl⟩ := List.mem_map.mp listed
    have notified : buildChannelNotification topic rawPayload = .ok (e.params) := by
      rw [buildChannelNotification, built]
      rfl
    exact ⟨(safe.sanitised e.params notified).metaBag entry inBag, safe.capped e built entry.2 relayed⟩
  · intro relayable
    have fits : ∀ e, channelEvent topic rawPayload = .ok (some e) → ∀ field ∈ e.relayed, Fits field := by
      intro e built field member
      obtain ⟨given, payload, r, parsed, routed, read⟩ := channelEvent_some built
      rcases event_relayed read field member with segment | fits
      · exact (relayable given payload parsed r routed).2 field segment
      · exact fits
    refine ⟨?_, ?_, fun e built field member => (fits e built field member).2⟩
    · exact notification_returns fun given payload parsed r routed => (relayable given payload parsed r routed).1
    · intro n notified
      obtain ⟨e, built, rfl⟩ := notification_some notified
      exact params_sanitised fun field member => (fits e built field member).1

/-- The payload `null` is JSON, and reading a field of it throws outside the `try`. -/
theorem not_safe : ¬ ∀ topic rawPayload : CodeUnits, Safe topic rawPayload := by
  intro safe
  obtain ⟨result, returned⟩ := (safe (units "coordinator/acme/consultations/new") (units "null")).returns
  have thrown : buildChannelNotification (units "coordinator/acme/consultations/new") (units "null") =
      .error ⟨"thread_id"⟩ := by decide +kernel
  rw [thrown] at returned
  cases returned

end Channel

end Coordinator
