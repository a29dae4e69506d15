import Coordinator.AuthClaims
import Coordinator.Library.TopicFilter
import Coordinator.Schema
import Coordinator.WaitSettlement

namespace Coordinator

open TopicFilter (levels matchesTopic)

def orgPrefix (orgId : String) : String := "coordinator/" ++ orgId ++ "/"

/-- The agent named by an agent-status topic. -/
def agentStatusTopicOwner (topic org : String) : Option String :=
  match levels topic with
  | [root, topicOrg, kind, agentId, leaf] =>
    if root ≠ "coordinator" ∨ topicOrg ≠ org ∨ kind ≠ "agents" ∨ leaf ≠ "status" then none
    else if agentId = "" then none
    else some agentId
  | _ => none

/-- `text.slice(from)`. -/
def slice (text : String) (start : Nat) : String := String.ofList (text.toList.drop start)

/-- `topic.replace(/^coordinator\/[^/]+\//, "")`: the run of characters other than a slash
is not empty, and a slash follows it. -/
def stripOrg (topic : String) : String :=
  if startsWith topic "coordinator/" then
    let tail := topic.toList.drop "coordinator/".length
    match tail.takeWhile (· ≠ '/'), tail.dropWhile (· ≠ '/') with
    | _ :: _, _ :: rest => String.ofList rest
    | _, _ => topic
  else topic

/-- `topic.replace(/^coordinator\//, "")`. -/
def stripRoot (topic : String) : String :=
  if startsWith topic "coordinator/" then slice topic "coordinator/".length else topic

def scopedTopic (orgId topic : String) : String :=
  if startsWith topic (orgPrefix orgId) then topic else orgPrefix orgId ++ stripRoot (stripOrg topic)

/-- The third case is `/^agents\/[^/]+\/status$/`. -/
def routable (rest : String) : Bool :=
  rest = "broadcast" || startsWith rest "consultations/" ||
    match levels rest with
    | [kind, agentId, leaf] => kind = "agents" && agentId ≠ "" && leaf = "status"
    | _ => false

/-- What one publish does: the value returned, the topic and payload sent, and the drops recorded. -/
structure PublishOutcome where
  accepted : Bool
  published : Option (String × String)
  drops : List (String × String)
  deriving DecidableEq, Repr

def mqttPublish (connected : Bool) (orgId topic payload : String) (callerAgentId : Option String) : PublishOutcome :=
  if connected then
    let sent := scopedTopic orgId topic
    let rest := slice sent (orgPrefix orgId).length
    let drops := if routable rest then [] else [("unroutable_topic", sent)]
    let owner := agentStatusTopicOwner sent orgId
    if callerAgentId ≠ none ∧ owner ≠ none ∧ owner ≠ callerAgentId then
      ⟨false, none, drops ++ [("foreign_agent_status", sent)]⟩
    else ⟨true, some (sent, payload), drops⟩
  else ⟨true, none, []⟩

def subscriptions : List String :=
  ["coordinator/+/agents/+/status", "coordinator/+/consultations/#", "coordinator/+/broadcast"]

/-- What `JSON.parse` makes of a payload: its `status`, if that is a string. -/
inductive ParsedPayload
  | malformed
  | status (status : String)
  | other
  deriving DecidableEq, Repr

/-- Whose status the message handler takes a topic for. -/
def statusTopic (topic : String) : Option (String × String) :=
  let parts := levels topic
  let orgId := parts[1]?.getD ""
  if orgId = "" then none
  else if parts[2]? = some "agents" ∧ parts[4]? = some "status" then some (orgId, parts[3]?.getD "")
  else none

def ParsedPayload.statusText (text : String) : ParsedPayload → String
  | .status s => s
  | _ => text

/-- The bridge after a message, and the call of the offline handler. -/
def Bridge.onMessage (b : Bridge) (topic text : String) (parsed : ParsedPayload) (timestamp : Int) :
    Bridge × Option (String × String) :=
  let parts := levels topic
  let orgId := parts[1]?.getD ""
  if orgId = "" then (b, none)
  else
    let departing := (statusTopic topic).filter fun _ => parsed.statusText text = "offline"
    let b := match departing with
      | some (orgId, agentId) => b.removeListener orgId agentId
      | none => b
    let fansOut := parts[2]? = some "consultations" ∨ parts[2]? = some "broadcast"
    (if fansOut ∧ parsed ≠ .malformed then b.message orgId topic text timestamp else b, departing)

/-- The offline handler is called for the agent whose status it is, and for no other topic. -/
theorem Bridge.onMessage_offline {b : Bridge} {topic text orgId agentId : String} {parsed : ParsedPayload}
    {timestamp : Int} : (b.onMessage topic text parsed timestamp).2 = some (orgId, agentId) ↔
      statusTopic topic = some (orgId, agentId) ∧ parsed.statusText text = "offline" := by
  simp only [Bridge.onMessage]
  split
  · rename_i nameless
    simp [statusTopic, nameless]
  · simp only [Option.filter_eq_some_iff, decide_eq_true_eq]

def internalBridgeRole : AuthRole := .internal

/-- What the authenticate hook attaches to a client of the broker. -/
structure MqttClient where
  org : String
  role : AuthRole
  agentId : Option ClaimValue
  deriving DecidableEq, Repr

/-- Only the token of an agent names one. -/
def MqttClient.ofClaims (claims : StrictClaims) : MqttClient where
  org := claims.org
  role := claims.role
  agentId := if claims.role = .agent then some claims.sub else none

/-- `createAedesAuthorizePublishHook`. -/
def authorizePublish (client : MqttClient) (topic : String) : Except String Unit :=
  if client.role = internalBridgeRole then .ok ()
  else if client.org = "" then .error "MQTT client missing org"
  else if !startsWith topic (orgPrefix client.org) then .error "Cross-org publish denied"
  else
    match agentStatusTopicOwner topic client.org with
    | none => .ok ()
    | some owner =>
      if client.agentId ≠ some (.str owner) then .error "Publishing another agent's status is denied" else .ok ()

/-- The bridge is sent the topic, and takes it for the status of an agent. -/
def TakenForStatus (topic orgId agentId : String) : Prop :=
  (∃ filter ∈ subscriptions, matchesTopic filter topic) ∧ statusTopic topic = some (orgId, agentId) ∧ agentId ≠ ""

section
variable {orgId agentId caller topic rest : String}

theorem startsWith_orgPrefix_iff : startsWith topic (orgPrefix orgId) ↔ ∃ rest, topic = orgPrefix orgId ++ rest := by
  rw [startsWith, List.isPrefixOf_iff_prefix]
  constructor
  · rintro ⟨rest, joined⟩
    refine ⟨String.ofList rest, String.toList_injective ?_⟩
    rw [String.toList_append, String.toList_ofList, joined]
  · rintro ⟨rest, rfl⟩
    rw [String.toList_append]
    exact List.prefix_append _ _

theorem scopedTopic_starts (orgId topic : String) : startsWith (scopedTopic orgId topic) (orgPrefix orgId) := by
  rw [scopedTopic]
  split
  · assumption
  · exact startsWith_orgPrefix_iff.mpr ⟨_, rfl⟩

theorem levels_orgPrefix (flat : '/' ∉ orgId.toList) (rest : String) :
    levels (orgPrefix orgId ++ rest) = "coordinator" :: orgId :: levels rest := by
  have grouped : orgPrefix orgId ++ rest = "coordinator" ++ "/" ++ (orgId ++ "/" ++ rest) := by
    apply String.toList_injective
    simp [orgPrefix]
  rw [grouped, TopicFilter.levels_append (by decide), TopicFilter.levels_append flat]

/-- Of the three subscriptions only the first hears a status, and it has five levels. -/
theorem TakenForStatus.levels_eq (taken : TakenForStatus topic orgId agentId) :
    levels topic = ["coordinator", orgId, "agents", agentId, "status"] := by
  obtain ⟨⟨filter, listed, matched⟩, status, -⟩ := taken
  have matched := TopicFilter.matchLevels_of_matchesTopic matched
  simp only [statusTopic] at status
  generalize levels topic = parts at matched status
  simp only [subscriptions, List.mem_cons, List.not_mem_nil, or_false] at listed
  rcases listed with rfl | rfl | rfl
  · rw [show (levels "coordinator/+/agents/+/status").map TopicFilter.FilterLevel.parse =
      [.exactly "coordinator", .single, .exactly "agents", .single, .exactly "status"] by decide] at matched
    simp only [TopicFilter.matchLevels_exactly, TopicFilter.matchLevels_single, TopicFilter.matchLevels_nil] at matched
    obtain ⟨_, rfl, org, _, rfl, _, rfl, agent, _, rfl, _, rfl, rfl⟩ := matched
    simp at status
    obtain ⟨-, rfl, rfl⟩ := status
    rfl
  · rw [show (levels "coordinator/+/consultations/#").map TopicFilter.FilterLevel.parse =
      [.exactly "coordinator", .single, .exactly "consultations", .multi] by decide] at matched
    simp only [TopicFilter.matchLevels_exactly, TopicFilter.matchLevels_single] at matched
    obtain ⟨_, rfl, org, _, rfl, _, rfl, -⟩ := matched
    simp at status
  · rw [show (levels "coordinator/+/broadcast").map TopicFilter.FilterLevel.parse =
      [.exactly "coordinator", .single, .exactly "broadcast"] by decide] at matched
    simp only [TopicFilter.matchLevels_exactly, TopicFilter.matchLevels_single, TopicFilter.matchLevels_nil] at matched
    obtain ⟨_, rfl, org, _, rfl, _, rfl, rfl⟩ := matched
    simp at status

/-- What the bridge takes for a status inside an organisation is one for the publishers too. -/
theorem TakenForStatus.owner {org : String} (taken : TakenForStatus topic orgId agentId) (flat : '/' ∉ org.toList)
    (starts : startsWith topic (orgPrefix org)) : orgId = org ∧ agentStatusTopicOwner topic org = some agentId := by
  obtain ⟨rest, rfl⟩ := startsWith_orgPrefix_iff.mp starts
  have parts := taken.levels_eq
  have same : orgId = org := by
    rw [levels_orgPrefix flat] at parts
    exact (List.cons.inj (List.cons.inj parts).2).1.symm
  refine ⟨same, ?_⟩
  rw [agentStatusTopicOwner, parts]
  simp [same, taken.2.2]

theorem mqttPublish_published {connected : Bool} {payload sent sentPayload : String} {callerAgentId : Option String}
    (published : (mqttPublish connected orgId topic payload callerAgentId).published = some (sent, sentPayload)) :
    sent = scopedTopic orgId topic ∧
      (callerAgentId ≠ none → ∀ owner, agentStatusTopicOwner sent orgId = some owner → callerAgentId = some owner) := by
  simp only [mqttPublish] at published
  split at published
  · split at published
    · cases published
    · rename_i allowed
      obtain ⟨rfl, -⟩ := Prod.mk.inj (Option.some.inj published)
      refine ⟨rfl, ?_⟩
      intro named owner owned
      by_contra foreign
      refine allowed ⟨named, by simp [owned], ?_⟩
      rw [owned]
      exact Ne.symm foreign
  · cases published

theorem authorizePublish_ok {client : MqttClient} (notBridge : client.role ≠ internalBridgeRole)
    (accepted : authorizePublish client topic = .ok ()) :
    startsWith topic (orgPrefix client.org) ∧
      ∀ owner, agentStatusTopicOwner topic client.org = some owner → client.agentId = some (.str owner) := by
  simp only [authorizePublish, if_neg notBridge] at accepted
  split at accepted
  · cases accepted
  · split at accepted
    · cases accepted
    · rename_i starts
      refine ⟨by simpa using starts, ?_⟩
      intro owner owned
      rw [owned] at accepted
      by_contra foreign
      simp [foreign] at accepted

/-- A client that has an agent id is not the bridge. -/
theorem MqttClient.ofClaims_named {claims : StrictClaims} {id : ClaimValue}
    (named : (MqttClient.ofClaims claims).agentId = some id) :
    (MqttClient.ofClaims claims).role ≠ internalBridgeRole := by
  intro bridge
  simp only [ofClaims, internalBridgeRole] at named bridge
  simp [bridge] at named

/-- Whatever an agent publishes stays in its organisation, and what the bridge takes
for the status of an agent is the publisher's own. -/
theorem status_topics_agree (orgId caller : String) (flat : '/' ∉ orgId.toList) :
    (∀ connected topic payload sent sentPayload,
      (mqttPublish connected orgId topic payload (some caller)).published = some (sent, sentPayload) →
        startsWith sent (orgPrefix orgId) ∧
          ∀ org agentId, TakenForStatus sent org agentId → org = orgId ∧ agentId = caller) ∧
    (∀ claims topic, claims.org = orgId → (MqttClient.ofClaims claims).agentId = some (.str caller) →
      authorizePublish (.ofClaims claims) topic = .ok () →
        startsWith topic (orgPrefix orgId) ∧
          ∀ org agentId, TakenForStatus topic org agentId → org = orgId ∧ agentId = caller) := by
  constructor
  · intro connected topic payload sent sentPayload published
    obtain ⟨rfl, own⟩ := mqttPublish_published published
    have starts := scopedTopic_starts orgId topic
    refine ⟨starts, ?_⟩
    intro org agentId taken
    obtain ⟨same, owner⟩ := taken.owner flat starts
    exact ⟨same, (Option.some.inj (own (by simp) _ owner)).symm⟩
  · intro claims topic org named accepted
    obtain ⟨starts, own⟩ := authorizePublish_ok (MqttClient.ofClaims_named named) accepted
    rw [show (MqttClient.ofClaims claims).org = orgId from org] at starts own
    refine ⟨starts, ?_⟩
    intro org agentId taken
    obtain ⟨same, owner⟩ := taken.owner flat starts
    have held := own _ owner
    rw [named] at held
    cases held
    exact ⟨same, rfl⟩

/-- A topic of another organisation is brought home, and the broker lets the agent say the same itself. -/
theorem status_topics_agree_ada :
    TakenForStatus "coordinator/acme/agents/ada/status" "acme" "ada" ∧
      (∀ org agentId, TakenForStatus "coordinator/acme/agents/ada/status" org agentId → org = "acme" ∧ agentId = "ada") ∧
      startsWith "coordinator/acme/agents/ada/status" (orgPrefix "acme") := by
  have agree := status_topics_agree "acme" "ada" (by decide)
  have published := agree.1 true "coordinator/evil/agents/ada/status" "offline"
    "coordinator/acme/agents/ada/status" "offline" (by decide)
  have accepted := agree.2 ⟨.str "ada", .agent, "u1", "acme", none⟩ "coordinator/acme/agents/ada/status" rfl rfl
    (by decide)
  exact ⟨⟨⟨_, List.mem_cons_self, by decide⟩, by decide, by decide⟩, published.2, accepted.1⟩

end

end Coordinator
