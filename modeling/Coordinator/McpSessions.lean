import Coordinator.MqttAdmission
import Coordinator.Library.Dictionary
import Coordinator.Library.GuardedRun

namespace Coordinator

inductive McpMethod
  | get
  | post
  | other
  deriving DecidableEq

/-- What the `/mcp` route reads of a request, `originAllowed` being the answer
of `isAllowedOrigin`. -/
structure McpRequest where
  method : McpMethod
  originAllowed : Bool
  mcpSessionId : Option String
  deriving DecidableEq

/-- An absent header and an empty one count the same. -/
def McpRequest.sessionId (request : McpRequest) : Option String := request.mcpSessionId.filter (· ≠ "")

inductive McpReply
  | failed (status : Nat) (error : String)
  | unauthorized (status : Nat) (error : String) (wwwAuthenticate : Option String)
  /-- The transport answers. -/
  | handedOver
  deriving DecidableEq

namespace McpReply

def originRefused : McpReply := failed 403 "Origin not allowed"

def sessionNotFound : McpReply :=
  failed 404 "Session not found. Send a request without mcp-session-id to start a new session."

def methodNotAllowed : McpReply :=
  failed 405 "Method not allowed without mcp-session-id. Send a POST to start a new session."

def sessionIdRequired : McpReply :=
  failed 400
    "Bad Request: mcp-session-id header is required. Send a POST without mcp-session-id to start a new session."

def internalError : McpReply := failed 500 "Internal server error"

end McpReply

/-- Where a request stands that is not answered yet. `verifying` and `opening`
await `authenticateMcpRequest`, `handling` awaits `handleRequest` of the
transport that was built for it. -/
inductive McpStage
  | verifying (sid : String)
  | opening
  | handling (claims : AuthClaims) (transport : Nat)
  deriving DecidableEq

/-- A call of a transport's `handleRequest`, inside `requestClaims.run(claims, …)`. -/
structure McpDelivery where
  request : Nat
  transport : Nat
  claims : AuthClaims
  time : Int
  deriving DecidableEq

/-- `uuid n` is what `randomUUID` draws for the transport that is built as the
one with number `n`. -/
structure McpEnv where
  authEnabled : Bool
  sessionTtlMs : Int
  uuid : Nat → String

/-- The maps of the server, with the requests and transports that use them.
A request has the number it arrived as, a transport the one it was built as. -/
structure McpServer where
  clock : Int
  requests : List McpRequest
  pending : Dictionary Nat McpStage
  constructed : Nat
  /-- The transports that have a session id. -/
  initialized : List Nat
  sessions : Dictionary String Nat
  sessionClaims : Dictionary String AuthClaims
  sessionLastActivity : Dictionary String Int
  /-- What `authenticateMcpRequest` returned, in the order of its answers. -/
  verified : List (Nat × AuthClaims)
  deliveries : List McpDelivery
  /-- The sessions that a sweep asked to close, and when. -/
  closing : List (String × Int)
  /-- The sessions that were closed, and when. -/
  evicted : List (String × Int)

/-- `verified` ends the `await` of `authenticateRequest`, `handled` that of the
first `handleRequest`. A transport may close at any time. -/
inductive McpEvent
  | tick (ms : Nat)
  | arrive (request : McpRequest)
  | verified (request : Nat) (result : AuthResult)
  | assigned (transport : Nat)
  | handled (request : Nat)
  | onclose (transport : Nat)
  | sweep

def mcpLegacyClaims : AuthClaims := { legacyClaims with jti := some "legacy" }

def McpEnv.authenticateMcpRequest (env : McpEnv) (result : AuthResult) : AuthResult :=
  if env.authEnabled then result else .accepted mcpLegacyClaims

/-- `getStore` is the claims of the request that is being handled, if one is. -/
def resolveClaims (getStore fromSession : Option AuthClaims) : Option AuthClaims := getStore.or fromSession

namespace McpServer

def boot (clock : Int) : McpServer := ⟨clock, [], .empty, 0, [], .empty, .empty, .empty, [], [], [], []⟩

def getSessionClaims (w : McpServer) (getStore : Option AuthClaims) (sid : String) : Option AuthClaims :=
  resolveClaims getStore (w.sessionClaims.get sid)

/-- The `/mcp` route up to its first `await`; `none` where it waits. -/
def arrive (request : McpRequest) (w : McpServer) : McpServer × Option McpReply :=
  let number := w.requests.length
  let w := { w with requests := w.requests ++ [request] }
  if ¬ request.originAllowed then (w, some .originRefused)
  else match request.sessionId with
    | some sid =>
      if (w.sessions.get sid).isSome then ({ w with pending := w.pending.set number (.verifying sid) }, none)
      else (w, some .sessionNotFound)
    | none => match request.method with
      | .post => ({ w with pending := w.pending.set number .opening }, none)
      | .get => (w, some .methodNotAllowed)
      | .other => (w, some .sessionIdRequired)

def settle (number : Nat) (w : McpServer) : McpServer := { w with pending := w.pending.erase number }

def touch (number : Nat) (sid : String) (claims : AuthClaims) (w : McpServer) : McpServer :=
  { w.settle number with
    verified := w.verified ++ [(number, claims)], sessionClaims := w.sessionClaims.set sid claims,
    sessionLastActivity := w.sessionLastActivity.set sid w.clock }

def deliver (number transport : Nat) (claims : AuthClaims) (w : McpServer) : McpServer :=
  { w with deliveries := w.deliveries ++ [⟨number, transport, claims, w.clock⟩] }

/-- The transport is looked up again, after the `await`. -/
def dispatch (number : Nat) (sid : String) (claims : AuthClaims) (w : McpServer) : McpServer × Option McpReply :=
  let w := w.touch number sid claims
  match w.sessions.get sid with
  | some transport => (w.deliver number transport claims, some .handedOver)
  | none => (w, some .internalError)

def construct (number : Nat) (claims : AuthClaims) (w : McpServer) : McpServer :=
  { w.deliver number w.constructed claims with
    verified := w.verified ++ [(number, claims)], pending := w.pending.set number (.handling claims w.constructed),
    constructed := w.constructed + 1 }

def refuse (number : Nat) (w : McpServer) : AuthResult → McpServer × Option McpReply
  | .refused status error wwwAuthenticate => (w.settle number, some (.unauthorized status error wwwAuthenticate))
  | _ => (w.settle number, some .internalError)

def authenticated (env : McpEnv) (number : Nat) (result : AuthResult) (w : McpServer) : McpServer × Option McpReply :=
  match w.pending.get number, env.authenticateMcpRequest result with
  | some (.verifying sid), .accepted claims => w.dispatch number sid claims
  | some .opening, .accepted claims => (w.construct number claims, none)
  | some (.verifying _), refusal | some .opening, refusal => w.refuse number refusal
  | _, _ => (w, none)

def transportSessionId (env : McpEnv) (transport : Nat) (w : McpServer) : Option String :=
  if transport ∈ w.initialized then some (env.uuid transport) else none

def register (number transport : Nat) (sid : String) (claims : AuthClaims) (w : McpServer) : McpServer :=
  { w.settle number with
    sessions := w.sessions.set sid transport, sessionClaims := w.sessionClaims.set sid claims,
    sessionLastActivity := w.sessionLastActivity.set sid w.clock }

def handled (env : McpEnv) (number : Nat) (w : McpServer) : McpServer × Option McpReply :=
  match w.pending.get number with
  | some (.handling claims transport) =>
    match w.transportSessionId env transport with
    | some sid => (w.register number transport sid claims, some .handedOver)
    | none => (w.settle number, some .handedOver)
  | _ => (w, none)

def evict (sid : String) (w : McpServer) : McpServer :=
  { w with
    sessions := w.sessions.erase sid, sessionClaims := w.sessionClaims.erase sid,
    sessionLastActivity := w.sessionLastActivity.erase sid,
    evicted := if (w.sessions.get sid).isSome then w.evicted ++ [(sid, w.clock)] else w.evicted }

def onclose (env : McpEnv) (transport : Nat) (w : McpServer) : McpServer :=
  match w.transportSessionId env transport with
  | some sid => w.evict sid
  | none => w

def idle (env : McpEnv) (w : McpServer) (entry : String × Int) : Bool := env.sessionTtlMs < w.clock - entry.2

/-- The number is that of the sessions it asked to close. -/
def sweepIdleMcpSessions (env : McpEnv) (w : McpServer) : McpServer × Nat :=
  let asked := w.sessionLastActivity.rows.filter fun e => w.idle env e && (w.sessions.get e.1).isSome
  ({ w with
      closing := w.closing ++ asked.map fun e => (e.1, w.clock)
      sessionLastActivity := w.sessionLastActivity.delete fun e => w.idle env e && !(w.sessions.get e.1).isSome },
    asked.length)

def step (env : McpEnv) (w : McpServer) : McpEvent → McpServer
  | .tick ms => { w with clock := w.clock + ms }
  | .arrive request => (w.arrive request).1
  | .verified number result => (w.authenticated env number result).1
  | .assigned transport => { w with initialized := w.initialized ++ [transport] }
  | .handled number => (w.handled env number).1
  | .onclose transport => w.onclose env transport
  | .sweep => (w.sweepIdleMcpSessions env).1

/-- The claims that the last call of the transport came with. -/
def lastClaims (w : McpServer) (transport : Nat) : Option AuthClaims :=
  (w.deliveries.filter fun d => d.transport = transport).getLast?.map McpDelivery.claims

/-- The session is open or was. -/
def Known (w : McpServer) (sid : String) : Prop := (w.sessions.get sid).isSome ∨ ∃ e ∈ w.evicted, e.1 = sid

/-- A request reaches the transport of the session that it names, or the one
built for it, under the claims that were verified for it. -/
structure Attributed (env : McpEnv) (w : McpServer) (d : McpDelivery) (request : McpRequest) : Prop where
  received : w.requests[d.request]? = some request
  allowed : request.originAllowed
  verified : (d.request, d.claims) ∈ w.verified
  addressed : request.sessionId = some (env.uuid d.transport) ∨ request.sessionId = none ∧ request.method = .post

/-- What holds of the sessions, whatever the requests and however they interleave. -/
structure SessionLaws (env : McpEnv) (w : McpServer) : Prop where
  /-- A tool call of an open session has claims, outside of a request too, and
  there they are those of the last request that reached its transport. -/
  current : ∀ sid transport, w.sessions.get sid = some transport →
    (w.getSessionClaims none sid).isSome ∧ w.getSessionClaims none sid = w.lastClaims transport
  /-- The sweep looks at every open session. -/
  tracked : ∀ sid, (w.sessions.get sid).isSome → (w.sessionLastActivity.get sid).isSome
  attributed : ∀ d ∈ w.deliveries, ∃ request, Attributed env w d request
  once : (w.deliveries.map McpDelivery.request).Nodup
  /-- A closed session stays closed, and no request reaches its transport again. -/
  final : ∀ e ∈ w.evicted, w.sessions.get e.1 = none ∧
    ∀ d ∈ w.deliveries, env.uuid d.transport = e.1 → d.time ≤ e.2
  /-- The sweep closes no session that a request has reached within the limit. -/
  idle : ∀ c ∈ w.closing, w.Known c.1 ∧
    ∀ d ∈ w.deliveries, env.uuid d.transport = c.1 → d.time < c.2 → d.time + env.sessionTtlMs < c.2

/-- What one event does to the server. -/
inductive Move (env : McpEnv) (w : McpServer) : McpEvent → McpServer → Prop
  | still {e : McpEvent} : Move env w e w
  | tick {e : McpEvent} (ms : Nat) : Move env w e { w with clock := w.clock + ms }
  | answered {e : McpEvent} (request : McpRequest) : Move env w e { w with requests := w.requests ++ [request] }
  | verifying {e : McpEvent} (request : McpRequest) (sid : String) (allowed : request.originAllowed)
      (names : request.sessionId = some sid) (listed : (w.sessions.get sid).isSome) :
      Move env w e { w with
        requests := w.requests ++ [request], pending := w.pending.set w.requests.length (.verifying sid) }
  | opening {e : McpEvent} (request : McpRequest) (allowed : request.originAllowed) (unnamed : request.sessionId = none)
      (post : request.method = .post) :
      Move env w e { w with requests := w.requests ++ [request], pending := w.pending.set w.requests.length .opening }
  | settled {e : McpEvent} (number : Nat) : Move env w e (w.settle number)
  | dispatched {e : McpEvent} (number transport : Nat) (sid : String) (claims : AuthClaims)
      (waiting : w.pending.get number = some (.verifying sid)) (listed : w.sessions.get sid = some transport) :
      Move env w e ((w.touch number sid claims).deliver number transport claims)
  | lost (number : Nat) (result : AuthResult) (sid : String) (claims : AuthClaims)
      (accepted : env.authenticateMcpRequest result = .accepted claims)
      (waiting : w.pending.get number = some (.verifying sid)) (gone : w.sessions.get sid = none) :
      Move env w (.verified number result) (w.touch number sid claims)
  | constructed {e : McpEvent} (number : Nat) (claims : AuthClaims) (waiting : w.pending.get number = some .opening) :
      Move env w e (w.construct number claims)
  | initialized {e : McpEvent} (transport : Nat) : Move env w e { w with initialized := w.initialized ++ [transport] }
  | registered {e : McpEvent} (number transport : Nat) (claims : AuthClaims)
      (waiting : w.pending.get number = some (.handling claims transport)) :
      Move env w e (w.register number transport (env.uuid transport) claims)
  | evicted {e : McpEvent} (transport : Nat) : Move env w e (w.evict (env.uuid transport))
  | swept {e : McpEvent} : Move env w e (w.sweepIdleMcpSessions env).1

theorem arrive_move (env : McpEnv) (request : McpRequest) (w : McpServer) :
    Move env w (.arrive request) (w.arrive request).1 := by
  unfold arrive
  split
  · exact .answered request
  · rename_i allowed
    have allowed : request.originAllowed := by simpa using allowed
    split
    · rename_i sid names
      dsimp only
      split
      · exact .verifying request sid allowed names ‹_›
      · exact .answered request
    · rename_i unnamed
      split
      · exact .opening request allowed unnamed ‹_›
      · exact .answered request
      · exact .answered request

theorem refuse_move (env : McpEnv) (number : Nat) (w : McpServer) (refusal : AuthResult) {e : McpEvent} :
    Move env w e (w.refuse number refusal).1 := by
  unfold refuse
  split <;> exact .settled number

theorem authenticated_move (env : McpEnv) (number : Nat) (result : AuthResult) (w : McpServer) :
    Move env w (.verified number result) (w.authenticated env number result).1 := by
  unfold authenticated
  split
  · rename_i sid claims waiting accepted
    unfold dispatch
    dsimp only [touch, settle]
    split
    · exact .dispatched number _ sid claims waiting ‹_›
    · exact .lost number result sid claims accepted waiting ‹_›
  · exact .constructed number _ ‹_›
  · exact refuse_move env number w _
  · exact refuse_move env number w _
  · exact .still

theorem handled_move (env : McpEnv) (number : Nat) (w : McpServer) :
    Move env w (.handled number) (w.handled env number).1 := by
  unfold handled
  split
  · rename_i claims transport waiting
    unfold transportSessionId
    split
    · rename_i sid assigned
      split at assigned
      · cases assigned
        exact .registered number transport claims waiting
      · cases assigned
    · exact .settled number
  · exact .still

theorem onclose_move (env : McpEnv) (transport : Nat) (w : McpServer) :
    Move env w (.onclose transport) (w.onclose env transport) := by
  unfold onclose transportSessionId
  split
  · rename_i sid assigned
    split at assigned
    · cases assigned
      exact .evicted transport
    · cases assigned
  · exact .still

theorem step_move (env : McpEnv) (w : McpServer) (e : McpEvent) : Move env w e (w.step env e) := by
  cases e with
  | tick ms => exact .tick ms
  | arrive request => exact arrive_move env request w
  | verified number result => exact authenticated_move env number result w
  | assigned transport => exact .initialized transport
  | handled number => exact handled_move env number w
  | onclose transport => exact onclose_move env transport w
  | sweep => exact .swept

end McpServer

end Coordinator
