import Coordinator.OperationWrites
import Coordinator.RestRoutes
import Coordinator.TenantEvents

namespace Coordinator

/-- A request that a token is presented with. -/
inductive ClientRequest
  | tool (tool : Tool)
  | rest (req : RestRequest)

/-- A request leaves the tables and the summaries, and drains no queue of the bridge. -/
structure Server.Kept (s s' : Server) : Prop where
  db : s.world.db.Kept s'.world.db
  summaries : s'.summaries = s.summaries
  bridge : s'.bridge = s.bridge

/-- The routes whose handlers write, with what they make of a request. -/
def writingRoutes : List (String × RestCommand) :=
  [("/api/register", .register), ("/api/session-stop", .sessionStop), ("/api/log-file", .logFile),
    ("/api/announce", .announce), ("/api/post-to-thread", .postToThread), ("/api/unclaim-task", .unclaimTask),
    ("/api/claim-task", .claimTask), ("/api/propose-resolution", .proposeResolution),
    ("/api/approve-resolution", .approveResolution), ("/api/introspection-response", .introspectionResponse),
    ("/api/file-activity", .fileActivity), ("/api/working-files/start", .workingFilesStart),
    ("/api/working-files/stop", .workingFilesStop)]

/-- The checks of the handler accept the request. -/
def RestCommand.accepts (command : RestCommand) (ctx : RestContext) (req : RestRequest) : Bool := (command ctx req).isOk

/-- A POST to a route that writes, which its handler accepts. -/
def ClientRequest.reachesWrite (ctx : RestContext) : ClientRequest → Bool
  | .tool _ => false
  | .rest req => req.method = "POST" && (writingRoutes.lookup req.url).any fun command => command.accepts ctx req

namespace RestCommand
variable {command : RestCommand} {ctx : RestContext} {req : RestRequest}

theorem perform_refused (refused : ¬ command.accepts ctx req) (s : Server) (caller : Caller) :
    (command.perform s ctx caller req).1 = s := by
  unfold perform
  split
  · rfl
  · rename_i op ran
    rw [accepts, ran] at refused
    exact absurd rfl refused

theorem perform_accepted {op : Operation} (ran : command ctx req = .ok op) (s : Server) (caller : Caller) :
    (command.perform s ctx caller req).1 = { s with world := s.world.step (.operation ctx.env caller.org op) } := by
  rw [perform, ran]

end RestCommand

namespace Server
variable (s : Server) (ctx : RestContext) (caller : Caller) (req : RestRequest)

theorem validated_reads {α : Type} (schema : BodyMembers → Parsed α) {handler : α → Server × ServerReply}
    (reads : ∀ data, (handler data).1 = s) : (s.validated req schema handler).1 = s := by
  unfold validated
  split
  · rfl
  · exact reads _

theorem handleCheckConflict_reads : (s.handleCheckConflict ctx caller req).1 = s := by
  refine validated_reads s req _ fun body => ?_
  split
  · rfl
  · split <;> rfl

theorem handleConsultationStatus_reads : (s.handleConsultationStatus ctx caller req).1 = s := by
  unfold handleConsultationStatus
  split <;> rfl

theorem handleScoringStats_reads : (s.handleScoringStats ctx caller req).1 = s := by
  unfold handleScoringStats
  simp only
  split <;> rfl

/-- What a handler of a table may do: read, or perform the command of its url. -/
def ReadsOrPerforms (url : String) (handler : RestHandler) : Prop :=
  (∀ s ctx caller req, (handler s ctx caller req).1 = s) ∨
    ∃ command, writingRoutes.lookup url = some command ∧ handler = command.perform

theorem routes_cases : ∀ route ∈ routes, route.1 = "/api/reset" ∨ ReadsOrPerforms route.1 route.2 := by
  have behindSchema {α : Type} (schema : BodyMembers → Parsed α)
      (handler : Server → RestContext → Caller → α → Server × ServerReply)
      (reads : ∀ s ctx caller data, (handler s ctx caller data).1 = s) (s : Server) (ctx : RestContext)
      (caller : Caller) (req : RestRequest) : (s.validated req schema (handler s ctx caller)).1 = s :=
    validated_reads s req schema (reads s ctx caller)
  simp only [routes, List.forall_mem_cons]
  refine ⟨.inr (.inr ⟨_, rfl, rfl⟩), .inr (.inl fun _ _ _ _ => rfl), .inr (.inr ⟨_, rfl, rfl⟩),
    .inr (.inl handleCheckConflict_reads), .inr (.inr ⟨_, rfl, rfl⟩), .inr (.inr ⟨_, rfl, rfl⟩),
    .inr (.inr ⟨_, rfl, rfl⟩), .inr (.inr ⟨_, rfl, rfl⟩), .inr (.inr ⟨_, rfl, rfl⟩), .inr (.inr ⟨_, rfl, rfl⟩),
    .inr (.inr ⟨_, rfl, rfl⟩), .inr (.inl (behindSchema _ _ fun _ _ _ _ => rfl)),
    .inr (.inl (behindSchema _ _ fun _ _ _ _ => rfl)), .inr (.inl (behindSchema _ _ fun _ _ _ _ => rfl)),
    .inr (.inl fun _ _ _ _ => rfl), .inr (.inl fun _ _ _ _ => rfl), .inr (.inr ⟨_, rfl, rfl⟩), .inl trivial,
    .inr (.inl (behindSchema _ _ fun _ _ _ _ => rfl)), .inr (.inl fun _ _ _ _ => rfl),
    .inr (.inl fun _ _ _ _ => rfl), fun _ absent => nomatch absent⟩

theorem methodRoutes_cases : ∀ route ∈ methodRoutes, ∃ url command,
    route.1 = "POST" ++ " " ++ url ∧ writingRoutes.lookup url = some command ∧ route.2 = command.perform := by
  simp only [methodRoutes, List.forall_mem_cons]
  exact ⟨⟨"/api/file-activity", _, rfl, rfl, rfl⟩, ⟨"/api/working-files/start", _, rfl, rfl, rfl⟩,
    ⟨"/api/working-files/stop", _, rfl, rfl, rfl⟩, fun _ absent => nomatch absent⟩

theorem prefixRoutes_reads : ∀ route ∈ prefixRoutes, ∀ s ctx caller req, (route.2 s ctx caller req).1 = s := by
  simp only [prefixRoutes, List.forall_mem_cons]
  exact ⟨handleConsultationStatus_reads, fun _ _ _ _ => rfl, fun _ _ _ _ => rfl, handleScoringStats_reads,
    fun _ absent => nomatch absent⟩

/-- A writing route of the first table is one of its mutating routes. -/
theorem routes_mutating : ∀ route ∈ routes, (writingRoutes.lookup route.1).isSome → mutatingRoutes.contains route.1 := by
  decide

theorem mem_of_lookup {β : Type} {table : List (String × β)} {key : String} {value : β}
    (found : table.lookup key = some value) : (key, value) ∈ table := by
  obtain ⟨before, after, split, -⟩ := List.lookup_eq_some_iff.mp found
  rw [split]
  simp

/-- A key of the second table names its method before the url. -/
theorem post_of_key {method url url' : String} (served : method = "POST" ∨ method = "GET")
    (same : method ++ " " ++ url = "POST" ++ " " ++ url') : method = "POST" ∧ url = url' := by
  rcases served with rfl | rfl
  · exact ⟨rfl, (String.append_right_inj _).mp same⟩
  · have heads := congrArg (fun text => text.toList.head?) same
    simp at heads

variable {s ctx caller req}

/-- Where the commands of the request stay as they are, so does what the tables find for it. -/
theorem routed_reads (elsewhere : req.url ≠ "/api/reset") (served : req.method = "POST" ∨ req.method = "GET")
    (stays : req.method = "POST" → ∀ command, writingRoutes.lookup req.url = some command →
      (command.perform s ctx caller req).1 = s) : (s.routed ctx caller req).1 = s := by
  unfold routed
  split
  · rename_i handler found
    have listed := mem_of_lookup found
    split
    · rfl
    · rename_i allowed
      rcases routes_cases _ listed with reset | reads | ⟨command, writes, rfl⟩
      · exact absurd reset elsewhere
      · exact reads s ctx caller req
      · have mutating := routes_mutating _ listed (by rw [writes]; rfl)
        have post : req.method = "POST" := by
          by_contra other
          exact allowed ⟨mutating, other⟩
        exact stays post command writes
  · split
    · rename_i handler found
      obtain ⟨url, command, key, writes, performs⟩ := methodRoutes_cases _ (mem_of_lookup found)
      obtain ⟨post, rfl⟩ := post_of_key served key
      rw [show handler = command.perform from performs]
      exact stays post command writes
    · split
      · rename_i route found
        exact prefixRoutes_reads route (List.mem_of_find?_eq_some found) s ctx caller req
      · rfl

theorem handleRest_reads (stays : (s.routed ctx caller req).1 = s) : (s.handleRest ctx caller req).1 = s := by
  unfold handleRest
  split
  · rfl
  · rfl
  · exact stays
  · exact stays

/-- Whatever is served without reaching a write leaves everything as it is. -/
theorem serveRest_reads (role : caller.role ≠ .admin) (stops : ¬ (ClientRequest.rest req).reachesWrite ctx) :
    (s.serveRest ctx caller req).1 = s := by
  unfold serveRest
  split
  · rfl
  · rename_i guarded
    split
    · rename_i api
      refine handleRest_reads (routed_reads ?_ api.2 ?_)
      · intro reset
        exact guarded ⟨by rw [reset]; decide, role⟩
      · intro post command listed
        refine RestCommand.perform_refused ?_ s caller
        intro accepted
        exact stops (by simp [ClientRequest.reachesWrite, post, listed, accepted])
    · rfl

theorem writingRoutes_served : ∀ entry ∈ writingRoutes,
    ¬ adminOnlyRoutes.contains (pathOnly entry.1) ∧ startsWith entry.1 "/api/" := by decide

theorem writingRoutes_routed : ∀ entry ∈ writingRoutes, routes.lookup entry.1 = some entry.2.perform ∨
    routes.lookup entry.1 = none ∧ methodRoutes.lookup ("POST" ++ " " ++ entry.1) = some entry.2.perform := by
  simp only [writingRoutes, List.forall_mem_cons]
  exact ⟨.inl rfl, .inl rfl, .inl rfl, .inl rfl, .inl rfl, .inl rfl, .inl rfl, .inl rfl, .inl rfl, .inl rfl,
    .inr ⟨rfl, rfl⟩, .inr ⟨rfl, rfl⟩, .inr ⟨rfl, rfl⟩, fun _ absent => nomatch absent⟩

theorem writingRoutes_body : ∀ entry ∈ writingRoutes, ∀ ctx req, entry.2.accepts ctx req →
    ∃ members, req.body = .object members := by
  simp only [writingRoutes, List.forall_mem_cons]
  refine ⟨?_, ?_, ?_, ?_, ?_, ?_, ?_, ?_, ?_, ?_, ?_, ?_, ?_, fun _ absent => nomatch absent⟩
  all_goals
    rintro ctx ⟨method, url, search, body⟩ accepted
    cases body with
    | object members => exact ⟨members, rfl⟩
    | _ => exact absurd accepted Bool.false_ne_true

theorem validated_bind {α : Type} {req : RestRequest} {schema : BodyMembers → Parsed α}
    {build : α → Except ServerReply Operation} {op : Operation}
    (ran : (req.validated schema >>= build) = .ok op) : ∃ data, build data = .ok op := by
  cases found : req.validated schema with
  | error refusal => rw [found] at ran; cases ran
  | ok data => rw [found] at ran; exact ⟨data, ran⟩

theorem command_writes : ∀ entry ∈ writingRoutes, ∀ ctx req, entry.2 ctx req ≠ .ok (.setMap []) := by
  simp only [writingRoutes, List.forall_mem_cons]
  refine ⟨?_, ?_, ?_, ?_, ?_, ?_, ?_, ?_, ?_, ?_, ?_, ?_, ?_, fun _ absent => nomatch absent⟩
  case refine_3 | refine_4 => 
    intro ctx req ran
    obtain ⟨data, built⟩ := validated_bind ran
    split at built <;> cases built
  case refine_11 =>
    intro ctx req ran
    simp only [RestCommand.fileActivity, RestCommand.loggedContent] at ran
    repeat' split at ran
    all_goals cases ran
  case refine_12 | refine_13 =>
    intro ctx req ran
    simp only [RestCommand.workingFilesStart, RestCommand.workingFilesStop, RestCommand.workingFile] at ran
    split at ran
    · split at ran <;> cases ran
    · cases ran
  all_goals
    intro ctx req ran
    obtain ⟨data, built⟩ := validated_bind ran
    cases built

/-- A POST that a writing route accepts is served by its command. -/
theorem serveRest_performs {command : RestCommand} (post : req.method = "POST")
    (listed : writingRoutes.lookup req.url = some command) (accepted : command.accepts ctx req) :
    s.serveRest ctx caller req = command.perform s ctx caller req := by
  have entry := mem_of_lookup listed
  obtain ⟨unguarded, api⟩ := writingRoutes_served _ entry
  obtain ⟨members, body⟩ := writingRoutes_body _ entry ctx req accepted
  have routes_to : s.routed ctx caller req = command.perform s ctx caller req := by
    rcases writingRoutes_routed _ entry with found | ⟨missed, found⟩
    · rw [routed, found]
      simp [post]
    · rw [routed, missed, post, found]
  rw [serveRest, if_neg fun both => unguarded both.1, if_pos ⟨api, .inl post⟩, handleRest, body]
  exact routes_to

theorem Kept.refl (s : Server) : s.Kept s := ⟨.refl _, rfl, rfl⟩

/-- What a request is served with, by either transport. -/
def serveRequest (s : Server) (ctx : RestContext) (caller : Caller) : ClientRequest → Server × ServerReply
  | .tool tool => s.callTool ctx.toSurroundings caller tool
  | .rest req => s.serveRest ctx caller req

end Server

/-- A server whose tables the operation of an accepted request changes. -/
theorem RestCommand.accepted_writes {ctx : RestContext} {req : RestRequest} {command : RestCommand}
    (listed : writingRoutes.lookup req.url = some command) (accepted : command.accepts ctx req) (caller : Caller) :
    ∃ s : Server, ¬ s.Kept (command.perform s ctx caller req).1 := by
  cases ran : command ctx req with
  | error refusal =>
    rw [accepts, ran] at accepted
    cases accepted
  | ok op =>
    have nonempty : op ≠ .setMap [] := by
      rintro rfl
      exact Server.command_writes _ (Server.mem_of_lookup listed) ctx req ran
    obtain ⟨db, drained, writes⟩ := Db.serve_writes ctx.env caller.org nonempty
    refine ⟨⟨⟨db, [], [], 0, drained⟩, [], .started⟩, fun kept => writes ?_⟩
    have tables := kept.db
    rw [perform_accepted ran] at tables
    simp only [World.step, World.publish_db] at tables
    exact ⟨tables.agents, tables.threads, tables.messages, tables.fileActivity, tables.workingFiles,
      tables.introspections, tables.dependencyMap⟩

def readTokenPayload : JwtPayload :=
  { sub := some (.str "observer"), iss := some (.str "coordinator"), iat := some (.num 1700000000), nbf := none
    exp := some (.num 1700003600), jti := some (.str "j1"), typ := some (.str "access"), role := some (.str "service")
    userId := none, org := none, activeOrgId := some (.str "acme"), familyId := some (.str "service:f1")
    serviceAccount := some (.bool true), scope := some (.str "read") }

def reader : Caller := ⟨"observer", "acme", .service, some .read⟩

theorem reader_holds : reader.HoldsServiceToken .read := ⟨readTokenPayload, .str "observer", rfl, rfl, rfl, rfl⟩

/-- A read-scoped service token changes nothing with this request. -/
def ClientRequest.Harmless (ctx : RestContext) (request : ClientRequest) : Prop :=
  ∀ (s : Server) (caller : Caller), caller.HoldsServiceToken .read → s.Kept (s.serveRequest ctx caller request).1

/-- A read scope holds over the tools and over every route but thirteen, and on
those for the requests that their handlers refuse. -/
theorem ClientRequest.harmless_iff (ctx : RestContext) (request : ClientRequest) :
    request.Harmless ctx ↔ ¬ request.reachesWrite ctx := by
  constructor
  · intro harmless reaches
    cases request with
    | tool tool => cases reaches
    | rest req =>
      simp only [reachesWrite, Bool.and_eq_true, decide_eq_true_eq, Option.any_eq_true] at reaches
      obtain ⟨post, command, listed, accepted⟩ := reaches
      obtain ⟨s, writes⟩ := RestCommand.accepted_writes listed accepted reader
      have kept := harmless s reader reader_holds
      rw [Server.serveRequest, Server.serveRest_performs post listed accepted] at kept
      exact writes kept
  · intro stops s caller holds
    obtain ⟨scope, role⟩ := holds.reads
    have same : (s.serveRequest ctx caller request).1 = s := by
      cases request with
      | tool tool => exact Server.callTool_read scope s ctx.toSurroundings tool
      | rest req => exact Server.serveRest_reads (by rw [role]; decide) stops
    rw [same]
    exact .refl s

namespace ClientRequest

def guardedContext : RestContext :=
  { env := .drawing "m1", flowEnv := .drawing "m1", connected := true, normalizePath := .ok, authEnabled := true
    nodeEnvTest := false, allowReset := false, workingFilesTtl := 30, extract := fun _ _ => none
    quota := none, refreshedQuota := none }

def registration : ClientRequest :=
  .rest { method := "POST", url := "/api/register", search := []
          body := .object [("agent_id", .text "ghost"), ("name", .text "Ghost")] }

/-- A read-scoped token registers an agent. -/
theorem not_harmless : ¬ ∀ (ctx : RestContext) (request : ClientRequest), request.Harmless ctx := by
  intro holds
  have kept := holds guardedContext registration .unused reader reader_holds
  have registered := congrArg (fun agents => agents.rows.map (·.id)) kept.db.agents
  exact absurd registered (by decide +kernel)

end ClientRequest

end Coordinator
