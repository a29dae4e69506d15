import Coordinator.AnnounceWorkflow

namespace Coordinator

/-- A member of a JSON body, as deep as the schemas look; an element of an
array is `none` where it is no text. -/
inductive MemberValue
  | null
  | bool (value : Bool)
  | number (value : Nat)
  | text (value : String)
  | array (items : List (Option String))
  | object
  deriving DecidableEq, Repr

abbrev BodyMembers := List (String × MemberValue)

/-- What `parseBody` resolves to, or the status and text it is refused with. -/
inductive ReadBody
  | failed (status : Nat) (error : String)
  | null
  /-- A text, a number, a flag or an array, none of which has members. -/
  | bare
  | object (members : BodyMembers)
  deriving DecidableEq, Repr

/-- What a schema makes of a body: its data, or the paths of the issues. -/
abbrev Parsed (α : Type) := Except (List String) α

namespace Parsed
variable {α β : Type}

def fields (build : α) : Parsed α := .ok build

/-- The next field of an object; the issues of all fields are collected. -/
def and (read : Parsed (α → β)) (next : Parsed α) : Parsed β :=
  match read, next with
  | .ok build, .ok value => .ok (build value)
  | .ok _, .error paths => .error paths
  | .error paths, .ok _ => .error paths
  | .error paths, .error more => .error (paths ++ more)

end Parsed

namespace BodyMembers
variable {α : Type}

def string (body : BodyMembers) (key : String) : Parsed String :=
  match body.lookup key with
  | some (.text value) => .ok value
  | _ => .error [key]

/-- `z.string().min(1)`. -/
def nonempty (body : BodyMembers) (key : String) : Parsed String :=
  match body.lookup key with
  | some (.text value) => if value = "" then .error [key] else .ok value
  | _ => .error [key]

def boolean (body : BodyMembers) (key : String) : Parsed Bool :=
  match body.lookup key with
  | some (.bool value) => .ok value
  | _ => .error [key]

def number (body : BodyMembers) (key : String) : Parsed Nat :=
  match body.lookup key with
  | some (.number value) => .ok value
  | _ => .error [key]

/-- `z.array(z.string())`: an element that is no text is an issue of its own. -/
def strings (body : BodyMembers) (key : String) : Parsed (List String) :=
  match body.lookup key with
  | some (.array items) =>
    match items.zipIdx.filter fun item => item.1.isNone with
    | [] => .ok items.reduceOption
    | wrong => .error (wrong.map fun item => s!"{key}.{item.2}")
  | _ => .error [key]

def optional (read : BodyMembers → String → Parsed α) (body : BodyMembers) (key : String) : Parsed (Option α) :=
  match body.lookup key with
  | none => .ok none
  | some _ => (read body key).map some

def nullable (read : BodyMembers → String → Parsed α) (body : BodyMembers) (key : String) : Parsed (Option α) :=
  match body.lookup key with
  | some .null => .ok none
  | _ => (read body key).map some

/-- `z.enum(["context", "suggestion", "warning"])`. -/
def postType (body : BodyMembers) (key : String) : Parsed MessageType :=
  match body.lookup key with
  | some (.text "context") => .ok .context
  | some (.text "suggestion") => .ok .suggestion
  | some (.text "warning") => .ok .warning
  | _ => .error [key]

end BodyMembers

open BodyMembers

structure RegisterBody where
  agentId : AgentId
  name : String
  modules : Option (List ModuleId)
  deriving DecidableEq, Repr

def registerBodySchema (body : BodyMembers) : Parsed RegisterBody :=
  Parsed.fields RegisterBody.mk |>.and (body.string "agent_id") |>.and (body.string "name")
    |>.and (optional strings body "modules")

def sessionStopBodySchema (body : BodyMembers) : Parsed AgentId := body.string "agent_id"

structure CheckConflictBody where
  file : FilePath
  agentId : AgentId
  deriving DecidableEq, Repr

def checkConflictBodySchema (body : BodyMembers) : Parsed CheckConflictBody :=
  Parsed.fields CheckConflictBody.mk |>.and (body.string "file") |>.and (body.string "agent_id")

structure LogFileBody where
  sessionId : String
  agentId : AgentId
  agentName : Option String
  toolName : String
  file : FilePath
  deriving DecidableEq, Repr

def logFileBodySchema (body : BodyMembers) : Parsed LogFileBody :=
  Parsed.fields LogFileBody.mk |>.and (body.string "session_id") |>.and (body.string "agent_id")
    |>.and (optional string body "agent_name") |>.and (body.string "tool_name") |>.and (body.string "file")

/-- Only the truth value of `keep_open` is read. -/
def announceBodySchema (body : BodyMembers) : Parsed AnnounceBody :=
  Parsed.fields (fun agentId subject plan targetModules targetFiles dependsOnFiles exportsAffected (keepOpen : Option Bool)
      (assignedTo : Option (Option AgentId)) targetSymbols (runId : Option (Option String)) =>
      { agentId, subject, plan, targetModules, targetFiles, dependsOnFiles, exportsAffected
        keepOpen := keepOpen.getD false, assignedTo := assignedTo.join, targetSymbols, runId := runId.join })
    |>.and (body.string "agent_id") |>.and (body.string "subject") |>.and (optional string body "plan")
    |>.and (body.strings "target_modules") |>.and (body.strings "target_files")
    |>.and (optional strings body "depends_on_files") |>.and (optional strings body "exports_affected")
    |>.and (optional boolean body "keep_open") |>.and (optional (nullable string) body "assigned_to")
    |>.and (optional strings body "target_symbols") |>.and (optional (nullable string) body "run_id")

def threadsActiveBodySchema (body : BodyMembers) : Parsed (Option String) := optional string body "run_id"

def threadsSummaryBodySchema (body : BodyMembers) : Parsed String := body.nonempty "run_id"

def postToThreadBodySchema (body : BodyMembers) : Parsed PostParams :=
  Parsed.fields (fun threadId agentId agentName type content =>
      { threadId, agentId, agentName, type, content, contextSnapshot := none, inReplyTo := none })
    |>.and (body.string "thread_id") |>.and (body.string "agent_id") |>.and (optional string body "agent_name")
    |>.and (body.postType "type") |>.and (body.string "content")

def unclaimTaskBodySchema (body : BodyMembers) : Parsed (ThreadId × AgentId) :=
  Parsed.fields Prod.mk |>.and (body.nonempty "thread_id") |>.and (body.nonempty "agent_id")

def claimTaskBodySchema (body : BodyMembers) : Parsed (ThreadId × AgentId) :=
  Parsed.fields Prod.mk |>.and (body.nonempty "thread_id") |>.and (body.nonempty "agent_id")

structure ProposeResolutionBody where
  threadId : ThreadId
  agentId : AgentId
  summary : String
  deriving DecidableEq, Repr

def proposeResolutionBodySchema (body : BodyMembers) : Parsed ProposeResolutionBody :=
  Parsed.fields ProposeResolutionBody.mk |>.and (body.string "thread_id") |>.and (body.string "agent_id")
    |>.and (body.string "summary")

def approveResolutionBodySchema (body : BodyMembers) : Parsed (ThreadId × AgentId) :=
  Parsed.fields Prod.mk |>.and (body.string "thread_id") |>.and (body.string "agent_id")

def hotFilesBodySchema (body : BodyMembers) : Parsed (Option Nat) := optional number body "since_minutes"

def checkInterruptBodySchema (body : BodyMembers) : Parsed AgentId := body.string "agent_id"

structure IntrospectionResponseBody where
  introspectionId : String
  concerned : Bool
  reason : String
  deriving DecidableEq, Repr

def introspectionResponseBodySchema (body : BodyMembers) : Parsed IntrospectionResponseBody :=
  Parsed.fields IntrospectionResponseBody.mk |>.and (body.string "introspection_id") |>.and (body.boolean "concerned")
    |>.and (body.string "reason")

/-- `safeParse`. A body without members has its one issue at the root. -/
def ReadBody.safeParse {α : Type} (schema : BodyMembers → Parsed α) : ReadBody → Parsed α
  | .object members => schema members
  | _ => .error [""]

end Coordinator
