import Coordinator.AdminBootstrap
import Coordinator.Library.GuardedRun

namespace Coordinator

/-- The codes of `validateNameField`. -/
inductive NameFieldCode
  | missingField
  | wrongType
  | tooShort
  | tooLong
  | controlBytes
  deriving DecidableEq

def NameFieldCode.text : NameFieldCode → String
  | .missingField => "MISSING_FIELD"
  | .wrongType => "WRONG_TYPE"
  | .tooShort => "TOO_SHORT"
  | .tooLong => "TOO_LONG"
  | .controlBytes => "CONTROL_BYTES"

structure NameFieldError where
  code : NameFieldCode
  field : String
  deriving DecidableEq

def NameFieldError.message (err : NameFieldError) : String := err.code.text ++ ":" ++ err.field

/-- A value of the JSON body of a request about an org. -/
inductive OrgValue
  | text (value : String)
  | null
  | other
  deriving DecidableEq

def controlByte (c : Char) : Bool :=
  (c.toNat < 0x20 && c.toNat ≠ 0x09 && c.toNat ≠ 0x0a && c.toNat ≠ 0x0d) || c.toNat = 0x7f

def nameFieldMaxBytes : Nat := 200

def validateNameField (value : Option OrgValue) (field : String) : Except NameFieldError String :=
  match value with
  | none | some .null => .error ⟨.missingField, field⟩
  | some .other => .error ⟨.wrongType, field⟩
  | some (.text value) =>
    if value.toList = [] then .error ⟨.tooShort, field⟩
    else if nameFieldMaxBytes < value.utf8ByteSize then .error ⟨.tooLong, field⟩
    else if value.toList.any controlByte then .error ⟨.controlBytes, field⟩
    else .ok value

/-- Null clears the field. -/
def validateAllowlistField (value : Option OrgValue) (field : String) : Except NameFieldError (Option String) :=
  if value = some .null then .ok none else (validateNameField value field).map some

/-- A row of `orgs`. -/
structure OrgRow where
  id : String
  name : String
  allowlistGithubOrg : Option String
  allowlistIdpOrgId : Option String
  createdAt : String
  deriving DecidableEq

/-- The table `orgs` with its index `idx_orgs_name`. -/
structure Orgs where
  table : Table OrgRow OrgRow.id
  named : (table.rows.map OrgRow.name).Nodup

/-- The column whose values are no longer distinct. -/
inductive OrgConflict
  | id
  | name
  deriving DecidableEq

namespace Orgs

def insert (orgs : Orgs) (row : OrgRow) : Except OrgConflict Orgs :=
  match orgs.table.insert row with
  | none => .error .id
  | some table => if named : (table.rows.map OrgRow.name).Nodup then .ok ⟨table, named⟩ else .error .name

def update (orgs : Orgs) (id : String) (f : OrgRow → OrgRow) (keeps : ∀ r, (f r).id = r.id) : Except OrgConflict Orgs :=
  let table := orgs.table.update (fun r => r.id = id) f keeps
  if named : (table.rows.map OrgRow.name).Nodup then .ok ⟨table, named⟩ else .error .name

end Orgs

/-- The fields that an update changes, each with its value before and after. -/
structure OrgChanges where
  name : Option (String × String)
  allowlistGithubOrg : Option (Option String × Option String)
  allowlistIdpOrgId : Option (Option String × Option String)
  deriving DecidableEq

/-- What the body of an update names, checked. -/
structure OrgFields where
  name : Option String
  allowlistGithubOrg : Option (Option String)
  allowlistIdpOrgId : Option (Option String)
  deriving DecidableEq

namespace OrgChanges

def changed {α : Type} [DecidableEq α] (before : α) (given : Option α) : Option (α × α) :=
  (given.filter (· ≠ before)).map fun after => (before, after)

def of (existing : OrgRow) (fields : OrgFields) : OrgChanges where
  name := changed existing.name fields.name
  allowlistGithubOrg := changed existing.allowlistGithubOrg fields.allowlistGithubOrg
  allowlistIdpOrgId := changed existing.allowlistIdpOrgId fields.allowlistIdpOrgId

def changedFields (c : OrgChanges) : List String :=
  (if c.name.isSome then ["name"] else []) ++
    ((if c.allowlistGithubOrg.isSome then ["allowlist_github_org"] else []) ++
      if c.allowlistIdpOrgId.isSome then ["allowlist_idp_org_id"] else [])

/-- The columns of the `SET` clause. -/
def write (c : OrgChanges) (r : OrgRow) : OrgRow :=
  { r with
    name := (c.name.map Prod.snd).getD r.name
    allowlistGithubOrg := (c.allowlistGithubOrg.map Prod.snd).getD r.allowlistGithubOrg
    allowlistIdpOrgId := (c.allowlistIdpOrgId.map Prod.snd).getD r.allowlistIdpOrgId }

@[simp] theorem write_id (c : OrgChanges) (r : OrgRow) : (c.write r).id = r.id := rfl

end OrgChanges

/-- The metadata of `admin.org.created` and `admin.org.updated`. -/
inductive OrgAudit
  | created (orgId name : String) (allowlistGithubOrg allowlistIdpOrgId : Option String)
  | updated (orgId : String) (changes : OrgChanges) (changedFields : List String)
  deriving DecidableEq

inductive OrgReply
  | refused (status : Nat) (code message : String)
  | listed (orgs : List OrgRow)
  | created (org : OrgRow)
  | updated (org : OrgRow)
  | thrown
  deriving DecidableEq

namespace OrgReply

def invalidField (err : NameFieldError) : OrgReply := refused 400 err.code.text err.message

def invalid (err : AdminValidationError) : OrgReply := refused 400 err.code.text err.message

def orgNameTaken : OrgReply := refused 409 "ORG_NAME_TAKEN" "An org with this name already exists"

def succeeded : OrgReply → Bool
  | created _ | updated _ => true
  | _ => false

end OrgReply

/-- What the three handlers read of a request. `body` is as `readJsonBody`
leaves it, or the text it refuses it with. -/
structure OrgRequest where
  authResult : AuthResult
  csrfCookie : Option String
  csrfHeader : Option String
  url : String
  body : Except String (List (String × OrgValue))

def orgBodyFields : List String := ["name", "allowlist_github_org", "allowlist_idp_org_id"]

def requireAdmin : AuthResult → Option OrgReply
  | .refused status error _ => some (.refused status "UNAUTHORIZED" error)
  | .thrown => some .thrown
  | .accepted claims => if claims.role ≠ .admin then some (.refused 403 "FORBIDDEN" "Admin role required") else none

def checkCsrf (req : OrgRequest) : Option OrgReply :=
  if verifyCsrfToken req.csrfCookie req.csrfHeader then none
  else some (.refused 403 "CSRF_FAILED" "CSRF validation failed")

/-- The first capture of `/^\/api\/admin\/orgs\/([^/]+)$/`. -/
def orgPathId (path : String) : Option String :=
  let id := path.toList.drop "/api/admin/orgs/".length
  if startsWith path "/api/admin/orgs/" ∧ id ≠ [] ∧ '/' ∉ id then some (String.ofList id) else none

/-- The org table, with what the handlers have audited. -/
structure OrgDirectory where
  orgs : Orgs
  trail : List OrgAudit

namespace OrgDirectory

def handleListOrgs (w : OrgDirectory) (req : OrgRequest) : OrgReply :=
  (requireAdmin req.authResult).getD <| .listed <|
    (w.orgs.table.rows.mergeSort fun a b =>
      a.createdAt < b.createdAt ∨ a.createdAt = b.createdAt ∧ a.id ≤ b.id).take 5000

/-- The fields of a body, in the order in which they are checked. -/
def createFields (body : List (String × OrgValue)) : Except OrgReply OrgRow :=
  match body.find? fun member => ¬ orgBodyFields.contains member.1 with
  | some unknown => .error (.invalid ⟨.unknownField, some unknown.1⟩)
  | none =>
    let optional (field : String) : Except NameFieldError (Option String) :=
      if body.lookup field = none then .ok none else validateAllowlistField (body.lookup field) field
    match validateNameField (body.lookup "name") "name", optional "allowlist_github_org",
      optional "allowlist_idp_org_id" with
    | .error err, _, _ | .ok _, .error err, _ | .ok _, .ok _, .error err => .error (.invalidField err)
    | .ok name, .ok allowGithub, .ok allowIdp => .ok ⟨"", name, allowGithub, allowIdp, ""⟩

/-- The transaction of `handleCreateOrg`. -/
def create (w : OrgDirectory) (row : OrgRow) : OrgDirectory × OrgReply :=
  match w.orgs.insert row with
  | .error .id => (w, .thrown)
  | .error .name => (w, .orgNameTaken)
  | .ok orgs =>
    (⟨orgs, w.trail ++ [.created row.id row.name row.allowlistGithubOrg row.allowlistIdpOrgId]⟩,
      .created ((orgs.table.find row.id).getD row))

/-- `orgId` is the UUID drawn, `createdAt` the value of `datetime('now')`. -/
def handleCreateOrg (w : OrgDirectory) (req : OrgRequest) (orgId createdAt : String) : OrgDirectory × OrgReply :=
  match (requireAdmin req.authResult).or (checkCsrf req), req.body with
  | some refusal, _ => (w, refusal)
  | none, .error text => (w, .refused 400 "INVALID_REQUEST" text)
  | none, .ok body =>
    match createFields body with
    | .error refusal => (w, refusal)
    | .ok row => w.create { row with id := orgId, createdAt }

def updateFields (body : List (String × OrgValue)) : Except NameFieldError OrgFields :=
  let given (field : String) : Except NameFieldError (Option (Option String)) :=
    if body.lookup field = none then .ok none else (validateAllowlistField (body.lookup field) field).map some
  let name : Except NameFieldError (Option String) :=
    if body.lookup "name" = none then .ok none else (validateNameField (body.lookup "name") "name").map some
  match name, given "allowlist_github_org", given "allowlist_idp_org_id" with
  | .error err, _, _ | .ok _, .error err, _ | .ok _, .ok _, .error err => .error err
  | .ok name, .ok allowlistGithubOrg, .ok allowlistIdpOrgId => .ok ⟨name, allowlistGithubOrg, allowlistIdpOrgId⟩

/-- The transaction of `handleUpdateOrg`. An update that changes nothing is audited too. -/
def update (w : OrgDirectory) (orgId : String) (fields : OrgFields) : OrgDirectory × OrgReply :=
  match w.orgs.table.find orgId with
  | none => (w, .refused 404 "NOT_FOUND" "Org not found")
  | some existing =>
    let changes := OrgChanges.of existing fields
    match w.orgs.update orgId changes.write changes.write_id with
    | .error _ => (w, .orgNameTaken)
    | .ok orgs =>
      (⟨orgs, w.trail ++ [.updated orgId changes changes.changedFields]⟩,
        .updated ((orgs.table.find orgId).getD existing))

def handleUpdateOrg (w : OrgDirectory) (req : OrgRequest) : OrgDirectory × OrgReply :=
  match (requireAdmin req.authResult).or (checkCsrf req) with
  | some refusal => (w, refusal)
  | none =>
    match orgPathId (pathOnly req.url) with
    | none => (w, .refused 400 "BAD_PATH" "Invalid org path")
    | some encoded =>
      match decodeURIComponent encoded with
      | none => (w, .refused 400 "BAD_PATH" "Invalid org path encoding")
      | some rawId =>
        match validatePathParam rawId "id", req.body with
        | .error err, _ => (w, .invalid err)
        | .ok _, .error text => (w, .refused 400 "INVALID_REQUEST" text)
        | .ok orgId, .ok body =>
          match validateUpdateBody (body.map fun member => (member.1, .other)) orgBodyFields, updateFields body with
          | .error err, _ => (w, .invalid err)
          | .ok (), .error err => (w, .invalidField err)
          | .ok (), .ok fields => w.update orgId fields

end OrgDirectory

/-- A request, each served in a transaction of its own; one that does not commit leaves nothing behind. -/
inductive OrgCall
  | list (req : OrgRequest)
  | create (req : OrgRequest) (orgId createdAt : String) (commits : Bool)
  | update (req : OrgRequest) (commits : Bool)

/-- The columns that the audit rows speak of. -/
structure OrgView where
  id : String
  name : String
  allowlistGithubOrg : Option String
  allowlistIdpOrgId : Option String
  deriving DecidableEq

def OrgRow.view (r : OrgRow) : OrgView := ⟨r.id, r.name, r.allowlistGithubOrg, r.allowlistIdpOrgId⟩

def Orgs.views (orgs : Orgs) : List OrgView := orgs.table.rows.map OrgRow.view

namespace OrgChanges

def after (c : OrgChanges) (o : OrgView) : OrgView :=
  { o with
    name := (c.name.map Prod.snd).getD o.name
    allowlistGithubOrg := (c.allowlistGithubOrg.map Prod.snd).getD o.allowlistGithubOrg
    allowlistIdpOrgId := (c.allowlistIdpOrgId.map Prod.snd).getD o.allowlistIdpOrgId }

def before (c : OrgChanges) (o : OrgView) : OrgView :=
  { o with
    name := (c.name.map Prod.fst).getD o.name
    allowlistGithubOrg := (c.allowlistGithubOrg.map Prod.fst).getD o.allowlistGithubOrg
    allowlistIdpOrgId := (c.allowlistIdpOrgId.map Prod.fst).getD o.allowlistIdpOrgId }

/-- Every pair of values is a change. -/
structure Real (c : OrgChanges) : Prop where
  name : ∀ p, c.name = some p → p.1 ≠ p.2
  allowlistGithubOrg : ∀ p, c.allowlistGithubOrg = some p → p.1 ≠ p.2
  allowlistIdpOrgId : ∀ p, c.allowlistIdpOrgId = some p → p.1 ≠ p.2

end OrgChanges

namespace OrgAudit

/-- What the audit row says has happened. -/
def replay (orgs : List OrgView) : OrgAudit → List OrgView
  | created orgId name github idp => orgs ++ [⟨orgId, name, github, idp⟩]
  | updated orgId changes _ => orgs.map fun o => if o.id = orgId then changes.after o else o

/-- What the table was like before it. -/
def revert (entry : OrgAudit) (orgs : List OrgView) : List OrgView :=
  match entry with
  | created orgId .. => orgs.filter fun o => o.id ≠ orgId
  | updated orgId changes _ => orgs.map fun o => if o.id = orgId then changes.before o else o

def Honest : OrgAudit → Prop
  | created .. => True
  | updated _ changes changedFields => changes.Real ∧ changedFields = changes.changedFields

end OrgAudit

namespace OrgDirectory

def serve (w : OrgDirectory) : OrgCall → OrgDirectory × OrgReply
  | .list req => (w, w.handleListOrgs req)
  | .create req orgId createdAt commits =>
    let (after, reply) := w.handleCreateOrg req orgId createdAt
    if commits then (after, reply) else (w, .thrown)
  | .update req commits =>
    let (after, reply) := w.handleUpdateOrg req
    if commits then (after, reply) else (w, .thrown)

def step (w : OrgDirectory) (call : OrgCall) : OrgDirectory := (w.serve call).1

/-- The audit trail of a run that began with the table, and what it is good for. -/
structure TrailLaws (start : Orgs) (w : OrgDirectory) : Prop where
  /-- The trail leads from the table at the start to the one now, and back. -/
  replayed : w.trail.foldl OrgAudit.replay start.views = w.orgs.views
  reverted : w.trail.foldr OrgAudit.revert w.orgs.views = start.views
  honest : ∀ entry ∈ w.trail, entry.Honest
  /-- A request that succeeds is one entry, any other one leaves no trace. -/
  answered : ∀ call, if (w.serve call).2.succeeded then ∃ entry, (w.serve call).1.trail = w.trail ++ [entry]
    else (w.serve call).1 = w
  /-- A name is refused exactly if another org has it. -/
  createTaken : ∀ row, w.orgs.table.find row.id = none →
    ((w.create row).2 = .orgNameTaken ↔ ∃ other ∈ w.orgs.table.rows, other.name = row.name)
  updateTaken : ∀ orgId fields existing, w.orgs.table.find orgId = some existing →
    ((w.update orgId fields).2 = .orgNameTaken ↔
      ∃ other ∈ w.orgs.table.rows, other.id ≠ orgId ∧ fields.name = some other.name)

end OrgDirectory

section
variable {orgs orgs' : Orgs} {row existing : OrgRow} {id : String}

theorem Orgs.insert_ok (inserted : orgs.insert row = .ok orgs') : orgs.table.insert row = some orgs'.table := by
  unfold Orgs.insert at inserted
  split at inserted
  · cases inserted
  · split at inserted
    · cases inserted
      assumption
    · cases inserted

theorem Orgs.views_insert (inserted : orgs.insert row = .ok orgs') : orgs'.views = orgs.views ++ [row.view] := by
  rw [views, views, Table.insert_rows (insert_ok inserted), List.map_append, List.map_singleton]

theorem Orgs.update_ok {f : OrgRow → OrgRow} {keeps : ∀ r, (f r).id = r.id}
    (updated : orgs.update id f keeps = .ok orgs') :
    orgs'.table = orgs.table.update (fun r => r.id = id) f keeps := by
  unfold Orgs.update at updated
  dsimp only at updated
  split at updated
  · cases updated
    rfl
  · cases updated

theorem Orgs.views_update {c : OrgChanges} (updated : orgs.update id c.write c.write_id = .ok orgs') :
    orgs'.views = orgs.views.map fun o => if o.id = id then c.after o else o := by
  rw [views, update_ok updated, views, Table.update, List.map_map, List.map_map]
  refine List.map_congr_left fun r _ => ?_
  by_cases here : r.id = id
  · rw [Function.comp_apply, Function.comp_apply, if_pos (decide_eq_true here), if_pos (show r.view.id = id from here)]
    rfl
  · rw [Function.comp_apply, Function.comp_apply, if_neg (by simpa using here), if_neg (show ¬ r.view.id = id from here)]

theorem OrgChanges.changed_back {α : Type} [DecidableEq α] (value : α) (given : Option α) :
    ((changed value given).map Prod.fst).getD (((changed value given).map Prod.snd).getD value) = value := by
  unfold changed
  cases given.filter (· ≠ value) <;> rfl

/-- The values before are those of the row that is changed. -/
theorem OrgChanges.before_after (existing : OrgRow) (fields : OrgFields) :
    (OrgChanges.of existing fields).before ((OrgChanges.of existing fields).after existing.view) = existing.view := by
  simp only [before, after, OrgChanges.of, OrgRow.view, changed_back]

theorem OrgChanges.real_of (existing : OrgRow) (fields : OrgFields) : (OrgChanges.of existing fields).Real := by
  have differs : ∀ {α : Type} [DecidableEq α] (value : α) (given : Option α) p,
      changed value given = some p → p.1 ≠ p.2 := by
    intro α _ value given p same
    obtain ⟨after, kept, rfl⟩ := Option.map_eq_some_iff.mp same
    have other := (Option.filter_eq_some_iff.mp kept).2
    exact (of_decide_eq_true other).symm
  exact ⟨differs _ _, differs _ _, differs _ _⟩

namespace OrgDirectory

/-- What a request does: nothing, or one of the two transactions. -/
inductive Served (w : OrgDirectory) : OrgDirectory × OrgReply → Prop
  | refused (reply : OrgReply) (failed : reply.succeeded = false) : Served w (w, reply)
  | created (row : OrgRow) (orgs : Orgs) (inserted : w.orgs.insert row = .ok orgs) (reply : OrgRow) :
      Served w (⟨orgs, w.trail ++ [.created row.id row.name row.allowlistGithubOrg row.allowlistIdpOrgId]⟩,
        .created reply)
  | updated (orgId : String) (existing : OrgRow) (fields : OrgFields) (orgs : Orgs)
      (found : w.orgs.table.find orgId = some existing)
      (written : w.orgs.update orgId (OrgChanges.of existing fields).write (OrgChanges.of existing fields).write_id =
        .ok orgs) (reply : OrgRow) :
      Served w (⟨orgs, w.trail ++ [.updated orgId (.of existing fields) (OrgChanges.of existing fields).changedFields]⟩,
        .updated reply)

variable {w : OrgDirectory}

theorem requireAdmin_failed {authResult : AuthResult} {reply : OrgReply} (refusal : requireAdmin authResult = some reply) :
    reply.succeeded = false := by
  unfold requireAdmin at refusal
  split at refusal
  · cases refusal
    rfl
  · cases refusal
    rfl
  · split at refusal
    · cases refusal
      rfl
    · cases refusal

theorem gate_failed {req : OrgRequest} {reply : OrgReply}
    (refusal : (requireAdmin req.authResult).or (checkCsrf req) = some reply) : reply.succeeded = false := by
  rcases Option.or_eq_some_iff.mp refusal with admin | ⟨-, csrf⟩
  · exact requireAdmin_failed admin
  · unfold checkCsrf at csrf
    split at csrf
    · cases csrf
    · cases csrf
      rfl

theorem create_served (w : OrgDirectory) (row : OrgRow) : Served w (w.create row) := by
  unfold create
  split
  · exact .refused _ rfl
  · exact .refused _ rfl
  · exact .created row _ ‹_› _

theorem update_served (w : OrgDirectory) (orgId : String) (fields : OrgFields) : Served w (w.update orgId fields) := by
  unfold update
  split
  · exact .refused _ rfl
  · rename_i existing found
    dsimp only
    split
    · exact .refused _ rfl
    · exact .updated orgId existing fields _ found ‹_› _

theorem createFields_failed {body : List (String × OrgValue)} {reply : OrgReply}
    (refusal : createFields body = .error reply) : reply.succeeded = false := by
  unfold createFields at refusal
  split at refusal
  · cases refusal
    rfl
  · dsimp only at refusal
    split at refusal <;> cases refusal
    all_goals rfl

theorem handleCreateOrg_served (w : OrgDirectory) (req : OrgRequest) (orgId createdAt : String) :
    Served w (w.handleCreateOrg req orgId createdAt) := by
  unfold handleCreateOrg
  split
  · exact .refused _ (gate_failed ‹_›)
  · exact .refused _ rfl
  · split
    · exact .refused _ (createFields_failed ‹_›)
    · exact create_served w _

theorem handleUpdateOrg_served (w : OrgDirectory) (req : OrgRequest) : Served w (w.handleUpdateOrg req) := by
  unfold handleUpdateOrg
  split
  · exact .refused _ (gate_failed ‹_›)
  · split
    · exact .refused _ rfl
    · split
      · exact .refused _ rfl
      · split
        · exact .refused _ rfl
        · exact .refused _ rfl
        · split
          · exact .refused _ rfl
          · exact .refused _ rfl
          · exact update_served w _ _

theorem serve_served (w : OrgDirectory) (call : OrgCall) : Served w (w.serve call) := by
  cases call with
  | list req =>
    refine .refused _ ?_
    unfold handleListOrgs
    cases gate : requireAdmin req.authResult with
    | none => rfl
    | some refusal => exact requireAdmin_failed gate
  | create req orgId createdAt commits =>
    cases commits with
    | false => exact .refused _ rfl
    | true => exact handleCreateOrg_served w req orgId createdAt
  | update req commits =>
    cases commits with
    | false => exact .refused _ rfl
    | true => exact handleUpdateOrg_served w req

/-- The entry of a request says what it did, and how to undo it. -/
structure Explains (entry : OrgAudit) (before after : Orgs) : Prop where
  replayed : entry.replay before.views = after.views
  reverted : entry.revert after.views = before.views
  honest : entry.Honest

theorem explains_created {orgs : Orgs} {row : OrgRow} (inserted : w.orgs.insert row = .ok orgs) :
    Explains (.created row.id row.name row.allowlistGithubOrg row.allowlistIdpOrgId) w.orgs orgs where
  replayed := (Orgs.views_insert inserted).symm
  reverted := by
    have fresh := Table.insert_fresh (Orgs.insert_ok inserted)
    rw [Table.find_eq_none] at fresh
    have others : w.orgs.views.filter (fun o => o.id ≠ row.id) = w.orgs.views := by
      refine List.filter_eq_self.mpr fun o member => ?_
      obtain ⟨r, stored, rfl⟩ := List.mem_map.mp member
      exact decide_eq_true (fresh r stored)
    rw [Orgs.views_insert inserted, OrgAudit.revert, List.filter_append, others]
    simp [OrgRow.view]
  honest := trivial

theorem explains_updated {orgId : String} {existing : OrgRow} {fields : OrgFields} {orgs : Orgs}
    (found : w.orgs.table.find orgId = some existing)
    (written : w.orgs.update orgId (OrgChanges.of existing fields).write (OrgChanges.of existing fields).write_id =
      .ok orgs) :
    Explains (.updated orgId (.of existing fields) (OrgChanges.of existing fields).changedFields) w.orgs orgs where
  replayed := (Orgs.views_update written).symm
  reverted := by
    rw [Orgs.views_update written, OrgAudit.revert, List.map_map]
    refine (List.map_congr_left fun o member => ?_).trans (List.map_id _)
    obtain ⟨r, stored, rfl⟩ := List.mem_map.mp member
    rw [Function.comp_apply, id_eq]
    by_cases here : r.view.id = orgId
    · obtain rfl : r = existing := by
        have self := Table.find_self stored
        rw [show r.id = orgId from here, found] at self
        exact (Option.some.inj self).symm
      have kept : ((OrgChanges.of r fields).after r.view).id = orgId := here
      rw [if_pos here, if_pos kept, OrgChanges.before_after]
    · rw [if_neg here, if_neg here]
  honest := ⟨OrgChanges.real_of existing fields, rfl⟩

theorem Served.answered {outcome : OrgDirectory × OrgReply} (served : Served w outcome) :
    if outcome.2.succeeded then ∃ entry, outcome.1.trail = w.trail ++ [entry] ∧ Explains entry w.orgs outcome.1.orgs
    else outcome.1 = w := by
  cases served with
  | refused reply failed => rw [if_neg (by simp [failed])]
  | created row orgs inserted reply => exact ⟨_, rfl, explains_created inserted⟩
  | updated orgId existing fields orgs found written reply => exact ⟨_, rfl, explains_updated found written⟩

theorem write_name (existing : OrgRow) (fields : OrgFields) :
    ((OrgChanges.of existing fields).write existing).name = fields.name.getD existing.name := by
  unfold OrgChanges.write OrgChanges.of OrgChanges.changed
  dsimp only
  cases fields.name with
  | none => rfl
  | some given => by_cases same : given = existing.name <;> simp [Option.filter, same]

/-- Two orgs have one name after the update exactly if another org had the new one. -/
theorem named_write_iff {existing : OrgRow} {fields : OrgFields} (stored : existing ∈ w.orgs.table.rows) :
    ((w.orgs.table.update (fun r => r.id = existing.id) (OrgChanges.of existing fields).write
        (OrgChanges.of existing fields).write_id).rows.map OrgRow.name).Nodup ↔
      ¬ ∃ other ∈ w.orgs.table.rows, other.id ≠ existing.id ∧ fields.name = some other.name := by
  have distinct : w.orgs.table.rows.Nodup := List.Nodup.of_map _ w.orgs.table.keyed
  have keyed : ∀ x ∈ w.orgs.table.rows, x.id = existing.id → x = existing := fun x member =>
    List.inj_on_of_nodup_map w.orgs.table.keyed member stored
  have new := write_name existing fields
  rw [Table.update, List.map_map, List.nodup_map_iff_inj_on distinct]
  simp only [Function.comp_apply, decide_eq_true_eq]
  constructor
  · rintro distinct' ⟨other, member, apart, given⟩
    refine apart (congrArg OrgRow.id (distinct' other member existing stored ?_))
    rw [if_neg apart, if_pos rfl, new, given, Option.getD_some]
  · intro free x xStored y yStored same
    -- a row that is not the one updated keeps its name
    have clash : ∀ z ∈ w.orgs.table.rows, z.id ≠ existing.id →
        ((OrgChanges.of existing fields).write existing).name ≠ z.name := by
      intro z member apart taken
      rw [new] at taken
      cases given : fields.name with
      | none =>
        rw [given, Option.getD_none] at taken
        exact apart (congrArg OrgRow.id (List.inj_on_of_nodup_map w.orgs.named member stored taken.symm))
      | some name =>
        rw [given, Option.getD_some] at taken
        exact free ⟨z, member, apart, by rw [given, taken]⟩
    by_cases xHere : x.id = existing.id
    · obtain rfl := keyed x xStored xHere
      by_cases yHere : y.id = x.id
      · exact (keyed y yStored yHere).symm
      · rw [if_pos rfl, if_neg yHere] at same
        exact absurd same (clash y yStored yHere)
    · by_cases yHere : y.id = existing.id
      · obtain rfl := keyed y yStored yHere
        rw [if_neg xHere, if_pos rfl] at same
        exact absurd same.symm (clash x xStored xHere)
      · rw [if_neg xHere, if_neg yHere] at same
        exact List.inj_on_of_nodup_map w.orgs.named xStored yStored same

theorem update_taken_iff {orgId : String} {fields : OrgFields} {existing : OrgRow}
    (found : w.orgs.table.find orgId = some existing) : (w.update orgId fields).2 = .orgNameTaken ↔
      ∃ other ∈ w.orgs.table.rows, other.id ≠ orgId ∧ fields.name = some other.name := by
  obtain ⟨stored, rfl⟩ := Table.find_eq_some.mp found
  have free : _ ↔ ¬ ∃ other ∈ w.orgs.table.rows, other.id ≠ existing.id ∧ fields.name = some other.name :=
    named_write_iff stored
  rw [iff_not_comm] at free
  rw [free]
  unfold update Orgs.update
  rw [found]
  dsimp only
  split
  · rename_i taken
    split at taken
    · cases taken
    · simp [*]
  · rename_i written
    split at written
    · simp [*, OrgReply.orgNameTaken]
    · cases written

theorem create_taken_iff {row : OrgRow} (fresh : w.orgs.table.find row.id = none) :
    (w.create row).2 = .orgNameTaken ↔ ∃ other ∈ w.orgs.table.rows, other.name = row.name := by
  obtain ⟨table, inserted⟩ := Option.isSome_iff_exists.mp (Table.insert_isSome.mpr fresh)
  have distinct : (table.rows.map OrgRow.name).Nodup ↔ ¬ ∃ other ∈ w.orgs.table.rows, other.name = row.name := by
    rw [Table.insert_rows inserted, List.map_append, List.map_singleton, List.nodup_append]
    simp [w.orgs.named]
  rw [iff_not_comm] at distinct
  rw [distinct]
  unfold create Orgs.insert
  rw [inserted]
  dsimp only
  by_cases named : (table.rows.map OrgRow.name).Nodup
  · simp [named, OrgReply.orgNameTaken]
  · simp [named]

/-- The laws as every request keeps them. -/
theorem TrailLaws.of_trail {start : Orgs} (replayed : w.trail.foldl OrgAudit.replay start.views = w.orgs.views)
    (reverted : w.trail.foldr OrgAudit.revert w.orgs.views = start.views) (honest : ∀ entry ∈ w.trail, entry.Honest) :
    TrailLaws start w where
  replayed := replayed
  reverted := reverted
  honest := honest
  answered call := by
    have answered := (serve_served w call).answered
    split at answered
    · obtain ⟨entry, same, -⟩ := answered
      rw [if_pos ‹_›]
      exact ⟨entry, same⟩
    · rw [if_neg ‹_›]
      exact answered
  createTaken row fresh := create_taken_iff fresh
  updateTaken orgId fields existing found := update_taken_iff found

theorem TrailLaws.step {start : Orgs} (laws : TrailLaws start w) (call : OrgCall) : TrailLaws start (w.step call) := by
  have answered := (serve_served w call).answered
  unfold OrgDirectory.step
  split at answered
  · obtain ⟨entry, trail, explains⟩ := answered
    refine TrailLaws.of_trail ?_ ?_ ?_
    · rw [trail, List.foldl_concat, laws.replayed, explains.replayed]
    · rw [trail, List.foldr_concat, explains.reverted, laws.reverted]
    · rw [trail]
      intro e member
      rcases List.mem_append.mp member with before | now
      · exact laws.honest e before
      · rw [List.mem_singleton.mp now]
        exact explains.honest
  · rw [answered]
    exact laws

end OrgDirectory

end

/-- The audit trail of a run leads from the table at its start to the one at
its end and back, whatever was asked. -/
theorem OrgDirectory.trail_explains (start : Orgs) (calls : List OrgCall) :
    TrailLaws start (calls.foldl OrgDirectory.step ⟨start, []⟩) := by
  have run : GuardedRun OrgDirectory.step (fun _ _ => True) ⟨start, []⟩ _ :=
    .of_inputs fun call (_ : call ∈ calls) => trivial
  have initially : TrailLaws start ⟨start, []⟩ := .of_trail rfl rfl fun _ member => absurd member List.not_mem_nil
  exact run.invariant (fun _ call laws _ => laws.step call) initially

end Coordinator
