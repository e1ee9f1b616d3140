import Warden.Store.Writes
import Warden.Engine.Check

/-! # The HTTP handlers

`api.API` serves the engine over Forge routes. A handler first checks the fields its
request needs and parses the IDs it is given, answering 400 with a fixed message when one is
missing or does not parse; it then calls the store or the engine, and passes what fails
through `mapError`. No handler sets `TenantID`: every record the API writes belongs to the
tenant "", and `deleteRelation` and `listSubjectRoles` read that tenant too, whatever the
request's context. `mapError` knows only the sentinels of package `warden`; the memory store
wraps its own `errNotFound`, which `mapError` passes on unchanged.

## Implementation notes

A handler returns the status it writes with the value it returns; `HandlerError` is a Forge
HTTP error or an error Forge answers with 500. `New` takes the UUID the library draws,
`time.Parse` of RFC 3339 is the function `parseTime`, and the `i`-th engine call of a
request reads the clock as `tick i`. The store behind `Store()` is the memory store, whose
writes do not fail, so their error branches are left out. The fields of a record that no
modelled read uses (names, slugs, descriptions, metadata, versions, times) are left out, and
with them the routes that list records, resource types and check logs, and the plugin hooks.
-/

namespace Warden

/-- `ErrRoleNotFound`. -/
def errRoleNotFound : GoError := .new "warden: role not found"

/-- `ErrPermissionNotFound`. -/
def errPermissionNotFound : GoError := .new "warden: permission not found"

/-- `ErrAssignmentNotFound`. -/
def errAssignmentNotFound : GoError := .new "warden: assignment not found"

/-- `ErrPolicyNotFound`. -/
def errPolicyNotFound : GoError := .new "warden: policy not found"

/-- `ErrRelationNotFound`. -/
def errRelationNotFound : GoError := .new "warden: relation not found"

/-- `ErrResourceTypeNotFound`. -/
def errResourceTypeNotFound : GoError := .new "warden: resource type not found"

/-- `ErrSystemRoleImmutable`. -/
def errSystemRoleImmutable : GoError := .new "warden: system role cannot be modified"

/-- `ErrSystemPermissionImmutable`. -/
def errSystemPermissionImmutable : GoError := .new "warden: system permission cannot be modified"

/-- `ErrDuplicateAssignment`. -/
def errDuplicateAssignment : GoError := .new "warden: role already assigned to subject"

/-- `ErrDuplicateRelation`. -/
def errDuplicateRelation : GoError := .new "warden: relation tuple already exists"

/-- `ErrCyclicRoleInheritance`. -/
def errCyclicRoleInheritance : GoError := .new "warden: cyclic role inheritance detected"

/-- `ErrMaxMembersExceeded`. -/
def errMaxMembersExceeded : GoError := .new "warden: role max members exceeded"

/-- `PrefixAssignment`. -/
def prefixAssignment : String := "asgn"

/-- `PrefixRelation`. -/
def prefixRelation : String := "rel"

/-- `New(p)` for a valid prefix `p`, given the UUID the library draws. -/
def newID (p : String) (uuid : BitVec 128) : ID := ⟨⟨p, uuid⟩, true⟩

theorem new_eq_newID {p : String} (h : TypeID.validatePrefix p = .ok ()) (uuid : BitVec 128) :
    ID.new p uuid = .ok (newID p uuid) := by
  simp [ID.new, TypeID.generate, h, Except.map, newID]

namespace Api

/-- A Forge HTTP error. -/
structure HTTPError where
  code : Nat
  message : String
  deriving DecidableEq, Repr

/-- What a handler returns as its error: a Forge HTTP error, or another error, which Forge
answers with 500. -/
inductive HandlerError where
  | http (e : HTTPError)
  | other (err : GoError)
  deriving DecidableEq, Repr

/-- `forge.BadRequest(msg)`. -/
def badRequest (msg : String) : HandlerError := .http ⟨400, msg⟩

/-- `forge.NotFound(msg)`. -/
def notFound (msg : String) : HandlerError := .http ⟨404, msg⟩

/-- `forge.Forbidden(msg)`. -/
def forbidden (msg : String) : HandlerError := .http ⟨403, msg⟩

/-- `isNotFound(err)`. -/
def isNotFound (err : GoError) : Bool :=
  err.is errRoleNotFound || err.is errPermissionNotFound || err.is errAssignmentNotFound ||
    err.is errPolicyNotFound || err.is errRelationNotFound || err.is errResourceTypeNotFound

/-- `mapError(err)` of an error. -/
def mapError (err : GoError) : HandlerError :=
  if isNotFound err then notFound err.error
  else if err.is errSystemRoleImmutable || err.is errSystemPermissionImmutable then badRequest err.error
  else if err.is errDuplicateAssignment || err.is errDuplicateRelation then badRequest err.error
  else if err.is errCyclicRoleInheritance || err.is errMaxMembersExceeded then badRequest err.error
  else if err.is errInvalidCondition then badRequest err.error
  else if err.is errAccessDenied then forbidden err.error
  else .other err

/-- `errNotFound` is none of the sentinels `mapError` tests. -/
theorem errNotFound_is_sentinel :
    [errRoleNotFound, errPermissionNotFound, errAssignmentNotFound, errPolicyNotFound, errRelationNotFound,
      errResourceTypeNotFound, errSystemRoleImmutable, errSystemPermissionImmutable, errDuplicateAssignment,
      errDuplicateRelation, errCyclicRoleInheritance, errMaxMembersExceeded, errInvalidCondition,
      errAccessDenied].all (fun t => !errNotFound.is t) = true := by
  decide

/-- `mapError` passes on every error that wraps the memory store's `errNotFound` once: Forge
answers it with 500, not 404. -/
theorem mapError_notFound (before after : String) :
    mapError (.wrap before errNotFound after) = .other (.wrap before errNotFound after) := by
  have h := errNotFound_is_sentinel
  simp only [List.all_cons, List.all_nil, Bool.and_true, Bool.and_eq_true, Bool.not_eq_true'] at h
  simp [mapError, isNotFound, GoError.is, h, errRoleNotFound, errPermissionNotFound, errAssignmentNotFound,
    errPolicyNotFound, errRelationNotFound, errResourceTypeNotFound, errSystemRoleImmutable,
    errSystemPermissionImmutable, errDuplicateAssignment, errDuplicateRelation, errCyclicRoleInheritance,
    errMaxMembersExceeded, errInvalidCondition, errAccessDenied]

/-- A 400 with `msg` when one of `fields` is empty. -/
def require (fields : List String) (msg : String) : Except HandlerError Unit :=
  if fields.any (· = "") then .error (badRequest msg) else .ok ()

/-- `id.ParseXID(s)` for the prefix `p`, its failure answered with a 400 that starts with `what`. -/
def parseID (what p s : String) : Except HandlerError ID :=
  match ID.parseWithPrefix s p with
  | .ok i => .ok i
  | .error err => .error (badRequest (what ++ err.error))

theorem require_eq_ok {fields : List String} {msg : String} : require fields msg = .ok () ↔ "" ∉ fields := by
  unfold require
  split <;> simp_all

theorem parseID_eq_ok {what p s : String} {i : ID} : parseID what p s = .ok i ↔ ID.parseWithPrefix s p = .ok i := by
  unfold parseID
  split <;> simp_all

/-! ### Requests and responses -/

/-- `api.CheckRequest`. -/
structure CheckRequest where
  subjectKind : String
  subjectID : String
  action : String
  resourceType : String
  resourceID : String
  context : List (String × Value) := []

/-- `toCheckRequest(r)`. -/
def toCheckRequest (r : CheckRequest) : Warden.CheckRequest :=
  { subject := ⟨r.subjectKind, r.subjectID, []⟩, action := ⟨r.action⟩,
    resource := ⟨r.resourceType, r.resourceID, []⟩, context := r.context }

/-- `api.CheckResponse`. -/
structure CheckResponse where
  allowed : Bool
  decision : String
  reason : String
  matchedBy : List MatchInfo
  evalTimeNs : Int
  deriving DecidableEq, Repr

/-- `toCheckResponse(r)`. -/
def toCheckResponse (r : CheckResult) : CheckResponse :=
  ⟨r.allowed, r.decision, r.reason, r.matchedBy, r.evalTimeNs⟩

/-- `api.CreateRoleRequest`. -/
structure CreateRoleRequest where
  name : String
  slug : String
  parentID : String := ""

/-- `api.CreatePermissionRequest`. -/
structure CreatePermissionRequest where
  name : String
  resource : String
  action : String

/-- `api.AssignRoleRequest`. -/
structure AssignRoleRequest where
  roleID : String
  subjectKind : String
  subjectID : String
  resourceType : String := ""
  resourceID : String := ""
  expiresAt : String := ""

/-- `api.WriteRelationRequest`. -/
structure WriteRelationRequest where
  objectType : String
  objectID : String
  relation : String
  subjectType : String
  subjectID : String
  subjectRelation : String := ""

/-- `api.DeleteRelationRequest`. -/
structure DeleteRelationRequest where
  objectType : String
  objectID : String
  relation : String
  subjectType : String
  subjectID : String

/-- `api.ConditionInput`. -/
structure ConditionInput where
  field : String
  operator : String
  value : Value

/-- The condition a handler stores for an input. -/
def ConditionInput.toCondition (c : ConditionInput) : Condition := ⟨c.field, c.operator, c.value⟩

/-- `api.CreatePolicyRequest`. -/
structure CreatePolicyRequest where
  name : String
  effect : String
  priority : Int := 0
  isActive : Bool
  subjects : List SubjectMatch := []
  actions : List String := []
  resources : List String := []
  conditions : List ConditionInput := []

/-- `api.UpdatePolicyRequest`; `none` is a field the JSON body leaves out. -/
structure UpdatePolicyRequest where
  name : String := ""
  effect : String := ""
  priority : Option Int := none
  isActive : Option Bool := none
  subjects : Option (List SubjectMatch) := none
  actions : Option (List String) := none
  resources : Option (List String) := none
  conditions : Option (List ConditionInput) := none

/-- The fields `updatePolicy` copies from the request onto the stored policy. The effect is
copied whatever it says. -/
def UpdatePolicyRequest.patch (req : UpdatePolicyRequest) (p : Policy) : Policy :=
  { p with
    name := if req.name ≠ "" then req.name else p.name
    effect := if req.effect ≠ "" then req.effect else p.effect
    priority := req.priority.getD p.priority
    isActive := req.isActive.getD p.isActive
    subjects := req.subjects.getD p.subjects
    actions := req.actions.getD p.actions
    resources := req.resources.getD p.resources
    conditions := (req.conditions.map (·.map ConditionInput.toCondition)).getD p.conditions }

/-- What a request reads besides its body: its context, the UUID `New` draws, `time.Parse`
of RFC 3339, and the clock of its `i`-th engine call: `now`, the time the call takes, and the
entry a full cache would evict. -/
structure Env where
  ctx : RequestContext
  uuid : BitVec 128
  parseTime : String → Except GoError Int
  tick : Nat → Int × Int × Nat

/-- `API`: the engine it serves, over the memory store its `Store()` returns. -/
structure API where
  store : MemoryStore
  evaluator : Evaluator
  graphWalker : Option GraphWalker
  cache : Option Memory
  config : Config

/-- A handler's answer, its status and value or its error, and the API after it. -/
abbrev Reply (α : Type) := Except HandlerError (Nat × α) × API

namespace API

/-- `a.eng`. -/
def eng (a : API) : Engine := ⟨a.store.toStore, a.evaluator, a.graphWalker, a.cache, a.config⟩

/-- The `i`-th engine call of a request; `Check` changes the engine's cache only. -/
def checkAt (a : API) (env : Env) (i : Nat) (req : Warden.CheckRequest) : Except GoError CheckResult × API :=
  let r := a.eng.check env.ctx (env.tick i).1 (env.tick i).2.1 (env.tick i).2.2 req
  (r.1, { a with cache := r.2.cache })

/-- `API.check`. -/
def check (a : API) (env : Env) (req : CheckRequest) : Reply CheckResponse :=
  match require [req.subjectID, req.action, req.resourceType] "subject_id, action, and resource_type are required" with
  | .error e => (.error e, a)
  | .ok () =>
      match a.checkAt env 0 (toCheckRequest req) with
      | (.error err, a) => (.error (mapError err), a)
      | (.ok result, a) => (.ok (200, toCheckResponse result), a)

/-- `API.enforce`: the check's answer, with status 403 when it denies. -/
def enforce (a : API) (env : Env) (req : CheckRequest) : Reply CheckResponse :=
  match require [req.subjectID, req.action, req.resourceType] "subject_id, action, and resource_type are required" with
  | .error e => (.error e, a)
  | .ok () =>
      match a.checkAt env 0 (toCheckRequest req) with
      | (.error err, a) => (.error (mapError err), a)
      | (.ok result, a) => (.ok (if result.allowed then 200 else 403, toCheckResponse result), a)

/-- The loop of `batchCheck` from its `i`-th check: the first failure ends it. -/
def batchLoop (env : Env) : API → Nat → List CheckRequest → Except HandlerError (List CheckResponse) × API
  | a, _, [] => (.ok [], a)
  | a, i, c :: cs =>
      match a.checkAt env i (toCheckRequest c) with
      | (.error err, a) => (.error (mapError err), a)
      | (.ok result, a) =>
          match batchLoop env a (i + 1) cs with
          | (.error e, a) => (.error e, a)
          | (.ok rs, a) => (.ok (toCheckResponse result :: rs), a)

/-- `API.batchCheck`: the checks in order, none of them validated. -/
def batchCheck (a : API) (env : Env) (checks : List CheckRequest) : Reply (List CheckResponse) :=
  if checks.isEmpty then (.error (badRequest "checks cannot be empty"), a)
  else
    match batchLoop env a 0 checks with
    | (.error e, a) => (.error e, a)
    | (.ok rs, a) => (.ok (200, rs), a)

/-- A route that decodes its request and writes what it decoded: `status` and the body, or the
request's error with nothing written. -/
def write {α β : Type} (a : API) (status : Nat) (decoded : Except HandlerError α)
    (put : MemoryStore → α → MemoryStore) (body : α → β) : Reply β :=
  match decoded with
  | .error e => (.error e, a)
  | .ok x => (.ok (status, body x), { a with store := put a.store x })

/-- The parent `createRole` reads from `parent_id`: none when empty. -/
def parentOf (parentID : String) : Except HandlerError (Option ID) :=
  if parentID = "" then pure none else some <$> parseID "invalid parent_id: " prefixRole parentID

/-- The role `createRole` builds. -/
def newRole (env : Env) (req : CreateRoleRequest) : Except HandlerError Role := do
  require [req.name] "name is required"
  require [req.slug] "slug is required"
  let parentID ← parentOf req.parentID
  pure { id := newID prefixRole env.uuid, tenantID := "", parentID }

/-- `API.createRole`. -/
def createRole (a : API) (env : Env) (req : CreateRoleRequest) : Reply Role :=
  a.write 201 (newRole env req) MemoryStore.createRole id

/-- The permission `createPermission` builds. -/
def newPermission (env : Env) (req : CreatePermissionRequest) : Except HandlerError Permission := do
  require [req.name] "name is required"
  require [req.resource, req.action] "resource and action are required"
  pure { id := newID prefixPermission env.uuid, tenantID := "", resource := req.resource, action := req.action }

/-- `API.createPermission`. -/
def createPermission (a : API) (env : Env) (req : CreatePermissionRequest) : Reply Permission :=
  a.write 201 (newPermission env req) MemoryStore.createPermission id

/-- The expiry `assignRole` reads from `expires_at`: none when empty. -/
def expiresAtOf (env : Env) (expiresAt : String) : Except HandlerError (Option Int) :=
  if expiresAt = "" then pure none
  else match env.parseTime expiresAt with
    | .ok t => pure (some t)
    | .error err => .error (badRequest ("invalid expires_at: " ++ err.error))

/-- The assignment `assignRole` builds. -/
def newAssignment (env : Env) (req : AssignRoleRequest) : Except HandlerError Assignment := do
  require [req.roleID, req.subjectKind, req.subjectID] "role_id, subject_kind, and subject_id are required"
  let roleID ← parseID "invalid role_id: " prefixRole req.roleID
  let expiresAt ← expiresAtOf env req.expiresAt
  pure { id := newID prefixAssignment env.uuid, tenantID := "", roleID, subjectKind := req.subjectKind,
         subjectID := req.subjectID, resourceType := req.resourceType, resourceID := req.resourceID, expiresAt }

/-- `API.assignRole`. -/
def assignRole (a : API) (env : Env) (req : AssignRoleRequest) : Reply Assignment :=
  a.write 201 (newAssignment env req) MemoryStore.createAssignment id

/-- The tuple `writeRelation` builds. -/
def newTuple (env : Env) (req : WriteRelationRequest) : Except HandlerError Tuple := do
  require [req.objectType, req.objectID, req.relation, req.subjectType, req.subjectID]
    "object_type, object_id, relation, subject_type, and subject_id are required"
  pure { id := newID prefixRelation env.uuid, tenantID := "", objectType := req.objectType,
         objectID := req.objectID, relation := req.relation, subjectType := req.subjectType,
         subjectID := req.subjectID, subjectRelation := req.subjectRelation }

/-- `API.writeRelation`. -/
def writeRelation (a : API) (env : Env) (req : WriteRelationRequest) : Reply Tuple :=
  a.write 201 (newTuple env req) MemoryStore.createRelation id

/-- The effect check of `createPolicy`. -/
def checkEffect (effect : String) : Except HandlerError Unit :=
  if effect ≠ effectAllow ∧ effect ≠ effectDeny then .error (badRequest "effect must be 'allow' or 'deny'")
  else .ok ()

/-- The policy `createPolicy` builds. -/
def newPolicy (env : Env) (req : CreatePolicyRequest) : Except HandlerError Policy := do
  require [req.name] "name is required"
  checkEffect req.effect
  pure { id := newID prefixPolicy env.uuid, tenantID := "", name := req.name, effect := req.effect,
         priority := req.priority, isActive := req.isActive, subjects := req.subjects, actions := req.actions,
         resources := req.resources, conditions := req.conditions.map ConditionInput.toCondition }

/-- `API.createPolicy`. -/
def createPolicy (a : API) (env : Env) (req : CreatePolicyRequest) : Reply Policy :=
  a.write 201 (newPolicy env req) MemoryStore.createPolicy id

/-- `API.deleteRelation`: the first tuple of tenant "" with the request's fields goes. -/
def deleteRelation (a : API) (req : DeleteRelationRequest) : Reply Unit :=
  a.write 204 (require [req.objectType, req.objectID, req.relation, req.subjectType, req.subjectID]
      "object_type, object_id, relation, subject_type, and subject_id are required")
    (fun s _ => s.deleteRelationTuple "" req.objectType req.objectID req.relation req.subjectType req.subjectID) id

/-- A route that parses an ID from its path and writes with it, answering 204. -/
def deleteBy (a : API) (what p : String) (s : String) (put : MemoryStore → ID → MemoryStore) : Reply Unit :=
  a.write 204 (parseID what p s) put fun _ => ()

/-- `API.deleteRole`. -/
def deleteRole (a : API) (roleId : String) : Reply Unit :=
  a.deleteBy "invalid role ID: " prefixRole roleId MemoryStore.deleteRole

/-- `API.deletePermission`. -/
def deletePermission (a : API) (permissionId : String) : Reply Unit :=
  a.deleteBy "invalid permission ID: " prefixPermission permissionId MemoryStore.deletePermission

/-- `API.deletePolicy`. -/
def deletePolicy (a : API) (policyId : String) : Reply Unit :=
  a.deleteBy "invalid policy ID: " prefixPolicy policyId MemoryStore.deletePolicy

/-- `API.unassignRole`; the assignment it reads first goes only to the hooks. -/
def unassignRole (a : API) (assignmentId : String) : Reply Unit :=
  a.deleteBy "invalid assignment ID: " prefixAssignment assignmentId MemoryStore.deleteAssignment

/-- The two IDs of the routes on a role's permissions, in the order the handler parses them. -/
def parseRolePermission (roleId permissionId : String) : Except HandlerError (ID × ID) := do
  let roleID ← parseID "invalid role ID: " prefixRole roleId
  let permID ← parseID "invalid permission ID: " prefixPermission permissionId
  pure (roleID, permID)

/-- `API.attachPermissionToRole`; the permission's ID comes in the body. -/
def attachPermissionToRole (a : API) (roleId permissionID : String) : Reply Unit :=
  a.write 204 (parseRolePermission roleId permissionID) (fun s ids => s.attachPermission ids.1 ids.2) fun _ => ()

/-- `API.detachPermissionFromRole`. -/
def detachPermissionFromRole (a : API) (roleId permissionId : String) : Reply Unit :=
  a.write 204 (parseRolePermission roleId permissionId) (fun s ids => s.detachPermission ids.1 ids.2) fun _ => ()

/-- A route that parses an ID from its path and reads the record under it. -/
def getBy {α : Type} (a : API) (what p : String) (s : String) (get : MemoryStore → ID → Except GoError (Option α)) :
    Reply (Option α) :=
  match parseID what p s with
  | .error e => (.error e, a)
  | .ok i =>
      match get a.store i with
      | .error err => (.error (mapError err), a)
      | .ok x => (.ok (200, x), a)

/-- `API.getRole`. -/
def getRole (a : API) (roleId : String) : Reply (Option Role) :=
  a.getBy "invalid role ID: " prefixRole roleId MemoryStore.getRole

/-- `API.getPermission`. -/
def getPermission (a : API) (permissionId : String) : Reply (Option Permission) :=
  a.getBy "invalid permission ID: " prefixPermission permissionId MemoryStore.getPermission

/-- `API.getPolicy`. -/
def getPolicy (a : API) (policyId : String) : Reply (Option Policy) :=
  a.getBy "invalid policy ID: " prefixPolicy policyId MemoryStore.getPolicy

/-- Go's panic on the nil record the update routes would dereference; the memory store never
returns one. -/
def nilDereference : HandlerError := .other (.new "runtime error: invalid memory address or nil pointer dereference")

/-- `API.updateRole`: the stored role, read and written back; none of its modelled fields
can be changed. -/
def updateRole (a : API) (roleId : String) : Reply Role :=
  match a.getRole roleId with
  | (.error e, a) => (.error e, a)
  | (.ok (_, none), a) => (.error nilDereference, a)
  | (.ok (_, some r), a) =>
      match a.store.updateRole r with
      | .error err => (.error (mapError err), a)
      | .ok s => (.ok (200, r), { a with store := s })

/-- `API.updatePolicy`: the stored policy with the request's fields, its effect not checked. -/
def updatePolicy (a : API) (policyId : String) (req : UpdatePolicyRequest) : Reply Policy :=
  match a.getPolicy policyId with
  | (.error e, a) => (.error e, a)
  | (.ok (_, none), a) => (.error nilDereference, a)
  | (.ok (_, some p), a) =>
      match a.store.updatePolicy (req.patch p) with
      | .error err => (.error (mapError err), a)
      | .ok s => (.ok (200, req.patch p), { a with store := s })

/-- `API.listSubjectRoles`: the global roles of the subject in tenant "". -/
def listSubjectRoles (a : API) (subjectKind subjectId : String) : Reply (List String) :=
  match a.store.listRolesForSubject "" subjectKind subjectId with
  | .error err => (.error (mapError err), a)
  | .ok roles => (.ok (200, roles.map ID.string), a)

/-! ### What the routes build and write -/

theorem bind_eq_ok {ε α β : Type} {x : Except ε α} {f : α → Except ε β} {b : β} (h : x >>= f = .ok b) :
    ∃ a, x = .ok a ∧ f a = .ok b := by
  cases x with
  | error e => cases h
  | ok a => exact ⟨a, rfl, h⟩

theorem newRole_eq_ok {env : Env} {req : CreateRoleRequest} {r : Role} (h : newRole env req = .ok r) :
    ∃ parentID, r = { id := newID prefixRole env.uuid, tenantID := "", parentID } := by
  obtain ⟨_, -, h⟩ := bind_eq_ok h
  obtain ⟨_, -, h⟩ := bind_eq_ok h
  obtain ⟨parentID, -, h⟩ := bind_eq_ok h
  exact ⟨parentID, (Except.ok.inj h).symm⟩

theorem newPermission_eq_ok {env : Env} {req : CreatePermissionRequest} {p : Permission}
    (h : newPermission env req = .ok p) :
    p = { id := newID prefixPermission env.uuid, tenantID := "", resource := req.resource, action := req.action } := by
  obtain ⟨_, -, h⟩ := bind_eq_ok h
  obtain ⟨_, -, h⟩ := bind_eq_ok h
  exact (Except.ok.inj h).symm

theorem newAssignment_eq_ok {env : Env} {req : AssignRoleRequest} {a : Assignment} (h : newAssignment env req = .ok a) :
    ∃ roleID expiresAt, a =
      { id := newID prefixAssignment env.uuid, tenantID := "", roleID, subjectKind := req.subjectKind,
        subjectID := req.subjectID, resourceType := req.resourceType, resourceID := req.resourceID,
        expiresAt } := by
  obtain ⟨_, -, h⟩ := bind_eq_ok h
  obtain ⟨roleID, -, h⟩ := bind_eq_ok h
  obtain ⟨expiresAt, -, h⟩ := bind_eq_ok h
  exact ⟨roleID, expiresAt, (Except.ok.inj h).symm⟩

/-- `writeRelation` builds a tuple exactly when the five fields are set, and then the tuple of
tenant "" with the request's fields. -/
theorem newTuple_eq_ok {env : Env} {req : WriteRelationRequest} {t : Tuple} :
    newTuple env req = .ok t ↔
      "" ∉ [req.objectType, req.objectID, req.relation, req.subjectType, req.subjectID] ∧
        t = { id := newID prefixRelation env.uuid, tenantID := "", objectType := req.objectType,
              objectID := req.objectID, relation := req.relation, subjectType := req.subjectType,
              subjectID := req.subjectID, subjectRelation := req.subjectRelation } := by
  unfold newTuple
  cases hr : require [req.objectType, req.objectID, req.relation, req.subjectType, req.subjectID]
      "object_type, object_id, relation, subject_type, and subject_id are required" with
  | error e =>
      have : "" ∈ [req.objectType, req.objectID, req.relation, req.subjectType, req.subjectID] := by
        by_contra hn
        rw [require_eq_ok.2 hn] at hr
        cases hr
      exact iff_of_false (fun h => nomatch h) fun h => h.1 this
  | ok u =>
      exact ⟨fun h => ⟨require_eq_ok.1 hr, (Except.ok.inj h).symm⟩, fun ⟨_, h⟩ => h ▸ rfl⟩

theorem newPolicy_eq_ok {env : Env} {req : CreatePolicyRequest} {p : Policy} (h : newPolicy env req = .ok p) :
    p = { id := newID prefixPolicy env.uuid, tenantID := "", name := req.name, effect := req.effect,
          priority := req.priority, isActive := req.isActive, subjects := req.subjects, actions := req.actions,
          resources := req.resources, conditions := req.conditions.map ConditionInput.toCondition } := by
  obtain ⟨_, -, h⟩ := bind_eq_ok h
  obtain ⟨_, -, h⟩ := bind_eq_ok h
  exact (Except.ok.inj h).symm

end API

end Api

end Warden
