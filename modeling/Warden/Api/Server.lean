import Warden.Api.Handlers
import Warden.Engine.Offboarding
import Warden.Engine.Cached

/-! # The API as a state machine

`RegisterRoutes` serves one handler per route. A request names its route with its path
parameters and body, `serve` answers it, and a run serves a list of requests in order, each
with what it reads of the world.

A request changes the store by one `StoreStep` and the cache on the check routes only, and
never the evaluator, the walker or the configuration (`serve_snd`); along a run, every store
invariant the steps keep holds (`run_invariant`). Every record a route writes belongs to the
tenant "", so from `New()` a check under any other tenant denies (`run_check_other_tenant`).
No route invalidates the cache, so once a check is answered, any run of writes leaves it
answered as before until its entry expires (`check_replayed_after_writes`).

Of single routes: a tuple written is granted at once (`writeRelation_check`); the routes that
read one record answer a missing one with a 500, `mapError` not knowing the store's
`errNotFound` (`serve_missing_record`).
-/

namespace Warden

namespace MemoryStore

/-- Every record the store holds belongs to the tenant "". -/
structure TenantBlank (s : MemoryStore) : Prop where
  roles : ∀ r ∈ s.roles, r.tenantID = ""
  permissions : ∀ p ∈ s.permissions, p.tenantID = ""
  assignments : ∀ a ∈ s.assignments, a.tenantID = ""
  relations : ∀ t ∈ s.relations, t.tenantID = ""
  policies : ∀ p ∈ s.policies, p.tenantID = ""

theorem new_tenantBlank : new.TenantBlank :=
  ⟨(fun _ h => nomatch h), (fun _ h => nomatch h), (fun _ h => nomatch h), (fun _ h => nomatch h),
    (fun _ h => nomatch h)⟩

theorem TenantBlank.tenantEmpty {s : MemoryStore} (h : s.TenantBlank) {T : String} (hT : T ≠ "") :
    s.TenantEmpty T :=
  ⟨fun a ha => (h.assignments a ha).trans_ne hT.symm, fun t ht => (h.relations t ht).trans_ne hT.symm,
    fun p hp => (h.policies p hp).trans_ne hT.symm⟩

/-- What a route can do to the store: write a record of tenant "" or one read from the store,
delete, or change a permission set. -/
inductive StoreStep (s : MemoryStore) : MemoryStore → Prop where
  | same : StoreStep s s
  | createRole (r : Role) (h : r.tenantID = "" ∨ r ∈ s.roles) : StoreStep s (s.createRole r)
  | createPermission (p : Permission) (h : p.tenantID = "") : StoreStep s (s.createPermission p)
  | createAssignment (a : Assignment) (h : a.tenantID = "") : StoreStep s (s.createAssignment a)
  | createRelation (t : Tuple) (h : t.tenantID = "") : StoreStep s (s.createRelation t)
  | createPolicy (p : Policy) (h : p.tenantID = "" ∨ ∃ q ∈ s.policies, p.tenantID = q.tenantID) :
      StoreStep s (s.createPolicy p)
  | deleteRole (i : ID) : StoreStep s (s.deleteRole i)
  | deletePermission (i : ID) : StoreStep s (s.deletePermission i)
  | deletePolicy (i : ID) : StoreStep s (s.deletePolicy i)
  | deleteAssignment (i : ID) : StoreStep s (s.deleteAssignment i)
  | deleteRelationTuple (oT oI r sT sI : String) : StoreStep s (s.deleteRelationTuple "" oT oI r sT sI)
  | attach (r p : ID) : StoreStep s (s.attachPermission r p)
  | detach (r p : ID) : StoreStep s (s.detachPermission r p)

theorem mem_filter_of {α : Type} {p : α → Bool} {l : List α} {x : α} (h : x ∈ l.filter p) : x ∈ l :=
  (List.mem_filter.1 h).1

/-- No step writes a record of another tenant than "" into a store of tenant "" only. -/
theorem StoreStep.tenantBlank {s s' : MemoryStore} (h : StoreStep s s') (hs : s.TenantBlank) : s'.TenantBlank := by
  cases h with
  | same => exact hs
  | createRole r hr =>
      refine { hs with roles := fun x hx => ?_ }
      rcases mem_putKey.1 hx with ⟨hx, -⟩ | rfl
      · exact hs.roles x hx
      · exact hr.elim id (hs.roles _)
  | createPermission p hp =>
      refine { hs with permissions := fun x hx => ?_ }
      rcases mem_putKey.1 hx with ⟨hx, -⟩ | rfl
      · exact hs.permissions x hx
      · exact hp
  | createAssignment a ha =>
      refine { hs with assignments := fun x hx => ?_ }
      rcases mem_putKey.1 hx with ⟨hx, -⟩ | rfl
      · exact hs.assignments x hx
      · exact ha
  | createRelation t ht =>
      refine { hs with relations := fun x hx => ?_ }
      rcases List.mem_append.1 hx with hx | hx
      · exact hs.relations x (mem_filter_of hx)
      · rw [List.mem_singleton.1 hx]; exact ht
  | createPolicy p hp =>
      refine { hs with policies := fun x hx => ?_ }
      rcases mem_putKey.1 hx with ⟨hx, -⟩ | rfl
      · exact hs.policies x hx
      · obtain hp | ⟨q, hq, he⟩ := hp
        · exact hp
        · exact he.trans (hs.policies q hq)
  | deleteRole i => exact { hs with roles := fun x hx => hs.roles x (mem_filter_of hx) }
  | deletePermission i => exact { hs with permissions := fun x hx => hs.permissions x (mem_filter_of hx) }
  | deletePolicy i => exact { hs with policies := fun x hx => hs.policies x (mem_filter_of hx) }
  | deleteAssignment i => exact { hs with assignments := fun x hx => hs.assignments x (mem_filter_of hx) }
  | deleteRelationTuple oT oI r sT sI =>
      exact { hs with relations := fun x hx => hs.relations x (List.mem_of_mem_eraseP hx) }
  | attach r p => exact ⟨hs.roles, hs.permissions, hs.assignments, hs.relations, hs.policies⟩
  | detach r p => exact ⟨hs.roles, hs.permissions, hs.assignments, hs.relations, hs.policies⟩

end MemoryStore

namespace Api

/-- A request to one of the routes `RegisterRoutes` serves, with its path parameters and body. -/
inductive Request where
  | check (req : CheckRequest)
  | enforce (req : CheckRequest)
  | batchCheck (checks : List CheckRequest)
  | createRole (req : CreateRoleRequest)
  | getRole (roleId : String)
  | updateRole (roleId : String)
  | deleteRole (roleId : String)
  | attachPermission (roleId permissionID : String)
  | detachPermission (roleId permissionId : String)
  | createPermission (req : CreatePermissionRequest)
  | getPermission (permissionId : String)
  | deletePermission (permissionId : String)
  | assignRole (req : AssignRoleRequest)
  | unassignRole (assignmentId : String)
  | listSubjectRoles (subjectKind subjectId : String)
  | writeRelation (req : WriteRelationRequest)
  | deleteRelation (req : DeleteRelationRequest)
  | createPolicy (req : CreatePolicyRequest)
  | getPolicy (policyId : String)
  | updatePolicy (policyId : String) (req : UpdatePolicyRequest)
  | deletePolicy (policyId : String)

/-- The routes that call `Check`. -/
def Request.isCheck : Request → Bool
  | .check _ | .enforce _ | .batchCheck _ => true
  | _ => false

/-- The value a route answers with. -/
inductive Body where
  | check (r : CheckResponse)
  | checks (rs : List CheckResponse)
  | role (r : Option Role)
  | permission (p : Option Permission)
  | assignment (a : Assignment)
  | tuple (t : Tuple)
  | policy (p : Option Policy)
  | roleIDs (ids : List String)
  | noContent

namespace API

/-- A handler's answer, its value put in the response body. -/
def answer {α : Type} (f : α → Body) (r : Reply α) : Reply Body := (r.1.map fun x => (x.1, f x.2), r.2)

/-- The route a request names, served. -/
def serve (a : API) (env : Env) : Request → Reply Body
  | .check req => answer .check (a.check env req)
  | .enforce req => answer .check (a.enforce env req)
  | .batchCheck checks => answer .checks (a.batchCheck env checks)
  | .createRole req => answer (.role ∘ some) (a.createRole env req)
  | .getRole roleId => answer .role (a.getRole roleId)
  | .updateRole roleId => answer (.role ∘ some) (a.updateRole roleId)
  | .deleteRole roleId => answer (fun _ => .noContent) (a.deleteRole roleId)
  | .attachPermission roleId permissionID => answer (fun _ => .noContent) (a.attachPermissionToRole roleId permissionID)
  | .detachPermission roleId permissionId => answer (fun _ => .noContent) (a.detachPermissionFromRole roleId permissionId)
  | .createPermission req => answer (.permission ∘ some) (a.createPermission env req)
  | .getPermission permissionId => answer .permission (a.getPermission permissionId)
  | .deletePermission permissionId => answer (fun _ => .noContent) (a.deletePermission permissionId)
  | .assignRole req => answer .assignment (a.assignRole env req)
  | .unassignRole assignmentId => answer (fun _ => .noContent) (a.unassignRole assignmentId)
  | .listSubjectRoles subjectKind subjectId => answer .roleIDs (a.listSubjectRoles subjectKind subjectId)
  | .writeRelation req => answer .tuple (a.writeRelation env req)
  | .deleteRelation req => answer (fun _ => .noContent) (a.deleteRelation req)
  | .createPolicy req => answer (.policy ∘ some) (a.createPolicy env req)
  | .getPolicy policyId => answer .policy (a.getPolicy policyId)
  | .updatePolicy policyId req => answer (.policy ∘ some) (a.updatePolicy policyId req)
  | .deletePolicy policyId => answer (fun _ => .noContent) (a.deletePolicy policyId)

/-- The API after a run of requests, each with what it reads. -/
def run (a : API) (rs : List (Env × Request)) : API := rs.foldl (fun a r => (a.serve r.1 r.2).2) a

/-! ### What one request changes -/

theorem checkAt_snd (a : API) (env : Env) (i : Nat) (req : Warden.CheckRequest) :
    ∃ c, (a.checkAt env i req).2 = { a with cache := c } ∧ (a.cache = none → c = none) :=
  ⟨_, rfl, fun h => by simp only [eng, Engine.check, h]⟩

theorem batchLoop_snd (env : Env) (a : API) (i : Nat) (cs : List CheckRequest) :
    ∃ c, (batchLoop env a i cs).2 = { a with cache := c } ∧ (a.cache = none → c = none) := by
  induction cs generalizing a i with
  | nil => exact ⟨a.cache, rfl, id⟩
  | cons c cs ih =>
      obtain ⟨c₁, h₁, hn₁⟩ := checkAt_snd a env i (toCheckRequest c)
      unfold batchLoop
      rcases hc : a.checkAt env i (toCheckRequest c) with ⟨_ | result, a'⟩ <;> rw [hc] at h₁
      · exact ⟨c₁, h₁, hn₁⟩
      · subst h₁
        dsimp only
        obtain ⟨c₂, h₂, hn₂⟩ := ih { a with cache := c₁ } (i + 1)
        rcases hl : batchLoop env { a with cache := c₁ } (i + 1) cs with ⟨_ | rs, a''⟩ <;> rw [hl] at h₂ <;>
          exact ⟨c₂, h₂, fun h => hn₂ (hn₁ h)⟩

theorem check_snd (a : API) (env : Env) (req : CheckRequest) :
    ∃ c, (a.check env req).2 = { a with cache := c } ∧ (a.cache = none → c = none) := by
  unfold API.check
  cases require [req.subjectID, req.action, req.resourceType] "subject_id, action, and resource_type are required" with
  | error e => exact ⟨a.cache, rfl, id⟩
  | ok u =>
      obtain ⟨c, hc, hn⟩ := checkAt_snd a env 0 (toCheckRequest req)
      rcases h' : a.checkAt env 0 (toCheckRequest req) with ⟨_ | result, a'⟩ <;> rw [h'] at hc <;> exact ⟨c, hc, hn⟩

theorem enforce_snd (a : API) (env : Env) (req : CheckRequest) :
    ∃ c, (a.enforce env req).2 = { a with cache := c } ∧ (a.cache = none → c = none) := by
  unfold API.enforce
  cases require [req.subjectID, req.action, req.resourceType] "subject_id, action, and resource_type are required" with
  | error e => exact ⟨a.cache, rfl, id⟩
  | ok u =>
      obtain ⟨c, hc, hn⟩ := checkAt_snd a env 0 (toCheckRequest req)
      rcases h' : a.checkAt env 0 (toCheckRequest req) with ⟨_ | result, a'⟩ <;> rw [h'] at hc <;> exact ⟨c, hc, hn⟩

theorem batchCheck_snd (a : API) (env : Env) (checks : List CheckRequest) :
    ∃ c, (a.batchCheck env checks).2 = { a with cache := c } ∧ (a.cache = none → c = none) := by
  unfold API.batchCheck
  split
  · exact ⟨a.cache, rfl, id⟩
  · obtain ⟨c, hc, hn⟩ := batchLoop_snd env a 0 checks
    rcases h' : batchLoop env a 0 checks with ⟨_ | rs, a'⟩ <;> rw [h'] at hc <;> exact ⟨c, hc, hn⟩

theorem write_snd {α β : Type} (a : API) (status : Nat) (d : Except HandlerError α)
    (put : MemoryStore → α → MemoryStore) (body : α → β) :
    (a.write status d put body).2 = a ∨ ∃ x, d = .ok x ∧ (a.write status d put body).2 = { a with store := put a.store x } := by
  cases d with
  | error e => exact .inl rfl
  | ok x => exact .inr ⟨x, rfl, rfl⟩

theorem getBy_snd {α : Type} (a : API) (what p s : String) (get : MemoryStore → ID → Except GoError (Option α)) :
    (a.getBy what p s get).2 = a := by
  unfold getBy
  split
  · rfl
  · split <;> rfl

theorem getBy_fst {α : Type} {a : API} {what p s : String} {get : MemoryStore → ID → Except GoError (Option α)}
    {c : Nat} {x : α} (h : (a.getBy what p s get).1 = .ok (c, some x)) : ∃ i, get a.store i = .ok (some x) := by
  unfold getBy at h
  split at h
  · cases h
  · rename_i i _
    split at h
    · cases h
    · cases h
      exact ⟨i, ‹_›⟩

theorem mem_of_getKey {α : Type} {key : α → String} {what : String} {l : List α} {k : String} {x : α}
    (h : getKey key what l k = .ok (some x)) : x ∈ l := by
  obtain ⟨y, hy, hx⟩ := getKey_eq_ok.1 h
  cases hx
  exact List.mem_of_find?_eq_some hy

theorem updateRole_snd (a : API) (roleId : String) :
    (a.updateRole roleId).2 = a ∨
      ∃ r ∈ a.store.roles, a.updateRole roleId = (.ok (200, r), { a with store := a.store.createRole r }) := by
  have hg := getBy_snd a "invalid role ID: " prefixRole roleId MemoryStore.getRole
  unfold updateRole
  rcases h : a.getRole roleId with ⟨_ | ⟨c, _ | r⟩, a'⟩
  all_goals
    have ha : a' = a := by rw [← hg]; exact (congrArg Prod.snd h).symm
    subst ha
  · exact .inl rfl
  · exact .inl rfl
  · obtain ⟨i, hi⟩ := getBy_fst (congrArg Prod.fst h)
    have hr : r ∈ a'.store.roles := mem_of_getKey (by rw [← MemoryStore.getRole_eq_getKey]; exact hi)
    dsimp only
    rw [MemoryStore.updateRole_eq, if_pos ⟨r, hr, rfl⟩]
    exact .inr ⟨r, hr, rfl⟩

theorem updatePolicy_snd (a : API) (policyId : String) (req : UpdatePolicyRequest) :
    (a.updatePolicy policyId req).2 = a ∨
      ∃ p ∈ a.store.policies,
        a.updatePolicy policyId req = (.ok (200, req.patch p), { a with store := a.store.createPolicy (req.patch p) }) := by
  have hg := getBy_snd a "invalid policy ID: " prefixPolicy policyId MemoryStore.getPolicy
  unfold updatePolicy
  rcases h : a.getPolicy policyId with ⟨_ | ⟨c, _ | p⟩, a'⟩
  all_goals
    have ha : a' = a := by rw [← hg]; exact (congrArg Prod.snd h).symm
    subst ha
  · exact .inl rfl
  · exact .inl rfl
  · obtain ⟨i, hi⟩ := getBy_fst (congrArg Prod.fst h)
    have hp : p ∈ a'.store.policies := mem_of_getKey hi
    dsimp only
    rw [MemoryStore.updatePolicy_eq, if_pos ⟨p, hp, rfl⟩]
    exact .inr ⟨p, hp, rfl⟩

theorem listSubjectRoles_snd (a : API) (subjectKind subjectId : String) :
    (a.listSubjectRoles subjectKind subjectId).2 = a := by
  unfold listSubjectRoles
  split <;> rfl

/-- A write route changes the store by the `StoreStep` its write is, or not at all. -/
theorem write_step {α β : Type} (a : API) (status : Nat) (d : Except HandlerError α)
    (put : MemoryStore → α → MemoryStore) (body : α → β)
    (hput : ∀ x, d = .ok x → MemoryStore.StoreStep a.store (put a.store x)) :
    ∃ s, (a.write status d put body).2 = { a with store := s } ∧ MemoryStore.StoreStep a.store s := by
  rcases write_snd a status d put body with he | ⟨x, hx, he⟩
  · exact ⟨a.store, he, .same⟩
  · exact ⟨_, he, hput x hx⟩

/-- A route other than the check routes changes the store only, by one `StoreStep`. -/
theorem serve_write_snd (a : API) (env : Env) {r : Request} (h : r.isCheck = false) :
    ∃ s, (a.serve env r).2 = { a with store := s } ∧ MemoryStore.StoreStep a.store s := by
  cases r
  case check | enforce | batchCheck => cases h
  all_goals dsimp only [serve, answer]
  case createRole req =>
    refine write_step a _ _ _ _ fun x hx => ?_
    obtain ⟨_, rfl⟩ := newRole_eq_ok hx
    exact .createRole _ (.inl rfl)
  case createPermission req =>
    refine write_step a _ _ _ _ fun x hx => ?_
    rw [newPermission_eq_ok hx]
    exact .createPermission _ rfl
  case assignRole req =>
    refine write_step a _ _ _ _ fun x hx => ?_
    obtain ⟨_, _, rfl⟩ := newAssignment_eq_ok hx
    exact .createAssignment _ rfl
  case writeRelation req =>
    refine write_step a _ _ _ _ fun x hx => ?_
    rw [(newTuple_eq_ok.1 hx).2]
    exact .createRelation _ rfl
  case createPolicy req =>
    refine write_step a _ _ _ _ fun x hx => ?_
    rw [newPolicy_eq_ok hx]
    exact .createPolicy _ (.inl rfl)
  case deleteRole => exact write_step a _ _ _ _ fun x _ => .deleteRole x
  case deletePermission => exact write_step a _ _ _ _ fun x _ => .deletePermission x
  case deletePolicy => exact write_step a _ _ _ _ fun x _ => .deletePolicy x
  case unassignRole => exact write_step a _ _ _ _ fun x _ => .deleteAssignment x
  case deleteRelation => exact write_step a _ _ _ _ fun _ _ => .deleteRelationTuple _ _ _ _ _
  case attachPermission => exact write_step a _ _ _ _ fun x _ => .attach x.1 x.2
  case detachPermission => exact write_step a _ _ _ _ fun x _ => .detach x.1 x.2
  case getRole | getPermission | getPolicy => exact ⟨a.store, getBy_snd _ _ _ _ _, .same⟩
  case listSubjectRoles => exact ⟨a.store, listSubjectRoles_snd _ _ _, .same⟩
  case updateRole roleId =>
    rcases updateRole_snd a roleId with he | ⟨r, hr, he⟩
    · exact ⟨a.store, he, .same⟩
    · exact ⟨_, congrArg Prod.snd he, .createRole r (.inr hr)⟩
  case updatePolicy policyId req =>
    rcases updatePolicy_snd a policyId req with he | ⟨p, hp, he⟩
    · exact ⟨a.store, he, .same⟩
    · exact ⟨_, congrArg Prod.snd he, .createPolicy _ (.inr ⟨p, hp, rfl⟩)⟩

/-- A check route changes the cache only, and keeps an absent cache absent. -/
theorem serve_check_snd (a : API) (env : Env) {r : Request} (h : r.isCheck = true) :
    ∃ c, (a.serve env r).2 = { a with cache := c } ∧ (a.cache = none → c = none) := by
  cases r with
  | check req => exact check_snd a env req
  | enforce req => exact enforce_snd a env req
  | batchCheck checks => exact batchCheck_snd a env checks
  | _ => cases h

/-- What one request can change: the store by a `StoreStep`, and the cache on the check
routes only, an absent cache staying absent; nothing else. -/
theorem serve_snd (a : API) (env : Env) (r : Request) :
    ∃ s c, (a.serve env r).2 = { a with store := s, cache := c } ∧ MemoryStore.StoreStep a.store s ∧
      (r.isCheck = false → c = a.cache) ∧ (a.cache = none → c = none) := by
  cases hr : r.isCheck
  · obtain ⟨s, he, hs⟩ := serve_write_snd a env hr
    exact ⟨s, a.cache, he, hs, fun _ => rfl, id⟩
  · obtain ⟨c, he, hn⟩ := serve_check_snd a env hr
    exact ⟨a.store, c, he, .same, fun h => Bool.noConfusion h, hn⟩

theorem write_error {α β : Type} {a : API} {status : Nat} {d : Except HandlerError α}
    {put : MemoryStore → α → MemoryStore} {body : α → β} {e : HandlerError}
    (h : (a.write status d put body).1 = .error e) : (a.write status d put body).2 = a := by
  cases d with
  | error => rfl
  | ok x => cases h

theorem updateRole_error {a : API} {roleId : String} {e : HandlerError} (h : (a.updateRole roleId).1 = .error e) :
    (a.updateRole roleId).2 = a :=
  (updateRole_snd a roleId).resolve_right fun ⟨_, _, he⟩ => by rw [he] at h; cases h

theorem updatePolicy_error {a : API} {policyId : String} {req : UpdatePolicyRequest} {e : HandlerError}
    (h : (a.updatePolicy policyId req).1 = .error e) : (a.updatePolicy policyId req).2 = a :=
  (updatePolicy_snd a policyId req).resolve_right fun ⟨_, _, he⟩ => by rw [he] at h; cases h

theorem map_eq_error {ε α β : Type} {x : Except ε α} {f : α → β} {e : ε} (h : x.map f = .error e) :
    x = .error e := by
  cases x with
  | error => simpa [Except.map] using h
  | ok => cases h

/-- A failed request other than a check changes nothing: every route writes only once its
request has been read and checked. A failed check may still drop an expired cache entry. -/
theorem serve_error_snd (a : API) (env : Env) {r : Request} (hr : r.isCheck = false) {e : HandlerError}
    (h : (a.serve env r).1 = .error e) : (a.serve env r).2 = a := by
  cases r
  case check | enforce | batchCheck => cases hr
  all_goals
    dsimp only [serve, answer] at h ⊢
    replace h := map_eq_error h
  case getRole | getPermission | getPolicy => exact getBy_snd _ _ _ _ _
  case listSubjectRoles => exact listSubjectRoles_snd _ _ _
  case updateRole => exact updateRole_error h
  case updatePolicy => exact updatePolicy_error h
  all_goals exact write_error h

/-! ### What a run keeps -/

section Run

variable (Inv : MemoryStore → Prop) (step : ∀ s s', MemoryStore.StoreStep s s' → Inv s → Inv s')

include step in
/-- Over every run, an invariant of the store that each `StoreStep` keeps holds; the evaluator,
walker and configuration are the ones it started with, and an absent cache is still absent. -/
theorem run_invariant (a : API) (ha : Inv a.store) (rs : List (Env × Request)) :
    Inv (a.run rs).store ∧ (a.run rs).evaluator = a.evaluator ∧ (a.run rs).graphWalker = a.graphWalker ∧
      (a.run rs).config = a.config ∧ (a.cache = none → (a.run rs).cache = none) := by
  induction rs generalizing a with
  | nil => exact ⟨ha, rfl, rfl, rfl, id⟩
  | cons r rs ih =>
      obtain ⟨s, c, he, hs, -, hn⟩ := serve_snd a r.1 r.2
      have hrun : a.run (r :: rs) = (a.serve r.1 r.2).2.run rs := rfl
      obtain ⟨h₁, h₂, h₃, h₄, h₅⟩ := ih { a with store := s, cache := c } (step _ _ hs ha)
      rw [hrun, he]
      exact ⟨h₁, h₂, h₃, h₄, fun h => h₅ (hn h)⟩

end Run

/-- A run of requests other than the check routes keeps the cache as it was. -/
theorem run_writes_cache (a : API) (rs : List (Env × Request)) (hw : ∀ r ∈ rs, r.2.isCheck = false) :
    (a.run rs).cache = a.cache := by
  induction rs generalizing a with
  | nil => rfl
  | cons r rs ih =>
      obtain ⟨s, c, he, -, hc, -⟩ := serve_snd a r.1 r.2
      have hrun : a.run (r :: rs) = (a.serve r.1 r.2).2.run rs := rfl
      rw [hrun, he, ih _ fun r' hr' => hw r' (List.mem_cons_of_mem _ hr'), hc (hw r (List.mem_cons_self _ _))]

theorem require_eq_error {fields : List String} {msg : String} {e : HandlerError}
    (h : require fields msg = .error e) : e = badRequest msg := by
  unfold require at h
  split at h
  · exact (Except.error.inj h).symm
  · cases h

/-- The check route answers 200 with the engine's result, once its fields are set. -/
theorem check_of_checkAt {a : API} {env : Env} {req : CheckRequest} {result : CheckResult}
    (hreq : "" ∉ [req.subjectID, req.action, req.resourceType])
    (h : (a.checkAt env 0 (toCheckRequest req)).1 = .ok result) :
    (a.check env req).1 = .ok (200, toCheckResponse result) := by
  unfold API.check
  rw [require_eq_ok.2 hreq]
  rcases hk : a.checkAt env 0 (toCheckRequest req) with ⟨_ | r, a'⟩ <;> rw [hk] at h <;> cases h
  rfl

/-- What the check route answers with: its fields are set, and the engine's result. -/
theorem check_eq_ok {a : API} {env : Env} {req : CheckRequest} {c : Nat} {resp : CheckResponse}
    (h : (a.check env req).1 = .ok (c, resp)) :
    "" ∉ [req.subjectID, req.action, req.resourceType] ∧ ∃ result,
      (a.checkAt env 0 (toCheckRequest req)).1 = .ok result ∧ resp = toCheckResponse result ∧
        (a.check env req).2 = (a.checkAt env 0 (toCheckRequest req)).2 := by
  unfold API.check at h ⊢
  cases hreq : require [req.subjectID, req.action, req.resourceType]
      "subject_id, action, and resource_type are required" with
  | error e => rw [hreq] at h; cases h
  | ok u =>
      rw [hreq] at h
      refine ⟨require_eq_ok.1 hreq, ?_⟩
      rcases hk : a.checkAt env 0 (toCheckRequest req) with ⟨_ | r, a'⟩ <;> rw [hk] at h <;> cases h
      exact ⟨r, rfl, rfl, rfl⟩

/-- The API over an empty memory store with the default evaluator, no walker and `cache`. -/
def blankAPI (cache : Option Memory) : API := ⟨MemoryStore.new, defaultEvaluator .textOnly, none, cache, defaultConfig⟩

/-- A request's world under tenant `tenantID` of app `app1`, with a fixed UUID and clock. -/
def tenantEnv (tenantID : String) (uuid : BitVec 128) : Env :=
  ⟨withTenant {} "app1" tenantID, uuid, fun _ => .ok 0, fun _ => (0, 0, 0)⟩

/-- The check body asking whether user `u1` may read document `d1`. -/
def docRead : CheckRequest := ⟨"user", "u1", "read", "document", "d1", []⟩

/-- Served from `New()` by an engine with no cache, the default evaluator, and no walker or
the BFS walker: after every run of requests, the check route under a tenant other than ""
answers 400 for a missing field or denies. -/
theorem run_check_other_tenant {P : Prims} (a : API) (hs : a.store = MemoryStore.new) (hc : a.cache = none)
    (hev : a.evaluator = defaultEvaluator P) (hw : ∀ gw, a.graphWalker = some gw → ∃ d, gw = defaultGraphWalker d)
    (rs : List (Env × Request)) (env : Env) (hT : (scopeFromContext env.ctx).tenantID ≠ "") (req : CheckRequest) :
    ((a.run rs).check env req).1 = .error (badRequest "subject_id, action, and resource_type are required") ∨
      ∃ r, ((a.run rs).check env req).1 = .ok (200, r) ∧ r.allowed = false := by
  obtain ⟨hb, hev', hw', -, hc'⟩ :=
    run_invariant MemoryStore.TenantBlank (fun _ _ h => h.tenantBlank) a (hs ▸ MemoryStore.new_tenantBlank) rs
  by_cases hreq : "" ∈ [req.subjectID, req.action, req.resourceType]
  · left
    unfold API.check
    cases hr : require [req.subjectID, req.action, req.resourceType]
        "subject_id, action, and resource_type are required" with
    | error e => exact congrArg Except.error (require_eq_error hr)
    | ok u => exact absurd hreq (require_eq_ok.1 hr)
  · obtain ⟨r, hr, hra⟩ := check_of_tenantEmpty (a.run rs).eng (hc' hc) (hev'.trans hev)
      (fun gw h => hw gw (hw'.symm.trans h)) (a.run rs).store env.ctx (hb.tenantEmpty hT) _ _ _ (toCheckRequest req)
    exact .inr ⟨_, check_of_checkAt hreq hr, hra⟩

theorem run_check_other_tenant_role :
    (((blankAPI none).run [(tenantEnv "" 0, .createRole ⟨"admin", "admin", ""⟩)]).check (tenantEnv "t1" 1)
        docRead).1 = .error (badRequest "subject_id, action, and resource_type are required") ∨
      ∃ r, (((blankAPI none).run [(tenantEnv "" 0, .createRole ⟨"admin", "admin", ""⟩)]).check (tenantEnv "t1" 1)
        docRead).1 = .ok (200, r) ∧ r.allowed = false :=
  run_check_other_tenant (P := .textOnly) _ rfl rfl rfl (fun _ h => Option.noConfusion h) _ (tenantEnv "t1" 1)
    (by simp only [tenantEnv, scopeFromContext, withTenant, Option.getD_some]; decide) _

/-- No route invalidates a cached result: once the check route has answered a request, every
run of the other routes, whatever it writes, deletes or detaches, leaves that request answered
as before, under the same tenant, until its cache entry expires. -/
theorem check_replayed_after_writes (a : API) (m : Memory) (hm : a.cache = some m) (env : Env)
    (req : CheckRequest) (resp : CheckResponse) (h : (a.check env req).1 = .ok (200, resp)) :
    ∃ expiry, (0 ≤ m.ttl → (env.tick 0).1 ≤ expiry) ∧
      ∀ (rs : List (Env × Request)) (env' : Env), (∀ r ∈ rs, r.2.isCheck = false) →
        (scopeFromContext env'.ctx).tenantID = (scopeFromContext env.ctx).tenantID → (env'.tick 0).1 ≤ expiry →
          (((a.check env req).2.run rs).check env' req).1 = .ok (200, { resp with evalTimeNs := (env'.tick 0).2.1 }) := by
  obtain ⟨hreq, result, hres, rfl, ha⟩ := check_eq_ok h
  obtain ⟨m', c, expiry, hm', rfl, hexp, hget⟩ := Engine.check_cached_entry (e := a.eng) hm hres
  refine ⟨expiry, hexp, fun rs env' hw hT hle => ?_⟩
  have hc : ((a.checkAt env 0 (toCheckRequest req)).2.run rs).eng.cache = some m' :=
    (run_writes_cache _ rs hw).trans hm'
  have hk : (((a.checkAt env 0 (toCheckRequest req)).2.run rs).checkAt env' 0 (toCheckRequest req)).1 =
      .ok { c with evalTimeNs := (env'.tick 0).2.1 } := by
    show (Engine.check _ _ _ _ _ _).1 = _
    rw [Engine.check_fst, hc, Option.some_bind, hT, hget _ hle]
  rw [ha]
  exact check_of_checkAt hreq hk

theorem check_replayed_after_writes_denied :
    ∃ expiry, (0 ≤ (newMemory []).ttl → ((tenantEnv "t1" 1).tick 0).1 ≤ expiry) ∧
      ∀ (rs : List (Env × Request)) (env' : Env), (∀ r ∈ rs, r.2.isCheck = false) →
        (scopeFromContext env'.ctx).tenantID = (scopeFromContext (tenantEnv "t1" 1).ctx).tenantID →
          (env'.tick 0).1 ≤ expiry →
            ((((blankAPI (some (newMemory []))).check (tenantEnv "t1" 1) docRead).2.run rs).check env' docRead).1 =
              .ok (200, { (⟨false, "deny_no_roles", "subject has no roles", [], 0⟩ : CheckResponse) with
                evalTimeNs := (env'.tick 0).2.1 }) :=
  check_replayed_after_writes (blankAPI (some (newMemory []))) (newMemory []) rfl (tenantEnv "t1" 1) docRead _ rfl

/-- A route that reads one record answers a well-formed ID of its kind, when the store fails
with a wrapped `errNotFound`, with that error passed on by `mapError`, and changes nothing. -/
theorem getBy_notFound {α : Type} (a : API) (what : String) {i : ID} (hv : i.valid = true) (hi : i.inner.Valid)
    {get : MemoryStore → ID → Except GoError (Option α)} {before : String}
    (hget : get a.store i = .error (.wrap before errNotFound "")) :
    a.getBy what i.prefix i.string get = (.error (.other (.wrap before errNotFound "")), a) := by
  simp only [getBy, parseID, ID.parseWithPrefix_string_self hv hi, hget, mapError_notFound]

/-- The routes that read one record answer a well-formed ID of their kind with no record behind
it by the memory store's own error: `mapError` knows only the package's sentinels, and the
store wraps its private `errNotFound`, so the client gets a 500 where `ErrRoleNotFound` would
give a 404. Nothing changes. -/
theorem serve_missing_record (a : API) (env : Env) {i : ID} (hv : i.valid = true) (hi : i.inner.Valid)
    (req : UpdatePolicyRequest) :
    (prefixRole = i.prefix → (∀ r ∈ a.store.roles, r.id.string ≠ i.string) →
      ∀ route ∈ [Request.getRole i.string, .updateRole i.string],
        a.serve env route = (.error (.other (.wrap ("role " ++ i.string ++ ": ") errNotFound "")), a)) ∧
    (prefixPermission = i.prefix → (∀ p ∈ a.store.permissions, p.id.string ≠ i.string) →
      a.serve env (.getPermission i.string) =
        (.error (.other (.wrap ("permission " ++ i.string ++ ": ") errNotFound "")), a)) ∧
    (prefixPolicy = i.prefix → (∀ p ∈ a.store.policies, p.id.string ≠ i.string) →
      ∀ route ∈ [Request.getPolicy i.string, .updatePolicy i.string req],
        a.serve env route = (.error (.other (.wrap ("policy " ++ i.string ++ ": ") errNotFound "")), a)) := by
  refine ⟨fun hp hmiss route hr => ?_, fun hp hmiss => ?_, fun hp hmiss route hr => ?_⟩
  · have hg : a.getRole i.string = (.error (.other (.wrap ("role " ++ i.string ++ ": ") errNotFound "")), a) := by
      rw [getRole, hp]
      exact getBy_notFound a _ hv hi (by rw [MemoryStore.getRole_eq_getKey]; exact getKey_missing hmiss)
    simp only [List.mem_cons, List.mem_singleton, List.not_mem_nil, or_false] at hr
    rcases hr with rfl | rfl
    · simp only [serve, answer, hg]; rfl
    · simp only [serve, answer, updateRole, hg]; rfl
  · have hg : a.getPermission i.string =
        (.error (.other (.wrap ("permission " ++ i.string ++ ": ") errNotFound "")), a) := by
      rw [getPermission, hp]
      exact getBy_notFound a _ hv hi (by rw [MemoryStore.getPermission_eq_getKey]; exact getKey_missing hmiss)
    simp only [serve, answer, hg]; rfl
  · have hg : a.getPolicy i.string = (.error (.other (.wrap ("policy " ++ i.string ++ ": ") errNotFound "")), a) := by
      rw [getPolicy, hp]
      exact getBy_notFound a _ hv hi (getKey_missing hmiss)
    simp only [List.mem_cons, List.mem_singleton, List.not_mem_nil, or_false] at hr
    rcases hr with rfl | rfl
    · simp only [serve, answer, hg]; rfl
    · simp only [serve, answer, updatePolicy, hg]; rfl

theorem checkDirectRelation_createRelation (s : MemoryStore) (t : Tuple) :
    (s.createRelation t).checkDirectRelation t.tenantID t.objectType t.objectID t.relation t.subjectType t.subjectID =
      .ok true := by
  simp [MemoryStore.checkDirectRelation, MemoryStore.createRelation]

/-- The check route on an engine with no cache answers an evaluation error through `mapError`,
or 200 with the evaluation's verdict. -/
theorem checkAt_fst_uncached {a : API} (hc : a.cache = none) (env : Env) (i : Nat) (req : Warden.CheckRequest) :
    (a.checkAt env i req).1 =
      (a.eng.evaluateAll (scopeFromContext env.ctx) req).map ({ · with evalTimeNs := (env.tick i).2.1 }) := by
  rw [checkAt, Engine.check_uncached hc]

theorem check_uncached_cases {a : API} (hc : a.cache = none) (env : Env) {req : CheckRequest}
    (hreq : "" ∉ [req.subjectID, req.action, req.resourceType]) :
    (∃ err, (a.check env req).1 = .error (mapError err)) ∨
      ∃ m resp, a.eng.evaluateAll (scopeFromContext env.ctx) (toCheckRequest req) = .ok m ∧
        (a.check env req).1 = .ok (200, resp) ∧ resp.allowed = m.allowed := by
  have hk := checkAt_fst_uncached hc env 0 (toCheckRequest req)
  cases hm : a.eng.evaluateAll (scopeFromContext env.ctx) (toCheckRequest req) with
  | error err =>
      left
      refine ⟨err, ?_⟩
      unfold API.check
      rw [require_eq_ok.2 hreq]
      rw [hm] at hk
      rcases h : a.checkAt env 0 (toCheckRequest req) with ⟨_ | r, a'⟩ <;> rw [h] at hk <;> cases hk
      rfl
  | ok m =>
      rw [hm] at hk
      exact .inr ⟨m, _, rfl, check_of_checkAt hreq hk, rfl⟩

/-- A relation tuple written through the API grants at once: the check route of its subject,
relation and object under tenant "" then answers an evaluation error, or allows exactly when
ABAC does not deny explicitly; for an engine with no cache, ReBAC enabled and the default
evaluator. -/
theorem writeRelation_check {P : Prims} (a : API) (hc : a.cache = none) (hev : a.evaluator = defaultEvaluator P)
    (hre : a.config.rebacEnabled = true) (env env' : Env) (req : WriteRelationRequest)
    (hf : "" ∉ [req.objectType, req.objectID, req.relation, req.subjectType, req.subjectID])
    (hT : (scopeFromContext env'.ctx).tenantID = "") (context : List (String × Value)) :
    (∃ t, (a.writeRelation env req).1 = .ok (201, t)) ∧
      ((∃ err, ((a.writeRelation env req).2.check env'
          ⟨req.subjectType, req.subjectID, req.relation, req.objectType, req.objectID, context⟩).1 =
            .error (mapError err)) ∨
        ∃ resp, ((a.writeRelation env req).2.check env'
          ⟨req.subjectType, req.subjectID, req.relation, req.objectType, req.objectID, context⟩).1 = .ok (200, resp) ∧
          (resp.allowed = true ↔ ¬ (a.config.abacEnabled = true ∧ ∃ d, evaluateABAC a.store.toStore a.evaluator ""
            (toCheckRequest ⟨req.subjectType, req.subjectID, req.relation, req.objectType, req.objectID, context⟩) =
              .ok (some d) ∧ d.decision = decisionDenyExplicit))) := by
  obtain ⟨t, ht⟩ : ∃ t, newTuple env req = .ok t := ⟨_, (@newTuple_eq_ok env req _).2 ⟨hf, rfl⟩⟩
  have hwr : a.writeRelation env req = (.ok (201, t), { a with store := a.store.createRelation t }) := by
    simp only [writeRelation, write, ht, id]
  have hreq : "" ∉ [req.subjectID, req.relation, req.objectType] := fun h => hf (by
    simp only [List.mem_cons, List.mem_singleton, List.not_mem_nil, or_false] at h ⊢; tauto)
  refine ⟨⟨t, by rw [hwr]⟩, ?_⟩
  rw [hwr]
  rcases @check_uncached_cases { a with store := a.store.createRelation t } hc env'
    ⟨req.subjectType, req.subjectID, req.relation, req.objectType, req.objectID, context⟩ hreq with
    h | ⟨m, resp, hm, h, hra⟩
  · exact .inl h
  · refine .inr ⟨resp, h, ?_⟩
    have hd : (a.store.createRelation t).checkDirectRelation "" req.objectType req.objectID req.relation
        req.subjectType req.subjectID = .ok true := by
      have h := checkDirectRelation_createRelation a.store t
      rw [(newTuple_eq_ok.1 ht).2] at h ⊢
      exact h
    have hreb : evaluateReBAC (a.store.createRelation t).toStore a.graphWalker ""
        (toCheckRequest ⟨req.subjectType, req.subjectID, req.relation, req.objectType, req.objectID, context⟩) =
          .ok { allowed := true, decision := decisionAllow,
                matchedBy := [{ source := "rebac", detail := "direct relation" }] } := by
      simp only [Warden.evaluateReBAC, MemoryStore.toStore_checkDirectRelation, toCheckRequest, hd]
    rw [hra, evaluateAll_allowed_iff hev hm, hT]
    exact and_iff_left (.inr (.inl ⟨hre, _, hreb, rfl⟩))

/-- The tuple making user `u1` a viewer of document `d1`. -/
def docViewer : WriteRelationRequest := ⟨"document", "d1", "viewer", "user", "u1", ""⟩

theorem writeRelation_check_viewer :
    (∃ t, ((blankAPI none).writeRelation (tenantEnv "" 0) docViewer).1 = .ok (201, t)) ∧
      ((∃ err, (((blankAPI none).writeRelation (tenantEnv "" 0) docViewer).2.check (tenantEnv "" 1)
          ⟨docViewer.subjectType, docViewer.subjectID, docViewer.relation, docViewer.objectType, docViewer.objectID, []⟩).1 = .error (mapError err)) ∨
        ∃ resp, (((blankAPI none).writeRelation (tenantEnv "" 0) docViewer).2.check (tenantEnv "" 1)
          ⟨docViewer.subjectType, docViewer.subjectID, docViewer.relation, docViewer.objectType, docViewer.objectID, []⟩).1 = .ok (200, resp) ∧
          (resp.allowed = true ↔ ¬ ((blankAPI none).config.abacEnabled = true ∧ ∃ d, evaluateABAC
            (blankAPI none).store.toStore (blankAPI none).evaluator "" (toCheckRequest ⟨docViewer.subjectType, docViewer.subjectID, docViewer.relation, docViewer.objectType, docViewer.objectID, []⟩) =
              .ok (some d) ∧ d.decision = decisionDenyExplicit))) :=
  writeRelation_check (P := .textOnly) (blankAPI none) rfl rfl rfl (tenantEnv "" 0) (tenantEnv "" 1) docViewer
    (by decide) (by simp only [tenantEnv, scopeFromContext, withTenant, Option.getD_some]) []

end API

end Api

end Warden
