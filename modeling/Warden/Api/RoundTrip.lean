import Warden.Api.Server

/-! # Round trips through the API

What the create route of a role, permission or policy writes, the get route of its kind reads
back under the record's ID (`create_get_roundtrip`). The delete route of a role, permission,
policy, assignment or tuple undoes its create route when the new ID, and what the delete
reaches, were not there before (`create_delete_undo`). An assignment made by `assignRole` is
listed by `listSubjectRoles` exactly when it is global (`assignRole_listSubjectRoles`). The
batch route is the check route sent each item in turn, with the cache carried from one to the
next (`batchCheck_eq_checkEach`).
-/

namespace Warden

namespace Api

/-- The world of the `i`-th check of a batch, sent alone: its clock starts at the batch's `i`-th. -/
def Env.shift (env : Env) (i : Nat) : Env := { env with tick := fun j => env.tick (i + j) }

namespace API

/-- The check route sent each item in turn, the `i`-th under the batch's `i`-th clock, up to
the first failure. -/
def checkEach (env : Env) : API → Nat → List CheckRequest → Except HandlerError (List CheckResponse) × API
  | a, _, [] => (.ok [], a)
  | a, i, c :: cs =>
      match a.check (env.shift i) c with
      | (.error e, a) => (.error e, a)
      | (.ok (_, r), a) =>
          match checkEach env a (i + 1) cs with
          | (.error e, a) => (.error e, a)
          | (.ok rs, a) => (.ok (r :: rs), a)

/-- The check route of a request with its fields set is the engine's check. -/
theorem check_of_fields (a : API) (env : Env) {req : CheckRequest}
    (hreq : "" ∉ [req.subjectID, req.action, req.resourceType]) :
    a.check env req = match a.checkAt env 0 (toCheckRequest req) with
      | (.error err, a) => (.error (mapError err), a)
      | (.ok result, a) => (.ok (200, toCheckResponse result), a) := by
  unfold API.check
  exact require_eq_ok.2 hreq ▸ rfl

theorem batchLoop_eq_checkEach (env : Env) (a : API) (i : Nat) (cs : List CheckRequest)
    (hv : ∀ c ∈ cs, "" ∉ [c.subjectID, c.action, c.resourceType]) :
    batchLoop env a i cs = checkEach env a i cs := by
  induction cs generalizing a i with
  | nil => rfl
  | cons c cs ih =>
      have hk : a.checkAt (env.shift i) 0 (toCheckRequest c) = a.checkAt env i (toCheckRequest c) := rfl
      rw [batchLoop, checkEach, check_of_fields a _ (hv c (List.mem_cons_self _ _)), hk]
      rcases a.checkAt env i (toCheckRequest c) with ⟨_ | result, a'⟩
      · rfl
      · dsimp only
        exact ih a' (i + 1) (fun c' hc' => hv c' (List.mem_cons_of_mem _ hc')) ▸ rfl

/-- The batch route is the check route sent each item in turn: when every item has its fields
set, it answers 200 with what the check route answers the items one after another, the `i`-th
under the batch's `i`-th clock and the cache carried from each to the next, or the first
failure among them; and it leaves the API as that sequence does. -/
theorem batchCheck_eq_checkEach (a : API) (env : Env) (checks : List CheckRequest)
    (hv : ∀ c ∈ checks, "" ∉ [c.subjectID, c.action, c.resourceType]) :
    a.batchCheck env checks =
      if checks.isEmpty then (.error (badRequest "checks cannot be empty"), a)
      else match checkEach env a 0 checks with
        | (.error e, a) => (.error e, a)
        | (.ok rs, a) => (.ok (200, rs), a) := by
  unfold API.batchCheck
  exact batchLoop_eq_checkEach env a 0 checks hv ▸ rfl

theorem batchCheck_eq_checkEach_docRead :
    (blankAPI (some (newMemory []))).batchCheck (tenantEnv "t1" 0) [docRead, docRead] =
      if [docRead, docRead].isEmpty then (.error (badRequest "checks cannot be empty"), blankAPI (some (newMemory [])))
      else match checkEach (tenantEnv "t1" 0) (blankAPI (some (newMemory []))) 0 [docRead, docRead] with
        | (.error e, a) => (.error e, a)
        | (.ok rs, a) => (.ok (200, rs), a) :=
  batchCheck_eq_checkEach (blankAPI (some (newMemory []))) (tenantEnv "t1" 0) [docRead, docRead] (by decide)

/-! ### Create, then read -/

theorem write_ok {α β : Type} {a : API} {status : Nat} {d : Except HandlerError α}
    {put : MemoryStore → α → MemoryStore} {body : α → β} {c : Nat} {y : β} {a' : API}
    (h : a.write status d put body = (.ok (c, y), a')) :
    ∃ x, d = .ok x ∧ body x = y ∧ a' = { a with store := put a.store x } := by
  cases d with
  | error => cases h
  | ok x =>
      obtain ⟨h₁, rfl⟩ := Prod.mk.inj h
      obtain ⟨-, rfl⟩ := Prod.mk.inj (Except.ok.inj h₁)
      exact ⟨x, rfl, rfl, rfl⟩

theorem newID_valid {p : String} (h : (TypeID.validatePrefix p).toBool = true) (uuid : BitVec 128) :
    (newID p uuid).inner.Valid := h

/-- A get route reads a record the store holds under a well-formed ID of its kind. -/
theorem getBy_found {α : Type} (a : API) (what : String) {i : ID} (hv : i.valid = true) (hi : i.inner.Valid)
    {get : MemoryStore → ID → Except GoError (Option α)} {x : α} (hget : get a.store i = .ok (some x)) :
    a.getBy what i.prefix i.string get = (.ok (200, some x), a) := by
  simp only [getBy, parseID, ID.parseWithPrefix_string_self hv hi, hget]

/-- What the create route of a role, permission or policy writes, the get route of its kind
reads back: 200 with the record under its ID, nothing changed. -/
theorem create_get_roundtrip (a : API) (env : Env) :
    (∀ req r a', a.createRole env req = (.ok (201, r), a') → a'.getRole r.id.string = (.ok (200, some r), a')) ∧
      (∀ req p a', a.createPermission env req = (.ok (201, p), a') →
        a'.getPermission p.id.string = (.ok (200, some p), a')) ∧
      (∀ req p a', a.createPolicy env req = (.ok (201, p), a') →
        a'.getPolicy p.id.string = (.ok (200, some p), a')) := by
  refine ⟨fun req r a' h => ?_, fun req p a' h => ?_, fun req p a' h => ?_⟩
  · obtain ⟨x, hx, hr, rfl⟩ := write_ok h
    obtain rfl : x = r := hr
    obtain ⟨_, rfl⟩ := newRole_eq_ok hx
    exact getBy_found _ _ rfl (newID_valid (by decide) _) ((MemoryStore.getRole_createRole _ _ _).trans (if_pos rfl))
  · obtain ⟨x, hx, hp, rfl⟩ := write_ok h
    obtain rfl : x = p := hp
    rw [newPermission_eq_ok hx]
    refine getBy_found _ _ rfl (newID_valid (by decide) _) ?_
    rw [MemoryStore.getPermission_eq_getKey]
    exact (getKey_putKey _ _ _ _).trans (if_pos rfl)
  · obtain ⟨x, hx, hp, rfl⟩ := write_ok h
    obtain rfl : x = p := hp
    rw [newPolicy_eq_ok hx]
    exact getBy_found _ _ rfl (newID_valid (by decide) _) ((getKey_putKey _ _ _ _).trans (if_pos rfl))

/-! ### Create, then delete -/

theorem store_eq_self {a : API} {s : MemoryStore} (h : s = a.store) : ({ a with store := s } : API) = a := by
  rw [h]

/-- A delete route takes a well-formed ID of its kind and writes with it. -/
theorem deleteBy_found (a : API) (what : String) {i : ID} (hv : i.valid = true) (hi : i.inner.Valid)
    (put : MemoryStore → ID → MemoryStore) :
    a.deleteBy what i.prefix i.string put = (.ok (204, ()), { a with store := put a.store i }) := by
  simp only [deleteBy, write, parseID, ID.parseWithPrefix_string_self hv hi]

/-- Deleting by the ID a create route made under a valid prefix leaves the API as it was before
the create, once the store's delete undoes the store's create. -/
theorem deleteBy_newID (a : API) (what : String) {p : String} (hp : (TypeID.validatePrefix p).toBool = true)
    (uuid : BitVec 128) {s : MemoryStore} {put : MemoryStore → ID → MemoryStore} (hs : put s (newID p uuid) = a.store) :
    ({ a with store := s } : API).deleteBy what p (newID p uuid).string put = (.ok (204, ()), a) :=
  (deleteBy_found _ what rfl (newID_valid hp uuid) put).trans (congrArg (Prod.mk _) (store_eq_self (a := a) hs))

/-- Deleting what a create route made undoes it: once a role, permission, policy, assignment or
relation tuple is created under an ID the store does not hold yet, the route that deletes it
answers 204 and leaves the API as it was before the create, provided nothing else the delete
reaches was there before: no permission set under a new role's key, no set holding a new
permission's key, no tuple of tenant "" with a new tuple's fields. -/
theorem create_delete_undo (a : API) (env : Env) :
    (∀ req r a', a.createRole env req = (.ok (201, r), a') →
      (∀ x ∈ a.store.roles, x.id.string ≠ r.id.string) → (∀ e ∈ a.store.rolePermissions, e.1 ≠ r.id.string) →
        a'.deleteRole r.id.string = (.ok (204, ()), a)) ∧
      (∀ req p a', a.createPermission env req = (.ok (201, p), a') →
        (∀ x ∈ a.store.permissions, x.id.string ≠ p.id.string) → (∀ e ∈ a.store.rolePermissions, p.id.string ∉ e.2) →
          a'.deletePermission p.id.string = (.ok (204, ()), a)) ∧
      (∀ req p a', a.createPolicy env req = (.ok (201, p), a') →
        (∀ x ∈ a.store.policies, x.id.string ≠ p.id.string) → a'.deletePolicy p.id.string = (.ok (204, ()), a)) ∧
      (∀ req x a', a.assignRole env req = (.ok (201, x), a') →
        (∀ y ∈ a.store.assignments, y.id.string ≠ x.id.string) → a'.unassignRole x.id.string = (.ok (204, ()), a)) ∧
      (∀ req t a', a.writeRelation env req = (.ok (201, t), a') → (∀ y ∈ a.store.relations, y.id.string ≠ t.id.string) →
        (∀ y ∈ a.store.relations,
          MemoryStore.relationKey "" req.objectType req.objectID req.relation req.subjectType req.subjectID y = false) →
        a'.deleteRelation ⟨req.objectType, req.objectID, req.relation, req.subjectType, req.subjectID⟩ =
          (.ok (204, ()), a)) := by
  refine ⟨fun req r a' h hr hk => ?_, fun req p a' h hp hk => ?_, fun req p a' h hp => ?_,
    fun req x a' h hx => ?_, fun req t a' h ht hn => ?_⟩
  · obtain ⟨y, hy, hyr, rfl⟩ := write_ok h
    obtain rfl : y = r := hyr
    obtain ⟨_, rfl⟩ := newRole_eq_ok hy
    exact deleteBy_newID _ _ (by decide) _ (MemoryStore.deleteRole_createRole _ _ hr hk)
  · obtain ⟨y, hy, hyp, rfl⟩ := write_ok h
    obtain rfl : y = p := hyp
    rw [newPermission_eq_ok hy] at hp hk ⊢
    exact deleteBy_newID _ _ (by decide) _ (MemoryStore.deletePermission_createPermission _ _ hp hk)
  · obtain ⟨y, hy, hyp, rfl⟩ := write_ok h
    obtain rfl : y = p := hyp
    rw [newPolicy_eq_ok hy] at hp ⊢
    exact deleteBy_newID _ _ (by decide) _ (MemoryStore.deletePolicy_createPolicy _ _ hp)
  · obtain ⟨y, hy, hyx, rfl⟩ := write_ok h
    obtain rfl : y = x := hyx
    obtain ⟨_, _, rfl⟩ := newAssignment_eq_ok hy
    exact deleteBy_newID _ _ (by decide) _ (MemoryStore.deleteAssignment_createAssignment _ _ hx)
  · obtain ⟨y, hy, hyt, rfl⟩ := write_ok h
    obtain rfl : y = t := hyt
    obtain ⟨hf, rfl⟩ := newTuple_eq_ok.1 hy
    simp only [deleteRelation, write, require_eq_ok.2 hf]
    exact congrArg (Prod.mk _) (store_eq_self (MemoryStore.deleteRelationTuple_createRelation _ _ ht hn))

/-! ### Assign, then list -/

/-- An assignment made through the API is listed by `listSubjectRoles` exactly when it is
global: after `assignRole` answers 201 with an assignment under a fresh ID, the subject's
listed roles are those listed before, with the assignment's role when its resource type is
empty. -/
theorem assignRole_listSubjectRoles (a : API) (env : Env) (req : AssignRoleRequest) (x : Assignment) (a' : API)
    (h : a.assignRole env req = (.ok (201, x), a')) (hfresh : ∀ y ∈ a.store.assignments, y.id.string ≠ x.id.string) :
    ∃ before after, (a.listSubjectRoles req.subjectKind req.subjectID).1 = .ok (200, before) ∧
      (a'.listSubjectRoles req.subjectKind req.subjectID).1 = .ok (200, after) ∧
      ∀ s, s ∈ after ↔ s ∈ before ∨ (req.resourceType = "" ∧ s = x.roleID.string) := by
  obtain ⟨y, hy, hx, rfl⟩ := write_ok h
  obtain rfl : y = x := hx
  obtain ⟨roleID, expiresAt, rfl⟩ := newAssignment_eq_ok hy
  have hkeep : a.store.assignments.filter (fun y => y.id.string ≠ (newID prefixAssignment env.uuid).string) =
      a.store.assignments := List.filter_eq_self.2 fun y hy => decide_eq_true (hfresh y hy)
  refine ⟨_, _, rfl, rfl, fun s => ?_⟩
  simp only [MemoryStore.listRolesForSubject, MemoryStore.createAssignment, putKey, hkeep, List.filter_append,
    List.map_append, List.mem_append, List.filter_cons, List.filter_nil]
  by_cases hr : req.resourceType = ""
  · simp [hr]
  · simp [hr]

/-- The global assignment `asgn` 3 of role 2 to `user:u1`. -/
def u1Assignment : Assignment :=
  { id := newID prefixAssignment 3, tenantID := "", roleID := newID prefixRole 2, subjectKind := "user",
    subjectID := "u1" }

/-- The API over a store holding `u1Assignment` only. -/
def assignedAPI : API :=
  ⟨{ MemoryStore.new with assignments := [u1Assignment], assignments_nodup := List.nodup_singleton _ },
    defaultEvaluator .textOnly, none, none, defaultConfig⟩

theorem assignRole_listSubjectRoles_scoped :
    ∃ before after, (assignedAPI.listSubjectRoles "user" "u1").1 = .ok (200, before) ∧
      ((assignedAPI.assignRole (tenantEnv "" 7)
          ⟨"role_00000000000000000000000001", "user", "u1", "document", "d1", ""⟩).2.listSubjectRoles
        "user" "u1").1 = .ok (200, after) ∧
      ∀ s, s ∈ after ↔ s ∈ before ∨ ("document" = "" ∧ s = (newID prefixRole 1).string) :=
  assignRole_listSubjectRoles assignedAPI (tenantEnv "" 7)
    ⟨"role_00000000000000000000000001", "user", "u1", "document", "d1", ""⟩
    { id := newID prefixAssignment 7, tenantID := "", roleID := newID prefixRole 1, subjectKind := "user",
      subjectID := "u1", resourceType := "document", resourceID := "d1", expiresAt := none }
    _ rfl fun y hy h => by
      rw [show y = u1Assignment from List.mem_singleton.1 hy] at h
      exact absurd (ID.string_ofNat_inj (p := prefixAssignment) (i := 3) (j := 7) (by decide) (by decide) (by decide) h)
        (by decide)

end API

end Api

end Warden
