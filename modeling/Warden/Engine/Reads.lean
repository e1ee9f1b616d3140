import Warden.Engine.Check

/-! # What a check reads of the store

Under tenant `T`, a check calls the tenant's list queries with `T`, and three lookups by ID
that take no tenant: `GetRole`, `ListRolePermissions` and `GetPermission`. Two stores that
answer these alike give the same result (`Engine.check_congr`). On the memory store this
means: a check under `T` depends on the assignments, tuples and policies of `T`, and on the
roles, permissions and attachments of every tenant; and it never reads `ExpiresAt`.
-/

namespace Warden

/-- Two stores answer alike every query a check under tenant `T` makes. -/
structure Store.AgreeOn (T : String) (s₁ s₂ : Store) : Prop where
  listRolesForSubject : s₁.listRolesForSubject T = s₂.listRolesForSubject T
  listRolesForSubjectOnResource : s₁.listRolesForSubjectOnResource T = s₂.listRolesForSubjectOnResource T
  getRole : s₁.getRole = s₂.getRole
  listRolePermissions : s₁.listRolePermissions = s₂.listRolePermissions
  getPermission : s₁.getPermission = s₂.getPermission
  checkDirectRelation : s₁.checkDirectRelation T = s₂.checkDirectRelation T
  listRelationSubjects : s₁.listRelationSubjects T = s₂.listRelationSubjects T
  listActivePolicies : s₁.listActivePolicies T = s₂.listActivePolicies T

section Congr

variable {T : String} {s₁ s₂ : Store}

theorem walkRoleParents_congr (h : s₁.getRole = s₂.getRole) (budget : Nat) (roleID : ID)
    (acc : List String × List ID) :
    walkRoleParents s₁ budget roleID acc = walkRoleParents s₂ budget roleID acc := by
  induction budget generalizing roleID acc with
  | zero => rfl
  | succ budget ih =>
      obtain ⟨seen, result⟩ := acc
      simp only [walkRoleParents, h, ih]

theorem evaluateRBAC_congr (h : Store.AgreeOn T s₁ s₂) (req : CheckRequest) :
    evaluateRBAC s₁ T req = evaluateRBAC s₂ T req := by
  have hw : walkRoleParents s₁ = walkRoleParents s₂ := by
    funext budget roleID acc
    exact walkRoleParents_congr h.getRole budget roleID acc
  have hp : permissionGrant s₁ = permissionGrant s₂ := by
    funext permName roleID permID
    simp only [permissionGrant, h.getPermission]
  have hg : roleGrant s₁ = roleGrant s₂ := by
    funext permName roleID
    simp only [roleGrant, hp, h.listRolePermissions]
  simp only [evaluateRBAC, rbacResult, resolveInheritedRoles, h.listRolesForSubject,
    h.listRolesForSubjectOnResource, hw, hg]

theorem evaluateReBAC_congr (h : Store.AgreeOn T s₁ s₂) {g : Option GraphWalker}
    (hw : ∀ gw, g = some gw → ∃ d, gw = defaultGraphWalker d) (req : CheckRequest) :
    evaluateReBAC s₁ g T req = evaluateReBAC s₂ g T req := by
  cases g with
  | none => simp only [evaluateReBAC, h.checkDirectRelation]
  | some gw =>
      obtain ⟨d, rfl⟩ := hw gw rfl
      simp only [evaluateReBAC, defaultGraphWalker, bfsWalk, h.checkDirectRelation,
        h.listRelationSubjects]

/-- A check reads the store only through the queries `AgreeOn` names, when its walker is
none or a BFS walker. -/
theorem Engine.check_congr (e : Engine) (hw : ∀ gw, e.graphWalker = some gw → ∃ d, gw = defaultGraphWalker d)
    (ctx : RequestContext) (h : Store.AgreeOn (scopeFromContext ctx).tenantID s₁ s₂)
    (now elapsed : Int) (victim : Nat) (req : CheckRequest) :
    ({ e with store := s₁ }.check ctx now elapsed victim req).1 =
      ({ e with store := s₂ }.check ctx now elapsed victim req).1 := by
  have hall : ({ e with store := s₁ } : Engine).evaluateAll (scopeFromContext ctx) req =
      ({ e with store := s₂ } : Engine).evaluateAll (scopeFromContext ctx) req := by
    simp only [Engine.evaluateAll, evaluateRBAC_congr h, evaluateReBAC_congr h hw, evaluateABAC,
      h.listActivePolicies]
  rw [Engine.check_fst, Engine.check_fst, hall]

end Congr

theorem filter_tenant_congr {α : Type} {T : String} (f : α → String) {l₁ l₂ : List α}
    (h : l₁.filter (f · = T) = l₂.filter (f · = T)) (p : α → Prop) [DecidablePred p] :
    l₁.filter (fun a => f a = T ∧ p a) = l₂.filter (fun a => f a = T ∧ p a) := by
  have key : ∀ l : List α, l.filter (fun a => f a = T ∧ p a) = (l.filter (f · = T)).filter p := by
    intro l
    rw [List.filter_filter]
    congr 1
    funext a
    simp [Bool.and_comm]
  rw [key, key, h]

theorem any_tenant_congr {α : Type} {T : String} (f : α → String) {l₁ l₂ : List α}
    (h : l₁.filter (f · = T) = l₂.filter (f · = T)) (p : α → Prop) [DecidablePred p] :
    l₁.any (fun a => f a = T ∧ p a) = l₂.any (fun a => f a = T ∧ p a) := by
  have key : ∀ l : List α, l.any (fun a => f a = T ∧ p a) = (l.filter (f · = T)).any p := by
    intro l
    rw [List.any_filter]
    congr 1
    funext a
    simp
  rw [key, key, h]

namespace MemoryStore

/-- Memory stores with the same assignments, tuples and policies of `T`, each in the same
order, and the same roles, permissions and attachments, agree on every query under `T`. -/
theorem agreeOn {S₁ S₂ : MemoryStore} {T : String}
    (hA : S₁.assignments.filter (·.tenantID = T) = S₂.assignments.filter (·.tenantID = T))
    (hR : S₁.relations.filter (·.tenantID = T) = S₂.relations.filter (·.tenantID = T))
    (hP : S₁.policies.filter (·.tenantID = T) = S₂.policies.filter (·.tenantID = T))
    (hroles : S₁.roles = S₂.roles) (hperms : S₁.permissions = S₂.permissions)
    (hattach : S₁.rolePermissions = S₂.rolePermissions) :
    Store.AgreeOn T S₁.toStore S₂.toStore where
  listRolesForSubject := by
    funext kind id
    exact congrArg (fun l : List Assignment => (.ok (l.map (·.roleID)) : Except GoError (List ID)))
      (filter_tenant_congr (·.tenantID) hA fun a =>
        a.subjectKind = kind ∧ a.subjectID = id ∧ a.resourceType = "")
  listRolesForSubjectOnResource := by
    funext kind id type rid
    exact congrArg (fun l : List Assignment => (.ok (l.map (·.roleID)) : Except GoError (List ID)))
      (filter_tenant_congr (·.tenantID) hA fun a =>
        a.subjectKind = kind ∧ a.subjectID = id ∧ a.resourceType = type ∧ a.resourceID = rid)
  getRole := by funext roleID; simp only [toStore, getRole, hroles]
  listRolePermissions := by funext roleID; simp only [toStore, listRolePermissions, hattach]
  getPermission := by funext permID; simp only [toStore, getPermission, hperms]
  checkDirectRelation := by
    funext type oid rel st sid
    exact congrArg Except.ok (any_tenant_congr (·.tenantID) hR fun t : Tuple =>
      t.objectType = type ∧ t.objectID = oid ∧ t.relation = rel ∧ t.subjectType = st ∧ t.subjectID = sid)
  listRelationSubjects := by
    funext type oid rel
    exact congrArg Except.ok (filter_tenant_congr (·.tenantID) hR fun t : Tuple =>
      t.objectType = type ∧ t.objectID = oid ∧ t.relation = rel)
  listActivePolicies :=
    congrArg Except.ok (filter_tenant_congr (·.tenantID) hP fun p : Policy => p.isActive = true)

end MemoryStore

/-- A check under `T` returns the same result on two memory stores that hold the same
assignments, relation tuples and policies of `T`, each in the same order, and the same
roles, permissions and permission attachments of every tenant. -/
theorem check_tenant_isolated (e : Engine)
    (hw : ∀ gw, e.graphWalker = some gw → ∃ d, gw = defaultGraphWalker d)
    (S₁ S₂ : MemoryStore) (T : String)
    (hA : S₁.assignments.filter (·.tenantID = T) = S₂.assignments.filter (·.tenantID = T))
    (hR : S₁.relations.filter (·.tenantID = T) = S₂.relations.filter (·.tenantID = T))
    (hP : S₁.policies.filter (·.tenantID = T) = S₂.policies.filter (·.tenantID = T))
    (hroles : S₁.roles = S₂.roles) (hperms : S₁.permissions = S₂.permissions)
    (hattach : S₁.rolePermissions = S₂.rolePermissions)
    (ctx : RequestContext) (hT : (scopeFromContext ctx).tenantID = T) (now elapsed : Int)
    (victim : Nat) (req : CheckRequest) :
    ({ e with store := S₁.toStore }.check ctx now elapsed victim req).1 =
      ({ e with store := S₂.toStore }.check ctx now elapsed victim req).1 := by
  subst hT
  exact e.check_congr hw ctx (MemoryStore.agreeOn hA hR hP hroles hperms hattach) now elapsed victim req

/-- The assignment of the role `role_…1` to `user:u1` of tenant `t1`, until `expiresAt`. -/
def grantAssignment (expiresAt : Option Int) : Assignment :=
  { id := ⟨⟨"asgn", 1⟩, true⟩, tenantID := "t1", roleID := ⟨⟨"role", 1⟩, true⟩,
    subjectKind := "user", subjectID := "u1", expiresAt := expiresAt }

/-- `user:u1` of tenant `t1` holds, until `expiresAt`, the role `role_…1` of `roleTenant`,
which holds the permission `document:read` of `roleTenant` when `attached`. -/
def grantStore (roleTenant : String) (attached : Bool) (expiresAt : Option Int) : MemoryStore where
  roles := [{ id := ⟨⟨"role", 1⟩, true⟩, tenantID := roleTenant }]
  permissions :=
    [{ id := ⟨⟨"perm", 1⟩, true⟩, tenantID := roleTenant, resource := "document", action := "read" }]
  rolePermissions :=
    if attached then [((⟨⟨"role", 1⟩, true⟩ : ID).string, [(⟨⟨"perm", 1⟩, true⟩ : ID).string])] else []
  assignments := [grantAssignment expiresAt]
  relations := []
  policies := []
  roles_nodup := List.nodup_singleton _
  permissions_nodup := List.nodup_singleton _
  rolePermissions_nodup := by cases attached <;> simp
  permissionSets_nodup := by cases attached <;> simp
  assignments_nodup := List.nodup_singleton _
  relations_nodup := List.nodup_nil
  policies_nodup := List.nodup_nil

/-- `grantStore "t2" true none` with an assignment of tenant `t3` added. -/
def otherTenantStore : MemoryStore :=
  { grantStore "t2" true none with
    assignments := [grantAssignment none,
      { grantAssignment none with id := ⟨⟨"asgn", 2⟩, true⟩, tenantID := "t3" }]
    assignments_nodup := by decide }

theorem check_tenant_isolated_grant :
    ({ storeEngine (grantStore "t2" true none).toStore none with
        store := (grantStore "t2" true none).toStore }.check (withTenant {} "app1" "t1") 0 0 0
        (readFrom "10.0.1.5")).1 =
      ({ storeEngine (grantStore "t2" true none).toStore none with
        store := otherTenantStore.toStore }.check (withTenant {} "app1" "t1") 0 0 0
        (readFrom "10.0.1.5")).1 :=
  check_tenant_isolated (storeEngine (grantStore "t2" true none).toStore none)
    (fun _ h => ⟨10, (Option.some.inj h).symm⟩) (grantStore "t2" true none) otherTenantStore "t1"
    rfl rfl rfl rfl rfl rfl (withTenant {} "app1" "t1") rfl 0 0 0 (readFrom "10.0.1.5")

/-- Two stores with the same data of tenant `t1`: its one assignment, no tuples, policies,
roles or permissions. They differ only in whether the role of tenant `t2` that the
assignment names holds `document:read`, and a check under `t1` allows on the first and
denies on the second. -/
theorem check_reads_other_tenant :
    (grantStore "t2" true none).assignments = (grantStore "t2" false none).assignments ∧
    (grantStore "t2" true none).relations = (grantStore "t2" false none).relations ∧
    (grantStore "t2" true none).policies = (grantStore "t2" false none).policies ∧
    (grantStore "t2" true none).roles = (grantStore "t2" false none).roles ∧
    (grantStore "t2" true none).permissions = (grantStore "t2" false none).permissions ∧
    (grantStore "t2" true none).roles.all (·.tenantID = "t2") ∧
    (grantStore "t2" true none).permissions.all (·.tenantID = "t2") ∧
    ((storeEngine (grantStore "t2" true none).toStore none).check (withTenant {} "app1" "t1") 0 0 0
      (readFrom "10.0.1.5")).1.toOption.map (·.allowed) = some true ∧
    ((storeEngine (grantStore "t2" false none).toStore none).check (withTenant {} "app1" "t1") 0 0 0
      (readFrom "10.0.1.5")).1.toOption.map (·.allowed) = some false := by
  refine ⟨rfl, rfl, rfl, rfl, rfl, rfl, rfl, ?_⟩
  simp only [Engine.check, Engine.evaluateAll, evaluateReBAC, storeEngine,
    walk_of_no_relations (S := grantStore "t2" true none) rfl,
    walk_of_no_relations (S := grantStore "t2" false none) rfl]
  decide

namespace MemoryStore

/-- The store with every assignment's `ExpiresAt` cleared. -/
def clearExpiry (s : MemoryStore) : MemoryStore :=
  { s with
    assignments := s.assignments.map fun a => { a with expiresAt := none }
    assignments_nodup := by simpa [List.map_map, Function.comp_def] using s.assignments_nodup }

/-- No query reads `ExpiresAt`. -/
theorem toStore_clearExpiry (s : MemoryStore) : s.clearExpiry.toStore = s.toStore := by
  have h₁ : s.clearExpiry.listRolesForSubject = s.listRolesForSubject := by
    funext t kind id
    simp [clearExpiry, listRolesForSubject, List.filter_map, Function.comp_def]
  have h₂ : s.clearExpiry.listRolesForSubjectOnResource = s.listRolesForSubjectOnResource := by
    funext t kind id type rid
    simp [clearExpiry, listRolesForSubjectOnResource, List.filter_map, Function.comp_def]
  simp only [toStore, h₁, h₂]
  rfl

/-- Once the expired assignments are purged, deleting one of them changes nothing. -/
theorem deleteExpired_deleteAssignment {s : MemoryStore} {now : Int} {a : Assignment}
    (ha : a ∈ s.assignments) (hexp : Expired now a) :
    ((s.deleteAssignment a.id).deleteExpiredAssignments now).1 = (s.deleteExpiredAssignments now).1 := by
  have key : (s.assignments.filter (·.id.string ≠ a.id.string)).filter (¬ Expired now ·) =
      s.assignments.filter (¬ Expired now ·) := by
    rw [List.filter_filter]
    refine List.filter_congr fun x hx => ?_
    by_cases hk : x.id.string = a.id.string
    · have hxa : x = a := List.inj_on_of_nodup_map s.assignments_nodup hx ha hk
      subst hxa
      simp [hexp]
    · simp [hk]
  simp only [deleteExpiredAssignments, deleteAssignment]
  congr 1

end MemoryStore

/-- A check never reads `ExpiresAt`: it answers alike on a memory store and on that store
with every expiry cleared. An assignment that expired before `now` stops counting once
`DeleteExpiredAssignments(now)` has run: on the purged store, deleting it changes no answer. -/
theorem check_expiry_by_purge (e : Engine) (S : MemoryStore) (ctx : RequestContext) (clock elapsed : Int)
    (victim : Nat) (req : CheckRequest) :
    ({ e with store := S.toStore }.check ctx clock elapsed victim req).1 =
        ({ e with store := S.clearExpiry.toStore }.check ctx clock elapsed victim req).1 ∧
      ∀ (now : Int) (a : Assignment), a ∈ S.assignments → MemoryStore.Expired now a →
        ({ e with store := (S.deleteExpiredAssignments now).1.toStore }.check ctx clock elapsed victim
            req).1 =
          ({ e with store := ((S.deleteAssignment a.id).deleteExpiredAssignments now).1.toStore }.check
            ctx clock elapsed victim req).1 := by
  refine ⟨by rw [MemoryStore.toStore_clearExpiry], fun now a ha hexp => ?_⟩
  rw [MemoryStore.deleteExpired_deleteAssignment ha hexp]

theorem check_expiry_by_purge_grant :
    let S := grantStore "t1" true (some 0)
    let e := storeEngine S.toStore none
    let a := grantAssignment (some 0)
    ({ e with store := S.toStore }.check (withTenant {} "app1" "t1") 1 0 0 (readFrom "10.0.1.5")).1 =
        ({ e with store := S.clearExpiry.toStore }.check (withTenant {} "app1" "t1") 1 0 0
          (readFrom "10.0.1.5")).1 ∧
      (a ∈ S.assignments ∧ MemoryStore.Expired 1 a) ∧
      ({ e with store := (S.deleteExpiredAssignments 1).1.toStore }.check (withTenant {} "app1" "t1")
          1 0 0 (readFrom "10.0.1.5")).1 =
        ({ e with store := ((S.deleteAssignment a.id).deleteExpiredAssignments 1).1.toStore }.check
          (withTenant {} "app1" "t1") 1 0 0 (readFrom "10.0.1.5")).1 :=
  ⟨(check_expiry_by_purge _ _ _ 1 0 0 _).1, ⟨List.mem_singleton_self _, ⟨0, rfl, by decide⟩⟩,
    (check_expiry_by_purge _ _ _ 1 0 0 _).2 1 _ (List.mem_singleton_self _) ⟨0, rfl, by decide⟩⟩

/-- An assignment of `user:u1` that expired at `0` still grants `document:read` at the
instant `1`, and deleting it revokes the access. -/
theorem check_expired_assignment_grants :
    MemoryStore.Expired 1 (grantAssignment (some 0)) ∧
    ((storeEngine (grantStore "t1" true (some 0)).toStore none).check (withTenant {} "app1" "t1") 1 0 0
      (readFrom "10.0.1.5")).1.toOption.map (·.allowed) = some true ∧
    ((storeEngine ((grantStore "t1" true (some 0)).deleteAssignment (grantAssignment (some 0)).id).toStore
      none).check
      (withTenant {} "app1" "t1") 1 0 0 (readFrom "10.0.1.5")).1.toOption.map (·.allowed) = some false := by
  refine ⟨⟨0, rfl, by decide⟩, ?_⟩
  simp only [Engine.check, Engine.evaluateAll, evaluateReBAC, storeEngine,
    walk_of_no_relations (S := grantStore "t1" true (some 0)) rfl,
    walk_of_no_relations
      (S := (grantStore "t1" true (some 0)).deleteAssignment (grantAssignment (some 0)).id) rfl]
  decide

end Warden
