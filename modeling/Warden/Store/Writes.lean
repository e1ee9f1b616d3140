import Warden.Store.Memory
import Mathlib.Data.List.Dedup

/-! # Writing to the memory store

Every write of `memory.Store` is a map assignment or deletion under an entity's ID string,
or a loop that deletes the entries a test picks. `CreateX` writes without a check,
`UpdateX` refuses a key its map lacks with `x <id>: not found`, and no deletion fails.
`DeleteRole` also drops the role's permission set, `DeletePermission` takes the permission
out of every set, and the deletions by tenant do both for what they delete. No write checks
that an ID it stores names anything: a set may name a missing role or permission, and an
assignment a missing role.

The permission sets stand for a relation between role keys and permission keys. The nested
maps implement it (`permissionWrites_attached`): after any run of `AttachPermission`,
`DetachPermission`, `SetRolePermissions`, `DeleteRole` and `DeletePermission`, a role's set
holds a key exactly when the relation, put through the same writes, relates the two, and
`ListRolePermissions` lists exactly the permission IDs so related.

## Implementation notes

`putKey` and `dropKey` are the map assignment and deletion on the list of a map's values,
`getKey` and `requireKey` the lookups of `GetX` and `UpdateX`; each write is one of them
applied to its own map, key and message. A set is a list without repeats, and a write to a
set puts the set last in the list of sets, one of the orders a later loop may see.
-/

namespace Warden

section Keyed

variable {α : Type} (key : α → String)

/-- `m[key(x)] = x` on a map kept as the list of its values. -/
def putKey (l : List α) (x : α) : List α := l.filter (key · ≠ key x) ++ [x]

/-- `delete(m, k)`. -/
def dropKey (l : List α) (k : String) : List α := l.filter (key · ≠ k)

/-- `GetX(id)`: the value under the key, else `what <id>: not found`. -/
def getKey (what : String) (l : List α) (k : String) : Except GoError (Option α) :=
  match l.find? (key · = k) with
  | some x => .ok (some x)
  | none => .error (.wrap (what ++ k ++ ": ") errNotFound "")

/-- The guard of `UpdateX(x)`: `what <id>: not found` unless the map holds the key. -/
def requireKey (what : String) (l : List α) (k : String) : Except GoError Unit :=
  if l.any (key · = k) then .ok () else .error (.wrap (what ++ k ++ ": ") errNotFound "")

variable {key}

theorem putKey_nodup {l : List α} (h : (l.map key).Nodup) (x : α) : ((putKey key l x).map key).Nodup := by
  rw [putKey, List.map_append, List.nodup_append]
  exact ⟨h.sublist ((List.filter_sublist _).map _), List.nodup_singleton _, by simp⟩

theorem dropKey_nodup {l : List α} (h : (l.map key).Nodup) (k : String) : ((dropKey key l k).map key).Nodup :=
  h.sublist ((List.filter_sublist _).map _)

theorem mem_putKey {l : List α} {x y : α} : y ∈ putKey key l x ↔ y ∈ l ∧ key y ≠ key x ∨ y = x := by
  simp [putKey]

theorem find?_filter_of_imp {l : List α} {p q : α → Bool} (h : ∀ y, p y = true → q y = true) :
    (l.filter q).find? p = l.find? p := by
  rw [List.find?_filter]
  congr 1
  funext y
  cases hp : p y <;> simp [hp, h y]

theorem find?_putKey (l : List α) (x : α) (k : String) :
    (putKey key l x).find? (key · = k) = if key x = k then some x else l.find? (key · = k) := by
  rw [putKey, List.find?_append]
  split
  · rename_i hx
    rw [List.find?_eq_none.2 fun y hy => by simpa [← hx] using (List.mem_filter.1 hy).2]
    simp [hx]
  · rename_i hx
    rw [find?_filter_of_imp fun y hy => by
      simp only [decide_eq_true_eq] at hy ⊢
      exact hy ▸ Ne.symm hx]
    cases l.find? (key · = k) <;> simp [hx]

theorem find?_dropKey (l : List α) (k k' : String) :
    (dropKey key l k).find? (key · = k') = if k = k' then none else l.find? (key · = k') := by
  rw [dropKey]
  split
  · rename_i hk
    exact List.find?_eq_none.2 fun y hy => by simpa [← hk] using (List.mem_filter.1 hy).2
  · rename_i hk
    exact find?_filter_of_imp fun y hy => by
      simp only [decide_eq_true_eq] at hy ⊢
      exact hy ▸ Ne.symm hk

theorem getKey_eq_ok {what : String} {l : List α} {k : String} {o : Option α} :
    getKey key what l k = .ok o ↔ ∃ x, l.find? (key · = k) = some x ∧ o = some x := by
  unfold getKey
  cases l.find? (key · = k) <;> simp [eq_comm]

theorem getKey_putKey (what : String) (l : List α) (x : α) (k : String) :
    getKey key what (putKey key l x) k = if key x = k then .ok (some x) else getKey key what l k := by
  unfold getKey
  rw [find?_putKey]
  by_cases hx : key x = k
  · rw [if_pos hx, if_pos hx]
  · rw [if_neg hx, if_neg hx]

theorem getKey_dropKey (what : String) (l : List α) (k : String) :
    getKey key what (dropKey key l k) k = .error (.wrap (what ++ k ++ ": ") errNotFound "") := by
  unfold getKey
  rw [find?_dropKey, if_pos rfl]

theorem getKey_missing {what : String} {l : List α} {k : String} (h : ∀ x ∈ l, key x ≠ k) :
    getKey key what l k = .error (.wrap (what ++ k ++ ": ") errNotFound "") := by
  unfold getKey
  rw [List.find?_eq_none.2 fun x hx => by simpa using h x hx]

theorem requireKey_eq_ok {what : String} {l : List α} {k : String} :
    requireKey key what l k = .ok () ↔ ∃ x ∈ l, key x = k := by
  unfold requireKey
  split
  · rename_i h
    simpa using h
  · rename_i h
    simpa using h

/-- A failed lookup names the map's entity and the key it looked for. -/
theorem requireKey_eq_error {what : String} {l : List α} {k : String} {err : GoError} :
    requireKey key what l k = .error err ↔ (∀ x ∈ l, key x ≠ k) ∧ err = .wrap (what ++ k ++ ": ") errNotFound "" := by
  unfold requireKey
  split
  · rename_i h
    obtain ⟨x, hx, hk⟩ := List.any_eq_true.1 h
    exact ⟨(fun h' => nomatch h'), fun ⟨hall, _⟩ => absurd (of_decide_eq_true hk) (hall x hx)⟩
  · rename_i h
    have hall : ∀ x ∈ l, key x ≠ k := fun x hx hk => h (List.any_eq_true.2 ⟨x, hx, decide_eq_true hk⟩)
    exact ⟨fun he => ⟨hall, (Except.error.inj he).symm⟩, fun ⟨_, he⟩ => he ▸ rfl⟩

/-- Assigning a key that was new appends its value. -/
theorem putKey_of_fresh {l : List α} {x : α} (h : ∀ y ∈ l, key y ≠ key x) : putKey key l x = l ++ [x] := by
  rw [putKey, List.filter_eq_self.2 fun y hy => decide_eq_true (h y hy)]

/-- Deleting a key that was new undoes its assignment. -/
theorem dropKey_putKey {l : List α} {x : α} (h : ∀ y ∈ l, key y ≠ key x) :
    dropKey key (putKey key l x) (key x) = l := by
  rw [putKey_of_fresh h, dropKey, List.filter_append, List.filter_eq_self.2 fun y hy => decide_eq_true (h y hy)]
  simp

end Keyed

/-! ### Lists of pairs -/

theorem lookup_cons_ne {β : Type} {k k' : String} {v : β} (l : List (String × β)) (h : k ≠ k') :
    ((k', v) :: l).lookup k = l.lookup k := by
  simp [List.lookup_cons, beq_false_of_ne h]

theorem lookup_filter_keep {β : Type} {l : List (String × β)} {q : String × β → Bool} {k : String}
    (h : ∀ e ∈ l, e.1 = k → q e = true) : (l.filter q).lookup k = l.lookup k := by
  induction l with
  | nil => rfl
  | cons e l ih =>
      have ih' := ih fun e' he' => h e' (List.mem_cons_of_mem _ he')
      obtain ⟨k', v⟩ := e
      by_cases he : k = k'
      · subst he
        rw [List.filter_cons_of_pos (h _ (List.mem_cons_self _ _) rfl)]
        simp
      · by_cases hq : q (k', v) = true
        · rw [List.filter_cons_of_pos hq, lookup_cons_ne _ he, lookup_cons_ne _ he, ih']
        · rw [List.filter_cons_of_neg hq, ih', lookup_cons_ne _ he]

theorem lookup_eq_none_of_keys {β : Type} {l : List (String × β)} {k : String} (h : ∀ e ∈ l, e.1 ≠ k) :
    l.lookup k = none :=
  List.lookup_eq_none_iff.2 fun e he => bne_iff_ne.2 (h e he).symm

theorem lookup_putKey {β : Type} (l : List (String × β)) (e : String × β) (k : String) :
    (putKey Prod.fst l e).lookup k = if k = e.1 then some e.2 else l.lookup k := by
  obtain ⟨k', v⟩ := e
  rw [putKey, List.lookup_append]
  split
  · rename_i hk
    subst hk
    rw [lookup_eq_none_of_keys fun e' he' => by simpa using (List.mem_filter.1 he').2]
    simp
  · rename_i hk
    rw [lookup_filter_keep fun e' _ he' => by simpa [he'] using hk, lookup_cons_ne _ hk]
    cases l.lookup k <;> rfl

/-- A map that keeps every key changes a lookup by what it does to the entry found. -/
theorem lookup_map_keys {β : Type} (F : String × β → String × β) (hF : ∀ e, (F e).1 = e.1)
    (l : List (String × β)) (k : String) : (l.map F).lookup k = (l.lookup k).map fun v => (F (k, v)).2 := by
  induction l with
  | nil => rfl
  | cons e l ih =>
      obtain ⟨k', v⟩ := e
      have hkv : F (k', v) = (k', (F (k', v)).2) := Prod.ext (hF _) rfl
      rw [List.map_cons, hkv]
      by_cases hk : k = k'
      · subst hk
        simp
      · rw [lookup_cons_ne _ hk, lookup_cons_ne _ hk, ih]

theorem mem_of_lookup {β : Type} {l : List (String × β)} {k : String} {v : β} (h : l.lookup k = some v) :
    (k, v) ∈ l := by
  obtain ⟨l₁, l₂, rfl, -⟩ := List.lookup_eq_some_iff.1 h
  simp

namespace MemoryStore

/-! ### Roles, permissions, assignments and policies by key -/

/-- `Store.CreateRole(r)`. -/
def createRole (s : MemoryStore) (r : Role) : MemoryStore :=
  { s with roles := putKey (·.id.string) s.roles r, roles_nodup := putKey_nodup s.roles_nodup r }

/-- `Store.UpdateRole(r)`. -/
def updateRole (s : MemoryStore) (r : Role) : Except GoError MemoryStore :=
  (requireKey (·.id.string) "role " s.roles r.id.string).map fun _ => s.createRole r

/-- `Store.CreatePermission(p)`. -/
def createPermission (s : MemoryStore) (p : Permission) : MemoryStore :=
  { s with permissions := putKey (·.id.string) s.permissions p,
           permissions_nodup := putKey_nodup s.permissions_nodup p }

/-- `Store.UpdatePermission(p)`. -/
def updatePermission (s : MemoryStore) (p : Permission) : Except GoError MemoryStore :=
  (requireKey (·.id.string) "permission " s.permissions p.id.string).map fun _ => s.createPermission p

/-- `Store.CreateAssignment(a)`. -/
def createAssignment (s : MemoryStore) (a : Assignment) : MemoryStore :=
  { s with assignments := putKey (·.id.string) s.assignments a,
           assignments_nodup := putKey_nodup s.assignments_nodup a }

/-- `Store.GetAssignment(assID)`. -/
def getAssignment (s : MemoryStore) (assID : ID) : Except GoError (Option Assignment) :=
  getKey (·.id.string) "assignment " s.assignments assID.string

/-- `Store.CreatePolicy(p)`. -/
def createPolicy (s : MemoryStore) (p : Policy) : MemoryStore :=
  { s with policies := putKey (·.id.string) s.policies p, policies_nodup := putKey_nodup s.policies_nodup p }

/-- `Store.GetPolicy(polID)`. -/
def getPolicy (s : MemoryStore) (polID : ID) : Except GoError (Option Policy) :=
  getKey (·.id.string) "policy " s.policies polID.string

/-- `Store.UpdatePolicy(p)`. -/
def updatePolicy (s : MemoryStore) (p : Policy) : Except GoError MemoryStore :=
  (requireKey (·.id.string) "policy " s.policies p.id.string).map fun _ => s.createPolicy p

/-- `Store.DeletePolicy(polID)`. -/
def deletePolicy (s : MemoryStore) (polID : ID) : MemoryStore :=
  { s with policies := dropKey (·.id.string) s.policies polID.string,
           policies_nodup := dropKey_nodup s.policies_nodup _ }

theorem getRole_eq_getKey (s : MemoryStore) (roleID : ID) :
    s.getRole roleID = getKey (·.id.string) "role " s.roles roleID.string := by
  unfold getRole getKey
  cases s.roles.find? (·.id.string = roleID.string) <;> rfl

theorem getPermission_eq_getKey (s : MemoryStore) (permID : ID) :
    s.getPermission permID = getKey (·.id.string) "permission " s.permissions permID.string := by
  unfold getPermission getKey
  cases s.permissions.find? (·.id.string = permID.string) <;> rfl

/-! ### Deleting what a test picks -/

/-- The loop of the assignment deletions: the entries `keep` rejects go. -/
def keepAssignments (s : MemoryStore) (keep : Assignment → Bool) : MemoryStore :=
  { s with assignments := s.assignments.filter keep,
           assignments_nodup := s.assignments_nodup.sublist ((List.filter_sublist _).map _) }

/-- `Store.DeleteAssignmentsBySubject(tenantID, subjectKind, subjectID)`. -/
def deleteAssignmentsBySubject (s : MemoryStore) (tenantID subjectKind subjectID : String) : MemoryStore :=
  s.keepAssignments fun a => ¬(a.tenantID = tenantID ∧ a.subjectKind = subjectKind ∧ a.subjectID = subjectID)

/-- `Store.DeleteAssignmentsByRole(roleID)`. -/
def deleteAssignmentsByRole (s : MemoryStore) (roleID : ID) : MemoryStore :=
  s.keepAssignments (·.roleID.string ≠ roleID.string)

/-- `Store.DeleteAssignmentsByTenant(tenantID)`. -/
def deleteAssignmentsByTenant (s : MemoryStore) (tenantID : String) : MemoryStore :=
  s.keepAssignments (·.tenantID ≠ tenantID)

theorem deleteAssignment_eq_keep (s : MemoryStore) (assID : ID) :
    s.deleteAssignment assID = s.keepAssignments (·.id.string ≠ assID.string) := rfl

/-- The loop of the relation deletions. -/
def keepRelations (s : MemoryStore) (keep : Tuple → Bool) : MemoryStore :=
  { s with relations := s.relations.filter keep,
           relations_nodup := s.relations_nodup.sublist ((List.filter_sublist _).map _) }

/-- `Store.DeleteRelationsByObject(tenantID, objectType, objectID)`. -/
def deleteRelationsByObject (s : MemoryStore) (tenantID objectType objectID : String) : MemoryStore :=
  s.keepRelations fun t => ¬(t.tenantID = tenantID ∧ t.objectType = objectType ∧ t.objectID = objectID)

/-- `Store.DeleteRelationsBySubject(tenantID, subjectType, subjectID)`. -/
def deleteRelationsBySubject (s : MemoryStore) (tenantID subjectType subjectID : String) : MemoryStore :=
  s.keepRelations fun t => ¬(t.tenantID = tenantID ∧ t.subjectType = subjectType ∧ t.subjectID = subjectID)

/-- `Store.DeleteRelationsByTenant(tenantID)`. -/
def deleteRelationsByTenant (s : MemoryStore) (tenantID : String) : MemoryStore :=
  s.keepRelations (·.tenantID ≠ tenantID)

/-- `Store.DeletePoliciesByTenant(tenantID)`. -/
def deletePoliciesByTenant (s : MemoryStore) (tenantID : String) : MemoryStore :=
  { s with policies := s.policies.filter (·.tenantID ≠ tenantID),
           policies_nodup := s.policies_nodup.sublist ((List.filter_sublist _).map _) }

/-! ### Roles and permissions with their sets -/

/-- The permission set of the role with key `rk`, empty when the map has none. -/
def attachedTo (s : MemoryStore) (rk : String) : List String := (s.rolePermissions.lookup rk).getD []

theorem attachedTo_nodup (s : MemoryStore) (rk : String) : (s.attachedTo rk).Nodup := by
  unfold attachedTo
  cases h : s.rolePermissions.lookup rk with
  | none => exact List.nodup_nil
  | some perms => exact s.permissionSets_nodup _ (mem_of_lookup h)

/-- A write of one set, `s.rolePermissions[rk] = perms`, keeps the sets without repeats. -/
theorem putSet_nodup (s : MemoryStore) {rk : String} {perms : List String} (h : perms.Nodup) :
    ∀ e ∈ putKey Prod.fst s.rolePermissions (rk, perms), e.2.Nodup := by
  intro e he
  rcases mem_putKey.1 he with ⟨he, -⟩ | rfl
  · exact s.permissionSets_nodup e he
  · exact h

/-- The same map on every set, as the loops over all sets do it. -/
theorem mapSets_nodup (s : MemoryStore) {f : List String → List String} (hf : ∀ l : List String, l.Nodup → (f l).Nodup) :
    ∀ e ∈ s.rolePermissions.map (fun e => (e.1, f e.2)), e.2.Nodup := by
  simp only [List.mem_map]
  rintro _ ⟨e, he, rfl⟩
  exact hf _ (s.permissionSets_nodup e he)

theorem mapSets_keys (s : MemoryStore) (f : List String → List String) :
    ((s.rolePermissions.map fun e => (e.1, f e.2)).map Prod.fst).Nodup := by
  rw [List.map_map]
  exact s.rolePermissions_nodup

/-- `Store.AttachPermission(roleID, permID)`: the set made if missing, then the key added. -/
def attachPermission (s : MemoryStore) (roleID permID : ID) : MemoryStore :=
  { s with
    rolePermissions := putKey Prod.fst s.rolePermissions
      (roleID.string, (s.attachedTo roleID.string).insert permID.string)
    rolePermissions_nodup := putKey_nodup s.rolePermissions_nodup _
    permissionSets_nodup := s.putSet_nodup (s.attachedTo_nodup _).insert }

/-- `Store.DetachPermission(roleID, permID)`: the key leaves the role's set, if it has one. -/
def detachPermission (s : MemoryStore) (roleID permID : ID) : MemoryStore :=
  { s with
    rolePermissions := s.rolePermissions.map fun e =>
      (e.1, if e.1 = roleID.string then e.2.erase permID.string else e.2)
    rolePermissions_nodup := by rw [List.map_map]; exact s.rolePermissions_nodup
    permissionSets_nodup := by
      simp only [List.mem_map]
      rintro _ ⟨e, he, rfl⟩
      split
      · exact (s.permissionSets_nodup e he).erase _
      · exact s.permissionSets_nodup e he }

/-- `Store.SetRolePermissions(roleID, permIDs)`: the role's set replaced by the given keys. -/
def setRolePermissions (s : MemoryStore) (roleID : ID) (permIDs : List ID) : MemoryStore :=
  { s with
    rolePermissions := putKey Prod.fst s.rolePermissions (roleID.string, (permIDs.map ID.string).dedup)
    rolePermissions_nodup := putKey_nodup s.rolePermissions_nodup _
    permissionSets_nodup := s.putSet_nodup (List.nodup_dedup _) }

/-- `Store.DeleteRole(roleID)`: the role and its set. -/
def deleteRole (s : MemoryStore) (roleID : ID) : MemoryStore :=
  { s with
    roles := dropKey (·.id.string) s.roles roleID.string
    rolePermissions := dropKey Prod.fst s.rolePermissions roleID.string
    roles_nodup := dropKey_nodup s.roles_nodup _
    rolePermissions_nodup := dropKey_nodup s.rolePermissions_nodup _
    permissionSets_nodup := fun e he => s.permissionSets_nodup e (List.mem_filter.1 he).1 }

/-- `Store.DeletePermission(permID)`: the permission, and its key from every set. -/
def deletePermission (s : MemoryStore) (permID : ID) : MemoryStore :=
  { s with
    permissions := dropKey (·.id.string) s.permissions permID.string
    rolePermissions := s.rolePermissions.map fun e => (e.1, e.2.erase permID.string)
    permissions_nodup := dropKey_nodup s.permissions_nodup _
    rolePermissions_nodup := s.mapSets_keys (·.erase permID.string)
    permissionSets_nodup := s.mapSets_nodup fun _ h => h.erase _ }

/-- `Store.DeleteRolesByTenant(tenantID)`: the tenant's roles and their sets. -/
def deleteRolesByTenant (s : MemoryStore) (tenantID : String) : MemoryStore :=
  let gone := (s.roles.filter (·.tenantID = tenantID)).map (·.id.string)
  { s with
    roles := s.roles.filter (·.tenantID ≠ tenantID)
    rolePermissions := s.rolePermissions.filter (·.1 ∉ gone)
    roles_nodup := s.roles_nodup.sublist ((List.filter_sublist _).map _)
    rolePermissions_nodup := s.rolePermissions_nodup.sublist ((List.filter_sublist _).map _)
    permissionSets_nodup := fun e he => s.permissionSets_nodup e (List.mem_filter.1 he).1 }

/-- `Store.DeletePermissionsByTenant(tenantID)`: the tenant's permissions, and their keys from
every set. -/
def deletePermissionsByTenant (s : MemoryStore) (tenantID : String) : MemoryStore :=
  let gone := (s.permissions.filter (·.tenantID = tenantID)).map (·.id.string)
  { s with
    permissions := s.permissions.filter (·.tenantID ≠ tenantID)
    rolePermissions := s.rolePermissions.map fun e => (e.1, e.2.filter (· ∉ gone))
    permissions_nodup := s.permissions_nodup.sublist ((List.filter_sublist _).map _)
    rolePermissions_nodup := s.mapSets_keys (·.filter (· ∉ gone))
    permissionSets_nodup := s.mapSets_nodup fun _ h => h.filter _ }

/-! ### What the writes do to reads -/

theorem getRole_createRole (s : MemoryStore) (r : Role) (roleID : ID) :
    (s.createRole r).getRole roleID = if r.id.string = roleID.string then .ok (some r) else s.getRole roleID := by
  rw [getRole_eq_getKey, getRole_eq_getKey]
  exact getKey_putKey _ _ _ _

theorem requireKey_map {α β : Type} {key : α → String} (what : String) (l : List α) (k : String) (f : Unit → β) :
    (requireKey key what l k).map f =
      if ∃ x ∈ l, key x = k then .ok (f ()) else .error (.wrap (what ++ k ++ ": ") errNotFound "") := by
  split
  · rename_i h
    rw [(@requireKey_eq_ok _ key what l k).2 h]
    rfl
  · rename_i h
    rw [(@requireKey_eq_error _ key what l k _).2 ⟨fun x hx he => h ⟨x, hx, he⟩, rfl⟩]
    rfl

/-- `UpdateRole` of a key the store lacks fails, names the key, and writes nothing; of a key
it holds, it is `CreateRole`. -/
theorem updateRole_eq (s : MemoryStore) (r : Role) :
    s.updateRole r = if ∃ x ∈ s.roles, x.id.string = r.id.string then .ok (s.createRole r)
      else .error (.wrap ("role " ++ r.id.string ++ ": ") errNotFound "") :=
  requireKey_map _ _ _ _

theorem updatePolicy_eq (s : MemoryStore) (p : Policy) :
    s.updatePolicy p = if ∃ x ∈ s.policies, x.id.string = p.id.string then .ok (s.createPolicy p)
      else .error (.wrap ("policy " ++ p.id.string ++ ": ") errNotFound "") :=
  requireKey_map _ _ _ _

/-- After `DeleteRole`, the role is gone and so is its set. -/
theorem deleteRole_reads (s : MemoryStore) (roleID : ID) :
    (s.deleteRole roleID).getRole roleID = .error (.wrap ("role " ++ roleID.string ++ ": ") errNotFound "") ∧
      (s.deleteRole roleID).attachedTo roleID.string = [] := by
  constructor
  · rw [getRole_eq_getKey]
    exact getKey_dropKey _ _ _
  · simp only [attachedTo, deleteRole, dropKey]
    rw [lookup_eq_none_of_keys fun e he => by simpa using (List.mem_filter.1 he).2]
    rfl

theorem attachedTo_deletePermission (s : MemoryStore) (permID : ID) (rk : String) :
    (s.deletePermission permID).attachedTo rk = (s.attachedTo rk).erase permID.string := by
  have h : (s.deletePermission permID).rolePermissions =
      s.rolePermissions.map fun e => (e.1, e.2.erase permID.string) := rfl
  rw [attachedTo, attachedTo, h, lookup_map_keys (fun e : String × List String => (e.1, e.2.erase permID.string)) fun _ => rfl]
  cases s.rolePermissions.lookup rk <;> rfl

/-- After `DeletePermission`, no set holds the permission's key. -/
theorem deletePermission_attachedTo (s : MemoryStore) (permID : ID) (rk : String) :
    permID.string ∉ (s.deletePermission permID).attachedTo rk := by
  rw [attachedTo_deletePermission]
  exact (s.attachedTo_nodup rk).not_mem_erase

/-! ### The sets as a relation -/

/-- The writes that change permission sets. -/
inductive PermissionWrite where
  | attach (roleID permID : ID)
  | detach (roleID permID : ID)
  | set (roleID : ID) (permIDs : List ID)
  | deleteRole (roleID : ID)
  | deletePermission (permID : ID)
  deriving DecidableEq, Repr

namespace PermissionWrite

/-- The write on the store. -/
def apply (s : MemoryStore) : PermissionWrite → MemoryStore
  | attach r p => s.attachPermission r p
  | detach r p => s.detachPermission r p
  | set r ps => s.setRolePermissions r ps
  | deleteRole r => s.deleteRole r
  | deletePermission p => s.deletePermission p

/-- What the write means for the relation between role keys and permission keys. -/
def relate (R : String → String → Bool) : PermissionWrite → String → String → Bool
  | attach r p, x, y => R x y || (x = r.string && y = p.string)
  | detach r p, x, y => R x y && !(x = r.string && y = p.string)
  | set r ps, x, y => if x = r.string then ps.any (·.string = y) else R x y
  | deleteRole r, x, y => R x y && x ≠ r.string
  | deletePermission p, x, y => R x y && y ≠ p.string

end PermissionWrite

/-- The relation the sets stand for: the role key `rk` has the permission key `pk`. -/
def attached (s : MemoryStore) (rk pk : String) : Bool := pk ∈ s.attachedTo rk

theorem attachedTo_attachPermission (s : MemoryStore) (roleID permID : ID) (rk : String) :
    (s.attachPermission roleID permID).attachedTo rk =
      if rk = roleID.string then (s.attachedTo rk).insert permID.string else s.attachedTo rk := by
  simp only [attachedTo, attachPermission, lookup_putKey]
  split
  · subst_vars; rfl
  · rfl

theorem attachedTo_setRolePermissions (s : MemoryStore) (roleID : ID) (permIDs : List ID) (rk : String) :
    (s.setRolePermissions roleID permIDs).attachedTo rk =
      if rk = roleID.string then (permIDs.map ID.string).dedup else s.attachedTo rk := by
  simp only [attachedTo, setRolePermissions, lookup_putKey]
  split <;> rfl

theorem attachedTo_detachPermission (s : MemoryStore) (roleID permID : ID) (rk : String) :
    (s.detachPermission roleID permID).attachedTo rk =
      if rk = roleID.string then (s.attachedTo rk).erase permID.string else s.attachedTo rk := by
  have h : (s.detachPermission roleID permID).rolePermissions = s.rolePermissions.map fun e =>
      (e.1, if e.1 = roleID.string then e.2.erase permID.string else e.2) := rfl
  rw [attachedTo, attachedTo, h, lookup_map_keys
    (fun e : String × List String => (e.1, if e.1 = roleID.string then e.2.erase permID.string else e.2))
    fun _ => rfl]
  cases s.rolePermissions.lookup rk <;> split <;> rfl

theorem attachedTo_deleteRole (s : MemoryStore) (roleID : ID) {rk : String} (h : rk ≠ roleID.string) :
    (s.deleteRole roleID).attachedTo rk = s.attachedTo rk := by
  have hr : (s.deleteRole roleID).rolePermissions = dropKey Prod.fst s.rolePermissions roleID.string := rfl
  rw [attachedTo, attachedTo, hr, dropKey, lookup_filter_keep fun e _ he => by simpa [he] using h]

/-- One write changes the relation as `relate` says. -/
theorem attached_apply (s : MemoryStore) (w : PermissionWrite) (x y : String) :
    (w.apply s).attached x y = w.relate s.attached x y := by
  cases w with
  | attach r p =>
      simp only [PermissionWrite.apply, PermissionWrite.relate, attached, attachedTo_attachPermission]
      by_cases hx : x = r.string <;> by_cases hy : y = p.string <;> simp [hx, hy]
  | detach r p =>
      simp only [PermissionWrite.apply, PermissionWrite.relate, attached, attachedTo_detachPermission]
      by_cases hx : x = r.string
      · simp only [hx, if_true, (s.attachedTo_nodup _).mem_erase_iff]
        by_cases hy : y = p.string <;> simp [hy]
      · simp [hx]
  | set r ps =>
      simp only [PermissionWrite.apply, PermissionWrite.relate, attached, attachedTo_setRolePermissions]
      split <;> simp [List.mem_dedup, List.any_eq, eq_comm]
  | deleteRole r =>
      simp only [PermissionWrite.apply, PermissionWrite.relate, attached]
      by_cases hx : x = r.string
      · subst hx
        simp [(s.deleteRole_reads r).2]
      · simp [s.attachedTo_deleteRole r hx, hx]
  | deletePermission p =>
      simp only [PermissionWrite.apply, PermissionWrite.relate, attached, attachedTo_deletePermission,
        (s.attachedTo_nodup _).mem_erase_iff]
      by_cases hy : y = p.string <;> simp [hy]

/-- The nested maps implement the relation: after any run of these writes, a role's set holds
a permission key exactly when the relation, put through the same writes, relates them. -/
theorem attached_run (ws : List PermissionWrite) (s : MemoryStore) (x y : String) :
    (ws.foldl PermissionWrite.apply s).attached x y = ws.foldl PermissionWrite.relate s.attached x y := by
  induction ws generalizing s with
  | nil => rfl
  | cons w ws ih =>
      have h : (w.apply s).attached = w.relate s.attached := funext fun x => funext (attached_apply s w x)
      rw [List.foldl_cons, List.foldl_cons, ih, h]

/-- `ListRolePermissions(roleID)` lists the permission IDs whose key the role's set holds. -/
theorem mem_listRolePermissions (s : MemoryStore) (roleID : ID) :
    ∃ l, s.listRolePermissions roleID = .ok l ∧ ∀ i, i ∈ l ↔
      s.attached roleID.string i.string = true ∧ i.valid = true ∧ i.inner.Valid ∧ i.prefix = prefixPermission := by
  refine ⟨(s.attachedTo roleID.string).filterMap fun pid => (parsePermissionID pid).toOption, ?_, fun i => ?_⟩
  · unfold listRolePermissions attachedTo
    cases s.rolePermissions.lookup roleID.string <;> rfl
  · simp only [attached, decide_eq_true_eq, List.mem_filterMap]
    constructor
    · rintro ⟨ps, hps, hp⟩
      have hp' : parsePermissionID ps = .ok i := by
        revert hp; cases parsePermissionID ps <;> simp [Except.toOption]
      obtain ⟨hv, hval, hs, hpre⟩ := ID.parseWithPrefix_eq_ok hp'
      exact ⟨hs ▸ hps, hv, hval, hpre⟩
    · rintro ⟨hs, hv, hval, hpre⟩
      refine ⟨i.string, hs, ?_⟩
      rw [parsePermissionID, ← hpre, ID.parseWithPrefix_string_self hv hval]
      rfl

/-- After any run of `AttachPermission`, `DetachPermission`, `SetRolePermissions`, `DeleteRole`
and `DeletePermission`, `ListRolePermissions(roleID)` lists exactly the permission IDs that
the relation, put through the same writes, relates to the role. -/
theorem permissionWrites_attached (ws : List PermissionWrite) (s : MemoryStore) (roleID : ID) :
    ∃ l, (ws.foldl PermissionWrite.apply s).listRolePermissions roleID = .ok l ∧ ∀ i, i ∈ l ↔
      ws.foldl PermissionWrite.relate s.attached roleID.string i.string = true ∧
        i.valid = true ∧ i.inner.Valid ∧ i.prefix = prefixPermission := by
  obtain ⟨l, hl, hi⟩ := mem_listRolePermissions (ws.foldl PermissionWrite.apply s) roleID
  exact ⟨l, hl, fun i => by rw [hi, attached_run]⟩

/-! ### Deleting what was just created -/

@[ext] theorem ext {s t : MemoryStore} (hr : s.roles = t.roles) (hp : s.permissions = t.permissions)
    (hrp : s.rolePermissions = t.rolePermissions) (ha : s.assignments = t.assignments)
    (hl : s.relations = t.relations) (hpo : s.policies = t.policies) : s = t := by
  cases s
  cases t
  subst hr hp hrp ha hl hpo
  rfl

/-- `DeleteRole` undoes `CreateRole` of a new key that no permission set is kept under. -/
theorem deleteRole_createRole (s : MemoryStore) (r : Role) (hr : ∀ x ∈ s.roles, x.id.string ≠ r.id.string)
    (hk : ∀ e ∈ s.rolePermissions, e.1 ≠ r.id.string) : (s.createRole r).deleteRole r.id = s :=
  ext (dropKey_putKey hr) rfl (List.filter_eq_self.2 fun e he => decide_eq_true (hk e he)) rfl rfl rfl

/-- `DeletePermission` undoes `CreatePermission` of a new key that no set holds. -/
theorem deletePermission_createPermission (s : MemoryStore) (p : Permission)
    (hp : ∀ x ∈ s.permissions, x.id.string ≠ p.id.string) (hk : ∀ e ∈ s.rolePermissions, p.id.string ∉ e.2) :
    (s.createPermission p).deletePermission p.id = s :=
  ext rfl (dropKey_putKey hp)
    ((List.map_congr_left fun e he => by rw [List.erase_of_not_mem (hk e he)]; rfl).trans (List.map_id _)) rfl rfl rfl

theorem deletePolicy_createPolicy (s : MemoryStore) (p : Policy) (hp : ∀ x ∈ s.policies, x.id.string ≠ p.id.string) :
    (s.createPolicy p).deletePolicy p.id = s :=
  ext rfl rfl rfl rfl rfl (dropKey_putKey hp)

theorem deleteAssignment_createAssignment (s : MemoryStore) (a : Assignment)
    (ha : ∀ x ∈ s.assignments, x.id.string ≠ a.id.string) : (s.createAssignment a).deleteAssignment a.id = s :=
  ext rfl rfl rfl (dropKey_putKey ha) rfl rfl

/-- `DeleteRelationTuple` with a new tuple's fields undoes `CreateRelation` of it, when its ID is
new and no tuple held had those fields. -/
theorem deleteRelationTuple_createRelation (s : MemoryStore) (t : Tuple)
    (ht : ∀ y ∈ s.relations, y.id.string ≠ t.id.string)
    (hn : ∀ y ∈ s.relations,
      relationKey t.tenantID t.objectType t.objectID t.relation t.subjectType t.subjectID y = false) :
    (s.createRelation t).deleteRelationTuple t.tenantID t.objectType t.objectID t.relation t.subjectType
      t.subjectID = s := by
  have hl : s.relations.filter (·.id.string ≠ t.id.string) = s.relations :=
    List.filter_eq_self.2 fun y hy => decide_eq_true (ht y hy)
  refine ext rfl rfl rfl rfl ?_ rfl
  simp only [deleteRelationTuple_relations, createRelation, hl]
  rw [List.eraseP_append_right _ fun y hy => by simp [hn y hy]]
  simp [relationKey]

end MemoryStore

end Warden
