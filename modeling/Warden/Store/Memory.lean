import Warden.Store.Store
import Mathlib.Data.List.Nodup

/-! # The in-memory store

`memory.Store` keeps one Go map per entity kind, keyed by the entity's ID string. The
queries the engine calls scan a map in iteration order and filter it; `GetRole` and
`GetPermission` look a key up, whatever the tenant of the record.

## Implementation notes

A map is the list of its values in one iteration order, and its keys are distinct; the
store carries that as fields, so a state with two records under one key cannot be built.
A query sees the list in its order, so quantifying over all states quantifies over all
iteration orders. The maps of resource types and check logs are read by no query of the
engine and are left out.

A write to a key the map holds puts the record at the end of the list, which is one of the
orders a later loop may see. `DeleteRelationTuple` deletes the first match of the loop and
returns; the laws about it hold for every order, so for whichever match Go deletes.
-/

namespace Warden

/-- `errNotFound`. -/
def errNotFound : GoError := .new "not found"

/-- `memory.Store`: the maps the engine's queries read. `rolePermissions` maps a role's ID
string to the set of its permission ID strings. -/
structure MemoryStore where
  roles : List Role
  permissions : List Permission
  rolePermissions : List (String × List String)
  assignments : List Assignment
  relations : List Tuple
  policies : List Policy
  roles_nodup : (roles.map (·.id.string)).Nodup
  permissions_nodup : (permissions.map (·.id.string)).Nodup
  rolePermissions_nodup : (rolePermissions.map Prod.fst).Nodup
  permissionSets_nodup : ∀ e ∈ rolePermissions, e.2.Nodup
  assignments_nodup : (assignments.map (·.id.string)).Nodup
  relations_nodup : (relations.map (·.id.string)).Nodup
  policies_nodup : (policies.map (·.id.string)).Nodup

namespace MemoryStore

/-- `New()`: every map empty. -/
def new : MemoryStore where
  roles := []
  permissions := []
  rolePermissions := []
  assignments := []
  relations := []
  policies := []
  roles_nodup := List.nodup_nil
  permissions_nodup := List.nodup_nil
  rolePermissions_nodup := List.nodup_nil
  permissionSets_nodup := fun _ h => nomatch h
  assignments_nodup := List.nodup_nil
  relations_nodup := List.nodup_nil
  policies_nodup := List.nodup_nil

/-- `Store.GetRole(roleID)`: by key, of any tenant. -/
def getRole (s : MemoryStore) (roleID : ID) : Except GoError (Option Role) :=
  match s.roles.find? (·.id.string = roleID.string) with
  | some r => .ok (some r)
  | none => .error (.wrap ("role " ++ roleID.string ++ ": ") errNotFound "")

/-- `Store.ListRolePermissions(roleID)`: the set's IDs that parse as permission IDs. -/
def listRolePermissions (s : MemoryStore) (roleID : ID) : Except GoError (List ID) :=
  match s.rolePermissions.lookup roleID.string with
  | none => .ok []
  | some perms => .ok (perms.filterMap fun pid => (parsePermissionID pid).toOption)

/-- `Store.GetPermission(permID)`: by key, of any tenant. -/
def getPermission (s : MemoryStore) (permID : ID) : Except GoError (Option Permission) :=
  match s.permissions.find? (·.id.string = permID.string) with
  | some p => .ok (some p)
  | none => .error (.wrap ("permission " ++ permID.string ++ ": ") errNotFound "")

/-- `Store.ListRolesForSubject(tenantID, subjectKind, subjectID)`: global assignments only. -/
def listRolesForSubject (s : MemoryStore) (tenantID subjectKind subjectID : String) :
    Except GoError (List ID) :=
  .ok ((s.assignments.filter fun a => a.tenantID = tenantID ∧ a.subjectKind = subjectKind ∧
    a.subjectID = subjectID ∧ a.resourceType = "").map (·.roleID))

/-- `Store.ListRolesForSubjectOnResource(tenantID, subjectKind, subjectID, resourceType, resourceID)`. -/
def listRolesForSubjectOnResource (s : MemoryStore)
    (tenantID subjectKind subjectID resourceType resourceID : String) : Except GoError (List ID) :=
  .ok ((s.assignments.filter fun a => a.tenantID = tenantID ∧ a.subjectKind = subjectKind ∧
    a.subjectID = subjectID ∧ a.resourceType = resourceType ∧ a.resourceID = resourceID).map (·.roleID))

/-- `Store.CheckDirectRelation(tenantID, objectType, objectID, rel, subjectType, subjectID)`. -/
def checkDirectRelation (s : MemoryStore) (tenantID objectType objectID rel subjectType subjectID : String) :
    Except GoError Bool :=
  .ok (s.relations.any fun t => t.tenantID = tenantID ∧ t.objectType = objectType ∧
    t.objectID = objectID ∧ t.relation = rel ∧ t.subjectType = subjectType ∧ t.subjectID = subjectID)

/-- `Store.ListRelationSubjects(tenantID, objectType, objectID, rel)`. -/
def listRelationSubjects (s : MemoryStore) (tenantID objectType objectID rel : String) :
    Except GoError (List Tuple) :=
  .ok (s.relations.filter fun t => t.tenantID = tenantID ∧ t.objectType = objectType ∧
    t.objectID = objectID ∧ t.relation = rel)

/-- `Store.ListActivePolicies(tenantID)`. -/
def listActivePolicies (s : MemoryStore) (tenantID : String) : Except GoError (List Policy) :=
  .ok (s.policies.filter fun p => p.tenantID = tenantID ∧ p.isActive)

/-- The memory store behind the `store.Store` interface. -/
def toStore (s : MemoryStore) : Store :=
  ⟨s.listRolesForSubject, s.listRolesForSubjectOnResource, s.getRole, s.listRolePermissions,
    s.getPermission, s.checkDirectRelation, s.listRelationSubjects, s.listActivePolicies⟩

@[simp] theorem toStore_listRolesForSubject (s : MemoryStore) :
    s.toStore.listRolesForSubject = s.listRolesForSubject := rfl

@[simp] theorem toStore_listRolesForSubjectOnResource (s : MemoryStore) :
    s.toStore.listRolesForSubjectOnResource = s.listRolesForSubjectOnResource := rfl

@[simp] theorem toStore_getRole (s : MemoryStore) : s.toStore.getRole = s.getRole := rfl

@[simp] theorem toStore_listRolePermissions (s : MemoryStore) :
    s.toStore.listRolePermissions = s.listRolePermissions := rfl

@[simp] theorem toStore_getPermission (s : MemoryStore) : s.toStore.getPermission = s.getPermission := rfl

@[simp] theorem toStore_checkDirectRelation (s : MemoryStore) :
    s.toStore.checkDirectRelation = s.checkDirectRelation := rfl

@[simp] theorem toStore_listRelationSubjects (s : MemoryStore) :
    s.toStore.listRelationSubjects = s.listRelationSubjects := rfl

@[simp] theorem toStore_listActivePolicies (s : MemoryStore) :
    s.toStore.listActivePolicies = s.listActivePolicies := rfl

/-- A lookup by a key that is unique in the list finds the one element under it. -/
theorem find?_key_eq_some {α : Type} (key : α → String) {l : List α} (hn : (l.map key).Nodup)
    {x : α} (hx : x ∈ l) {k : String} (hk : key x = k) : l.find? (key · = k) = some x := by
  have hs : (l.find? (key · = k)).isSome := List.find?_isSome.2 ⟨x, hx, by simp [hk]⟩
  obtain ⟨y, hy⟩ := Option.isSome_iff_exists.1 hs
  have hky : key y = k := by simpa using List.find?_some hy
  rw [hy, List.inj_on_of_nodup_map hn (List.mem_of_find?_eq_some hy) hx (hky.trans hk.symm)]

/-- `GetRole` finds every role the store holds under its own ID. -/
theorem getRole_of_mem {s : MemoryStore} {r : Role} (h : r ∈ s.roles) : s.getRole r.id = .ok (some r) := by
  rw [getRole, find?_key_eq_some (·.id.string) s.roles_nodup h rfl]

/-- The assignments whose `ExpiresAt` is before `now`. -/
def Expired (now : Int) (a : Assignment) : Prop := ∃ t, a.expiresAt = some t ∧ t < now

instance (now : Int) (a : Assignment) : Decidable (Expired now a) :=
  match h : a.expiresAt with
  | some t => decidable_of_iff (t < now) (by simp [Expired, h])
  | none => isFalse (by simp [Expired, h])

/-- `Store.DeleteAssignment(assID)`. -/
def deleteAssignment (s : MemoryStore) (assID : ID) : MemoryStore :=
  { s with
    assignments := s.assignments.filter (·.id.string ≠ assID.string)
    assignments_nodup := s.assignments_nodup.sublist ((List.filter_sublist _).map _) }

/-- `Store.DeleteExpiredAssignments(now)`: the store without the expired assignments, and
their number. -/
def deleteExpiredAssignments (s : MemoryStore) (now : Int) : MemoryStore × Nat :=
  ({ s with
    assignments := s.assignments.filter (¬ Expired now ·)
    assignments_nodup := s.assignments_nodup.sublist ((List.filter_sublist _).map _) },
   (s.assignments.filter (Expired now ·)).length)

/-! ### Writing relation tuples -/

/-- The condition `DeleteRelationTuple` and `CheckDirectRelation` test on a tuple. -/
def relationKey (tenantID objectType objectID rel subjectType subjectID : String) (t : Tuple) : Bool :=
  t.tenantID = tenantID ∧ t.objectType = objectType ∧ t.objectID = objectID ∧ t.relation = rel ∧
    t.subjectType = subjectType ∧ t.subjectID = subjectID

/-- `Store.CreateRelation(t)`: the tuple under its ID string, with no check of its fields. -/
def createRelation (s : MemoryStore) (t : Tuple) : MemoryStore :=
  { s with
    relations := s.relations.filter (·.id.string ≠ t.id.string) ++ [t]
    relations_nodup := by
      rw [List.map_append, List.nodup_append]
      exact ⟨s.relations_nodup.sublist ((List.filter_sublist _).map _), List.nodup_singleton _,
        by simp⟩ }

/-- `Store.DeleteRelation(relID)`. -/
def deleteRelation (s : MemoryStore) (relID : ID) : MemoryStore :=
  { s with
    relations := s.relations.filter (·.id.string ≠ relID.string)
    relations_nodup := s.relations_nodup.sublist ((List.filter_sublist _).map _) }

/-- `Store.DeleteRelationTuple(tenantID, objectType, objectID, rel, subjectType, subjectID)`:
the first matching tuple goes. -/
def deleteRelationTuple (s : MemoryStore) (tenantID objectType objectID rel subjectType subjectID : String) :
    MemoryStore :=
  { s with
    relations := s.relations.eraseP (relationKey tenantID objectType objectID rel subjectType subjectID)
    relations_nodup := s.relations_nodup.sublist ((List.eraseP_sublist _).map _) }

@[simp] theorem deleteRelationTuple_relations (s : MemoryStore) (T oT oI r sT sI : String) :
    (s.deleteRelationTuple T oT oI r sT sI).relations = s.relations.eraseP (relationKey T oT oI r sT sI) :=
  rfl

theorem checkDirectRelation_eq (s : MemoryStore) (T oT oI r sT sI : String) :
    s.checkDirectRelation T oT oI r sT sI = .ok (s.relations.any (relationKey T oT oI r sT sI)) := rfl

/-- Erasing the first match leaves a match exactly when there were two. -/
theorem any_eraseP {α : Type} (p : α → Bool) (l : List α) :
    (l.eraseP p).any p = decide (2 ≤ l.countP p) := by
  induction l with
  | nil => rfl
  | cons a l ih =>
      by_cases ha : p a = true
      · rw [List.eraseP_cons_of_pos ha, List.countP_cons_of_pos _ _ ha]
        rw [Bool.eq_iff_iff, decide_eq_true_iff, List.any_eq_true, ← List.countP_pos_iff]
        omega
      · rw [List.eraseP_cons_of_neg ha, List.any_cons, List.countP_cons_of_neg _ _ ha, ih]
        simp [ha]

theorem listRelationSubjects_subject_iff (s : MemoryStore) (T oT oI r sT sI : String) :
    (∃ l, s.listRelationSubjects T oT oI r = .ok l ∧ ∃ t ∈ l, t.subjectType = sT ∧ t.subjectID = sI) ↔
      s.relations.any (relationKey T oT oI r sT sI) = true := by
  simp only [listRelationSubjects, Except.ok.injEq, exists_eq_left', List.mem_filter,
    List.any_eq_true, relationKey, decide_eq_true_eq]
  constructor
  · rintro ⟨t, ⟨ht, h1, h2, h3, h4⟩, h5, h6⟩
    exact ⟨t, ht, h1, h2, h3, h4, h5, h6⟩
  · rintro ⟨t, ht, h1, h2, h3, h4, h5, h6⟩
    exact ⟨t, ⟨ht, h1, h2, h3, h4⟩, h5, h6⟩

/-- After `DeleteRelationTuple`, `CheckDirectRelation` and `ListRelationSubjects` still see the
key exactly when the store held two or more tuples with it. -/
theorem deleteRelationTuple_sees_iff (s : MemoryStore) (T oT oI r sT sI : String) :
    ((s.deleteRelationTuple T oT oI r sT sI).checkDirectRelation T oT oI r sT sI = .ok true ↔
        2 ≤ s.relations.countP (relationKey T oT oI r sT sI)) ∧
      ((∃ l, (s.deleteRelationTuple T oT oI r sT sI).listRelationSubjects T oT oI r = .ok l ∧
          ∃ t ∈ l, t.subjectType = sT ∧ t.subjectID = sI) ↔
        2 ≤ s.relations.countP (relationKey T oT oI r sT sI)) := by
  rw [checkDirectRelation_eq, Except.ok.injEq, listRelationSubjects_subject_iff,
    deleteRelationTuple_relations, any_eraseP, decide_eq_true_iff]
  exact ⟨Iff.rfl, Iff.rfl⟩

/-- The tuple `document:doc1#editor@user:u1` of tenant `t1` under the relation ID `i`. -/
def editorTuple (i : Nat) : Tuple :=
  { id := ⟨⟨"rel", BitVec.ofNat 128 i⟩, true⟩, tenantID := "t1", objectType := "document",
    objectID := "doc1", relation := "editor", subjectType := "user", subjectID := "u1" }

/-- The same edge written twice, as `CreateRelation` stores two tuples with fresh IDs. -/
def writtenTwice : MemoryStore := (new.createRelation (editorTuple 1)).createRelation (editorTuple 2)

theorem writtenTwice_relations : writtenTwice.relations = [editorTuple 1, editorTuple 2] := by
  have hne : (editorTuple 1).id.string ≠ (editorTuple 2).id.string := fun h =>
    absurd (ID.string_inj rfl rfl (by decide) (by decide) h) (by decide)
  show ([editorTuple 1]).filter (·.id.string ≠ (editorTuple 2).id.string) ++ [editorTuple 2] = _
  rw [List.filter_cons_of_pos (p := fun x : Tuple => decide (x.id.string ≠ (editorTuple 2).id.string))
    (decide_eq_true hne), List.filter_nil]
  rfl

/-- One `DeleteRelationTuple` leaves the edge in `writtenTwice`: the direct check and the
subject listing still find it. -/
theorem deleteRelationTuple_written_twice :
    (writtenTwice.deleteRelationTuple "t1" "document" "doc1" "editor" "user" "u1").checkDirectRelation
        "t1" "document" "doc1" "editor" "user" "u1" = .ok true ∧
      ∃ l, (writtenTwice.deleteRelationTuple "t1" "document" "doc1" "editor" "user" "u1").listRelationSubjects
          "t1" "document" "doc1" "editor" = .ok l ∧ ∃ t ∈ l, t.subjectType = "user" ∧ t.subjectID = "u1" := by
  have hany : (writtenTwice.deleteRelationTuple "t1" "document" "doc1" "editor" "user" "u1").relations.any
      (relationKey "t1" "document" "doc1" "editor" "user" "u1") = true := by
    rw [deleteRelationTuple_relations, writtenTwice_relations]
    rfl
  exact ⟨by rw [checkDirectRelation_eq, hany], (listRelationSubjects_subject_iff _ _ _ _ _ _ _).2 hany⟩

end MemoryStore

end Warden
