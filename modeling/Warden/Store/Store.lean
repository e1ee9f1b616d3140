import Warden.Types

/-! # The store contract, as the engine calls it

`Engine.Check` and the graph walker read the store through eight queries of the composite
`store.Store`. A backend is any value of `Store`: a list query may return its rows in any
order, and a record lookup may return a record, a nil record, or an error.
-/

namespace Warden

/-- The queries of `store.Store` that the engine calls. -/
structure Store where
  /-- `ListRolesForSubject(tenantID, subjectKind, subjectID)`: global assignments. -/
  listRolesForSubject : String → String → String → Except GoError (List ID)
  /-- `ListRolesForSubjectOnResource(tenantID, subjectKind, subjectID, resourceType, resourceID)`. -/
  listRolesForSubjectOnResource : String → String → String → String → String → Except GoError (List ID)
  /-- `GetRole(roleID)`. -/
  getRole : ID → Except GoError (Option Role)
  /-- `ListRolePermissions(roleID)`. -/
  listRolePermissions : ID → Except GoError (List ID)
  /-- `GetPermission(permID)`. -/
  getPermission : ID → Except GoError (Option Permission)
  /-- `CheckDirectRelation(tenantID, objectType, objectID, relation, subjectType, subjectID)`. -/
  checkDirectRelation : String → String → String → String → String → String → Except GoError Bool
  /-- `ListRelationSubjects(tenantID, objectType, objectID, relation)`. -/
  listRelationSubjects : String → String → String → String → Except GoError (List Tuple)
  /-- `ListActivePolicies(tenantID)`. -/
  listActivePolicies : String → Except GoError (List Policy)

end Warden
