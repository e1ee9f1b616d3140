import Warden.Engine.Engine

/-! # RBAC evaluation

`Engine.evaluateRBAC` lists the subject's global and resource-scoped roles, adds their
ancestors, and looks for the first role with a permission whose `resource:action` glob
matches `type:action`. The ancestor walk shares one `seen` set over all assigned roles and
stops below depth 20, so which ancestors are found depends on the order of the assignments.

## Implementation notes

`walkRoleParents` recurses on the depth the safety limit still allows, `21 - depth`, which
makes the recursion structural. A role whose permissions cannot be listed, and a
permission that cannot be read, are skipped, as the Go loop `continue`s.
-/

namespace Warden

/-- `walkRoleParents(ctx, roleID, seen, &result, depth)` with `budget = 21 - depth`: the
role's key goes into `seen` and the role into `result`, then its parent is walked one level
deeper. A seen role, a role past the safety limit, and a role without a readable parent end
the walk. -/
def walkRoleParents (store : Store) : (budget : Nat) → ID → List String × List ID →
    List String × List ID
  | 0, _, acc => acc
  | budget + 1, roleID, (seen, result) =>
      let key := roleID.string
      if key ∈ seen then (seen, result)
      else
        let acc := (key :: seen, result ++ [roleID])
        match store.getRole roleID with
        | .ok (some r) =>
            match r.parentID with
            | some parent => walkRoleParents store budget parent acc
            | none => acc
        | _ => acc

/-- `resolveInheritedRoles(ctx, roleIDs)`: each role walked from depth 0, in order, with one
shared `seen` set. -/
def resolveInheritedRoles (store : Store) (roleIDs : List ID) : List ID :=
  (roleIDs.foldl (fun acc rid => walkRoleParents store 21 rid acc) ([], [])).2

/-- The result one permission of a role gives for the required `permName`. -/
def permissionGrant (store : Store) (permName : String) (roleID permID : ID) : Option CheckResult :=
  match store.getPermission permID with
  | .ok (some perm) =>
      if matchPermission (perm.resource ++ ":" ++ perm.action) permName then
        some { allowed := true, decision := decisionAllow,
               matchedBy := [{ source := "rbac", ruleID := roleID.string,
                               detail := "role grants " ++ perm.resource ++ ":" ++ perm.action }] }
      else none
  | _ => none

/-- The first grant among a role's permissions. -/
def roleGrant (store : Store) (permName : String) (roleID : ID) : Option CheckResult :=
  match store.listRolePermissions roleID with
  | .ok perms => perms.findSome? (permissionGrant store permName roleID)
  | .error _ => none

/-- The part of `evaluateRBAC` after the roles are listed. -/
def rbacResult (store : Store) (req : CheckRequest) (allRoles : List ID) : CheckResult :=
  if allRoles.isEmpty then { decision := decisionDenyNoRoles, reason := "subject has no roles" }
  else
    let permName := req.resource.type ++ ":" ++ req.action.name
    match (resolveInheritedRoles store allRoles).findSome? (roleGrant store permName) with
    | some r => r
    | none => { decision := decisionDenyNoPerms, reason := "no role grants required permission" }

/-- `Engine.evaluateRBAC(ctx, scope, req)`. -/
def evaluateRBAC (store : Store) (tenantID : String) (req : CheckRequest) : Except GoError CheckResult :=
  match store.listRolesForSubject tenantID req.subject.kind req.subject.id with
  | .error err => .error err
  | .ok globalRoles =>
      match store.listRolesForSubjectOnResource tenantID req.subject.kind req.subject.id
          req.resource.type req.resource.id with
      | .error err => .error err
      | .ok resourceRoles => .ok (rbacResult store req (globalRoles ++ resourceRoles))

theorem permissionGrant_eq_some {store : Store} {permName : String} {roleID permID : ID}
    {r : CheckResult} (h : permissionGrant store permName roleID permID = some r) :
    r.allowed = true ∧ r.decision = decisionAllow := by
  unfold permissionGrant at h
  split at h
  · split_ifs at h
    cases h
    exact ⟨rfl, rfl⟩
  · cases h

theorem roleGrant_eq_some {store : Store} {permName : String} {roleID : ID} {r : CheckResult}
    (h : roleGrant store permName roleID = some r) : r.allowed = true ∧ r.decision = decisionAllow := by
  unfold roleGrant at h
  split at h
  · obtain ⟨permID, -, hp⟩ := List.exists_of_findSome?_eq_some h
    exact permissionGrant_eq_some hp
  · cases h

/-- RBAC allows exactly when some role, among the assigned ones and their ancestors, has a
granting permission. -/
theorem rbacResult_allowed_iff (store : Store) (req : CheckRequest) (allRoles : List ID) :
    (rbacResult store req allRoles).allowed = true ↔ allRoles ≠ [] ∧
      ∃ rid ∈ resolveInheritedRoles store allRoles,
        (roleGrant store (req.resource.type ++ ":" ++ req.action.name) rid).isSome := by
  unfold rbacResult
  cases allRoles with
  | nil => simp
  | cons r rs =>
      simp only [List.isEmpty_cons, Bool.false_eq_true, if_false, ne_eq, reduceCtorEq,
        not_false_eq_true, true_and]
      split
      · rename_i g hg
        obtain ⟨rid, hm, hr⟩ := List.exists_of_findSome?_eq_some hg
        exact iff_of_true (roleGrant_eq_some hr).1 ⟨rid, hm, by simp [hr]⟩
      · rename_i hg
        simp only [Bool.false_eq_true, false_iff, not_exists, not_and]
        intro rid hm hs
        obtain ⟨g, hg'⟩ := Option.isSome_iff_exists.1 hs
        exact absurd (List.findSome?_eq_none_iff.1 hg rid hm) (by simp [hg'])

end Warden
