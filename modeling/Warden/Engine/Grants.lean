import Warden.Engine.Inheritance
import Warden.Engine.Reads

/-! # What RBAC grants over the memory store

Over the memory store, RBAC allows only through an assignment of the subject in the scope's
tenant, global or on the resource, whose role or an ancestor of it at most 20 levels up has
an attached permission that the store holds and whose `resource:action` glob matches
`type:action` (`evaluateRBAC_memory_sound`). Conversely every assigned role is looked at,
however the walks over the ancestors go: a matching permission attached to an assigned role
always grants, provided its ID is one `ListRolePermissions` keeps, a `perm` identifier
(`evaluateRBAC_assigned_grants`). Between the two lies only the ancestors' part, which the
shared `seen` set makes depend on the order of the assignments; when every assignment that
applies names one role, nothing is lost and RBAC allows exactly through that role or an
ancestor of it at most 20 levels up (`evaluateRBAC_one_role_iff`).

## Implementation notes

The walk keys roles by their text, and the memory store keys role permissions by the same
text, so a role enters the proofs through its key: every assigned role's key is the key of
a resolved role (`resolveInheritedRoles_key`).
-/

namespace Warden

namespace MemoryStore

/-- The assignments RBAC lists for `req` in tenant `T`: of the subject, global or on the
requested resource. -/
def Assigned (s : MemoryStore) (T : String) (req : CheckRequest) (a : Assignment) : Prop :=
  a ∈ s.assignments ∧ a.tenantID = T ∧ a.subjectKind = req.subject.kind ∧ a.subjectID = req.subject.id ∧
    (a.resourceType = "" ∨ a.resourceType = req.resource.type ∧ a.resourceID = req.resource.id)

/-- The role with key `key` holds an attached permission that the store holds and whose
`resource:action` matches `permName`. -/
def Grants (s : MemoryStore) (permName key : String) : Prop :=
  ∃ perms, s.rolePermissions.lookup key = some perms ∧
    ∃ p ∈ s.permissions, p.id.string ∈ perms ∧ matchPermission (p.resource ++ ":" ++ p.action) permName = true

/-- What RBAC looks for in the role with key `key`: an attached permission that the store
holds, whose ID `ListRolePermissions` keeps (it parses as a `perm` identifier), and whose
`resource:action` matches `permName`. -/
def GrantsListed (s : MemoryStore) (permName key : String) : Prop :=
  ∃ perms, s.rolePermissions.lookup key = some perms ∧ ∃ p ∈ s.permissions, p.id.string ∈ perms ∧
    (∃ q, parsePermissionID p.id.string = .ok q) ∧ matchPermission (p.resource ++ ":" ++ p.action) permName = true

/-- The roles both listings return are the roles of the listed assignments. -/
theorem mem_assigned_roles {s : MemoryStore} {T : String} {req : CheckRequest} {rid : ID} :
    rid ∈ (s.assignments.filter fun a => a.tenantID = T ∧ a.subjectKind = req.subject.kind ∧
        a.subjectID = req.subject.id ∧ a.resourceType = "").map (·.roleID) ++
      (s.assignments.filter fun a => a.tenantID = T ∧ a.subjectKind = req.subject.kind ∧
        a.subjectID = req.subject.id ∧ a.resourceType = req.resource.type ∧
          a.resourceID = req.resource.id).map (·.roleID) ↔
      ∃ a, s.Assigned T req a ∧ a.roleID = rid := by
  simp only [List.mem_append, List.mem_map, List.mem_filter, decide_eq_true_eq, Assigned]
  constructor
  · rintro (⟨a, ⟨ha, h1, h2, h3, h4⟩, rfl⟩ | ⟨a, ⟨ha, h1, h2, h3, h4, h5⟩, rfl⟩)
    · exact ⟨a, ⟨ha, h1, h2, h3, .inl h4⟩, rfl⟩
    · exact ⟨a, ⟨ha, h1, h2, h3, .inr ⟨h4, h5⟩⟩, rfl⟩
  · rintro ⟨a, ⟨ha, h1, h2, h3, h4 | ⟨h4, h5⟩⟩, rfl⟩
    · exact .inl ⟨a, ⟨ha, h1, h2, h3, h4⟩, rfl⟩
    · exact .inr ⟨a, ⟨ha, h1, h2, h3, h4, h5⟩, rfl⟩

/-- A grant of a role comes from an attached permission the store holds. -/
theorem grants_of_roleGrant {s : MemoryStore} {permName : String} {x : ID}
    (h : (roleGrant s.toStore permName x).isSome) : s.Grants permName x.string := by
  unfold roleGrant at h
  simp only [toStore_listRolePermissions, listRolePermissions] at h
  cases hl : s.rolePermissions.lookup x.string with
  | none => simp [hl] at h
  | some perms =>
      simp only [hl] at h
      obtain ⟨q, hq, hg⟩ := List.findSome?_isSome_iff.1 h
      obtain ⟨ps, hps, hparse⟩ := List.mem_filterMap.1 hq
      have hqs : q.string = ps := by
        have : parsePermissionID ps = .ok q := by
          revert hparse; cases parsePermissionID ps <;> simp [Except.toOption]
        exact (ID.parseWithPrefix_eq_ok this).2.2.1
      unfold permissionGrant at hg
      simp only [toStore_getPermission, getPermission] at hg
      cases hf : s.permissions.find? (·.id.string = q.string) with
      | none => simp [hf] at hg
      | some p =>
          simp only [hf] at hg
          have hm : matchPermission (p.resource ++ ":" ++ p.action) permName = true := by
            by_contra hc
            simp [hc] at hg
          have hkey : p.id.string = q.string := by simpa using List.find?_some hf
          exact ⟨perms, hl, p, List.mem_of_find?_eq_some hf, by rw [hkey, hqs]; exact hps, hm⟩

theorem permissionGrant_isSome_iff {s : MemoryStore} {permName : String} {x q : ID} :
    (permissionGrant s.toStore permName x q).isSome ↔
      ∃ p ∈ s.permissions, p.id.string = q.string ∧ matchPermission (p.resource ++ ":" ++ p.action) permName = true := by
  unfold permissionGrant
  simp only [toStore_getPermission, getPermission]
  cases hf : s.permissions.find? (·.id.string = q.string) with
  | none =>
      simp only [Option.isSome_none, Bool.false_eq_true, false_iff, not_exists, not_and]
      exact fun p hp hk _ => List.find?_eq_none.1 hf p hp (by simp [hk])
  | some p =>
      have hp := List.mem_of_find?_eq_some hf
      have hk : p.id.string = q.string := by simpa using List.find?_some hf
      constructor
      · intro h
        refine ⟨p, hp, hk, ?_⟩
        by_contra hc
        simp [hc] at h
      · rintro ⟨p', hp', hk', hm⟩
        obtain rfl : p' = p := List.inj_on_of_nodup_map s.permissions_nodup hp' hp (hk'.trans hk.symm)
        simp [hm]

/-- A role grants exactly when it holds a permission RBAC looks for. -/
theorem roleGrant_isSome_iff {s : MemoryStore} {permName : String} {x : ID} :
    (roleGrant s.toStore permName x).isSome ↔ s.GrantsListed permName x.string := by
  unfold roleGrant GrantsListed
  simp only [toStore_listRolePermissions, listRolePermissions]
  cases hl : s.rolePermissions.lookup x.string with
  | none => simp
  | some perms =>
      simp only [List.findSome?_isSome_iff, List.mem_filterMap, permissionGrant_isSome_iff, Option.some.injEq,
        true_and, exists_eq_left']
      constructor
      · rintro ⟨q, ⟨ps, hps, hq⟩, p, hp, hpq, hm⟩
        have hq' : parsePermissionID ps = .ok q := by
          revert hq; cases parsePermissionID ps <;> simp [Except.toOption]
        have hqs : q.string = ps := (ID.parseWithPrefix_eq_ok hq').2.2.1
        exact ⟨p, hp, by rw [hpq, hqs]; exact hps, ⟨q, by rw [hpq, hqs]; exact hq'⟩, hm⟩
      · rintro ⟨p, hp, hps, ⟨q, hq⟩, hm⟩
        exact ⟨q, ⟨p.id.string, hps, by rw [hq]; rfl⟩, p, hp, ((ID.parseWithPrefix_eq_ok hq).2.2.1).symm, hm⟩

end MemoryStore

/-- The walk from a role puts a role with the same key into the result, seen before or now. -/
theorem walkRoleParents_key (store : Store) (b : Nat) (roleID : ID) {acc : List String × List ID}
    (h : RoleWalk acc) : ∃ x ∈ (walkRoleParents store (b + 1) roleID acc).2, x.string = roleID.string := by
  obtain ⟨seen, result⟩ := acc
  have hs : seen = (result.map ID.string).reverse := h.seen_eq
  by_cases hk : roleID.string ∈ seen
  · rw [walkRoleParents, if_pos hk]
    rwa [hs, List.mem_reverse, List.mem_map] at hk
  have h' : RoleWalk (roleID.string :: seen, result ++ [roleID]) :=
    ⟨by simp [hs], by simpa using h.nodup.concat (by rwa [hs, List.mem_reverse] at hk)⟩
  have hmem : ∀ added, ∃ x ∈ result ++ [roleID] ++ added, x.string = roleID.string :=
    fun _ => ⟨roleID, by simp, rfl⟩
  rw [walkRoleParents, if_neg hk]
  split
  · split
    · rename_i p _
      obtain ⟨-, added, he, -⟩ := walkRoleParents_roleWalk store b p h'
      rw [he]
      exact hmem added
    · simpa using hmem []
  · simpa using hmem []

/-- Every assigned role's key is the key of a resolved role. -/
theorem resolveInheritedRoles_key (store : Store) {roleIDs : List ID} {r : ID} (hr : r ∈ roleIDs) :
    ∃ x ∈ resolveInheritedRoles store roleIDs, x.string = r.string := by
  suffices ∀ (rs : List ID) (acc : List String × List ID), RoleWalk acc →
      (r ∈ rs ∨ ∃ x ∈ acc.2, x.string = r.string) →
        ∃ x ∈ (rs.foldl (fun acc rid => walkRoleParents store 21 rid acc) acc).2, x.string = r.string from
    this roleIDs ([], []) ⟨rfl, List.nodup_nil⟩ (.inl hr)
  intro rs
  induction rs with
  | nil => rintro acc - (h | h); · cases h
           exact h
  | cons r' rs ih =>
      intro acc hw h
      obtain ⟨hw', added, he, -⟩ := walkRoleParents_roleWalk store 21 r' hw
      refine ih _ hw' ?_
      rcases h with h | ⟨x, hx, hxs⟩
      · rcases List.mem_cons.1 h with rfl | h
        · exact .inr (walkRoleParents_key store 20 r hw)
        · exact .inl h
      · exact .inr ⟨x, by rw [he]; exact List.mem_append_left _ hx, hxs⟩

/-- Every resolved role is an ancestor, at most 20 levels up, of an assigned role. -/
theorem ancestor_of_mem_resolveInheritedRoles (store : Store) {roleIDs : List ID} {x : ID}
    (hx : x ∈ resolveInheritedRoles store roleIDs) : ∃ r ∈ roleIDs, ∃ k ≤ 20, ancestor store k r = some x := by
  obtain ⟨-, added, he, ha⟩ :=
    foldl_walkRoleParents_roleWalk store roleIDs (⟨rfl, List.nodup_nil⟩ : RoleWalk ([], []))
  rw [resolveInheritedRoles, he] at hx
  exact ha x (by simpa using hx)

/-- RBAC over the memory store never fails, and allows only through an assignment of the
subject in the scope's tenant, global or on the resource, whose role or an ancestor of it at
most 20 levels up holds an attached permission of the store whose `resource:action` matches
`type:action`. -/
theorem evaluateRBAC_memory_sound (S : MemoryStore) (T : String) (req : CheckRequest) :
    ∃ r, evaluateRBAC S.toStore T req = .ok r ∧
      (r.allowed = true → ∃ a, S.Assigned T req a ∧ ∃ k ≤ 20, ∃ x,
        ancestor S.toStore k a.roleID = some x ∧
          S.Grants (req.resource.type ++ ":" ++ req.action.name) x.string) := by
  refine ⟨_, rfl, fun h => ?_⟩
  obtain ⟨-, rid, hrid, hg⟩ := (rbacResult_allowed_iff _ _ _).1 h
  obtain ⟨r0, hr0, k, hk, hx⟩ := ancestor_of_mem_resolveInheritedRoles S.toStore hrid
  obtain ⟨a, ha, rfl⟩ := MemoryStore.mem_assigned_roles.1 hr0
  exact ⟨a, ha, k, hk, rid, hx, MemoryStore.grants_of_roleGrant hg⟩

/-- A matching permission attached to an assigned role grants: when an assignment of the
subject in the scope's tenant, global or on the resource, names a role whose permission set
holds the ID of a permission of the store, that ID is a `perm` identifier, and the
permission's `resource:action` matches `type:action`, RBAC allows. -/
theorem evaluateRBAC_assigned_grants (S : MemoryStore) (T : String) (req : CheckRequest)
    {a : Assignment} (ha : S.Assigned T req a) {perms : List String}
    (hl : S.rolePermissions.lookup a.roleID.string = some perms) {p : Permission}
    (hp : p ∈ S.permissions) (hid : parsePermissionID p.id.string = .ok p.id) (hps : p.id.string ∈ perms)
    (hm : matchPermission (p.resource ++ ":" ++ p.action) (req.resource.type ++ ":" ++ req.action.name) = true) :
    ∃ r, evaluateRBAC S.toStore T req = .ok r ∧ r.allowed = true := by
  have hr0 := MemoryStore.mem_assigned_roles.2 ⟨a, ha, rfl⟩
  obtain ⟨x, hx, hxs⟩ := resolveInheritedRoles_key S.toStore hr0
  refine ⟨_, rfl, (rbacResult_allowed_iff _ _ _).2 ⟨List.ne_nil_of_mem hr0, x, hx, ?_⟩⟩
  have hget : S.getPermission p.id = .ok (some p) :=
    by rw [MemoryStore.getPermission, MemoryStore.find?_key_eq_some (·.id.string) S.permissions_nodup hp rfl]
  have hpg : (permissionGrant S.toStore (req.resource.type ++ ":" ++ req.action.name) x p.id).isSome := by
    simp [permissionGrant, hget, hm]
  unfold roleGrant
  rw [MemoryStore.toStore_listRolePermissions, MemoryStore.listRolePermissions, hxs, hl]
  exact List.findSome?_isSome_iff.2 ⟨p.id, List.mem_filterMap.2 ⟨_, hps, by rw [hid]; rfl⟩, hpg⟩

theorem evaluateRBAC_assigned_grants_read :
    ((grantStore "t1" true none).Assigned "t1" (readFrom "10.0.1.5") (grantAssignment none) ∧
      (grantStore "t1" true none).rolePermissions.lookup (grantAssignment none).roleID.string =
        some [(⟨⟨"perm", 1⟩, true⟩ : ID).string] ∧
      ({ id := ⟨⟨"perm", 1⟩, true⟩, tenantID := "t1", resource := "document", action := "read" } : Permission) ∈
        (grantStore "t1" true none).permissions ∧
      parsePermissionID (⟨⟨"perm", 1⟩, true⟩ : ID).string = .ok ⟨⟨"perm", 1⟩, true⟩ ∧
      (⟨⟨"perm", 1⟩, true⟩ : ID).string ∈ [(⟨⟨"perm", 1⟩, true⟩ : ID).string] ∧
      matchPermission ("document" ++ ":" ++ "read") ("document" ++ ":" ++ "read") = true) ∧
    ∃ r, evaluateRBAC (grantStore "t1" true none).toStore "t1" (readFrom "10.0.1.5") = .ok r ∧
      r.allowed = true := by
  have ha : (grantStore "t1" true none).Assigned "t1" (readFrom "10.0.1.5") (grantAssignment none) :=
    ⟨List.mem_singleton_self _, rfl, rfl, rfl, .inl rfl⟩
  have hl : (grantStore "t1" true none).rolePermissions.lookup (grantAssignment none).roleID.string =
      some [(⟨⟨"perm", 1⟩, true⟩ : ID).string] := List.lookup_cons_self
  have hid : parsePermissionID (⟨⟨"perm", 1⟩, true⟩ : ID).string = .ok ⟨⟨"perm", 1⟩, true⟩ :=
    ID.parseWithPrefix_string_self rfl (by decide)
  exact ⟨⟨ha, hl, List.mem_singleton_self _, hid, List.mem_singleton_self _, rfl⟩,
    evaluateRBAC_assigned_grants _ _ _ ha hl (List.mem_singleton_self _) hid (List.mem_singleton_self _) rfl⟩

/-- With one role, inheritance loses nothing: when every assignment of the subject that applies,
global or on the resource, names the same role, RBAC over the memory store allows exactly when
that role or an ancestor of it at most 20 levels up holds a permission RBAC looks for. -/
theorem evaluateRBAC_one_role_iff (S : MemoryStore) (T : String) (req : CheckRequest) {a : Assignment}
    (ha : S.Assigned T req a) (hone : ∀ b, S.Assigned T req b → b.roleID = a.roleID) :
    ∃ r, evaluateRBAC S.toStore T req = .ok r ∧
      (r.allowed = true ↔ ∃ k ≤ 20, ∃ x, ancestor S.toStore k a.roleID = some x ∧
        S.GrantsListed (req.resource.type ++ ":" ++ req.action.name) x.string) := by
  refine ⟨_, rfl, (rbacResult_allowed_iff _ _ _).trans ⟨?_, ?_⟩⟩
  · rintro ⟨-, rid, hrid, hg⟩
    obtain ⟨r0, hr0, k, hk, hx⟩ := ancestor_of_mem_resolveInheritedRoles S.toStore hrid
    obtain ⟨b, hb, rfl⟩ := MemoryStore.mem_assigned_roles.1 hr0
    exact ⟨k, hk, rid, hone b hb ▸ hx, MemoryStore.roleGrant_isSome_iff.1 hg⟩
  · rintro ⟨k, hk, x, hx, hgr⟩
    have hmem := MemoryStore.mem_assigned_roles.2 ⟨a, ha, rfl⟩
    -- The first listed role is the assigned one.
    obtain ⟨r0, rs, hl⟩ := List.exists_cons_of_ne_nil (List.ne_nil_of_mem hmem)
    obtain ⟨b, hb, hbr⟩ := MemoryStore.mem_assigned_roles.1 (hl ▸ List.mem_cons_self r0 rs)
    rw [hl] at hmem ⊢
    rw [← hbr, hone b hb] at *
    obtain ⟨y, hy, hyx⟩ := resolveInheritedRoles_head_complete S a.roleID rs hk hx
    exact ⟨List.cons_ne_nil _ _, y, hy, MemoryStore.roleGrant_isSome_iff.2 (hyx ▸ hgr)⟩

/-- `user:u1` holds role 20 of the chain only, and the permission is attached to its parent. -/
theorem evaluateRBAC_one_role_iff_chain :
    ((chainStore false).Assigned "t1" (readFrom "10.0.1.5") (chainAssignment 20) ∧
      ∀ b, (chainStore false).Assigned "t1" (readFrom "10.0.1.5") b → b.roleID = (chainAssignment 20).roleID) ∧
    ∃ r, evaluateRBAC (chainStore false).toStore "t1" (readFrom "10.0.1.5") = .ok r ∧
      (r.allowed = true ↔ ∃ k ≤ 20, ∃ x, ancestor (chainStore false).toStore k (chainAssignment 20).roleID = some x ∧
        (chainStore false).GrantsListed ((readFrom "10.0.1.5").resource.type ++ ":" ++
          (readFrom "10.0.1.5").action.name) x.string) :=
  have ha : (chainStore false).Assigned "t1" (readFrom "10.0.1.5") (chainAssignment 20) :=
    ⟨List.mem_singleton_self _, rfl, rfl, rfl, .inl rfl⟩
  have hone : ∀ b, (chainStore false).Assigned "t1" (readFrom "10.0.1.5") b →
      b.roleID = (chainAssignment 20).roleID := fun b hb => by rw [List.mem_singleton.1 hb.1]
  ⟨⟨ha, hone⟩, evaluateRBAC_one_role_iff _ _ _ ha hone⟩

end Warden
