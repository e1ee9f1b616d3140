import Warden.Engine.Check

/-! # Inherited roles

The spec reads `resolveInheritedRoles` as the set of ancestors `parent^k(r)`, `k ≤ 20`, of
the assigned roles, where `parent` follows `ParentID` while `GetRole` succeeds (`ancestor`).
Every role it returns is such an ancestor, and no role comes twice
(`resolveInheritedRoles_sound`). The converse holds for the first assigned role: its walk starts with nothing
seen, and a seen key stops it only at a cycle, whose later ancestors it already holds
(`resolveInheritedRoles_head_complete`). For the others it fails. The walks from the assigned
roles share one `seen` set and each stops at depth 20, so a role first met 20 levels above one
assignment has its parents cut off, and a later walk from that same role finds it seen. The
roles found, and RBAC's decision, then depend on the order of the assignments
(`resolveInheritedRoles_order_dependent`), over a chain of 22 roles.

## Implementation notes

`RoleWalk` is the invariant of the accumulator: the `seen` keys are the keys of the
result, newest first, with none twice. One walk keeps it and only appends
(`walkRoleParents_roleWalk`); the fold over the assigned roles follows. For completeness,
`walkRoleParents_trace` says which ancestors one walk appends and why it stops.
-/

namespace Warden

/-- The specification of inheritance: `parent^k(r)`, the role `k` steps up the `ParentID` links
from `r`, each step one `GetRole` that succeeds. -/
def ancestor (store : Store) : Nat → ID → Option ID
  | 0, roleID => some roleID
  | k + 1, roleID =>
      match store.getRole roleID with
      | .ok (some r) => r.parentID.bind (ancestor store k)
      | _ => none

/-- The accumulator of the walk: `seen` holds the keys of `result`, newest first, none twice. -/
structure RoleWalk (acc : List String × List ID) : Prop where
  seen_eq : acc.1 = (acc.2.map ID.string).reverse
  nodup : (acc.2.map ID.string).Nodup

/-- One walk keeps `RoleWalk`, only appends to the result, and appends ancestors of its
start fewer than `budget` levels up. -/
theorem walkRoleParents_roleWalk (store : Store) (budget : Nat) (roleID : ID)
    {acc : List String × List ID} (h : RoleWalk acc) :
    RoleWalk (walkRoleParents store budget roleID acc) ∧
      ∃ added, (walkRoleParents store budget roleID acc).2 = acc.2 ++ added ∧
        ∀ x ∈ added, ∃ k < budget, ancestor store k roleID = some x := by
  induction budget generalizing roleID acc with
  | zero => exact ⟨h, [], by simp [walkRoleParents], by simp⟩
  | succ b ih =>
      obtain ⟨seen, result⟩ := acc
      have hs : seen = (result.map ID.string).reverse := h.seen_eq
      by_cases hk : roleID.string ∈ seen
      · simp only [walkRoleParents, if_pos hk]
        exact ⟨h, [], by simp, by simp⟩
      have hk' : roleID.string ∉ result.map ID.string := by rwa [hs, List.mem_reverse] at hk
      have h' : RoleWalk (roleID.string :: seen, result ++ [roleID]) :=
        ⟨by simp [hs], by simpa using h.nodup.concat hk'⟩
      have stop : RoleWalk (roleID.string :: seen, result ++ [roleID]) ∧
          ∃ added, result ++ [roleID] = result ++ added ∧
            ∀ x ∈ added, ∃ k < b + 1, ancestor store k roleID = some x :=
        ⟨h', [roleID], rfl, by simpa using ⟨0, by omega, rfl⟩⟩
      simp only [walkRoleParents, if_neg hk]
      split
      · rename_i r hg
        split
        · rename_i p hp
          obtain ⟨hw, added, he, ha⟩ := ih p h'
          refine ⟨hw, roleID :: added, by rw [he]; simp, ?_⟩
          intro x hx
          rcases List.mem_cons.1 hx with rfl | hx
          · exact ⟨0, by omega, rfl⟩
          · obtain ⟨k, hk, hx⟩ := ha x hx
            exact ⟨k + 1, by omega, by simp [ancestor, hg, hp, hx]⟩
        · exact stop
      · exact stop

/-- The fold over the assigned roles keeps `RoleWalk` and appends ancestors, at most 20
levels up, of the roles it walks from. -/
theorem foldl_walkRoleParents_roleWalk (store : Store) (roleIDs : List ID)
    {acc : List String × List ID} (h : RoleWalk acc) :
    RoleWalk (roleIDs.foldl (fun acc rid => walkRoleParents store 21 rid acc) acc) ∧
      ∃ added, (roleIDs.foldl (fun acc rid => walkRoleParents store 21 rid acc) acc).2 = acc.2 ++ added ∧
        ∀ x ∈ added, ∃ r ∈ roleIDs, ∃ k ≤ 20, ancestor store k r = some x := by
  induction roleIDs generalizing acc with
  | nil => exact ⟨h, [], by simp, by simp⟩
  | cons r rs ih =>
      obtain ⟨hw, a₁, he₁, ha₁⟩ := walkRoleParents_roleWalk store 21 r h
      obtain ⟨hw', a₂, he₂, ha₂⟩ := ih hw
      refine ⟨hw', a₁ ++ a₂, by rw [List.foldl_cons, he₂, he₁, List.append_assoc], ?_⟩
      intro x hx
      rcases List.mem_append.1 hx with hx | hx
      · obtain ⟨k, hk, hx⟩ := ha₁ x hx
        exact ⟨r, List.mem_cons_self _ _, k, by omega, hx⟩
      · obtain ⟨r', hr', k, hk, hx⟩ := ha₂ x hx
        exact ⟨r', List.mem_cons_of_mem _ hr', k, hk, hx⟩

/-- Every role `resolveInheritedRoles` returns is `parent^k(r)` for an assigned role `r` and
some `k ≤ 20`, and no two of them have the same key. -/
theorem resolveInheritedRoles_sound (store : Store) (roleIDs : List ID) :
    ((resolveInheritedRoles store roleIDs).map ID.string).Nodup ∧
      ∀ x ∈ resolveInheritedRoles store roleIDs, ∃ r ∈ roleIDs, ∃ k ≤ 20, ancestor store k r = some x := by
  obtain ⟨hw, added, he, ha⟩ :=
    foldl_walkRoleParents_roleWalk store roleIDs (⟨rfl, List.nodup_nil⟩ : RoleWalk ([], []))
  refine ⟨hw.nodup, fun x hx => ha x ?_⟩
  rw [resolveInheritedRoles, he] at hx
  simpa using hx

/-! ### The first walk loses nothing -/

theorem ancestor_add (store : Store) (j t : Nat) (r : ID) :
    ancestor store (j + t) r = (ancestor store j r).bind (ancestor store t) := by
  induction j generalizing r with
  | zero => rw [Nat.zero_add]; rfl
  | succ j ih =>
      rw [Nat.succ_add]
      rcases hg : store.getRole r with _ | _ | x
      all_goals simp only [ancestor, hg, Option.none_bind]
      cases x.parentID <;> simp [ih]

/-- A step up from a role whose parent is `p` is a step from `p`. -/
theorem ancestor_succ_of_parent {store : Store} {r : ID} {x : Role} {p : ID}
    (hg : store.getRole r = .ok (some x)) (hp : x.parentID = some p) (i : Nat) :
    ancestor store (i + 1) r = ancestor store i p := by
  simp [ancestor, hg, hp]

/-- The walk from `r` appends exactly the ancestors of `r` below some level `m` within its
budget, and stops there: at the budget, at a missing ancestor, or at one whose key is seen. -/
theorem walkRoleParents_trace (store : Store) (n : Nat) (r : ID) (acc : List String × List ID) :
    ∃ m ≤ n, ∃ L, (walkRoleParents store n r acc).2 = acc.2 ++ L ∧
      (∀ y ∈ L, ∃ i < m, ancestor store i r = some y) ∧ (∀ i < m, ∃ y ∈ L, ancestor store i r = some y) ∧
      (m = n ∨ ancestor store m r = none ∨
        ∃ z, ancestor store m r = some z ∧ (z.string ∈ acc.1 ∨ ∃ y ∈ L, y.string = z.string)) := by
  induction n generalizing r acc with
  | zero => exact ⟨0, le_rfl, [], by simp [walkRoleParents], by simp, by simp, .inl rfl⟩
  | succ b ih =>
      obtain ⟨seen, result⟩ := acc
      by_cases hk : r.string ∈ seen
      · exact ⟨0, Nat.zero_le _, [], by simp [walkRoleParents, hk], by simp, by simp, .inr (.inr ⟨r, rfl, .inl hk⟩)⟩
      -- The walk ends at `r` when `r` has no parent to go on to.
      have stop : ancestor store 1 r = none → ∃ m ≤ b + 1, ∃ L,
          (r.string :: seen, result ++ [r]).2 = result ++ L ∧
          (∀ y ∈ L, ∃ i < m, ancestor store i r = some y) ∧ (∀ i < m, ∃ y ∈ L, ancestor store i r = some y) ∧
          (m = b + 1 ∨ ancestor store m r = none ∨
            ∃ z, ancestor store m r = some z ∧ (z.string ∈ seen ∨ ∃ y ∈ L, y.string = z.string)) := fun h1 =>
        ⟨1, by omega, [r], rfl, fun y hy => ⟨0, by omega, by rw [List.mem_singleton.1 hy]; rfl⟩,
          fun i hi => ⟨r, List.mem_singleton_self _, by rw [show i = 0 by omega]; rfl⟩, .inr (.inl h1)⟩
      rcases hg : store.getRole r with _ | _ | x
      · simp only [walkRoleParents, if_neg hk, hg]
        exact stop (by simp [ancestor, hg])
      · simp only [walkRoleParents, if_neg hk, hg]
        exact stop (by simp [ancestor, hg])
      cases hp : x.parentID with
      | none =>
          simp only [walkRoleParents, if_neg hk, hg, hp]
          exact stop (by simp [ancestor, hg, hp])
      | some p =>
          simp only [walkRoleParents, if_neg hk, hg, hp]
          obtain ⟨m, hm, L, he, hsound, hcomp, hstop⟩ := ih p (r.string :: seen, result ++ [r])
          refine ⟨m + 1, by omega, r :: L, by rw [he]; simp, fun y hy => ?_, fun i hi => ?_, ?_⟩
          · rcases List.mem_cons.1 hy with rfl | hy
            · exact ⟨0, by omega, rfl⟩
            · obtain ⟨i, hi, hyi⟩ := hsound y hy
              exact ⟨i + 1, by omega, (ancestor_succ_of_parent hg hp i).trans hyi⟩
          · cases i with
            | zero => exact ⟨r, List.mem_cons_self _ _, rfl⟩
            | succ i =>
                obtain ⟨y, hy, hyi⟩ := hcomp i (by omega)
                exact ⟨y, List.mem_cons_of_mem _ hy, (ancestor_succ_of_parent hg hp i).trans hyi⟩
          · rw [ancestor_succ_of_parent hg hp]
            rcases hstop with rfl | hn | ⟨z, hz, hs | ⟨y, hy, hyz⟩⟩
            · exact .inl rfl
            · exact .inr (.inl hn)
            · rcases List.mem_cons.1 hs with hs | hs
              · exact .inr (.inr ⟨z, hz, .inr ⟨r, List.mem_cons_self _ _, hs.symm⟩⟩)
              · exact .inr (.inr ⟨z, hz, .inl hs⟩)
            · exact .inr (.inr ⟨z, hz, .inr ⟨y, List.mem_cons_of_mem _ hy, hyz⟩⟩)

/-- Over the memory store a step up from a role depends on its key only. -/
theorem MemoryStore.ancestor_succ_congr (S : MemoryStore) {x y : ID} (h : x.string = y.string) (t : Nat) :
    ancestor S.toStore (t + 1) x = ancestor S.toStore (t + 1) y := by
  have hg : S.getRole x = S.getRole y := by unfold MemoryStore.getRole; rw [h]
  simp only [ancestor, MemoryStore.toStore_getRole, hg]

/-- The walk from a role with nothing seen yet puts the key of every ancestor of it at most
20 levels up into the result: a walk stopped by a seen key has met a cycle, whose later
ancestors repeat keys it already holds. -/
theorem walkRoleParents_complete (S : MemoryStore) (r : ID) {k : Nat} (hk : k ≤ 20) {x : ID}
    (hx : ancestor S.toStore k r = some x) :
    ∃ y ∈ (walkRoleParents S.toStore 21 r ([], [])).2, y.string = x.string := by
  obtain ⟨m, hm, L, he, hsound, hcomp, hstop⟩ := walkRoleParents_trace S.toStore 21 r ([], [])
  rw [he, List.nil_append]
  induction k using Nat.strong_induction_on generalizing x with
  | _ k ih =>
      by_cases hkm : k < m
      · obtain ⟨y, hy, hyk⟩ := hcomp k hkm
        exact ⟨y, hy, by rw [Option.some.inj (hyk.symm.trans hx)]⟩
      have hsplit : ancestor S.toStore k r = (ancestor S.toStore m r).bind (ancestor S.toStore (k - m)) := by
        rw [← ancestor_add, Nat.add_sub_cancel' (by omega)]
      rcases hstop with rfl | hn | ⟨z, hz, hs | ⟨y, hy, hyz⟩⟩
      · omega
      · rw [hsplit, hn] at hx
        cases hx
      · exact absurd hs (List.not_mem_nil _)
      rw [hsplit, hz, Option.some_bind] at hx
      obtain ⟨i, hi, hyi⟩ := hsound y hy
      cases ht : k - m with
      | zero =>
          rw [ht] at hx
          cases hx
          exact ⟨y, hy, hyz⟩
      | succ t =>
          rw [ht, ← S.ancestor_succ_congr hyz, ← ht] at hx
          have hx' : ancestor S.toStore (i + (k - m)) r = some x := by rw [ancestor_add, hyi]; exact hx
          exact ih _ (by omega) (by omega) hx'

/-- Every ancestor at most 20 levels up of the first assigned role is resolved, by its key. -/
theorem resolveInheritedRoles_head_complete (S : MemoryStore) (r : ID) (rs : List ID) {k : Nat}
    (hk : k ≤ 20) {x : ID} (hx : ancestor S.toStore k r = some x) :
    ∃ y ∈ resolveInheritedRoles S.toStore (r :: rs), y.string = x.string := by
  obtain ⟨y, hy, hyx⟩ := walkRoleParents_complete S r hk hx
  obtain ⟨-, added, he, -⟩ := foldl_walkRoleParents_roleWalk S.toStore rs
    (walkRoleParents_roleWalk S.toStore 21 r (⟨rfl, List.nodup_nil⟩ : RoleWalk ([], []))).1
  refine ⟨y, ?_, hyx⟩
  rw [resolveInheritedRoles, List.foldl_cons, he]
  exact List.mem_append_left _ hy

/-! ### A chain of 22 roles -/

/-- The role `role_…i` of tenant `t1`. -/
def chainRoleID (i : Nat) : ID := ⟨⟨"role", BitVec.ofNat 128 i⟩, true⟩

theorem chainRoleID_string_inj {i j : Nat} (hi : i < 2 ^ 128) (hj : j < 2 ^ 128)
    (h : (chainRoleID i).string = (chainRoleID j).string) : i = j :=
  ID.string_ofNat_inj (by decide) hi hj h

theorem chainRoleID_strings_nodup : ((List.range 22).map fun i => (chainRoleID i).string).Nodup :=
  ID.strings_ofNat_nodup (by decide) (by omega)

/-- The assignment of the role `i` to `user:u1` of tenant `t1`. -/
def chainAssignment (i : Nat) : Assignment :=
  { id := ⟨⟨"asgn", BitVec.ofNat 128 i⟩, true⟩, tenantID := "t1", roleID := chainRoleID i,
    subjectKind := "user", subjectID := "u1" }

/-- Roles `0` to `21` of tenant `t1`, each the child of the next; role `21` holds
`document:read`. `user:u1` holds role `20`, and with `early` also role `0`, listed first. -/
def chainStore (early : Bool) : MemoryStore where
  roles := (List.range 21).map (fun i =>
      { id := chainRoleID i, tenantID := "t1", parentID := some (chainRoleID (i + 1)) }) ++
    [{ id := chainRoleID 21, tenantID := "t1" }]
  permissions :=
    [{ id := ⟨⟨"perm", 1⟩, true⟩, tenantID := "t1", resource := "document", action := "read" }]
  rolePermissions := [((chainRoleID 21).string, [(⟨⟨"perm", 1⟩, true⟩ : ID).string])]
  assignments := (if early then [chainAssignment 0] else []) ++ [chainAssignment 20]
  relations := []
  policies := []
  roles_nodup := by
    have h := chainRoleID_strings_nodup
    rw [List.range_succ, List.map_append] at h
    rw [List.map_append, List.map_map]
    exact h
  permissions_nodup := List.nodup_singleton _
  rolePermissions_nodup := List.nodup_singleton _
  permissionSets_nodup := by simp
  assignments_nodup := by cases early <;> decide
  relations_nodup := List.nodup_nil
  policies_nodup := List.nodup_nil

theorem chainStore_getRole (early : Bool) {i : Nat} (hi : i < 21) :
    (chainStore early).toStore.getRole (chainRoleID i) =
      .ok (some { id := chainRoleID i, tenantID := "t1", parentID := some (chainRoleID (i + 1)) }) := by
  rw [MemoryStore.toStore_getRole]
  exact MemoryStore.getRole_of_mem (s := chainStore early)
    (r := { id := chainRoleID i, tenantID := "t1", parentID := some (chainRoleID (i + 1)) })
    (List.mem_append_left _ (List.mem_map.2 ⟨i, List.mem_range.2 hi, rfl⟩))

theorem chainStore_getRole_top (early : Bool) :
    (chainStore early).toStore.getRole (chainRoleID 21) = .ok (some { id := chainRoleID 21, tenantID := "t1" }) := by
  rw [MemoryStore.toStore_getRole]
  exact MemoryStore.getRole_of_mem (s := chainStore early) (r := { id := chainRoleID 21, tenantID := "t1" })
    (List.mem_append_right _ (List.mem_singleton_self _))

/-- From role `k`, with `b` levels left and none of the roles met yet seen, the walk adds
the roles `k, k + 1, …` up to the budget or to role `21`, which has no parent. -/
theorem walkRoleParents_chain (early : Bool) (b : Nat) {k : Nat} (hk : k ≤ 21) (seen : List String)
    (result : List ID) (hs : ∀ j, k ≤ j → j < k + b → j ≤ 21 → (chainRoleID j).string ∉ seen) :
    walkRoleParents (chainStore early).toStore b (chainRoleID k) (seen, result) =
      (((List.range' k (min b (22 - k))).map fun j => (chainRoleID j).string).reverse ++ seen,
        result ++ (List.range' k (min b (22 - k))).map chainRoleID) := by
  induction b generalizing k seen result with
  | zero => simp [walkRoleParents]
  | succ b ih =>
      have hn : (chainRoleID k).string ∉ seen := hs k le_rfl (by omega) hk
      rcases Nat.lt_or_ge k 21 with hlt | hge
      · have hmin : min (b + 1) (22 - k) = min b (22 - (k + 1)) + 1 := by
          rw [show 22 - k = 22 - (k + 1) + 1 by omega]
          exact Nat.succ_min_succ _ _
        have hs' : ∀ j, k + 1 ≤ j → j < k + 1 + b → j ≤ 21 →
            (chainRoleID j).string ∉ (chainRoleID k).string :: seen := by
          intro j hj1 hj2 hj3 hmem
          rcases List.mem_cons.1 hmem with h | h
          · exact absurd (chainRoleID_string_inj (by omega) (by omega) h) (by omega)
          · exact hs j (by omega) (by omega) hj3 h
        simp only [walkRoleParents, if_neg hn, chainStore_getRole early hlt]
        rw [ih (by omega) _ _ hs', hmin, List.range'_succ]
        simp only [List.map_cons, List.reverse_cons, List.append_assoc, List.singleton_append]
      · have h21 : k = 21 := by omega
        have htop : (chainStore early).toStore.getRole (chainRoleID k) =
            .ok (some { id := chainRoleID k, tenantID := "t1" }) := h21 ▸ chainStore_getRole_top early
        simp only [walkRoleParents, if_neg hn, htop]
        rw [show min (b + 1) (22 - k) = 1 by omega]
        rfl

theorem resolveInheritedRoles_chain_early :
    resolveInheritedRoles (chainStore true).toStore [chainRoleID 0, chainRoleID 20] =
      (List.range' 0 21).map chainRoleID := by
  have h0 := walkRoleParents_chain true 21 (k := 0) (by omega) [] [] (by simp)
  have h20 : (chainRoleID 20).string ∈
      ((List.range' 0 (min 21 (22 - 0))).map fun j => (chainRoleID j).string).reverse ++ [] :=
    List.mem_append_left _ (List.mem_reverse.2 (List.mem_map.2
      ⟨20, List.mem_range'_1.2 ⟨by omega, by omega⟩, rfl⟩))
  rw [resolveInheritedRoles, List.foldl_cons, List.foldl_cons, List.foldl_nil, h0, walkRoleParents,
    if_pos h20, List.nil_append]
  rfl

theorem chainStore_roleGrant (early : Bool) (permName : String) {i : Nat} (hi : i < 21) :
    roleGrant (chainStore early).toStore permName (chainRoleID i) = none := by
  have hne : ((chainRoleID i).string == (chainRoleID 21).string) = false := by
    simpa using fun h => absurd (chainRoleID_string_inj (by omega) (by omega) h) (by omega)
  have hl : (chainStore early).rolePermissions.lookup (chainRoleID i).string = none := by
    rw [show (chainStore early).rolePermissions =
      [((chainRoleID 21).string, [(⟨⟨"perm", 1⟩, true⟩ : ID).string])] from rfl]
    rw [List.lookup_cons, hne]
    rfl
  simp only [roleGrant, MemoryStore.toStore_listRolePermissions, MemoryStore.listRolePermissions, hl]
  rfl

theorem evaluateRBAC_chain_early :
    evaluateRBAC (chainStore true).toStore "t1" (readFrom "10.0.1.5") =
      .ok { decision := decisionDenyNoPerms, reason := "no role grants required permission" } := by
  have hnone : (resolveInheritedRoles (chainStore true).toStore [chainRoleID 0, chainRoleID 20]).findSome?
      (roleGrant (chainStore true).toStore
        ((readFrom "10.0.1.5").resource.type ++ ":" ++ (readFrom "10.0.1.5").action.name)) = none := by
    rw [resolveInheritedRoles_chain_early, List.findSome?_eq_none_iff]
    intro rid hm
    obtain ⟨j, hj, rfl⟩ := List.mem_map.1 hm
    exact chainStore_roleGrant true _ (by have := (List.mem_range'_1.1 hj).2; omega)
  show Except.ok (rbacResult _ _ [chainRoleID 0, chainRoleID 20]) = _
  rw [rbacResult, if_neg (by simp)]
  dsimp only
  rw [hnone]

/-- Role `21` grants `document:read`. -/
theorem chainStore_roleGrant_top (early : Bool) :
    roleGrant (chainStore early).toStore ("document" ++ ":" ++ "read") (chainRoleID 21) =
      some { allowed := true, decision := decisionAllow,
             matchedBy := [{ source := "rbac", ruleID := (chainRoleID 21).string,
                             detail := "role grants " ++ "document" ++ ":" ++ "read" }] } := by
  have hparse : parsePermissionID (⟨⟨"perm", 1⟩, true⟩ : ID).string = .ok ⟨⟨"perm", 1⟩, true⟩ := by
    rw [parsePermissionID, ID.parseWithPrefix, ID.parse_string rfl (by decide)]
    rfl
  have hl : (chainStore early).rolePermissions.lookup (chainRoleID 21).string =
      some [(⟨⟨"perm", 1⟩, true⟩ : ID).string] := by
    exact List.lookup_cons_self
  have hg : (chainStore early).getPermission ⟨⟨"perm", 1⟩, true⟩ =
      .ok (some { id := ⟨⟨"perm", 1⟩, true⟩, tenantID := "t1", resource := "document", action := "read" }) := by
    rw [MemoryStore.getPermission, MemoryStore.find?_key_eq_some (fun p : Permission => p.id.string)
      (chainStore early).permissions_nodup (List.mem_singleton_self _) rfl]
  have hlist : (chainStore early).toStore.listRolePermissions (chainRoleID 21) = .ok [⟨⟨"perm", 1⟩, true⟩] := by
    rw [MemoryStore.toStore_listRolePermissions, MemoryStore.listRolePermissions, hl]
    simp only [List.filterMap_cons, List.filterMap_nil, hparse]
    rfl
  simp only [roleGrant, hlist, List.findSome?_cons, permissionGrant, MemoryStore.toStore_getPermission, hg]
  rw [if_pos (by decide : matchPermission ("document" ++ ":" ++ "read") ("document" ++ ":" ++ "read") = true)]

theorem resolveInheritedRoles_chain_late :
    resolveInheritedRoles (chainStore false).toStore [chainRoleID 20] = [chainRoleID 20, chainRoleID 21] := by
  rw [resolveInheritedRoles, List.foldl_cons, List.foldl_nil,
    walkRoleParents_chain false 21 (k := 20) (by omega) [] [] (by simp)]
  rfl

theorem evaluateRBAC_chain_late :
    evaluateRBAC (chainStore false).toStore "t1" (readFrom "10.0.1.5") =
      .ok { allowed := true, decision := decisionAllow,
            matchedBy := [{ source := "rbac", ruleID := (chainRoleID 21).string,
                            detail := "role grants " ++ "document" ++ ":" ++ "read" }] } := by
  have htop : roleGrant (chainStore false).toStore
      ((readFrom "10.0.1.5").resource.type ++ ":" ++ (readFrom "10.0.1.5").action.name) (chainRoleID 21) =
        some { allowed := true, decision := decisionAllow,
               matchedBy := [{ source := "rbac", ruleID := (chainRoleID 21).string,
                               detail := "role grants " ++ "document" ++ ":" ++ "read" }] } :=
    chainStore_roleGrant_top false
  show Except.ok (rbacResult _ _ [chainRoleID 20]) = _
  rw [rbacResult, if_neg (by simp)]
  dsimp only
  rw [resolveInheritedRoles_chain_late, List.findSome?_cons, chainStore_roleGrant false _ (by omega),
    List.findSome?_cons, htop]

/-- Walked first, role `20` brings in its parent `21`; the later walk from `0` only appends. -/
theorem resolveInheritedRoles_twenty_first :
    chainRoleID 21 ∈ resolveInheritedRoles (chainStore true).toStore [chainRoleID 20, chainRoleID 0] := by
  have h20 := walkRoleParents_chain true 21 (k := 20) (by omega) [] [] (by simp)
  have hw := (walkRoleParents_roleWalk (chainStore true).toStore 21 (chainRoleID 20)
    (⟨rfl, List.nodup_nil⟩ : RoleWalk ([], []))).1
  rw [h20] at hw
  obtain ⟨-, added, he, -⟩ := walkRoleParents_roleWalk (chainStore true).toStore 21 (chainRoleID 0) hw
  rw [resolveInheritedRoles, List.foldl_cons, List.foldl_cons, List.foldl_nil, h20, he]
  exact List.mem_append_left _ (List.mem_map.2 ⟨21, List.mem_range'_1.2 ⟨by omega, by omega⟩, rfl⟩)

/-- Assigned roles `0` and `20`: in the order `[0, 20]` the walk from `0` meets `20` at
depth 20 and stops before its parent `21`, and the walk from `20` finds it seen, so `21`,
although `parent(20)`, is missing and RBAC denies `document:read`; in the order `[20, 0]`
role `21` is found and RBAC allows. -/
theorem resolveInheritedRoles_order_dependent :
    ancestor (chainStore true).toStore 1 (chainRoleID 20) = some (chainRoleID 21) ∧
      chainRoleID 21 ∉ resolveInheritedRoles (chainStore true).toStore [chainRoleID 0, chainRoleID 20] ∧
      chainRoleID 21 ∈ resolveInheritedRoles (chainStore true).toStore [chainRoleID 20, chainRoleID 0] ∧
      (rbacResult (chainStore true).toStore (readFrom "10.0.1.5")
        [chainRoleID 0, chainRoleID 20]).allowed = false ∧
      (rbacResult (chainStore true).toStore (readFrom "10.0.1.5")
        [chainRoleID 20, chainRoleID 0]).allowed = true := by
  have hearly : rbacResult (chainStore true).toStore (readFrom "10.0.1.5") [chainRoleID 0, chainRoleID 20] =
      { decision := decisionDenyNoPerms, reason := "no role grants required permission" } :=
    Except.ok.inj evaluateRBAC_chain_early
  refine ⟨by rw [ancestor, chainStore_getRole true (by omega)]; rfl, ?_, resolveInheritedRoles_twenty_first,
    by rw [hearly], (rbacResult_allowed_iff _ _ _).2 ⟨by simp, chainRoleID 21,
      resolveInheritedRoles_twenty_first, Option.isSome_iff_exists.2 ⟨_, chainStore_roleGrant_top true⟩⟩⟩
  rw [resolveInheritedRoles_chain_early]
  intro hm
  obtain ⟨j, hj, he⟩ := List.mem_map.1 hm
  have hj21 := (List.mem_range'_1.1 hj).2
  exact absurd (chainRoleID_string_inj (by omega) (by omega) (congrArg ID.string he)) (by omega)

end Warden
