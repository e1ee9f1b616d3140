import Warden.Engine.Reads
import Warden.Engine.Inheritance
import Warden.Engine.Rebac
import Warden.Store.Writes

/-! # Granting more

Adding role-permission attachments, relation tuples or allow policies to a memory store
never turns an allowed check into a denied one (`check_grants_more`), as long as no two
nodes the walk can meet share a visit key. Adding an assignment can: the walk from a new
role may reach an old role at depth 20, where the safety limit stops it before the old
role's parent, and the shared `seen` set then keeps the old role's own walk from running
(`check_assignment_revokes`).

The proof goes model by model: RBAC resolves the same roles and finds a grant among more
permissions; ReBAC finds a path over more tuples, by the walker's soundness on the smaller
store and its completeness on the larger one; ABAC meets no new applicable deny, since the
added policies allow. `mergeDecisions` is monotone once ABAC does not deny explicitly.

The other way round, a deny policy created under a fresh ID never grants: `evaluateAll`
answers as before, fails, or denies (`evaluateAll_createPolicy_deny`), since the policy can only
add an explicit deny to ABAC, and the explicit deny wins the merge.
-/

namespace Warden

/-- Assigning `user:u1` the role `0` as well, listed first, revokes its access to
`document:read`: role `20` is reached at depth 20 from role `0`, its parent `21` is past the
limit, and the walk from role `20` itself finds it seen. -/
theorem check_assignment_revokes :
    (chainStore true).assignments = chainAssignment 0 :: (chainStore false).assignments ∧
    (chainStore true).roles = (chainStore false).roles ∧
    (chainStore true).permissions = (chainStore false).permissions ∧
    (chainStore true).rolePermissions = (chainStore false).rolePermissions ∧
    (chainStore true).relations = (chainStore false).relations ∧
    (chainStore true).policies = (chainStore false).policies ∧
    ((storeEngine (chainStore false).toStore none).check (withTenant {} "app1" "t1") 0 0 0
      (readFrom "10.0.1.5")).1.toOption.map (·.allowed) = some true ∧
    ((storeEngine (chainStore true).toStore none).check (withTenant {} "app1" "t1") 0 0 0
      (readFrom "10.0.1.5")).1.toOption.map (·.allowed) = some false := by
  refine ⟨rfl, rfl, rfl, rfl, rfl, rfl, ?_, ?_⟩
  · simp only [Engine.check, Engine.evaluateAll, evaluateReBAC, storeEngine, scopeFromContext,
      withTenant, Option.getD_some, walk_of_no_relations (S := chainStore false) rfl,
      evaluateRBAC_chain_late]
    decide
  · simp only [Engine.check, Engine.evaluateAll, evaluateReBAC, storeEngine, scopeFromContext,
      withTenant, Option.getD_some, walk_of_no_relations (S := chainStore true) rfl,
      evaluateRBAC_chain_early]
    decide

/-! ### The models over a store that grants more -/

variable {P : Prims}

namespace MemoryStore

/-- The active policies of tenant `T`, as `ListActivePolicies` lists them. -/
def activePolicies (s : MemoryStore) (T : String) : List Policy :=
  s.policies.filter fun p => p.tenantID = T ∧ p.isActive

theorem evaluateABAC_toStore (s : MemoryStore) (T : String) (req : CheckRequest) :
    evaluateABAC s.toStore (defaultEvaluator P) T req = evaluate P (s.activePolicies T) req := rfl

/-- `S'` holds what `S` holds and grants more: the same roles and permissions, the same
assignments in the same order, each role's permission set kept or extended, more relation
tuples, and more policies, each added one with effect `"allow"`. -/
structure GrantsMore (S S' : MemoryStore) : Prop where
  roles : S'.roles.Perm S.roles
  permissions : S'.permissions.Perm S.permissions
  assignments : S'.assignments = S.assignments
  rolePermissions : ∀ k perms, S.rolePermissions.lookup k = some perms →
    ∃ perms', S'.rolePermissions.lookup k = some perms' ∧ perms ⊆ perms'
  relations : S.relations ⊆ S'.relations
  policies : S.policies ⊆ S'.policies
  added_allow : ∀ p ∈ S'.policies, p ∉ S.policies → p.effect = effectAllow

/-- A lookup by a key that is unique in the list does not see the list's order. -/
theorem find?_key_perm {α : Type} (key : α → String) {l l' : List α} (hp : l.Perm l')
    (hn : (l.map key).Nodup) (k : String) :
    l.find? (key · = k) = l'.find? (key · = k) := by
  cases h : l.find? (key · = k) with
  | none =>
      exact (List.find?_eq_none.2 fun x hx => List.find?_eq_none.1 h x (hp.mem_iff.2 hx)).symm
  | some r =>
      have hm := List.mem_of_find?_eq_some h
      obtain ⟨r', h'⟩ := Option.isSome_iff_exists.1
        (List.find?_isSome.2 ⟨r, hp.mem_iff.1 hm, List.find?_some h⟩)
      have hk : key r = k := by simpa using List.find?_some h
      have hk' : key r' = k := by simpa using List.find?_some h'
      rw [h', List.inj_on_of_nodup_map hn hm (hp.mem_iff.2 (List.mem_of_find?_eq_some h')) (hk.trans hk'.symm)]

section Grants

variable {S S' : MemoryStore} (h : S.GrantsMore S')
include h

theorem GrantsMore.getRole : S'.toStore.getRole = S.toStore.getRole := by
  funext roleID
  simp only [toStore_getRole, MemoryStore.getRole,
    find?_key_perm (fun r : Role => r.id.string) h.roles S'.roles_nodup]

theorem GrantsMore.getPermission : S'.toStore.getPermission = S.toStore.getPermission := by
  funext permID
  simp only [toStore_getPermission, MemoryStore.getPermission,
    find?_key_perm (fun p : Permission => p.id.string) h.permissions S'.permissions_nodup]

theorem GrantsMore.roleGrant (permName : String) (roleID : ID)
    (hs : (roleGrant S.toStore permName roleID).isSome) :
    (roleGrant S'.toStore permName roleID).isSome := by
  have hp : permissionGrant S'.toStore = permissionGrant S.toStore := by
    funext permName roleID permID
    simp only [permissionGrant, h.getPermission]
  simp only [Warden.roleGrant, toStore_listRolePermissions, listRolePermissions, hp] at hs ⊢
  cases hl : S.rolePermissions.lookup roleID.string with
  | none => simp [hl] at hs
  | some perms =>
      obtain ⟨perms', hl', hsub⟩ := h.rolePermissions _ perms hl
      simp only [hl, hl', List.findSome?_isSome_iff, List.mem_filterMap] at hs ⊢
      obtain ⟨pid, ⟨raw, hraw, hparse⟩, hg⟩ := hs
      exact ⟨pid, ⟨raw, hsub hraw, hparse⟩, hg⟩

theorem GrantsMore.evaluateRBAC (T : String) (req : CheckRequest) {r r' : CheckResult}
    (hr : Warden.evaluateRBAC S.toStore T req = .ok r)
    (hr' : Warden.evaluateRBAC S'.toStore T req = .ok r') (ha : r.allowed = true) :
    r'.allowed = true := by
  have hw : walkRoleParents S'.toStore = walkRoleParents S.toStore := by
    funext budget roleID acc
    exact walkRoleParents_congr h.getRole budget roleID acc
  simp only [Warden.evaluateRBAC, toStore_listRolesForSubject, toStore_listRolesForSubjectOnResource,
    listRolesForSubject, listRolesForSubjectOnResource, h.assignments, Except.ok.injEq] at hr hr'
  subst hr hr'
  rw [rbacResult_allowed_iff] at ha ⊢
  obtain ⟨hne, rid, hm, hg⟩ := ha
  refine ⟨hne, rid, ?_, h.roleGrant _ rid hg⟩
  simpa only [resolveInheritedRoles, hw] using hm

theorem GrantsMore.relationTuples (T : String) (x : GraphNode) :
    S.relationTuples T x ⊆ S'.relationTuples T x := fun _ ht =>
  List.mem_filter.2 ⟨h.relations (List.mem_filter.1 ht).1, (List.mem_filter.1 ht).2⟩

theorem GrantsMore.evaluateReBAC {g : Option GraphWalker}
    (hw : ∀ gw, g = some gw → ∃ d, gw = defaultGraphWalker d) (T : String) (req : CheckRequest)
    (hk : KeysDistinct (S'.relationTuples T) (rootNode req)) {r r' : CheckResult}
    (hr : Warden.evaluateReBAC S.toStore g T req = .ok r)
    (hr' : Warden.evaluateReBAC S'.toStore g T req = .ok r') (ha : r.allowed = true) :
    r'.allowed = true := by
  rw [evaluateReBAC_allowed_iff hr'.symm.symm]
  rcases (evaluateReBAC_allowed_iff hr).1 ha with hd | ⟨gw, rfl, hwalk⟩
  · left
    simp only [toStore_checkDirectRelation, checkDirectRelation, Except.ok.injEq,
      List.any_eq_true] at hd ⊢
    obtain ⟨t, ht, hp⟩ := hd
    exact ⟨t, h.relations ht, hp⟩
  · right
    obtain ⟨d, rfl⟩ := hw gw rfl
    obtain ⟨k, hkd, x, hreach, hhit⟩ := bfsWalk_sound (listRelationSubjects_eq S T) hwalk
    exact ⟨_, rfl, bfsWalk_complete (listRelationSubjects_eq S' T) hk hkd
      (hreach.mono (h.relationTuples T)) (hhit.mono (h.relationTuples T))⟩

theorem GrantsMore.evaluateABAC (T : String) (req : CheckRequest) {o o' : Option CheckResult}
    (ho : Warden.evaluateABAC S.toStore (defaultEvaluator P) T req = .ok o)
    (ho' : Warden.evaluateABAC S'.toStore (defaultEvaluator P) T req = .ok o')
    (hnd : ∀ a, o = some a → a.decision ≠ decisionDenyExplicit) :
    (∀ a', o' = some a' → a'.decision ≠ decisionDenyExplicit) ∧
      (o.any (·.allowed) = true → o'.any (·.allowed) = true) := by
  rw [evaluateABAC_toStore] at ho ho'
  have hsub : ∀ p ∈ activePolicies S T, p ∈ activePolicies S' T := fun p hp =>
    List.mem_filter.2 ⟨h.policies (List.mem_filter.1 hp).1, (List.mem_filter.1 hp).2⟩
  have hdeny : ∀ p ∈ activePolicies S' T, p.effect = effectDeny → p ∈ activePolicies S T := by
    intro p hp hd
    obtain ⟨hm, hf⟩ := List.mem_filter.1 hp
    by_cases hold : p ∈ S.policies
    · exact List.mem_filter.2 ⟨hold, hf⟩
    · exact absurd (hd.symm.trans (h.added_allow p hm hold)) (by decide)
  rw [evaluate_ok _ _ (evaluate_no_failure ho)] at ho
  rw [evaluate_ok _ _ (evaluate_no_failure ho')] at ho'
  have hd : (activePolicies S T).findSome? (denyOf P req) = none := by
    cases h1 : (activePolicies S T).findSome? (denyOf P req) with
    | none => rfl
    | some d =>
        simp only [h1, Option.or_some, Except.ok.injEq] at ho
        exact absurd (denyOf_verdict h1).2 (hnd d ho.symm)
  have hd' : (activePolicies S' T).findSome? (denyOf P req) = none := by
    refine List.findSome?_eq_none_iff.2 fun p hp => ?_
    cases hdp : denyOf P req p with
    | none => rfl
    | some x =>
        obtain ⟨ha, hde, -⟩ := denyOf_eq_some.1 hdp
        have := List.findSome?_eq_none_iff.1 hd p (hdeny p hp hde)
        rw [denyOf_eq_some.2 ⟨ha, hde, rfl⟩] at this
        cases this
  simp only [hd, hd', Option.none_or, Except.ok.injEq] at ho ho'
  subst ho ho'
  refine ⟨fun a' ha' => ?_, fun hany => ?_⟩
  · rw [(allowOf_verdict ha').2]
    decide
  · cases h1 : (activePolicies S T).findSome? (allowOf P req) with
    | none => simp [h1] at hany
    | some a =>
        obtain ⟨p, hp, hpa⟩ := List.exists_of_findSome?_eq_some h1
        obtain ⟨a', h'⟩ : ∃ a', (activePolicies S' T).findSome? (allowOf P req) = some a' :=
          Option.isSome_iff_exists.1 (List.findSome?_isSome_iff.2 ⟨p, hsub p hp, by simp [hpa]⟩)
        rw [h']
        exact (allowOf_verdict h').1

/-- With the default evaluator, a store that grants more keeps every allow of `evaluateAll`,
whenever it answers at all. -/
theorem GrantsMore.evaluateAll {e : Engine} (hev : e.evaluator = defaultEvaluator P)
    (hw : ∀ gw, e.graphWalker = some gw → ∃ d, gw = defaultGraphWalker d) (scope : TenantScope)
    (req : CheckRequest) (hk : KeysDistinct (S'.relationTuples scope.tenantID) (rootNode req))
    {m m' : CheckResult} (hm : ({ e with store := S.toStore } : Engine).evaluateAll scope req = .ok m)
    (hm' : ({ e with store := S'.toStore } : Engine).evaluateAll scope req = .ok m')
    (ha : m.allowed = true) : m'.allowed = true := by
  obtain ⟨rb, rr, ra, h1, h2, h3, rfl⟩ := evaluateAll_eq_ok hm
  obtain ⟨rb', rr', ra', h1', h2', h3', rfl⟩ := evaluateAll_eq_ok hm'
  simp only [hev] at h3 h3'
  have hnd : ∀ a, ra = some a → a.decision ≠ decisionDenyExplicit := by
    rintro a rfl hd
    rw [mergeDecisions_deny hd] at ha
    rcases stage_ok h3 with ⟨-, hrun⟩ | ⟨-, hnone⟩
    · rw [evaluateABAC_toStore] at hrun
      rw [evaluate_denyExplicit hrun hd] at ha
      cases ha
    · cases hnone
  have hA := stage_rel (R := fun o o' => (∀ a, o = some a → a.decision ≠ decisionDenyExplicit) →
      (∀ a', o' = some a' → a'.decision ≠ decisionDenyExplicit) ∧
        (o.any (·.allowed) = true → o'.any (·.allowed) = true))
    h3 h3' (fun _ => ⟨by simp, by simp⟩) (fun e₁ e₂ => h.evaluateABAC _ _ e₁ e₂) hnd
  have hB := stage_rel (R := fun o o' => o.any (·.allowed) = true → o'.any (·.allowed) = true)
    h1 h1' id fun e₁ e₂ hb => by
      obtain ⟨x, hx, rfl⟩ := map_some_eq_ok e₁
      obtain ⟨x', hx', rfl⟩ := map_some_eq_ok e₂
      simpa using h.evaluateRBAC _ _ hx hx' (by simpa using hb)
  have hR := stage_rel (R := fun o o' => o.any (·.allowed) = true → o'.any (·.allowed) = true)
    h2 h2' id fun e₁ e₂ hb => by
      obtain ⟨x, hx, rfl⟩ := map_some_eq_ok e₁
      obtain ⟨x', hx', rfl⟩ := map_some_eq_ok e₂
      simpa using h.evaluateReBAC hw _ _ hk hx hx' (by simpa using hb)
  rw [mergeDecisions_allowed hnd] at ha
  rw [mergeDecisions_allowed hA.1]
  simp only [Bool.or_eq_true] at ha ⊢
  rcases ha with (hb | hr) | ha
  · exact .inl (.inl (hB hb))
  · exact .inl (.inr (hR hr))
  · exact .inr (hA.2 ha)

end Grants

/-! ### A fresh deny policy never grants -/

theorem createPolicy_policies_of_fresh {s : MemoryStore} {p : Policy}
    (h : ∀ q ∈ s.policies, q.id.string ≠ p.id.string) : (s.createPolicy p).policies = s.policies ++ [p] :=
  putKey_of_fresh h

/-- A deny policy under a fresh ID leaves ABAC's answer as it was, makes it fail, or makes it
deny explicitly. -/
theorem evaluateABAC_createPolicy_deny (S : MemoryStore) {p : Policy} (hp : p.effect = effectDeny)
    (hf : ∀ q ∈ S.policies, q.id.string ≠ p.id.string) (T : String) (req : CheckRequest) :
    evaluateABAC (S.createPolicy p).toStore (defaultEvaluator P) T req =
        evaluateABAC S.toStore (defaultEvaluator P) T req ∨
      (∃ err, evaluateABAC (S.createPolicy p).toStore (defaultEvaluator P) T req = .error err) ∨
      ∃ d, evaluateABAC (S.createPolicy p).toStore (defaultEvaluator P) T req = .ok (some d) ∧
        d.decision = decisionDenyExplicit := by
  have hl : (S.createPolicy p).activePolicies T =
      S.activePolicies T ++ [p].filter fun q => q.tenantID = T ∧ q.isActive := by
    rw [activePolicies, createPolicy_policies_of_fresh hf, List.filter_append]
    rfl
  simp only [evaluateABAC_toStore, hl]
  by_cases hk : p.tenantID = T ∧ p.isActive
  · simpa [hk] using evaluate_append_deny (S.activePolicies T) hp req
  · exact .inl (by simp [hk])

/-- One more policy changes `evaluateAll` only through ABAC, with no walker or the BFS walker. -/
theorem evaluateAll_createPolicy_of_abac {e : Engine}
    (hw : ∀ gw, e.graphWalker = some gw → ∃ d, gw = defaultGraphWalker d) (S : MemoryStore) (p : Policy)
    (scope : TenantScope) (req : CheckRequest)
    (h : stage e.config.abacEnabled "warden abac: "
        (evaluateABAC (S.createPolicy p).toStore e.evaluator scope.tenantID req) =
      stage e.config.abacEnabled "warden abac: " (evaluateABAC S.toStore e.evaluator scope.tenantID req)) :
    ({ e with store := (S.createPolicy p).toStore } : Engine).evaluateAll scope req =
      ({ e with store := S.toStore } : Engine).evaluateAll scope req := by
  have hre : evaluateReBAC (S.createPolicy p).toStore e.graphWalker scope.tenantID req =
      evaluateReBAC S.toStore e.graphWalker scope.tenantID req := by
    cases hg : e.graphWalker with
    | none => rfl
    | some gw => obtain ⟨d, rfl⟩ := hw gw hg; rfl
  unfold Engine.evaluateAll
  dsimp only
  rw [h, hre]
  rfl

/-- A deny policy created under a fresh ID never grants: with the default evaluator and no walker
or the BFS walker, `evaluateAll` on the store after answers as before, fails, or denies. -/
theorem evaluateAll_createPolicy_deny {e : Engine} (hev : e.evaluator = defaultEvaluator P)
    (hw : ∀ gw, e.graphWalker = some gw → ∃ d, gw = defaultGraphWalker d) (S : MemoryStore) {p : Policy} (hp : p.effect = effectDeny) (hf : ∀ q ∈ S.policies, q.id.string ≠ p.id.string)
    (scope : TenantScope) (req : CheckRequest) :
    ({ e with store := (S.createPolicy p).toStore } : Engine).evaluateAll scope req =
        ({ e with store := S.toStore } : Engine).evaluateAll scope req ∨
      (∃ err, ({ e with store := (S.createPolicy p).toStore } : Engine).evaluateAll scope req = .error err) ∨
      ∃ m, ({ e with store := (S.createPolicy p).toStore } : Engine).evaluateAll scope req = .ok m ∧
        m.allowed = false := by
  cases hen : e.config.abacEnabled
  · exact .inl (evaluateAll_createPolicy_of_abac hw S p scope req (by simp [stage, hen]))
  rcases evaluateAll_cases (e := { e with store := (S.createPolicy p).toStore }) hen scope req with
    h | ⟨abac, hab, rbac, rebac, hm⟩
  · exact .inr (.inl h)
  simp only [hev] at hab
  rcases evaluateABAC_createPolicy_deny S hp hf scope.tenantID req with heq | ⟨err, he⟩ | ⟨d, hd, hdec⟩
  · exact .inl (evaluateAll_createPolicy_of_abac hw S p scope req (by rw [hev, heq]))
  · rw [he] at hab
    cases hab
  · rw [hd] at hab
    cases hab
    exact .inr (.inr ⟨d, hm.trans (congrArg _ (mergeDecisions_deny hdec)),
      evaluate_denyExplicit ((evaluateABAC_toStore _ _ _).symm.trans hd) hdec⟩)

end MemoryStore

/-- An active allow policy of tenant `t1` with no filters or conditions. -/
def allowAllPolicy : Policy :=
  { id := ⟨⟨"wpol", 1⟩, true⟩, tenantID := "t1", name := "allow-all", effect := effectAllow,
    isActive := true }

/-- `grantStore "t1" true none` with `allowAllPolicy` added. -/
def allowAllStore : MemoryStore :=
  { grantStore "t1" true none with
    policies := [allowAllPolicy]
    policies_nodup := List.nodup_singleton _ }

end Warden
