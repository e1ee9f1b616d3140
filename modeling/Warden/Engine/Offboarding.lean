import Warden.Store.Writes
import Warden.Engine.Reads

/-! # Offboarding a tenant

A check under tenant `T` reaches roles only through assignments of `T`, and reads only the
tuples and policies of `T`. A memory store without any of these denies every check under
`T` without error, whatever the roles, permissions and attachments of any tenant hold
(`check_of_tenantEmpty`). `DeleteAssignmentsByTenant`, `DeleteRelationsByTenant` and
`DeletePoliciesByTenant` of `T` leave such a store, and change no decision under another
tenant (`offboard_check`).

`DeleteRolesByTenant` and `DeletePermissionsByTenant` are needed for neither. They may change
the decisions of another tenant, since `GetRole` and `GetPermission` read a key whatever its
tenant.
-/

namespace Warden

namespace MemoryStore

/-- The store holds no assignment, relation tuple or policy of tenant `T`. -/
structure TenantEmpty (s : MemoryStore) (T : String) : Prop where
  assignments : ∀ a ∈ s.assignments, a.tenantID ≠ T
  relations : ∀ t ∈ s.relations, t.tenantID ≠ T
  policies : ∀ p ∈ s.policies, p.tenantID ≠ T

section TenantEmpty

variable {s : MemoryStore} {T : String} (h : s.TenantEmpty T)
include h

theorem TenantEmpty.listRolesForSubject (kind id : String) : s.listRolesForSubject T kind id = .ok [] := by
  simp only [MemoryStore.listRolesForSubject, Except.ok.injEq, List.map_eq_nil_iff, List.filter_eq_nil_iff]
  intro a ha
  simp [h.assignments a ha]

theorem TenantEmpty.listRolesForSubjectOnResource (kind id type rid : String) :
    s.listRolesForSubjectOnResource T kind id type rid = .ok [] := by
  simp only [MemoryStore.listRolesForSubjectOnResource, Except.ok.injEq, List.map_eq_nil_iff,
    List.filter_eq_nil_iff]
  intro a ha
  simp [h.assignments a ha]

theorem TenantEmpty.checkDirectRelation (oT oI r sT sI : String) :
    s.checkDirectRelation T oT oI r sT sI = .ok false := by
  simp only [MemoryStore.checkDirectRelation, Except.ok.injEq, List.any_eq_false]
  intro t ht
  simp [h.relations t ht]

theorem TenantEmpty.listRelationSubjects (oT oI r : String) : s.listRelationSubjects T oT oI r = .ok [] := by
  simp only [MemoryStore.listRelationSubjects, Except.ok.injEq, List.filter_eq_nil_iff]
  intro t ht
  simp [h.relations t ht]

theorem TenantEmpty.listActivePolicies : s.listActivePolicies T = .ok [] := by
  simp only [MemoryStore.listActivePolicies, Except.ok.injEq, List.filter_eq_nil_iff]
  intro p hp
  simp [h.policies p hp]

/-- RBAC finds no role. -/
theorem TenantEmpty.evaluateRBAC (req : CheckRequest) :
    evaluateRBAC s.toStore T req = .ok { decision := decisionDenyNoRoles, reason := "subject has no roles" } := by
  simp only [Warden.evaluateRBAC, toStore_listRolesForSubject, toStore_listRolesForSubjectOnResource,
    h.listRolesForSubject, h.listRolesForSubjectOnResource]
  rfl

/-- ReBAC finds no relation, with no walker or the BFS walker. -/
theorem TenantEmpty.evaluateReBAC {g : Option GraphWalker} (hw : ∀ gw, g = some gw → ∃ d, gw = defaultGraphWalker d)
    (req : CheckRequest) :
    evaluateReBAC s.toStore g T req = .ok { decision := decisionDenyRelation, reason := "no relation found" } := by
  cases g with
  | none => simp only [Warden.evaluateReBAC, toStore_checkDirectRelation, h.checkDirectRelation]
  | some gw =>
      obtain ⟨d, rfl⟩ := hw gw rfl
      have hwalk := bfsWalk_of_no_tuples (if d ≤ 0 then 10 else d.toNat) s.toStore T req
        (h.listRelationSubjects _ _ _)
      simp only [Warden.evaluateReBAC, toStore_checkDirectRelation, h.checkDirectRelation, defaultGraphWalker,
        hwalk]
      rfl

/-- ABAC finds no policy. -/
theorem TenantEmpty.evaluateABAC (P : Prims) (req : CheckRequest) :
    evaluateABAC s.toStore (defaultEvaluator P) T req = .ok none := by
  simp only [Warden.evaluateABAC, toStore_listActivePolicies, h.listActivePolicies]
  rfl

end TenantEmpty

end MemoryStore

theorem stage_of_ok {enabled : Bool} {label : String} {run : Except GoError (Option CheckResult)}
    {o : Option CheckResult} (h : run = .ok o) : stage enabled label run = .ok (if enabled then o else none) := by
  subst h
  cases enabled <;> rfl

/-- Over a store without assignments, tuples and policies of the check's tenant, a check with
no cache, the default evaluator and no walker or the BFS walker succeeds and denies. -/
theorem check_of_tenantEmpty {P : Prims} (e : Engine) (hc : e.cache = none) (hev : e.evaluator = defaultEvaluator P)
    (hw : ∀ gw, e.graphWalker = some gw → ∃ d, gw = defaultGraphWalker d) (S : MemoryStore)
    (ctx : RequestContext) (hT : S.TenantEmpty (scopeFromContext ctx).tenantID) (now elapsed : Int)
    (victim : Nat) (req : CheckRequest) :
    ∃ r, ({ e with store := S.toStore }.check ctx now elapsed victim req).1 = .ok r ∧ r.allowed = false := by
  have hall : ({ e with store := S.toStore } : Engine).evaluateAll (scopeFromContext ctx) req =
      .ok (mergeDecisions
        (if e.config.rbacEnabled then some { decision := decisionDenyNoRoles, reason := "subject has no roles" }
          else none)
        (if e.config.rebacEnabled then some { decision := decisionDenyRelation, reason := "no relation found" }
          else none)
        none) := by
    simp only [Engine.evaluateAll, hT.evaluateRBAC, hT.evaluateReBAC hw, hev, hT.evaluateABAC P,
      Except.map, stage_of_ok rfl, ite_self]
  refine ⟨_, by rw [Engine.check_uncached (e := { e with store := S.toStore }) hc, hall]; rfl, ?_⟩
  show (mergeDecisions _ _ none).allowed = false
  rw [mergeDecisions_allowed fun _ h => by cases h]
  cases e.config.rbacEnabled <;> cases e.config.rebacEnabled <;> rfl

/-- Keeping the entries of other tenants than `T` keeps those of every `T' ≠ T`. -/
theorem filter_ne_tenant {α : Type} (f : α → String) {T T' : String} (hT : T' ≠ T) (l : List α) :
    (l.filter (f · ≠ T)).filter (f · = T') = l.filter (f · = T') := by
  rw [List.filter_filter]
  congr 1
  funext a
  by_cases ha : f a = T' <;> simp [ha, hT]

/-- Offboarding `T` by its assignments, relation tuples and policies: afterwards every check
under `T` succeeds and denies, and every check under another tenant returns what it returned
before; for an engine with no cache, the default evaluator, and no walker or the BFS walker. -/
theorem offboard_check {P : Prims} (e : Engine) (hc : e.cache = none) (hev : e.evaluator = defaultEvaluator P)
    (hw : ∀ gw, e.graphWalker = some gw → ∃ d, gw = defaultGraphWalker d) (S : MemoryStore) (T : String)
    (ctx : RequestContext) (now elapsed : Int) (victim : Nat) (req : CheckRequest) :
    ((scopeFromContext ctx).tenantID = T →
        ∃ r, ({ e with store := (((S.deleteAssignmentsByTenant T).deleteRelationsByTenant T).deletePoliciesByTenant
          T).toStore }.check ctx now elapsed victim req).1 = .ok r ∧ r.allowed = false) ∧
      ((scopeFromContext ctx).tenantID ≠ T →
        ({ e with store := (((S.deleteAssignmentsByTenant T).deleteRelationsByTenant T).deletePoliciesByTenant
          T).toStore }.check ctx now elapsed victim req).1 =
          ({ e with store := S.toStore }.check ctx now elapsed victim req).1) := by
  constructor
  · intro hT
    refine check_of_tenantEmpty e hc hev hw _ ctx ⟨?_, ?_, ?_⟩ now elapsed victim req
    all_goals
      intro x hx
      simpa [hT] using (List.mem_filter.1 hx).2
  · intro hT
    have h := @MemoryStore.agreeOn (((S.deleteAssignmentsByTenant T).deleteRelationsByTenant T).deletePoliciesByTenant T)
      S _ (filter_ne_tenant (fun a : Assignment => a.tenantID) hT _) (filter_ne_tenant (fun t : Tuple => t.tenantID) hT _)
      (filter_ne_tenant (fun p : Policy => p.tenantID) hT _) rfl rfl rfl
    exact e.check_congr hw ctx h now elapsed victim req

theorem offboard_check_grant :
    ((scopeFromContext (withTenant {} "app1" "t1")).tenantID = "t1" →
        ∃ r, ({ storeEngine (grantStore "t1" true none).toStore none with
          store := ((((grantStore "t1" true none).deleteAssignmentsByTenant "t1").deleteRelationsByTenant
            "t1").deletePoliciesByTenant "t1").toStore }.check (withTenant {} "app1" "t1") 0 0 0
              (readFrom "10.0.1.5")).1 = .ok r ∧ r.allowed = false) ∧
      ((scopeFromContext (withTenant {} "app1" "t1")).tenantID ≠ "t1" →
        ({ storeEngine (grantStore "t1" true none).toStore none with
          store := ((((grantStore "t1" true none).deleteAssignmentsByTenant "t1").deleteRelationsByTenant
            "t1").deletePoliciesByTenant "t1").toStore }.check (withTenant {} "app1" "t1") 0 0 0
              (readFrom "10.0.1.5")).1 =
          ({ storeEngine (grantStore "t1" true none).toStore none with
            store := (grantStore "t1" true none).toStore }.check (withTenant {} "app1" "t1") 0 0 0
              (readFrom "10.0.1.5")).1) :=
  offboard_check (P := .textOnly) (storeEngine (grantStore "t1" true none).toStore none) rfl rfl
    (fun _ h => ⟨10, (Option.some.inj h).symm⟩) (grantStore "t1" true none) "t1" (withTenant {} "app1" "t1")
    0 0 0 (readFrom "10.0.1.5")

end Warden
