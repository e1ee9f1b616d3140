import Warden.Engine.Rbac
import Warden.Store.Memory

/-! # `Engine.Check`

A check reads the tenant from the context, answers from the cache when it can, and
otherwise runs the enabled models in the order RBAC, ReBAC, ABAC, stopping at the first
error. `mergeDecisions` then lets an explicit ABAC deny win, then any allow, then the first
result with a reason. A computed result is stored in the cache.

The main results here are the deny-overrides law: with the default evaluator and ABAC on, an
applicable deny policy makes the check deny explicitly, or fail, whatever RBAC and ReBAC
conclude (`check_deny_overrides`); and the decision law: a check allows exactly when ABAC
does not deny explicitly and some enabled model allows (`check_allowed_iff`). `Enforce`
agrees with `Check` (`Engine.enforce_spec`).

## Implementation notes

`time.Now()` is the argument `now` and `time.Since(start)` the argument `elapsed`; `victim`
names the entry the cache's `evictOne` would remove. The hooks of the plugin registry are
left out.
-/

namespace Warden

/-- `Engine.evaluateReBAC(ctx, scope, req)`: a direct tuple, then the graph walker, whose
depth error counts as no path. -/
def evaluateReBAC (store : Store) (graphWalker : Option GraphWalker) (tenantID : String)
    (req : CheckRequest) : Except GoError CheckResult :=
  let deny : CheckResult := { decision := decisionDenyRelation, reason := "no relation found" }
  match store.checkDirectRelation tenantID req.resource.type req.resource.id req.action.name
      req.subject.kind req.subject.id with
  | .error err => .error err
  | .ok true =>
      .ok { allowed := true, decision := decisionAllow,
            matchedBy := [{ source := "rebac", detail := "direct relation" }] }
  | .ok false =>
      match graphWalker with
      | none => .ok deny
      | some gw =>
          let w := gw.walk store tenantID req
          match w.err with
          | some err =>
              if !err.is errGraphDepthExceeded then .error err
              else if w.allowed then
                .ok { allowed := true, decision := decisionAllow,
                      matchedBy := [{ source := "rebac", detail := "transitive: " ++ w.path }] }
              else .ok deny
          | none =>
              if w.allowed then
                .ok { allowed := true, decision := decisionAllow,
                      matchedBy := [{ source := "rebac", detail := "transitive: " ++ w.path }] }
              else .ok deny

/-- `Engine.evaluateABAC(ctx, scope, req)`. -/
def evaluateABAC (store : Store) (evaluator : Evaluator) (tenantID : String) (req : CheckRequest) :
    Except GoError (Option CheckResult) :=
  match store.listActivePolicies tenantID with
  | .error err => .error err
  | .ok policies => evaluator.evaluate policies req

/-- `Engine.mergeDecisions(rbac, rebac, abac)`: explicit deny > allow > default deny. -/
def mergeDecisions (rbac rebac abac : Option CheckResult) : CheckResult :=
  let results := [rbac, rebac, abac].reduceOption
  match abac with
  | some a =>
      if a.decision = decisionDenyExplicit then a
      else mergeRest results
  | none => mergeRest results
where
  /-- The first allow, else the first result with a reason, else the default deny. -/
  mergeRest (results : List CheckResult) : CheckResult :=
    match results.find? (·.allowed) with
    | some r => r
    | none =>
        match results.find? (·.reason ≠ "") with
        | some r => r
        | none => { decision := decisionDenyDefault, reason := "no matching allow rule" }

/-- One model's step of `Check`: `nil` when disabled, its error wrapped by `label`. -/
def stage (enabled : Bool) (label : String) (run : Except GoError (Option CheckResult)) :
    Except GoError (Option CheckResult) :=
  if enabled then
    match run with
    | .error err => .error (.wrap label err "")
    | .ok r => .ok r
  else .ok none

namespace Engine

/-- Steps 2 to 5 of `Engine.Check`: the enabled models in order, then the merge. -/
def evaluateAll (e : Engine) (scope : TenantScope) (req : CheckRequest) : Except GoError CheckResult :=
  match stage e.config.rbacEnabled "warden rbac: "
      ((evaluateRBAC e.store scope.tenantID req).map some) with
  | .error err => .error err
  | .ok rbac =>
      match stage e.config.rebacEnabled "warden rebac: "
          ((evaluateReBAC e.store e.graphWalker scope.tenantID req).map some) with
      | .error err => .error err
      | .ok rebac =>
          match stage e.config.abacEnabled "warden abac: "
              (evaluateABAC e.store e.evaluator scope.tenantID req) with
          | .error err => .error err
          | .ok abac => .ok (mergeDecisions rbac rebac abac)

/-- `Engine.Check(ctx, req)`: the result, and the engine with its cache after the call. -/
def check (e : Engine) (ctx : RequestContext) (now elapsed : Int) (victim : Nat)
    (req : CheckRequest) : Except GoError CheckResult × Engine :=
  let scope := scopeFromContext ctx
  match e.cache with
  | none => ((e.evaluateAll scope req).map ({ · with evalTimeNs := elapsed }), e)
  | some m =>
      match m.get now scope.tenantID req with
      | (some cached, m) => (.ok { cached with evalTimeNs := elapsed }, { e with cache := some m })
      | (none, m) =>
          match e.evaluateAll scope req with
          | .error err => (.error err, { e with cache := some m })
          | .ok result =>
              let result := { result with evalTimeNs := elapsed }
              (.ok result, { e with cache := some (m.set now victim scope.tenantID req result) })

/-- The answer of `Check`: the cached result on a hit, else the computed one. -/
theorem check_fst (e : Engine) (ctx : RequestContext) (now elapsed : Int) (victim : Nat)
    (req : CheckRequest) :
    (e.check ctx now elapsed victim req).1 =
      match e.cache.bind fun m => (m.get now (scopeFromContext ctx).tenantID req).1 with
      | some cached => .ok { cached with evalTimeNs := elapsed }
      | none => (e.evaluateAll (scopeFromContext ctx) req).map ({ · with evalTimeNs := elapsed }) := by
  unfold check
  cases hc : e.cache with
  | none => rfl
  | some m =>
      simp only [Option.some_bind]
      rcases hg : m.get now (scopeFromContext ctx).tenantID req with ⟨_ | cached, m'⟩
      · cases e.evaluateAll (scopeFromContext ctx) req <;> rfl
      · rfl

theorem check_uncached {e : Engine} (h : e.cache = none) (ctx : RequestContext) (now elapsed : Int)
    (victim : Nat) (req : CheckRequest) :
    (e.check ctx now elapsed victim req).1 =
      (e.evaluateAll (scopeFromContext ctx) req).map ({ · with evalTimeNs := elapsed }) := by
  simp [Engine.check, h]

/-- `Engine.Enforce(ctx, req)`: an error unless the check allows. -/
def enforce (e : Engine) (ctx : RequestContext) (now elapsed : Int) (victim : Nat)
    (req : CheckRequest) : Except GoError Unit × Engine :=
  match e.check ctx now elapsed victim req with
  | (.error err, e) => (.error (.wrap "warden check: " err ""), e)
  | (.ok r, e) =>
      if r.allowed then (.ok (), e)
      else (.error (.wrap "" errAccessDenied (": " ++ r.decision ++ " — " ++ r.reason)), e)

/-- `Enforce` leaves the engine as `Check` does, succeeds exactly when `Check` allows, and on
a denial fails with an error that `errors.Is` matches to `ErrAccessDenied`. -/
theorem enforce_spec (e : Engine) (ctx : RequestContext) (now elapsed : Int) (victim : Nat)
    (req : CheckRequest) :
    (e.enforce ctx now elapsed victim req).2 = (e.check ctx now elapsed victim req).2 ∧
    ((e.enforce ctx now elapsed victim req).1 = .ok () ↔
      ∃ r, (e.check ctx now elapsed victim req).1 = .ok r ∧ r.allowed = true) ∧
    ∀ r, (e.check ctx now elapsed victim req).1 = .ok r → r.allowed = false →
      ∃ err, (e.enforce ctx now elapsed victim req).1 = .error err ∧ err.is errAccessDenied = true := by
  unfold enforce
  rcases e.check ctx now elapsed victim req with ⟨_ | r, e'⟩
  · simp
  · cases hr : r.allowed <;> simp [hr, GoError.is, errAccessDenied]

/-- `Engine.CanI(ctx, subjectKind, subjectID, action, resourceType, resourceID)`. -/
def canI (e : Engine) (ctx : RequestContext) (now elapsed : Int) (victim : Nat)
    (subjectKind subjectID action resourceType resourceID : String) : Except GoError Bool × Engine :=
  let (r, e) := e.check ctx now elapsed victim
    { subject := ⟨subjectKind, subjectID, []⟩, action := ⟨action⟩,
      resource := ⟨resourceType, resourceID, []⟩ }
  (r.map (·.allowed), e)

end Engine

/-- The engine `NewEngine(WithStore(s))` builds, here with the given cache. -/
def storeEngine (s : Store) (cache : Option Memory) : Engine :=
  ⟨s, defaultEvaluator .textOnly, some (defaultGraphWalker 10), cache, defaultConfig⟩

theorem newEngine_withStore (s : Store) :
    newEngine .textOnly [withStore s] = .ok (storeEngine s none) := rfl

/-- On a memory store without relation tuples, the BFS walker finds nothing. -/
theorem walk_of_no_relations {S : MemoryStore} (h : S.relations = []) (maxDepth : Int)
    (tenantID : String) (req : CheckRequest) :
    (defaultGraphWalker maxDepth).walk S.toStore tenantID req = ⟨false, "", none⟩ :=
  bfsWalk_of_no_tuples _ _ _ _ (by simp [MemoryStore.toStore, MemoryStore.listRelationSubjects, h])

theorem mergeDecisions_deny {rbac rebac : Option CheckResult} {a : CheckResult}
    (h : a.decision = decisionDenyExplicit) : mergeDecisions rbac rebac (some a) = a := by
  simp [mergeDecisions, h]

theorem stage_ok {enabled : Bool} {label : String} {run : Except GoError (Option CheckResult)}
    {r : Option CheckResult} (h : stage enabled label run = .ok r) :
    (enabled = true ∧ run = .ok r) ∨ (enabled = false ∧ r = none) := by
  unfold stage at h
  split at h
  · split at h
    · cases h
    · cases h
      exact .inl ⟨‹_›, rfl⟩
  · rename_i hne
    cases h
    exact .inr ⟨by simpa using hne, rfl⟩

/-- With ABAC on, `evaluateAll` fails, or merges the ABAC result with some RBAC and ReBAC
results. -/
theorem evaluateAll_cases {e : Engine} (hen : e.config.abacEnabled = true) (scope : TenantScope)
    (req : CheckRequest) :
    (∃ err, e.evaluateAll scope req = .error err) ∨
      ∃ abac, evaluateABAC e.store e.evaluator scope.tenantID req = .ok abac ∧
        ∃ rbac rebac, e.evaluateAll scope req = .ok (mergeDecisions rbac rebac abac) := by
  unfold Engine.evaluateAll
  split
  · exact .inl ⟨_, rfl⟩
  next rbac _ =>
    split
    · exact .inl ⟨_, rfl⟩
    next rebac _ =>
      cases hab : evaluateABAC e.store e.evaluator scope.tenantID req with
      | error err => exact .inl ⟨.wrap "warden abac: " err "", by simp only [stage, hen, hab, if_true]⟩
      | ok abac => exact .inr ⟨abac, rfl, rbac, rebac, by simp only [stage, hen, hab, if_true]⟩

theorem mergeRest_allowed (results : List CheckResult) :
    (mergeDecisions.mergeRest results).allowed = results.any (·.allowed) := by
  unfold mergeDecisions.mergeRest
  split
  · rename_i r hr
    exact (List.find?_some hr).trans
      (List.any_eq_true.2 ⟨r, List.mem_of_find?_eq_some hr, List.find?_some hr⟩).symm
  · rename_i hr
    have hno : ∀ x ∈ results, x.allowed = false := by simpa using List.find?_eq_none.1 hr
    have hany : results.any (·.allowed) = false := by simpa using hno
    rw [hany]
    split
    · rename_i r hr'
      exact hno r (List.mem_of_find?_eq_some hr')
    · rfl

/-- When ABAC does not deny explicitly, the merge allows exactly when some model allows. -/
theorem mergeDecisions_allowed {rbac rebac abac : Option CheckResult}
    (h : ∀ a, abac = some a → a.decision ≠ decisionDenyExplicit) :
    (mergeDecisions rbac rebac abac).allowed =
      (rbac.any (·.allowed) || rebac.any (·.allowed) || abac.any (·.allowed)) := by
  have hrest : (mergeDecisions.mergeRest [rbac, rebac, abac].reduceOption).allowed =
      (rbac.any (·.allowed) || rebac.any (·.allowed) || abac.any (·.allowed)) := by
    rw [mergeRest_allowed]
    cases rbac <;> cases rebac <;> cases abac <;> simp [List.reduceOption, Bool.or_assoc]
  unfold mergeDecisions
  cases abac with
  | none => exact hrest
  | some a => simpa [h a rfl] using hrest

theorem evaluateAll_eq_ok {e : Engine} {scope : TenantScope} {req : CheckRequest} {m : CheckResult}
    (h : e.evaluateAll scope req = .ok m) :
    ∃ rbac rebac abac,
      stage e.config.rbacEnabled "warden rbac: " ((evaluateRBAC e.store scope.tenantID req).map some) =
        .ok rbac ∧
      stage e.config.rebacEnabled "warden rebac: "
        ((evaluateReBAC e.store e.graphWalker scope.tenantID req).map some) = .ok rebac ∧
      stage e.config.abacEnabled "warden abac: " (evaluateABAC e.store e.evaluator scope.tenantID req) =
        .ok abac ∧
      m = mergeDecisions rbac rebac abac := by
  unfold Engine.evaluateAll at h
  split at h
  · cases h
  · split at h
    · cases h
    · split at h
      · cases h
      · cases h
        exact ⟨_, _, _, ‹_›, ‹_›, ‹_›, rfl⟩

/-- Two runs of one stage under the same switch relate as their runs do. -/
theorem stage_rel {R : Option CheckResult → Option CheckResult → Prop} {enabled : Bool}
    {label : String} {run₁ run₂ : Except GoError (Option CheckResult)} {o₁ o₂ : Option CheckResult}
    (h₁ : stage enabled label run₁ = .ok o₁) (h₂ : stage enabled label run₂ = .ok o₂)
    (hnone : R none none) (hrun : run₁ = .ok o₁ → run₂ = .ok o₂ → R o₁ o₂) : R o₁ o₂ := by
  rcases stage_ok h₁ with ⟨rfl, hr₁⟩ | ⟨rfl, rfl⟩ <;> rcases stage_ok h₂ with ⟨he, hr₂⟩ | ⟨he, rfl⟩
  · exact hrun hr₁ hr₂
  · cases he
  · cases he
  · exact hnone

theorem map_some_eq_ok {ε α : Type} {x : Except ε α} {o : Option α} (h : x.map some = .ok o) :
    ∃ a, x = .ok a ∧ o = some a := by
  cases x with
  | error e => cases h
  | ok a => exact ⟨a, rfl, by cases h; rfl⟩

/-- Whether a stage gives a result with property `p`: only when enabled, and then exactly
when its run does. -/
theorem stage_some {enabled : Bool} {label : String} {run : Except GoError (Option CheckResult)}
    {o : Option CheckResult} (h : stage enabled label run = .ok o) (p : CheckResult → Prop) :
    (∃ a, o = some a ∧ p a) ↔ enabled = true ∧ ∃ a, run = .ok (some a) ∧ p a := by
  rcases stage_ok h with ⟨rfl, rfl⟩ | ⟨rfl, rfl⟩ <;> simp

theorem map_some_eq_ok_some {ε α : Type} {x : Except ε α} {a : α} :
    x.map some = .ok (some a) ↔ x = .ok a := by
  cases x <;> simp [Except.map]

variable {P : Prims}

/-- Deny overrides: with no cache, the default evaluator and ABAC on, a deny policy of the
tenant that applies to the request makes `Check` deny explicitly or fail, whatever RBAC
and ReBAC conclude. -/
theorem check_deny_overrides (e : Engine) (hc : e.cache = none)
    (hev : e.evaluator = defaultEvaluator P) (hen : e.config.abacEnabled = true)
    (ctx : RequestContext) (now elapsed : Int) (victim : Nat) (req : CheckRequest)
    (policies : List Policy)
    (hp : e.store.listActivePolicies (scopeFromContext ctx).tenantID = .ok policies)
    (pol : Policy) (hmem : pol ∈ policies) (ha : Applies P req pol) (hd : pol.effect = effectDeny) :
    (∃ err, (e.check ctx now elapsed victim req).1 = .error err) ∨
      ∃ r, (e.check ctx now elapsed victim req).1 = .ok r ∧ r.allowed = false ∧
        r.decision = decisionDenyExplicit := by
  have habac : evaluateABAC e.store e.evaluator (scopeFromContext ctx).tenantID req =
      evaluate P policies req := by
    simp only [evaluateABAC, hp, hev, defaultEvaluator]
  simp only [Engine.check, hc]
  rcases evaluateAll_cases hen (scopeFromContext ctx) req with
    ⟨err, h⟩ | ⟨abac, hab, rbac, rebac, h⟩
  · exact .inl ⟨err, by rw [h]; rfl⟩
  rw [habac] at hab
  rcases evaluate_deny_of_applies hmem ha hd with ⟨err, herr⟩ | ⟨a, ha', hal, had⟩
  · rw [herr] at hab
    cases hab
  · rw [ha'] at hab
    cases hab
    exact .inr ⟨{ a with evalTimeNs := elapsed }, by rw [h, mergeDecisions_deny had]; rfl, hal, had⟩

/-- The deny policy of the deny-overrides test, its IP range written as an equality. -/
def denyInternalPolicy : Policy :=
  { id := ⟨⟨"wpol", 2⟩, true⟩, tenantID := "t1", name := "deny-internal", effect := effectDeny,
    isActive := true, actions := ["*"], conditions := [⟨"context.ip", "eq", .str "10.0.1.5"⟩] }

/-- The policies of the deny-overrides test: allow every action, and deny-internal. -/
def denyOverridesPolicies : List Policy :=
  [{ id := ⟨⟨"wpol", 1⟩, true⟩, tenantID := "t1", name := "allow-all", effect := effectAllow,
     isActive := true, actions := ["*"] }, denyInternalPolicy]

/-- A memory store holding these policies and nothing else. -/
def denyOverridesStore : MemoryStore where
  roles := []
  permissions := []
  rolePermissions := []
  assignments := []
  relations := []
  policies := denyOverridesPolicies
  roles_nodup := List.nodup_nil
  permissions_nodup := List.nodup_nil
  rolePermissions_nodup := List.nodup_nil
  permissionSets_nodup := by simp
  assignments_nodup := List.nodup_nil
  relations_nodup := List.nodup_nil
  policies_nodup := by decide

/-- A read of `document:doc1` by `user:u1` from the address `ip`. -/
def readFrom (ip : String) : CheckRequest :=
  { subject := ⟨"user", "u1", []⟩, action := ⟨"read"⟩, resource := ⟨"document", "doc1", []⟩,
    context := [("ip", .str ip)] }

theorem check_deny_overrides_internal :
    (∃ err, ((storeEngine denyOverridesStore.toStore none).check (withTenant {} "app1" "t1") 0 0 0
        (readFrom "10.0.1.5")).1 = .error err) ∨
      ∃ r, ((storeEngine denyOverridesStore.toStore none).check (withTenant {} "app1" "t1") 0 0 0
        (readFrom "10.0.1.5")).1 = .ok r ∧ r.allowed = false ∧ r.decision = decisionDenyExplicit :=
  check_deny_overrides (P := .textOnly) (storeEngine denyOverridesStore.toStore none) rfl rfl rfl _ 0 0 0 _
    denyOverridesPolicies rfl denyInternalPolicy (by simp [denyOverridesPolicies])
    ⟨rfl, rfl, rfl, rfl, rfl⟩ rfl

theorem evaluateABAC_default_eq_ok {s : Store} {T : String} {req : CheckRequest}
    {o : Option CheckResult} (h : evaluateABAC s (defaultEvaluator P) T req = .ok o) :
    ∃ ps, evaluate P ps req = .ok o := by
  unfold evaluateABAC at h
  split at h
  · cases h
  · exact ⟨_, h⟩

/-- The decision law of `evaluateAll` with the default evaluator: it allows exactly when ABAC,
if enabled, does not deny explicitly, and some enabled model allows. -/
theorem evaluateAll_allowed_iff {e : Engine} (hev : e.evaluator = defaultEvaluator P)
    {scope : TenantScope} {req : CheckRequest} {m : CheckResult} (h : e.evaluateAll scope req = .ok m) :
    m.allowed = true ↔
      ¬ (e.config.abacEnabled = true ∧ ∃ d, evaluateABAC e.store e.evaluator scope.tenantID req =
          .ok (some d) ∧ d.decision = decisionDenyExplicit) ∧
      ((e.config.rbacEnabled = true ∧
          ∃ x, evaluateRBAC e.store scope.tenantID req = .ok x ∧ x.allowed = true) ∨
        (e.config.rebacEnabled = true ∧
          ∃ x, evaluateReBAC e.store e.graphWalker scope.tenantID req = .ok x ∧ x.allowed = true) ∨
        (e.config.abacEnabled = true ∧
          ∃ x, evaluateABAC e.store e.evaluator scope.tenantID req = .ok (some x) ∧ x.allowed = true)) := by
  obtain ⟨rb, rr, ra, h1, h2, h3, rfl⟩ := evaluateAll_eq_ok h
  have hany : ∀ o : Option CheckResult, o.any (·.allowed) = true ↔ ∃ a, o = some a ∧ a.allowed = true := by
    intro o
    cases o <;> simp
  have hB : (e.config.rbacEnabled = true ∧
      ∃ x, evaluateRBAC e.store scope.tenantID req = .ok x ∧ x.allowed = true) ↔
      rb.any (·.allowed) = true := by
    rw [hany, stage_some h1]
    simp only [map_some_eq_ok_some]
  have hR : (e.config.rebacEnabled = true ∧
      ∃ x, evaluateReBAC e.store e.graphWalker scope.tenantID req = .ok x ∧ x.allowed = true) ↔
      rr.any (·.allowed) = true := by
    rw [hany, stage_some h2]
    simp only [map_some_eq_ok_some]
  rw [hB, hR, ← stage_some h3, ← stage_some h3, ← hany]
  by_cases hnd : ∃ a, ra = some a ∧ a.decision = decisionDenyExplicit
  · obtain ⟨a, rfl, hd⟩ := hnd
    obtain ⟨-, a', hrun, rfl⟩ := (stage_some h3 (· = a)).1 ⟨a, rfl, rfl⟩
    obtain ⟨ps, hps⟩ := evaluateABAC_default_eq_ok (hev ▸ hrun)
    rw [mergeDecisions_deny hd, evaluate_denyExplicit hps hd]
    exact iff_of_false (by decide) fun h => h.1 ⟨a', rfl, hd⟩
  · rw [mergeDecisions_allowed fun a h hd => hnd ⟨a, h, hd⟩]
    simp only [Bool.or_eq_true, or_assoc, hnd, not_false_eq_true, true_and]

/-- With no cache and the default evaluator, `Check` allows exactly when ABAC, if enabled,
does not deny explicitly, and some enabled model allows. -/
theorem check_allowed_iff (e : Engine) (hc : e.cache = none) (hev : e.evaluator = defaultEvaluator P)
    (ctx : RequestContext) (now elapsed : Int) (victim : Nat) (req : CheckRequest) (r : CheckResult)
    (h : (e.check ctx now elapsed victim req).1 = .ok r) :
    r.allowed = true ↔
      ¬ (e.config.abacEnabled = true ∧ ∃ d, evaluateABAC e.store e.evaluator
          (scopeFromContext ctx).tenantID req = .ok (some d) ∧ d.decision = decisionDenyExplicit) ∧
      ((e.config.rbacEnabled = true ∧
          ∃ x, evaluateRBAC e.store (scopeFromContext ctx).tenantID req = .ok x ∧ x.allowed = true) ∨
        (e.config.rebacEnabled = true ∧ ∃ x, evaluateReBAC e.store e.graphWalker
          (scopeFromContext ctx).tenantID req = .ok x ∧ x.allowed = true) ∨
        (e.config.abacEnabled = true ∧ ∃ x, evaluateABAC e.store e.evaluator
          (scopeFromContext ctx).tenantID req = .ok (some x) ∧ x.allowed = true)) := by
  rw [Engine.check_uncached hc] at h
  cases hm : e.evaluateAll (scopeFromContext ctx) req with
  | error err => simp [hm, Except.map] at h
  | ok m =>
      simp only [hm, Except.map, Except.ok.injEq] at h
      subst h
      exact (evaluateAll_allowed_iff hev hm :)

theorem check_allowed_iff_allow_all :
    ∃ r, ((storeEngine denyOverridesStore.toStore none).check (withTenant {} "app1" "t1") 0 0 0
        (readFrom "203.0.113.1")).1 = .ok r ∧ r.allowed = true ∧
      (r.allowed = true ↔
        ¬ (defaultConfig.abacEnabled = true ∧ ∃ d, evaluateABAC denyOverridesStore.toStore
            (defaultEvaluator .textOnly) "t1" (readFrom "203.0.113.1") = .ok (some d) ∧
            d.decision = decisionDenyExplicit) ∧
        ((defaultConfig.rbacEnabled = true ∧ ∃ x, evaluateRBAC denyOverridesStore.toStore "t1"
            (readFrom "203.0.113.1") = .ok x ∧ x.allowed = true) ∨
          (defaultConfig.rebacEnabled = true ∧ ∃ x, evaluateReBAC denyOverridesStore.toStore
            (some (defaultGraphWalker 10)) "t1" (readFrom "203.0.113.1") = .ok x ∧ x.allowed = true) ∨
          (defaultConfig.abacEnabled = true ∧ ∃ x, evaluateABAC denyOverridesStore.toStore
            (defaultEvaluator .textOnly) "t1" (readFrom "203.0.113.1") = .ok (some x) ∧
            x.allowed = true))) := by
  obtain ⟨r, h, hr⟩ : ∃ r, ((storeEngine denyOverridesStore.toStore none).check
      (withTenant {} "app1" "t1") 0 0 0 (readFrom "203.0.113.1")).1 = .ok r ∧ r.allowed = true := by
    simp only [Engine.check, Engine.evaluateAll, evaluateReBAC, storeEngine,
      walk_of_no_relations (S := denyOverridesStore) rfl]
    exact ⟨_, rfl, by decide⟩
  exact ⟨r, h, hr, check_allowed_iff (P := .textOnly) _ rfl rfl _ 0 0 0 _ r h⟩

/-- An allow policy of tenant `t1` whose one subject entry names the role `admin`. -/
def adminOnlyPolicy : Policy :=
  { id := ⟨⟨"wpol", 3⟩, true⟩, tenantID := "t1", name := "admins-only", effect := effectAllow,
    isActive := true, subjects := [{ role := "admin" }] }

/-- A memory store holding `adminOnlyPolicy` and nothing else. -/
def adminOnlyStore : MemoryStore :=
  { MemoryStore.new with policies := [adminOnlyPolicy], policies_nodup := List.nodup_singleton _ }

/-- `user:u1` has no assignment in `adminOnlyStore` and no attribute, yet the policy for
admins lets it read. -/
theorem check_admin_policy_admits_roleless :
    adminOnlyStore.assignments = [] ∧ (readFrom "10.0.1.5").subject.attributes = [] ∧
      ∃ r, ((storeEngine adminOnlyStore.toStore none).check (withTenant {} "app1" "t1") 0 0 0
        (readFrom "10.0.1.5")).1 = .ok r ∧ r.allowed = true := by
  refine ⟨rfl, rfl, ?_⟩
  simp only [Engine.check, Engine.evaluateAll, evaluateReBAC, storeEngine,
    walk_of_no_relations (S := adminOnlyStore) rfl]
  exact ⟨_, rfl, by decide⟩

end Warden
