import Warden.Engine.Check

/-! # Checks through the result cache

An engine with a cache is a state machine: each `Check` may read the cache, and stores
what it computes. The cache key is the tenant and the six request fields, so a hit serves
a result computed for an earlier request that agrees on them, whatever its context and
attributes were.

`CacheSound` is the run invariant: every entry holds what the engine without cache
computes for some request already checked, under the entry's key. Along a run, a cached
engine therefore answers every request with the uncached engine's error on it, or with the
uncached verdict on an earlier request with the same key (`checkRun_cached`). When the key
determines the request along the run, a hit can only replay the request's own result, and the
cache changes no answer at all (`checkRun_cache_transparent`).
-/

namespace Warden

/-- One call of `Check` in a run: its clock, its duration, and the entry an eviction would
remove. -/
structure CheckCall where
  now : Int
  elapsed : Int
  victim : Nat
  req : CheckRequest

namespace Engine

/-- The results of a run of checks under one context, the cache carried from call to call. -/
def checkRun (e : Engine) (ctx : RequestContext) : List CheckCall → List (Except GoError CheckResult)
  | [] => []
  | c :: cs =>
      let step := e.check ctx c.now c.elapsed c.victim c.req
      step.1 :: step.2.checkRun ctx cs

@[simp] theorem evaluateAll_with_cache (e : Engine) (c : Option Memory) :
    ({ e with cache := c } : Engine).evaluateAll = e.evaluateAll := rfl

/-- Every cache entry holds, up to its `EvalTimeNs`, the result the engine computes without
cache for one of the requests `hist` under the entry's key. -/
def CacheSound (e : Engine) (scope : TenantScope) (hist : List CheckRequest) : Prop :=
  ∀ m, e.cache = some m → ∀ k en, (k, en) ∈ m.entries → ∃ req ∈ hist,
    cacheKey scope.tenantID req = k ∧ ∃ r, e.evaluateAll scope req = .ok r ∧
      en.result = { r with evalTimeNs := en.result.evalTimeNs }

/-- What a check answers: the uncached error on the request, or the uncached verdict on a
request of `hist` with the same key. -/
def Answers (e : Engine) (scope : TenantScope) (hist : List CheckRequest) (req : CheckRequest) :
    Except GoError CheckResult → Prop
  | .error err => e.evaluateAll scope req = .error err
  | .ok r => ∃ req' ∈ hist, cacheKey scope.tenantID req' = cacheKey scope.tenantID req ∧
      ∃ r', e.evaluateAll scope req' = .ok r' ∧ r'.allowed = r.allowed ∧ r'.decision = r.decision

theorem answers_computed {e : Engine} {scope : TenantScope} {hist : List CheckRequest}
    {req : CheckRequest} (hm : req ∈ hist) (elapsed : Int) :
    Answers e scope hist req ((e.evaluateAll scope req).map ({ · with evalTimeNs := elapsed })) := by
  cases h : e.evaluateAll scope req with
  | error err => exact h
  | ok r => exact ⟨req, hm, rfl, r, h, rfl, rfl⟩

theorem answers_mono {e : Engine} {scope : TenantScope} {hist hist' : List CheckRequest}
    {req : CheckRequest} {res : Except GoError CheckResult} (h : Answers e scope hist req res)
    (hsub : hist ⊆ hist') : Answers e scope hist' req res := by
  cases res with
  | error err => exact h
  | ok r =>
      obtain ⟨req', hm, hk⟩ := h
      exact ⟨req', hsub hm, hk⟩

theorem cacheSound_mono {e : Engine} {scope : TenantScope} {hist : List CheckRequest}
    (h : CacheSound e scope hist) (req : CheckRequest) : CacheSound e scope (req :: hist) := by
  intro m hm k en hen
  obtain ⟨req', hr, hk⟩ := h m hm k en hen
  exact ⟨req', List.mem_cons_of_mem _ hr, hk⟩

theorem cacheSound_subset {e : Engine} {scope : TenantScope} {hist : List CheckRequest} {m m' : Memory}
    (h : CacheSound e scope hist) (hm : e.cache = some m) (hsub : m'.entries ⊆ m.entries) :
    CacheSound { e with cache := some m' } scope hist := by
  intro m₀ hm₀ k en hen
  cases hm₀
  exact h m hm k en (hsub hen)

/-- One check answers from the invariant and keeps it, with the request added to the history. -/
theorem check_step {e : Engine} {ctx : RequestContext} {hist : List CheckRequest}
    (h : CacheSound e (scopeFromContext ctx) hist) (now elapsed : Int) (victim : Nat)
    (req : CheckRequest) :
    Answers e (scopeFromContext ctx) (req :: hist) req (e.check ctx now elapsed victim req).1 ∧
      CacheSound (e.check ctx now elapsed victim req).2 (scopeFromContext ctx) (req :: hist) ∧
      ∃ c, (e.check ctx now elapsed victim req).2 = { e with cache := c } := by
  set scope := scopeFromContext ctx
  cases hc : e.cache with
  | none =>
      simp only [check, hc]
      refine ⟨answers_computed (List.mem_cons_self _ _) elapsed, ?_, none, by simp [← hc]⟩
      intro m hm
      cases hc.symm.trans hm
  | some m =>
      have hsound := cacheSound_mono h req
      have hsub := Memory.get_entries_subset m now scope.tenantID req
      rcases hg : m.get now scope.tenantID req with ⟨_ | cached, m'⟩ <;> simp only [hg] at hsub
      · cases hr : e.evaluateAll scope req with
        | error err =>
            simp only [check, hc, hg, hr]
            exact ⟨hr, cacheSound_subset hsound hc hsub, _, rfl⟩
        | ok result =>
            simp only [check, hc, hg, hr]
            refine ⟨⟨req, List.mem_cons_self _ _, rfl, result, hr, rfl, rfl⟩, ?_, _, rfl⟩
            intro m₀ hm₀ k en hen
            cases hm₀
            rw [Memory.set_entries, mem_insertKey] at hen
            rcases hen with hen | ⟨hen, -⟩
            · obtain ⟨rfl, rfl⟩ := Prod.mk.inj hen
              exact ⟨req, List.mem_cons_self _ _, rfl, result, hr, rfl⟩
            · exact hsound m hc k en (hsub (Memory.makeRoom_subset m' now victim hen))
      · have hfst : (m.get now scope.tenantID req).1 = some cached := by rw [hg]
        obtain ⟨en, hen, -, rfl⟩ := Memory.get_fst hfst
        obtain ⟨req', hm', hk, r', hr', hres⟩ := hsound m hc _ en (mem_of_lookup_eq_some hen)
        simp only [check, hc, hg]
        exact ⟨⟨req', hm', hk, r', hr', (congrArg CheckResult.allowed hres).symm,
          (congrArg CheckResult.decision hres).symm⟩, cacheSound_subset hsound hc hsub, _, rfl⟩

/-- A successful check leaves its result in the cache: the cache after it answers the same
request of the same tenant with that result, up to the time taken, until an expiry that is not
before the check's clock when the time to live is not negative. -/
theorem check_cached_entry {e : Engine} {m : Memory} (hm : e.cache = some m) {ctx : RequestContext}
    {now elapsed : Int} {victim : Nat} {req : CheckRequest} {r : CheckResult}
    (h : (e.check ctx now elapsed victim req).1 = .ok r) :
    ∃ m' c expiry, (e.check ctx now elapsed victim req).2.cache = some m' ∧ r = { c with evalTimeNs := elapsed } ∧
      (0 ≤ m.ttl → now ≤ expiry) ∧
        ∀ now', now' ≤ expiry → m'.get now' (scopeFromContext ctx).tenantID req = (some c, m') := by
  set T := (scopeFromContext ctx).tenantID
  rcases hg : m.get now T req with ⟨_ | cached, m₁⟩
  · have httl : m₁.ttl = m.ttl := by rw [← Memory.get_ttl m now T req, hg]
    cases hr : e.evaluateAll (scopeFromContext ctx) req with
    | error err => simp only [check, hm, hg, hr] at h; cases h
    | ok result =>
        simp only [check, hm, hg, hr, Except.ok.injEq] at h ⊢
        exact ⟨_, { result with evalTimeNs := elapsed }, now + m₁.ttl, rfl, h.symm, fun _ => by omega,
          fun now' hle => Memory.get_set_self m₁ now victim T req _ hle⟩
  · obtain ⟨en, hen, hn, rfl⟩ := Memory.get_fst (by rw [hg] : (m.get now T req).1 = some cached)
    have hhit := Memory.get_of_lookup hen hn
    rw [hhit, Prod.mk.injEq] at hg
    obtain ⟨-, rfl⟩ := hg
    simp only [check, hm, hhit, Except.ok.injEq] at h ⊢
    exact ⟨_, _, en.expiresAt, rfl, h.symm, fun _ => hn, fun now' hle => Memory.get_of_lookup hen hle⟩

/-- Along a run, every answer of an engine whose cache is sound is the uncached error on its
request, or the uncached verdict on a request checked so far with the same key. -/
theorem checkRun_answers {e : Engine} {ctx : RequestContext} {hist : List CheckRequest}
    (h : CacheSound e (scopeFromContext ctx) hist) (calls : List CheckCall) (i : Nat)
    (res : Except GoError CheckResult) (hres : (e.checkRun ctx calls)[i]? = some res) :
    ∃ c, calls[i]? = some c ∧
      Answers e (scopeFromContext ctx) (hist ++ (calls.take (i + 1)).map (·.req)) c.req res := by
  induction calls generalizing e hist i with
  | nil => cases hres
  | cons c cs ih =>
      obtain ⟨hans, hsound, cache, he'⟩ := check_step h c.now c.elapsed c.victim c.req
      cases i with
      | zero =>
          simp only [checkRun, List.getElem?_cons_zero, Option.some.injEq] at hres
          subst hres
          exact ⟨c, List.getElem?_cons_zero, answers_mono hans (List.perm_append_singleton _ _).symm.subset⟩
      | succ i =>
          simp only [checkRun, List.getElem?_cons_succ] at hres
          rw [he'] at hres hsound
          obtain ⟨c', hc', hans'⟩ := ih hsound i hres
          exact ⟨c', List.getElem?_cons_succ.trans hc', answers_mono hans' List.perm_middle.symm.subset⟩

/-- A new cache holds nothing, so it is sound before any check. -/
theorem cacheSound_new (e : Engine) (scope : TenantScope) (ttl maxSize : Int) :
    CacheSound { e with cache := some (newMemory [withTTL ttl, withMaxSize maxSize]) } scope [] := by
  intro m hm k en hen
  cases hm
  simp [newMemory, withTTL, withMaxSize] at hen

/-- A check whose request is the only one of `hist` under its key answers as it does without
cache: a hit can only hold the result computed for that very request. -/
theorem check_transparent {e : Engine} {ctx : RequestContext} {hist : List CheckRequest}
    (h : CacheSound e (scopeFromContext ctx) hist) (now elapsed : Int) (victim : Nat) {req : CheckRequest}
    (hkey : ∀ req' ∈ hist, cacheKey (scopeFromContext ctx).tenantID req' =
      cacheKey (scopeFromContext ctx).tenantID req → req' = req) :
    (e.check ctx now elapsed victim req).1 = ({ e with cache := none }.check ctx now elapsed victim req).1 := by
  rw [check_fst, check_uncached rfl, evaluateAll_with_cache]
  cases hc : e.cache with
  | none => rfl
  | some m =>
      cases hg : (m.get now (scopeFromContext ctx).tenantID req).1 with
      | none => simp only [Option.some_bind, hg, evaluateAll_with_cache]
      | some cached =>
          obtain ⟨en, hen, -, rfl⟩ := Memory.get_fst hg
          obtain ⟨req', hm, hk, r, hr, hres⟩ := h m hc _ en (mem_of_lookup_eq_some hen)
          obtain rfl := hkey req' hm hk
          simp only [Option.some_bind, hg, evaluateAll_with_cache, hr, Except.map]
          rw [hres]

/-- Along a run in which two requests under one key are the same request, an engine whose
cache is sound answers every call as it does without cache. -/
theorem checkRun_transparent {e : Engine} {ctx : RequestContext} {hist : List CheckRequest}
    (h : CacheSound e (scopeFromContext ctx) hist) (calls : List CheckCall)
    (hkey : ∀ q ∈ hist ++ calls.map (·.req), ∀ q' ∈ hist ++ calls.map (·.req),
      cacheKey (scopeFromContext ctx).tenantID q = cacheKey (scopeFromContext ctx).tenantID q' → q = q') :
    e.checkRun ctx calls = { e with cache := none }.checkRun ctx calls := by
  induction calls generalizing e hist with
  | nil => rfl
  | cons c cs ih =>
      have hc : c.req ∈ hist ++ (c :: cs).map (·.req) := by simp
      obtain ⟨-, hsound, cache, he'⟩ := check_step h c.now c.elapsed c.victim c.req
      have hsub : c.req :: hist ++ cs.map (·.req) ⊆ hist ++ (c :: cs).map (·.req) := by
        intro q hq
        simp only [List.cons_append, List.mem_cons, List.mem_append, List.map_cons] at hq ⊢
        tauto
      simp only [checkRun]
      rw [check_transparent h _ _ _ fun q hq hk => hkey q (List.mem_append_left _ hq) _ hc hk]
      rw [he'] at hsound ⊢
      rw [ih hsound fun q hq q' hq' => hkey q (hsub hq) q' (hsub hq')]
      rfl

end Engine

/-- The cache changes no answer when its key determines the request: over every run in which
two calls under one cache key carry the same request, an engine with a `cache.Memory` of any
TTL and capacity answers every call exactly as the same engine without cache. -/
theorem checkRun_cache_transparent (e : Engine) (ttl maxSize : Int) (ctx : RequestContext)
    (calls : List CheckCall)
    (hkey : ∀ c ∈ calls, ∀ c' ∈ calls, cacheKey (scopeFromContext ctx).tenantID c.req =
      cacheKey (scopeFromContext ctx).tenantID c'.req → c.req = c'.req) :
    { e with cache := some (newMemory [withTTL ttl, withMaxSize maxSize]) }.checkRun ctx calls =
      { e with cache := none }.checkRun ctx calls := by
  refine Engine.checkRun_transparent (Engine.cacheSound_new e _ ttl maxSize) calls fun q hq q' hq' hk => ?_
  rw [List.nil_append, List.mem_map] at hq hq'
  obtain ⟨c, hc, rfl⟩ := hq
  obtain ⟨c', hc', rfl⟩ := hq'
  exact hkey c hc c' hc' hk

/-- One read checked twice, the second time from the cache. -/
theorem checkRun_cache_transparent_repeat :
    (∀ c ∈ ([⟨0, 0, 0, readFrom "10.0.1.5"⟩, ⟨1, 0, 0, readFrom "10.0.1.5"⟩] : List CheckCall),
      ∀ c' ∈ ([⟨0, 0, 0, readFrom "10.0.1.5"⟩, ⟨1, 0, 0, readFrom "10.0.1.5"⟩] : List CheckCall),
        cacheKey (scopeFromContext (withTenant {} "app1" "t1")).tenantID c.req =
          cacheKey (scopeFromContext (withTenant {} "app1" "t1")).tenantID c'.req → c.req = c'.req) ∧
      { storeEngine denyOverridesStore.toStore none with
          cache := some (newMemory [withTTL 60, withMaxSize 10]) }.checkRun (withTenant {} "app1" "t1")
          [⟨0, 0, 0, readFrom "10.0.1.5"⟩, ⟨1, 0, 0, readFrom "10.0.1.5"⟩] =
        { storeEngine denyOverridesStore.toStore none with cache := none }.checkRun (withTenant {} "app1" "t1")
          [⟨0, 0, 0, readFrom "10.0.1.5"⟩, ⟨1, 0, 0, readFrom "10.0.1.5"⟩] :=
  have hkey : ∀ c ∈ ([⟨0, 0, 0, readFrom "10.0.1.5"⟩, ⟨1, 0, 0, readFrom "10.0.1.5"⟩] : List CheckCall),
      ∀ c' ∈ ([⟨0, 0, 0, readFrom "10.0.1.5"⟩, ⟨1, 0, 0, readFrom "10.0.1.5"⟩] : List CheckCall),
        cacheKey (scopeFromContext (withTenant {} "app1" "t1")).tenantID c.req =
          cacheKey (scopeFromContext (withTenant {} "app1" "t1")).tenantID c'.req → c.req = c'.req := by
    intro c hc c' hc' _
    simp only [List.mem_cons, List.mem_singleton, List.not_mem_nil, or_false] at hc hc'
    rcases hc with rfl | rfl <;> rcases hc' with rfl | rfl <;> rfl
  ⟨hkey, checkRun_cache_transparent _ 60 10 _ _ hkey⟩

end Warden
