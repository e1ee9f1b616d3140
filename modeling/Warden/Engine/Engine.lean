import Warden.Abac.Evaluator
import Warden.GraphWalker
import Warden.Cache.Memory

/-! # The engine, its configuration and its options

`NewEngine` starts from the default evaluator, a BFS walker of depth 10 and the default
configuration, applies the options, and refuses an engine without a store. A positive
`MaxGraphDepth` then replaces the walker, whichever one the options chose.

The tenant of a check comes from its context: a Forge scope when there is one, else the
values `WithTenant` stored.

## Implementation notes

The plugin registry and the logger do not take part in a decision and are left out. The
engine's cache is the state of a `cache.Memory`, so an engine with a cache is a state
machine whose state changes with every check.
-/

namespace Warden

/-- `Config`. `CacheTTL` is read by no code the engine runs. -/
structure Config where
  maxGraphDepth : Int
  enableRBAC : Option Bool
  enableABAC : Option Bool
  enableReBAC : Option Bool
  deriving DecidableEq, Repr

/-- `DefaultConfig()`. -/
def defaultConfig : Config := ⟨10, some true, some true, some true⟩

namespace Config

/-- `c.rbacEnabled()`: an unset switch is on. -/
def rbacEnabled (c : Config) : Bool := c.enableRBAC.getD true

/-- `c.abacEnabled()`. -/
def abacEnabled (c : Config) : Bool := c.enableABAC.getD true

/-- `c.rebacEnabled()`. -/
def rebacEnabled (c : Config) : Bool := c.enableReBAC.getD true

end Config

/-- The `Evaluator` interface. -/
structure Evaluator where
  evaluate : List Policy → CheckRequest → Except GoError (Option CheckResult)

/-- `DefaultEvaluator()`, the condition evaluator. -/
def defaultEvaluator (P : Prims) : Evaluator := ⟨evaluate P⟩

/-- `tenantScope`. -/
structure TenantScope where
  appID : String
  tenantID : String
  deriving DecidableEq, Repr

/-- What `scopeFromContext` reads of a `context.Context`: the Forge scope's `AppID()` and
`OrgID()`, and the values `WithTenant` stores (`none` when absent or not a string). -/
structure RequestContext where
  forgeScope : Option (String × String) := none
  appID : Option String := none
  tenantID : Option String := none
  deriving DecidableEq, Repr

/-- `WithTenant(ctx, appID, tenantID)`. -/
def withTenant (ctx : RequestContext) (appID tenantID : String) : RequestContext :=
  { ctx with appID := some appID, tenantID := some tenantID }

/-- `scopeFromContext(ctx)`: the Forge scope first, then the standalone values. -/
def scopeFromContext (ctx : RequestContext) : TenantScope :=
  match ctx.forgeScope with
  | some (appID, orgID) => ⟨appID, orgID⟩
  | none => ⟨ctx.appID.getD "", ctx.tenantID.getD ""⟩

/-- `Engine`, as `NewEngine` returns it: the store is always set. -/
structure Engine where
  store : Store
  evaluator : Evaluator
  graphWalker : Option GraphWalker
  cache : Option Memory
  config : Config

/-- The engine while `NewEngine` applies its options: the store may still be missing. -/
structure EngineBuilder where
  store : Option Store
  evaluator : Evaluator
  graphWalker : Option GraphWalker
  cache : Option Memory
  config : Config

/-- `WithStore(s)`. -/
def withStore (s : Store) (b : EngineBuilder) : EngineBuilder := { b with store := some s }

/-- `WithEvaluator(ev)`. -/
def withEvaluator (ev : Evaluator) (b : EngineBuilder) : EngineBuilder := { b with evaluator := ev }

/-- `WithGraphWalker(gw)`; `none` is a nil walker. -/
def withGraphWalker (gw : Option GraphWalker) (b : EngineBuilder) : EngineBuilder :=
  { b with graphWalker := gw }

/-- `WithCache(c)` with a `cache.Memory`. -/
def withCache (c : Memory) (b : EngineBuilder) : EngineBuilder := { b with cache := some c }

/-- `WithConfig(c)`. -/
def withConfig (c : Config) (b : EngineBuilder) : EngineBuilder := { b with config := c }

/-- `NewEngine(opts...)`. -/
def newEngine (P : Prims) (opts : List (EngineBuilder → EngineBuilder)) : Except GoError Engine :=
  let b := opts.foldl (fun b opt => opt b)
    ⟨none, defaultEvaluator P, some (defaultGraphWalker 10), none, defaultConfig⟩
  match b.store with
  | none => .error (.new "warden: store is required")
  | some s =>
      .ok ⟨s, b.evaluator,
        if b.config.maxGraphDepth > 0 then some (defaultGraphWalker b.config.maxGraphDepth)
        else b.graphWalker,
        b.cache, b.config⟩

end Warden
