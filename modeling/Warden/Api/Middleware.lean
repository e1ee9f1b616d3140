import Warden.Engine.Check

/-! # The authorization middleware

`Require`, `RequireAny` and `RequireAll` wrap a Forge handler. Each resolves the subject of
the request (the Forge user, else `unknown:anonymous`), asks the engine, and either calls the
next handler or answers 403 with `{"error": "access denied"}`. The checks `RequireAny` and
`RequireAll` are configured with are made with the resolved subject in place of their own.

With no cache, `RequireAll` passes exactly when every check allows and `RequireAny` exactly
when one does, an engine error counting as a denial for both (`requireAll_requireAny`). So
an empty `RequireAny` denies every request, and an empty `RequireAll` admits every one.

## Implementation notes

What a middleware reads of a request is an `Incoming`: its context, the user ID Forge holds
for it, its path parameter `id`, and the clock of its `i`-th engine call. `Gate.next` stands
for calling the next handler, which is left out.
-/

namespace Warden

namespace Middleware

/-- What a middleware reads of a request. -/
structure Incoming where
  ctx : RequestContext
  userID : String
  id : String
  tick : Nat → Int × Int × Nat

/-- What a middleware does with a request: call the next handler, or `denyResponse`. -/
inductive Gate where
  | next
  | deny
  deriving DecidableEq, Repr

/-- `SubjectUser`. -/
def subjectUser : String := "user"

/-- `resolveSubject(ctx)`: the Forge user ID when set, else `unknown:anonymous`. -/
def resolveSubject (userID : String) : Subject :=
  if userID ≠ "" then ⟨subjectUser, userID, []⟩ else ⟨"unknown", "anonymous", []⟩

/-- `eng.Enforce` as the `i`-th engine call of a middleware: the next handler when it succeeds. -/
def enforceAt (e : Engine) (r : Incoming) (i : Nat) (req : CheckRequest) : Gate × Engine :=
  match e.enforce r.ctx (r.tick i).1 (r.tick i).2.1 (r.tick i).2.2 req with
  | (.error _, e) => (.deny, e)
  | (.ok (), e) => (.next, e)

/-- `Require(eng, action, resourceType)`, on the resource the path's `id` names. -/
def require (e : Engine) (action resourceType : String) (r : Incoming) : Gate × Engine :=
  enforceAt e r 0 { subject := resolveSubject r.userID, action := ⟨action⟩, resource := ⟨resourceType, r.id, []⟩ }

/-- The loop of `RequireAny` from its `i`-th check: the first check that succeeds and allows
passes; an error goes on to the next check. -/
def requireAnyLoop (r : Incoming) (subject : Subject) : Engine → Nat → List CheckRequest → Gate × Engine
  | e, _, [] => (.deny, e)
  | e, i, c :: cs =>
      match e.check r.ctx (r.tick i).1 (r.tick i).2.1 (r.tick i).2.2 { c with subject := subject } with
      | (.ok result, e) => if result.allowed then (.next, e) else requireAnyLoop r subject e (i + 1) cs
      | (.error _, e) => requireAnyLoop r subject e (i + 1) cs

/-- `RequireAny(eng, checks...)`. -/
def requireAny (e : Engine) (checks : List CheckRequest) (r : Incoming) : Gate × Engine :=
  requireAnyLoop r (resolveSubject r.userID) e 0 checks

/-- The loop of `RequireAll` from its `i`-th check: the first failing `Enforce` denies. -/
def requireAllLoop (r : Incoming) (subject : Subject) : Engine → Nat → List CheckRequest → Gate × Engine
  | e, _, [] => (.next, e)
  | e, i, c :: cs =>
      match enforceAt e r i { c with subject := subject } with
      | (.deny, e) => (.deny, e)
      | (.next, e) => requireAllLoop r subject e (i + 1) cs

/-- `RequireAll(eng, checks...)`. -/
def requireAll (e : Engine) (checks : List CheckRequest) (r : Incoming) : Gate × Engine :=
  requireAllLoop r (resolveSubject r.userID) e 0 checks

/-- Whether the `i`-th engine call of a middleware succeeds and allows `req`. -/
def allowsAt (e : Engine) (r : Incoming) (i : Nat) (req : CheckRequest) : Bool :=
  match (e.check r.ctx (r.tick i).1 (r.tick i).2.1 (r.tick i).2.2 req).1 with
  | .ok result => result.allowed
  | .error _ => false

/-- A gate of `Enforce` passes exactly when `Enforce` succeeds, and leaves the engine it leaves. -/
theorem enforceAt_eq (e : Engine) (r : Incoming) (i : Nat) (req : CheckRequest) :
    ((enforceAt e r i req).1 = .next ↔ (e.enforce r.ctx (r.tick i).1 (r.tick i).2.1 (r.tick i).2.2 req).1 = .ok ()) ∧
      (enforceAt e r i req).2 = (e.enforce r.ctx (r.tick i).1 (r.tick i).2.1 (r.tick i).2.2 req).2 := by
  unfold enforceAt
  rcases e.enforce r.ctx (r.tick i).1 (r.tick i).2.1 (r.tick i).2.2 req with ⟨_ | _, e'⟩
  · exact ⟨iff_of_false (fun h => nomatch h) (fun h => nomatch h), rfl⟩
  · exact ⟨iff_of_true rfl rfl, rfl⟩

/-- `Enforce` passes exactly when the check allows. -/
theorem enforceAt_fst (e : Engine) (r : Incoming) (i : Nat) (req : CheckRequest) :
    (enforceAt e r i req).1 = .next ↔ allowsAt e r i req = true := by
  rw [(enforceAt_eq e r i req).1, (Engine.enforce_spec e _ _ _ _ req).2.1]
  unfold allowsAt
  cases (e.check r.ctx (r.tick i).1 (r.tick i).2.1 (r.tick i).2.2 req).1 <;> simp

/-! ### The gates of an engine with no cache -/

section Uncached

variable {e : Engine} (hc : e.cache = none) (r : Incoming)
include hc

theorem check_snd_uncached (ctx : RequestContext) (now elapsed : Int) (victim : Nat) (req : CheckRequest) :
    (e.check ctx now elapsed victim req).2 = e := by
  simp only [Engine.check, hc]

theorem enforceAt_snd (i : Nat) (req : CheckRequest) : (enforceAt e r i req).2 = e := by
  rw [(enforceAt_eq e r i req).2, (Engine.enforce_spec e _ _ _ _ req).1, check_snd_uncached hc]

theorem requireAllLoop_fst (s : Subject) (i : Nat) (cs : List CheckRequest) :
    (requireAllLoop r s e i cs).1 = .next ↔ ∀ p ∈ cs.enumFrom i, allowsAt e r p.1 { p.2 with subject := s } = true := by
  induction cs generalizing i with
  | nil => exact iff_of_true rfl fun _ h => nomatch h
  | cons c cs ih =>
      rw [List.enumFrom_cons, List.forall_mem_cons, ← enforceAt_fst, ← ih (i + 1)]
      have hs := enforceAt_snd hc r i { c with subject := s }
      dsimp only [requireAllLoop]
      rcases h : enforceAt e r i { c with subject := s } with ⟨_ | _, e'⟩ <;> rw [h] at hs <;>
        obtain rfl : e' = e := hs
      · exact ⟨fun h' => ⟨rfl, h'⟩, fun h' => h'.2⟩
      · exact iff_of_false (fun h' => nomatch h') fun h' => nomatch h'.1

theorem requireAnyLoop_fst (s : Subject) (i : Nat) (cs : List CheckRequest) :
    (requireAnyLoop r s e i cs).1 = .next ↔ ∃ p ∈ cs.enumFrom i, allowsAt e r p.1 { p.2 with subject := s } = true := by
  induction cs generalizing i with
  | nil => exact iff_of_false (fun h => nomatch h) fun ⟨_, h, _⟩ => nomatch h
  | cons c cs ih =>
      rw [List.enumFrom_cons]
      simp only [List.mem_cons, exists_eq_or_imp]
      rw [← ih (i + 1)]
      have hs := check_snd_uncached hc r.ctx (r.tick i).1 (r.tick i).2.1 (r.tick i).2.2 { c with subject := s }
      dsimp only [requireAnyLoop, allowsAt]
      rcases h : e.check r.ctx (r.tick i).1 (r.tick i).2.1 (r.tick i).2.2 { c with subject := s } with
        ⟨_ | result, e'⟩ <;> rw [h] at hs <;> obtain rfl : e' = e := hs
      · simp only [Bool.false_eq_true, false_or]
      · by_cases ha : result.allowed <;> simp [ha]

end Uncached

/-- With no cache, `RequireAll` calls the next handler exactly when every check, with the
resolved subject and its own clock, succeeds and allows, and `RequireAny` exactly when one does;
an engine error counts as a denial for both. -/
theorem requireAll_requireAny (e : Engine) (hc : e.cache = none) (checks : List CheckRequest) (r : Incoming) :
    ((requireAll e checks r).1 = .next ↔
        ∀ p ∈ checks.enumFrom 0, allowsAt e r p.1 { p.2 with subject := resolveSubject r.userID } = true) ∧
      ((requireAny e checks r).1 = .next ↔
        ∃ p ∈ checks.enumFrom 0, allowsAt e r p.1 { p.2 with subject := resolveSubject r.userID } = true) :=
  ⟨requireAllLoop_fst hc r _ 0 checks, requireAnyLoop_fst hc r _ 0 checks⟩

theorem requireAll_requireAny_read :
    ((requireAll (storeEngine MemoryStore.new.toStore none) [readFrom "10.0.1.5"] (⟨withTenant {} "app1" "t1", "u1", "d1", fun _ => (0, 0, 0)⟩ : Incoming)).1 = .next ↔
        ∀ p ∈ [readFrom "10.0.1.5"].enumFrom 0,
          allowsAt (storeEngine MemoryStore.new.toStore none) (⟨withTenant {} "app1" "t1", "u1", "d1", fun _ => (0, 0, 0)⟩ : Incoming) p.1 { p.2 with subject := resolveSubject (⟨withTenant {} "app1" "t1", "u1", "d1", fun _ => (0, 0, 0)⟩ : Incoming).userID } = true) ∧
      ((requireAny (storeEngine MemoryStore.new.toStore none) [readFrom "10.0.1.5"] (⟨withTenant {} "app1" "t1", "u1", "d1", fun _ => (0, 0, 0)⟩ : Incoming)).1 = .next ↔
        ∃ p ∈ [readFrom "10.0.1.5"].enumFrom 0,
          allowsAt (storeEngine MemoryStore.new.toStore none) (⟨withTenant {} "app1" "t1", "u1", "d1", fun _ => (0, 0, 0)⟩ : Incoming) p.1 { p.2 with subject := resolveSubject (⟨withTenant {} "app1" "t1", "u1", "d1", fun _ => (0, 0, 0)⟩ : Incoming).userID } = true) :=
  requireAll_requireAny (storeEngine MemoryStore.new.toStore none) rfl [readFrom "10.0.1.5"] (⟨withTenant {} "app1" "t1", "u1", "d1", fun _ => (0, 0, 0)⟩ : Incoming)

end Middleware

end Warden
