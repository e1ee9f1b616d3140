import Warden.Abac.Condition
import Warden.Matcher

/-! # ABAC policy evaluation

`conditionEvaluator.Evaluate` runs through the policies once. A policy applies when it is
active, its subject, action and resource filters match and its conditions hold. The loop
keeps the first applicable deny and the first applicable allow, and an error in any
applicable policy's conditions ends the evaluation.

The verdict therefore depends only on which policies are in the list: `evaluateLoop_error_iff`
and `evaluateLoop_ok` characterise the loop by existence statements over list members, and
`or_verdict` reads the verdict off whether some policy denies. The permutation law
`evaluate_perm` follows, and so does `evaluate_none_iff`: nil exactly when every policy is.
-/

namespace Warden

variable (P : Prims)

/-- `matchesSubject(pol, req)`: an empty list matches; an entry matches on its non-empty
kind and id. -/
def matchesSubject (pol : Policy) (req : CheckRequest) : Bool :=
  pol.subjects.isEmpty || pol.subjects.any fun sm =>
    (sm.kind = "" || sm.kind = req.subject.kind) && (sm.id = "" || sm.id = req.subject.id)

/-- `matchesAction(pol, req)`. -/
def matchesAction (pol : Policy) (req : CheckRequest) : Bool :=
  pol.actions.isEmpty || pol.actions.any fun a => a = "*" || matchGlob a req.action.name

/-- `matchesResource(pol, req)`. -/
def matchesResource (pol : Policy) (req : CheckRequest) : Bool :=
  let target := req.resource.type ++ ":" ++ req.resource.id
  let targetType := req.resource.type ++ ":*"
  pol.resources.isEmpty || pol.resources.any fun r =>
    r = "*" || r = target || r = targetType || matchGlob r target || matchGlob r req.resource.type

/-- The result an applicable policy contributes, by its effect. -/
def policyResult (pol : Policy) : CheckResult :=
  let info : MatchInfo :=
    { source := "abac", ruleID := pol.id.string,
      detail := "policy " ++ quote pol.name ++ " (" ++ pol.effect ++ ")" }
  if pol.effect = effectDeny then
    { allowed := false, decision := decisionDenyExplicit,
      reason := "denied by policy " ++ quote pol.name, matchedBy := [info] }
  else { allowed := true, decision := decisionAllow, matchedBy := [info] }

/-- One pass of the loop of `Evaluate` on a policy: `none` when the policy is skipped. -/
def evaluatePolicy (req : CheckRequest) (pol : Policy) : Except GoError (Option CheckResult) :=
  if !pol.isActive || !matchesSubject pol req || !matchesAction pol req ||
      !matchesResource pol req then .ok none
  else
    match evaluateConditions P req pol.conditions with
    | .error err => .error (.wrap ("evaluate conditions for policy " ++ pol.name ++ ": ") err "")
    | .ok false => .ok none
    | .ok true => .ok (some (policyResult pol))

/-- The loop of `Evaluate`, carrying `bestDeny` and `bestAllow`. -/
def evaluateLoop (req : CheckRequest) :
    List Policy → Option CheckResult → Option CheckResult →
      Except GoError (Option CheckResult × Option CheckResult)
  | [], bestDeny, bestAllow => .ok (bestDeny, bestAllow)
  | pol :: rest, bestDeny, bestAllow =>
      match evaluatePolicy P req pol with
      | .error err => .error err
      | .ok none => evaluateLoop req rest bestDeny bestAllow
      | .ok (some r) =>
          if pol.effect = effectDeny then evaluateLoop req rest (bestDeny.or (some r)) bestAllow
          else evaluateLoop req rest bestDeny (bestAllow.or (some r))

/-- `conditionEvaluator.Evaluate(policies, req)`; `none` is the nil result. -/
def evaluate (policies : List Policy) (req : CheckRequest) : Except GoError (Option CheckResult) :=
  if policies.isEmpty then .ok none
  else
    match evaluateLoop P req policies none none with
    | .error err => .error err
    | .ok (bestDeny, bestAllow) => .ok (bestDeny.or bestAllow)

/-- A policy applies to a request: active, matched by its filters, its conditions true. -/
def Applies (req : CheckRequest) (pol : Policy) : Prop :=
  pol.isActive = true ∧ matchesSubject pol req = true ∧ matchesAction pol req = true ∧
    matchesResource pol req = true ∧ evaluateConditions P req pol.conditions = .ok true

/-- The deny result a policy adds to `bestDeny`, if any. -/
def denyOf (req : CheckRequest) (pol : Policy) : Option CheckResult :=
  match evaluatePolicy P req pol with
  | .ok (some r) => if pol.effect = effectDeny then some r else none
  | _ => none

/-- The allow result a policy adds to `bestAllow`, if any. -/
def allowOf (req : CheckRequest) (pol : Policy) : Option CheckResult :=
  match evaluatePolicy P req pol with
  | .ok (some r) => if pol.effect = effectDeny then none else some r
  | _ => none

variable {P}

theorem evaluatePolicy_eq_some {req : CheckRequest} {pol : Policy} {r : CheckResult} :
    evaluatePolicy P req pol = .ok (some r) ↔ Applies P req pol ∧ r = policyResult pol := by
  unfold evaluatePolicy Applies
  by_cases hf : !pol.isActive || !matchesSubject pol req || !matchesAction pol req ||
      !matchesResource pol req
  · simp only [hf, if_true]
    simp only [Bool.or_eq_true, Bool.not_eq_true'] at hf
    constructor
    · intro h; cases h
    · rintro ⟨⟨ha, hs, hac, hr, -⟩, -⟩
      rcases hf with ((h | h) | h) | h <;> simp_all
  · simp only [hf, if_false]
    simp only [Bool.or_eq_true, Bool.not_eq_true', not_or, Bool.not_eq_false] at hf
    obtain ⟨⟨⟨ha, hs⟩, hac⟩, hr⟩ := hf
    cases hc : evaluateConditions P req pol.conditions with
    | error e => simp
    | ok b => cases b <;> simp [ha, hs, hac, hr, eq_comm]

theorem policyResult_deny {pol : Policy} (h : pol.effect = effectDeny) :
    (policyResult pol).allowed = false ∧ (policyResult pol).decision = decisionDenyExplicit := by
  simp [policyResult, h]

theorem policyResult_allow {pol : Policy} (h : pol.effect ≠ effectDeny) :
    (policyResult pol).allowed = true ∧ (policyResult pol).decision = decisionAllow := by
  simp [policyResult, h]

/-- The loop fails exactly when some policy of the list fails. -/
theorem evaluateLoop_error_iff (req : CheckRequest) (l : List Policy) (d a : Option CheckResult) :
    (∃ e, evaluateLoop P req l d a = .error e) ↔ ∃ pol ∈ l, ∃ e, evaluatePolicy P req pol = .error e := by
  induction l generalizing d a with
  | nil => simp [evaluateLoop]
  | cons pol rest ih =>
      simp only [evaluateLoop, List.mem_cons, exists_eq_or_imp]
      cases h : evaluatePolicy P req pol with
      | error e => exact iff_of_true ⟨e, rfl⟩ (.inl ⟨e, rfl⟩)
      | ok o =>
          simp only [reduceCtorEq, exists_false, false_or]
          cases o with
          | none => exact ih d a
          | some r => split_ifs <;> exact ih _ _

/-- Without failures the loop ends with the first deny and the first allow of the list. -/
theorem evaluateLoop_ok (req : CheckRequest) (l : List Policy) (d a : Option CheckResult)
    (h : ∀ pol ∈ l, ∀ e, evaluatePolicy P req pol ≠ .error e) :
    evaluateLoop P req l d a = .ok (d.or (l.findSome? (denyOf P req)), a.or (l.findSome? (allowOf P req))) := by
  induction l generalizing d a with
  | nil => simp [evaluateLoop]
  | cons pol rest ih =>
      have hr := fun d a => ih d a fun q hq => h q (List.mem_cons_of_mem _ hq)
      simp only [evaluateLoop, List.findSome?_cons, denyOf, allowOf]
      cases hp : evaluatePolicy P req pol with
      | error e => exact absurd hp (h pol (List.mem_cons_self _ _) e)
      | ok o =>
          cases o with
          | none => simpa [denyOf, allowOf] using hr d a
          | some r =>
              by_cases hd : pol.effect = effectDeny
              · cases d <;> simpa [hd, denyOf, allowOf] using hr _ a
              · cases a <;> simpa [hd, denyOf, allowOf] using hr d _

theorem denyOf_eq_some {req : CheckRequest} {pol : Policy} {r : CheckResult} :
    denyOf P req pol = some r ↔ Applies P req pol ∧ pol.effect = effectDeny ∧ r = policyResult pol := by
  unfold denyOf
  cases h : evaluatePolicy P req pol with
  | error e =>
      simp only [reduceCtorEq, false_iff, not_and]
      intro ha _ hr
      rw [evaluatePolicy_eq_some.2 ⟨ha, rfl⟩] at h
      cases h
  | ok o =>
      cases o with
      | none =>
          simp only [reduceCtorEq, false_iff, not_and]
          intro ha _ hr
          rw [evaluatePolicy_eq_some.2 ⟨ha, rfl⟩] at h
          cases h
      | some r' =>
          obtain ⟨ha, rfl⟩ := evaluatePolicy_eq_some.1 h
          by_cases hd : pol.effect = effectDeny <;> simp [hd, ha, eq_comm]

theorem allowOf_eq_some {req : CheckRequest} {pol : Policy} {r : CheckResult} :
    allowOf P req pol = some r ↔ Applies P req pol ∧ pol.effect ≠ effectDeny ∧ r = policyResult pol := by
  unfold allowOf
  cases h : evaluatePolicy P req pol with
  | error e =>
      simp only [reduceCtorEq, false_iff, not_and]
      intro ha _ hr
      rw [evaluatePolicy_eq_some.2 ⟨ha, rfl⟩] at h
      cases h
  | ok o =>
      cases o with
      | none =>
          simp only [reduceCtorEq, false_iff, not_and]
          intro ha _ hr
          rw [evaluatePolicy_eq_some.2 ⟨ha, rfl⟩] at h
          cases h
      | some r' =>
          obtain ⟨ha, rfl⟩ := evaluatePolicy_eq_some.1 h
          by_cases hd : pol.effect = effectDeny <;> simp [hd, ha, eq_comm]

theorem denyOf_verdict {req : CheckRequest} {l : List Policy} {r : CheckResult}
    (h : l.findSome? (denyOf P req) = some r) :
    r.allowed = false ∧ r.decision = decisionDenyExplicit := by
  obtain ⟨pol, -, hp⟩ := List.exists_of_findSome?_eq_some h
  obtain ⟨-, hd, rfl⟩ := denyOf_eq_some.1 hp
  exact policyResult_deny hd

theorem allowOf_verdict {req : CheckRequest} {l : List Policy} {r : CheckResult}
    (h : l.findSome? (allowOf P req) = some r) :
    r.allowed = true ∧ r.decision = decisionAllow := by
  obtain ⟨pol, -, hp⟩ := List.exists_of_findSome?_eq_some h
  obtain ⟨-, hd, rfl⟩ := allowOf_eq_some.1 hp
  exact policyResult_allow hd

/-- The verdict of the loop's result: an explicit deny when some policy denies, else an allow. -/
theorem or_verdict {req : CheckRequest} {l : List Policy} {r : CheckResult}
    (h : (l.findSome? (denyOf P req)).or (l.findSome? (allowOf P req)) = some r) :
    r.allowed = !(l.findSome? (denyOf P req)).isSome ∧
      r.decision = if (l.findSome? (denyOf P req)).isSome then decisionDenyExplicit else decisionAllow := by
  cases hd : l.findSome? (denyOf P req) with
  | some d =>
      rw [hd, Option.or_some, Option.some.injEq] at h
      subst h
      simpa using denyOf_verdict hd
  | none =>
      rw [hd, Option.none_or] at h
      simpa using allowOf_verdict h

theorem findSome?_isSome_perm {α β : Type} {f : α → Option β} {l l' : List α} (hp : l.Perm l') :
    (l.findSome? f).isSome = (l'.findSome? f).isSome := by
  apply Bool.eq_iff_iff.2
  simp only [List.findSome?_isSome_iff, hp.mem_iff]

theorem evaluate_error_iff (l : List Policy) (req : CheckRequest) :
    (∃ e, evaluate P l req = .error e) ↔ ∃ pol ∈ l, ∃ e, evaluatePolicy P req pol = .error e := by
  rw [← evaluateLoop_error_iff req l none none]
  unfold evaluate
  cases l with
  | nil => simp [evaluateLoop]
  | cons pol rest =>
      simp only [List.isEmpty_cons, Bool.false_eq_true, if_false]
      split <;> simp_all

theorem evaluate_ok (l : List Policy) (req : CheckRequest)
    (h : ∀ pol ∈ l, ∀ e, evaluatePolicy P req pol ≠ .error e) :
    evaluate P l req = .ok ((l.findSome? (denyOf P req)).or (l.findSome? (allowOf P req))) := by
  unfold evaluate
  cases l with
  | nil => rfl
  | cons pol rest =>
      simp only [List.isEmpty_cons, Bool.false_eq_true, if_false]
      rw [evaluateLoop_ok req _ none none h]
      rfl

/-- The ABAC verdict does not depend on the order of the policies: on a permutation,
`Evaluate` fails, returns nil, or returns a result with the same `Allowed` and `Decision`,
exactly when it does on the original list. -/
theorem evaluate_perm {l l' : List Policy} (hp : l.Perm l') (req : CheckRequest) :
    ((∃ e, evaluate P l req = .error e) ↔ ∃ e, evaluate P l' req = .error e) ∧
    (evaluate P l req = .ok none ↔ evaluate P l' req = .ok none) ∧
    ∀ r, evaluate P l req = .ok (some r) →
      ∃ r', evaluate P l' req = .ok (some r') ∧ r'.allowed = r.allowed ∧ r'.decision = r.decision := by
  have herr : (∃ e, evaluate P l req = .error e) ↔ ∃ e, evaluate P l' req = .error e := by
    simp only [evaluate_error_iff, hp.mem_iff]
  by_cases hf : ∃ pol ∈ l, ∃ e, evaluatePolicy P req pol = .error e
  · obtain ⟨e, he⟩ := (evaluate_error_iff l req).2 hf
    obtain ⟨e', he'⟩ := herr.1 ⟨e, he⟩
    simp [he, he', herr]
  have hok : ∀ pol ∈ l, ∀ e, evaluatePolicy P req pol ≠ .error e := fun pol hm e he => hf ⟨pol, hm, e, he⟩
  have hok' : ∀ pol ∈ l', ∀ e, evaluatePolicy P req pol ≠ .error e :=
    fun pol hm => hok pol (hp.mem_iff.2 hm)
  rw [evaluate_ok l req hok, evaluate_ok l' req hok']
  have hd := findSome?_isSome_perm (f := denyOf P req) hp
  have ha := findSome?_isSome_perm (f := allowOf P req) hp
  refine ⟨by simp, ?_, fun r hr => ?_⟩
  · simp only [Except.ok.injEq, ← Option.not_isSome_iff_eq_none, Option.isSome_or, hd, ha]
  · rw [Except.ok.injEq] at hr
    obtain ⟨r', hr'⟩ := Option.isSome_iff_exists.1
      (by rw [Option.isSome_or, ← hd, ← ha, ← Option.isSome_or, hr]; rfl :
        ((l'.findSome? (denyOf P req)).or (l'.findSome? (allowOf P req))).isSome)
    obtain ⟨v₁, v₂⟩ := or_verdict hr
    obtain ⟨v₁', v₂'⟩ := or_verdict hr'
    exact ⟨r', by rw [hr'], by rw [v₁, v₁', hd], by rw [v₂, v₂', hd]⟩

theorem evaluate_perm_swap :
    let allow : Policy :=
      { id := ⟨⟨"wpol", 1⟩, true⟩, tenantID := "t1", name := "allow-all", effect := effectAllow,
        isActive := true }
    let deny : Policy :=
      { id := ⟨⟨"wpol", 2⟩, true⟩, tenantID := "t1", name := "deny-all", effect := effectDeny,
        isActive := true }
    let req : CheckRequest :=
      { subject := ⟨"user", "u1", []⟩, action := ⟨"read"⟩, resource := ⟨"document", "doc1", []⟩ }
    [allow, deny].Perm [deny, allow] ∧
    ((∃ e, evaluate .textOnly [allow, deny] req = .error e) ↔
      ∃ e, evaluate .textOnly [deny, allow] req = .error e) ∧
    (evaluate .textOnly [allow, deny] req = .ok none ↔ evaluate .textOnly [deny, allow] req = .ok none) ∧
    ∀ r, evaluate .textOnly [allow, deny] req = .ok (some r) →
      ∃ r', evaluate .textOnly [deny, allow] req = .ok (some r') ∧ r'.allowed = r.allowed ∧
        r'.decision = r.decision :=
  ⟨List.Perm.swap _ _ [], evaluate_perm (List.Perm.swap _ _ []) _⟩

theorem evaluate_no_failure {l : List Policy} {req : CheckRequest} {o : Option CheckResult}
    (h : evaluate P l req = .ok o) : ∀ pol ∈ l, ∀ e, evaluatePolicy P req pol ≠ .error e := by
  intro pol hm e he
  obtain ⟨e', he'⟩ := (evaluate_error_iff l req).2 ⟨pol, hm, e, he⟩
  rw [h] at he'
  cases he'

/-- An applicable deny policy in the list makes `Evaluate` fail or deny explicitly,
wherever it stands and whatever else the list holds. -/
theorem evaluate_deny_of_applies {l : List Policy} {req : CheckRequest} {pol : Policy}
    (hmem : pol ∈ l) (ha : Applies P req pol) (hd : pol.effect = effectDeny) :
    (∃ e, evaluate P l req = .error e) ∨
      ∃ r, evaluate P l req = .ok (some r) ∧ r.allowed = false ∧ r.decision = decisionDenyExplicit := by
  by_cases hf : ∃ pol ∈ l, ∃ e, evaluatePolicy P req pol = .error e
  · exact .inl ((evaluate_error_iff l req).2 hf)
  have hok : ∀ pol ∈ l, ∀ e, evaluatePolicy P req pol ≠ .error e :=
    fun pol hm e he => hf ⟨pol, hm, e, he⟩
  have hsome : (l.findSome? (denyOf P req)).isSome = true :=
    List.findSome?_isSome_iff.2 ⟨pol, hmem, by simp [denyOf_eq_some.2 ⟨ha, hd, rfl⟩]⟩
  obtain ⟨r, hr⟩ := Option.isSome_iff_exists.1 hsome
  exact .inr ⟨r, by rw [evaluate_ok l req hok, hr]; rfl, denyOf_verdict hr⟩

/-- A policy that does not fail is skipped exactly when it adds neither a deny nor an allow. -/
theorem evaluatePolicy_none_iff {req : CheckRequest} {pol : Policy}
    (hno : ∀ e, evaluatePolicy P req pol ≠ .error e) :
    evaluatePolicy P req pol = .ok none ↔ denyOf P req pol = none ∧ allowOf P req pol = none := by
  unfold denyOf allowOf
  cases hp : evaluatePolicy P req pol with
  | error e => exact absurd hp (hno e)
  | ok o =>
      cases o with
      | none => simp
      | some r => by_cases hd : pol.effect = effectDeny <;> simp [hd]

/-- `Evaluate` returns nil exactly when every policy evaluates to nil: inactive, unmatched or
with a false condition, and none fails. -/
theorem evaluate_none_iff (l : List Policy) (req : CheckRequest) :
    evaluate P l req = .ok none ↔ ∀ pol ∈ l, evaluatePolicy P req pol = .ok none := by
  constructor
  · intro h pol hm
    have hno := evaluate_no_failure h
    rw [evaluate_ok l req hno, Except.ok.injEq, Option.or_eq_none] at h
    exact (evaluatePolicy_none_iff (hno pol hm)).2
      ⟨List.findSome?_eq_none_iff.1 h.1 pol hm, List.findSome?_eq_none_iff.1 h.2 pol hm⟩
  · intro h
    have hno : ∀ pol ∈ l, ∀ e, evaluatePolicy P req pol ≠ .error e := fun pol hm e he => by
      rw [h pol hm] at he
      cases he
    have hnone := fun pol hm => (evaluatePolicy_none_iff (hno pol hm)).1 (h pol hm)
    rw [evaluate_ok l req hno, List.findSome?_eq_none_iff.2 fun pol hm => (hnone pol hm).1,
      List.findSome?_eq_none_iff.2 fun pol hm => (hnone pol hm).2]
    rfl

/-- An explicit deny from `Evaluate` never allows. -/
theorem evaluate_denyExplicit {l : List Policy} {req : CheckRequest} {r : CheckResult}
    (h : evaluate P l req = .ok (some r)) (hd : r.decision = decisionDenyExplicit) :
    r.allowed = false := by
  rw [evaluate_ok l req (evaluate_no_failure h)] at h
  cases h1 : l.findSome? (denyOf P req) with
  | some d =>
      simp only [h1, Option.or_some, Except.ok.injEq, Option.some.injEq] at h
      exact h ▸ (denyOf_verdict h1).1
  | none =>
      simp only [h1, Option.none_or, Except.ok.injEq] at h
      exact absurd ((allowOf_verdict h).2.symm.trans hd) (by decide)

/-- A deny policy added last changes `Evaluate` only by failing or by denying: the result is
the one before, an error, or an explicit deny. -/
theorem evaluate_append_deny (l : List Policy) {p : Policy} (hp : p.effect = effectDeny) (req : CheckRequest) :
    evaluate P (l ++ [p]) req = evaluate P l req ∨ (∃ e, evaluate P (l ++ [p]) req = .error e) ∨
      ∃ d, evaluate P (l ++ [p]) req = .ok (some d) ∧ d.decision = decisionDenyExplicit := by
  by_cases herr : ∃ pol ∈ l ++ [p], ∃ e, evaluatePolicy P req pol = .error e
  · exact .inr (.inl ((evaluate_error_iff _ _).2 herr))
  have hok : ∀ pol ∈ l ++ [p], ∀ e, evaluatePolicy P req pol ≠ .error e :=
    fun pol hm e he => herr ⟨pol, hm, e, he⟩
  have hap : allowOf P req p = none := by
    cases h : allowOf P req p with
    | none => rfl
    | some r => exact absurd hp (allowOf_eq_some.1 h).2.1
  rw [evaluate_ok _ _ hok]
  cases hdp : denyOf P req p with
  | none =>
      left
      rw [evaluate_ok _ _ fun pol hm => hok pol (List.mem_append_left _ hm)]
      simp [List.findSome?_append, hdp, hap]
  | some d =>
      right; right
      cases hdl : l.findSome? (denyOf P req) with
      | some d' => exact ⟨d', by simp [List.findSome?_append, hdl], (denyOf_verdict hdl).2⟩
      | none =>
          have hd : [p].findSome? (denyOf P req) = some d := by rw [List.findSome?, hdp]
          exact ⟨d, by simp [List.findSome?_append, hdl, hdp], (denyOf_verdict hd).2⟩

/-- An active policy with no filters or conditions whose effect is spelled `"Deny"`. -/
def capitalDenyPolicy : Policy :=
  { id := ID.nil, tenantID := "t1", name := "block-all", effect := "Deny", isActive := true }

/-- `Evaluate` grants every request on the policy list `[capitalDenyPolicy]`, although no
policy in it has the effect `"allow"`. -/
theorem evaluate_capital_deny_allows (req : CheckRequest) :
    capitalDenyPolicy.effect ≠ effectAllow ∧
      ∃ r, evaluate P [capitalDenyPolicy] req = .ok (some r) ∧ r.allowed = true :=
  ⟨by decide, _, rfl, rfl⟩

end Warden
