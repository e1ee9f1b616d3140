import Warden.Id.Id

/-! # Requests, results and stored entities

The records the engine reads: a check request and its result, the stored roles,
permissions, assignments, relation tuples and policies, and the sentinel errors.

## Implementation notes

Only the fields that a modelled function reads are kept. Times are Unix nanoseconds. A Go
value of static type `any` is a `Value`; a `map[string]any` is a list of entries read
through `lookup`, which takes the first entry of a key as the single entry a map holds.
Decisions, effects and operators are open string types in Go and stay strings here.
-/

namespace Warden

/-- A Go value of static type `any`, as attributes, context and conditions hold them. -/
inductive Value where
  | nil
  | str (s : String)
  | int (n : Int)
  | float (x : Float)
  | bool (b : Bool)
  | time (t : Int)
  | strs (xs : List String)
  | list (xs : List Value)
  deriving Inhabited, Repr

/-- `m[key]` on a `map[string]any`: `nil` when the key is absent. -/
def lookup (m : List (String × Value)) (key : String) : Value :=
  match m.find? (·.1 = key) with
  | some e => e.2
  | none => .nil

/-- `warden.Subject`. -/
structure Subject where
  kind : String
  id : String
  attributes : List (String × Value) := []
  deriving Inhabited, Repr

/-- `warden.Resource`. -/
structure Resource where
  type : String
  id : String
  attributes : List (String × Value) := []
  deriving Inhabited, Repr

/-- `warden.Action`. -/
structure Action where
  name : String
  deriving Inhabited, Repr

/-- `warden.CheckRequest`. -/
structure CheckRequest where
  subject : Subject
  action : Action
  resource : Resource
  context : List (String × Value) := []
  deriving Inhabited, Repr

/-- `warden.MatchInfo`. -/
structure MatchInfo where
  source : String
  ruleID : String := ""
  detail : String := ""
  deriving DecidableEq, Repr

/-- `warden.CheckResult`; the zero value denies with an empty decision. -/
structure CheckResult where
  allowed : Bool := false
  decision : String := ""
  reason : String := ""
  matchedBy : List MatchInfo := []
  evalTimeNs : Int := 0
  deriving DecidableEq, Repr

/-- `DecisionAllow`. -/
def decisionAllow : String := "allow"

/-- `DecisionDenyExplicit`. -/
def decisionDenyExplicit : String := "deny_explicit"

/-- `DecisionDenyDefault`. -/
def decisionDenyDefault : String := "deny_default"

/-- `DecisionDenyNoRoles`. -/
def decisionDenyNoRoles : String := "deny_no_roles"

/-- `DecisionDenyNoPerms`. -/
def decisionDenyNoPerms : String := "deny_no_perms"

/-- `DecisionDenyRelation`. -/
def decisionDenyRelation : String := "deny_relation"

/-- `ErrAccessDenied`. -/
def errAccessDenied : GoError := .new "warden: access denied"

/-- `ErrInvalidCondition`. -/
def errInvalidCondition : GoError := .new "warden: invalid policy condition"

/-- `ErrGraphDepthExceeded`. -/
def errGraphDepthExceeded : GoError := .new "warden: relation graph depth exceeded"

/-- `role.Role`. -/
structure Role where
  id : ID
  tenantID : String
  parentID : Option ID := none
  deriving DecidableEq, Repr

/-- `permission.Permission`. -/
structure Permission where
  id : ID
  tenantID : String
  resource : String
  action : String
  deriving DecidableEq, Repr

/-- `assignment.Assignment`; an empty resource type makes it global. -/
structure Assignment where
  id : ID
  tenantID : String
  roleID : ID
  subjectKind : String
  subjectID : String
  resourceType : String := ""
  resourceID : String := ""
  expiresAt : Option Int := none
  deriving DecidableEq, Repr

/-- `relation.Tuple`: `object#relation@subject`, with a subject set when `subjectRelation` is set. -/
structure Tuple where
  id : ID
  tenantID : String
  objectType : String
  objectID : String
  relation : String
  subjectType : String
  subjectID : String
  subjectRelation : String := ""
  deriving DecidableEq, Repr

/-- `policy.SubjectMatch`. -/
structure SubjectMatch where
  kind : String := ""
  id : String := ""
  role : String := ""
  deriving DecidableEq, Repr

/-- `policy.Condition`. -/
structure Condition where
  field : String
  operator : String
  value : Value
  deriving Inhabited, Repr

/-- `policy.Policy`. -/
structure Policy where
  id : ID
  tenantID : String
  name : String
  effect : String
  priority : Int := 0
  isActive : Bool
  subjects : List SubjectMatch := []
  actions : List String := []
  resources : List String := []
  conditions : List Condition := []
  deriving Repr

/-- `policy.EffectAllow`. -/
def effectAllow : String := "allow"

/-- `policy.EffectDeny`. -/
def effectDeny : String := "deny"

end Warden
