import Warden.Types

/-! # ABAC conditions

A condition names a dotted field of the request, an operator and an expected value.
`resolveField` reads the field; `evaluateCondition` applies one of the seventeen operators;
`evaluateConditions` is their conjunction, stopping at the first false condition or error.

## Implementation notes

The operators call into the Go standard library: number and time formatting and parsing,
IP and CIDR parsing, and regular expressions. These functions, and the types they use,
are the fields of `Prims`; every result below holds for every choice of them.
-/

namespace Warden

/-- The standard library functions the condition operators call. -/
structure Prims where
  /-- `fmt.Sprint` of a `float64`. -/
  formatFloat : Float → String
  /-- `fmt.Sprint` of a `time.Time`. -/
  formatTime : Int → String
  /-- `fmt.Sscanf(s, "%f", &f)`, `none` on error. -/
  scanFloat : String → Option Float
  IP : Type
  /-- `net.ParseIP`. -/
  parseIP : String → Option IP
  Network : Type
  /-- `net.ParseCIDR`, the network part. -/
  parseCIDR : String → Option Network
  /-- `network.Contains(ip)`. -/
  networkContains : Network → IP → Bool
  /-- `time.Parse(time.RFC3339, s)`. -/
  parseRFC3339 : String → Option Int
  Regexp : Type
  /-- `regexp.Compile`, or the text of its error. -/
  compile : String → Except String Regexp
  /-- `re.MatchString`. -/
  matchString : Regexp → String → Bool

/-- A standard library that parses no number, address or time and compiles no pattern:
conditions that compare printed strings run unchanged with it. -/
def Prims.textOnly : Prims where
  formatFloat x := toString x
  formatTime t := toString t
  scanFloat _ := none
  IP := Unit
  parseIP _ := none
  Network := Unit
  parseCIDR _ := none
  networkContains _ _ := false
  parseRFC3339 _ := none
  Regexp := Unit
  compile _ := .error "regexp: not supported"
  matchString _ _ := false

variable (P : Prims)

mutual

/-- `fmt.Sprint(v)`. -/
def sprint : Value → String
  | .nil => "<nil>"
  | .str s => s
  | .int n => toString n
  | .float x => P.formatFloat x
  | .bool b => if b then "true" else "false"
  | .time t => P.formatTime t
  | .strs xs => "[" ++ " ".intercalate xs ++ "]"
  | .list xs => "[" ++ " ".intercalate (sprintAll xs) ++ "]"

/-- `fmt.Sprint` of each element of a `[]any`. -/
def sprintAll : List Value → List String
  | [] => []
  | v :: vs => sprint v :: sprintAll vs

end

/-- `resolveField(field, req)`: the value a dotted field path names, `nil` when absent. -/
def resolveField (field : String) (req : CheckRequest) : Value :=
  match splitFirstDot field with
  | none => .nil
  | some (head, rest) =>
      if head = "subject" then
        if rest = "kind" then .str req.subject.kind
        else if rest = "id" then .str req.subject.id
        else lookup req.subject.attributes rest
      else if head = "resource" then
        if rest = "type" then .str req.resource.type
        else if rest = "id" then .str req.resource.id
        else lookup req.resource.attributes rest
      else if head = "action" then
        if rest = "name" then .str req.action.name else .nil
      else if head = "context" then lookup req.context rest
      else .nil

/-- `inSlice(actual, expected)`: membership by printed form in a `[]string` or `[]any`. -/
def inSlice (actual expected : Value) : Bool :=
  let s := sprint P actual
  match expected with
  | .strs v => v.any (· = s)
  | .list v => (sprintAll P v).any (· = s)
  | _ => false

/-- `toFloat64(v)`: unparseable and non-numeric values are `0`. -/
def toFloat64 : Value → Float
  | .int n => Float.ofInt n
  | .float x => x
  | .str s => (P.scanFloat s).getD 0
  | _ => 0

/-- `compareNumbers(a, b)`. -/
def compareNumbers (a b : Value) : Int :=
  let fa := toFloat64 P a
  let fb := toFloat64 P b
  if fa < fb then -1 else if fa > fb then 1 else 0

/-- `ipInCIDR(ipStr, cidrVal)`; its error result is always nil. -/
def ipInCIDR (ipStr : String) (cidrVal : Value) : Bool :=
  match P.parseIP ipStr with
  | none => false
  | some ip =>
      let cidrs : Option (List String) :=
        match cidrVal with
        | .str v => some [v]
        | .strs v => some v
        | .list v => some (sprintAll P v)
        | _ => none
      match cidrs with
      | none => false
      | some cs => cs.any fun c =>
          match P.parseCIDR c with
          | some network => P.networkContains network ip
          | none => false

/-- `parseTime(v)`: a `time.Time`, or an RFC 3339 string. -/
def parseTime : Value → Option Int
  | .time t => some t
  | .str s => P.parseRFC3339 s
  | _ => none

/-- `timeCompare(actual, expected, after)`; its error result is always nil. -/
def timeCompare (actual expected : Value) (after : Bool) : Bool :=
  match parseTime P actual, parseTime P expected with
  | some ta, some te => if after then decide (ta > te) else decide (ta < te)
  | _, _ => false

/-- `evaluateCondition(op, actual, expected)`. -/
def evaluateCondition (op : String) (actual expected : Value) : Except GoError Bool :=
  match op with
  | "eq" => .ok (sprint P actual = sprint P expected)
  | "neq" => .ok (sprint P actual ≠ sprint P expected)
  | "in" => .ok (inSlice P actual expected)
  | "not_in" => .ok (!inSlice P actual expected)
  | "contains" => .ok (contains (sprint P actual) (sprint P expected))
  | "starts_with" => .ok (hasPrefix (sprint P actual) (sprint P expected))
  | "ends_with" => .ok (hasSuffix (sprint P actual) (sprint P expected))
  | "gt" => .ok (compareNumbers P actual expected > 0)
  | "lt" => .ok (compareNumbers P actual expected < 0)
  | "gte" => .ok (compareNumbers P actual expected ≥ 0)
  | "lte" => .ok (compareNumbers P actual expected ≤ 0)
  | "exists" => .ok (match actual with | .nil => false | _ => true)
  | "not_exists" => .ok (match actual with | .nil => true | _ => false)
  | "ip_in_cidr" => .ok (ipInCIDR P (sprint P actual) expected)
  | "time_after" => .ok (timeCompare P actual expected true)
  | "time_before" => .ok (timeCompare P actual expected false)
  | "regex" =>
      match P.compile (sprint P expected) with
      | .error err =>
          .error (.wrap "" errInvalidCondition
            (": invalid regex " ++ quote (sprint P expected) ++ ": " ++ err))
      | .ok re => .ok (P.matchString re (sprint P actual))
  | _ => .error (.wrap "" errInvalidCondition (": unknown operator " ++ quote op))

/-- `evaluateConditions(conditions, req)`: all conditions hold, checked in order. -/
def evaluateConditions (req : CheckRequest) : List Condition → Except GoError Bool
  | [] => .ok true
  | c :: cs =>
      match evaluateCondition P c.operator (resolveField c.field req) c.value with
      | .error err => .error err
      | .ok false => .ok false
      | .ok true => evaluateConditions req cs

end Warden
