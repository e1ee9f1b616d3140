import Warden.Store.Store
import Mathlib.Logic.Hydra

/-! # The ReBAC graph walker

`bfsGraphWalker.Walk` searches the relation tuples breadth first, from the node
`(resource type, resource id, action)` towards the subject. A node deeper than `maxDepth`
ends the walk with `ErrGraphDepthExceeded`; a node whose visited key was seen before is
skipped; otherwise its tuples either name the subject, or add one child per tuple to the
back of the queue.

## Implementation notes

The Go loop terminates because every expanded node is at most `maxDepth` deep and its
children are one deeper. Weighting a node by `maxDepth + 1 - depth`, one pass removes a
node and adds only lighter ones, a step of `Relation.CutExpand` on the multiset of weights,
which is well founded.
-/

namespace Warden

/-- `walkNode`. -/
structure WalkNode where
  objectType : String
  objectID : String
  relation : String
  depth : Nat
  path : List String
  deriving DecidableEq, Repr

/-- `fmt.Sprintf("%s:%s#%s", type, id, relation)`, the visited key and path entry of a node. -/
def nodeKey (objectType objectID relation : String) : String :=
  objectType ++ ":" ++ objectID ++ "#" ++ relation

/-- The triple `(allowed, path, err)` that `Walk` returns. -/
structure WalkResult where
  allowed : Bool
  path : String
  err : Option GoError
  deriving DecidableEq, Repr

/-- The `GraphWalker` interface. -/
structure GraphWalker where
  walk : Store → String → CheckRequest → WalkResult

/-- The node a tuple of `node` leads to: its subject set, or the subject under the same relation. -/
def childOf (node : WalkNode) (t : Tuple) : WalkNode :=
  if t.subjectRelation ≠ "" then
    { objectType := t.subjectType, objectID := t.subjectID, relation := t.subjectRelation,
      depth := node.depth + 1,
      path := node.path ++ [nodeKey t.subjectType t.subjectID t.subjectRelation] }
  else
    { objectType := t.subjectType, objectID := t.subjectID, relation := node.relation,
      depth := node.depth + 1, path := node.path ++ [t.subjectType ++ ":" ++ t.subjectID] }

/-- The loop over the tuples of `node`: the path text on a direct match with the subject,
otherwise the queue with one child per tuple appended. -/
def scanTuples (subjectType subjectID : String) (node : WalkNode) :
    List Tuple → List WalkNode → String ⊕ List WalkNode
  | [], queue => .inr queue
  | t :: ts, queue =>
      if t.subjectType = subjectType ∧ t.subjectID = subjectID then
        .inl (" -> ".intercalate (node.path ++ [t.subjectType ++ ":" ++ t.subjectID]))
      else scanTuples subjectType subjectID node ts (queue ++ [childOf node t])

theorem scanTuples_inr {subjectType subjectID : String} {node : WalkNode} {ts : List Tuple}
    {queue queue' : List WalkNode} (h : scanTuples subjectType subjectID node ts queue = .inr queue') :
    ∃ cs, queue' = queue ++ cs ∧ ∀ c ∈ cs, c.depth = node.depth + 1 := by
  induction ts generalizing queue with
  | nil => exact ⟨[], by simpa [scanTuples] using h.symm, by simp⟩
  | cons t ts ih =>
      simp only [scanTuples] at h
      split at h
      · cases h
      · obtain ⟨cs, rfl, hcs⟩ := ih h
        refine ⟨childOf node t :: cs, by simp, ?_⟩
        intro c hc
        rcases List.mem_cons.mp hc with rfl | hc
        · unfold childOf; split <;> rfl
        · exact hcs c hc

/-- The multiset of node weights that decreases along the walk. -/
structure QueueWeight where
  weights : Multiset Nat

instance : WellFoundedRelation QueueWeight :=
  invImage QueueWeight.weights ⟨Relation.CutExpand (· < ·), wellFounded_lt.cutExpand⟩

/-- A node weighs `maxDepth + 1 - depth`. -/
def queueWeight (maxDepth : Nat) (queue : List WalkNode) : QueueWeight :=
  ⟨(queue.map fun n => maxDepth + 1 - n.depth : Multiset Nat)⟩

theorem queueWeight_skip (maxDepth : Nat) (node : WalkNode) (queue : List WalkNode) :
    Relation.CutExpand (· < ·) (queueWeight maxDepth queue).weights
      (queueWeight maxDepth (node :: queue)).weights :=
  ⟨0, maxDepth + 1 - node.depth, by simp, by simp [queueWeight, add_comm]⟩

theorem queueWeight_expand (maxDepth : Nat) (node : WalkNode) (queue cs : List WalkNode)
    (hd : node.depth ≤ maxDepth) (hc : ∀ c ∈ cs, c.depth = node.depth + 1) :
    Relation.CutExpand (· < ·) (queueWeight maxDepth (queue ++ cs)).weights
      (queueWeight maxDepth (node :: queue)).weights := by
  refine ⟨(cs.map fun n => maxDepth + 1 - n.depth : Multiset Nat), maxDepth + 1 - node.depth, ?_, ?_⟩
  · intro a ha
    simp only [Multiset.mem_coe, List.mem_map] at ha
    obtain ⟨c, hcm, rfl⟩ := ha
    have := hc c hcm
    omega
  · simp [queueWeight, add_comm, add_left_comm]

/-- The loop of `bfsGraphWalker.Walk`, over the tenant's `ListRelationSubjects`. -/
def walkLoop (maxDepth : Nat) (listSubjects : String → String → String → Except GoError (List Tuple))
    (subjectType subjectID : String) (visited : List String) : List WalkNode → WalkResult
  | [] => ⟨false, "", none⟩
  | node :: queue =>
      if node.depth > maxDepth then ⟨false, "", some errGraphDepthExceeded⟩
      else
        let visitKey := nodeKey node.objectType node.objectID node.relation
        if visitKey ∈ visited then walkLoop maxDepth listSubjects subjectType subjectID visited queue
        else
          match listSubjects node.objectType node.objectID node.relation with
          | .error err => ⟨false, "", some (.wrap ("list subjects for " ++ visitKey ++ ": ") err "")⟩
          | .ok tuples =>
              match _h : scanTuples subjectType subjectID node tuples queue with
              | .inl path => ⟨true, path, none⟩
              | .inr queue' =>
                  walkLoop maxDepth listSubjects subjectType subjectID (visitKey :: visited) queue'
termination_by queue => queueWeight maxDepth queue
decreasing_by
  · exact queueWeight_skip maxDepth node queue
  · obtain ⟨cs, rfl, hcs⟩ := scanTuples_inr _h
    exact queueWeight_expand maxDepth node queue cs (by omega) hcs

/-- `bfsGraphWalker.Walk(ctx, relStore, tenantID, req)`. -/
def bfsWalk (maxDepth : Nat) (relStore : Store) (tenantID : String) (req : CheckRequest) : WalkResult :=
  walkLoop maxDepth (relStore.listRelationSubjects tenantID) req.subject.kind req.subject.id []
    [{ objectType := req.resource.type, objectID := req.resource.id, relation := req.action.name,
       depth := 0, path := [nodeKey req.resource.type req.resource.id req.action.name] }]

/-- A walk from a resource without tuples under the action's relation ends with no path and
no error. -/
theorem bfsWalk_of_no_tuples (maxDepth : Nat) (relStore : Store) (tenantID : String)
    (req : CheckRequest)
    (h : relStore.listRelationSubjects tenantID req.resource.type req.resource.id req.action.name = .ok []) :
    bfsWalk maxDepth relStore tenantID req = ⟨false, "", none⟩ := by
  rw [bfsWalk, walkLoop]
  simp [h, scanTuples, walkLoop]

/-- `DefaultGraphWalker(maxDepth)`: a BFS walker, with depth 10 for a non-positive bound. -/
def defaultGraphWalker (maxDepth : Int) : GraphWalker :=
  ⟨bfsWalk (if maxDepth ≤ 0 then 10 else maxDepth.toNat)⟩

end Warden
