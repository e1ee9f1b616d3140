import Warden.GraphWalker

/-! # What the BFS walk finds

Over a store whose `ListRelationSubjects` never fails, the walk allows exactly when some
node within `maxDepth` tuples of the resource node has a tuple naming the subject, provided
no two nodes the walk can meet share a visit key `type:id#relation`. It then stops at a
node the fewest tuples away among those, and its path spells out a chain to it (`Chain`).

## Implementation notes

Soundness carries along the run that every queued node is reachable at its depth.
Completeness is the breadth-first argument: beside the visited keys the proof keeps the
nodes expanded so far with their depths, the queue stays sorted and spans at most two
depths, every tuple of an expanded node leads to an expanded node or a queued one at most
one deeper, and no expanded node names the subject. A run that ends with an empty queue or
at a node deeper than `maxDepth` has then expanded every node within reach. Minimality
reads the same invariant at the node that hits: every node nearer than it is expanded.
-/

namespace Warden

/-- A node of the relation graph, as its visit key names it. -/
structure GraphNode where
  objectType : String
  objectID : String
  relation : String
  deriving DecidableEq, Repr

/-- The visit key of a node. -/
def GraphNode.key (x : GraphNode) : String := nodeKey x.objectType x.objectID x.relation

/-- The node a tuple of `x` leads to. -/
def GraphNode.child (x : GraphNode) (t : Tuple) : GraphNode :=
  if t.subjectRelation ≠ "" then ⟨t.subjectType, t.subjectID, t.subjectRelation⟩
  else ⟨t.subjectType, t.subjectID, x.relation⟩

/-- The graph node a queue entry stands for. -/
def WalkNode.graphNode (n : WalkNode) : GraphNode := ⟨n.objectType, n.objectID, n.relation⟩

@[simp] theorem childOf_graphNode (n : WalkNode) (t : Tuple) :
    (childOf n t).graphNode = n.graphNode.child t := by
  unfold childOf GraphNode.child
  split <;> rfl

@[simp] theorem childOf_depth (n : WalkNode) (t : Tuple) : (childOf n t).depth = n.depth + 1 := by
  unfold childOf
  split <;> rfl

theorem scanTuples_eq_inr {subjectType subjectID : String} {node : WalkNode} {ts : List Tuple}
    {queue queue' : List WalkNode} :
    scanTuples subjectType subjectID node ts queue = .inr queue' ↔
      (∀ t ∈ ts, ¬ (t.subjectType = subjectType ∧ t.subjectID = subjectID)) ∧
        queue' = queue ++ ts.map (childOf node) := by
  induction ts generalizing queue with
  | nil => simp [scanTuples, eq_comm]
  | cons t ts ih =>
      simp only [scanTuples, List.forall_mem_cons, List.map_cons]
      split
      · rename_i hm
        exact iff_of_false (fun h => nomatch h) fun h => h.1.1 hm
      · rename_i hm
        rw [ih, List.append_assoc, List.singleton_append]
        exact ⟨fun h => ⟨⟨hm, h.1⟩, h.2⟩, fun h => ⟨h.1.2, h.2⟩⟩

/-- A scan that matches names the subject through one of the tuples, and returns the node's
path with the subject appended. -/
theorem scanTuples_eq_inl {subjectType subjectID : String} {node : WalkNode} {ts : List Tuple}
    {queue : List WalkNode} {path : String}
    (h : scanTuples subjectType subjectID node ts queue = .inl path) :
    ∃ t ∈ ts, (t.subjectType = subjectType ∧ t.subjectID = subjectID) ∧
      path = " -> ".intercalate (node.path ++ [subjectType ++ ":" ++ subjectID]) := by
  induction ts generalizing queue with
  | nil => cases h
  | cons t ts ih =>
      simp only [scanTuples] at h
      split at h
      · rename_i hm
        cases h
        exact ⟨t, List.mem_cons_self _ _, hm, by rw [hm.1, hm.2]⟩
      · obtain ⟨t', ht', hm⟩ := ih h
        exact ⟨t', List.mem_cons_of_mem _ ht', hm⟩

/-- The entry a tuple adds to a walk's path: the key of its subject set, or only the subject
when the tuple keeps the relation. -/
def pathEntry (t : Tuple) : String :=
  if t.subjectRelation ≠ "" then nodeKey t.subjectType t.subjectID t.subjectRelation
  else t.subjectType ++ ":" ++ t.subjectID

@[simp] theorem childOf_path (n : WalkNode) (t : Tuple) :
    (childOf n t).path = n.path ++ [pathEntry t] := by
  unfold childOf pathEntry
  split <;> rfl

section Walk

variable (tuples : GraphNode → List Tuple) (subjectType subjectID : String) (root : GraphNode)

/-- A store's `ListRelationSubjects` that returns `tuples` and never fails. -/
def listOf : String → String → String → Except GoError (List Tuple) :=
  fun objectType objectID relation => .ok (tuples ⟨objectType, objectID, relation⟩)

/-- `Reach k x`: a path of `k` tuples leads from `root` to `x`. -/
inductive Reach : Nat → GraphNode → Prop
  | root : Reach 0 root
  | step {k : Nat} {x : GraphNode} {t : Tuple} : Reach k x → t ∈ tuples x → Reach (k + 1) (x.child t)

/-- `Chain k x ps`: a path of `k` tuples leads from `root` to `x`, and `ps` spells it out:
the key of `root`, then the entry of each tuple. -/
inductive Chain : Nat → GraphNode → List String → Prop
  | root : Chain 0 root [root.key]
  | step {k : Nat} {x : GraphNode} {ps : List String} {t : Tuple} :
      Chain k x ps → t ∈ tuples x → Chain (k + 1) (x.child t) (ps ++ [pathEntry t])

theorem Chain.reach {k : Nat} {x : GraphNode} {ps : List String} (h : Chain tuples root k x ps) :
    Reach tuples root k x := by
  induction h with
  | root => exact .root
  | step _ ht ih => exact .step ih ht

/-- A tuple of `x` names the subject. -/
def Hit (x : GraphNode) : Prop :=
  ∃ t ∈ tuples x, t.subjectType = subjectType ∧ t.subjectID = subjectID

/-- The nodes a walk from `root` can meet: those a path of tuples leads to from `root`. -/
def InPlay (x : GraphNode) : Prop := ∃ k, Reach tuples root k x

/-- No two nodes a walk from `root` can meet share a visit key. -/
def KeysDistinct : Prop :=
  ∀ x y, InPlay tuples root x → InPlay tuples root y → x.key = y.key → x = y

variable {tuples root} in
/-- A node a walk can meet is `root` or the end of a tuple. -/
theorem InPlay.eq_root_or_child {x : GraphNode} (h : InPlay tuples root x) :
    x = root ∨ ∃ z, ∃ t ∈ tuples z, x = z.child t := by
  obtain ⟨k, hr⟩ := h
  cases hr with
  | root => exact .inl rfl
  | step _ ht => exact .inr ⟨_, _, ht, rfl⟩

/-- The breadth-first invariant, with `V` the nodes expanded so far and their depths. -/
structure BfsInv (visited : List String) (queue : List WalkNode) (V : List (GraphNode × Nat)) :
    Prop where
  visited_eq : visited = V.map (·.1.key)
  inPlay_expanded : ∀ p ∈ V, InPlay tuples root p.1
  inPlay_queued : ∀ n ∈ queue, InPlay tuples root n.graphNode
  sorted : queue.Pairwise fun a b => a.depth ≤ b.depth
  span : ∀ a ∈ queue, ∀ b ∈ queue, b.depth ≤ a.depth + 1
  before : ∀ p ∈ V, ∀ n ∈ queue, p.2 ≤ n.depth
  closed : ∀ p ∈ V, ∀ t ∈ tuples p.1, (∃ d ≤ p.2 + 1, (p.1.child t, d) ∈ V) ∨
    ∃ n ∈ queue, n.graphNode = p.1.child t ∧ n.depth ≤ p.2 + 1
  root_mem : (root, 0) ∈ V ∨ ∃ n ∈ queue, n.graphNode = root ∧ n.depth = 0
  no_hit : ∀ p ∈ V, ¬ Hit tuples subjectType subjectID p.1

variable {tuples subjectType subjectID root}

theorem bfsInv_start {n : WalkNode} (hn : n.graphNode = root) (hd : n.depth = 0) :
    BfsInv tuples subjectType subjectID root [] [n] [] where
  visited_eq := rfl
  inPlay_expanded _ h := nomatch h
  inPlay_queued _ h := ⟨0, List.mem_singleton.1 h ▸ hn ▸ .root⟩
  sorted := List.pairwise_singleton _ _
  span a ha b hb := by rw [List.mem_singleton.1 ha, List.mem_singleton.1 hb]; omega
  before _ h := nomatch h
  closed _ h := nomatch h
  root_mem := .inr ⟨n, List.mem_singleton_self _, hn, hd⟩
  no_hit _ h := nomatch h

namespace BfsInv

variable {visited : List String} {n : WalkNode} {queue : List WalkNode} {V : List (GraphNode × Nat)}

theorem mem_of_key (I : BfsInv tuples subjectType subjectID root visited queue V)
    (hk : KeysDistinct tuples root) {x : GraphNode} (hx : InPlay tuples root x)
    (hv : x.key ∈ visited) : ∃ d, (x, d) ∈ V := by
  rw [I.visited_eq] at hv
  obtain ⟨p, hp, hpk⟩ := List.mem_map.1 hv
  exact ⟨p.2, by rw [← hk _ _ (I.inPlay_expanded p hp) hx hpk]; exact hp⟩

/-- A seen node leaves the queue without changing what was expanded. -/
theorem skip (I : BfsInv tuples subjectType subjectID root visited (n :: queue) V)
    (hk : KeysDistinct tuples root) (hv : n.graphNode.key ∈ visited) :
    BfsInv tuples subjectType subjectID root visited queue V where
  visited_eq := I.visited_eq
  inPlay_expanded := I.inPlay_expanded
  inPlay_queued := fun m hm => I.inPlay_queued m (.tail _ hm)
  sorted := (List.pairwise_cons.1 I.sorted).2
  span := fun a ha b hb => I.span a (.tail _ ha) b (.tail _ hb)
  before := fun p hp m hm => I.before p hp m (.tail _ hm)
  closed := by
    obtain ⟨d, hd⟩ := I.mem_of_key hk (I.inPlay_queued n (List.mem_cons_self _ _)) hv
    intro p hp t ht
    rcases I.closed p hp t ht with h | ⟨m, hm, hmg, hmd⟩
    · exact .inl h
    rcases List.mem_cons.1 hm with rfl | hm
    · exact .inl ⟨d, (I.before _ hd m (List.mem_cons_self _ _)).trans hmd, hmg ▸ hd⟩
    · exact .inr ⟨m, hm, hmg, hmd⟩
  root_mem := by
    obtain ⟨d, hd⟩ := I.mem_of_key hk (I.inPlay_queued n (List.mem_cons_self _ _)) hv
    rcases I.root_mem with h | ⟨m, hm, hmg, hmd⟩
    · exact .inl h
    rcases List.mem_cons.1 hm with rfl | hm
    · have h0 : d = 0 := Nat.le_zero.1 (hmd ▸ I.before _ hd m (List.mem_cons_self _ _))
      exact .inl (hmg ▸ h0 ▸ hd)
    · exact .inr ⟨m, hm, hmg, hmd⟩
  no_hit := I.no_hit

/-- Expanding a node that names no subject appends its children one level deeper. -/
theorem expand (I : BfsInv tuples subjectType subjectID root visited (n :: queue) V)
    (hnh : ¬ Hit tuples subjectType subjectID n.graphNode) :
    BfsInv tuples subjectType subjectID root (n.graphNode.key :: visited)
      (queue ++ (tuples n.graphNode).map (childOf n)) ((n.graphNode, n.depth) :: V) := by
  have hs := List.pairwise_cons.1 I.sorted
  have hrange : ∀ a ∈ queue ++ (tuples n.graphNode).map (childOf n),
      n.depth ≤ a.depth ∧ a.depth ≤ n.depth + 1 := by
    intro a ha
    rcases List.mem_append.1 ha with ha | ha
    · exact ⟨hs.1 a ha, I.span n (List.mem_cons_self _ _) a (.tail _ ha)⟩
    · obtain ⟨t, -, rfl⟩ := List.mem_map.1 ha
      simp
  exact {
    visited_eq := by rw [I.visited_eq]; rfl
    inPlay_expanded := fun p hp => by
      rcases List.mem_cons.1 hp with rfl | hp
      · exact I.inPlay_queued n (List.mem_cons_self _ _)
      · exact I.inPlay_expanded p hp
    inPlay_queued := fun m hm => by
      rcases List.mem_append.1 hm with hm | hm
      · exact I.inPlay_queued m (.tail _ hm)
      · obtain ⟨t, ht, rfl⟩ := List.mem_map.1 hm
        obtain ⟨k, hk⟩ := I.inPlay_queued n (List.mem_cons_self _ _)
        exact ⟨k + 1, by simpa using hk.step ht⟩
    sorted := by
      refine List.pairwise_append.2 ⟨hs.2, List.pairwise_of_forall_mem_list ?_, ?_⟩
      · intro a ha b hb
        obtain ⟨t, -, rfl⟩ := List.mem_map.1 ha
        obtain ⟨t', -, rfl⟩ := List.mem_map.1 hb
        simp
      · intro a ha b hb
        obtain ⟨t, -, rfl⟩ := List.mem_map.1 hb
        simpa using I.span n (List.mem_cons_self _ _) a (.tail _ ha)
    span := fun a ha b hb => by
      have := hrange a ha
      have := hrange b hb
      omega
    before := fun p hp m hm => by
      have := (hrange m hm).1
      rcases List.mem_cons.1 hp with rfl | hp
      · exact this
      · exact (I.before p hp n (List.mem_cons_self _ _)).trans this
    closed := fun p hp t ht => by
      rcases List.mem_cons.1 hp with rfl | hp
      · exact .inr ⟨childOf n t, List.mem_append_right _ (List.mem_map_of_mem _ ht), by simp, by simp⟩
      rcases I.closed p hp t ht with ⟨d, hd, h⟩ | ⟨m, hm, hmg, hmd⟩
      · exact .inl ⟨d, hd, .tail _ h⟩
      rcases List.mem_cons.1 hm with rfl | hm
      · exact .inl ⟨m.depth, hmd, hmg ▸ List.mem_cons_self _ _⟩
      · exact .inr ⟨m, List.mem_append_left _ hm, hmg, hmd⟩
    root_mem := by
      rcases I.root_mem with h | ⟨m, hm, hmg, hmd⟩
      · exact .inl (.tail _ h)
      rcases List.mem_cons.1 hm with rfl | hm
      · exact .inl (hmg ▸ hmd ▸ List.mem_cons_self _ _)
      · exact .inr ⟨m, List.mem_append_left _ hm, hmg, hmd⟩
    no_hit := fun p hp => by
      rcases List.mem_cons.1 hp with rfl | hp
      · exact hnh
      · exact I.no_hit p hp }

/-- With the queue empty, every reachable node was expanded. -/
theorem reach_of_nil (I : BfsInv tuples subjectType subjectID root visited [] V) {k : Nat}
    {x : GraphNode} (hr : Reach tuples root k x) : ∃ d, (x, d) ∈ V := by
  induction hr with
  | root =>
      rcases I.root_mem with h | ⟨m, hm, -⟩
      · exact ⟨0, h⟩
      · cases hm
  | step _ ht ih =>
      obtain ⟨d, hd⟩ := ih
      rcases I.closed _ hd _ ht with ⟨d', -, h⟩ | ⟨m, hm, -⟩
      · exact ⟨d', h⟩
      · cases hm

/-- With a node deeper than `maxDepth` at the head of the queue, every node within
`maxDepth` tuples was expanded, at a depth no greater than its distance. -/
theorem reach_of_deep (I : BfsInv tuples subjectType subjectID root visited (n :: queue) V)
    {maxDepth : Nat} (hdeep : n.depth > maxDepth) {k : Nat} {x : GraphNode}
    (hr : Reach tuples root k x) (hk : k ≤ maxDepth) : ∃ d ≤ k, (x, d) ∈ V := by
  have hall : ∀ m ∈ n :: queue, maxDepth < m.depth := by
    intro m hm
    rcases List.mem_cons.1 hm with rfl | hm
    · exact hdeep
    · exact lt_of_lt_of_le hdeep ((List.pairwise_cons.1 I.sorted).1 m hm)
  induction hr with
  | root =>
      rcases I.root_mem with h | ⟨m, hm, -, hmd⟩
      · exact ⟨0, le_rfl, h⟩
      · have := hall m hm
        omega
  | step _ ht ih =>
      obtain ⟨d, hdk, hd⟩ := ih (by omega)
      rcases I.closed _ hd _ ht with ⟨d', hd', h⟩ | ⟨m, hm, -, hmd⟩
      · exact ⟨d', by omega, h⟩
      · have := hall m hm
        omega

end BfsInv

/-- Once past the depth and visit checks, a node whose tuples the store lists is either a
match or expanded. -/
theorem walkLoop_expand {maxDepth : Nat} {visited : List String} {node : WalkNode}
    {queue : List WalkNode} (hdeep : ¬ node.depth > maxDepth) (hv : node.graphNode.key ∉ visited) :
    walkLoop maxDepth (listOf tuples) subjectType subjectID visited (node :: queue) =
      match scanTuples subjectType subjectID node (tuples node.graphNode) queue with
      | .inl path => ⟨true, path, none⟩
      | .inr queue' =>
          walkLoop maxDepth (listOf tuples) subjectType subjectID (node.graphNode.key :: visited) queue' := by
  have hv' : nodeKey node.objectType node.objectID node.relation ∉ visited := hv
  rw [walkLoop.eq_2, if_neg hdeep]
  simp only [if_neg hv', listOf]
  split <;> rename_i h <;> simp only [WalkNode.graphNode, GraphNode.key, h]

/-- A node whose visit key was seen leaves the queue. -/
theorem walkLoop_skip {maxDepth : Nat} {visited : List String} {node : WalkNode}
    {queue : List WalkNode} (hdeep : ¬ node.depth > maxDepth) (hv : node.graphNode.key ∈ visited) :
    walkLoop maxDepth (listOf tuples) subjectType subjectID visited (node :: queue) =
      walkLoop maxDepth (listOf tuples) subjectType subjectID visited queue := by
  have hv' : nodeKey node.objectType node.objectID node.relation ∈ visited := hv
  rw [walkLoop.eq_2, if_neg hdeep]
  simp only [if_pos hv']

/-- A node that names no subject is expanded: its children go to the back of the queue. -/
theorem walkLoop_expand_none {maxDepth : Nat} {visited : List String} {node : WalkNode}
    {queue : List WalkNode} (hdeep : ¬ node.depth > maxDepth) (hv : node.graphNode.key ∉ visited)
    (hnh : ∀ t ∈ tuples node.graphNode, ¬ (t.subjectType = subjectType ∧ t.subjectID = subjectID)) :
    walkLoop maxDepth (listOf tuples) subjectType subjectID visited (node :: queue) =
      walkLoop maxDepth (listOf tuples) subjectType subjectID (node.graphNode.key :: visited)
        (queue ++ (tuples node.graphNode).map (childOf node)) := by
  have hs : scanTuples subjectType subjectID node (tuples node.graphNode) queue =
      .inr (queue ++ (tuples node.graphNode).map (childOf node)) := scanTuples_eq_inr.2 ⟨hnh, rfl⟩
  rw [walkLoop_expand hdeep hv, hs]

/-- Completeness: when a node within `maxDepth` tuples names the subject and no two nodes
share a visit key, a walk from any state of the invariant allows. -/
theorem walkLoop_complete (hk : KeysDistinct tuples root) {maxDepth k : Nat} {x : GraphNode}
    (hkd : k ≤ maxDepth) (hr : Reach tuples root k x) (hh : Hit tuples subjectType subjectID x)
    (visited : List String) (queue : List WalkNode) (V : List (GraphNode × Nat))
    (I : BfsInv tuples subjectType subjectID root visited queue V) :
    (walkLoop maxDepth (listOf tuples) subjectType subjectID visited queue).allowed = true := by
  induction visited, queue using walkLoop.induct maxDepth (listOf tuples) subjectType subjectID
    generalizing V with
  | case1 visited =>
      obtain ⟨d, hd⟩ := I.reach_of_nil hr
      exact absurd hh (I.no_hit _ hd)
  | case2 visited node queue hdeep =>
      obtain ⟨d, -, hd⟩ := I.reach_of_deep hdeep hr hkd
      exact absurd hh (I.no_hit _ hd)
  | case3 visited node queue hdeep key hv ih =>
      rw [walkLoop.eq_2, if_neg hdeep, if_pos hv]
      exact ih V (I.skip hk hv)
  | case4 visited node queue hdeep key hv err herr => cases herr
  | case5 visited node queue hdeep key hv ts hts path hpath =>
      cases hts
      rw [walkLoop_expand hdeep hv, show scanTuples subjectType subjectID node (tuples node.graphNode)
        queue = .inl path from hpath]
  | case6 visited node queue hdeep key hv ts hts queue' hq ih =>
      cases hts
      replace hq : scanTuples subjectType subjectID node (tuples node.graphNode) queue = .inr queue' := hq
      rw [walkLoop_expand hdeep hv, hq]
      obtain ⟨hnone, rfl⟩ := scanTuples_eq_inr.1 hq
      exact ih _ (I.expand fun ⟨t, ht, hm⟩ => hnone t ht hm)

/-- Soundness: a walk whose queued nodes are all reachable at their depths allows only
through a node within `maxDepth` tuples that names the subject. -/
theorem walkLoop_sound {maxDepth : Nat} (visited : List String) (queue : List WalkNode)
    (hq : ∀ n ∈ queue, Reach tuples root n.depth n.graphNode)
    (h : (walkLoop maxDepth (listOf tuples) subjectType subjectID visited queue).allowed = true) :
    ∃ k ≤ maxDepth, ∃ x, Reach tuples root k x ∧ Hit tuples subjectType subjectID x := by
  induction visited, queue using walkLoop.induct maxDepth (listOf tuples) subjectType subjectID with
  | case1 visited => simp [walkLoop.eq_1] at h
  | case2 visited node queue hdeep =>
      rw [walkLoop.eq_2, if_pos hdeep] at h
      cases h
  | case3 visited node queue hdeep key hv ih =>
      rw [walkLoop.eq_2, if_neg hdeep, if_pos hv] at h
      exact ih (fun n hn => hq n (.tail _ hn)) h
  | case4 visited node queue hdeep key hv err herr => cases herr
  | case5 visited node queue hdeep key hv ts hts path hpath =>
      cases hts
      obtain ⟨t, ht, hm, -⟩ := scanTuples_eq_inl hpath
      exact ⟨node.depth, by omega, node.graphNode, hq node (List.mem_cons_self _ _), t, ht, hm⟩
  | case6 visited node queue hdeep key hv ts hts queue' hq' ih =>
      cases hts
      replace hq' : scanTuples subjectType subjectID node (tuples node.graphNode) queue = .inr queue' := hq'
      rw [walkLoop_expand hdeep hv, hq'] at h
      obtain ⟨-, rfl⟩ := scanTuples_eq_inr.1 hq'
      refine ih (fun n hn => ?_) h
      rcases List.mem_append.1 hn with hn | hn
      · exact hq n (.tail _ hn)
      · obtain ⟨t, ht, rfl⟩ := List.mem_map.1 hn
        simpa using Reach.step (hq node (List.mem_cons_self _ _)) ht

/-- Minimality: with distinct visit keys, a walk from a state of the invariant whose queued
nodes each carry, as their path, a chain of their depth from `root`, allows only at a node
the fewest tuples away among those that name the subject, and returns the chain to it with
the subject appended. -/
theorem walkLoop_minimal (hk : KeysDistinct tuples root) {maxDepth : Nat} (visited : List String)
    (queue : List WalkNode) (V : List (GraphNode × Nat))
    (I : BfsInv tuples subjectType subjectID root visited queue V)
    (hq : ∀ n ∈ queue, Chain tuples root n.depth n.graphNode n.path)
    (h : (walkLoop maxDepth (listOf tuples) subjectType subjectID visited queue).allowed = true) :
    ∃ k ≤ maxDepth, ∃ x ps, Chain tuples root k x ps ∧ Hit tuples subjectType subjectID x ∧
      (∀ j < k, ∀ y, Reach tuples root j y → ¬ Hit tuples subjectType subjectID y) ∧
      (walkLoop maxDepth (listOf tuples) subjectType subjectID visited queue).path =
        " -> ".intercalate (ps ++ [subjectType ++ ":" ++ subjectID]) := by
  induction visited, queue using walkLoop.induct maxDepth (listOf tuples) subjectType subjectID
    generalizing V with
  | case1 visited => simp [walkLoop.eq_1] at h
  | case2 visited node queue hdeep =>
      rw [walkLoop.eq_2, if_pos hdeep] at h
      cases h
  | case3 visited node queue hdeep key hv ih =>
      rw [walkLoop.eq_2, if_neg hdeep, if_pos hv] at h ⊢
      exact ih V (I.skip hk hv) (fun n hn => hq n (.tail _ hn)) h
  | case4 visited node queue hdeep key hv err herr => cases herr
  | case5 visited node queue hdeep key hv ts hts path hpath =>
      cases hts
      replace hpath : scanTuples subjectType subjectID node (tuples node.graphNode) queue = .inl path := hpath
      rw [walkLoop_expand hdeep hv, hpath]
      obtain ⟨t, ht, hm, rfl⟩ := scanTuples_eq_inl hpath
      refine ⟨node.depth, by omega, node.graphNode, node.path, hq node (List.mem_cons_self _ _), ⟨t, ht, hm⟩,
        fun j hj y hy hh => ?_, rfl⟩
      -- Every node fewer than `node.depth` tuples away was expanded, and none of those hits.
      obtain ⟨d, -, hd⟩ := I.reach_of_deep hj hy le_rfl
      exact I.no_hit _ hd hh
  | case6 visited node queue hdeep key hv ts hts queue' hq' ih =>
      cases hts
      replace hq' : scanTuples subjectType subjectID node (tuples node.graphNode) queue = .inr queue' := hq'
      rw [walkLoop_expand hdeep hv, hq'] at h ⊢
      obtain ⟨hnone, rfl⟩ := scanTuples_eq_inr.1 hq'
      refine ih _ (I.expand fun ⟨t, ht, hm⟩ => hnone t ht hm) (fun n hn => ?_) h
      rcases List.mem_append.1 hn with hn | hn
      · exact hq n (.tail _ hn)
      · obtain ⟨t, ht, rfl⟩ := List.mem_map.1 hn
        simpa using (hq node (List.mem_cons_self _ _)).step ht

/-- Over a store that never fails, a walk ends without an error or with the depth error. -/
theorem walkLoop_err {maxDepth : Nat} (visited : List String) (queue : List WalkNode) :
    (walkLoop maxDepth (listOf tuples) subjectType subjectID visited queue).err = none ∨
      (walkLoop maxDepth (listOf tuples) subjectType subjectID visited queue).err =
        some errGraphDepthExceeded := by
  induction visited, queue using walkLoop.induct maxDepth (listOf tuples) subjectType subjectID with
  | case1 visited => exact .inl (by rw [walkLoop.eq_1])
  | case2 visited node queue hdeep => exact .inr (by rw [walkLoop.eq_2, if_pos hdeep])
  | case3 visited node queue hdeep key hv ih => rwa [walkLoop.eq_2, if_neg hdeep, if_pos hv]
  | case4 visited node queue hdeep key hv err herr => cases herr
  | case5 visited node queue hdeep key hv ts hts path hpath =>
      cases hts
      rw [walkLoop_expand hdeep hv, show scanTuples subjectType subjectID node (tuples node.graphNode)
        queue = .inl path from hpath]
      exact .inl rfl
  | case6 visited node queue hdeep key hv ts hts queue' hq ih =>
      cases hts
      replace hq : scanTuples subjectType subjectID node (tuples node.graphNode) queue = .inr queue' := hq
      rwa [walkLoop_expand hdeep hv, hq]

theorem Reach.mono {tuples' : GraphNode → List Tuple} (h : ∀ x, tuples x ⊆ tuples' x) {k : Nat}
    {x : GraphNode} (hr : Reach tuples root k x) : Reach tuples' root k x := by
  induction hr with
  | root => exact .root
  | step _ ht ih => exact .step ih (h _ ht)

theorem Hit.mono {tuples' : GraphNode → List Tuple} (h : ∀ x, tuples x ⊆ tuples' x) {x : GraphNode}
    (hh : Hit tuples subjectType subjectID x) : Hit tuples' subjectType subjectID x := by
  obtain ⟨t, ht, hm⟩ := hh
  exact ⟨t, h x ht, hm⟩

end Walk

/-- The node a walk for `req` starts from: the resource under the action's relation. -/
def rootNode (req : CheckRequest) : GraphNode := ⟨req.resource.type, req.resource.id, req.action.name⟩

section Bfs

variable {maxDepth : Nat} {relStore : Store} {tenantID : String} {req : CheckRequest}
  {tuples : GraphNode → List Tuple}

/-- A walk allows only through a node within `maxDepth` tuples that names the subject. -/
theorem bfsWalk_sound (hls : relStore.listRelationSubjects tenantID = listOf tuples)
    (h : (bfsWalk maxDepth relStore tenantID req).allowed = true) :
    ∃ k ≤ maxDepth, ∃ x, Reach tuples (rootNode req) k x ∧ Hit tuples req.subject.kind req.subject.id x := by
  rw [bfsWalk, hls] at h
  refine walkLoop_sound _ _ (fun n hn => ?_) h
  rw [List.mem_singleton.1 hn]
  exact .root

/-- With distinct visit keys, a node within `maxDepth` tuples that names the subject makes
the walk allow. -/
theorem bfsWalk_complete (hls : relStore.listRelationSubjects tenantID = listOf tuples)
    (hk : KeysDistinct tuples (rootNode req)) {k : Nat} {x : GraphNode} (hkd : k ≤ maxDepth)
    (hr : Reach tuples (rootNode req) k x) (hh : Hit tuples req.subject.kind req.subject.id x) :
    (bfsWalk maxDepth relStore tenantID req).allowed = true := by
  rw [bfsWalk, hls]
  exact walkLoop_complete hk hkd hr hh _ _ _ (bfsInv_start rfl rfl)

theorem bfsWalk_err (hls : relStore.listRelationSubjects tenantID = listOf tuples) :
    (bfsWalk maxDepth relStore tenantID req).err = none ∨
      (bfsWalk maxDepth relStore tenantID req).err = some errGraphDepthExceeded := by
  rw [bfsWalk, hls]
  exact walkLoop_err _ _

/-- Over a store that lists `tuples` and never fails, and with distinct visit keys, the BFS
walk allows exactly when a node within `maxDepth` tuples of the resource names the subject. -/
theorem bfsWalk_allowed_iff (hls : relStore.listRelationSubjects tenantID = listOf tuples)
    (hk : KeysDistinct tuples (rootNode req)) :
    (bfsWalk maxDepth relStore tenantID req).allowed = true ↔
      ∃ k ≤ maxDepth, ∃ x, Reach tuples (rootNode req) k x ∧ Hit tuples req.subject.kind req.subject.id x :=
  ⟨bfsWalk_sound hls, fun ⟨_, hkd, _, hr, hh⟩ => bfsWalk_complete hls hk hkd hr hh⟩

end Bfs

end Warden
