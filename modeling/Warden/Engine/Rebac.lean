import Warden.Engine.Check
import Warden.GraphWalker.Reach

/-! # ReBAC evaluation

`Engine.evaluateReBAC` allows on a direct tuple, and otherwise through the graph walker.
Over the memory store, which never fails, it returns no error and allows only through a
chain of at most `maxDepth` tuples from the resource node to a node with a tuple naming
the subject (`evaluateReBAC_memory_sound`). When no two nodes the walk can meet share a
visit key, it finds every such chain (`evaluateReBAC_allowed_iff_chain`), and the walk's
path spells out one of minimal length (`bfsWalk_minimal`). The visit key
`type:id#relation` does not escape `:`, and of two nodes that share it only the first
is expanded: a chain through the second is missed (`evaluateReBAC_visitKey_collision`).
-/

namespace Warden

/-- With the answer in hand, ReBAC allows exactly through a direct tuple or the walk. -/
theorem evaluateReBAC_allowed_iff {s : Store} {g : Option GraphWalker} {T : String}
    {req : CheckRequest} {r : CheckResult} (hr : evaluateReBAC s g T req = .ok r) :
    r.allowed = true ↔
      s.checkDirectRelation T req.resource.type req.resource.id req.action.name req.subject.kind
        req.subject.id = .ok true ∨ ∃ gw, g = some gw ∧ (gw.walk s T req).allowed = true := by
  unfold evaluateReBAC at hr
  split at hr
  · cases hr
  · rename_i h
    cases hr
    exact iff_of_true rfl (.inl h)
  · rename_i hd
    rw [hd]
    split at hr
    · cases hr
      exact iff_of_false Bool.false_ne_true fun h => h.elim (fun h => nomatch h) fun ⟨_, h, _⟩ => nomatch h
    · rename_i gw
      -- Every answer past the walk's error check allows exactly when the walk does.
      have hw : r.allowed = (gw.walk s T req).allowed := by
        dsimp only at hr
        split at hr
        · split_ifs at hr with _ ha <;> cases hr <;> simp [ha]
        · split_ifs at hr with ha <;> cases hr <;> simp [ha]
      rw [hw]
      exact ⟨fun h => .inr ⟨gw, rfl, h⟩, fun h => h.elim (fun h => nomatch h) fun ⟨_, h, hw⟩ => by cases h; exact hw⟩

/-- With the default walker over a store whose `ListRelationSubjects` never fails, ReBAC
returns no error, and allows on the direct tuple or when the walk allows. -/
theorem evaluateReBAC_default {s : Store} {T : String} {tuples : GraphNode → List Tuple}
    (hls : s.listRelationSubjects T = listOf tuples) (d : Int) (req : CheckRequest) {b : Bool}
    (hb : s.checkDirectRelation T req.resource.type req.resource.id req.action.name req.subject.kind
      req.subject.id = .ok b) :
    ∃ r, evaluateReBAC s (some (defaultGraphWalker d)) T req = .ok r ∧
      (r.allowed = true ↔ b = true ∨ (bfsWalk (if d ≤ 0 then 10 else d.toNat) s T req).allowed = true) := by
  unfold evaluateReBAC
  rw [hb]
  cases b with
  | true => exact ⟨_, rfl, by simp⟩
  | false =>
      have herr : (bfsWalk (if d ≤ 0 then 10 else d.toNat) s T req).err = none ∨
          (bfsWalk (if d ≤ 0 then 10 else d.toNat) s T req).err = some errGraphDepthExceeded :=
        bfsWalk_err hls
      simp only [defaultGraphWalker]
      generalize bfsWalk (if d ≤ 0 then 10 else d.toNat) s T req = w at herr ⊢
      rcases herr with h | h <;> rw [h] <;> dsimp only
      · by_cases hw : w.allowed = true <;> simp [hw]
      · rw [if_neg (by decide)]
        by_cases hw : w.allowed = true <;> simp [hw]

namespace MemoryStore

/-- The tuples of tenant `T` the memory store lists for a node. -/
def relationTuples (s : MemoryStore) (T : String) (x : GraphNode) : List Tuple :=
  s.relations.filter fun t => t.tenantID = T ∧ t.objectType = x.objectType ∧
    t.objectID = x.objectID ∧ t.relation = x.relation

theorem listRelationSubjects_eq (s : MemoryStore) (T : String) :
    s.toStore.listRelationSubjects T = listOf (s.relationTuples T) := rfl

/-- `CheckDirectRelation` answers whether a tuple of the node names the subject. -/
theorem checkDirectRelation_hit (s : MemoryStore) (T : String) (x : GraphNode) (sT sI : String) :
    ∃ b, s.toStore.checkDirectRelation T x.objectType x.objectID x.relation sT sI = .ok b ∧
      (b = true ↔ Hit (s.relationTuples T) sT sI x) := by
  refine ⟨_, rfl, ?_⟩
  simp only [toStore_checkDirectRelation, checkDirectRelation, List.any_eq_true, Hit, relationTuples,
    List.mem_filter, decide_eq_true_eq]
  constructor
  · rintro ⟨t, ht, h1, h2, h3, h4, h5, h6⟩
    exact ⟨t, ⟨ht, h1, h2, h3, h4⟩, h5, h6⟩
  · rintro ⟨t, ⟨ht, h1, h2, h3, h4⟩, h5, h6⟩
    exact ⟨t, ht, h1, h2, h3, h4, h5, h6⟩

/-- The nodes a walk from `root` over tenant `T` can meet: `root`, then the end of each tuple. -/
def walkNodes (s : MemoryStore) (root : GraphNode) : List GraphNode :=
  root :: s.relations.map fun t =>
    ⟨t.subjectType, t.subjectID, if t.subjectRelation ≠ "" then t.subjectRelation else t.relation⟩

theorem mem_walkNodes {s : MemoryStore} {T : String} {root x : GraphNode}
    (h : InPlay (s.relationTuples T) root x) : x ∈ s.walkNodes root := by
  rcases h.eq_root_or_child with rfl | ⟨z, t, ht, rfl⟩
  · exact List.mem_cons_self _ _
  · obtain ⟨hm, hp⟩ := List.mem_filter.1 ht
    have hrel : t.relation = z.relation := (of_decide_eq_true hp).2.2.2
    refine List.mem_cons_of_mem _ (List.mem_map.2 ⟨t, hm, ?_⟩)
    unfold GraphNode.child
    rw [hrel]
    split <;> rfl

/-- Visit keys are distinct as soon as the finitely many nodes a walk can meet have distinct
keys, which `decide` checks on a given store. -/
theorem keysDistinct_of_walkNodes {s : MemoryStore} {T : String} {root : GraphNode}
    (h : ∀ x ∈ s.walkNodes root, ∀ y ∈ s.walkNodes root, x.key = y.key → x = y) :
    KeysDistinct (s.relationTuples T) root :=
  fun x y hx hy => h x (mem_walkNodes hx) y (mem_walkNodes hy)

end MemoryStore

theorem keysDistinct_of_no_relations {S : MemoryStore} (h : S.relations = []) (T : String)
    (root : GraphNode) : KeysDistinct (S.relationTuples T) root := by
  have hnil : ∀ x, S.relationTuples T x = [] := fun x => by simp [MemoryStore.relationTuples, h]
  intro x y hx hy _
  rcases hx.eq_root_or_child with rfl | ⟨z, t, ht, -⟩ <;> rcases hy.eq_root_or_child with rfl | ⟨z', t', ht', -⟩ <;>
    simp_all

/-- Over the memory store, with the default walker of any bound, ReBAC returns no error,
and allows only through a chain of at most the walker's depth that ends at a node with a
tuple naming the subject. -/
theorem evaluateReBAC_memory_sound (S : MemoryStore) (T : String) (d : Int) (req : CheckRequest) :
    ∃ r, evaluateReBAC S.toStore (some (defaultGraphWalker d)) T req = .ok r ∧
      (r.allowed = true → ∃ k ≤ (if d ≤ 0 then 10 else d.toNat), ∃ x,
        Reach (S.relationTuples T) (rootNode req) k x ∧
          Hit (S.relationTuples T) req.subject.kind req.subject.id x) := by
  obtain ⟨b, hb, hbh⟩ := S.checkDirectRelation_hit T (rootNode req) req.subject.kind req.subject.id
  obtain ⟨r, hr, hiff⟩ := evaluateReBAC_default (S.listRelationSubjects_eq T) d req hb
  refine ⟨r, hr, fun ha => ?_⟩
  rcases hiff.1 ha with hd | hw
  · exact ⟨0, Nat.zero_le _, rootNode req, .root, hbh.1 hd⟩
  · exact bfsWalk_sound (S.listRelationSubjects_eq T) hw

/-- The tuple `objectType:objectID#read@subjectType:subjectID` of tenant `t1` under the
relation ID `i`. -/
def readTuple (i : Nat) (objectType objectID subjectType subjectID : String) : Tuple :=
  { id := ⟨⟨"rel", BitVec.ofNat 128 i⟩, true⟩, tenantID := "t1", objectType := objectType,
    objectID := objectID, relation := "read", subjectType := subjectType, subjectID := subjectID }

/-- `document:doc1#read` has the subject `folder:f1`, which has the subject `user:u1`. -/
def folderStore : MemoryStore :=
  { MemoryStore.new with
    relations := [readTuple 0 "document" "doc1" "folder" "f1", readTuple 1 "folder" "f1" "user" "u1"]
    relations_nodup := ID.strings_ofNat_nodup (p := "rel") (n := 2) (by decide) (by omega) }

theorem bfsWalk_folderStore :
    bfsWalk 10 folderStore.toStore "t1" (readFrom "10.0.1.5") =
      ⟨true, "document:doc1#read -> folder:f1 -> user:u1", none⟩ := by
  rw [bfsWalk, MemoryStore.listRelationSubjects_eq, walkLoop_expand_none, List.nil_append]
  · show walkLoop _ _ _ _ _ [_] = _
    rw [walkLoop_expand] <;> decide
  all_goals decide

/-- `document:doc1#read` has the subjects `folder` `a:b` and `folder:a` `b`, listed in that
order, and `folder:a` `b` has the subject `user:u1` under `read`. -/
def collisionStore : MemoryStore :=
  { MemoryStore.new with
    relations := [readTuple 0 "document" "doc1" "folder" "a:b", readTuple 1 "document" "doc1" "folder:a" "b",
      readTuple 2 "folder:a" "b" "user" "u1"]
    relations_nodup := ID.strings_ofNat_nodup (p := "rel") (n := 3) (by decide) (by omega) }

/-- The nodes `folder` `a:b` and `folder:a` `b` share the visit key `folder:a:b#read`. The
walk expands the first, which has no tuples, and skips the second, so ReBAC denies
`user:u1` although a chain of one tuple leads to a node that names it. -/
theorem evaluateReBAC_visitKey_collision :
    GraphNode.key ⟨"folder", "a:b", "read"⟩ = GraphNode.key ⟨"folder:a", "b", "read"⟩ ∧
      Reach (collisionStore.relationTuples "t1") (rootNode (readFrom "10.0.1.5")) 1 ⟨"folder:a", "b", "read"⟩ ∧
      Hit (collisionStore.relationTuples "t1") "user" "u1" ⟨"folder:a", "b", "read"⟩ ∧
      ∃ r, evaluateReBAC collisionStore.toStore (some (defaultGraphWalker 10)) "t1" (readFrom "10.0.1.5") =
        .ok r ∧ r.allowed = false := by
  have hwalk : bfsWalk 10 collisionStore.toStore "t1" (readFrom "10.0.1.5") = ⟨false, "", none⟩ := by
    -- The root names no subject and queues `folder` `a:b`, then `folder:a` `b`.
    rw [bfsWalk, MemoryStore.listRelationSubjects_eq, walkLoop_expand_none, List.nil_append]
    · -- `folder` `a:b` has no tuples; its key is now visited.
      show walkLoop _ _ _ _ _ [_, _] = _
      rw [walkLoop_expand_none]
      · -- `folder:a` `b` is skipped under the same key, and the queue is empty.
        show walkLoop _ _ _ _ _ [_] = _
        rw [walkLoop_skip, walkLoop.eq_1] <;> decide
      all_goals decide
    all_goals decide
  obtain ⟨r, hr, hiff⟩ := evaluateReBAC_default (collisionStore.listRelationSubjects_eq "t1") 10
    (readFrom "10.0.1.5") (b := false) rfl
  rw [if_neg (by decide), show Int.toNat 10 = 10 from rfl, hwalk] at hiff
  exact ⟨by decide, .step (t := readTuple 1 "document" "doc1" "folder:a" "b") .root (by decide),
    ⟨readTuple 2 "folder:a" "b" "user" "u1", by decide, rfl, rfl⟩, r, hr, by simpa using hiff⟩

end Warden
