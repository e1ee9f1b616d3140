import Warden.Types

/-! # The in-memory check result cache

`cache.Memory` maps the key `tenant:kind:id:action:type:id` to a result and its expiry.
`Get` answers only unexpired entries and deletes an expired one; `Set` makes room when the
cache is full, first by dropping expired entries and then one arbitrary entry;
`InvalidateTenant` and `InvalidateSubject` drop the entries under a key prefix.

A run of calls is a list of `Op`s. Two invariants hold along every run: every entry is the
result of the latest `Set` of its key that no later call has removed (`Traced`), and with a
capacity of at least one the cache never holds more entries than its capacity.

## Implementation notes

Go's map iteration order decides which entry `evictOne` removes; here the call names it by
an index into the entries, so a run fixes every such choice. The map is a list of entries
whose keys `insertKey` keeps distinct.
-/

namespace Warden

/-- `cacheKey(tenantID, req)`: the six fields joined by `:`. -/
def cacheKey (tenantID : String) (req : CheckRequest) : String :=
  tenantID ++ ":" ++ req.subject.kind ++ ":" ++ req.subject.id ++ ":" ++ req.action.name ++ ":" ++
    req.resource.type ++ ":" ++ req.resource.id

/-- `cache.entry`. -/
structure Entry where
  result : CheckResult
  expiresAt : Int
  deriving DecidableEq, Repr

/-- `cache.Memory`: entries, time-to-live in nanoseconds, and capacity. -/
structure Memory where
  entries : List (String × Entry)
  ttl : Int
  maxSize : Int
  deriving DecidableEq, Repr

/-- `WithTTL(ttl)`. -/
def withTTL (ttl : Int) (m : Memory) : Memory := { m with ttl := ttl }

/-- `WithMaxSize(n)`. -/
def withMaxSize (n : Int) (m : Memory) : Memory := { m with maxSize := n }

/-- `NewMemory(opts...)`: empty, five minutes to live, room for 10000 entries. -/
def newMemory (opts : List (Memory → Memory)) : Memory :=
  opts.foldl (fun m opt => opt m) ⟨[], 5 * 60 * 1000000000, 10000⟩

/-- `delete(m.entries, key)`. -/
def eraseKey (key : String) (entries : List (String × Entry)) : List (String × Entry) :=
  entries.filter (·.1 ≠ key)

/-- `m.entries[key] = e`. -/
def insertKey (key : String) (e : Entry) (entries : List (String × Entry)) : List (String × Entry) :=
  (key, e) :: eraseKey key entries

/-- Delete every entry whose key satisfies `p`, as the invalidation loops do. -/
def deleteKeys (p : String → Bool) (entries : List (String × Entry)) : List (String × Entry) :=
  entries.filter fun e => !p e.1

/-- The keys `InvalidateTenant(tenantID)` deletes: longer than `tenantID:` and starting with it. -/
def tenantKey (tenantID k : String) : Bool :=
  let pfx := tenantID ++ ":"
  decide (pfx.length < k.length) && hasPrefix k pfx

/-- The keys `InvalidateSubject(tenantID, kind, id)` deletes: at least as long as
`tenantID:kind:id:` and starting with it. -/
def subjectKey (tenantID subjectKind subjectID k : String) : Bool :=
  let subKey := tenantID ++ ":" ++ subjectKind ++ ":" ++ subjectID ++ ":"
  decide (subKey.length ≤ k.length) && hasPrefix k subKey

namespace Memory

/-- `Memory.Get`: the result and the cache after the call. -/
def get (m : Memory) (now : Int) (tenantID : String) (req : CheckRequest) : Option CheckResult × Memory :=
  let key := cacheKey tenantID req
  match m.entries.lookup key with
  | none => (none, m)
  | some e =>
      if now > e.expiresAt then (none, { m with entries := eraseKey key m.entries })
      else (some e.result, m)

/-- `evictExpired`. -/
def evictExpired (m : Memory) (now : Int) : Memory :=
  { m with entries := m.entries.filter fun e => !(now > e.2.expiresAt) }

/-- `evictOne`: remove the entry the map iteration yields first, here the `victim`-th. -/
def evictOne (m : Memory) (victim : Nat) : Memory :=
  if m.entries = [] then m else { m with entries := m.entries.eraseIdx (victim % m.entries.length) }

/-- The eviction block of `Memory.Set`: "Evict if at capacity". -/
def makeRoom (m : Memory) (now : Int) (victim : Nat) : Memory :=
  if (m.entries.length : Int) ≥ m.maxSize then
    let m := m.evictExpired now
    if (m.entries.length : Int) ≥ m.maxSize then m.evictOne victim else m
  else m

/-- `Memory.Set`. -/
def set (m : Memory) (now : Int) (victim : Nat) (tenantID : String) (req : CheckRequest)
    (result : CheckResult) : Memory :=
  let key := cacheKey tenantID req
  let m := m.makeRoom now victim
  { m with entries := insertKey key ⟨result, now + m.ttl⟩ m.entries }

/-- `Memory.InvalidateTenant`. -/
def invalidateTenant (m : Memory) (tenantID : String) : Memory :=
  { m with entries := deleteKeys (tenantKey tenantID) m.entries }

/-- `Memory.InvalidateSubject`. -/
def invalidateSubject (m : Memory) (tenantID subjectKind subjectID : String) : Memory :=
  { m with entries := deleteKeys (subjectKey tenantID subjectKind subjectID) m.entries }

end Memory

/-- One call on the cache; `set` names the entry its `evictOne` would remove. -/
inductive Op where
  | get (now : Int) (tenantID : String) (req : CheckRequest)
  | set (now : Int) (tenantID : String) (req : CheckRequest) (result : CheckResult) (victim : Nat)
  | invalidateTenant (tenantID : String)
  | invalidateSubject (tenantID subjectKind subjectID : String)

namespace Memory

/-- The cache after one call. -/
def apply (m : Memory) : Op → Memory
  | .get now tenantID req => (m.get now tenantID req).2
  | .set now tenantID req result victim => m.set now victim tenantID req result
  | .invalidateTenant tenantID => m.invalidateTenant tenantID
  | .invalidateSubject tenantID kind id => m.invalidateSubject tenantID kind id

/-- The cache after a run of calls. -/
def run (m : Memory) (ops : List Op) : Memory := ops.foldl apply m

@[simp] theorem run_nil (m : Memory) : m.run [] = m := rfl

@[simp] theorem run_cons (m : Memory) (op : Op) (ops : List Op) :
    m.run (op :: ops) = (m.apply op).run ops := rfl

end Memory

theorem mem_eraseKey {k : String} {x : String × Entry} {l : List (String × Entry)} :
    x ∈ eraseKey k l ↔ x ∈ l ∧ x.1 ≠ k := by
  simp [eraseKey]

theorem mem_insertKey {k : String} {e : Entry} {x : String × Entry} {l : List (String × Entry)} :
    x ∈ insertKey k e l ↔ x = (k, e) ∨ (x ∈ l ∧ x.1 ≠ k) := by
  simp [insertKey, mem_eraseKey]

theorem mem_deleteKeys {p : String → Bool} {x : String × Entry} {l : List (String × Entry)} :
    x ∈ deleteKeys p l ↔ x ∈ l ∧ p x.1 = false := by
  simp [deleteKeys]

theorem length_insertKey_le (k : String) (e : Entry) (l : List (String × Entry)) :
    (insertKey k e l).length ≤ l.length + 1 := by
  simpa [insertKey, eraseKey] using List.length_filter_le _ l

theorem mem_of_lookup_eq_some {k : String} {e : Entry} {l : List (String × Entry)}
    (h : l.lookup k = some e) : (k, e) ∈ l := by
  induction l with
  | nil => cases h
  | cons x l ih =>
      obtain ⟨k', e'⟩ := x
      by_cases hk : k = k'
      · subst hk
        rw [List.lookup_cons_self, Option.some.injEq] at h
        simp [h]
      · have hb : (k == k') = false := by simp [hk]
        rw [List.lookup_cons, hb] at h
        exact List.mem_cons_of_mem _ (ih h)

namespace Memory

theorem get_snd (m : Memory) (now : Int) (tenantID : String) (req : CheckRequest) :
    (m.get now tenantID req).2 = m ∨
      (m.get now tenantID req).2 = { m with entries := eraseKey (cacheKey tenantID req) m.entries } := by
  simp only [get]
  split
  · exact .inl rfl
  · split
    · exact .inr rfl
    · exact .inl rfl

theorem get_fst {m : Memory} {now : Int} {tenantID : String} {req : CheckRequest} {r : CheckResult}
    (h : (m.get now tenantID req).1 = some r) :
    ∃ e, m.entries.lookup (cacheKey tenantID req) = some e ∧ now ≤ e.expiresAt ∧ e.result = r := by
  simp only [get] at h
  split at h
  · cases h
  · rename_i e he
    split at h
    · cases h
    · exact ⟨e, he, by omega, Option.some.inj h⟩

theorem get_entries_subset (m : Memory) (now : Int) (tenantID : String) (req : CheckRequest) :
    (m.get now tenantID req).2.entries ⊆ m.entries := by
  rcases get_snd m now tenantID req with h | h <;> rw [h]
  · exact List.Subset.refl _
  · exact fun x hx => (mem_eraseKey.1 hx).1

/-- An unexpired entry answers `Get`, which then leaves the cache as it was. -/
theorem get_of_lookup {m : Memory} {now : Int} {tenantID : String} {req : CheckRequest} {e : Entry}
    (h : m.entries.lookup (cacheKey tenantID req) = some e) (hn : now ≤ e.expiresAt) :
    m.get now tenantID req = (some e.result, m) := by
  simp only [get, h, gt_iff_lt, if_neg (not_lt.2 hn)]

theorem get_ttl (m : Memory) (now : Int) (tenantID : String) (req : CheckRequest) :
    (m.get now tenantID req).2.ttl = m.ttl := by
  rcases get_snd m now tenantID req with h | h <;> rw [h]

/-- The eviction block changes only the entries. -/
theorem makeRoom_frame (m : Memory) (now : Int) (victim : Nat) :
    m.makeRoom now victim = { m with entries := (m.makeRoom now victim).entries } := by
  unfold makeRoom
  split
  · dsimp only
    split
    · unfold evictOne
      split <;> rfl
    · rfl
  · rfl

@[simp] theorem makeRoom_ttl (m : Memory) (now : Int) (victim : Nat) :
    (m.makeRoom now victim).ttl = m.ttl :=
  (congrArg Memory.ttl (makeRoom_frame m now victim)).trans rfl

@[simp] theorem makeRoom_maxSize (m : Memory) (now : Int) (victim : Nat) :
    (m.makeRoom now victim).maxSize = m.maxSize :=
  (congrArg Memory.maxSize (makeRoom_frame m now victim)).trans rfl

theorem set_entries (m : Memory) (now : Int) (victim : Nat) (tenantID : String) (req : CheckRequest)
    (result : CheckResult) : (m.set now victim tenantID req result).entries =
      insertKey (cacheKey tenantID req) ⟨result, now + m.ttl⟩ (m.makeRoom now victim).entries := by
  simp [set]

/-- After `Set`, `Get` of the same key answers the stored result until it expires. -/
theorem get_set_self (m : Memory) (now : Int) (victim : Nat) (tenantID : String) (req : CheckRequest)
    (result : CheckResult) {now' : Int} (h : now' ≤ now + m.ttl) :
    (m.set now victim tenantID req result).get now' tenantID req = (some result, m.set now victim tenantID req result) :=
  get_of_lookup (by rw [set_entries, insertKey, List.lookup_cons_self]) h

theorem makeRoom_subset (m : Memory) (now : Int) (victim : Nat) :
    (m.makeRoom now victim).entries ⊆ m.entries := by
  simp only [makeRoom, evictExpired, evictOne]
  split_ifs
  · exact (List.filter_sublist _).subset
  · exact (List.eraseIdx_sublist _ _).subset.trans (List.filter_sublist _).subset
  · exact (List.filter_sublist _).subset
  · exact List.Subset.refl _

/-- With a capacity of at least one, a full cache frees a place before the insertion. -/
theorem makeRoom_length_lt (m : Memory) (now : Int) (victim : Nat) (h1 : 1 ≤ m.maxSize)
    (h : (m.entries.length : Int) ≤ m.maxSize) : ((m.makeRoom now victim).entries.length : Int) < m.maxSize := by
  have hle := List.length_filter_le (fun e : String × Entry => !(now > e.2.expiresAt)) m.entries
  simp only [makeRoom, evictExpired, evictOne]
  split_ifs with hfull hfull' hnil <;> try dsimp only at *
  · simp [hnil] at hfull'; omega
  · simp only [List.length_eraseIdx]
    rw [if_pos (Nat.mod_lt _ (List.length_pos.2 hnil))]
    omega
  · omega
  · omega

@[simp] theorem apply_ttl (m : Memory) (op : Op) : (m.apply op).ttl = m.ttl := by
  cases op with
  | get now tenantID req => rcases get_snd m now tenantID req with h | h <;> simp [apply, h]
  | set => simp [apply, set]
  | invalidateTenant => rfl
  | invalidateSubject => rfl

@[simp] theorem apply_maxSize (m : Memory) (op : Op) : (m.apply op).maxSize = m.maxSize := by
  cases op with
  | get now tenantID req => rcases get_snd m now tenantID req with h | h <;> simp [apply, h]
  | set => simp [apply, set]
  | invalidateTenant => rfl
  | invalidateSubject => rfl

@[simp] theorem run_ttl (m : Memory) (ops : List Op) : (m.run ops).ttl = m.ttl := by
  induction ops generalizing m with
  | nil => rfl
  | cons op ops ih => simp [ih]

@[simp] theorem run_maxSize (m : Memory) (ops : List Op) : (m.run ops).maxSize = m.maxSize := by
  induction ops generalizing m with
  | nil => rfl
  | cons op ops ih => simp [ih]

/-- One call keeps the number of entries within a capacity of at least one. -/
theorem apply_length_le (m : Memory) (op : Op) (h1 : 1 ≤ m.maxSize)
    (h : (m.entries.length : Int) ≤ m.maxSize) : ((m.apply op).entries.length : Int) ≤ m.maxSize := by
  cases op with
  | get now tenantID req =>
      rcases get_snd m now tenantID req with h' | h' <;> simp only [apply, h']
      · exact h
      · have := List.length_filter_le (fun x : String × Entry => decide (x.1 ≠ cacheKey tenantID req)) m.entries
        simp only [eraseKey]
        omega
  | set now tenantID req result victim =>
      have hlt := makeRoom_length_lt m now victim h1 h
      have hins := length_insertKey_le (cacheKey tenantID req) ⟨result, now + m.ttl⟩ (m.makeRoom now victim).entries
      simp only [apply, set_entries]
      omega
  | invalidateTenant tenantID =>
      have := List.length_filter_le (fun e : String × Entry => !tenantKey tenantID e.1) m.entries
      simp only [apply, invalidateTenant, deleteKeys]
      omega
  | invalidateSubject tenantID kind id =>
      have := List.length_filter_le (fun e : String × Entry => !subjectKey tenantID kind id e.1) m.entries
      simp only [apply, invalidateSubject, deleteKeys]
      omega

/-- Along every run, a cache with a capacity of at least one never holds more entries
than its capacity. -/
theorem run_length_le (m : Memory) (ops : List Op) (h1 : 1 ≤ m.maxSize)
    (h : (m.entries.length : Int) ≤ m.maxSize) : ((m.run ops).entries.length : Int) ≤ m.maxSize := by
  induction ops generalizing m with
  | nil => exact h
  | cons op ops ih =>
      have := ih (m.apply op) (by simpa using h1) (by simpa using apply_length_le m op h1 h)
      simpa using this

/-- A read of `doc:id` by `user:u1`. -/
def readDoc (id : String) : CheckRequest :=
  { subject := ⟨"user", "u1", []⟩, action := ⟨"read"⟩, resource := ⟨"doc", id, []⟩ }

theorem run_length_le_three_sets :
    (((newMemory [withMaxSize 2]).run
        (["d1", "d2", "d3"].map fun id => .set 0 "t1" (readDoc id) {} 0)).entries.length : Int) ≤
      (newMemory [withMaxSize 2]).maxSize :=
  run_length_le _ _ (by decide) (by decide)

end Memory

/-- The call removes or replaces whatever entry the key `k` holds. -/
def Op.Touches (k : String) : Op → Prop
  | .get .. => False
  | .set _ tenantID req _ _ => cacheKey tenantID req = k
  | .invalidateTenant tenantID => tenantKey tenantID k = true
  | .invalidateSubject tenantID kind id => subjectKey tenantID kind id k = true

namespace Memory

/-- Every entry holds the result of a `Set` of its key in the history `hist`, expires `ttl`
after that call, and no later call of `hist` touched the key. -/
def Traced (hist : List Op) (m : Memory) : Prop :=
  ∀ k e, (k, e) ∈ m.entries → ∃ pre now tenantID req victim post,
    hist = pre ++ Op.set now tenantID req e.result victim :: post ∧ cacheKey tenantID req = k ∧
      e.expiresAt = now + m.ttl ∧ ∀ op ∈ post, ¬ op.Touches k

theorem traced_nil {m : Memory} (h : m.entries = []) : Traced [] m := by
  intro k e he
  simp [h] at he

/-- An entry that a call kept was there before it, and the call did not touch its key. -/
theorem apply_kept {m : Memory} {op : Op} {k : String} {e : Entry} (h : (k, e) ∈ (m.apply op).entries) :
    (∃ now tenantID req result victim, op = .set now tenantID req result victim ∧
      cacheKey tenantID req = k ∧ e = ⟨result, now + m.ttl⟩) ∨ ((k, e) ∈ m.entries ∧ ¬ op.Touches k) := by
  cases op with
  | get now tenantID req => exact .inr ⟨get_entries_subset m now tenantID req h, id⟩
  | set now tenantID req result victim =>
      rw [apply, set_entries, mem_insertKey] at h
      rcases h with h | ⟨h, hk⟩
      · obtain ⟨rfl, rfl⟩ := Prod.mk.inj h
        exact .inl ⟨now, tenantID, req, result, victim, rfl, rfl, rfl⟩
      · exact .inr ⟨makeRoom_subset m now victim h, fun hk' => hk hk'.symm⟩
  | invalidateTenant tenantID =>
      obtain ⟨h, hk⟩ := mem_deleteKeys.1 h
      exact .inr ⟨h, by simp [Op.Touches, hk]⟩
  | invalidateSubject tenantID kind id =>
      obtain ⟨h, hk⟩ := mem_deleteKeys.1 h
      exact .inr ⟨h, by simp [Op.Touches, hk]⟩

/-- One call keeps every entry traced to the latest `Set` of its key. -/
theorem traced_apply {hist : List Op} {m : Memory} (ht : Traced hist m) (op : Op) :
    Traced (hist ++ [op]) (m.apply op) := by
  intro k e he
  rcases apply_kept he with ⟨now, tenantID, req, result, victim, rfl, hk, rfl⟩ | ⟨he, hop⟩
  · exact ⟨hist, now, tenantID, req, victim, [], by simp, hk, by simp, by simp⟩
  · obtain ⟨pre, now, tenantID, req, victim, post, rfl, hk, hexp, hpost⟩ := ht k e he
    refine ⟨pre, now, tenantID, req, victim, post ++ [op], by simp, hk, by simpa using hexp, ?_⟩
    intro op' hop'
    rcases List.mem_append.1 hop' with h | h
    · exact hpost op' h
    · rw [List.mem_singleton.1 h]; exact hop

theorem traced_run {hist : List Op} {m : Memory} (ht : Traced hist m) (ops : List Op) :
    Traced (hist ++ ops) (m.run ops) := by
  induction ops generalizing hist m with
  | nil => simpa using ht
  | cons op ops ih => simpa using ih (traced_apply ht op)

/-- A hit of `Get` returns the result of the latest `Set` of the same key, made at most
`ttl` before, with no later `Set`, eviction-free invalidation or other touch of that key. -/
theorem get_hit {hist : List Op} {m : Memory} (ht : Traced hist m) {now : Int} {tenantID : String}
    {req : CheckRequest} {r : CheckResult} (h : (m.get now tenantID req).1 = some r) :
    ∃ pre s tenantID' req' victim post,
      hist = pre ++ Op.set s tenantID' req' r victim :: post ∧
        cacheKey tenantID' req' = cacheKey tenantID req ∧ now ≤ s + m.ttl ∧
        ∀ op ∈ post, ¬ op.Touches (cacheKey tenantID req) := by
  obtain ⟨e, he, hnow, rfl⟩ := get_fst h
  obtain ⟨pre, s, tenantID', req', victim, post, rfl, hk, hexp, hpost⟩ :=
    ht _ e (mem_of_lookup_eq_some he)
  exact ⟨pre, s, tenantID', req', victim, post, rfl, hk, hexp ▸ hnow, hpost⟩

end Memory

theorem tenantKey_cacheKey (tenantID : String) (req : CheckRequest) :
    tenantKey tenantID (cacheKey tenantID req) = true := by
  have hk : cacheKey tenantID req = (tenantID ++ ":") ++ (req.subject.kind ++ ":" ++ req.subject.id ++ ":" ++
      req.action.name ++ ":" ++ req.resource.type ++ ":" ++ req.resource.id) := by
    simp only [cacheKey, String.append_assoc]
  simp only [tenantKey, hk, hasPrefix_append, Bool.and_true, decide_eq_true_eq, String.length_append]
  have : ":".length = 1 := rfl
  omega

theorem subjectKey_cacheKey (tenantID : String) (req : CheckRequest) :
    subjectKey tenantID req.subject.kind req.subject.id (cacheKey tenantID req) = true := by
  have hk : cacheKey tenantID req = (tenantID ++ ":" ++ req.subject.kind ++ ":" ++ req.subject.id ++ ":") ++
      (req.action.name ++ ":" ++ req.resource.type ++ ":" ++ req.resource.id) := by
    simp only [cacheKey, String.append_assoc]
  simp only [subjectKey, hk, hasPrefix_append, Bool.and_true, decide_eq_true_eq, String.length_append]
  omega

/-- For every sequence of calls on a cache made by `NewMemory`, a hit of `Get(tenantID, req)`
returns what the latest `Set` with the same cache key stored, at most `ttl` earlier, and
neither `InvalidateTenant(tenantID)` nor `InvalidateSubject(tenantID, kind, id)` of the
request's subject came after it. -/
theorem get_hit_latest_set (ttl maxSize : Int) (ops : List Op) (now : Int) (tenantID : String)
    (req : CheckRequest) (r : CheckResult)
    (h : (((newMemory [withTTL ttl, withMaxSize maxSize]).run ops).get now tenantID req).1 = some r) :
    ∃ pre s tenantID' req' victim post,
      ops = pre ++ Op.set s tenantID' req' r victim :: post ∧
        cacheKey tenantID' req' = cacheKey tenantID req ∧ now ≤ s + ttl ∧
        (∀ s' tenantID'' req'' r' victim', Op.set s' tenantID'' req'' r' victim' ∈ post →
          cacheKey tenantID'' req'' ≠ cacheKey tenantID req) ∧
        Op.invalidateTenant tenantID ∉ post ∧
        Op.invalidateSubject tenantID req.subject.kind req.subject.id ∉ post := by
  have ht := Memory.traced_run (Memory.traced_nil (m := newMemory [withTTL ttl, withMaxSize maxSize]) rfl) ops
  obtain ⟨pre, s, tenantID', req', victim, post, hops, hk, hs, hpost⟩ := Memory.get_hit ht h
  refine ⟨pre, s, tenantID', req', victim, post, by simpa using hops, hk, by simpa [newMemory, withTTL, withMaxSize] using hs,
    fun s' t'' q'' r' v' hm => hpost _ hm, fun hm => hpost _ hm (tenantKey_cacheKey _ _),
    fun hm => hpost _ hm (subjectKey_cacheKey _ _)⟩

theorem get_hit_latest_set_second :
    ∃ pre s tenantID' req' victim post,
      [Op.set 0 "t1" (Memory.readDoc "d1") {} 0, .invalidateTenant "t2",
          .set 5 "t1" (Memory.readDoc "d1") { allowed := true } 0] =
        pre ++ Op.set s tenantID' req' { allowed := true } victim :: post ∧
      cacheKey tenantID' req' = cacheKey "t1" (Memory.readDoc "d1") ∧ 10 ≤ s + 60 ∧
      (∀ s' tenantID'' req'' r' victim', Op.set s' tenantID'' req'' r' victim' ∈ post →
        cacheKey tenantID'' req'' ≠ cacheKey "t1" (Memory.readDoc "d1")) ∧
      Op.invalidateTenant "t1" ∉ post ∧
      Op.invalidateSubject "t1" (Memory.readDoc "d1").subject.kind (Memory.readDoc "d1").subject.id ∉ post :=
  get_hit_latest_set 60 10 _ 10 "t1" _ _ (by decide)

/-- The key joins the fields with `:` unescaped: a result `Set` for the resource `doc`/`d1:x`
is a hit for the resource `doc:d1`/`x` of the same subject and action. -/
theorem get_hit_other_resource :
    (((newMemory []).run
        [.set 0 "t1" { subject := ⟨"user", "u1", []⟩, action := ⟨"read"⟩, resource := ⟨"doc", "d1:x", []⟩ }
          { allowed := true, decision := decisionAllow } 0]).get 0 "t1"
        { subject := ⟨"user", "u1", []⟩, action := ⟨"read"⟩, resource := ⟨"doc:d1", "x", []⟩ }).1 =
      some { allowed := true, decision := decisionAllow } := by
  decide

/-- With `WithMaxSize(0)`, one `Set` leaves one entry: `evictOne` finds nothing to remove. -/
theorem set_exceeds_zero_capacity :
    (((newMemory [withMaxSize 0]).run [.set 0 "t1"
        { subject := ⟨"user", "u1", []⟩, action := ⟨"read"⟩, resource := ⟨"doc", "d1", []⟩ }
        {} 0]).entries.length : Int) > (newMemory [withMaxSize 0]).maxSize := by
  decide

theorem lookup_deleteKeys {p : String → Bool} {k : String} (hp : p k = true) (l : List (String × Entry)) :
    (deleteKeys p l).lookup k = none := by
  induction l with
  | nil => rfl
  | cons e l ih =>
      obtain ⟨k', v⟩ := e
      by_cases he : p k' = true
      · rw [deleteKeys, List.filter_cons, if_neg (by simp [he])]
        exact ih
      · have hne : (k == k') = false := beq_false_of_ne fun h => he (h ▸ hp)
        rw [deleteKeys, List.filter_cons, if_pos (by simpa using he), List.lookup_cons, hne]
        exact ih

theorem get_deleteKeys {m : Memory} {p : String → Bool} {tenantID : String} {req : CheckRequest}
    (hp : p (cacheKey tenantID req) = true) (now : Int) :
    ({ m with entries := deleteKeys p m.entries } : Memory).get now tenantID req =
      (none, { m with entries := deleteKeys p m.entries }) := by
  simp only [Memory.get, lookup_deleteKeys hp]

/-- The invalidations reach past their tenant and subject, since the key joins its fields with
`:` unescaped: `InvalidateTenant(T)` drops the entries of every tenant whose ID extends `T:`,
and `InvalidateSubject(T, kind, id)` those of every subject ID of that kind that extends `id:`;
`Get` of any such request then misses, whatever was cached. -/
theorem invalidate_overreach (m : Memory) (T s : String) (req : CheckRequest) (now : Int) :
    ((m.invalidateTenant T).get now (T ++ ":" ++ s) req).1 = none ∧
      ∀ id : String, req.subject.id = id ++ ":" ++ s →
        ((m.invalidateSubject T req.subject.kind id).get now T req).1 = none := by
  refine ⟨congrArg Prod.fst (get_deleteKeys ?_ now), fun id hid => congrArg Prod.fst (get_deleteKeys ?_ now)⟩
  · have hk : cacheKey (T ++ ":" ++ s) req = (T ++ ":") ++ (s ++ ":" ++ req.subject.kind ++ ":" ++
        req.subject.id ++ ":" ++ req.action.name ++ ":" ++ req.resource.type ++ ":" ++ req.resource.id) := by
      simp only [cacheKey, String.append_assoc]
    simp only [tenantKey, hk, hasPrefix_append, Bool.and_true, decide_eq_true_eq, String.length_append]
    have : ":".length = 1 := rfl
    omega
  · have hk : cacheKey T req = (T ++ ":" ++ req.subject.kind ++ ":" ++ id ++ ":") ++ (s ++ ":" ++
        req.action.name ++ ":" ++ req.resource.type ++ ":" ++ req.resource.id) := by
      simp only [cacheKey, hid, String.append_assoc]
    simp only [subjectKey, hk, hasPrefix_append, Bool.and_true, decide_eq_true_eq, String.length_append]
    omega

end Warden
