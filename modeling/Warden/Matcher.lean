import Warden.Basic
import Mathlib.Data.List.Basic

/-! # Glob and permission matching

`matchGlob` accepts `*`, an exact match, and a pattern ending in `*` whose rest is a prefix
of the value. The code tests the endings `:*`, `.*` and `*` one after another with the same
body, so the first two add nothing to the third (`matchGlob_iff`).

`evaluateRBAC` matches `resource:action` against `type:action`. Reading the result back as
"same type, and the action matches" needs the two types to be free of colons
(`matchPermission_join_iff`); without that, `doc:*` matches an action on the type
`doc:secret` (`matchPermission_other_type`).
-/

namespace Warden

/-- `matchGlob(pattern, value)`. -/
def matchGlob (pattern value : String) : Bool :=
  if pattern = "*" then true
  else if pattern = value then true
  else if hasSuffix pattern ":*" then hasPrefix value (trimSuffix pattern "*")
  else if hasSuffix pattern ".*" then hasPrefix value (trimSuffix pattern "*")
  else if hasSuffix pattern "*" then hasPrefix value (trimSuffix pattern "*")
  else false

/-- `matchPermission(permName, required)`. -/
def matchPermission (permName required : String) : Bool :=
  if permName = required then true else matchGlob permName required

theorem hasSuffix_star_of_colon {p : String} (h : hasSuffix p ":*" = true) :
    hasSuffix p "*" = true := by
  obtain ⟨t, rfl⟩ := (hasSuffix_iff _ _).1 h
  exact (hasSuffix_iff _ _).2 ⟨t ++ ":", by rw [String.append_assoc]; rfl⟩

theorem hasSuffix_star_of_dot {p : String} (h : hasSuffix p ".*" = true) :
    hasSuffix p "*" = true := by
  obtain ⟨t, rfl⟩ := (hasSuffix_iff _ _).1 h
  exact (hasSuffix_iff _ _).2 ⟨t ++ ".", by rw [String.append_assoc]; rfl⟩

/-- What `matchGlob` accepts, with the three suffix branches merged into one. -/
theorem matchGlob_iff (pattern value : String) :
    matchGlob pattern value = true ↔
      pattern = "*" ∨ pattern = value ∨ ∃ q, pattern = q ++ "*" ∧ hasPrefix value q = true := by
  have star : hasSuffix pattern "*" = true →
      (hasPrefix value (trimSuffix pattern "*") = true ↔ ∃ q, pattern = q ++ "*" ∧ hasPrefix value q = true) := by
    intro hs
    obtain ⟨t, rfl⟩ := (hasSuffix_iff _ _).1 hs
    constructor
    · intro hp
      exact ⟨t, rfl, by simpa using hp⟩
    · rintro ⟨q, hq, hp⟩
      have : t = q := String.ext (by simpa using congrArg String.toList hq)
      simpa [this] using hp
  unfold matchGlob
  by_cases h1 : pattern = "*"; · simp [h1]
  by_cases h2 : pattern = value; · simp [h2]
  simp only [h1, h2, if_false, false_or]
  by_cases hc : hasSuffix pattern ":*" = true
  · simpa [hc] using star (hasSuffix_star_of_colon hc)
  by_cases hd : hasSuffix pattern ".*" = true
  · simpa [hc, hd] using star (hasSuffix_star_of_dot hd)
  by_cases hs : hasSuffix pattern "*" = true
  · simpa [hc, hd, hs] using star hs
  simp only [hc, hd, hs, Bool.false_eq_true, if_false, false_iff, not_exists, not_and]
  rintro q rfl -
  exact hs ((hasSuffix_iff _ _).2 ⟨q, rfl⟩)

theorem matchPermission_iff (permName required : String) :
    matchPermission permName required = true ↔
      permName = "*" ∨ permName = required ∨
        ∃ q, permName = q ++ "*" ∧ hasPrefix required q = true := by
  unfold matchPermission
  by_cases h : permName = required
  · simp [h]
  · rw [if_neg h, matchGlob_iff]

/-! ### Splitting `resource:action` at its colon -/

theorem takeWhile_ne_colon {r : List Char} (x : List Char) (hr : ':' ∉ r) :
    (r ++ ':' :: x).takeWhile (fun c => decide (c ≠ ':')) = r := by
  rw [List.takeWhile_append_of_pos (fun a ha => decide_eq_true (ne_of_mem_of_not_mem ha hr))]
  simp

theorem join_colon_inj {r t x y : String} (hr : ':' ∉ r.toList) (ht : ':' ∉ t.toList)
    (h : r ++ ":" ++ x = t ++ ":" ++ y) : r = t ∧ x = y := by
  have hl : r.toList ++ ':' :: x.toList = t.toList ++ ':' :: y.toList := by
    simpa using congrArg String.toList h
  have hrt : r.toList = t.toList := by
    rw [← takeWhile_ne_colon x.toList hr, hl, takeWhile_ne_colon y.toList ht]
  rw [hrt] at hl
  exact ⟨String.ext hrt, String.ext (List.cons_injective (List.append_cancel_left hl))⟩

/-- A joined name ending in `*` has its star in the action part. -/
theorem join_colon_eq_star {r x q : String} (h : r ++ ":" ++ x = q ++ "*") :
    ∃ x', x = x' ++ "*" ∧ q = r ++ ":" ++ x' := by
  have hl : r.toList ++ ':' :: x.toList = q.toList ++ ['*'] := by
    simpa using congrArg String.toList h
  rcases List.eq_nil_or_concat x.toList with hx | ⟨L, b, hx⟩
  · rw [hx] at hl
    exact absurd (List.append_inj' hl rfl).2 (by decide)
  · rw [hx, List.concat_eq_append, ← List.cons_append, ← List.append_assoc] at hl
    obtain ⟨hq, hb⟩ := List.append_inj' hl rfl
    obtain rfl : b = '*' := by simpa using hb
    exact ⟨String.mk L, String.ext (by simpa [String.toList] using hx), String.ext (by simpa using hq.symm)⟩

theorem join_colon_ne_star (r x : String) : r ++ ":" ++ x ≠ "*" := by
  intro h
  have : ':' ∈ (r ++ ":" ++ x).toList := by simp
  rw [h] at this
  exact absurd this (by decide)

/-- For resource types without a colon, `matchPermission` on the joined names says what it
is read as: the types agree, and the action is the permission's or matches its trailing
glob. -/
theorem matchPermission_join_iff (R P T A : String) (hR : ':' ∉ R.toList) (hT : ':' ∉ T.toList) :
    matchPermission (R ++ ":" ++ P) (T ++ ":" ++ A) = true ↔
      R = T ∧ (P = A ∨ ∃ q, P = q ++ "*" ∧ hasPrefix A q = true) := by
  rw [matchPermission_iff]
  constructor
  · rintro (h | h | ⟨q, hq, hp⟩)
    · exact absurd h (join_colon_ne_star R P)
    · obtain ⟨rfl, rfl⟩ := join_colon_inj hR hT h
      exact ⟨rfl, Or.inl rfl⟩
    · obtain ⟨x', rfl, rfl⟩ := join_colon_eq_star hq
      obtain ⟨u, hu⟩ := (hasPrefix_iff _ _).1 hp
      obtain ⟨rfl, rfl⟩ := join_colon_inj (x := x' ++ u) hR hT
        (by rw [hu]; simp only [String.append_assoc])
      exact ⟨rfl, Or.inr ⟨x', rfl, hasPrefix_append _ _⟩⟩
  · rintro ⟨rfl, rfl | ⟨q, rfl, hp⟩⟩
    · exact Or.inr (Or.inl rfl)
    · obtain ⟨u, rfl⟩ := (hasPrefix_iff _ _).1 hp
      refine Or.inr (Or.inr ⟨R ++ ":" ++ q, by simp only [String.append_assoc], ?_⟩)
      rw [← String.append_assoc]
      exact hasPrefix_append _ _

theorem matchPermission_join_document :
    (':' ∉ "document".toList ∧ ':' ∉ "document".toList) ∧
      (matchPermission ("document" ++ ":" ++ "*") ("document" ++ ":" ++ "read") = true ↔
        "document" = "document" ∧ ("*" = "read" ∨ ∃ q, "*" = q ++ "*" ∧ hasPrefix "read" q = true)) :=
  ⟨⟨by decide, by decide⟩, matchPermission_join_iff _ _ _ _ (by decide) (by decide)⟩

/-- Without that condition the join is ambiguous: the permission `*` on type `doc` matches
the action `read` on type `doc:secret`. -/
theorem matchPermission_other_type :
    matchPermission ("doc" ++ ":" ++ "*") ("doc:secret" ++ ":" ++ "read") = true ∧
      "doc" ≠ "doc:secret" := by
  decide

end Warden
