import Mathlib.Data.List.Infix

/-! # Go runtime pieces

Errors made by `errors.New` and wrapped by `fmt.Errorf` with `%w`, the `%q` verb, and the
functions of the `strings` package that the engine calls. A Go string is modelled as a Lean
string; prefixes, suffixes and substrings are taken on its list of characters.

## Implementation notes

`errors.Is` compares sentinels by identity in Go. Every sentinel of the repository has its
own text, so comparing by text is the same relation here.
-/

namespace Warden

/-- A Go `error`: a sentinel made by `errors.New`, or `fmt.Errorf` text around one `%w`. -/
inductive GoError where
  | new (text : String)
  | wrap (before : String) (cause : GoError) (after : String)
  deriving DecidableEq, Repr

namespace GoError

/-- `err.Error()`. -/
def error : GoError → String
  | new text => text
  | wrap before cause after => before ++ cause.error ++ after

/-- `errors.Is(err, target)`: `target` is `err` or is reached by unwrapping `%w`. -/
def is (err target : GoError) : Bool :=
  match err with
  | new text => new text == target
  | wrap before cause after => wrap before cause after == target || cause.is target

end GoError

/-- One character as the `%q` verb writes it inside the quotes. -/
def quoteChar (c : Char) : String :=
  if c = '"' then "\\\"" else if c = '\\' then "\\\\" else if c = '\n' then "\\n"
  else if c = '\t' then "\\t" else if c = '\r' then "\\r" else c.toString

/-- The `%q` verb on a string. -/
def quote (s : String) : String :=
  "\"" ++ String.join (s.toList.map quoteChar) ++ "\""

/-- `strings.HasPrefix(s, p)`. -/
def hasPrefix (s p : String) : Bool := p.toList.isPrefixOf s.toList

/-- `strings.HasSuffix(s, p)`. -/
def hasSuffix (s p : String) : Bool := p.toList.isSuffixOf s.toList

/-- `strings.TrimSuffix(s, p)`. -/
def trimSuffix (s p : String) : String :=
  if hasSuffix s p then String.mk (s.toList.take (s.length - p.length)) else s

/-- `strings.Contains(s, sub)`. -/
def contains (s sub : String) : Bool := decide (sub.toList <:+: s.toList)

/-- `strings.SplitN(s, ".", 2)` when it yields two parts: the text around the first dot. -/
def splitFirstDot (s : String) : Option (String × String) :=
  if '.' ∈ s.toList then
    some (String.mk (s.toList.takeWhile (· ≠ '.')),
      String.mk ((s.toList.dropWhile (· ≠ '.')).drop 1))
  else none

theorem except_map_eq_ok {ε α β : Type} {f : α → β} {x : Except ε α} {b : β}
    (h : x.map f = .ok b) : ∃ a, x = .ok a ∧ f a = b := by
  cases x with
  | error e => cases h
  | ok a => exact ⟨a, rfl, by simpa [Except.map] using h⟩

@[simp] theorem hasPrefix_append (a b : String) : hasPrefix (a ++ b) a = true := by
  simp [hasPrefix, List.isPrefixOf_iff_prefix]

theorem hasPrefix_iff (s p : String) : hasPrefix s p = true ↔ ∃ t, s = p ++ t := by
  simp only [hasPrefix, List.isPrefixOf_iff_prefix]
  constructor
  · rintro ⟨t, ht⟩
    exact ⟨String.mk t, String.ext (by simpa using ht.symm)⟩
  · rintro ⟨t, rfl⟩
    simp

theorem hasSuffix_iff (s p : String) : hasSuffix s p = true ↔ ∃ t, s = t ++ p := by
  simp only [hasSuffix, List.isSuffixOf_iff_suffix]
  constructor
  · rintro ⟨t, ht⟩
    exact ⟨String.mk t, String.ext (by simpa using ht.symm)⟩
  · rintro ⟨t, rfl⟩
    simp

@[simp] theorem trimSuffix_append (t p : String) : trimSuffix (t ++ p) p = t := by
  have h : hasSuffix (t ++ p) p = true := (hasSuffix_iff _ _).2 ⟨t, rfl⟩
  simp only [trimSuffix, h, if_true]
  refine String.ext ?_
  show List.take ((t ++ p).data.length - p.data.length) (t ++ p).data = t.data
  rw [String.data_append, List.length_append, Nat.add_sub_cancel, List.take_left]

end Warden
