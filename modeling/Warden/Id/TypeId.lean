import Warden.Basic
import Mathlib.Data.List.GetD
import Mathlib.Data.List.Nodup
import Mathlib.Tactic.Ring

/-! # TypeID text form

Modelled from the spec: the library `go.jetify.com/typeid/v2` that `id.ID` wraps is not part
of the repository. A TypeID is a type prefix and a 128-bit suffix. Its text is the suffix
alone when the prefix is empty and `prefix_suffix` otherwise. The suffix is written as 26
lowercase Crockford base32 symbols, most significant first, so the first symbol is at most
`7`. A prefix has at most 63 characters, each a lowercase letter or `_`, and neither starts
nor ends with `_`. Parsing splits the text at its last `_`.

## Implementation notes

The library's own error texts are not in the repository; the texts below only tell the
failures apart. The suffix is kept as a `BitVec 128`, the UUID the library holds.
-/

namespace Warden

namespace Base32

/-- The 32 symbols in digit order: digits and lowercase letters without `i l o u`. -/
def alphabet : List Char := "0123456789abcdefghjkmnpqrstvwxyz".toList

/-- Little-endian base-32 digits of `n`, exactly `w` of them. -/
def digits : Nat → Nat → List Nat
  | 0, _ => []
  | w + 1, n => n % 32 :: digits w (n / 32)

/-- The value of little-endian base-32 digits. -/
def value : List Nat → Nat
  | [] => 0
  | d :: ds => d + 32 * value ds

/-- The symbol of a digit below 32. -/
def symbol (d : Nat) : Char := alphabet.getD d '0'

/-- The 26 symbols of a 128-bit value. -/
def encode (u : BitVec 128) : String :=
  String.mk ((digits 26 u.toNat).reverse.map symbol)

/-- Read 26 symbols back; the first must be at most `7` so that the value fits 128 bits. -/
def decode (s : String) : Except String (BitVec 128) :=
  if s.length ≠ 26 then .error "typeid: suffix must be 26 characters"
  else if !s.toList.all (· ∈ alphabet) then .error "typeid: suffix is not base32"
  else
    let ds := s.toList.map alphabet.indexOf
    if 7 < ds.headD 0 then .error "typeid: suffix exceeds 128 bits"
    else .ok (BitVec.ofNat 128 (value ds.reverse))

theorem alphabet_nodup : alphabet.Nodup := List.Nodup.of_map Char.toNat (by decide)

theorem symbol_eq_get {d : Nat} (hd : d < 32) : symbol d = alphabet.get ⟨d, hd⟩ :=
  List.getD_eq_getElem alphabet '0' hd

theorem symbol_mem_indexOf : ∀ d < 32, symbol d ∈ alphabet ∧ alphabet.indexOf (symbol d) = d := by
  intro d hd
  rw [symbol_eq_get hd]
  exact ⟨List.get_mem _ _ _, List.get_indexOf alphabet_nodup ⟨d, hd⟩⟩

theorem indexOf_symbol : ∀ c ∈ alphabet, alphabet.indexOf c < 32 ∧ symbol (alphabet.indexOf c) = c := by
  intro c hc
  have hlt : alphabet.indexOf c < 32 := List.indexOf_lt_length.2 hc
  exact ⟨hlt, (symbol_eq_get hlt).trans (List.indexOf_get hlt)⟩

theorem underscore_not_mem : '_' ∉ alphabet := by decide

@[simp] theorem length_digits (w n : Nat) : (digits w n).length = w := by
  induction w generalizing n with
  | zero => rfl
  | succ w ih => simp [digits, ih]

theorem digits_lt (w n : Nat) : ∀ d ∈ digits w n, d < 32 := by
  induction w generalizing n with
  | zero => simp [digits]
  | succ w ih =>
      intro d hd
      rcases List.mem_cons.mp hd with rfl | hd
      · exact Nat.mod_lt _ (by decide)
      · exact ih _ d hd

theorem value_digits (w n : Nat) : value (digits w n) = n % 32 ^ w := by
  induction w generalizing n with
  | zero => simp [digits, value, Nat.mod_one]
  | succ w ih =>
      rw [digits, value, ih, Nat.pow_succ, Nat.mul_comm (32 ^ w), Nat.mod_mul]

theorem digits_value (ds : List Nat) (h : ∀ d ∈ ds, d < 32) : digits ds.length (value ds) = ds := by
  induction ds with
  | nil => rfl
  | cons d ds ih =>
      have hd := h d (List.mem_cons_self _ _)
      have hds := ih fun x hx => h x (List.mem_cons_of_mem _ hx)
      simp only [List.length_cons, digits, value]
      rw [show (d + 32 * value ds) / 32 = value ds by omega, hds]
      congr 1
      omega

theorem value_lt (ds : List Nat) (h : ∀ d ∈ ds, d < 32) : value ds < 32 ^ ds.length := by
  induction ds with
  | nil => simp [value]
  | cons d ds ih =>
      have hd := h d (List.mem_cons_self _ _)
      have := ih fun x hx => h x (List.mem_cons_of_mem _ hx)
      simp only [value, List.length_cons, Nat.pow_succ]
      omega

theorem value_append_singleton (ds : List Nat) (d : Nat) :
    value (ds ++ [d]) = value ds + 32 ^ ds.length * d := by
  induction ds with
  | nil => simp [value]
  | cons x ds ih =>
      show x + 32 * value (ds ++ [d]) = _
      rw [ih, value, List.length_cons, Nat.pow_succ]
      ring

/-- The most significant of `w + 1` digits. -/
theorem getLast?_digits (w n : Nat) : (digits (w + 1) n).getLast? = some (n / 32 ^ w % 32) := by
  induction w generalizing n with
  | zero => simp [digits]
  | succ w ih =>
      rw [digits, digits, List.getLast?_cons_cons, ← digits, ih, Nat.pow_succ, Nat.mul_comm,
        Nat.div_div_eq_div_mul]

theorem encode_toList (u : BitVec 128) :
    (encode u).toList = (digits 26 u.toNat).reverse.map symbol := rfl

theorem encode_mem_alphabet (u : BitVec 128) : ∀ c ∈ (encode u).toList, c ∈ alphabet := by
  intro c hc
  simp only [encode_toList, List.mem_map, List.mem_reverse] at hc
  obtain ⟨d, hd, rfl⟩ := hc
  exact (symbol_mem_indexOf d (digits_lt _ _ d hd)).1

theorem underscore_not_mem_encode (u : BitVec 128) : '_' ∉ (encode u).toList :=
  fun h => underscore_not_mem (encode_mem_alphabet u _ h)

theorem length_encode (u : BitVec 128) : (encode u).length = 26 := by
  show ((digits 26 u.toNat).reverse.map symbol).length = 26
  simp

theorem decode_encode (u : BitVec 128) : decode (encode u) = .ok u := by
  have hmap : (encode u).toList.map alphabet.indexOf = (digits 26 u.toNat).reverse := by
    rw [encode_toList, List.map_map]
    conv_rhs => rw [← List.map_id (digits 26 u.toNat).reverse]
    refine List.map_congr_left fun d hd => ?_
    exact (symbol_mem_indexOf d (digits_lt _ _ d (List.mem_reverse.mp hd))).2
  have hall : (encode u).toList.all (· ∈ alphabet) = true := by
    simpa using encode_mem_alphabet u
  have htop : (digits 26 u.toNat).reverse.headD 0 = u.toNat / 32 ^ 25 % 32 := by
    rw [List.headD_eq_head?_getD, List.head?_reverse, getLast?_digits]; rfl
  have hlt : u.toNat < 8 * 32 ^ 25 := by have := u.isLt; omega
  simp only [decode, length_encode, ne_eq, not_true_eq_false, if_false, hall, Bool.not_true,
    Bool.false_eq_true, hmap, htop, List.reverse_reverse, value_digits]
  rw [if_neg (by omega), Nat.mod_eq_of_lt (show u.toNat < 32 ^ 26 by omega)]
  simp

/-- Twenty-six digits whose most significant one is at most `7` fit 128 bits. -/
theorem value_reverse_lt {ds : List Nat} (h : ∀ d ∈ ds, d < 32) (hlen : ds.length = 26)
    (htop : ds.headD 0 ≤ 7) : value ds.reverse < 2 ^ 128 := by
  obtain _ | ⟨d, rest⟩ := ds
  · cases hlen
  · have hrest : rest.length = 25 := by simpa using hlen
    have hv := value_lt rest.reverse fun x hx => h x (.tail _ (List.mem_reverse.1 hx))
    rw [List.length_reverse, hrest] at hv
    rw [List.reverse_cons, value_append_singleton, List.length_reverse, hrest]
    have hd : 32 ^ 25 * d ≤ 32 ^ 25 * 7 := Nat.mul_le_mul_left _ htop
    have h128 : (2 : Nat) ^ 128 = 8 * 32 ^ 25 := by decide
    omega

theorem encode_decode {s : String} {u : BitVec 128} (h : decode s = .ok u) : encode u = s := by
  simp only [decode] at h
  split at h; · cases h
  split at h; · cases h
  rename_i hlen hall
  simp only [Bool.not_eq_true', Bool.not_eq_false] at hall
  have hmem : ∀ c ∈ s.toList, c ∈ alphabet := by simpa using hall
  set ds := s.toList.map alphabet.indexOf with hds
  split at h; · cases h
  rename_i htop
  cases h
  have hlt : ∀ d ∈ ds.reverse, d < 32 := by
    simp only [hds, List.mem_reverse, List.forall_mem_map]
    exact fun c hc => (indexOf_symbol c (hmem c hc)).1
  have hlen' : ds.reverse.length = 26 := by
    rw [List.length_reverse, hds, List.length_map]
    exact not_not.1 hlen
  have hval : value ds.reverse < 2 ^ 128 :=
    value_reverse_lt (fun d hd => hlt d (List.mem_reverse.2 hd)) (by simpa using hlen')
      (Nat.le_of_not_lt htop)
  apply String.ext
  rw [show (encode (BitVec.ofNat 128 (value ds.reverse))).data
      = (digits 26 (BitVec.ofNat 128 (value ds.reverse)).toNat).reverse.map symbol from rfl,
    BitVec.toNat_ofNat, Nat.mod_eq_of_lt hval, ← hlen', digits_value _ hlt, List.reverse_reverse,
    hds, List.map_map]
  conv_rhs => rw [← List.map_id s.data]
  exact List.map_congr_left fun c hc => (indexOf_symbol c (hmem c hc)).2

end Base32

/-- Split a text at its last `_`: the characters before it and those after it. -/
def splitLast (s : List Char) : Option (List Char × List Char) :=
  match s.reverse.dropWhile (· ≠ '_') with
  | [] => none
  | _ :: before => some (before.reverse, (s.reverse.takeWhile (· ≠ '_')).reverse)

theorem dropWhile_append_of_all {p : Char → Bool} {l₁ : List Char} (l₂ : List Char)
    (h : ∀ a ∈ l₁, p a = true) : (l₁ ++ l₂).dropWhile p = l₂.dropWhile p := by
  induction l₁ with
  | nil => rfl
  | cons a l ih =>
      simp only [List.cons_append, List.dropWhile_cons, h a (List.mem_cons_self _ _), if_true]
      exact ih fun x hx => h x (List.mem_cons_of_mem _ hx)

theorem dropWhile_reverse_eq_nil {e : List Char} (he : '_' ∉ e) :
    e.reverse.dropWhile (· ≠ '_') = [] :=
  List.dropWhile_eq_nil_iff.mpr fun x hx =>
    decide_eq_true fun h => he (by rw [← h]; exact List.mem_reverse.mp hx)

theorem splitLast_of_not_mem {e : List Char} (he : '_' ∉ e) : splitLast e = none := by
  unfold splitLast
  rw [dropWhile_reverse_eq_nil he]

theorem splitLast_append {p e : List Char} (he : '_' ∉ e) :
    splitLast (p ++ '_' :: e) = some (p, e) := by
  have hall : ∀ a ∈ e.reverse, decide (a ≠ '_') = true := fun a ha =>
    decide_eq_true fun h => he (by rw [← h]; exact List.mem_reverse.mp ha)
  have hrev : (p ++ '_' :: e).reverse = e.reverse ++ '_' :: p.reverse := by simp
  unfold splitLast
  rw [hrev, dropWhile_append_of_all _ hall, List.takeWhile_append_of_pos hall]
  simp

theorem dropWhile_eq_cons {p : Char → Bool} {l xs : List Char} {x : Char}
    (h : l.dropWhile p = x :: xs) : p x = false := by
  induction l with
  | nil => cases h
  | cons a l ih =>
      rw [List.dropWhile_cons] at h
      split at h
      · exact ih h
      · rename_i ha
        obtain ⟨rfl, -⟩ := List.cons.inj h
        simpa using ha

/-- A split at the last `_` cuts the text there. -/
theorem splitLast_eq_some {s p e : List Char} (h : splitLast s = some (p, e)) : s = p ++ '_' :: e := by
  unfold splitLast at h
  split at h
  · cases h
  · rename_i x before hd
    obtain ⟨rfl, rfl⟩ := Prod.mk.inj (Option.some.inj h)
    have hx : x = '_' := by simpa using dropWhile_eq_cons hd
    have hs := List.takeWhile_append_dropWhile (· ≠ '_') s.reverse
    rw [hd, hx] at hs
    calc s = s.reverse.reverse := s.reverse_reverse.symm
      _ = (s.reverse.takeWhile (· ≠ '_') ++ '_' :: before).reverse := by rw [hs]
      _ = _ := by simp

/-- A TypeID: its type prefix and the UUID its suffix encodes. -/
structure TypeID where
  typePrefix : String
  suffix : BitVec 128
  deriving DecidableEq, Repr

namespace TypeID

/-- The library's prefix check. -/
def validatePrefix (p : String) : Except String Unit :=
  if 63 < p.length then .error ("typeid: prefix " ++ quote p ++ " is longer than 63 characters")
  else if p = "" then .ok ()
  else if p.toList.head? = some '_' ∨ p.toList.getLast? = some '_' then
    .error ("typeid: prefix " ++ quote p ++ " starts or ends with an underscore")
  else if p.toList.all fun c => c = '_' ∨ ('a' ≤ c ∧ c ≤ 'z') then .ok ()
  else .error ("typeid: prefix " ++ quote p ++ " has a character outside a-z and underscore")

/-- `tid.String()`. -/
def string (t : TypeID) : String :=
  if t.typePrefix = "" then Base32.encode t.suffix
  else t.typePrefix ++ "_" ++ Base32.encode t.suffix

/-- `typeid.Generate(prefix)`, given the UUID it draws. -/
def generate (p : String) (uuid : BitVec 128) : Except String TypeID :=
  (validatePrefix p).map fun _ => ⟨p, uuid⟩

/-- `typeid.Parse(s)`. -/
def parse (s : String) : Except String TypeID :=
  match splitLast s.toList with
  | none => (Base32.decode s).map fun u => ⟨"", u⟩
  | some (p, suf) =>
      if p = [] then .error "typeid: empty prefix before the separator"
      else match validatePrefix (String.mk p) with
        | .error e => .error e
        | .ok () => (Base32.decode (String.mk suf)).map fun u => ⟨String.mk p, u⟩

/-- A TypeID the library can build: its prefix passes `validatePrefix`. -/
def Valid (t : TypeID) : Prop := (validatePrefix t.typePrefix).toBool = true

instance (t : TypeID) : Decidable t.Valid := inferInstanceAs (Decidable (_ = true))

theorem validatePrefix_empty : validatePrefix "" = .ok () := rfl

theorem generate_valid {p : String} {uuid : BitVec 128} {t : TypeID}
    (h : generate p uuid = .ok t) : t.Valid := by
  unfold generate at h
  cases hv : validatePrefix p with
  | error e => simp [hv, Except.map] at h
  | ok u => simp only [hv, Except.map, Except.ok.injEq] at h; subst h; simp [Valid, hv, Except.toBool]

theorem parse_valid {s : String} {t : TypeID} (h : parse s = .ok t) : t.Valid := by
  unfold parse at h
  split at h
  · obtain ⟨u, -, rfl⟩ := except_map_eq_ok h
    rfl
  · split at h; · cases h
    split at h; · cases h
    rename_i hv
    obtain ⟨u, -, rfl⟩ := except_map_eq_ok h
    simp [Valid, hv, Except.toBool]

theorem string_toList (t : TypeID) (h : t.typePrefix ≠ "") :
    t.string.toList = t.typePrefix.toList ++ '_' :: (Base32.encode t.suffix).toList := by
  simp [string, h]

/-- The library reads back every TypeID it can build from the text it writes. -/
theorem parse_string {t : TypeID} (h : t.Valid) : parse t.string = .ok t := by
  by_cases hp : t.typePrefix = ""
  · have hs : t.string = Base32.encode t.suffix := by simp [string, hp]
    rw [parse, hs, splitLast_of_not_mem (Base32.underscore_not_mem_encode _)]
    simp only [Base32.decode_encode, Except.map]
    rw [← hp]
  · have hv : validatePrefix t.typePrefix = .ok () := by
      revert h; unfold Valid; cases validatePrefix t.typePrefix <;> simp [Except.toBool]
    have hne : t.typePrefix.toList ≠ [] := fun h0 => hp (String.ext h0)
    rw [parse, string_toList t hp, splitLast_append (Base32.underscore_not_mem_encode _)]
    simp only [hne, if_false, String.mk, show String.mk t.typePrefix.toList = t.typePrefix from rfl,
      hv, show String.mk (Base32.encode t.suffix).toList = Base32.encode t.suffix from rfl,
      Base32.decode_encode, Except.map]

/-- The library accepts only the text it writes: what `Parse` reads back prints as its input. -/
theorem string_parse {s : String} {t : TypeID} (h : parse s = .ok t) : t.string = s := by
  unfold parse at h
  split at h
  · obtain ⟨u, hu, rfl⟩ := except_map_eq_ok h
    exact Base32.encode_decode hu
  · rename_i p suf hs
    split at h; · cases h
    split at h; · cases h
    rename_i hp _ _
    obtain ⟨u, hu, rfl⟩ := except_map_eq_ok h
    apply String.ext
    refine (string_toList ⟨String.mk p, u⟩ fun h0 => hp (congrArg String.data h0)).trans ?_
    rw [Base32.encode_decode hu]
    exact (splitLast_eq_some hs).symm

theorem string_ne_empty (t : TypeID) : t.string ≠ "" := by
  intro h
  have h26 := Base32.length_encode t.suffix
  by_cases hp : t.typePrefix = ""
  · simp only [string, hp, if_true] at h
    rw [h] at h26
    cases h26
  · have := congrArg String.toList h
    rw [string_toList t hp] at this
    simp at this

end TypeID

end Warden
