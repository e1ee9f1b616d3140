import Warden.Id.TypeId
import Mathlib.Data.List.Nodup

/-! # Entity identifiers

`id.ID` wraps a TypeID with a flag that tells `Nil`, the zero value, apart from every
identifier made by `New` or `Parse`. The text codec (`MarshalText`, `UnmarshalText`) and the
database codec (`Value`, `Scan`) map `Nil` to the empty text and to SQL `NULL`.

The laws of the codecs hold on well-formed identifiers, a set that contains `Nil` and is
closed under `New` and `Parse` (`new_wellFormed`, `parse_wellFormed`).
-/

namespace Warden

/-- `id.ID`: the wrapped TypeID and whether it is set. -/
structure ID where
  inner : TypeID
  valid : Bool
  deriving DecidableEq, Repr

/-- A `driver.Value`, and the `any` that `Scan` receives. -/
inductive DriverValue where
  | nil
  | string (s : String)
  | bytes (b : String)
  | other (typeName : String)
  deriving DecidableEq, Repr

/-- `ID.Prefix()`: the prefix of a set identifier, `""` for `Nil`. -/
def ID.prefix (i : ID) : String := if i.valid then i.inner.typePrefix else ""

namespace ID

/-- `Nil`, the zero value. -/
def nil : ID := ⟨⟨"", 0⟩, false⟩

/-- `New(prefix)`, given the UUID the library draws; an invalid prefix panics. -/
def new (p : String) (uuid : BitVec 128) : Except String ID :=
  match TypeID.generate p uuid with
  | .ok tid => .ok ⟨tid, true⟩
  | .error err => .error ("id: invalid prefix " ++ quote p ++ ": " ++ err)

/-- `Parse(s)`. -/
def parse (s : String) : Except GoError ID :=
  if s = "" then .error (.new ("id: parse " ++ quote s ++ ": empty string"))
  else match TypeID.parse s with
    | .error err => .error (.wrap ("id: parse " ++ quote s ++ ": ") (.new err) "")
    | .ok tid => .ok ⟨tid, true⟩

/-- `ID.String()`. -/
def string (i : ID) : String := if i.valid then i.inner.string else ""

/-- `ParseWithPrefix(s, expected)`. -/
def parseWithPrefix (s expected : String) : Except GoError ID :=
  match parse s with
  | .error err => .error err
  | .ok parsed =>
      if parsed.prefix ≠ expected then
        .error (.new ("id: expected prefix " ++ quote expected ++ ", got " ++ quote parsed.prefix))
      else .ok parsed

/-- `ID.IsNil()`. -/
def isNil (i : ID) : Bool := !i.valid

/-- `ID.MarshalText()`. -/
def marshalText (i : ID) : String := if i.valid then i.inner.string else ""

/-- `ID.UnmarshalText(data)`: the value written to the receiver, or the error. -/
def unmarshalText (data : String) : Except GoError ID :=
  if data = "" then .ok nil else parse data

/-- `ID.Value()`: `NULL` for `Nil`. -/
def value (i : ID) : DriverValue := if i.valid then .string i.inner.string else .nil

/-- `ID.Scan(src)`: the value written to the receiver, or the error. -/
def scan : DriverValue → Except GoError ID
  | .nil => .ok nil
  | .string v => if v = "" then .ok nil else unmarshalText v
  | .bytes v => if v = "" then .ok nil else unmarshalText v
  | .other typeName => .error (.new ("id: cannot scan " ++ typeName ++ " into ID"))

/-- `Nil`, or a set identifier whose TypeID the library can build. -/
def WellFormed (i : ID) : Prop := i = nil ∨ (i.valid = true ∧ i.inner.Valid)

theorem nil_wellFormed : nil.WellFormed := Or.inl rfl

theorem new_wellFormed {p : String} {uuid : BitVec 128} {i : ID} (h : new p uuid = .ok i) :
    i.WellFormed := by
  unfold new at h
  split at h
  · cases h
    exact Or.inr ⟨rfl, TypeID.generate_valid ‹_›⟩
  · cases h

theorem parse_ok {s : String} {i : ID} (h : parse s = .ok i) :
    ∃ tid, TypeID.parse s = .ok tid ∧ i = ⟨tid, true⟩ := by
  unfold parse at h
  split at h; · cases h
  split at h
  · cases h
  · cases h
    exact ⟨_, ‹_›, rfl⟩

theorem parse_wellFormed {s : String} {i : ID} (h : parse s = .ok i) : i.WellFormed := by
  obtain ⟨tid, htid, rfl⟩ := parse_ok h
  exact Or.inr ⟨rfl, TypeID.parse_valid htid⟩

/-- Parsing the text of a set identifier gives it back. -/
theorem parse_string {i : ID} (hv : i.valid = true) (h : i.inner.Valid) : parse i.string = .ok i := by
  have hs : i.string = i.inner.string := by simp [string, hv]
  rw [parse, hs, if_neg (TypeID.string_ne_empty _), TypeID.parse_string h]
  cases i
  simp_all

/-- What `Parse` reads back is a set identifier with a valid prefix that prints as the input. -/
theorem parse_eq_ok {s : String} {i : ID} (h : parse s = .ok i) :
    i.valid = true ∧ i.inner.Valid ∧ i.string = s := by
  obtain ⟨tid, htid, rfl⟩ := parse_ok h
  exact ⟨rfl, TypeID.parse_valid htid, TypeID.string_parse htid⟩

/-- Set identifiers with valid prefixes are told apart by their text. -/
theorem string_inj {i j : ID} (hi : i.valid = true) (hj : j.valid = true) (hvi : i.inner.Valid)
    (hvj : j.inner.Valid) (h : i.string = j.string) : i = j :=
  Except.ok.inj ((parse_string hi hvi).symm.trans (h ▸ parse_string hj hvj))

/-- Set identifiers of one valid prefix and UUIDs below `2 ^ 128` have distinct texts. -/
theorem string_ofNat_inj {p : String} (hp : (TypeID.validatePrefix p).toBool = true) {i j : Nat}
    (hi : i < 2 ^ 128) (hj : j < 2 ^ 128)
    (h : (⟨⟨p, BitVec.ofNat 128 i⟩, true⟩ : ID).string = (⟨⟨p, BitVec.ofNat 128 j⟩, true⟩ : ID).string) :
    i = j := by
  have : (BitVec.ofNat 128 i).toNat = (BitVec.ofNat 128 j).toNat := congrArg (fun x : ID => x.inner.suffix.toNat)
    (string_inj (i := ⟨⟨p, BitVec.ofNat 128 i⟩, true⟩) (j := ⟨⟨p, BitVec.ofNat 128 j⟩, true⟩) rfl rfl hp hp h)
  rwa [BitVec.toNat_ofNat, BitVec.toNat_ofNat, Nat.mod_eq_of_lt hi, Nat.mod_eq_of_lt hj] at this

theorem strings_ofNat_nodup {p : String} (hp : (TypeID.validatePrefix p).toBool = true) {n : Nat}
    (hn : n ≤ 2 ^ 128) : ((List.range n).map fun i => (⟨⟨p, BitVec.ofNat 128 i⟩, true⟩ : ID).string).Nodup := by
  rw [List.nodup_map_iff_inj_on (List.nodup_range n)]
  intro i hi j hj h
  exact string_ofNat_inj hp (by simp at hi; omega) (by simp at hj; omega) h

theorem string_eq_empty_iff {i : ID} (h : i.WellFormed) : i.string = "" ↔ i = nil := by
  rcases h with rfl | ⟨hv, -⟩
  · simp [string, nil]
  · simp only [string, hv, if_true, TypeID.string_ne_empty, false_iff]
    rintro rfl
    cases hv

theorem unmarshalText_marshalText {i : ID} (h : i.WellFormed) : unmarshalText i.marshalText = .ok i := by
  rcases h with rfl | ⟨hv, h⟩
  · rfl
  · have hm : i.marshalText = i.string := by simp [marshalText, string, hv]
    rw [unmarshalText, hm, if_neg (by simp [string, hv, TypeID.string_ne_empty]), parse_string hv h]

theorem scan_value {i : ID} (h : i.WellFormed) : scan i.value = .ok i := by
  rcases h with rfl | ⟨hv, h⟩
  · rfl
  · have hu := unmarshalText_marshalText (Or.inr ⟨hv, h⟩)
    simp only [marshalText, hv, if_true] at hu
    simp only [value, hv, if_true, scan, TypeID.string_ne_empty, if_false, hu]

theorem parseWithPrefix_string {i : ID} (hv : i.valid = true) (h : i.inner.Valid) (p : String) :
    (∃ j, parseWithPrefix i.string p = .ok j) ↔ p = i.prefix := by
  rw [parseWithPrefix, parse_string hv h]
  by_cases hp : i.prefix = p
  · simp [hp]
  · simp [hp, Ne.symm hp]

theorem parseWithPrefix_eq_ok {s expected : String} {i : ID} (h : parseWithPrefix s expected = .ok i) :
    i.valid = true ∧ i.inner.Valid ∧ i.string = s ∧ i.prefix = expected := by
  unfold parseWithPrefix at h
  split at h
  · cases h
  · rename_i j hj
    split at h
    · cases h
    · cases h
      exact ⟨(parse_eq_ok hj).1, (parse_eq_ok hj).2.1, (parse_eq_ok hj).2.2, not_not.1 ‹_›⟩

theorem parseWithPrefix_string_self {i : ID} (hv : i.valid = true) (h : i.inner.Valid) :
    parseWithPrefix i.string i.prefix = .ok i := by
  rw [parseWithPrefix, parse_string hv h]
  exact if_neg (not_not.2 rfl)

/-- `ParseWithPrefix(s, expected)`, and with it every `Parse…ID`, reads `s` as `i` exactly when
`i` is a set identifier with a valid prefix, that prefix is `expected`, and its text is `s`:
the parsers accept only the texts identifiers print, each as its own identifier. -/
theorem parseWithPrefix_eq_ok_iff {s expected : String} {i : ID} :
    parseWithPrefix s expected = .ok i ↔
      i.valid = true ∧ i.inner.Valid ∧ i.string = s ∧ i.prefix = expected :=
  ⟨parseWithPrefix_eq_ok, fun ⟨hv, hval, hs, hp⟩ => hs ▸ hp ▸ parseWithPrefix_string_self hv hval⟩

/-- The codec laws of identifiers: for `Nil` and for every identifier made by `New` or by
`Parse`, both codecs round-trip, a set identifier parses back from its text and accepts
exactly its own prefix, and only `Nil` has the empty text. -/
theorem codec_roundtrip (x : ID)
    (hx : x = nil ∨ (∃ p uuid, new p uuid = .ok x) ∨ ∃ s, parse s = .ok x) :
    unmarshalText x.marshalText = .ok x ∧ scan x.value = .ok x ∧
      (x ≠ nil → parse x.string = .ok x ∧
        ∀ p, (∃ j, parseWithPrefix x.string p = .ok j) ↔ p = x.prefix) ∧
      (x.string = "" ↔ x = nil) := by
  have hw : x.WellFormed := by
    rcases hx with rfl | ⟨p, uuid, h⟩ | ⟨s, h⟩
    · exact nil_wellFormed
    · exact new_wellFormed h
    · exact parse_wellFormed h
  refine ⟨unmarshalText_marshalText hw, scan_value hw, fun hn => ?_, string_eq_empty_iff hw⟩
  obtain ⟨hv, h⟩ := hw.resolve_left hn
  exact ⟨parse_string hv h, parseWithPrefix_string hv h⟩

/-- The laws at the role identifier `New("role")` makes from the UUID 1. -/
theorem codec_roundtrip_role :
    let x : ID := ⟨⟨"role", 1⟩, true⟩
    (x = nil ∨ (∃ p uuid, new p uuid = .ok x) ∨ ∃ s, parse s = .ok x) ∧
      unmarshalText x.marshalText = .ok x ∧ scan x.value = .ok x ∧
      (x ≠ nil → parse x.string = .ok x ∧
        ∀ p, (∃ j, parseWithPrefix x.string p = .ok j) ↔ p = x.prefix) ∧
      (x.string = "" ↔ x = nil) :=
  have hx : (⟨⟨"role", 1⟩, true⟩ : ID) = nil ∨ (∃ p uuid, new p uuid = .ok ⟨⟨"role", 1⟩, true⟩) ∨
      ∃ s, parse s = .ok ⟨⟨"role", 1⟩, true⟩ := .inr (.inl ⟨"role", 1, by rfl⟩)
  ⟨hx, codec_roundtrip _ hx⟩

end ID

/-- `PrefixRole`. -/
def prefixRole : String := "role"

/-- `PrefixPermission`. -/
def prefixPermission : String := "perm"

/-- `PrefixPolicy`. -/
def prefixPolicy : String := "wpol"

/-- `ParsePermissionID(s)`. -/
def parsePermissionID (s : String) : Except GoError ID := ID.parseWithPrefix s prefixPermission

end Warden
