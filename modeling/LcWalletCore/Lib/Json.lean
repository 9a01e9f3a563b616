import Mathlib.Algebra.Group.Nat.Defs
import Mathlib.Data.List.DropRight
import Mathlib.Data.List.Forall2

/-!
# JSON values

What a JSON reader hands to a program: values, and the accessors that look at one without failing.
Reading a text into a value is left to the program's parameter. A program that only looks fields up
cannot tell apart two values that differ in the order of fields (`Json.Same`). Also here are the
readers of plain text that go with it: trimming, and a decimal integer of a fixed width.
-/

namespace Lib

/-! ## Values -/

/-- A number as the reader keeps it: an integer that fits 64 bits, or a float by its bits. -/
inductive Json.Number
  | posInt (n : UInt64)
  | negInt (n : Int64)
  | float (bits : UInt64)
deriving DecidableEq, Repr

/-- A JSON value. The names in an object are distinct. -/
inductive Json
  | null
  | bool (b : Bool)
  | number (n : Json.Number)
  | string (s : String)
  | array (items : List Json)
  | object (fields : List (String × Json))
deriving Repr

namespace Json

/-- `Value::get` by name: nothing unless the value is an object that has the field. -/
def get : Json → String → Option Json
  | .object fields, name => fields.lookup name
  | _, _ => none

/-- `Value::as_str`. -/
def asStr : Json → Option String
  | .string s => some s
  | _ => none

/-- `Value::as_u64`. -/
def asU64 : Json → Option UInt64
  | .number (.posInt n) => some n
  | _ => none

/-- `Value::as_array`. -/
def asArray : Json → Option (List Json)
  | .array items => some items
  | _ => none

/-- The same value, with the fields of objects in any order. -/
inductive Same : Json → Json → Prop
  | refl (v : Json) : Same v v
  | array {items items' : List Json} (h : List.Forall₂ Same items items') :
      Same (.array items) (.array items')
  | object {fields fields' : List (String × Json)}
      (h : ∀ name, Option.Rel Same (fields.lookup name) (fields'.lookup name)) :
      Same (.object fields) (.object fields')

section Same
variable {v w : Json} (h : v.Same w)
include h

theorem Same.get (name : String) :
    (v.get name = none ∧ w.get name = none)
      ∨ ∃ x y, v.get name = some x ∧ w.get name = some y ∧ x.Same y := by
  cases h with
  | refl =>
    cases hget : v.get name with
    | none => exact .inl ⟨rfl, rfl⟩
    | some x => exact .inr ⟨x, x, rfl, rfl, .refl x⟩
  | array => exact .inl ⟨rfl, rfl⟩
  | @object fields fields' hfields =>
    have hrel := hfields name
    simp only [Json.get]
    cases hx : fields.lookup name <;> cases hy : fields'.lookup name <;> rw [hx, hy] at hrel <;>
      cases hrel
    · exact .inl ⟨rfl, rfl⟩
    · next x y hxy => exact .inr ⟨x, y, rfl, rfl, hxy⟩

theorem Same.asStr : v.asStr = w.asStr := by
  cases h <;> rfl

theorem Same.asU64 : v.asU64 = w.asU64 := by
  cases h <;> rfl

theorem Same.asArray :
    (v.asArray = none ∧ w.asArray = none)
      ∨ ∃ items items', v.asArray = some items ∧ w.asArray = some items'
        ∧ List.Forall₂ Same items items' := by
  cases h with
  | refl =>
    cases harray : v.asArray with
    | none => exact .inl ⟨rfl, rfl⟩
    | some items =>
      exact .inr ⟨items, items, rfl, rfl, List.forall₂_same.mpr fun x _ => .refl x⟩
  | @array items items' hitems => exact .inr ⟨items, items', rfl, rfl, hitems⟩
  | object => exact .inl ⟨rfl, rfl⟩

/-- What is read of a field does not depend on the order of the fields. -/
theorem Same.bind_get {β : Type} {read : Json → Option β}
    (hread : ∀ {x y : Json}, x.Same y → read x = read y) (name : String) :
    (v.get name).bind read = (w.get name).bind read := by
  rcases h.get name with ⟨hv, hw⟩ | ⟨x, y, hv, hw, hxy⟩
  · rw [hv, hw]
  · rw [hv, hw, Option.bind_some, Option.bind_some, hread hxy]

end Same

theorem mapM_congr {ε β : Type} {item : Json → Except ε β}
    (hitem : ∀ {x y : Json}, x.Same y → item x = item y) {items items' : List Json}
    (hitems : List.Forall₂ Same items items') : items.mapM item = items'.mapM item := by
  induction hitems with
  | nil => rfl
  | cons hxy _ ih => rw [List.mapM_cons, List.mapM_cons, hitem hxy, ih]

end Json

/-! ## Plain text -/

/-- Unicode's `White_Space`. -/
def isWhiteSpace (c : Char) : Bool :=
  let n := c.toNat
  (0x9 ≤ n && n ≤ 0xd) || n = 0x20 || n = 0x85 || n = 0xa0 || n = 0x1680
    || (0x2000 ≤ n && n ≤ 0x200a) || n = 0x2028 || n = 0x2029 || n = 0x202f || n = 0x205f
    || n = 0x3000

/-- `str::trim`. -/
def trim (s : String) : String :=
  String.ofList ((s.toList.dropWhile isWhiteSpace).rdropWhile isWhiteSpace)

/-- A text in visible delimiters has nothing to trim. -/
theorem trim_delimited {first last : Char} (hfirst : isWhiteSpace first = false)
    (hlast : isWhiteSpace last = false) (chars : List Char) :
    trim (String.ofList (first :: (chars ++ [last])))
      = String.ofList (first :: (chars ++ [last])) := by
  have hdrop : (first :: (chars ++ [last])).dropWhile isWhiteSpace = first :: chars ++ [last] :=
    List.dropWhile_cons_of_neg (by simp [hfirst])
  have hrdrop : (first :: chars ++ [last]).rdropWhile isWhiteSpace = first :: chars ++ [last] :=
    List.rdropWhile_concat_neg isWhiteSpace (first :: chars) last (by simp [hlast])
  unfold trim
  rw [String.toList_ofList, hdrop, hrdrop]
  rfl

/-- `u64::from_str`: decimal digits, at least one, after an optional plus sign; refused if the
value does not fit. -/
def u64FromStr (s : String) : Option UInt64 :=
  let digits := match s.toList with
    | '+' :: rest => rest
    | chars => chars
  let value := Nat.ofDigitChars 10 digits 0
  if digits ≠ [] ∧ digits.all Char.isDigit ∧ value < 2 ^ 64 then some (UInt64.ofNat value) else none

theorem u64FromStr_toString (n : UInt64) : u64FromStr (toString n.toNat) = some n := by
  have hchars : (toString n.toNat).toList = Nat.toDigits 10 n.toNat := Nat.toList_repr
  have hdigits : ∀ c ∈ Nat.toDigits 10 n.toNat, c.isDigit = true := fun c hc =>
    Nat.isDigit_of_mem_toDigits (by omega) (by omega) hc
  have hsign : ∀ rest, Nat.toDigits 10 n.toNat ≠ '+' :: rest := by
    intro rest hplus
    have hdigit := hdigits '+' (by rw [hplus]; exact List.mem_cons_self)
    exact absurd hdigit (by decide)
  have hne : Nat.toDigits 10 n.toNat ≠ [] := Nat.toDigits_ne_nil
  have hvalue : Nat.ofDigitChars 10 (Nat.toDigits 10 n.toNat) 0 = n.toNat :=
    Nat.ofDigitChars_ten_toDigits
  unfold u64FromStr
  rw [hchars]
  -- there is no sign, so the digits are the whole text
  simp only [hvalue]
  rw [if_pos ⟨hne, List.all_eq_true.mpr hdigits, n.toNat_lt⟩, UInt64.ofNat_toNat]

/-- `u8::from_str`. -/
def u8FromStr (s : String) : Option UInt8 :=
  (u64FromStr s).bind fun n => if n.toNat < 256 then some n.toUInt8 else none

example : trim " \t[]\u2003\n" = "[]" := by decide +kernel
example : u64FromStr "+007" = some 7 := by decide +kernel
example : u64FromStr "18446744073709551616" = none := by decide +kernel

end Lib
