import LcWalletCore.Lib.Bytes
import LcWalletCore.Lib.Json
import Mathlib.Logic.Equiv.Defs

/-!
# Derived JSON readers and writers

How a derived serializer lays a value out as a JSON document, and what the derived deserializer
accepts for one. A `Codec` is both, with the facts a format is judged by: what was written is read
back, what is accepted can be written, and what a later version of the format adds to a document
does not change what is read (`Extends`).

* a struct is an object with its fields in order; reading skips names it does not know, refuses a
  name it knows twice, and also takes the field values as an array (`Fields.struct`);
* an enum is an object with one field, named by the variant (`readTagged`).

A document is what the text of a message says, so an object may name a field twice here.
-/

namespace Lib.Serde

variable {α β : Type}

/-! ## Documents that say more -/

/-- The second document says what the first says to a reader of the names `known`: the fields of an
object may come in any order and with others, of names that are no field's, at any depth. An object
that stands for a variant gets no further field: it has one field, and either a name that is no
field's or, for a variant without a value, `null`. -/
inductive Extends (known : List String) : Json → Json → Prop
  | refl (v : Json) : Extends known v v
  | array {items items' : List Json} (h : List.Forall₂ (Extends known) items items') :
      Extends known (.array items) (.array items')
  | tagged {tag : String} {v v' : Json} (htag : tag ∉ known) (h : Extends known v v') :
      Extends known (.object [(tag, v)]) (.object [(tag, v')])
  | fields {fields fields' : List (String × Json)}
      (hone : ∀ name v, fields = [(name, v)] → name ∈ known ∧ v ≠ .null)
      (hsame : ∀ name ∈ known,
        Option.Rel (Extends known) (fields.lookup name) (fields'.lookup name))
      (honce : ∀ name ∈ known, (fields'.map Prod.fst).count name ≤ 1) :
      Extends known (.object fields) (.object fields')

theorem rel_lookup_refl (known : List String) (fields : List (String × Json)) (name : String) :
    Option.Rel (Extends known) (fields.lookup name) (fields.lookup name) := by
  cases fields.lookup name with
  | none => exact .none
  | some v => exact .some (.refl v)

/-- A name that stands once is looked up as what it stands with. -/
theorem lookup_of_once {fields : List (String × Json)} {name : String}
    (honce : (fields.map Prod.fst).count name ≤ 1) (v : Json) :
    fields.lookup name = some v ↔ (name, v) ∈ fields := by
  induction fields with
  | nil => simp
  | cons f fields ih =>
    rw [List.map_cons, List.count_cons] at honce
    by_cases hname : f.1 = name
    · have hrest : (fields.map Prod.fst).count name = 0 := by
        rw [if_pos (by simpa using hname)] at honce
        omega
      have hnot : (name, v) ∉ fields := by
        intro hmem
        exact List.count_eq_zero.mp hrest (List.mem_map_of_mem hmem)
      rw [List.lookup_cons, hname, List.mem_cons]
      simp only [beq_self_eq_true, Option.some.injEq, hnot, or_false]
      constructor
      · intro hv
        rw [← hname, ← hv]
      · intro hf
        rw [← hf]
    · have hrest := ih (by omega)
      have hne : (name == f.1) = false := by simpa using fun h => hname h.symm
      rw [List.lookup_cons, hne, List.mem_cons, ← hrest]
      simp only
      constructor
      · exact .inr
      · rintro (hf | hlookup)
        · exact absurd (by rw [← hf]) hname
        · exact hlookup

/-- Fields of unknown names extend an object, wherever they stand. -/
theorem Extends.of_perm {known : List String} {fields fields' : List (String × Json)}
    (more : List (String × Json))
    (hone : ∀ name v, fields = [(name, v)] → name ∈ known ∧ v ≠ .null)
    (hnodup : (fields.map Prod.fst).Nodup)
    (hmore : ∀ f ∈ more, f.1 ∉ known) (hperm : fields'.Perm (fields ++ more)) :
    Extends known (.object fields) (.object fields') := by
  have hcount : ∀ name ∈ known, (fields'.map Prod.fst).count name
      = (fields.map Prod.fst).count name := by
    intro name hname
    have hnone : (more.map Prod.fst).count name = 0 := by
      rw [List.count_eq_zero]
      intro hmem
      obtain ⟨f, hf, hfname⟩ := List.mem_map.mp hmem
      exact hmore f hf (hfname ▸ hname)
    rw [(hperm.map Prod.fst).count_eq, List.map_append, List.count_append, hnone, Nat.add_zero]
  have honce : ∀ name, (fields.map Prod.fst).count name ≤ 1 :=
    List.nodup_iff_count_le_one.mp hnodup
  have honce' : ∀ name ∈ known, (fields'.map Prod.fst).count name ≤ 1 := by
    intro name hname
    rw [hcount name hname]
    exact honce name
  refine .fields hone ?_ honce'
  intro name hname
  have hlookup : fields'.lookup name = fields.lookup name := by
    apply Option.ext
    intro v
    have hmem : (name, v) ∈ fields' ↔ (name, v) ∈ fields := by
      rw [hperm.mem_iff, List.mem_append]
      exact or_iff_left fun h => hmore _ h hname
    rw [lookup_of_once (honce' name hname), lookup_of_once (honce name), hmem]
  rw [hlookup]
  exact rel_lookup_refl known fields name

section Scalars
variable {known : List String} {v v' : Json} (h : Extends known v v')
include h

theorem Extends.asStr : v.asStr = v'.asStr := by
  cases h <;> rfl

theorem Extends.asU64 : v.asU64 = v'.asU64 := by
  cases h <;> rfl

end Scalars

/-- A known field of an object of known fields says the same in a document that says more. -/
theorem Extends.get {known : List String} {fields : List (String × Json)} {v : Json}
    (h : Extends known (.object fields) v) (hknown : ∀ f ∈ fields, f.1 ∈ known) {name : String}
    (hname : name ∈ known) :
    Option.Rel (Extends known) (fields.lookup name) (v.get name) := by
  cases h with
  | refl => exact rel_lookup_refl known fields name
  | tagged htag hv => exact absurd (hknown _ (List.mem_singleton_self _)) htag
  | fields _ hsame _ => exact hsame name hname

/-! ## Codecs -/

/-- A writer and a reader of one type. `Valid` are the values the source's type has. -/
structure Codec (known : List String) (α : Type) where
  write : α → Json
  read : Json → Option α
  Valid : α → Prop
  read_write : ∀ {a : α}, Valid a → read (write a) = some a
  valid_of_read : ∀ {v : Json} {a : α}, read v = some a → Valid a
  read_extended : ∀ {v v' : Json} {a : α}, Extends known v v' → read v = some a → read v' = some a

namespace Codec
variable {known : List String}

/-! ### Scalars -/

/-- A reader that takes no array and no object does not see what is added to one. -/
theorem read_extended_of_scalar {read : Json → Option α}
    (harray : ∀ items, read (.array items) = none)
    (hobject : ∀ fields, read (.object fields) = none) {v v' : Json} {a : α}
    (h : Extends known v v') (hread : read v = some a) : read v' = some a := by
  cases h with
  | refl => exact hread
  | array => simp [harray] at hread
  | tagged => simp [hobject] at hread
  | fields => simp [hobject] at hread

/-- `String`. -/
def str : Codec known String where
  write := .string
  read := Json.asStr
  Valid _ := True
  read_write _ := rfl
  valid_of_read _ := trivial
  read_extended := read_extended_of_scalar (fun _ => rfl) (fun _ => rfl)

theorem read_str_null : (str : Codec known String).read .null = none := rfl

def readBool : Json → Option Bool
  | .bool b => some b
  | _ => none

/-- `bool`. -/
def bool : Codec known Bool where
  write := .bool
  read := readBool
  Valid _ := True
  read_write _ := rfl
  valid_of_read _ := trivial
  read_extended := read_extended_of_scalar (fun _ => rfl) (fun _ => rfl)

/-- `u64`. -/
def u64 : Codec known UInt64 where
  write n := .number (.posInt n)
  read := Json.asU64
  Valid _ := True
  read_write _ := rfl
  valid_of_read _ := trivial
  read_extended := read_extended_of_scalar (fun _ => rfl) (fun _ => rfl)

def readU8 (v : Json) : Option UInt8 :=
  v.asU64.bind fun n => if n.toNat < 256 then some n.toUInt8 else none

/-- `u8`. -/
def u8 : Codec known UInt8 where
  write n := .number (.posInt n.toUInt64)
  read := readU8
  Valid _ := True
  read_write := by
    intro n _
    have hlt : n.toUInt64.toNat < 256 := by
      rw [UInt8.toNat_toUInt64]
      exact n.toNat_lt
    show (if n.toUInt64.toNat < 256 then some n.toUInt64.toUInt8 else none) = some n
    rw [if_pos hlt, UInt8.toUInt8_toUInt64]
  valid_of_read _ := trivial
  read_extended := read_extended_of_scalar (fun _ => rfl) (fun _ => rfl)

def readInt (lo hi : ℤ) : Json → Option ℤ
  | .number (.posInt n) => if lo ≤ n.toNat ∧ (n.toNat : ℤ) ≤ hi then some n.toNat else none
  | .number (.negInt n) => if lo ≤ n.toInt ∧ n.toInt ≤ hi then some n.toInt else none
  | _ => none

/-- A signed integer from `lo` to `hi`, which fit the reader's integers. -/
def int (lo hi : ℤ) (hlo : -2 ^ 63 ≤ lo) (hhi : hi < 2 ^ 63) : Codec known ℤ where
  write n := .number (if 0 ≤ n then .posInt (UInt64.ofNat n.toNat) else .negInt (Int64.ofInt n))
  read := readInt lo hi
  Valid n := lo ≤ n ∧ n ≤ hi
  read_write := by
    intro n hvalid
    by_cases hpos : 0 ≤ n
    · have hnat : ((UInt64.ofNat n.toNat).toNat : ℤ) = n := by
        rw [UInt64.toNat_ofNat_of_lt' (by simp [UInt64.size]; omega)]
        omega
      simp only [hpos, if_true, readInt, hnat]
      rw [if_pos hvalid]
    · have hint : (Int64.ofInt n).toInt = n := by
        apply Int64.toInt_ofInt_of_le
        · simpa using le_trans hlo hvalid.1
        · simpa using lt_of_le_of_lt hvalid.2 hhi
      simp only [hpos, if_false, readInt, hint]
      rw [if_pos hvalid]
  valid_of_read := by
    intro v a h
    unfold readInt at h
    split at h
    · rw [Option.ite_none_right_eq_some, Option.some.injEq] at h
      exact h.2 ▸ h.1
    · rw [Option.ite_none_right_eq_some, Option.some.injEq] at h
      exact h.2 ▸ h.1
    · simp at h
  read_extended := read_extended_of_scalar (fun _ => rfl) (fun _ => rfl)

/-- `i32`. -/
def i32 : Codec known ℤ := int (-2 ^ 31) (2 ^ 31 - 1) (by norm_num) (by norm_num)

/-- `i64`. -/
def i64 : Codec known ℤ := int (-2 ^ 63) (2 ^ 63 - 1) (by norm_num) (by norm_num)

def readHex (n : ℕ) (v : Json) : Option (Vector UInt8 n) := v.asStr.bind (decodeToSlice n)

/-- A byte array as hexadecimal text. -/
def hex (n : ℕ) : Codec known (Vector UInt8 n) where
  write b := .string (hexEncode b.toList)
  read := readHex n
  Valid _ := True
  read_write _ := decodeToSlice_encode _
  valid_of_read _ := trivial
  read_extended := read_extended_of_scalar (fun _ => rfl) (fun _ => rfl)

theorem read_hex_null (n : ℕ) : (hex n : Codec known (Vector UInt8 n)).read .null = none := rfl

def readHexBytes (n : ℕ) (v : Json) : Option Bytes := (readHex n v).map Vector.toList

/-- A byte string of `n` bytes as hexadecimal text. -/
def hexBytes (n : ℕ) : Codec known Bytes where
  write b := .string (hexEncode b)
  read := readHexBytes n
  Valid b := b.length = n
  read_write := by
    intro b hb
    subst hb
    have hdecode := decodeToSlice_encode (⟨b.toArray, by simp⟩ : Vector UInt8 b.length)
    simp only [Vector.toList] at hdecode
    simp [readHexBytes, readHex, Json.asStr, hdecode, Vector.toList]
  valid_of_read := by
    intro v b h
    obtain ⟨bytes, -, hbytes⟩ := Option.map_eq_some_iff.mp h
    rw [← hbytes, Vector.length_toList]
  read_extended := read_extended_of_scalar (fun _ => rfl) (fun _ => rfl)

/-- Only the values that pass a check. -/
def checked (c : Codec known α) (check : α → Bool) : Codec known α where
  write := c.write
  read v := (c.read v).filter check
  Valid a := c.Valid a ∧ check a = true
  read_write := by
    intro a hvalid
    rw [c.read_write hvalid.1, Option.filter_some, if_pos hvalid.2]
  valid_of_read := by
    intro v a h
    rw [Option.filter_eq_some_iff] at h
    exact ⟨c.valid_of_read h.1, h.2⟩
  read_extended := by
    intro v v' a h hread
    rw [Option.filter_eq_some_iff] at hread ⊢
    exact ⟨c.read_extended h hread.1, hread.2⟩

/-! ### Containers -/

theorem mapM_read_write (c : Codec known α) {items : List α} (hvalid : ∀ a ∈ items, c.Valid a) :
    (items.map c.write).mapM c.read = some items := by
  induction items with
  | nil => rfl
  | cons a items ih =>
    rw [List.forall_mem_cons] at hvalid
    rw [List.map_cons, List.mapM_cons, c.read_write hvalid.1, ih hvalid.2]
    rfl

theorem mapM_read_extended (c : Codec known α) {docs docs' : List Json}
    (h : List.Forall₂ (Extends known) docs docs') :
    ∀ {items : List α}, docs.mapM c.read = some items → docs'.mapM c.read = some items := by
  induction h with
  | nil => exact id
  | cons hdoc _ ih =>
    intro items hread
    simp only [List.mapM_cons, Option.bind_eq_bind, Option.bind_eq_some_iff] at hread ⊢
    obtain ⟨a, ha, rest, hrest, hitems⟩ := hread
    exact ⟨a, c.read_extended hdoc ha, rest, ih hrest, hitems⟩

theorem exists_read_of_mem_mapM (c : Codec known α) {docs : List Json} {items : List α}
    (h : docs.mapM c.read = some items) {a : α} (ha : a ∈ items) :
    ∃ doc, c.read doc = some a := by
  induction docs generalizing items with
  | nil =>
    rw [List.mapM_nil, Option.pure_def, Option.some.injEq] at h
    rw [← h] at ha
    exact absurd ha List.not_mem_nil
  | cons doc docs ih =>
    simp only [List.mapM_cons, Option.bind_eq_bind, Option.bind_eq_some_iff, Option.pure_def,
      Option.some.injEq] at h
    obtain ⟨b, hb, rest, hrest, rfl⟩ := h
    rcases List.mem_cons.mp ha with rfl | ha
    · exact ⟨doc, hb⟩
    · exact ih hrest ha

/-- `Vec`. -/
def list (c : Codec known α) : Codec known (List α) where
  write items := .array (items.map c.write)
  read v := v.asArray.bind fun docs => docs.mapM c.read
  Valid items := ∀ a ∈ items, c.Valid a
  read_write hvalid := mapM_read_write c hvalid
  valid_of_read := by
    intro v items h a ha
    rw [Option.bind_eq_some_iff] at h
    obtain ⟨docs, -, hdocs⟩ := h
    obtain ⟨doc, hdoc⟩ := exists_read_of_mem_mapM c hdocs ha
    exact c.valid_of_read hdoc
  read_extended := by
    intro v v' items h hread
    cases h with
    | refl => exact hread
    | array hdocs => exact mapM_read_extended c hdocs hread
    | tagged => simp [Json.asArray] at hread
    | fields => simp [Json.asArray] at hread

/-- `Option`: `null` or the value. -/
def option (c : Codec known α) (hnull : c.read .null = none) : Codec known (Option α) where
  write a := a.elim .null c.write
  read v := match v with
    | .null => some none
    | v => (c.read v).map some
  Valid a := ∀ x, a = some x → c.Valid x
  read_write := by
    intro a hvalid
    cases a with
    | none => rfl
    | some x =>
      have hread := c.read_write (hvalid x rfl)
      simp only [Option.elim_some]
      split
      · next hwrite =>
        rw [hwrite, hnull] at hread
        simp at hread
      · rw [hread]
        rfl
  valid_of_read := by
    intro v a h x hx
    subst hx
    split at h
    · simp at h
    · rw [Option.map_eq_some_iff] at h
      obtain ⟨y, hy, hyx⟩ := h
      rw [Option.some.injEq] at hyx
      exact hyx ▸ c.valid_of_read hy
  read_extended := by
    intro v v' a h hread
    split at hread
    · cases h
      exact hread
    · rw [Option.map_eq_some_iff] at hread
      obtain ⟨x, hx, rfl⟩ := hread
      have hx' := c.read_extended h hx
      split
      · rw [hnull] at hx'
        simp at hx'
      · rw [hx']
        rfl

end Codec

/-! ## Structs -/

/-- A field of a struct. `absent` is its value where the name is missing, `short` where an array
ends before it, and a `skipped` value is not written. -/
structure Field (known : List String) (α : Type) where
  name : String
  codec : Codec known α
  absent : Option α
  short : Option α
  skipped : α → Bool
  absent_of_skipped : ∀ {a : α}, skipped a = true → absent = some a
  valid_of_absent : ∀ {a : α}, absent = some a → codec.Valid a
  valid_of_short : ∀ {a : α}, short = some a → codec.Valid a

namespace Field
variable {known : List String}

/-- A field that has to be there. -/
def required (name : String) (codec : Codec known α) : Field known α where
  name := name
  codec := codec
  absent := none
  short := none
  skipped _ := false
  absent_of_skipped := by simp
  valid_of_absent := by simp
  valid_of_short := by simp

/-- An `Option` field: written as `null` and read from nothing. -/
def optional (name : String) (codec : Codec known α) (hnull : codec.read .null = none) :
    Field known (Option α) where
  name := name
  codec := codec.option hnull
  absent := some none
  short := none
  skipped _ := false
  absent_of_skipped := by simp
  valid_of_absent := by
    intro a ha x hx
    simp [hx] at ha
  valid_of_short := by simp

/-- An `Option` field with a default that is not written when empty. -/
def skippable (name : String) (codec : Codec known α) (hnull : codec.read .null = none) :
    Field known (Option α) where
  name := name
  codec := codec.option hnull
  absent := some none
  short := some none
  skipped := Option.isNone
  absent_of_skipped := by simp
  valid_of_absent := by
    intro a ha x hx
    simp [hx] at ha
  valid_of_short := by
    intro a ha x hx
    simp [hx] at ha

/-- A list field that is empty by default. -/
def defaulted (name : String) (codec : Codec known α) :
    Field known (List α) where
  name := name
  codec := codec.list
  absent := some []
  short := some []
  skipped _ := false
  absent_of_skipped := by simp
  valid_of_absent := by
    intro a ha x hx
    simp_all
  valid_of_short := by
    intro a ha x hx
    simp_all

@[simp] theorem name_required (name : String) (codec : Codec known α) :
    (required name codec).name = name := rfl

@[simp] theorem name_defaulted (name : String) (codec : Codec known α) :
    (defaulted name codec).name = name := rfl

/-- What is written for the field. -/
def write (f : Field known α) (a : α) : List (String × Json) :=
  if f.skipped a then [] else [(f.name, f.codec.write a)]

/-- What the field is read as, from what stands under its name. -/
def read (f : Field known α) : Option Json → Option α
  | some v => f.codec.read v
  | none => f.absent

/-- What the field is read as, from what is left of an array. -/
def readSeq (f : Field known α) : List Json → Option α
  | v :: _ => f.codec.read v
  | [] => f.short

theorem read_lookup (f : Field known α) {a : α} (hvalid : f.codec.Valid a) :
    f.read ((f.write a).lookup f.name) = some a := by
  unfold write
  by_cases hskipped : f.skipped a = true
  · rw [if_pos hskipped, List.lookup_nil]
    exact f.absent_of_skipped hskipped
  · rw [if_neg hskipped, List.lookup_cons_self]
    exact f.codec.read_write hvalid

theorem read_extended (f : Field known α) {v v' : Option Json} {a : α}
    (h : Option.Rel (Extends known) v v') (hread : f.read v = some a) : f.read v' = some a := by
  cases h with
  | none => exact hread
  | some h => exact f.codec.read_extended h hread

theorem readSeq_extended (f : Field known α) {items items' : List Json} {a : α}
    (h : List.Forall₂ (Extends known) items items') (hread : f.readSeq items = some a) :
    f.readSeq items' = some a := by
  cases h with
  | nil => exact hread
  | cons h _ => exact f.codec.read_extended h hread

theorem valid_of_read (f : Field known α) {v : Option Json} {a : α} (h : f.read v = some a) :
    f.codec.Valid a := by
  cases v with
  | none => exact f.valid_of_absent h
  | some v => exact f.codec.valid_of_read h

theorem valid_of_readSeq (f : Field known α) {items : List Json} {a : α}
    (h : f.readSeq items = some a) : f.codec.Valid a := by
  cases items with
  | nil => exact f.valid_of_short h
  | cons v items => exact f.codec.valid_of_read h

end Field

/-- The fields of a struct, in order. -/
structure Fields (known : List String) (α : Type) where
  names : List String
  write : α → List (String × Json)
  readMap : List (String × Json) → Option α
  readSeq : List Json → Option α
  Valid : α → Prop
  write_names : ∀ a : α, List.Sublist ((write a).map Prod.fst) names
  readMap_write : ∀ {a : α}, names.Nodup → Valid a → readMap (write a) = some a
  valid_of_readMap : ∀ {fields : List (String × Json)} {a : α}, readMap fields = some a → Valid a
  valid_of_readSeq : ∀ {items : List Json} {a : α}, readSeq items = some a → Valid a
  readMap_extended : ∀ {fields fields' : List (String × Json)} {a : α},
    (∀ name ∈ names, Option.Rel (Extends known) (fields.lookup name) (fields'.lookup name)) →
    readMap fields = some a → readMap fields' = some a
  readSeq_extended : ∀ {items items' : List Json} {a : α},
    List.Forall₂ (Extends known) items items' → readSeq items = some a → readSeq items' = some a

namespace Fields
variable {known : List String}

/-- No fields. An array has to be empty. -/
def nil : Fields known Unit where
  names := []
  write _ := []
  readMap _ := some ()
  readSeq items := if items.isEmpty then some () else none
  Valid _ := True
  write_names _ := List.Sublist.refl _
  readMap_write _ _ := rfl
  valid_of_readMap _ := trivial
  valid_of_readSeq _ := trivial
  readMap_extended _ hread := hread
  readSeq_extended := by
    intro items items' a h hread
    cases h with
    | nil => exact hread
    | cons => simp at hread

section Cons
variable (f : Field known α) (rest : Fields known β)

/-- What the fields behind another name's field say does not depend on it. -/
theorem lookup_write_append (a : α) (fields : List (String × Json)) {name : String}
    (hname : name ≠ f.name) : (f.write a ++ fields).lookup name = fields.lookup name := by
  unfold Field.write
  split
  · rfl
  · have hne : (name == f.name) = false := by simpa using hname
    rw [List.singleton_append, List.lookup_cons, hne]

/-- A field is looked up in what it wrote itself. -/
theorem lookup_append_write {b : β} (hnew : f.name ∉ rest.names) (a : α) :
    (f.write a ++ rest.write b).lookup f.name = (f.write a).lookup f.name := by
  have hrest : (rest.write b).lookup f.name = none := by
    rw [List.lookup_eq_none_iff]
    intro q hq
    have hmem : q.1 ∈ rest.names := (rest.write_names b).subset (List.mem_map_of_mem hq)
    simpa using fun heq : f.name = q.1 => hnew (heq ▸ hmem)
  rw [List.lookup_append, hrest, Option.or_none]

/-- A further field in front. -/
def cons : Fields known (α × β) where
  names := f.name :: rest.names
  write p := f.write p.1 ++ rest.write p.2
  readMap fields := do
    let a ← f.read (fields.lookup f.name)
    let b ← rest.readMap fields
    return (a, b)
  readSeq items := do
    let a ← f.readSeq items
    let b ← rest.readSeq items.tail
    return (a, b)
  Valid p := f.codec.Valid p.1 ∧ rest.Valid p.2
  write_names := by
    intro p
    rw [List.map_append]
    unfold Field.write
    split
    · exact (rest.write_names p.2).cons _
    · exact (rest.write_names p.2).cons_cons _
  readMap_write := by
    intro p hnodup hvalid
    rw [List.nodup_cons] at hnodup
    have ha : f.read ((f.write p.1 ++ rest.write p.2).lookup f.name) = some p.1 := by
      rw [lookup_append_write f rest hnodup.1]
      exact f.read_lookup hvalid.1
    have hb : rest.readMap (f.write p.1 ++ rest.write p.2) = some p.2 := by
      refine rest.readMap_extended ?_ (rest.readMap_write hnodup.2 hvalid.2)
      intro name hname
      have hne : name ≠ f.name := fun heq => hnodup.1 (heq ▸ hname)
      rw [lookup_write_append f p.1 _ hne]
      exact rel_lookup_refl known _ name
    rw [ha, hb]
    rfl
  valid_of_readMap := by
    intro fields p h
    simp only [Option.bind_eq_bind, Option.bind_eq_some_iff, Option.pure_def,
      Option.some.injEq] at h
    obtain ⟨a, ha, b, hb, rfl⟩ := h
    exact ⟨f.valid_of_read ha, rest.valid_of_readMap hb⟩
  valid_of_readSeq := by
    intro items p h
    simp only [Option.bind_eq_bind, Option.bind_eq_some_iff, Option.pure_def,
      Option.some.injEq] at h
    obtain ⟨a, ha, b, hb, rfl⟩ := h
    exact ⟨f.valid_of_readSeq ha, rest.valid_of_readSeq hb⟩
  readMap_extended := by
    intro fields fields' p h hread
    simp only [Option.bind_eq_bind, Option.bind_eq_some_iff] at hread ⊢
    obtain ⟨a, ha, b, hb, hp⟩ := hread
    rw [List.forall_mem_cons] at h
    exact ⟨a, f.read_extended h.1 ha, b, rest.readMap_extended h.2 hb, hp⟩
  readSeq_extended := by
    intro items items' p h hread
    simp only [Option.bind_eq_bind, Option.bind_eq_some_iff] at hread ⊢
    obtain ⟨a, ha, b, hb, hp⟩ := hread
    have htail : List.Forall₂ (Extends known) items.tail items'.tail := by
      cases h with
      | nil => exact .nil
      | cons _ h => exact h
    exact ⟨a, f.readSeq_extended h ha, b, rest.readSeq_extended htail hb, hp⟩

end Cons

/-- The fields of a record, whose values are the tuples of the fields. -/
def record (F : Fields known α) (e : β ≃ α) : Fields known β where
  names := F.names
  write b := F.write (e b)
  readMap fields := (F.readMap fields).map e.symm
  readSeq items := (F.readSeq items).map e.symm
  Valid b := F.Valid (e b)
  write_names b := F.write_names (e b)
  readMap_write := by
    intro b hnodup hvalid
    rw [F.readMap_write hnodup hvalid, Option.map_some, e.symm_apply_apply]
  valid_of_readMap := by
    intro fields b h
    obtain ⟨a, ha, hab⟩ := Option.map_eq_some_iff.mp h
    rw [← hab, e.apply_symm_apply]
    exact F.valid_of_readMap ha
  valid_of_readSeq := by
    intro items b h
    obtain ⟨a, ha, hab⟩ := Option.map_eq_some_iff.mp h
    rw [← hab, e.apply_symm_apply]
    exact F.valid_of_readSeq ha
  readMap_extended := by
    intro fields fields' b h hread
    rw [Option.map_eq_some_iff] at hread ⊢
    obtain ⟨a, ha, hab⟩ := hread
    exact ⟨a, F.readMap_extended h ha, hab⟩
  readSeq_extended := by
    intro items items' b h hread
    rw [Option.map_eq_some_iff] at hread ⊢
    obtain ⟨a, ha, hab⟩ := hread
    exact ⟨a, F.readSeq_extended h ha, hab⟩

/-- One field. -/
def single (f : Field known α) : Fields known α :=
  (cons f nil).record ⟨fun a => (a, ()), Prod.fst, fun _ => rfl, fun _ => rfl⟩

/-- A struct from a document: its fields by name, each once, or by position. -/
def readStruct (F : Fields known α) : Json → Option α
  | .object fields =>
    if ∀ name ∈ F.names, (fields.map Prod.fst).count name ≤ 1 then F.readMap fields else none
  | .array items => F.readSeq items
  | _ => none

theorem readStruct_object {F : Fields known α} {fields : List (String × Json)} {a : α} :
    F.readStruct (.object fields) = some a ↔
      (∀ name ∈ F.names, (fields.map Prod.fst).count name ≤ 1) ∧ F.readMap fields = some a :=
  Option.ite_none_right_eq_some

/-- A struct. -/
def struct (F : Fields known α) (hnodup : F.names.Nodup) (hknown : ∀ name ∈ F.names, name ∈ known) :
    Codec known α where
  write a := .object (F.write a)
  read := F.readStruct
  Valid := F.Valid
  read_write := by
    intro a hvalid
    rw [readStruct_object]
    refine ⟨?_, F.readMap_write hnodup hvalid⟩
    intro name _
    exact List.nodup_iff_count_le_one.mp ((F.write_names a).nodup hnodup) name
  valid_of_read := by
    intro v a h
    unfold readStruct at h
    split at h
    · exact F.valid_of_readMap (Option.ite_none_right_eq_some.mp h).2
    · exact F.valid_of_readSeq h
    · simp at h
  read_extended := by
    intro v v' a h hread
    cases h with
    | refl => exact hread
    | array h => exact F.readSeq_extended h hread
    | @tagged tag w w' htag h =>
      -- the one name is unknown, so neither object has any of the fields
      rw [readStruct_object] at hread ⊢
      refine ⟨hread.1, F.readMap_extended ?_ hread.2⟩
      intro name hname
      have hne : (name == tag) = false := by
        simpa using fun heq : name = tag => htag (heq ▸ hknown name hname)
      rw [List.lookup_cons, List.lookup_cons, hne]
      exact .none
    | fields _ hsame honce =>
      rw [readStruct_object] at hread ⊢
      exact ⟨fun name hname => honce name (hknown name hname),
        F.readMap_extended (fun name hname => hsame name (hknown name hname)) hread.2⟩

end Fields

/-! ### Valid values -/

section Valid
variable {known : List String}

@[simp] theorem valid_str (s : String) : (Codec.str : Codec known String).Valid s := trivial

@[simp] theorem valid_bool (b : Bool) : (Codec.bool : Codec known Bool).Valid b := trivial

@[simp] theorem valid_u64 (n : UInt64) : (Codec.u64 : Codec known UInt64).Valid n := trivial

@[simp] theorem valid_u8 (n : UInt8) : (Codec.u8 : Codec known UInt8).Valid n := trivial

theorem valid_i32 (n : ℤ) :
    (Codec.i32 : Codec known ℤ).Valid n ↔ -2 ^ 31 ≤ n ∧ n < 2 ^ 31 := by
  show (-2 ^ 31 ≤ n ∧ n ≤ 2 ^ 31 - 1) ↔ _
  omega

theorem valid_i64 (n : ℤ) :
    (Codec.i64 : Codec known ℤ).Valid n ↔ -2 ^ 63 ≤ n ∧ n < 2 ^ 63 := by
  show (-2 ^ 63 ≤ n ∧ n ≤ 2 ^ 63 - 1) ↔ _
  omega

@[simp] theorem valid_hex {n : ℕ} (b : Vector UInt8 n) : (Codec.hex n : Codec known _).Valid b :=
  trivial

@[simp] theorem valid_hexBytes {n : ℕ} (b : Bytes) :
    (Codec.hexBytes n : Codec known Bytes).Valid b ↔ b.length = n := Iff.rfl

@[simp] theorem valid_checked (c : Codec known α) (check : α → Bool) (a : α) :
    (c.checked check).Valid a ↔ c.Valid a ∧ check a = true := Iff.rfl

@[simp] theorem valid_list (c : Codec known α) (items : List α) :
    c.list.Valid items ↔ ∀ a ∈ items, c.Valid a := Iff.rfl

@[simp] theorem valid_required (name : String) (c : Codec known α) (a : α) :
    (Field.required name c).codec.Valid a ↔ c.Valid a := Iff.rfl

@[simp] theorem valid_optional (name : String) (c : Codec known α) (hnull : c.read .null = none)
    (a : Option α) : (Field.optional name c hnull).codec.Valid a ↔ ∀ x, a = some x → c.Valid x :=
  Iff.rfl

@[simp] theorem valid_skippable (name : String) (c : Codec known α) (hnull : c.read .null = none)
    (a : Option α) : (Field.skippable name c hnull).codec.Valid a ↔ ∀ x, a = some x → c.Valid x :=
  Iff.rfl

@[simp] theorem valid_defaulted (name : String) (c : Codec known α) (items : List α) :
    (Field.defaulted name c).codec.Valid items ↔ ∀ a ∈ items, c.Valid a := Iff.rfl

@[simp] theorem valid_nil (u : Unit) : (Fields.nil : Fields known Unit).Valid u := trivial

@[simp] theorem valid_cons (f : Field known α) (rest : Fields known β) (p : α × β) :
    (Fields.cons f rest).Valid p ↔ f.codec.Valid p.1 ∧ rest.Valid p.2 := Iff.rfl

@[simp] theorem valid_record (F : Fields known α) (e : β ≃ α) (b : β) :
    (F.record e).Valid b ↔ F.Valid (e b) := Iff.rfl

@[simp] theorem valid_single (f : Field known α) (a : α) :
    (Fields.single f).Valid a ↔ f.codec.Valid a := by
  simp [Fields.single]

@[simp] theorem valid_struct (F : Fields known α) (hnodup : F.names.Nodup)
    (hknown : ∀ name ∈ F.names, name ∈ known) (a : α) :
    (F.struct hnodup hknown).Valid a ↔ F.Valid a := Iff.rfl

end Valid

/-! ## Enums -/

/-- A variant of an enum: its name, and the reader of its value. -/
structure Variant (known : List String) (β : Type) where
  tag : String
  read : Json → Option β
  read_extended : ∀ {v v' : Json} {b : β}, Extends known v v' → read v = some b → read v' = some b

section Enum
variable {known : List String}

/-- The variant whose value `c` reads. -/
def variant (tag : String) (c : Codec known α) (make : α → β) : Variant known β where
  tag := tag
  read v := (c.read v).map make
  read_extended := by
    intro v v' b h hread
    rw [Option.map_eq_some_iff] at hread ⊢
    obtain ⟨a, ha, hab⟩ := hread
    exact ⟨a, c.read_extended h ha, hab⟩

/-- A value of a variant. -/
def tagged (tag : String) (v : Json) : Json := .object [(tag, v)]

/-- An enum whose variants all have a value: an object that names one of them, and nothing else. -/
def readTagged (variants : List (Variant known β)) : Json → Option β
  | .object [(tag, v)] => (variants.find? fun p => p.tag = tag).bind fun p => p.read v
  | _ => none

theorem readTagged_tagged {variants : List (Variant known β)} {tag : String} (c : Codec known α)
    (make : α → β) (hvariant : variants.find? (fun p => p.tag = tag) = some (variant tag c make))
    {a : α} (hvalid : c.Valid a) :
    readTagged variants (tagged tag (c.write a)) = some (make a) := by
  show (variants.find? fun p => p.tag = tag).bind (fun p => p.read (c.write a)) = _
  rw [hvariant, Option.bind_some]
  show (c.read (c.write a)).map make = _
  rw [c.read_write hvalid, Option.map_some]

/-- What an enum's reader accepts, one of the variants accepts. -/
theorem readTagged_eq_some {variants : List (Variant known β)} {v : Json} {b : β}
    (h : readTagged variants v = some b) :
    ∃ p ∈ variants, ∃ w, v = tagged p.tag w ∧ p.read w = some b := by
  unfold readTagged at h
  split at h
  · next tag w =>
    obtain ⟨p, hp, hw⟩ := Option.bind_eq_some_iff.mp h
    have htag : p.tag = tag := by simpa using List.find?_some hp
    exact ⟨p, List.mem_of_find?_eq_some hp, w, by rw [htag]; rfl, hw⟩
  · simp at h

theorem readTagged_extended {variants : List (Variant known β)}
    (htags : ∀ tag ∈ variants.map Variant.tag, tag ∉ known) {v v' : Json} {b : β}
    (h : Extends known v v')
    (hread : readTagged variants v = some b) : readTagged variants v' = some b := by
  cases h with
  | refl => exact hread
  | array => simp [readTagged] at hread
  | @tagged tag w w' _ h =>
    obtain ⟨p, hp, hw⟩ := Option.bind_eq_some_iff.mp hread
    exact Option.bind_eq_some_iff.mpr ⟨p, hp, p.read_extended h hw⟩
  | fields hone _ _ =>
    -- an object of fields is no variant's
    obtain ⟨p, hp, w, hv, -⟩ := readTagged_eq_some hread
    rw [tagged, Json.object.injEq] at hv
    exact absurd (hone p.tag w hv).1 (htags p.tag (List.mem_map_of_mem hp))

theorem post_of_variant {tag : String} {c : Codec known α} {make : α → β} {P : β → Prop}
    (hmake : ∀ a, c.Valid a → P (make a)) (w : Json) (b : β)
    (h : (variant tag c make).read w = some b) : P b := by
  obtain ⟨a, ha, hab⟩ := Option.map_eq_some_iff.mp h
  rw [← hab]
  exact hmake a (c.valid_of_read ha)

theorem post_of_readTagged {P : β → Prop} {variants : List (Variant known β)}
    (hall : ∀ p ∈ variants, ∀ w b, p.read w = some b → P b) {v : Json} {b : β}
    (h : readTagged variants v = some b) : P b := by
  obtain ⟨p, hp, w, -, hw⟩ := readTagged_eq_some h
  exact hall p hp w b hw

end Enum

end Lib.Serde
