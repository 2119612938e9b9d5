import FilterSql.Proofs.Json.Documents

/-!
# Values through JSON

A value without finite floating-point numbers has a JSON text, and the text is
read back as the value's normal form: an unsigned number that the signed range
holds is signed, and a float, which is none that JSON can write, is null. Every
integer keeps its number and every text its characters.

In `json_read_back` the normal form is `normal`. Finite floating-point numbers are
excluded because their texts are the business of `Number/Shortest`, and lists must
nest less than 128 deep, as deep as the reader goes.
-/

namespace FilterSql

theorem toInt_maxValue : Int64.maxValue.toInt = 9223372036854775807 := by decide

namespace Json.Numeral

/-- An integer of 64 bits is read as a signed number if it can be one, else as an unsigned one. -/
theorem toValue?_ofInt {n : Int} (low : Int64.minValue.toInt ≤ n) (high : n < UInt64.size) :
    (ofInt n).toValue? =
      some (if n ≤ Int64.maxValue.toInt then .int (Int64.ofInt n)
        else .uint (UInt64.ofNat n.toNat)) := by
  have digits : Nat.ofDigitChars 10 (Nat.toDigits 10 n.natAbs) 0 = n.natAbs :=
    Nat.ofDigitChars_toDigits (by decide) (by decide)
  have zero : ¬ (n < 0 ∧ n.natAbs = 0) := by omega
  have value : (if n < 0 then -(n.natAbs : Int) else n.natAbs) = n := by omega
  simp only [toValue?, ofInt, List.isEmpty_nil, Option.isNone_none, Bool.and_self, if_true, digits,
    decide_eq_true_eq, if_neg zero, value, Decimal.toInt64?]
  by_cases signed : n ≤ Int64.maxValue.toInt
  · rw [if_pos ⟨low, signed⟩, if_pos signed]
  · have max := toInt_maxValue
    have natural : n.natAbs = n.toNat := by omega
    have unsigned : (!decide (n < 0)) = true ∧ n.toNat < UInt64.size := by
      rw [Bool.not_eq_true', decide_eq_false_iff_not]
      omega
    rw [if_neg (fun both => signed both.2), if_neg signed, natural]
    exact if_pos unsigned

/-- A signed number is read back as one. -/
theorem toValue?_signed (i : Int64) : (ofInt i.toInt).toValue? = some (.int i) := by
  have high : i.toInt < UInt64.size := Int.lt_trans i.toInt_lt (by decide)
  rw [toValue?_ofInt i.minValue_le_toInt high, if_pos i.toInt_le, Int64.ofInt_toInt]

end Json.Numeral

namespace Value

mutual

def nesting : Value → Nat
  | list vs => nestingList vs + 1
  | _ => 0

def nestingList : List Value → Nat
  | [] => 0
  | v :: vs => max v.nesting (nestingList vs)

end

mutual

/-- The value with every unsigned number that the signed range holds made signed, and null in
place of every float that is not finite. -/
def normal : Value → Value
  | uint n => if (n.toNat : Int) ≤ Int64.maxValue.toInt then int (Int64.ofInt n.toNat) else uint n
  | float x => if x.isFinite then float x else null
  | list vs => list (normalList vs)
  | v => v

def normalList : List Value → List Value
  | [] => []
  | v :: vs => v.normal :: normalList vs

end

def integer? : Value → Option Int
  | int n => some n.toInt
  | uint n => some n.toNat
  | _ => none

def text? : Value → Option String
  | text s => some s
  | _ => none

mutual

/-- Normalising changes scalars one by one and keeps their order. -/
theorem scalars_normal : (v : Value) → v.normal.scalars = v.scalars.map normal
  | .null => rfl
  | .bool _ => rfl
  | .int _ => rfl
  | .uint n => by
    change (uint n).normal.scalars = [(uint n).normal]
    rw [normal]
    split <;> rfl
  | .float x => by
    change (float x).normal.scalars = [(float x).normal]
    rw [normal]
    split <;> rfl
  | .text _ => rfl
  | .list vs => scalarsList_normalList vs

theorem scalarsList_normalList :
    (vs : List Value) → scalarsList (normalList vs) = (scalarsList vs).map normal
  | [] => rfl
  | v :: vs => by
    rw [normalList, scalarsList, scalarsList, scalars_normal v, scalarsList_normalList vs,
      List.map_append]

end

theorem integer?_normal (v : Value) : v.normal.integer? = v.integer? := by
  cases v with
  | uint n =>
    rw [normal]
    split
    · next fits =>
      have max := toInt_maxValue
      have number : (Int64.ofInt n.toNat).toInt = n.toNat :=
        Int64.toInt_ofInt_of_le (by omega) (by omega)
      rw [integer?, integer?, number]
    · rfl
  | float x =>
    rw [normal]
    split <;> rfl
  | null | bool | int | text | list => rfl

theorem text?_normal (v : Value) : v.normal.text? = v.text? := by
  cases v with
  | uint | float =>
    rw [normal]
    split <;> rfl
  | null | bool | int | text | list => rfl

theorem filterMap_scalars_normal {α : Type} {read : Value → Option α}
    (keeps : ∀ v : Value, read v.normal = read v) (v : Value) :
    v.normal.scalars.filterMap read = v.scalars.filterMap read := by
  rw [scalars_normal, List.filterMap_map]
  exact congrFun (congrArg _ (funext keeps)) _

def NoFiniteFloat (v : Value) : Prop :=
  ∀ x, float x ∈ v.scalars → x.isFinite = false

/-- What is known of the document that a value is written as. -/
structure Form (v : Value) (j : Json) : Prop where
  written : v.toJson? = some j
  plain : j.Plain
  nesting : j.nesting = v.nesting
  denotes : ofJson? j = some v.normal

mutual

/-- A value without finite floats has a document, which nests as deep as the value does and denotes
its normal form. -/
theorem exists_form : (v : Value) → v.NoFiniteFloat → ∃ j, v.Form j
  | .null => fun _ => ⟨_, rfl, .null, rfl, rfl⟩
  | .bool b => fun _ => ⟨_, rfl, .bool b, rfl, rfl⟩
  | .int i => fun _ => ⟨_, rfl, .integer i.toInt, rfl, Json.Numeral.toValue?_signed i⟩
  | .uint n => fun _ => by
    have low : Int64.minValue.toInt ≤ 0 := by decide
    have high : (n.toNat : Int) < UInt64.size := Int.ofNat_lt.mpr n.toNat_lt_size
    refine ⟨_, rfl, .integer n.toNat, rfl, ?_⟩
    change (Json.Numeral.ofInt n.toNat).toValue? = _
    rw [Json.Numeral.toValue?_ofInt (by omega) high, Int.toNat_natCast, UInt64.ofNat_toNat]
    rfl
  | .float x => fun finite => by
    have odd := finite x List.mem_cons_self
    refine ⟨.null, ?_, .null, rfl, ?_⟩
    · rw [toJson?, odd]
      rfl
    · rw [normal, odd]
      rfl
  | .text s => fun _ => ⟨_, rfl, .string s, rfl, by
    change (Json.string? (s.toList.map some)).map text = _
    rw [Json.string?_map_some, String.ofList_toList]
    rfl⟩
  | .list vs => fun finite => by
    obtain ⟨js, written, plain, nesting, denotes⟩ := exists_forms vs finite
    refine ⟨.array js, ?_, .array plain, ?_, ?_⟩
    · rw [toJson?, written]
      rfl
    · rw [Json.nesting, nesting, Value.nesting]
    · rw [ofJson?, denotes]
      rfl

theorem exists_forms : (vs : List Value) →
    (∀ x, float x ∈ scalarsList vs → x.isFinite = false) →
      ∃ js, toJsonList? vs = some js ∧ (∀ j ∈ js, j.Plain) ∧
        Json.nestingItems js = nestingList vs ∧ ofJsonList? js = some (normalList vs)
  | [] => fun _ => ⟨[], rfl, nofun, rfl, rfl⟩
  | v :: vs => fun finite => by
    obtain ⟨j, form⟩ := exists_form v fun x member => finite x (List.mem_append_left _ member)
    obtain ⟨js, written, plain, nesting, denotes⟩ :=
      exists_forms vs fun x member => finite x (List.mem_append_right _ member)
    refine ⟨j :: js, ?_, List.forall_mem_cons.mpr ⟨form.plain, plain⟩, ?_, ?_⟩
    · rw [toJsonList?, form.written, written]
      rfl
    · rw [Json.nestingItems, nestingList, form.nesting, nesting]
    · rw [ofJsonList?, form.denotes, denotes]
      rfl

end

/-- A value without finite floats, whose lists nest less than 128 deep, has a JSON text, and the
text is read as the value's normal form. Every integer in it has kept its number and every text its
characters, in the order of the value. -/
theorem json_read_back {v : Value} (writable : v.NoFiniteFloat) (shallow : v.nesting < 128) :
    ∃ text, v.json? = some text ∧ readJson? text = some v.normal ∧
      v.normal.scalars.filterMap integer? = v.scalars.filterMap integer? ∧
      v.normal.scalars.filterMap text? = v.scalars.filterMap text? := by
  obtain ⟨j, form⟩ := v.exists_form writable
  have json : v.json? = some (.ofList j.render) := by
    rw [json?, form.written]
    rfl
  have document : Json.read? (.ofList j.render) = some j := form.plain.read?_render
  have nesting : j.nesting ≤ maxNesting := by
    rw [form.nesting]
    exact Nat.le_of_lt_succ shallow
  refine ⟨_, json, ?_, filterMap_scalars_normal integer?_normal v,
    filterMap_scalars_normal text?_normal v⟩
  rw [readJson?, document]
  change (if j.nesting ≤ maxNesting then ofJson? j else none) = some v.normal
  rw [if_pos nesting, form.denotes]

/-- Numbers at the bounds of the ranges, a NaN, and a text that needs escapes. -/
def boundsAndEscapes : Value :=
  .list [.int Int64.minValue, .uint 9223372036854775807, .uint 9223372036854775808,
    .list [.float ⟨0x7FF8000000000000⟩, .list []], .text "a\"b\\c\nd\x01é😀"]

/-- The unsigned number within the signed range becomes signed, and the NaN becomes null. -/
theorem boundsAndEscapes_read_back :
    boundsAndEscapes.NoFiniteFloat ∧ boundsAndEscapes.nesting < 128 ∧
      ∃ text, boundsAndEscapes.json? = some text ∧
        readJson? text =
          some (.list [.int Int64.minValue, .int 9223372036854775807, .uint 9223372036854775808,
            .list [.null, .list []], .text "a\"b\\c\nd\x01é😀"]) := by
  have writable : boundsAndEscapes.NoFiniteFloat := by
    intro x member
    simp only [boundsAndEscapes, scalars, scalarsList, List.append_nil, List.nil_append,
      List.cons_append, List.mem_cons, List.not_mem_nil, reduceCtorEq, false_or, or_false,
      float.injEq] at member
    subst member
    decide
  have shallow : boundsAndEscapes.nesting < 128 := by decide
  obtain ⟨text, json, read, -⟩ := json_read_back writable shallow
  exact ⟨writable, shallow, text, json, read⟩

end Value

end FilterSql
