import FilterSql.Proofs.Statement.Spelling

/-!
# Placeholders and arguments

A template filled in takes one argument for each `?`, a list counting for its
scalars. A `?` that is left over stays in the text. Spelling adds one `?` for
each argument, except on Postgres, whose placeholders are numbered.

`args_fill` and `openMarks_fill` say what becomes of a template, and
`Statement.count_spell` how many `?` the text holds in the end. A predicate is
`Balanced` if nothing is left over on either side.
-/

namespace FilterSql

/-- A text in which no `?` asks for an argument. -/
def Text.Plain (s : String) : Prop :=
  '?' ∉ s.toList

instance (s : String) : Decidable (Text.Plain s) :=
  inferInstanceAs (Decidable ('?' ∉ s.toList))

namespace Text

theorem plain_append {a b : String} : Plain (a ++ b) ↔ Plain a ∧ Plain b := by
  simp [Plain, String.toList_append, not_or]

theorem Plain.count_eq_zero {s : String} (plain : Plain s) : s.toList.count '?' = 0 :=
  List.count_eq_zero.mpr plain

theorem plain_ofNat (n : Nat) : Plain (Decimal.ofNat n) := by
  intro member
  rw [Decimal.ofNat, String.toList_ofList] at member
  have digit := Nat.isDigit_of_mem_toDigits (by decide) (by decide) member
  exact absurd digit (by decide)

end Text

/-- Every `?` of the template has its argument, and every argument its `?`. -/
def Predicate.Balanced (p : Predicate) : Prop :=
  p.template.toList.count '?' = p.args.length

instance (p : Predicate) : Decidable p.Balanced :=
  inferInstanceAs (Decidable (_ = _))

/-- The arguments of a predicate as they are bound, lists taken apart. -/
def Predicate.scalars (p : Predicate) : List Value :=
  Value.scalarsList p.args

namespace Statement

def openMarks : Statement → Nat
  | [] => 0
  | .char c :: rest => (if c = '?' then 1 else 0) + openMarks rest
  | .arg _ :: rest => openMarks rest

@[simp] theorem openMarks_append (a b : Statement) :
    openMarks (a ++ b) = openMarks a + openMarks b := by
  induction a with
  | nil => simp [openMarks]
  | cons mark rest ih =>
    cases mark with
    | char c =>
      rw [List.cons_append, openMarks, ih, openMarks]
      omega
    | arg v => exact ih

@[simp] theorem openMarks_ofText (s : String) : openMarks (ofText s) = s.toList.count '?' := by
  unfold ofText
  induction s.toList with
  | nil => rfl
  | cons c rest ih =>
    rw [List.map_cons, openMarks, ih, List.count_cons]
    by_cases mark : c = '?' <;> simp [mark, Nat.add_comm]

mutual

/-- An argument is bound as its scalars. -/
theorem args_ofValue : (v : Value) → (ofValue v).args = v.scalars
  | .list vs => args_ofValues vs
  | .null => rfl
  | .bool _ => rfl
  | .int _ => rfl
  | .uint _ => rfl
  | .float _ => rfl
  | .text _ => rfl

theorem args_ofValues : (vs : List Value) → (ofValues vs).args = Value.scalarsList vs
  | [] => args_ofText "NULL"
  | [v] => by
    rw [ofValues, args_ofValue v, Value.scalarsList, Value.scalarsList, List.append_nil]
  | v :: w :: vs => by
    rw [ofValues, args_append, args_append, args_ofText, args_ofValue v, args_ofValues (w :: vs),
      List.append_nil, ← Value.scalarsList]

end

mutual

/-- The marks of an argument hold no `?`, whatever the argument says. -/
theorem openMarks_ofValue : (v : Value) → (ofValue v).openMarks = 0
  | .list vs => openMarks_ofValues vs
  | .null => rfl
  | .bool _ => rfl
  | .int _ => rfl
  | .uint _ => rfl
  | .float _ => rfl
  | .text _ => rfl

theorem openMarks_ofValues : (vs : List Value) → (ofValues vs).openMarks = 0
  | [] => by
    rw [ofValues, openMarks_ofText]
    decide
  | [v] => by rw [ofValues, openMarks_ofValue v]
  | v :: w :: vs => by
    rw [ofValues, openMarks_append, openMarks_append, openMarks_ofText, openMarks_ofValue v,
      openMarks_ofValues (w :: vs)]
    decide

end

/-- A template takes its arguments in order, as many as it has `?`. -/
theorem args_fill (template : List Char) (vs : List Value) :
    (fill template vs).args = Value.scalarsList (vs.take (template.count '?')) := by
  induction template generalizing vs with
  | nil => rfl
  | cons c rest ih =>
    cases vs with
    | nil => simpa [fill] using ih []
    | cons v vs =>
      by_cases mark : c = '?'
      · subst mark
        rw [fill, if_pos rfl, args_append, args_ofValue, ih, List.count_cons_self,
          List.take_succ_cons, Value.scalarsList]
      · rw [fill, if_neg mark, args_char, ih, List.count_cons_of_ne mark]

/-- A `?` for which there is no argument left stays. -/
theorem openMarks_fill (template : List Char) (vs : List Value) :
    (fill template vs).openMarks = template.count '?' - vs.length := by
  induction template generalizing vs with
  | nil => simp [fill, openMarks]
  | cons c rest ih =>
    cases vs with
    | nil =>
      rw [fill, openMarks, ih, List.count_cons]
      by_cases mark : c = '?' <;> simp [mark, Nat.add_comm]
    | cons v vs =>
      by_cases mark : c = '?'
      · subst mark
        rw [fill, if_pos rfl, openMarks_append, openMarks_ofValue, ih, List.count_cons_self,
          List.length_cons]
        omega
      · rw [fill, if_neg mark, openMarks, if_neg mark, ih, List.count_cons_of_ne mark]
        omega

end Statement

def Driver.marks (d : Driver) : Nat :=
  if d = .postgres then 0 else 1

theorem Driver.count_placeholder (d : Driver) (number : Nat) :
    (d.placeholder number).toList.count '?' = d.marks := by
  unfold placeholder marks
  by_cases numbered : d = postgres
  · have plain : Text.Plain ("$" ++ Decimal.ofNat number) :=
      Text.plain_append.mpr ⟨by decide, Text.plain_ofNat number⟩
    rw [if_pos numbered, if_pos numbered, plain.count_eq_zero]
  · rw [if_neg numbered, if_neg numbered]
    decide

/-- The `?` of a spelled statement are those of its text and those of its placeholders. -/
theorem Statement.count_spell (d : Driver) (n : Nat) (s : Statement) :
    (spell d n s).count '?' = openMarks s + d.marks * (args s).length := by
  induction s generalizing n with
  | nil => rfl
  | cons mark rest ih =>
    cases mark with
    | char c =>
      rw [spell, List.count_cons, ih, openMarks, args_char]
      by_cases isMark : c = '?'
      · simp only [isMark, beq_self_eq_true, if_true]
        omega
      · simp only [isMark, beq_iff_eq, if_false]
        omega
    | arg v =>
      rw [spell, List.count_append, Driver.count_placeholder, ih, openMarks, args_arg,
        List.length_cons, Nat.mul_succ]
      omega

namespace Predicate

/-- A balanced predicate binds all its arguments, in order. -/
theorem Balanced.args_statement {p : Predicate} (balanced : p.Balanced) :
    p.statement.args = p.scalars := by
  unfold statement scalars
  rw [Statement.args_fill, balanced, List.take_length]

theorem Balanced.openMarks_statement {p : Predicate} (balanced : p.Balanced) :
    p.statement.openMarks = 0 := by
  unfold statement
  rw [Statement.openMarks_fill, balanced, Nat.sub_self]

end Predicate

end FilterSql
