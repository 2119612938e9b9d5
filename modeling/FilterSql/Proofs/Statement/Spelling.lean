import FilterSql.Statement.Render

/-!
# Spelling of a statement in parts

A statement is spelled with a running number for its arguments, so a part is
spelled the same way wherever it stands once the number of arguments before it
is known. Texts carry no arguments and spell themselves.

`spell_append` is the equation for two parts, and `render_between` the one for a
statement between texts.
-/

namespace FilterSql.Statement

@[simp] theorem args_char (c : Char) (rest : Statement) : args (.char c :: rest) = args rest := rfl

@[simp] theorem args_arg (v : Value) (rest : Statement) : args (.arg v :: rest) = v :: args rest := rfl

@[simp] theorem args_append (a b : Statement) : args (a ++ b) = args a ++ args b := by
  unfold args
  rw [List.filterMap_append]

@[simp] theorem args_ofText (s : String) : args (ofText s) = [] := by
  unfold ofText
  induction s.toList with
  | nil => rfl
  | cons c rest ih => rw [List.map_cons, args_char, ih]

theorem args_flatMap {α : Type} (xs : List α) (f : α → Statement) :
    args (xs.flatMap f) = xs.flatMap fun x => args (f x) := by
  induction xs with
  | nil => rfl
  | cons x rest ih => rw [List.flatMap_cons, args_append, ih, List.flatMap_cons]

/-- The arguments of the first part move the numbers of the second. -/
theorem spell_append (d : Driver) (n : Nat) (a b : Statement) :
    spell d n (a ++ b) = spell d n a ++ spell d (n + a.args.length) b := by
  induction a generalizing n with
  | nil => rfl
  | cons mark rest ih =>
    cases mark with
    | char c => simp only [List.cons_append, spell, ih, args_char]
    | arg v =>
      have moved : n + 1 + (args rest).length = n + ((args rest).length + 1) := by omega
      simp only [List.cons_append, spell, ih, args_arg, List.length_cons, moved, List.append_assoc]

@[simp] theorem spell_ofText (d : Driver) (n : Nat) (s : String) :
    spell d n (ofText s) = s.toList := by
  unfold ofText
  induction s.toList with
  | nil => rfl
  | cons c rest ih => rw [List.map_cons, spell, ih]

/-- A statement between two texts keeps its own text and its own arguments. -/
theorem render_between (d : Driver) (before after : String) (s : Statement) :
    render d (ofText before ++ s ++ ofText after) =
      ⟨before ++ (s.render d).text ++ after, (s.render d).args⟩ := by
  simp only [render, spell_append, args_append, args_ofText, spell_ofText, List.length_nil,
    List.nil_append, List.append_nil, Nat.add_zero, String.ofList_append, String.ofList_toList]

end FilterSql.Statement
