import FilterSql.Proofs.Record.OperatorSteps
import FilterSql.Proofs.Record.Visits

/-!
# What a field yields

A field that is set and names an operator yields what the operator yields on the
field's column, wherever the field is visited. Any other field yields nothing.

`visit_yields` is the one statement that later modules use. It also fixes the
column: that of the directive or of the field, with the table in front if either
names one (`target`).
-/

namespace FilterSql.FieldSpec

/-- The column a field is about: what the directive names, else what the field falls back on, with
the table in front if there is one. -/
def target (m : FieldSpec) (d : Descriptor) : String :=
  let column := if d.column = "" then m.column else d.column
  let table := if d.table = "" then m.table else d.table
  if table = "" then column else table ++ "." ++ column

theorem columnOf_eq_target (m : FieldSpec) (d : Descriptor) : d.columnOf m = m.target d := by
  simp only [Descriptor.columnOf, Descriptor.tableOf, qualify, orElse, target, String.isEmpty_iff]

/-- What a field yields: nothing if it is unset or names no operator. -/
theorem visit_yields (o : Options) (path : String) (m : FieldSpec) (content : Datum) :
    ((m.operator? = none ∨ content.isZero = true) ∧ (m.visit o path content).steps = []) ∨
      ∃ d op, m.descriptor? = some d ∧ d.operator = some op ∧ m.operator? = some op ∧
        content.isZero = false ∧
        op.Yields o.driver (m.target d) content.toValue (m.visit o path content).steps := by
  cases named : m.operator? with
  | none => exact Or.inl ⟨Or.inl rfl, steps_visit_none named o path content⟩
  | some op =>
    obtain ⟨d, said, operator⟩ := Option.bind_eq_some_iff.mp named
    have steps := steps_visit_some said operator o path content
    cases unset : content.isZero with
    | true =>
      rw [unset] at steps
      exact Or.inl ⟨Or.inr rfl, steps⟩
    | false =>
      rw [unset, columnOf_eq_target] at steps
      refine Or.inr ⟨d, op, said, operator, rfl, rfl, ?_⟩
      rw [steps]
      exact op.yields_steps ..

/-- Only a condition of a record's own adds to an `OR` list. -/
theorem disjuncts_visit (o : Options) (path : String) (m : FieldSpec) (content : Datum) :
    (m.visit o path content).steps.filterMap Step.disjunct? = [] := by
  rcases m.visit_yields o path content with ⟨_, steps⟩ | ⟨d, op, _, _, _, _, yields⟩
  · rw [steps]
    rfl
  · exact yields.disjuncts

theorem scopes_visit (o : Options) (path : String) (m : FieldSpec) (content : Datum) :
    (m.visit o path content).steps.filterMap Step.scope? = [] := by
  rcases m.visit_yields o path content with ⟨_, steps⟩ | ⟨d, op, _, _, _, _, yields⟩
  · rw [steps]
    rfl
  · exact yields.scopes

end FilterSql.FieldSpec
