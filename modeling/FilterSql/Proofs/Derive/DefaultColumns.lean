import FilterSql.Derive.Instance
import FilterSql.Proofs.Record.FieldSteps
import FilterSql.Proofs.Text.SnakeCase
import FilterSql.Record.Compiled

/-!
# The columns of derived fields

A field that is described by hand is searched under its name unless its directive
says otherwise. A derived field is searched under its name in snake case. For a
name that is in snake case already the two agree unless a letter and a digit touch
in it: there a word ends, so that `line1` is searched as `line_1`, which is the
column of another name.

`FieldDefinition.column_is_name_iff_unmixed` says for which names the two agree
and which names share a column, and `line1_not_its_column` gives the name for
which they do not. Names with other characters are not considered. Snake case
takes characters one by one there, so a combining mark is no part of its letter.
-/

namespace FilterSql

/-- The field as it is described by hand, with its name for a column. -/
def FieldSpec.plain (m : FieldSpec) : FieldSpec :=
  { FieldSpec.ofName m.name m.tag with table := m.table }

def Call.plain : Call → Call
  | .field m content => .field m.plain content
  | .join m r => .join m.plain r
  | c => c

/-- The column that a field falls back on counts only if the directive names none. -/
theorem FieldSpec.target_plain_iff (m : FieldSpec) (d : Descriptor) :
    m.target d = m.plain.target d ↔ d.column ≠ "" ∨ m.column = m.name := by
  unfold target plain ofName
  dsimp only
  generalize (if d.table = "" then m.table else d.table) = table
  by_cases named : d.column = ""
  · split <;> simp [named, String.append_right_inj]
  · simp [named]

namespace Derive

namespace FieldDefinition

/-- The field's name is written in lower case letters, digits and underscores. -/
def HasSnakeName (f : FieldDefinition) : Prop :=
  ∀ c ∈ f.name.toList, Text.IsSnake c

instance (f : FieldDefinition) : Decidable f.HasSnakeName :=
  List.decidableBAll _ _

variable {f : FieldDefinition}

theorem column_of_snake (snake : f.HasSnakeName) :
    f.column = String.ofList (Text.apart f.name.toList) :=
  Text.snakeCase_of_isSnake snake

/-- A name in snake case is its own column exactly if no letter and digit touch in it. -/
theorem column_eq_name_iff (snake : f.HasSnakeName) :
    f.column = f.name ↔ Text.Unmixed f.name.toList := by
  rw [column_of_snake snake, ← Text.apart_eq_self_iff, ← String.toList_inj, String.toList_ofList]

/-- Two such names share a column exactly if underscores between a letter and a digit tell them
apart. -/
theorem column_eq_column_iff {g : FieldDefinition} (snake : f.HasSnakeName)
    (other : g.HasSnakeName) :
    f.column = g.column ↔ Text.closeUp f.name.toList = Text.closeUp g.name.toList := by
  rw [column_of_snake snake, column_of_snake other, String.ofList_inj, Text.apart_eq_apart_iff]

/-- The call for a field that is searched under its name is the one made by hand. -/
theorem plain_call (kept : f.kind.isVisited = true → f.column = f.name) (table : String)
    (content : String → Datum) (part : String → Record) :
    (f.call? table content part).map Call.plain = f.call? table content part := by
  unfold call?
  cases kind : f.kind with
  | excluded | untagged => rfl
  | flatten => rfl
  | scalar tag | join tag =>
    have same := kept (by rw [kind]; rfl)
    simp [Call.plain, FieldSpec.plain, FieldSpec.ofName, spec, same]

end FieldDefinition

/-- The record that is made by hand for a definition: its fields have their names for columns. -/
def Definition.plainRecord (d : Definition) (content : String → Datum) (part : String → Record) :
    Record :=
  .made ((d.fields.filterMap (·.call? d.table content part)).map Call.plain) none

/-- Where every visited field is its own column, the record is the one that is made by hand. -/
theorem Definition.record_eq_plainRecord {d : Definition}
    (kept : ∀ f ∈ d.visited, f.column = f.name) (content : String → Datum)
    (part : String → Record) : d.record content part = d.plainRecord content part := by
  rw [record, plainRecord, List.map_filterMap]
  congr 1
  refine List.filterMap_congr fun f defined => ?_
  have own : f.kind.isVisited = true → f.column = f.name := fun visited =>
    kept f (List.mem_filter.mpr ⟨defined, visited⟩)
  exact (FieldDefinition.plain_call own d.table content part).symm

/-- A derived field whose name is in snake case already is searched under its name exactly if no
letter and digit touch in the name, or if its directive names the column; then a record that is made
by hand is the same. Two such fields fall back on one column exactly if their names are one without
the underscores between a letter and a digit. -/
theorem FieldDefinition.column_is_name_iff_unmixed {f g : FieldDefinition} (snake : f.HasSnakeName)
    (other : g.HasSnakeName) :
    (f.column = f.name ↔ Text.Unmixed f.name.toList) ∧
      (f.column = g.column ↔ Text.closeUp f.name.toList = Text.closeUp g.name.toList) ∧
      (∀ table tag d, (f.spec table tag).target d = (f.spec table tag).plain.target d ↔
        d.column ≠ "" ∨ Text.Unmixed f.name.toList) ∧
      ∀ d : Definition, (∀ h ∈ d.visited, h.HasSnakeName ∧ Text.Unmixed h.name.toList) →
        ∀ content part, d.record content part = d.plainRecord content part := by
  refine ⟨column_eq_name_iff snake, column_eq_column_iff snake other, ?_, ?_⟩
  · intro table tag d
    rw [← column_eq_name_iff snake]
    exact FieldSpec.target_plain_iff _ d
  · intro d names
    refine Definition.record_eq_plainRecord fun h visited => ?_
    obtain ⟨snake, unmixed⟩ := names h visited
    exact (column_eq_name_iff snake).mpr unmixed

/-- The lines of an order by the order's number and their own. -/
def linesDefinition : Definition :=
  ⟨"LineSearch", [], [], "lines",
    [⟨"order_id", .scalar "type:eq"⟩, ⟨"r#type", .scalar "type:in"⟩, ⟨"line_1", .scalar "type:eq"⟩]⟩

/-- `order_id` is its own column, and the two columns differ. -/
theorem linesDefinition_columns :
    let order : FieldDefinition := ⟨"order_id", .scalar "type:eq"⟩
    let line : FieldDefinition := ⟨"line_1", .scalar "type:eq"⟩
    order.HasSnakeName ∧ line.HasSnakeName ∧ order.column = "order_id" ∧
      order.column ≠ line.column ∧
      linesDefinition.record (fun _ => .signed 7) (fun _ => .absent) =
        linesDefinition.plainRecord (fun _ => .signed 7) (fun _ => .absent) := by
  intro order line
  have first : order.HasSnakeName := by decide +kernel
  have second : line.HasSnakeName := by decide +kernel
  obtain ⟨kept, shared, -, records⟩ := FieldDefinition.column_is_name_iff_unmixed first second
  refine ⟨first, second, (kept.mpr (by decide +kernel)).trans (by decide +kernel), ?_, ?_⟩
  · exact mt shared.mp (by decide +kernel)
  · exact records linesDefinition (by decide +kernel) _ _

/-- `line1` is a name in snake case, but it is searched as `line_1`, the column of the field of that
name. By hand it is searched under its own name. -/
theorem line1_not_its_column :
    let f : FieldDefinition := ⟨"line1", .scalar "type:eq"⟩
    let g : FieldDefinition := ⟨"line_1", .scalar "type:eq"⟩
    let d : Definition := ⟨"LineSearch", [], [], "", [f]⟩
    let templates (r : Record) :=
      (r.compile {}).toOption.map fun c => c.tree.root.conjuncts.map (·.template)
    Definition.ofDeclaration
        { ident := "LineSearch", fields := [⟨"line1", [.directive "type:eq"]⟩] } = .ok d ∧
      f.name = "line1" ∧ f.column = "line_1" ∧ g.name ≠ f.name ∧ g.column = f.column ∧
      templates (d.record (fun _ => .signed 7) fun _ => .absent) = some ["line_1 = ?"] ∧
      templates (.made [.field (.ofName "line1" "type:eq") (.signed 7)] none) =
        some ["line1 = ?"] := by
  refine ⟨rfl, ?_⟩
  decide +kernel

end Derive

end FilterSql
