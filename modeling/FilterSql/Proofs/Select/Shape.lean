import FilterSql.Proofs.Condition.Shape
import FilterSql.Proofs.Select.Replay

/-!
# Statement text does not depend on data

An argument is spelled by its number alone, and a list by how many scalars it
has and where. So a select without its data has the text of the select, and two
trees of one shape lead to queries with one text.

The two replays are in `forPage_text_of_shape` and `forCount_text_of_shape`. The
arguments themselves are a matter of `Select/Arguments`; here only their number
counts.
-/

namespace FilterSql

def Mark.shape : Mark → Mark
  | .char c => .char c
  | .arg _ => .arg .null

namespace Statement

def shape (s : Statement) : Statement :=
  s.map Mark.shape

theorem shape_append (a b : Statement) : shape (a ++ b) = shape a ++ shape b :=
  List.map_append

@[simp] theorem shape_ofText (s : String) : shape (ofText s) = ofText s := by
  unfold shape ofText
  rw [List.map_map]
  rfl

theorem shape_flatMap {α : Type} (f : α → Statement) (xs : List α) :
    shape (xs.flatMap f) = xs.flatMap fun x => shape (f x) :=
  List.map_flatMap

mutual

theorem ofValue_shape : (v : Value) → ofValue v.shape = shape (ofValue v)
  | .list vs => ofValues_shapes vs
  | .null => rfl
  | .bool _ => rfl
  | .int _ => rfl
  | .uint _ => rfl
  | .float _ => rfl
  | .text _ => rfl

theorem ofValues_shapes : (vs : List Value) → ofValues (Value.shapes vs) = shape (ofValues vs)
  | [] => (shape_ofText "NULL").symm
  | [v] => ofValue_shape v
  | v :: w :: rest => by
    change ofValue v.shape ++ ofText ", " ++ ofValues (Value.shapes (w :: rest)) = _
    rw [ofValue_shape v, ofValues_shapes (w :: rest), ofValues, shape_append, shape_append,
      shape_ofText]

end

theorem fill_shapes (template : List Char) (args : List Value) :
    fill template (Value.shapes args) = shape (fill template args) := by
  induction template generalizing args with
  | nil => cases args <;> rfl
  | cons c rest ih =>
    cases args with
    | nil => exact congrArg (Mark.char c :: ·) (ih [])
    | cons v args =>
      rw [Value.shapes, fill, fill]
      by_cases mark : c = '?'
      · rw [if_pos mark, if_pos mark, ofValue_shape, ih, shape_append]
      · rw [if_neg mark, if_neg mark, ← Value.shapes, ih]
        rfl

/-- A placeholder does not show its argument. -/
theorem spell_shape (d : Driver) (n : Nat) (s : Statement) : spell d n (shape s) = spell d n s := by
  induction s generalizing n with
  | nil => rfl
  | cons mark rest ih =>
    cases mark with
    | char c =>
      change c :: spell d n (shape rest) = c :: spell d n rest
      rw [ih]
    | arg v =>
      change (d.placeholder (n + 1)).toList ++ spell d (n + 1) (shape rest) = _
      rw [ih]
      rfl

/-- The text of a statement does not depend on the data of its arguments. -/
theorem render_shape_text (d : Driver) (s : Statement) :
    ((shape s).render d).text = (s.render d).text := by
  unfold render
  rw [spell_shape]

end Statement

theorem Predicate.statement_shape (p : Predicate) : p.shape.statement = p.statement.shape :=
  Statement.fill_shapes p.template.toList p.args

namespace Select

def shape (s : Select) : Select :=
  { s with predicates := s.predicates.map fun p => (p.1, p.2.shape) }

theorem furtherPredicates_shape (ps : List (Connective × Predicate)) :
    furtherPredicates (ps.map fun p => (p.1, p.2.shape)) = (furtherPredicates ps).shape := by
  unfold furtherPredicates
  rw [List.flatMap_map, Statement.shape_flatMap]
  simp only [Statement.shape_append, Statement.shape_ofText, Predicate.statement_shape]

theorem wherePart_shape (s : Select) : s.shape.wherePart = s.wherePart.shape := by
  unfold wherePart shape
  cases s.predicates with
  | nil => rfl
  | cons first rest =>
    simp only [List.map_cons, Statement.shape_append, Statement.shape_ofText,
      Predicate.statement_shape, furtherPredicates_shape]

theorem statement_shape (s : Select) (d : Driver) (q : Query) :
    s.shape.statement d q = (s.statement d q).shape := by
  have head : (s.head q).shape = s.head q := by
    cases q <;> exact Statement.shape_ofText _
  have joins : s.joinPart.shape = s.joinPart := by
    rw [joinPart, Statement.shape_flatMap]
    simp only [Statement.shape_ofText]
  unfold statement
  rw [wherePart_shape]
  cases q with
  | rows =>
    simp only [Statement.shape_append, head, joins, Statement.shape_ofText]
    rfl
  | count =>
    simp only [Statement.shape_append, head, joins]
    rfl

theorem sql_shape_text (s : Select) (d : Driver) (q : Query) :
    (s.shape.sql d q).text = (s.sql d q).text := by
  unfold sql
  rw [statement_shape, Statement.render_shape_text]

end Select

theorem Scope.tied_shape (s : Scope) : s.shape.tied = s.tied.map fun p => (p.1, p.2.shape) := by
  simp [Scope.tied, Scope.shape, Function.comp_def]

theorem ConditionTree.tied_shape (t : ConditionTree) :
    t.shape.tied = t.tied.map fun p => (p.1, p.2.shape) := by
  simp only [tied, shape, List.flatMap_map, List.map_append, List.map_flatMap, JoinScope.shape,
    Scope.tied_shape]

theorem ConditionTree.clauses_shape (t : ConditionTree) : t.shape.clauses = t.clauses := by
  simp [clauses, shape, JoinScope.shape]

theorem ConditionTree.orderings_shape (t : ConditionTree) : t.shape.orderings = t.orderings := by
  simp [orderings, shape, JoinScope.shape, Scope.shape, List.flatMap_map]

namespace Select

theorem forCount_shape (table columns : String) (t : ConditionTree) :
    ((fresh table columns).forCount t).shape = (fresh table columns).forCount t.shape := by
  rw [forCount_fresh, forCount_fresh, t.tied_shape, t.clauses_shape, t.orderings_shape]
  rfl

/-- Dropping the data before a paged replay or after it makes no difference. -/
theorem forPage_shape (table columns : String) (t : ConditionTree) :
    ((fresh table columns).forPage t).shape = (fresh table columns).forPage t.shape := by
  rw [forPage_fresh, forPage_fresh, t.tied_shape, t.clauses_shape, t.orderings_shape]
  rfl

section
variable {t u : ConditionTree} (same : t.shape = u.shape) (table columns : String) (d : Driver)
  (q : Query)

include same

/-- Counting: trees of one shape have one text. -/
theorem forCount_text_of_shape :
    (((fresh table columns).forCount t).sql d q).text =
      (((fresh table columns).forCount u).sql d q).text := by
  rw [← sql_shape_text, ← sql_shape_text ((fresh table columns).forCount u), forCount_shape,
    forCount_shape, same]

/-- Paging: trees of one shape have one text. -/
theorem forPage_text_of_shape :
    (((fresh table columns).forPage t).sql d q).text =
      (((fresh table columns).forPage u).sql d q).text := by
  rw [← sql_shape_text, ← sql_shape_text ((fresh table columns).forPage u), forPage_shape,
    forPage_shape, same]

end

end Select

end FilterSql
