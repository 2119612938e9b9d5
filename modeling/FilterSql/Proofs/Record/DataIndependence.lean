import FilterSql.Proofs.Record.Compiling
import FilterSql.Proofs.Record.Likeness
import FilterSql.Proofs.Record.Visits
import FilterSql.Proofs.Select.Shape

/-!
# Data never reaches the statement text

Of the contents of a record the text depends on very little: which fields are
set, how values are nested in lists, the truth of a value, the direction an
order field names, and the paging texts. Records that agree on these and on
everything that is not data compile to trees of one shape.

`Record.text_independent_of_data` is about any table and both queries. It compares
two records call by call (`Likeness.upToData`); what a field may tell apart is
listed in `FieldSpec.AlikeData`. Conditions of a record's own are left out, since
their templates are the caller's.
-/

namespace FilterSql

/-- Contents that a field treats alike. -/
structure FieldSpec.AlikeData (m : FieldSpec) (x y : Datum) : Prop where
  zero : x.isZero = y.isZero
  shape : x.toValue.shape = y.toValue.shape
  truth : x.toValue.isTruthy = y.toValue.isTruthy
  ascending : m.operator? = some .order →
    (Text.lower x.toValue.display = "asc" ↔ Text.lower y.toValue.display = "asc")
  descending : m.operator? = some .order →
    (Text.lower x.toValue.display = "desc" ↔ Text.lower y.toValue.display = "desc")
  paging : m.operator? = some .page ∨ m.operator? = some .pageSize → x.toValue = y.toValue

/-- Equality in all but data, between records without conditions of their own. -/
def Likeness.upToData : Likeness where
  field m x n y := m = n ∧ m.AlikeData x y
  join := Eq
  step _ _ := False
  zero := Eq

theorem Likeness.fixesZero_upToData : upToData.FixesZero where
  field := fun ⟨_, data⟩ => data.zero
  zero := id

def Outcome.SameShape (a b : Outcome) : Prop :=
  Step.shapes a.steps = Step.shapes b.steps ∧ a.issues = b.issues

theorem Outcome.SameShape.append {a b a' b' : Outcome} (first : SameShape a b)
    (second : SameShape a' b') : SameShape (a ++ a') (b ++ b') := by
  constructor
  · rw [steps_append, steps_append, Step.shapes_append, Step.shapes_append, first.1, second.1]
  · rw [issues_append, issues_append, first.2, second.2]

theorem Step.shape_compare (column op : String) {v w : Value} (shape : v.shape = w.shape) :
    Step.shapes [.compare column op v] = Step.shapes [.compare column op w] := by
  simp only [compare, shapes, Step.shape, Predicate.shape, Value.shapes, shape]

theorem Step.shape_matching (d : Driver) (op : Operator) (column a b : String) :
    Step.shapes [.matching d op column a] = Step.shapes [.matching d op column b] := by
  have text : (Value.text a).shape = (Value.text b).shape := rfl
  exact shape_compare _ _ text

/-- A direction depends on two questions about the text, whether it is `asc` and whether it is
`desc`. -/
theorem sortDirection?_eq {v w : Value}
    (ascending : Text.lower v.display = "asc" ↔ Text.lower w.display = "asc")
    (descending : Text.lower v.display = "desc" ↔ Text.lower w.display = "desc") :
    sortDirection? v = sortDirection? w := by
  unfold sortDirection?
  simp only [ascending, descending]

/-- The steps of an operator show of a value no more than its shape, except for the truth of the
value, the direction it names and its text as a page or a page size. -/
theorem Operator.shapes_steps (op : Operator) (d : Driver) (column : String) {v w : Value}
    (shape : v.shape = w.shape) (truth : v.isTruthy = w.isTruthy)
    (direction : op = .order → sortDirection? v = sortDirection? w)
    (paging : op = .page ∨ op = .pageSize → v = w) :
    Step.shapes (op.steps d column v) = Step.shapes (op.steps d column w) := by
  have elements : Value.shapes v.elements = Value.shapes w.elements := by
    rw [← v.elements_shape, ← w.elements_shape, shape]
  cases op with
  | eq | exact | iExact | gt | gte | lt | lte => exact Step.shape_compare _ _ shape
  | like | contains | iContains | startsWith | iStartsWith | endsWith | iEndsWith =>
    exact Step.shape_matching ..
  | oneOf =>
    simp only [steps, Step.shapes, Step.shape, Predicate.shape, Value.shapes, Value.shape, elements]
  | between =>
    rcases given : v.elements with _ | ⟨low, _ | ⟨high, rest⟩⟩ <;>
      rcases other : w.elements with _ | ⟨low', _ | ⟨high', rest'⟩⟩ <;>
      rw [given, other] at elements <;>
      simp_all [steps, Step.shapes, Step.shape, Predicate.shape, Value.shapes]
  | isNull => simp only [steps, truth]
  | order => simp only [steps, direction rfl]
  | page | pageSize => rw [paging (by decide)]
  | left => rfl

/-- Visits of contents that are alike differ in data only. -/
theorem FieldSpec.AlikeData.visit {m : FieldSpec} {x y : Datum} (data : m.AlikeData x y)
    (o : Options) (path : String) : Outcome.SameShape (m.visit o path x) (m.visit o path y) := by
  rcases m.visit_cases o path with ⟨outcome, _, visited⟩ | ⟨d, op, said, named, _, visited⟩
  · rw [visited, visited]
    exact ⟨rfl, rfl⟩
  · have asked : m.operator? = some op := by
      rw [operator?, said]
      exact named
    -- What `AlikeData` grants to two kinds of fields is granted to this one's operator.
    have direction (order : op = .order) : sortDirection? x.toValue = sortDirection? y.toValue := by
      rw [order] at asked
      exact sortDirection?_eq (data.ascending asked) (data.descending asked)
    have paging (texts : op = .page ∨ op = .pageSize) : x.toValue = y.toValue := by
      apply data.paging
      rcases texts with rfl | rfl
      · exact Or.inl asked
      · exact Or.inr asked
    have steps := op.shapes_steps o.driver (d.columnOf m) data.shape data.truth direction paging
    rw [visited, visited, data.zero]
    apply Outcome.SameShape.append ⟨rfl, rfl⟩
    cases y.isZero with
    | true => exact ⟨rfl, rfl⟩
    | false => exact ⟨steps, rfl⟩

theorem FieldSpec.sameShape_visitJoin (place : Place) (path : String) (m : FieldSpec) (zero : Bool)
    {inner inner' : Outcome} (same : inner.SameShape inner') :
    (m.visitJoin place path zero inner).SameShape (m.visitJoin place path zero inner') := by
  obtain ⟨steps, issues⟩ := same
  rw [visitJoin_eq, visitJoin_eq]
  apply Outcome.SameShape.append ⟨rfl, rfl⟩
  cases m.joinRequest with
  | none => exact ⟨rfl, rfl⟩
  | faulty p => exact ⟨rfl, rfl⟩
  | link l =>
    cases place with
    | joined => exact ⟨rfl, rfl⟩
    | detached =>
      cases zero with
      | true => exact ⟨rfl, issues⟩
      | false => exact ⟨rfl, rfl⟩
    | root =>
      cases zero with
      | true => exact ⟨rfl, issues⟩
      | false =>
        refine ⟨?_, issues⟩
        simp only [Step.shapes, Step.shape, steps]

theorem Likeness.keeps_upToData (o : Options) : upToData.Keeps o Outcome.SameShape where
  joined := trivial
  empty := ⟨rfl, rfl⟩
  append := Outcome.SameShape.append
  field := by
    rintro m _ x y ⟨rfl, data⟩ path
    exact data.visit o path
  join := by
    rintro m _ r s rfl inner within place - path
    rw [Call.walk, Call.walk, inner.isZero_eq fixesZero_upToData]
    exact m.sameShape_visitJoin place path s.isZero (within _)
  condition := False.elim

/-- Records alike in all but data compile to the same issues and, but for arguments, to the same
tree, and every query has one text for both. -/
theorem Record.text_independent_of_data {r s : Record} (alike : Record.Like .upToData r s)
    (d : Driver) :
    ∃ c e, r.compile ⟨d, .lenient⟩ = .ok c ∧ s.compile ⟨d, .lenient⟩ = .ok e ∧
      c.issues = e.issues ∧ c.tree.shape = e.tree.shape ∧
      ∀ (target : Driver) (table columns : String),
        (((Select.fresh table columns).forPage c.tree).sql target .rows).text =
            (((Select.fresh table columns).forPage e.tree).sql target .rows).text ∧
          (((Select.fresh table columns).forCount c.tree).sql target .count).text =
            (((Select.fresh table columns).forCount e.tree).sql target .count).text := by
  obtain ⟨steps, issues⟩ := alike.walk (Likeness.keeps_upToData ⟨d, .lenient⟩) .root ""
  refine ⟨_, _, r.compile_lenient d, s.compile_lenient d, issues, ?_⟩
  have shape : (r.compiled ⟨d, .lenient⟩).tree.shape = (s.compiled ⟨d, .lenient⟩).tree.shape := by
    unfold compiled
    rw [ConditionTree.shape_run, ConditionTree.shape_run, steps]
  refine ⟨shape, fun target table columns => ⟨?_, ?_⟩⟩
  · exact Select.forPage_text_of_shape shape table columns target .rows
  · exact Select.forCount_text_of_shape shape table columns target .count

def Record.usersOrdering (name direction : String) (low high : Int64) : Record :=
  .made
    [.field (.ofName "name" "type:contains;table:users") (.text name),
      .flatten (.held .optional
        (.made [.field (.ofName "sort" "type:order;column:created") (.text direction)] none)),
      .join (.ofName "orders" "type:left;join:orders;on:user_id:id;table:users")
        (.made
          [.field (.ofName "amount" "type:between;table:orders")
            (.sequence [.signed low, .signed high])]
          none)]
    none

/-- Another name, another spelling of the direction and other amounts, and the same text. -/
theorem Record.usersOrdering_text :
    ∃ c e, (usersOrdering "ann" "asc" 1 9).compile ⟨.postgres, .lenient⟩ = .ok c ∧
      (usersOrdering "' OR 1 = 1 --?" "ASC" 0 (-1)).compile ⟨.postgres, .lenient⟩ = .ok e ∧
      (((Select.fresh "users" "*").forPage c.tree).sql .postgres .rows).text =
        (((Select.fresh "users" "*").forPage e.tree).sql .postgres .rows).text ∧
      (((Select.fresh "users" "*").forCount c.tree).sql .mysql .count).text =
        (((Select.fresh "users" "*").forCount e.tree).sql .mysql .count).text := by
  have alike : Record.Like .upToData (usersOrdering "ann" "asc" 1 9)
      (usersOrdering "' OR 1 = 1 --?" "ASC" 0 (-1)) := by
    refine .made (.cons (.field ⟨rfl, ?name⟩) (.cons
      (.flatten (.held _ (.made (.cons (.field ⟨rfl, ?sort⟩) .nil) rfl))) (.cons
      (.join rfl (.made (.cons (.field ⟨rfl, ?amount⟩) .nil) rfl)) .nil))) rfl
    all_goals
      exact ⟨rfl, rfl, rfl, by decide +kernel, by decide +kernel,
        fun texts => absurd texts (by decide +kernel)⟩
  obtain ⟨c, e, first, second, -, -, texts⟩ := text_independent_of_data alike .postgres
  exact ⟨c, e, first, second, (texts .postgres "users" "*").1, (texts .mysql "users" "*").2⟩

end FilterSql
