import FilterSql.Condition.Step

/-!
# Trees without their data

The shape of a value keeps its list structure and forgets its scalars. The shape
of a predicate, a step or a tree has the shapes of its arguments and everything
else unchanged. Carrying out steps commutes with forgetting the data.

The main result is `shape_run`. What counts as data is every scalar of an
argument, and nothing else: templates, clauses and orderings are kept, and so is
the number of elements of a list at each depth.
-/

namespace FilterSql

mutual

/-- The value with every scalar replaced by the same one. -/
def Value.shape : Value → Value
  | .list vs => .list (Value.shapes vs)
  | _ => .null

def Value.shapes : List Value → List Value
  | [] => []
  | v :: rest => v.shape :: Value.shapes rest

end

/-- A sequence of values has as many elements as the list that it is. -/
theorem Value.elements_shape (v : Value) : v.shape.elements = Value.shapes v.elements := by
  cases v <;> rfl

/-- The predicate without the data of its arguments. -/
def Predicate.shape (p : Predicate) : Predicate :=
  { p with args := Value.shapes p.args }

def Scope.shape (s : Scope) : Scope :=
  { s with
    conjuncts := s.conjuncts.map Predicate.shape
    disjuncts := s.disjuncts.map Predicate.shape }

def JoinScope.shape (j : JoinScope) : JoinScope :=
  { j with scope := j.scope.shape }

def ConditionTree.shape (t : ConditionTree) : ConditionTree :=
  { t with root := t.root.shape, joins := t.joins.map JoinScope.shape }

mutual

def Step.shape : Step → Step
  | .conjunct p => .conjunct p.shape
  | .disjunct p => .disjunct p.shape
  | .ordering clause => .ordering clause
  | .page text => .page text
  | .size text => .size text
  | .join kind clause inner => .join kind clause (Step.shapes inner)

def Step.shapes : List Step → List Step
  | [] => []
  | step :: rest => step.shape :: Step.shapes rest

end

theorem Step.shapes_eq_map (steps : List Step) : Step.shapes steps = steps.map Step.shape := by
  induction steps with
  | nil => rfl
  | cons step rest ih => rw [Step.shapes, ih, List.map_cons]

theorem Step.shapes_append (a b : List Step) :
    Step.shapes (a ++ b) = Step.shapes a ++ Step.shapes b := by
  simp only [Step.shapes_eq_map, List.map_append]

theorem Scope.shape_add (s : Scope) (step : Step) : (s.add step).shape = s.shape.add step.shape := by
  cases step <;> simp [Scope.add, Scope.shape, Step.shape]

/-- Whether the data are dropped before the steps or after them makes no difference. -/
theorem Scope.shape_run (s : Scope) (steps : List Step) :
    (s.run steps).shape = s.shape.run (Step.shapes steps) := by
  induction steps generalizing s with
  | nil => rfl
  | cons step rest ih =>
    change ((s.add step).run rest).shape = (s.shape.add step.shape).run (Step.shapes rest)
    rw [ih, Scope.shape_add]

namespace ConditionTree

theorem shape_apply (t : ConditionTree) (step : Step) :
    (t.apply step).shape = t.shape.apply step.shape := by
  cases step with
  | conjunct p | disjunct p | ordering clause =>
    simp only [apply, shape, Step.shape, Scope.shape_add]
  | page text | size text => rfl
  | join kind clause inner =>
    simp only [apply, shape, Step.shape, List.map_append, List.map_cons, List.map_nil,
      JoinScope.shape, JoinScope.run, Scope.shape_run]
    rfl

/-- Forgetting the data before a run or after it comes to the same. -/
theorem shape_run (t : ConditionTree) (steps : List Step) :
    (t.run steps).shape = t.shape.run (Step.shapes steps) := by
  induction steps generalizing t with
  | nil => rfl
  | cons step rest ih =>
    change ((t.apply step).run rest).shape = (t.shape.apply step.shape).run (Step.shapes rest)
    rw [ih, shape_apply]

end ConditionTree

end FilterSql
