import FilterSql.Replay

/-!
# What a replay leaves behind

A replay is a run of calls. Its effect on a select is given here in closed form:
each list of the select is extended by one list of the tree, and only the window
touches offset and limit. Nothing after this module opens the run again.

These forms are `forCount_eq` and `forPage_eq`; `forCount_fresh` and
`forPage_fresh` are their cases for a select that nothing has been added to. The
predicates of join scopes come before those of the root.
-/

namespace FilterSql

/-- The predicates of a scope with the connectives they are added with. -/
def Scope.tied (s : Scope) : List (Connective × Predicate) :=
  s.conjuncts.map (Connective.and, ·) ++ s.disjuncts.map (Connective.or, ·)

namespace ConditionTree

def clauses (t : ConditionTree) : List String :=
  t.joins.map (·.clause)

/-- The predicates of a tree with their connectives: scope by scope, the root last. -/
def tied (t : ConditionTree) : List (Connective × Predicate) :=
  t.joins.flatMap (·.scope.tied) ++ t.root.tied

def orderings (t : ConditionTree) : List String :=
  t.joins.flatMap (·.scope.orderings) ++ t.root.orderings

end ConditionTree

namespace Select

theorem callAll_append (s : Select) (a b : List QueryCall) :
    s.callAll (a ++ b) = (s.callAll a).callAll b := by
  unfold callAll
  rw [List.foldl_append]

/-- A run of calls of one kind, given what one of them does to a select. -/
theorem callAll_map {α : Type} (kind : α → QueryCall) (extend : Select → List α → Select)
    (none : ∀ s, extend s [] = s)
    (one : ∀ s x rest, extend (s.call (kind x)) rest = extend s (x :: rest))
    (s : Select) (xs : List α) :
    s.callAll (xs.map kind) = extend s xs := by
  induction xs generalizing s with
  | nil => exact (none s).symm
  | cons x rest ih =>
    change (s.call (kind x)).callAll (rest.map kind) = _
    rw [ih, one]

theorem callAll_conjuncts (s : Select) (ps : List Predicate) :
    s.callAll (ps.map .conjunct) =
      { s with predicates := s.predicates ++ ps.map (Connective.and, ·) } :=
  callAll_map _ (fun s ps => { s with predicates := s.predicates ++ ps.map (Connective.and, ·) })
    (by simp) (by simp [call]) s ps

theorem callAll_disjuncts (s : Select) (ps : List Predicate) :
    s.callAll (ps.map .disjunct) =
      { s with predicates := s.predicates ++ ps.map (Connective.or, ·) } :=
  callAll_map _ (fun s ps => { s with predicates := s.predicates ++ ps.map (Connective.or, ·) })
    (by simp) (by simp [call]) s ps

theorem callAll_orderings (s : Select) (clauses : List String) :
    s.callAll (clauses.map .ordering) = { s with orderings := s.orderings ++ clauses } :=
  callAll_map _ (fun s clauses => { s with orderings := s.orderings ++ clauses })
    (by simp) (by simp [call]) s clauses

/-- The calls of a scope add its predicates with their connectives, then its orderings. -/
theorem callAll_scope (s : Select) (scope : Scope) :
    s.callAll scope.calls =
      { s with
        predicates := s.predicates ++ scope.tied
        orderings := s.orderings ++ scope.orderings } := by
  simp only [Scope.calls, callAll_append, callAll_conjuncts, callAll_disjuncts, callAll_orderings,
    Scope.tied, List.append_assoc]

theorem callAll_joins (s : Select) (joins : List JoinScope) :
    s.callAll (joins.flatMap JoinScope.calls) =
      { s with
        joins := s.joins ++ joins.map (·.clause)
        predicates := s.predicates ++ joins.flatMap (·.scope.tied)
        orderings := s.orderings ++ joins.flatMap (·.scope.orderings) } := by
  induction joins generalizing s with
  | nil => simp [callAll]
  | cons join rest ih =>
    rw [List.flatMap_cons, callAll_append, ih]
    have opened : s.callAll join.calls =
        { s with
          joins := s.joins ++ [join.clause]
          predicates := s.predicates ++ join.scope.tied
          orderings := s.orderings ++ join.scope.orderings } :=
      callAll_scope (s.call (.join join.clause)) join.scope
    simp [opened]

/-- A count replay extends the lists of a select and leaves offset and limit alone. -/
theorem forCount_eq (s : Select) (t : ConditionTree) :
    s.forCount t =
      { s with
        joins := s.joins ++ t.clauses
        predicates := s.predicates ++ t.tied
        orderings := s.orderings ++ t.orderings } := by
  unfold forCount ConditionTree.countCalls
  rw [callAll_append, callAll_joins, callAll_scope]
  simp only [ConditionTree.clauses, ConditionTree.tied, ConditionTree.orderings, List.append_assoc]

/-- A paged replay is a count replay that sets the window, if there is one. -/
theorem forPage_eq (s : Select) (t : ConditionTree) :
    s.forPage t =
      match t.window with
      | none => s.forCount t
      | some w => { s.forCount t with offset := some w.offset, limit := w.limit } := by
  unfold forPage forCount ConditionTree.pageCalls
  rw [callAll_append]
  cases t.window with
  | none => rfl
  | some w => rfl

def fresh (table columns : String) : Select :=
  { ofTable table with columns }

theorem forCount_fresh (table columns : String) (t : ConditionTree) :
    (fresh table columns).forCount t =
      { table, columns, joins := t.clauses, predicates := t.tied, orderings := t.orderings } := by
  rw [forCount_eq]
  rfl

/-- A fresh select has the lists of the tree after a paged replay, and its window. -/
theorem forPage_fresh (table columns : String) (t : ConditionTree) :
    (fresh table columns).forPage t =
      { table, columns, joins := t.clauses, predicates := t.tied, orderings := t.orderings,
        offset := t.window.map Window.offset, limit := t.window.bind Window.limit } := by
  rw [forPage_eq, forCount_fresh]
  cases t.window <;> rfl

end Select

end FilterSql
