import FilterSql.Condition.Step
import FilterSql.Select

/-!
# Replaying a tree

A condition tree becomes a list of query calls: each join clause with the
conditions on its table, then the conditions on the root table, then the window.
For a count the window is left out.

The effect of a replay on each list of a select is stated in
`Proofs/Select/Replay`.
-/

namespace FilterSql

def Scope.calls (s : Scope) : List QueryCall :=
  s.conjuncts.map .conjunct ++ s.disjuncts.map .disjunct ++ s.orderings.map .ordering

def JoinScope.calls (j : JoinScope) : List QueryCall :=
  .join j.clause :: j.scope.calls

/-- The calls of a window: the limit too when there is none, to clear an earlier one. -/
def Window.calls (w : Window) : List QueryCall :=
  [.offset w.offset, .limit w.limit]

namespace ConditionTree

/-- The calls of a tree without its window. -/
def countCalls (t : ConditionTree) : List QueryCall :=
  t.joins.flatMap JoinScope.calls ++ t.root.calls

/-- The calls of a tree, its window last. -/
def pageCalls (t : ConditionTree) : List QueryCall :=
  t.countCalls ++ t.window.elim [] Window.calls

end ConditionTree

namespace Select

/-- A select narrowed to one page of a tree's rows. -/
def forPage (s : Select) (t : ConditionTree) : Select :=
  s.callAll t.pageCalls

/-- A select over all rows of a tree, for counting them. -/
def forCount (s : Select) (t : ConditionTree) : Select :=
  s.callAll t.countCalls

end Select

end FilterSql
