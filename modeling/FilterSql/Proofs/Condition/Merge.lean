import FilterSql.Proofs.Condition.Run

/-!
# Merging trees

Two trees are merged list by list, and of each paging text the first tree's
counts if it has one. A run from any tree is that tree merged with the run from
the empty one: no step depends on what is there already, except that a paging
text is not overwritten.

`run_append` is what other modules use: the run of two lists of steps is the merge
of their runs. It follows from `run_eq_merge`, which takes the start apart from
the steps.
-/

namespace FilterSql

def Scope.merge (a b : Scope) : Scope :=
  { conjuncts := a.conjuncts ++ b.conjuncts
    disjuncts := a.disjuncts ++ b.disjuncts
    orderings := a.orderings ++ b.orderings }

/-- Steps add to a scope what they put into an empty one. -/
theorem Scope.run_eq_merge (s : Scope) (steps : List Step) : s.run steps = s.merge (run {} steps) := by
  rw [run_eq, run_eq {}, merge]
  simp only [List.nil_append]

/-- Each text is the first one's if it is set there, else the second one's. -/
def PageInput.merge (a b : PageInput) : PageInput :=
  { page := a.page.or b.page, size := a.size.or b.size }

namespace ConditionTree

def merge (a b : ConditionTree) : ConditionTree :=
  { root := a.root.merge b.root
    joins := a.joins ++ b.joins
    paging := a.paging.merge b.paging }

/-- Steps add to a tree the tree that they make by themselves. -/
theorem run_eq_merge (t : ConditionTree) (steps : List Step) : t.run steps = t.merge (run {} steps) := by
  have root : (t.run steps).root = t.root.merge (run {} steps).root := by
    rw [run_root, run_root, Scope.run_eq_merge]
  have joins : (t.run steps).joins = t.joins ++ (run {} steps).joins := by
    rw [run_joins, run_joins {}, List.nil_append]
  have paging : (t.run steps).paging = t.paging.merge (run {} steps).paging := by
    rw [run_paging, run_paging {}, PageInput.merge]
    simp only [Option.none_or]
  rw [merge, ← root, ← joins, ← paging]

/-- Steps run in two goes amount to the merge of what each go amounts to by itself. -/
theorem run_append (as bs : List Step) : run {} (as ++ bs) = (run {} as).merge (run {} bs) := by
  have goes : run {} (as ++ bs) = (run {} as).run bs := List.foldl_append
  rw [goes, run_eq_merge]

end ConditionTree

end FilterSql
