import FilterSql.Condition.Tree

/-!
# Condition steps

A tree is built by steps. At the root every step takes effect. Inside a join
scope only predicates and orderings do: paging texts are passed over, and a
further join is refused, its own steps left undone.

No step reads what an earlier one wrote, so a run has a closed form, which
`Proofs/Condition/Run` gives. What a step answers with is kept apart from its
effect: the result of a join lists the results of the steps inside it.
-/

namespace FilterSql

/-- One contribution to a condition tree. -/
inductive Step where
  | conjunct (p : Predicate)
  | disjunct (p : Predicate)
  | ordering (clause : String)
  | page (text : String)
  | size (text : String)
  /-- Opens a join scope and carries out the inner steps in it. -/
  | join (kind : JoinKind) (clause : String) (inner : List Step)
  deriving Repr

/-- A scope after a step; a step that is not about the scope's own lists leaves it alone. -/
def Scope.add (s : Scope) : Step → Scope
  | .conjunct p => { s with conjuncts := s.conjuncts ++ [p] }
  | .disjunct p => { s with disjuncts := s.disjuncts ++ [p] }
  | .ordering clause => { s with orderings := s.orderings ++ [clause] }
  | .page _ | .size _ | .join .. => s

def Scope.run (s : Scope) (steps : List Step) : Scope :=
  steps.foldl Scope.add s

def JoinScope.run (j : JoinScope) (steps : List Step) : JoinScope :=
  { j with scope := j.scope.run steps }

def ConditionTree.apply (t : ConditionTree) : Step → ConditionTree
  | .page text => { t with paging := t.paging.setPage text }
  | .size text => { t with paging := t.paging.setSize text }
  | .join kind clause inner =>
    { t with joins := t.joins ++ [JoinScope.run ⟨kind, clause, {}⟩ inner] }
  | .conjunct p => { t with root := t.root.add (.conjunct p) }
  | .disjunct p => { t with root := t.root.add (.disjunct p) }
  | .ordering clause => { t with root := t.root.add (.ordering clause) }

def ConditionTree.run (t : ConditionTree) (steps : List Step) : ConditionTree :=
  steps.foldl ConditionTree.apply t

/-- What is known of a step once it is done. -/
inductive StepResult where
  | done
  /-- The scope takes no joins. -/
  | refused
  /-- A join scope was opened; the results of the inner steps. -/
  | opened (inner : List StepResult)
  deriving Repr

def Step.resultInJoin : Step → StepResult
  | .join .. => .refused
  | _ => .done

def Step.result : Step → StepResult
  | .join _ _ inner => .opened (inner.map Step.resultInJoin)
  | _ => .done

end FilterSql
