import FilterSql.Condition.Step
import FilterSql.Issue

/-!
# Outcomes of a visit

What visiting a part of a record yields: the steps that build the condition tree
and the issues found in its directives. Outcomes are joined list by list, so what
one call yields never depends on an earlier one.
-/

namespace FilterSql

structure Outcome where
  steps : List Step := []
  issues : List Issue := []
  deriving Repr

namespace Outcome

def append (a b : Outcome) : Outcome :=
  ⟨a.steps ++ b.steps, a.issues ++ b.issues⟩

instance : Append Outcome := ⟨append⟩

@[simp] theorem steps_append (a b : Outcome) : (a ++ b).steps = a.steps ++ b.steps := rfl

@[simp] theorem issues_append (a b : Outcome) : (a ++ b).issues = a.issues ++ b.issues := rfl

def problem (path : String) (p : Problem) : Outcome :=
  ⟨[], [⟨path, p⟩]⟩

def faults (path : String) (fs : List Directive.Fault) : Outcome :=
  ⟨[], fs.map fun f => ⟨path, .directive f⟩⟩

def issuesOnly (o : Outcome) : Outcome :=
  ⟨[], o.issues⟩

end Outcome

end FilterSql
