import FilterSql.Paging
import FilterSql.Value

/-!
# Condition trees

What a filter record amounts to before any statement is written: predicates and
orderings on the root table, the same for each joined table under its join
clause, and the paging texts.
-/

namespace FilterSql

/-- A condition with its arguments; each `?` of the template stands for one argument. -/
structure Predicate where
  template : String
  args : List Value
  deriving Repr

structure Scope where
  conjuncts : List Predicate := []
  disjuncts : List Predicate := []
  orderings : List String := []
  deriving Repr, Inhabited

inductive JoinKind where
  | left
  deriving DecidableEq, Repr

def JoinKind.keyword : JoinKind → String
  | left => "LEFT JOIN"

/-- The conditions on a joined table, under the clause that joins it. -/
structure JoinScope where
  kind : JoinKind
  clause : String
  scope : Scope := {}
  deriving Repr

structure ConditionTree where
  root : Scope := {}
  /-- The join scopes in the order they were opened. -/
  joins : List JoinScope := []
  paging : PageInput := {}
  deriving Repr, Inhabited

def Scope.isEmpty (s : Scope) : Bool :=
  s.conjuncts.isEmpty && s.disjuncts.isEmpty && s.orderings.isEmpty

namespace ConditionTree

def window (t : ConditionTree) : Option Window :=
  t.paging.window

/-- Whether the tree would change no query: a join scope changes one even when it is empty, a
page or a page size alone does not. -/
def isEmpty (t : ConditionTree) : Bool :=
  t.root.isEmpty && t.joins.isEmpty && t.window.isNone

end ConditionTree

end FilterSql
