import FilterSql.Directive.Basic

/-!
# Compile issues

A problem found at a field while a record is walked, with the path of the field
and the wording of both.
-/

namespace FilterSql

inductive Problem where
  | directive (fault : Directive.Fault)
  /-- The joined table or one of the two columns is missing. -/
  | incompleteJoin
  /-- Nothing names the table of the source column. -/
  | unqualifiedJoinSource
  /-- A join inside a joined record. -/
  | nestedJoin
  /-- A join directive on a field that is no record. -/
  | scalarJoin
  /-- A record field whose directive is no join; `kind` is what it says instead. -/
  | notAJoin (kind : String)
  deriving DecidableEq, Repr

structure Issue where
  /-- The field's name, after the name of the record field it was reached through. -/
  path : String
  problem : Problem
  deriving DecidableEq, Repr

def Problem.message : Problem → String
  | directive fault => fault.message
  | incompleteJoin => "join needs `join:<table>` and `on:<joined column>:<source column>`"
  | unqualifiedJoinSource =>
    "join source column needs a table, set `table:<source>` or `#[search(table)]`"
  | nestedJoin => "joins cannot be nested inside a joined record"
  | scalarJoin => "`type:left` requires a nested search record"
  | notAJoin kind => "nested search record needs `type:left`, found `" ++ kind ++ "`"

namespace Issue

def message (i : Issue) : String :=
  "field `" ++ i.path ++ "`: " ++ i.problem.message

/-- The wording of a refusal for these issues. -/
def refusal (issues : List Issue) : String :=
  "rejected search annotations: " ++ "; ".intercalate (issues.map message)

end Issue

end FilterSql
