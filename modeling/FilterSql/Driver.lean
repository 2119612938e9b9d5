import FilterSql.Number.Decimal
import FilterSql.Text.Blank
import FilterSql.Text.LetterCase

/-!
# Database drivers

What the statement text depends on: the spelling of a case-insensitive match and
of a placeholder. Drivers that are not known by name are treated alike.

Quoting of names is not among it: tables and columns are written as they are
given.
-/

namespace FilterSql

inductive Driver where
  | mysql | postgres | other
  deriving DecidableEq, Repr, Inhabited

namespace Driver

def name : Driver → String
  | mysql => "mysql"
  | postgres => "postgres"
  | other => "other"

/-- The driver that a name stands for, blanks around it and letter case disregarded. -/
def ofName (s : String) : Driver :=
  let s := Text.lower (String.ofList (Text.trim s.toList))
  if s = "mysql" ∨ s = "mariadb" then mysql
  else if s = "postgres" ∨ s = "postgresql" ∨ s = "pg" then postgres
  else other

/-- The match operator of a pattern. Only Postgres has one of its own for case-insensitive
matching; elsewhere the collation decides. -/
def matchWord (d : Driver) (caseInsensitive : Bool) : String :=
  if d = postgres ∧ caseInsensitive then "ILIKE" else "LIKE"

/-- The placeholder of the argument with this number, counted from one. -/
def placeholder (d : Driver) (number : Nat) : String :=
  if d = postgres then "$" ++ Decimal.ofNat number else "?"

end Driver

end FilterSql
