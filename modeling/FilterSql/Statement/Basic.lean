import FilterSql.Condition.Tree

/-!
# Statements before spelling

A statement is a sequence of marks: characters of its text, and arguments at the
places where they are bound. How a bound argument is spelled depends on the
driver and comes later, so that the text and the arguments cannot fall out of
step.
-/

namespace FilterSql

inductive Mark where
  | char (c : Char)
  /-- A bound argument; never a list. -/
  | arg (v : Value)
  deriving Repr

abbrev Statement := List Mark

namespace Statement

def ofText (s : String) : Statement :=
  s.toList.map Mark.char

mutual

/-- The marks of an argument: a list is its scalars with commas between them, and an empty list,
which a statement cannot hold, is `NULL`. -/
def ofValue : Value → Statement
  | .list vs => ofValues vs
  | v => [.arg v]

def ofValues : List Value → Statement
  | [] => ofText "NULL"
  | [v] => ofValue v
  | v :: w :: vs => ofValue v ++ ofText ", " ++ ofValues (w :: vs)

end

/-- A template filled in: each `?` takes the next argument. With no argument left a `?` stays, and
arguments that no `?` takes are dropped. -/
def fill : List Char → List Value → Statement
  | [], _ => []
  | c :: r, [] => .char c :: fill r []
  | c :: r, v :: vs =>
    if c = '?' then ofValue v ++ fill r vs else .char c :: fill r (v :: vs)

end Statement

def Predicate.statement (p : Predicate) : Statement :=
  Statement.fill p.template.toList p.args

end FilterSql
