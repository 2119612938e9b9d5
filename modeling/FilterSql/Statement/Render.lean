import FilterSql.Driver
import FilterSql.Statement.Basic

/-!
# Statement text

A statement as text with placeholders, and its arguments in the order of the
placeholders. Placeholders are numbered through the whole statement.

Since text and arguments come from one sequence of marks,
`Proofs/Select/Alignment` can match them mark by mark.
-/

namespace FilterSql

structure Sql where
  text : String
  args : List Value
  deriving Repr

namespace Statement

/-- The characters of a statement whose first argument has the number `n + 1`. -/
def spell (d : Driver) (n : Nat) : Statement → List Char
  | [] => []
  | .char c :: ms => c :: spell d n ms
  | .arg _ :: ms => (d.placeholder (n + 1)).toList ++ spell d (n + 1) ms

def args (s : Statement) : List Value :=
  s.filterMap fun
    | .char _ => none
    | .arg v => some v

def render (d : Driver) (s : Statement) : Sql :=
  ⟨String.ofList (spell d 0 s), s.args⟩

end Statement

end FilterSql
