import FilterSql.Number.Decimal
import FilterSql.Number.Shortest

/-!
# Argument values

Everything that a filter contributes to a statement besides column and table
names travels as a `Value` and is bound as an argument. A value knows whether it
is the zero of its kind (such a value filters nothing), how it reads as a
sequence, and its display text, which pattern and paging operators use.
-/

namespace FilterSql

/-- A bound argument. A list is bound element by element. -/
inductive Value where
  | null
  | bool (b : Bool)
  | int (n : Int64)
  | uint (n : UInt64)
  | float (x : Binary64)
  | text (s : String)
  | list (vs : List Value)
  deriving Repr, Inhabited

namespace Value

/-- The unset value of each kind. -/
def isZero : Value → Bool
  | null => true
  | bool b => !b
  | int n => n == 0
  | uint n => n == 0
  | float x => x.isZero
  | text s => s.isEmpty
  | list vs => vs.isEmpty

def isTruthy : Value → Bool
  | bool b => b
  | _ => true

/-- The value as a sequence: a scalar is a sequence of one. -/
def elements : Value → List Value
  | list vs => vs
  | v => [v]

mutual

/-- The display text: the elements of a list are separated by commas, without brackets. -/
def display : Value → String
  | null => "NULL"
  | bool true => "true"
  | bool false => "false"
  | int n => Decimal.ofInt n.toInt
  | uint n => Decimal.ofNat n.toNat
  | float x => x.text
  | text s => s
  | list vs => displayList vs

def displayList : List Value → String
  | [] => ""
  | [v] => v.display
  | v :: w :: vs => v.display ++ "," ++ displayList (w :: vs)

end

mutual

/-- The scalars of a value in order: nested lists are flattened away. -/
def scalars : Value → List Value
  | list vs => scalarsList vs
  | v => [v]

def scalarsList : List Value → List Value
  | [] => []
  | v :: vs => v.scalars ++ scalarsList vs

end

end Value

end FilterSql
