/-!
# Operators

What a field does with its value. Most operators compare a column with the
value; the others sort, page, or join another table.
-/

namespace FilterSql

inductive Operator where
  | eq | exact | iExact
  | like | contains | iContains
  | gt | gte | lt | lte
  | startsWith | iStartsWith | endsWith | iEndsWith
  | oneOf | between | isNull
  | order | left | page | pageSize
  deriving DecidableEq, Repr

namespace Operator

/-- Every operator, in the order in which they are listed to users. -/
def all : List Operator :=
  [eq, exact, iExact, like, contains, iContains, gt, gte, lt, lte, startsWith, iStartsWith,
    endsWith, iEndsWith, oneOf, between, isNull, order, left, page, pageSize]

def token : Operator → String
  | eq => "eq"
  | exact => "exact"
  | iExact => "iexact"
  | like => "like"
  | contains => "contains"
  | iContains => "icontains"
  | gt => "gt"
  | gte => "gte"
  | lt => "lt"
  | lte => "lte"
  | startsWith => "startswith"
  | iStartsWith => "istartswith"
  | endsWith => "endswith"
  | iEndsWith => "iendswith"
  | oneOf => "in"
  | between => "between"
  | isNull => "isnull"
  | order => "order"
  | left => "left"
  | page => "page"
  | pageSize => "pageSize"

def ofToken? (s : String) : Option Operator :=
  all.find? (·.token = s)

def index (op : Operator) : Nat :=
  all.idxOf op

/-- Operators whose pattern a driver may match without regard to letter case. -/
def isCaseInsensitive : Operator → Bool
  | iContains | iStartsWith | iEndsWith => true
  | _ => false

def isJoin (op : Operator) : Bool :=
  op == left

theorem mem_all (op : Operator) : op ∈ all := by
  cases op <;> decide

/-- Tokens are distinct, so each one leads back to its operator. -/
theorem ofToken?_token (op : Operator) : ofToken? op.token = some op := by
  cases op <;> decide

/-- Only the operator itself has its token. -/
theorem token_of_ofToken? {s : String} {op : Operator} (h : ofToken? s = some op) :
    op.token = s := by
  simpa using List.find?_some h

end Operator

end FilterSql
