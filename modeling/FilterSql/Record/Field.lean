import FilterSql.Options
import FilterSql.Record.Basic
import FilterSql.Record.Outcome

/-!
# Fields

What a field with a directive and a content comes to. A set field with an
operator of its own yields at most one step, on the column that the directive or
the field names; an unset field yields none. Problems are reported either way.
-/

namespace FilterSql

def qualify (table column : String) : String :=
  if table.isEmpty then column else table ++ "." ++ column

/-- The first of two texts that says something. -/
def orElse (s fallback : String) : String :=
  if s.isEmpty then fallback else s

namespace Descriptor

/-- The table of a field: the directive's, else the field's own. -/
def tableOf (d : Descriptor) (m : FieldSpec) : String :=
  orElse d.table m.table

def columnOf (d : Descriptor) (m : FieldSpec) : String :=
  qualify (d.tableOf m) (orElse d.column m.column)

end Descriptor

namespace Step

def compare (column op : String) (v : Value) : Step :=
  .conjunct ⟨column ++ " " ++ op ++ " ?", [v]⟩

/-- The match of a column with a pattern: wildcards in the value itself are not escaped. -/
def matching (d : Driver) (op : Operator) (column : String) (pattern : String) : Step :=
  compare column (d.matchWord op.isCaseInsensitive) (.text pattern)

end Step

/-- The direction that a value names, in upper case. -/
def sortDirection? (v : Value) : Option String :=
  let s := Text.lower v.display
  if s = "asc" then some "ASC"
  else if s = "desc" then some "DESC"
  else none

/-- The steps of a set field: at most one. A range without two bounds and an unknown sort
direction yield none. -/
def Operator.steps (d : Driver) (column : String) (v : Value) : Operator → List Step
  | .eq | .exact | .iExact => [.compare column "=" v]
  | .gt => [.compare column ">" v]
  | .gte => [.compare column ">=" v]
  | .lt => [.compare column "<" v]
  | .lte => [.compare column "<=" v]
  | .like => [.matching d .like column ("%" ++ v.display ++ "%")]
  | .contains => [.matching d .contains column ("%" ++ v.display ++ "%")]
  | .iContains => [.matching d .iContains column ("%" ++ v.display ++ "%")]
  | .startsWith => [.matching d .startsWith column (v.display ++ "%")]
  | .iStartsWith => [.matching d .iStartsWith column (v.display ++ "%")]
  | .endsWith => [.matching d .endsWith column ("%" ++ v.display)]
  | .iEndsWith => [.matching d .iEndsWith column ("%" ++ v.display)]
  | .oneOf => [.conjunct ⟨column ++ " IN (?)", [.list v.elements]⟩]
  | .between =>
    match v.elements with
    | low :: high :: _ => [.conjunct ⟨column ++ " BETWEEN ? AND ?", [low, high]⟩]
    | _ => []
  | .isNull =>
    [.conjunct ⟨column ++ (if v.isTruthy then " IS NULL" else " IS NOT NULL"), []⟩]
  | .order =>
    match sortDirection? v with
    | some direction => [.ordering (column ++ " " ++ direction)]
    | none => []
  | .page => [.page v.display]
  | .pageSize => [.size v.display]
  | .left => []

/-- The outcome of a field. Faults are reported for excluded fields, which have none, and for
unset ones alike. -/
def FieldSpec.visit (o : Options) (path : String) (m : FieldSpec) (content : Datum) : Outcome :=
  let reading := Directive.read m.tag
  let path := path ++ m.name
  Outcome.faults path reading.faults ++
    match reading.directive with
    | .excluded => {}
    | .search d =>
      match d.operator with
      | none => {}
      | some .left => .problem path .scalarJoin
      | some op =>
        if content.isZero then {}
        else ⟨op.steps o.driver (d.columnOf m) content.toValue, []⟩

end FilterSql
