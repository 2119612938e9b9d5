import FilterSql.Record.Join

/-!
# Walking a record

A walk visits the calls of a record in order and joins their outcomes. How a
record is held makes no difference, and an absent one yields nothing.

The record behind a join is walked before it is known whether the join opens a
scope, since its issues are reported either way. `Proofs/Record/Calls` takes a
walk apart into the calls that it comes to.
-/

namespace FilterSql

mutual

/-- The outcome of a record at a place, with `path` in front of its field names. -/
def Record.walk (o : Options) (place : Place) (path : String) : Record → Outcome
  | .absent => {}
  | .held _ r => r.walk o place path
  | .made calls _ => Record.walkAll o place path calls

def Call.walk (o : Options) (place : Place) (path : String) : Call → Outcome
  | .field m content => m.visit o path content
  | .join m r => m.visitJoin place path r.isZero (r.walk o .joined (m.innerPath path))
  | .flatten r => r.walk o place path
  | .condition step => ⟨[step], []⟩
  | .whenDriver d r => if o.driver = d then r.walk o place path else {}

def Record.walkAll (o : Options) (place : Place) (path : String) : List Call → Outcome
  | [] => {}
  | c :: cs => c.walk o place path ++ Record.walkAll o place path cs

end

end FilterSql
