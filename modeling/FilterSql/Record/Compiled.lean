import FilterSql.Record.Walk

/-!
# Compiling a record

The condition tree of a record together with the issues of its directives. A
strict compile refuses a record with issues; the tree and the issues are the same
in both modes.

What a lenient compile and a strict one have in common is the subject of
`Proofs/Record/Modes`.
-/

namespace FilterSql

structure Compiled where
  tree : ConditionTree
  issues : List Issue
  deriving Repr

/-- Whether nothing had to be ignored. -/
def Compiled.isClean (c : Compiled) : Bool :=
  c.issues.isEmpty

def Record.compile (r : Record) (o : Options) : Except (List Issue) Compiled :=
  let outcome := r.walk o .root ""
  if o.isStrict && !outcome.issues.isEmpty then .error outcome.issues
  else .ok ⟨ConditionTree.run {} outcome.steps, outcome.issues⟩

end FilterSql
