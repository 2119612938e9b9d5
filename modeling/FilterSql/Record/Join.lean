import FilterSql.Record.Field

/-!
# Record fields

What a field that holds a record comes to. Its directive must join a table; the
steps of the record then go into a scope of their own. A joined record that is
zero opens no scope, but it is still visited for the issues of its directives,
which must not depend on contents. Joins do not nest.
-/

namespace FilterSql

/-- Where the steps of a walk are carried out. -/
inductive Place where
  /-- At the root of a tree. -/
  | root
  /-- Inside the scope of a join field. -/
  | joined
  /-- Inside a join scope that no join field opened, so the walk learns only by being refused
  that the scope takes no joins. -/
  | detached
  deriving DecidableEq, Repr

/-- The two columns that a join compares, with their tables. -/
structure Link where
  joined : String
  joinedColumn : String
  source : String
  sourceColumn : String
  deriving DecidableEq, Repr

def Link.clause (l : Link) : String :=
  JoinKind.left.keyword ++ " " ++ l.joined ++ " ON " ++ l.joined ++ "." ++ l.joinedColumn ++
    " = " ++ qualify l.source l.sourceColumn

/-- What the directive of a record field comes to. -/
inductive JoinRequest where
  /-- No operator, which is reported as a fault already. -/
  | none
  | faulty (p : Problem)
  | link (l : Link)
  deriving DecidableEq, Repr

def Descriptor.joinRequest (d : Descriptor) (m : FieldSpec) : JoinRequest :=
  match d.operator with
  | none => .none
  | some .left =>
    match d.on with
    | joinedColumn :: sourceColumn :: _ =>
      if d.join.isEmpty then .faulty .incompleteJoin
      else if (d.tableOf m).isEmpty then .faulty .unqualifiedJoinSource
      else .link ⟨d.join, joinedColumn, d.tableOf m, sourceColumn⟩
    | _ => .faulty .incompleteJoin
  | some _ => .faulty (.notAJoin d.kind)

/-- The outcome of a record field, given whether the record is zero and what it yields when it is
visited inside the join. -/
def FieldSpec.visitJoin (place : Place) (path : String) (m : FieldSpec)
    (zero : Bool) (inner : Outcome) : Outcome :=
  let reading := Directive.read m.tag
  let path := path ++ m.name
  Outcome.faults path reading.faults ++
    match reading.directive with
    | .excluded => {}
    | .search d =>
      match d.joinRequest m with
      | .none => {}
      | .faulty p => .problem path p
      | .link l =>
        match place, zero with
        | .joined, _ => .problem path .nestedJoin
        | _, true => inner.issuesOnly
        | .detached, false => .problem path .nestedJoin
        | .root, false => ⟨[.join .left l.clause inner.steps], inner.issues⟩

/-- The path in front of the names of the fields of a record field. -/
def FieldSpec.innerPath (path : String) (m : FieldSpec) : String :=
  path ++ m.name ++ "."

end FilterSql
