import FilterSql.Statement.Builder
import FilterSql.Statement.Render

/-!
# Select statements

A select over one table, put together by calls. Predicates are written one after
the other in call order, each with the connective it was added with; the first
connective gives way to `WHERE`. The count query has the same joins and
predicates and neither ordering nor paging.

Nothing is checked here: a clause or a template that is no part of the language
goes into the text as it is.
-/

namespace FilterSql

inductive QueryCall where
  | join (clause : String)
  | conjunct (p : Predicate)
  | disjunct (p : Predicate)
  | ordering (clause : String)
  | offset (rows : UInt64)
  /-- A missing limit clears an earlier one. -/
  | limit (rows : Option UInt64)
  deriving Repr

/-- How a predicate is tied to those before it. -/
inductive Connective where
  | and | or
  deriving DecidableEq, Repr

def Connective.text : Connective → String
  | and => " AND "
  | or => " OR "

inductive Query where
  | rows | count
  deriving DecidableEq, Repr

structure Select where
  table : String
  columns : String := "*"
  joins : List String := []
  predicates : List (Connective × Predicate) := []
  orderings : List String := []
  offset : Option UInt64 := none
  limit : Option UInt64 := none
  deriving Repr

namespace Select

def ofTable (table : String) : Select :=
  { table }

def call (s : Select) : QueryCall → Select
  | .join clause => { s with joins := s.joins ++ [clause] }
  | .conjunct p => { s with predicates := s.predicates ++ [(.and, p)] }
  | .disjunct p => { s with predicates := s.predicates ++ [(.or, p)] }
  | .ordering clause => { s with orderings := s.orderings ++ [clause] }
  | .offset rows => { s with offset := some rows }
  | .limit rows => { s with limit := rows }

def callAll (s : Select) (calls : List QueryCall) : Select :=
  calls.foldl call s

def head (s : Select) : Query → Statement
  | .rows => Statement.ofText ("SELECT " ++ s.columns ++ " FROM " ++ s.table)
  | .count => Statement.ofText ("SELECT COUNT(*) FROM " ++ s.table)

def joinPart (s : Select) : Statement :=
  s.joins.flatMap fun clause => Statement.ofText (" " ++ clause)

/-- The predicates after the first, each behind its connective. -/
def furtherPredicates (ps : List (Connective × Predicate)) : Statement :=
  ps.flatMap fun (connective, p) => Statement.ofText connective.text ++ p.statement

def wherePart (s : Select) : Statement :=
  match s.predicates with
  | [] => []
  | (_, p) :: ps => Statement.ofText " WHERE " ++ p.statement ++ furtherPredicates ps

def orderText (s : Select) : String :=
  if s.orderings.isEmpty then "" else " ORDER BY " ++ ", ".intercalate s.orderings

/-- The offset, if any rows are skipped. -/
def skipped? (s : Select) : Option UInt64 :=
  s.offset.filter fun rows => rows != 0

/-- The `LIMIT` clause. MySQL has no offset without a limit, so there the greatest row count
stands in for a missing one. -/
def limitText (s : Select) (d : Driver) : String :=
  match s.limit with
  | some rows => " LIMIT " ++ Decimal.ofNat rows.toNat
  | none =>
    if d = .mysql ∧ s.skipped?.isSome then " LIMIT " ++ Decimal.ofNat (UInt64.size - 1) else ""

def offsetText (s : Select) : String :=
  match s.skipped? with
  | some rows => " OFFSET " ++ Decimal.ofNat rows.toNat
  | none => ""

def statement (s : Select) (d : Driver) (q : Query) : Statement :=
  s.head q ++ s.joinPart ++ s.wherePart ++
    match q with
    | .count => []
    | .rows => Statement.ofText (s.orderText ++ s.limitText d ++ s.offsetText)

def sql (s : Select) (d : Driver) (q : Query) : Sql :=
  (s.statement d q).render d

def build {β : Type} (s : Select) (b : QueryBuilder β) (d : Driver) (q : Query) : β :=
  b.write d (s.statement d q)

/-- What the builder of a driver holds of a query, for a driver that has builders. -/
def builder? (s : Select) (d : Driver) (q : Query) : Option Builder :=
  if d = .other then none else some (s.build (Builder.ofDriver d) d q)

end Select

end FilterSql
