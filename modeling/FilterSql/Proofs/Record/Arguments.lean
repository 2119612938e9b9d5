import FilterSql.Proofs.Record.Compiling
import FilterSql.Proofs.Record.Invariant
import FilterSql.Proofs.Record.OperatorSteps
import FilterSql.Proofs.Select.Arguments
import FilterSql.Proofs.Select.CountQuery

/-!
# Every argument is bound once and in its place

Each operator writes as many `?` into its template as it has arguments, so every
predicate of a compiled tree is balanced as long as no name brings a `?` of its
own. Balanced predicates keep all their arguments when they are rendered, and
the placeholders of both queries are as many as the arguments.

`Record.arguments_bound_in_place` is the main result. It is carried by an
invariant of steps, `Step.Balanced`, which every operator establishes
(`Operator.Writes.balanced`) and which holds at any depth of a walk
(`Record.balanced_walk`). The names of columns and tables come from directives and
are not quoted, so their not holding a `?` has to be asked for.
-/

namespace FilterSql

open Text (Plain plain_append)

/-- No column or table that a field may be compared on holds a `?`. -/
structure FieldSpec.PlainNames (m : FieldSpec) : Prop where
  column : Plain m.column
  table : Plain m.table
  named : ∀ d ∈ m.descriptor?, Plain d.column ∧ Plain d.table

instance (m : FieldSpec) : Decidable m.PlainNames :=
  decidable_of_iff
    (Plain m.column ∧ Plain m.table ∧ ∀ d ∈ m.descriptor?, Plain d.column ∧ Plain d.table)
    ⟨fun ⟨column, table, named⟩ => ⟨column, table, named⟩,
      fun names => ⟨names.column, names.table, names.named⟩⟩

theorem plain_orElse {s fallback : String} (plain : Plain s) (otherwise : Plain fallback) :
    Plain (orElse s fallback) := by
  unfold orElse
  split
  · exact otherwise
  · exact plain

theorem plain_qualify {table column : String} (tablePlain : Plain table)
    (columnPlain : Plain column) : Plain (qualify table column) := by
  unfold qualify
  split
  · exact columnPlain
  · exact plain_append.mpr ⟨plain_append.mpr ⟨tablePlain, by decide⟩, columnPlain⟩

theorem FieldSpec.PlainNames.columnOf {m : FieldSpec} (names : m.PlainNames) {d : Descriptor}
    (said : m.descriptor? = some d) : Plain (d.columnOf m) := by
  obtain ⟨columnPlain, tablePlain⟩ := names.named d said
  exact plain_qualify (plain_orElse tablePlain names.table)
    (plain_orElse columnPlain names.column)

theorem Predicate.balanced_of_plain {column rest : String} {args : List Value}
    (plain : Plain column) (marks : rest.toList.count '?' = args.length) :
    Predicate.Balanced ⟨column ++ rest, args⟩ := by
  unfold Predicate.Balanced
  rw [String.toList_append, List.count_append, plain.count_eq_zero, Nat.zero_add, marks]

theorem Operator.plain_patternWord (op : Operator) (d : Driver) : Plain (op.patternWord d) := by
  unfold patternWord
  split <;> decide

/-- What an operator writes has one argument for each `?`, if the column holds none. -/
theorem Operator.Writes.balanced {op : Operator} {d : Driver} {column : String} {v : Value}
    {p : Predicate} (writes : op.Writes d column v p) (plain : Plain column) : p.Balanced := by
  have matched (pattern : String) :
      Predicate.Balanced ⟨column ++ " " ++ op.patternWord d ++ " ?", [.text pattern]⟩ := by
    have before : Plain (column ++ " " ++ op.patternWord d) :=
      plain_append.mpr ⟨plain_append.mpr ⟨plain, by decide⟩, op.plain_patternWord d⟩
    exact Predicate.balanced_of_plain before rfl
  cases writes with
  | inside | atStart | atEnd => exact matched _
  | equal | greater | atLeast | less | atMost => exact Predicate.balanced_of_plain plain rfl
  | oneOf | between | null | notNull => exact Predicate.balanced_of_plain plain rfl

/-- Each operator has one `?` for each of its arguments, on a column without any. -/
theorem Operator.balanced_steps (op : Operator) (d : Driver) {column : String} (v : Value)
    (plain : Plain column) : ∀ step ∈ op.steps d column v, ∀ p ∈ step.predicates, p.Balanced := by
  intro step member p written
  have yields := op.yields_steps d column v
  generalize op.steps d column v = steps at yields member
  cases yields with
  | predicate writes =>
    rw [List.mem_singleton.mp member] at written
    rw [List.mem_singleton.mp written]
    exact writes.balanced plain
  | ascending | descending | page | size =>
    rw [List.mem_singleton.mp member] at written
    exact absurd written List.not_mem_nil
  | unbounded | undirected | nothing => exact absurd member List.not_mem_nil

/-- A condition of the record's own may hold any names, but it must be balanced by itself. -/
def Step.Balanced (s : Step) : Prop :=
  ∀ p ∈ s.predicates, p.Balanced

/-- Fields on plain columns and balanced conditions give balanced steps only, at any depth. -/
theorem Record.balanced_walk (r : Record) (o : Options)
    (names : ∀ m content, Call.field m content ∈ r.calls → m.PlainNames)
    (own : ∀ step, Call.condition step ∈ r.calls → step.Balanced)
    (place : Place) (path : String) : ∀ step ∈ (r.walk o place path).steps, step.Balanced := by
  apply Record.walk_invariant (Step.keptByJoin_predicates Predicate.Balanced) r
  intro c among
  cases c with
  | field m content =>
    intro path step member
    rcases m.visit_steps o path content with silent | ⟨d, op, said, _, _, yields⟩
    · rw [silent] at member
      exact absurd member List.not_mem_nil
    · rw [yields] at member
      exact op.balanced_steps _ _ ((names m content among).columnOf said) step member
  | condition step => exact own step among
  | join m r => trivial
  | flatten r => trivial
  | whenDriver d r => trivial

/-- Every predicate of a compiled tree is balanced; both queries bind exactly the scalars of the
tree, in order; and if no other text holds a `?`, then the `?` of a query are its placeholders. -/
theorem Record.arguments_bound_in_place (r : Record)
    (names : ∀ m content, Call.field m content ∈ r.calls → m.PlainNames)
    (own : ∀ step, Call.condition step ∈ r.calls → step.Balanced) (o : Options) :
    (o.isStrict = false → ∃ c, r.compile o = .ok c) ∧
      ∀ c, r.compile o = .ok c →
        (∀ p ∈ c.tree.predicates, p.Balanced) ∧
        ∀ (d : Driver) (table columns : String),
          let rows := ((Select.fresh table columns).forPage c.tree).sql d .rows
          let count := ((Select.fresh table columns).forCount c.tree).sql d .count
          rows.args = c.tree.predicates.flatMap Predicate.scalars ∧
          count.args = c.tree.predicates.flatMap Predicate.scalars ∧
          ((∀ clause ∈ c.tree.clauses, Plain clause) → (∀ clause ∈ c.tree.orderings, Plain clause) →
            Plain table → Plain columns →
              rows.text.toList.count '?' = d.marks * rows.args.length ∧
              count.text.toList.count '?' = d.marks * count.args.length) := by
  constructor
  · intro lenient
    exact ⟨r.compiled o, by simp [Record.compile, Record.compiled, lenient]⟩
  · intro c success
    obtain rfl := eq_compiled_of_compile success
    have balanced : ∀ p ∈ (r.compiled o).tree.predicates, p.Balanced := by
      intro p member
      obtain ⟨step, among, written⟩ := ConditionTree.mem_predicates_of_run member
      exact r.balanced_walk o names own .root "" step among p written
    refine ⟨balanced, fun d table columns => ?_⟩
    rw [Select.forPage_fresh, Select.forCount_fresh]
    refine ⟨Select.args_sql_of_tied rfl balanced d .rows,
      Select.args_sql_of_tied rfl balanced d .count, ?_⟩
    intro clauses orderings tablePlain columnsPlain
    have tied := (r.compiled o).tree.balanced_tied balanced
    exact ⟨Select.count_sql_text ⟨tablePlain, columnsPlain, clauses, orderings⟩ tied d .rows,
      Select.count_sql_text ⟨tablePlain, columnsPlain, clauses, orderings⟩ tied d .count⟩

def Record.usersWithOrders : Record :=
  .made
    [.field (.ofName "name" "type:contains;table:users") (.text "ann"),
      .join (.ofName "orders" "type:left;join:orders;on:user_id:id;table:users")
        (.made
          [.field (.ofName "amount" "type:between;table:orders") (.sequence [.signed 1, .signed 9])]
          none),
      .condition (.disjunct ⟨"users.id IN (?)", [.list [.int 7, .int 8]]⟩)]
    none

/-- The arguments of the join come first and those of the `OR` predicates last. -/
theorem Record.usersWithOrders_arguments :
    ∃ c, Record.usersWithOrders.compile ⟨.mysql, .lenient⟩ = .ok c ∧
      (∀ p ∈ c.tree.predicates, p.Balanced) ∧
      (((Select.fresh "users" "*").forPage c.tree).sql .mysql .rows).args =
        [.int 1, .int 9, .text "%ann%", .int 7, .int 8] ∧
      (((Select.fresh "users" "*").forPage c.tree).sql .mysql .rows).text.toList.count '?' = 5 := by
  have names : ∀ m content, Call.field m content ∈ Record.usersWithOrders.calls → m.PlainNames := by
    intro m content member
    simp only [Record.usersWithOrders, Record.calls, Call.callsIn, Call.calls, List.mem_append,
      List.mem_cons, Call.field.injEq, List.not_mem_nil, reduceCtorEq, or_false, false_or] at member
    rcases member with ⟨rfl, -⟩ | ⟨rfl, -⟩
    · decide +kernel
    · decide +kernel
  have own : ∀ step, Call.condition step ∈ Record.usersWithOrders.calls → step.Balanced := by
    intro step member
    simp only [Record.usersWithOrders, Record.calls, Call.callsIn, Call.calls, List.mem_append,
      List.mem_cons, Call.condition.injEq, List.not_mem_nil, reduceCtorEq, or_false,
      false_or] at member
    subst member
    intro p written
    rw [List.mem_singleton.mp written]
    decide
  obtain ⟨given, bound⟩ := Record.arguments_bound_in_place _ names own ⟨.mysql, .lenient⟩
  obtain ⟨c, success⟩ := given rfl
  obtain ⟨balanced, queries⟩ := bound c success
  obtain ⟨rows, count, marks⟩ := queries .mysql "users" "*"
  obtain rfl := Record.eq_compiled_of_compile success
  have args : (((Select.fresh "users" "*").forPage
      (Record.usersWithOrders.compiled ⟨.mysql, .lenient⟩).tree).sql .mysql .rows).args =
        [.int 1, .int 9, .text "%ann%", .int 7, .int 8] := by
    rw [rows]
    rfl
  refine ⟨_, success, balanced, args, ?_⟩
  rw [(marks (by decide +kernel) (by decide +kernel) (by decide) (by decide)).1, args]
  rfl

end FilterSql
