import FilterSql.Proofs.Select.Replay
import FilterSql.Proofs.Statement.Spelling

/-!
# The count query counts the rows that are listed

The row query of a paged replay, the row query of a count replay and the count
query share one text of joins and conditions with one argument list. They differ
only in what is selected, in a suffix made from the orderings and in a suffix
made from the window.

The shared part is `ConditionTree.filter`, and `rows_and_count_share_filter` is
about fresh selects. On a select that has joins, predicates or a window of its own
a replay adds to what is there, as `Select/Replay` says.
-/

namespace FilterSql

/-- The joins and the `WHERE` clause that a tree adds to any select. -/
def ConditionTree.filter (t : ConditionTree) : Statement :=
  let s : Select := { table := "", joins := t.clauses, predicates := t.tied }
  s.joinPart ++ s.wherePart

def orderSuffix (orderings : List String) : String :=
  if orderings.isEmpty then "" else " ORDER BY " ++ ", ".intercalate orderings

def pagingSuffix : Option Window → String
  | none => ""
  | some .unbounded => ""
  | some (.page offset limit) =>
    " LIMIT " ++ Decimal.ofNat limit.toNat ++
      if 0 < offset then " OFFSET " ++ Decimal.ofNat offset.toNat else ""

/-- Both texts are needed for a window. -/
theorem ConditionTree.window_eq_none_iff (t : ConditionTree) :
    t.window = none ↔ t.paging.page = none ∨ t.paging.size = none := by
  unfold ConditionTree.window PageInput.window
  cases t.paging.page <;> cases t.paging.size <;> simp

namespace Select

theorem statement_rows (s : Select) (d : Driver) :
    s.statement d .rows =
      s.head .rows ++ (s.joinPart ++ s.wherePart) ++
        Statement.ofText (s.orderText ++ s.limitText d ++ s.offsetText) := by
  simp only [statement, List.append_assoc]

theorem statement_count (s : Select) (d : Driver) :
    s.statement d .count = s.head .count ++ (s.joinPart ++ s.wherePart) ++ Statement.ofText "" := by
  simp only [statement, List.append_assoc]
  rfl

/-- A select without a window ends with its orderings, on every driver. -/
theorem suffix_forCount (table columns : String) (t : ConditionTree) (d : Driver) :
    let s := (fresh table columns).forCount t
    s.orderText ++ s.limitText d ++ s.offsetText = orderSuffix t.orderings := by
  rw [forCount_fresh]
  simp [orderText, orderSuffix, limitText, offsetText, skipped?]

theorem offsetText_of_offset (s : Select) (offset : UInt64) (given : s.offset = some offset) :
    s.offsetText = if 0 < offset then " OFFSET " ++ Decimal.ofNat offset.toNat else "" := by
  unfold offsetText skipped?
  rw [given]
  by_cases first : offset = 0
  · subst first
    rfl
  · have later : 0 < offset := UInt64.pos_iff_ne_zero.mpr first
    simp [Option.filter, first, later]

/-- MySQL's stand-in limit plays no part: a window with an offset has a limit of its own. -/
theorem suffix_forPage (table columns : String) (t : ConditionTree) (d : Driver) :
    let s := (fresh table columns).forPage t
    s.orderText ++ s.limitText d ++ s.offsetText =
      orderSuffix t.orderings ++ pagingSuffix t.window := by
  rw [forPage_fresh]
  rcases t.window with _ | _ | ⟨offset, limit⟩
  · simp [orderText, orderSuffix, limitText, offsetText, skipped?, pagingSuffix]
  · dsimp only
    rw [offsetText_of_offset _ 0 rfl]
    simp [orderText, orderSuffix, limitText, skipped?, Option.filter, Window.offset, Window.limit,
      pagingSuffix]
  · dsimp only
    rw [offsetText_of_offset _ offset rfl]
    simp [orderText, orderSuffix, limitText, Window.limit, pagingSuffix, String.append_assoc]

theorem filter_forCount (table columns : String) (t : ConditionTree) :
    ((fresh table columns).forCount t).joinPart ++ ((fresh table columns).forCount t).wherePart =
      t.filter := by
  rw [forCount_fresh]
  rfl

theorem filter_forPage (table columns : String) (t : ConditionTree) :
    ((fresh table columns).forPage t).joinPart ++ ((fresh table columns).forPage t).wherePart =
      t.filter := by
  rw [forPage_fresh]
  rfl

theorem head_forCount (table columns : String) (t : ConditionTree) (q : Query) :
    ((fresh table columns).forCount t).head q = (fresh table columns).head q := by
  rw [forCount_fresh]
  rfl

theorem head_forPage (table columns : String) (t : ConditionTree) (q : Query) :
    ((fresh table columns).forPage t).head q = (fresh table columns).head q := by
  rw [forPage_fresh]
  rfl

/-- One text of joins and conditions with one argument list serves the page, the count and the
unpaged rows. The orderings and the window only add a suffix, and the count has neither. -/
theorem rows_and_count_share_filter (t : ConditionTree) (d : Driver) (table columns : String) :
    let rows := "SELECT " ++ columns ++ " FROM " ++ table
    let shared := t.filter.render d
    ((fresh table columns).forPage t).sql d .rows =
        ⟨rows ++ shared.text ++ (orderSuffix t.orderings ++ pagingSuffix t.window), shared.args⟩ ∧
      ((fresh table columns).forCount t).sql d .count =
        ⟨"SELECT COUNT(*) FROM " ++ table ++ shared.text, shared.args⟩ ∧
      ((fresh table columns).forCount t).sql d .rows =
        ⟨rows ++ shared.text ++ orderSuffix t.orderings, shared.args⟩ ∧
      (t.window = none ↔ t.paging.page = none ∨ t.paging.size = none) := by
  refine ⟨?_, ?_, ?_, t.window_eq_none_iff⟩
  · unfold sql
    rw [statement_rows, head_forPage, filter_forPage, suffix_forPage]
    exact Statement.render_between d _ _ t.filter
  · unfold sql
    rw [statement_count, head_forCount, filter_forCount]
    rw [head, Statement.render_between, String.append_empty]
    rfl
  · unfold sql
    rw [statement_rows, head_forCount, filter_forCount, suffix_forCount]
    exact Statement.render_between d _ _ t.filter

/-- The second page of the users with an open order. -/
example :
    let t := ConditionTree.run {}
      [.join .left "LEFT JOIN orders ON orders.user_id = users.id"
          [.conjunct ⟨"orders.open = ?", [.bool true]⟩],
        .disjunct ⟨"users.admin = ?", [.bool true]⟩, .ordering "users.name ASC",
        .page "2", .size "20"]
    let shared := " FROM users LEFT JOIN orders ON orders.user_id = users.id" ++
      " WHERE orders.open = $1 OR users.admin = $2"
    let users := fresh "users" "*"
    ((users.forPage t).sql .postgres .rows).text =
        "SELECT *" ++ shared ++ " ORDER BY users.name ASC LIMIT 20 OFFSET 20" ∧
      ((users.forCount t).sql .postgres .count).text = "SELECT COUNT(*)" ++ shared := by
  decide +kernel

end Select

end FilterSql
