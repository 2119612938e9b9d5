import Mathlib.Data.List.Basic
import FilterSql.Proofs.Select.Replay
import FilterSql.Proofs.Statement.Placeholders
import FilterSql.Proofs.Condition.Run

/-!
# Arguments of a select

Only predicates contribute arguments to a statement, in call order. If no text
of the select holds a `?` and its predicates are balanced, then the statement
holds no `?` of its own and every `?` of the spelled text is a placeholder.

`count_sql_text` counts the placeholders of a query and `args_sql_of_tied` lists
its arguments. Tables, clauses and orderings may not hold a `?`, which would read
as a placeholder without an argument.
-/

namespace FilterSql

open Text (Plain plain_append)

theorem Text.plain_intercalate {separator : String} (plain : Plain separator) {ss : List String}
    (each : ∀ s ∈ ss, Plain s) : Plain (separator.intercalate ss) := by
  induction ss with
  | nil =>
    rw [String.intercalate_nil]
    decide
  | cons s rest ih =>
    have later := ih fun t member => each t (List.mem_cons_of_mem _ member)
    have first := each s List.mem_cons_self
    cases rest with
    | nil => rwa [String.intercalate_singleton]
    | cons t rest =>
      rw [String.intercalate_cons_cons]
      exact plain_append.mpr ⟨plain_append.mpr ⟨first, plain⟩, later⟩

theorem Statement.openMarks_flatMap {α : Type} {xs : List α} {f : α → Statement}
    (each : ∀ x ∈ xs, openMarks (f x) = 0) : openMarks (xs.flatMap f) = 0 := by
  induction xs with
  | nil => rfl
  | cons x rest ih =>
    rw [List.flatMap_cons, openMarks_append, each x List.mem_cons_self,
      ih fun y member => each y (List.mem_cons_of_mem _ member)]

theorem Statement.openMarks_plain {s : String} (plain : Plain s) : openMarks (ofText s) = 0 := by
  rw [openMarks_ofText, plain.count_eq_zero]

theorem ConditionTree.tied_predicates (t : ConditionTree) :
    t.tied.map Prod.snd = t.predicates := by
  have scope : ∀ s : Scope, s.tied.map Prod.snd = s.predicates := by
    intro s
    simp [Scope.tied, Scope.predicates, Function.comp_def]
  simp only [tied, predicates, List.map_append, List.map_flatMap, scope]

theorem ConditionTree.balanced_tied (t : ConditionTree)
    (balanced : ∀ p ∈ t.predicates, p.Balanced) : ∀ p ∈ t.tied, p.2.Balanced := by
  intro p member
  apply balanced
  rw [← t.tied_predicates]
  exact List.mem_map_of_mem member

namespace Select

theorem args_furtherPredicates (ps : List (Connective × Predicate)) :
    (furtherPredicates ps).args = ps.flatMap fun p => p.2.statement.args := by
  unfold furtherPredicates
  rw [Statement.args_flatMap]
  simp only [Statement.args_append, Statement.args_ofText, List.nil_append]

/-- The arguments of a query are those of its predicates, in call order. -/
theorem args_statement (s : Select) (d : Driver) (q : Query) :
    (s.statement d q).args = s.predicates.flatMap fun p => p.2.statement.args := by
  have head : (s.head q).args = [] := by cases q <;> exact Statement.args_ofText _
  have joins : s.joinPart.args = [] := by
    rw [joinPart, Statement.args_flatMap]
    simp
  have conditions : s.wherePart.args = s.predicates.flatMap fun p => p.2.statement.args := by
    unfold wherePart
    cases s.predicates with
    | nil => rfl
    | cons first rest =>
      simp only [Statement.args_append, Statement.args_ofText, args_furtherPredicates,
        List.nil_append, List.flatMap_cons]
  unfold statement
  cases q with
  | rows => simp [head, joins, conditions]
  | count => simp [head, joins, conditions]

/-- No text that the select was given holds a `?`, other than in its predicates. -/
structure PlainTexts (s : Select) : Prop where
  table : Plain s.table
  columns : Plain s.columns
  joins : ∀ clause ∈ s.joins, Plain clause
  orderings : ∀ clause ∈ s.orderings, Plain clause

theorem plain_limitText (s : Select) (d : Driver) : Plain (s.limitText d) := by
  unfold limitText
  cases s.limit with
  | some rows => exact plain_append.mpr ⟨by decide, Text.plain_ofNat _⟩
  | none =>
    dsimp only
    split
    · exact plain_append.mpr ⟨by decide, Text.plain_ofNat _⟩
    · decide

theorem plain_offsetText (s : Select) : Plain s.offsetText := by
  unfold offsetText
  cases s.skipped? with
  | some rows => exact plain_append.mpr ⟨by decide, Text.plain_ofNat _⟩
  | none => decide

theorem PlainTexts.orderText {s : Select} (texts : s.PlainTexts) : Plain s.orderText := by
  unfold Select.orderText
  split
  · decide
  · exact plain_append.mpr ⟨by decide, Text.plain_intercalate (by decide) texts.orderings⟩

/-- Balanced predicates leave no `?` open in the `WHERE` clause. -/
theorem openMarks_wherePart {s : Select} (balanced : ∀ p ∈ s.predicates, p.2.Balanced) :
    s.wherePart.openMarks = 0 := by
  unfold wherePart
  cases given : s.predicates with
  | nil => rfl
  | cons first rest =>
    rw [given] at balanced
    have further : (furtherPredicates rest).openMarks = 0 := by
      apply Statement.openMarks_flatMap
      intro p member
      have connective : Plain p.1.text := by cases p.1 <;> decide
      rw [Statement.openMarks_append, Statement.openMarks_plain connective,
        (balanced p (List.mem_cons_of_mem _ member)).openMarks_statement]
    have opening : Plain " WHERE " := by decide
    simp only [Statement.openMarks_append, Statement.openMarks_plain opening,
      (balanced first List.mem_cons_self).openMarks_statement, further]

/-- With plain texts and balanced predicates nothing but an argument is written as `?`. -/
theorem openMarks_statement {s : Select} (texts : s.PlainTexts)
    (balanced : ∀ p ∈ s.predicates, p.2.Balanced) (d : Driver) (q : Query) :
    (s.statement d q).openMarks = 0 := by
  have head : (s.head q).openMarks = 0 := by
    cases q with
    | rows =>
      apply Statement.openMarks_plain
      simp only [plain_append]
      exact ⟨⟨⟨by decide, texts.columns⟩, by decide⟩, texts.table⟩
    | count =>
      apply Statement.openMarks_plain
      exact plain_append.mpr ⟨by decide, texts.table⟩
  have joins : s.joinPart.openMarks = 0 :=
    Statement.openMarks_flatMap fun clause member =>
      Statement.openMarks_plain (plain_append.mpr ⟨by decide, texts.joins clause member⟩)
  have suffix : Plain (s.orderText ++ s.limitText d ++ s.offsetText) :=
    plain_append.mpr ⟨plain_append.mpr ⟨texts.orderText, s.plain_limitText d⟩, s.plain_offsetText⟩
  unfold statement
  cases q with
  | rows =>
    simp only [Statement.openMarks_append, head, joins, openMarks_wherePart balanced,
      Statement.openMarks_plain suffix]
  | count =>
    simp [head, joins, openMarks_wherePart balanced]

/-- The `?` of a query are its placeholders: none on Postgres, one for each argument elsewhere. -/
theorem count_sql_text {s : Select} (texts : s.PlainTexts)
    (balanced : ∀ p ∈ s.predicates, p.2.Balanced) (d : Driver) (q : Query) :
    (s.sql d q).text.toList.count '?' = d.marks * (s.sql d q).args.length := by
  unfold sql Statement.render
  rw [String.toList_ofList, Statement.count_spell, openMarks_statement texts balanced,
    Nat.zero_add]

/-- A select whose predicates are those of a tree binds the scalars of the tree. -/
theorem args_sql_of_tied {s : Select} {t : ConditionTree} (replayed : s.predicates = t.tied)
    (balanced : ∀ p ∈ t.predicates, p.Balanced) (d : Driver) (q : Query) :
    (s.sql d q).args = t.predicates.flatMap Predicate.scalars := by
  change (s.statement d q).args = _
  rw [args_statement, replayed, ← t.tied_predicates, List.flatMap_map]
  apply List.flatMap_congr
  intro p member
  exact (t.balanced_tied balanced p member).args_statement

end Select

end FilterSql
