import FilterSql.Proofs.Select.Replay

/-!
# Trees that change no query

Each list of a tree extends a list of the select it is replayed on, and a window
sets offset and limit. So a select stays as it was only if the tree adds nothing
to its lists and its window, if there is one, is set already. A tree without a
window that adds nothing is empty, and only such a tree makes no call.

`isEmpty_iff_changes_nothing` quantifies over all selects. Whether a given select
changes is a finer question, answered by `forPage_eq_self_iff`: a window that asks
for all rows changes a select that has a limit and leaves its text alone
otherwise.
-/

namespace FilterSql

theorem Scope.calls_eq_nil_iff (s : Scope) : s.calls = [] ↔ s.isEmpty = true := by
  simp only [calls, isEmpty, List.append_eq_nil_iff, List.map_eq_nil_iff, Bool.and_eq_true,
    List.isEmpty_iff]

theorem Scope.adds_nothing_iff (s : Scope) :
    s.tied = [] ∧ s.orderings = [] ↔ s.isEmpty = true := by
  simp only [tied, isEmpty, List.append_eq_nil_iff, List.map_eq_nil_iff, Bool.and_eq_true,
    List.isEmpty_iff]

namespace ConditionTree

variable (t : ConditionTree)

/-- The flag in parts: no join scope, nothing at the root, and no window. -/
theorem isEmpty_iff :
    t.isEmpty = true ↔ (t.joins = [] ∧ t.root.isEmpty = true) ∧ t.window = none := by
  simp only [isEmpty, Bool.and_eq_true, List.isEmpty_iff, Option.isNone_iff_eq_none]
  exact and_congr_left' and_comm

/-- A join scope makes a call of its own, so that its conditions need not be looked at. -/
theorem countCalls_eq_nil_iff : t.countCalls = [] ↔ t.joins = [] ∧ t.root.isEmpty = true := by
  rw [countCalls, List.append_eq_nil_iff, Scope.calls_eq_nil_iff]
  apply and_congr_left'
  cases t.joins <;> simp [JoinScope.calls]

theorem pageCalls_eq_nil_iff : t.pageCalls = [] ↔ t.isEmpty = true := by
  rw [pageCalls, List.append_eq_nil_iff, countCalls_eq_nil_iff, isEmpty_iff]
  apply and_congr_right'
  cases t.window <;> simp [Window.calls]

/-- What a tree adds to the lists of a select is nothing if it has no join scopes and nothing at its
root. -/
theorem adds_nothing_iff :
    t.clauses = [] ∧ t.tied = [] ∧ t.orderings = [] ↔ t.joins = [] ∧ t.root.isEmpty = true := by
  rw [clauses, List.map_eq_nil_iff]
  apply and_congr_right
  intro joinless
  rw [tied, orderings, joinless, ← Scope.adds_nothing_iff]
  simp only [List.flatMap_nil, List.nil_append]

end ConditionTree

namespace Select

variable (s : Select) (t : ConditionTree)

/-- A select stays as it was in a count replay if the tree adds nothing to its lists. -/
theorem forCount_eq_self_iff :
    s.forCount t = s ↔ t.joins = [] ∧ t.root.isEmpty = true := by
  rw [forCount_eq, ← t.adds_nothing_iff]
  obtain ⟨table, columns, joins, predicates, orderings, offset, limit⟩ := s
  simp

/-- A select stays as it was if the tree adds nothing to it and sets no window but its own. -/
theorem forPage_eq_self_iff :
    s.forPage t = s ↔
      (t.joins = [] ∧ t.root.isEmpty = true) ∧
        ∀ w ∈ t.window, s.offset = some w.offset ∧ s.limit = w.limit := by
  rw [forPage_eq]
  cases t.window with
  | none => simp [forCount_eq_self_iff]
  | some w =>
    rw [← t.adds_nothing_iff, forCount_eq]
    obtain ⟨table, columns, joins, predicates, orderings, offset, limit⟩ := s
    simp [and_assoc, eq_comm (a := w.limit), eq_comm (a := some w.offset)]

end Select

namespace ConditionTree

/-- A tree is empty exactly when its paged replay makes no call, and exactly when that replay leaves
every select as it was. A page or a page size alone leaves it empty. A window does not, and neither
does one that asks for all rows. -/
theorem isEmpty_iff_changes_nothing (t : ConditionTree) :
    (t.isEmpty = true ↔ t.pageCalls = []) ∧
      (t.isEmpty = true ↔ ∀ s : Select, s.forPage t = s) ∧
      (∀ text : String,
        ({ paging := { page := some text } } : ConditionTree).isEmpty = true ∧
          ({ paging := { size := some text } } : ConditionTree).isEmpty = true) ∧
      (t.window = some .unbounded → t.isEmpty = false) := by
  refine ⟨t.pageCalls_eq_nil_iff.symm, ⟨?_, ?_⟩, fun text => ⟨rfl, rfl⟩, ?_⟩
  · intro empty s
    obtain ⟨nothing, windowless⟩ := t.isEmpty_iff.mp empty
    refine (s.forPage_eq_self_iff t).mpr ⟨nothing, ?_⟩
    simp [windowless]
  · intro unchanged
    -- a select without an offset shows every window
    obtain ⟨nothing, set⟩ := (Select.forPage_eq_self_iff _ t).mp (unchanged (.ofTable ""))
    refine t.isEmpty_iff.mpr ⟨nothing, ?_⟩
    cases window : t.window with
    | none => rfl
    | some w => cases (set w window).1
  · intro window
    simp [isEmpty, window]

/-- All rows are asked for: a select without a limit reads the same, one with a limit loses it. -/
theorem allRows_not_empty :
    let allRows : ConditionTree := { paging := ⟨some "4", some "-1"⟩ }
    let users := Select.ofTable "users"
    allRows.window = some .unbounded ∧ allRows.isEmpty = false ∧
      (users.forPage allRows).sql .mysql .rows = users.sql .mysql .rows ∧
      (({ users with limit := some 10 }).forPage allRows).limit = none := by
  intro allRows users
  have window : allRows.window = some .unbounded := by decide +kernel
  obtain ⟨-, -, -, unbounded⟩ := isEmpty_iff_changes_nothing allRows
  exact ⟨window, unbounded window, rfl, by decide +kernel⟩

end ConditionTree

end FilterSql
