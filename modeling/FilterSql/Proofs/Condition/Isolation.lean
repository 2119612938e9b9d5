import FilterSql.Proofs.Condition.Run

/-!
# Scopes are kept apart

What becomes of steps that nest to any depth. The root takes what stands at the
top, a join scope takes what stands directly inside its step, and a step that is
out of place inside a join is lost with everything in it, wherever it stands.

`scopes_kept_apart` states this for every list of steps, the root, the join scopes
and the paging texts in turn, and with it that a step which fills no scope can be
left out of a join (`run_misplaced`). The results that a step answers with are
covered as well: inside a join nothing is refused but another join
(`resultInJoin_eq_refused_iff`).
-/

namespace FilterSql

/-- What several steps put into the scope they stand in. -/
def Scope.ofSteps (steps : List Step) : Scope :=
  { conjuncts := steps.filterMap Step.conjunct?
    disjuncts := steps.filterMap Step.disjunct?
    orderings := steps.filterMap Step.ordering? }

namespace Step

/-- The join scope of a step that opens one: its clause and what stands directly inside. -/
def joinScope? : Step → Option JoinScope
  | .join kind clause inner => some ⟨kind, clause, .ofSteps inner⟩
  | _ => none

/-- Whether a step is about the lists of the scope it stands in. -/
def fillsScope : Step → Bool
  | .conjunct _ | .disjunct _ | .ordering _ => true
  | .page _ | .size _ | .join .. => false

def isJoin : Step → Bool
  | .join .. => true
  | _ => false

/-- Inside a join scope nothing is refused but another join. -/
theorem resultInJoin_eq_refused_iff (step : Step) :
    step.resultInJoin = .refused ↔ step.isJoin = true := by
  cases step <;> simp [resultInJoin, isJoin]

/-- The result of an inner step stands where the step stands. -/
theorem result_join_append (kind : JoinKind) (clause : String) (done : List Step) (step : Step)
    (pending : List Step) :
    (Step.join kind clause (done ++ step :: pending)).result =
      .opened (done.map resultInJoin ++ step.resultInJoin :: pending.map resultInJoin) := by
  rw [result, List.map_append, List.map_cons]

end Step

namespace Scope

theorem run_empty (steps : List Step) : run {} steps = ofSteps steps := by
  rw [run_eq, ofSteps]
  simp only [List.nil_append]

/-- A paging text or a join leaves the lists of the scope it stands in alone. -/
theorem add_misplaced {step : Step} (misplaced : step.fillsScope = false) (s : Scope) :
    s.add step = s := by
  cases step with
  | page | size | join => rfl
  | conjunct | disjunct | ordering => cases misplaced

/-- A misplaced step can be left out of a run, whatever was done before it and is done after it. -/
theorem run_misplaced {step : Step} (misplaced : step.fillsScope = false) (s : Scope)
    (done pending : List Step) : s.run (done ++ step :: pending) = s.run (done ++ pending) := by
  rw [run_append, run_append]
  change ((s.run done).add step).run pending = (s.run done).run pending
  rw [add_misplaced misplaced]

end Scope

theorem Step.scope?_eq_joinScope? : Step.scope? = Step.joinScope? := by
  funext step
  cases step with
  | join kind clause inner => simp only [scope?, joinScope?, JoinScope.run, Scope.run_empty]
  | conjunct | disjunct | ordering | page | size => rfl

namespace ConditionTree

/-- A tree sees of a join step only the scope that its inner steps come to. -/
theorem apply_join_congr {inner inner' : List Step}
    (same : ∀ s : Scope, s.run inner = s.run inner') (t : ConditionTree) (kind : JoinKind)
    (clause : String) : t.apply (.join kind clause inner) = t.apply (.join kind clause inner') := by
  simp only [apply, JoinScope.run, same]

/-- Inside a join scope such a step can be left out, wherever it stands. -/
theorem run_misplaced {step : Step} (misplaced : step.fillsScope = false) (t : ConditionTree)
    (before : List Step) (kind : JoinKind) (clause : String) (done pending after : List Step) :
    t.run (before ++ .join kind clause (done ++ step :: pending) :: after) =
      t.run (before ++ .join kind clause (done ++ pending) :: after) := by
  have opened (u : ConditionTree) :
      u.apply (.join kind clause (done ++ step :: pending)) =
        u.apply (.join kind clause (done ++ pending)) :=
    apply_join_congr (fun s => Scope.run_misplaced misplaced s done pending) u kind clause
  unfold run
  rw [List.foldl_append, List.foldl_append, List.foldl_cons, List.foldl_cons, opened]

/-- The tree after any steps. The root holds the conditions at the top in order, and there is one
join scope for each join step at the top, in order, that holds the conditions directly inside it in
order; further steps add scopes behind them only. The paging texts are the first ones at the top
that say something. Inside a join step, a join is the only step that is refused. It leaves no trace
in the scope it stands in or anywhere else, whatever its own steps are, and nor does a paging
text. -/
theorem scopes_kept_apart (steps : List Step) :
    (run {} steps).root = .ofSteps steps ∧
      (run {} steps).joins = steps.filterMap Step.joinScope? ∧
      (run {} steps).paging = ⟨steps.findSome? Step.page?, steps.findSome? Step.size?⟩ ∧
      (∀ more, (run {} steps).joins <+: (run {} (steps ++ more)).joins) ∧
      ∀ kind clause done step pending after,
        (∃ earlier result later,
          (Step.join kind clause (done ++ step :: pending)).result =
            .opened (earlier ++ result :: later) ∧
          earlier.length = done.length ∧ (result = .refused ↔ step.isJoin = true)) ∧
        (step.fillsScope = false →
          run {} (steps ++ .join kind clause (done ++ step :: pending) :: after) =
            run {} (steps ++ .join kind clause (done ++ pending) :: after)) := by
  have joins (steps : List Step) : (run {} steps).joins = steps.filterMap Step.joinScope? := by
    rw [run_joins, Step.scope?_eq_joinScope?]
    rfl
  refine ⟨?_, joins steps, ?_, ?_, ?_⟩
  · rw [run_root, ← Scope.run_empty]
  · rw [run_paging, Option.none_or, Option.none_or]
  · intro more
    rw [joins, joins, List.filterMap_append]
    exact List.prefix_append ..
  · intro kind clause done step pending after
    refine ⟨⟨_, _, _, Step.result_join_append .., List.length_map .., ?_⟩, ?_⟩
    · exact step.resultInJoin_eq_refused_iff
    · exact fun misplaced => run_misplaced misplaced {} steps kind clause done pending after

/-- Users with their orders; the orders hold a page and a join of their own. -/
def usersWithNotes : List Step :=
  [.conjunct ⟨"users.name = ?", [.text "ann"]⟩, .page "", .size "20"]

/-- The notes inside the orders are refused without a trace, and the page that counts is the root's.
-/
theorem usersWithNotes_kept_apart :
    let notes := Step.join .left "LEFT JOIN notes ON notes.order_id = orders.id"
      [.conjunct ⟨"notes.open = ?", [.bool true]⟩, .page "7"]
    let total := Step.conjunct ⟨"orders.total >= ?", [.int 10]⟩
    let clause := "LEFT JOIN orders ON orders.user_id = users.id"
    notes.fillsScope = false ∧
      run {} (usersWithNotes ++ [.join .left clause [.page "3", notes, total], .page "2"]) =
        run {} (usersWithNotes ++ [.join .left clause [.page "3", total], .page "2"]) ∧
      (run {} (usersWithNotes ++ [.join .left clause [.page "3", notes, total], .page "2"])).paging =
        ⟨some "2", some "20"⟩ ∧
      ∃ earlier result later,
        (Step.join .left clause [.page "3", notes, total]).result =
          .opened (earlier ++ result :: later) ∧
        earlier.length = 1 ∧ (result = .refused ↔ notes.isJoin = true) := by
  intro notes total clause
  obtain ⟨-, -, -, -, inside⟩ := scopes_kept_apart usersWithNotes
  obtain ⟨refused, traceless⟩ := inside .left clause [.page "3"] notes [total] [.page "2"]
  obtain ⟨-, -, paging, -⟩ :=
    scopes_kept_apart (usersWithNotes ++ [.join .left clause [.page "3", notes, total], .page "2"])
  exact ⟨rfl, traceless rfl, paging.trans (by decide), refused⟩

end ConditionTree

end FilterSql
