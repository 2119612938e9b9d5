import FilterSql.Condition.Step

/-!
# What a run of steps leaves behind

The lists of a scope and the join scopes of a tree after a run, in closed form:
each is extended by what the steps contribute to it, in order, and no step reads
what an earlier one wrote.

The closed forms are `Scope.run_eq` for the lists of a scope, `run_joins` for the
join scopes and `run_paging` for the paging texts, which are the first ones
offered. `mem_predicates_of_run` bounds the predicates of a tree by those written
in the steps, at any depth.
-/

namespace FilterSql

namespace Step

/-- The predicate a step adds to the `AND` list of its scope. -/
def conjunct? : Step → Option Predicate
  | .conjunct p => some p
  | _ => none

/-- The predicate a step adds to the `OR` list of its scope. -/
def disjunct? : Step → Option Predicate
  | .disjunct p => some p
  | _ => none

def ordering? : Step → Option String
  | .ordering clause => some clause
  | _ => none

/-- The join scope a step opens at the root, with the inner steps carried out. -/
def scope? : Step → Option JoinScope
  | .join kind clause inner => some (JoinScope.run ⟨kind, clause, {}⟩ inner)
  | _ => none

def page? : Step → Option String
  | .page text => if text.isEmpty then none else some text
  | _ => none

def size? : Step → Option String
  | .size text => if text.isEmpty then none else some text
  | _ => none

mutual

/-- The predicates written in a step, at any depth. -/
def predicates : Step → List Predicate
  | .conjunct p => [p]
  | .disjunct p => [p]
  | .ordering _ => []
  | .page _ => []
  | .size _ => []
  | .join _ _ inner => predicatesIn inner

/-- The predicates written in several steps, at any depth. -/
def predicatesIn : List Step → List Predicate
  | [] => []
  | step :: rest => step.predicates ++ predicatesIn rest

end

theorem predicatesIn_eq (steps : List Step) :
    predicatesIn steps = steps.flatMap predicates := by
  induction steps with
  | nil => rfl
  | cons step rest ih => rw [predicatesIn, ih, List.flatMap_cons]

theorem mem_predicates_of_conjunct? {s : Step} {p : Predicate} (adds : s.conjunct? = some p) :
    p ∈ s.predicates := by
  cases s <;> simp_all [conjunct?, predicates]

theorem mem_predicates_of_disjunct? {s : Step} {p : Predicate} (adds : s.disjunct? = some p) :
    p ∈ s.predicates := by
  cases s <;> simp_all [disjunct?, predicates]

end Step

/-- Each list of a scope grows by what the steps say about it, in order. -/
theorem Scope.run_eq (s : Scope) (steps : List Step) :
    s.run steps =
      { conjuncts := s.conjuncts ++ steps.filterMap Step.conjunct?
        disjuncts := s.disjuncts ++ steps.filterMap Step.disjunct?
        orderings := s.orderings ++ steps.filterMap Step.ordering? } := by
  induction steps generalizing s with
  | nil => simp [Scope.run]
  | cons step rest ih =>
    change (s.add step).run rest = _
    rw [ih]
    cases step <;>
      simp [Scope.add, Step.conjunct?, Step.disjunct?, Step.ordering?, List.filterMap_cons]

theorem Scope.run_append (s : Scope) (as bs : List Step) : s.run (as ++ bs) = (s.run as).run bs :=
  List.foldl_append

def Scope.predicates (s : Scope) : List Predicate :=
  s.conjuncts ++ s.disjuncts

/-- A predicate of the scope was there before or is written in a step. -/
theorem Scope.mem_predicates_of_run {s : Scope} {steps : List Step} {p : Predicate}
    (member : p ∈ (s.run steps).predicates) :
    p ∈ s.predicates ∨ ∃ step ∈ steps, p ∈ step.predicates := by
  rw [Scope.run_eq] at member
  simp only [Scope.predicates, List.mem_append, List.mem_filterMap] at member ⊢
  rcases member with (old | ⟨step, among, adds⟩) | (old | ⟨step, among, adds⟩)
  · exact Or.inl (Or.inl old)
  · exact Or.inr ⟨step, among, Step.mem_predicates_of_conjunct? adds⟩
  · exact Or.inl (Or.inr old)
  · exact Or.inr ⟨step, among, Step.mem_predicates_of_disjunct? adds⟩

/-- An offer counts for a slot that is unset, and only if it says something. -/
theorem PageInput.offer_eq (slot : Option String) (s : String) :
    offer slot s = slot.or (if s.isEmpty then none else some s) := by
  unfold offer takes
  cases slot with
  | none => cases s.isEmpty <;> rfl
  | some said => rfl

namespace ConditionTree

/-- The root scope is run like any other scope. -/
theorem run_root (t : ConditionTree) (steps : List Step) :
    (t.run steps).root = t.root.run steps := by
  induction steps generalizing t with
  | nil => rfl
  | cons step rest ih =>
    change ((t.apply step).run rest).root = (t.root.add step).run rest
    rw [ih]
    cases step <;> rfl

/-- Join scopes are opened in the order of the steps. -/
theorem run_joins (t : ConditionTree) (steps : List Step) :
    (t.run steps).joins = t.joins ++ steps.filterMap Step.scope? := by
  induction steps generalizing t with
  | nil => simp [run]
  | cons step rest ih =>
    change ((t.apply step).run rest).joins = _
    rw [ih]
    cases step <;> simp [apply, Step.scope?, List.filterMap_cons]

/-- A paging text that was set stays; otherwise the first step that offers one sets it. -/
theorem run_paging (t : ConditionTree) (steps : List Step) :
    (t.run steps).paging =
      { page := t.paging.page.or (steps.findSome? Step.page?)
        size := t.paging.size.or (steps.findSome? Step.size?) } := by
  induction steps generalizing t with
  | nil => simp [run]
  | cons step rest ih =>
    have first (offers : Step → Option String) :
        (step :: rest).findSome? offers = (offers step).or (rest.findSome? offers) := by
      cases offered : offers step <;> simp [offered]
    change ((t.apply step).run rest).paging = _
    rw [ih, first, first]
    cases step <;>
      simp [apply, PageInput.setPage, PageInput.setSize, PageInput.offer_eq, Step.page?, Step.size?,
        Option.or_assoc]

/-- The predicates of a tree: scope by scope, the root last. -/
def predicates (t : ConditionTree) : List Predicate :=
  t.joins.flatMap (·.scope.predicates) ++ t.root.predicates

/-- A run adds no predicate that is not written in one of its steps. -/
theorem mem_predicates_of_run {steps : List Step} {p : Predicate}
    (member : p ∈ (ConditionTree.run {} steps).predicates) :
    ∃ step ∈ steps, p ∈ step.predicates := by
  simp only [predicates, run_joins, run_root, List.nil_append, List.mem_append,
    List.mem_flatMap, List.mem_filterMap] at member
  rcases member with ⟨scope, ⟨step, among, opens⟩, inside⟩ | inside
  · cases step with
    | join kind clause inner =>
      obtain rfl := Option.some.inj opens
      rcases Scope.mem_predicates_of_run inside with old | ⟨inner', within, written⟩
      · exact absurd old List.not_mem_nil
      · refine ⟨.join kind clause inner, among, ?_⟩
        rw [Step.predicates, Step.predicatesIn_eq]
        exact List.mem_flatMap.mpr ⟨inner', within, written⟩
    | conjunct | disjunct | ordering | page | size => cases opens
  · rcases Scope.mem_predicates_of_run inside with old | found
    · exact absurd old List.not_mem_nil
    · exact found

end ConditionTree

end FilterSql
