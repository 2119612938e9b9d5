import Mathlib.Data.List.Forall2
import FilterSql.Proofs.Record.Calls
import FilterSql.Proofs.Record.Compiling
import FilterSql.Proofs.Record.FieldSteps

/-!
# Which fields set a condition, and which one

The predicates of a scope are those of the set fields of its record that compare
a column, one for each field and in the order of the visit, and the orderings
are those of its set order fields. What a field writes is what its operator
writes on the column that the directive names or the field falls back on.

`Record.conditions_match_fields` says so of the root and of every join scope. It
starts from what one visit adds (`conjuncts_visit`, `orderings_visit`) and rests
on the table of templates in `Operator.Writes`. The record may have no conditions
of its own, which could add any predicate.
-/

namespace FilterSql

namespace FieldSpec

/-- The field is set and compares a column; a range needs two bounds. -/
def filters (m : FieldSpec) (content : Datum) : Bool :=
  m.operator?.any fun op =>
    op.compares && !content.isZero &&
      (op != .between || decide (2 ≤ content.toValue.elements.length))

/-- The field is set, orders, and names a direction. -/
def sorts (m : FieldSpec) (content : Datum) : Bool :=
  m.operator? == some .order && !content.isZero &&
    (decide (Text.IsWord "asc" content.toValue.display) ||
      decide (Text.IsWord "desc" content.toValue.display))

def Writes (driver : Driver) (m : FieldSpec) (content : Datum) (p : Predicate) : Prop :=
  ∃ d op, m.descriptor? = some d ∧ d.operator = some op ∧
    op.Writes driver (m.target d) content.toValue p

/-- The ordering is by the field's column in the direction that the field's value names. -/
inductive Sorts (m : FieldSpec) (content : Datum) : String → Prop
  | ascending {d : Descriptor} (said : m.descriptor? = some d)
      (word : Text.IsWord "asc" content.toValue.display) : Sorts m content (m.target d ++ " ASC")
  | descending {d : Descriptor} (said : m.descriptor? = some d)
      (word : Text.IsWord "desc" content.toValue.display) : Sorts m content (m.target d ++ " DESC")

end FieldSpec

/-- The scope holds the conditions that the record's own fields set, and nothing else. -/
structure Scope.SetBy (driver : Driver) (r : Record) (s : Scope) : Prop where
  conjuncts : List.Forall₂ (fun f p => f.1.Writes driver f.2 p)
    ((r.fields driver).filter fun f => f.1.filters f.2) s.conjuncts
  disjuncts : s.disjuncts = []
  orderings : List.Forall₂ (fun f clause => f.1.Sorts f.2 clause)
    ((r.fields driver).filter fun f => f.1.sorts f.2) s.orderings

/-! ## One field -/

namespace FieldSpec

/-- A field adds one predicate if it filters, and none otherwise. -/
theorem conjuncts_visit (o : Options) (path : String) (m : FieldSpec) (content : Datum) :
    (m.filters content = true ∧ ∃ p, m.Writes o.driver content p ∧
        (m.visit o path content).steps.filterMap Step.conjunct? = [p]) ∨
      (m.filters content = false ∧
        (m.visit o path content).steps.filterMap Step.conjunct? = []) := by
  rcases m.visit_yields o path content with ⟨idle, steps⟩ | ⟨d, op, said, operator, named, set, yields⟩
  · refine Or.inr ⟨?_, by rw [steps]; rfl⟩
    rcases idle with unnamed | unset
    · simp [filters, unnamed]
    · cases named : m.operator? <;> simp [filters, named, unset]
  · generalize (m.visit o path content).steps = steps at yields
    cases yields with
    | predicate writes =>
      obtain ⟨compares, enough⟩ := writes.compares
      refine Or.inl ⟨?_, _, ⟨d, op, said, operator, writes⟩, rfl⟩
      by_cases range : op = .between
      · have two := enough range
        simp [filters, named, set, compares, two]
      · simp [filters, named, set, compares, range]
    | unbounded few =>
      refine Or.inr ⟨?_, rfl⟩
      simp [filters, named, set, few]
    | ascending | descending | undirected | page | size | nothing =>
      refine Or.inr ⟨?_, rfl⟩
      simp [filters, named, Operator.compares]

/-- A field adds one ordering if it sorts, and none otherwise. -/
theorem orderings_visit (o : Options) (path : String) (m : FieldSpec) (content : Datum) :
    (m.sorts content = true ∧ ∃ clause, m.Sorts content clause ∧
        (m.visit o path content).steps.filterMap Step.ordering? = [clause]) ∨
      (m.sorts content = false ∧
        (m.visit o path content).steps.filterMap Step.ordering? = []) := by
  rcases m.visit_yields o path content with ⟨idle, steps⟩ | ⟨d, op, said, operator, named, set, yields⟩
  · refine Or.inr ⟨?_, by rw [steps]; rfl⟩
    rcases idle with unnamed | unset
    · simp [sorts, unnamed]
    · simp [sorts, unset]
  · generalize (m.visit o path content).steps = steps at yields
    cases yields with
    | predicate writes =>
      have other : op ≠ .order := by
        rintro rfl
        exact absurd writes.compares.1 (by decide)
      exact Or.inr ⟨by simp [sorts, named, other], rfl⟩
    | ascending word => exact Or.inl ⟨by simp [sorts, named, set, word], _, .ascending said word, rfl⟩
    | descending word =>
      exact Or.inl ⟨by simp [sorts, named, set, word], _, .descending said word, rfl⟩
    | undirected notAsc notDesc => exact Or.inr ⟨by simp [sorts, notAsc, notDesc], rfl⟩
    | unbounded | page | size | nothing => exact Or.inr ⟨by simp [sorts, named], rfl⟩

end FieldSpec

/-! ## A whole walk -/

/-- Elements that contribute one entry each, related to the entries that they contribute. -/
theorem forall₂_filter_flatMap {α β : Type} {p : α → Bool} {f : α → List β} {R : α → β → Prop}
    (l : List α)
    (each : ∀ a ∈ l, (p a = true ∧ ∃ b, R a b ∧ f a = [b]) ∨ p a = false ∧ f a = []) :
    List.Forall₂ R (l.filter p) (l.flatMap f) := by
  induction l with
  | nil => exact .nil
  | cons a rest ih =>
    have later := ih fun b member => each b (List.mem_cons_of_mem a member)
    rw [List.flatMap_cons]
    rcases each a List.mem_cons_self with ⟨selected, b, related, entry⟩ | ⟨skipped, silent⟩
    · rw [List.filter_cons_of_pos selected, entry]
      exact .cons related later
    · rw [List.filter_cons_of_neg (by simp [skipped]), silent]
      exact later

theorem flatMap_eq_flatMap_filterMap {α β γ : Type} {f : α → List γ} {g : α → Option β}
    {h : β → List γ} (l : List α) (each : ∀ a ∈ l, f a = (g a).elim [] h) :
    l.flatMap f = (l.filterMap g).flatMap h := by
  induction l with
  | nil => rfl
  | cons a rest ih =>
    have later := ih fun b member => each b (List.mem_cons_of_mem a member)
    rw [List.flatMap_cons, each a List.mem_cons_self, later]
    cases selected : g a with
    | none => rw [List.filterMap_cons_none selected, Option.elim_none, List.nil_append]
    | some b => rw [List.filterMap_cons_some selected, Option.elim_some, List.flatMap_cons]

section
variable {r : Record} {o : Options} (own : ∀ step, Call.condition step ∉ r.reached o.driver)

include own

/-- What a walk adds to a list of its own scope comes from the fields, in their order. -/
theorem Record.filterMap_walk {α : Type} {read : Step → Option α}
    (skips : ∀ kind clause inner, read (.join kind clause inner) = none) (place : Place)
    (path : String) :
    (r.walk o place path).steps.filterMap read =
      (r.fields o.driver).flatMap fun f => (f.1.visit o path f.2).steps.filterMap read := by
  rw [walk_eq_reached, Outcome.ofCalls, List.filterMap_flatMap]
  apply flatMap_eq_flatMap_filterMap
  intro c among
  rcases r.reached_kinds o.driver c among with ⟨m, x, rfl⟩ | ⟨m, s, rfl⟩ | ⟨step, rfl⟩
  · rfl
  · exact FieldSpec.filterMap_visitJoin skips ..
  · exact absurd among (own step)

/-- The scopes that a walk opens come from the record fields, in their order. -/
theorem Record.scopes_walk (path : String) :
    (r.walk o .root path).steps.filterMap Step.scope? =
      (r.joins o.driver).flatMap fun f =>
        ((Call.join f.1 f.2).walk o .root path).steps.filterMap Step.scope? := by
  rw [walk_eq_reached, Outcome.ofCalls, List.filterMap_flatMap]
  apply flatMap_eq_flatMap_filterMap
  intro c among
  rcases r.reached_kinds o.driver c among with ⟨m, x, rfl⟩ | ⟨m, s, rfl⟩ | ⟨step, rfl⟩
  · exact m.scopes_visit o path x
  · rfl
  · exact absurd among (own step)

/-- The scope that a walk fills holds what the record's own fields set, wherever it is walked. -/
theorem Record.scope_setBy (place : Place) (path : String) :
    Scope.SetBy o.driver r (Scope.run {} (r.walk o place path).steps) := by
  rw [Scope.run_eq]
  constructor
  · dsimp only
    rw [List.nil_append, filterMap_walk own fun _ _ _ => rfl]
    exact forall₂_filter_flatMap _ fun f _ => f.1.conjuncts_visit o path f.2
  · dsimp only
    rw [List.nil_append, filterMap_walk own fun _ _ _ => rfl, List.flatMap_eq_nil_iff]
    exact fun f _ => f.1.disjuncts_visit o path f.2
  · dsimp only
    rw [List.nil_append, filterMap_walk own fun _ _ _ => rfl]
    exact forall₂_filter_flatMap _ fun f _ => f.1.orderings_visit o path f.2

end

section
variable {r : Record} {o : Options} (own : ∀ step, Call.condition step ∉ r.calls)

include own

/-- The scopes that a walk opens, each filled by the record it was opened for. -/
theorem Record.scopes_setBy (path : String) :
    List.Forall₂ (fun f j => Scope.SetBy o.driver f.2 j.scope)
      ((r.joins o.driver).filter fun f => f.1.describesJoin && !f.2.isZero)
      ((r.walk o .root path).steps.filterMap Step.scope?) := by
  rw [scopes_walk (no_condition_reached own)]
  apply forall₂_filter_flatMap
  rintro ⟨m, s⟩ among
  have inside := no_condition_joined own (mem_joins_iff.mp among)
  rw [Call.walk]
  rcases m.steps_visitJoin_root path s.isZero (s.walk o .joined (m.innerPath path)) with
    ⟨refused, silent⟩ | ⟨l, asked, described, set, opened⟩
  · rw [silent]
    exact Or.inr ⟨refused, rfl⟩
  · rw [opened]
    have filled : Scope.SetBy o.driver s (Scope.run {} (s.walk o .joined (m.innerPath path)).steps) :=
      scope_setBy (no_condition_reached inside) .joined (m.innerPath path)
    exact Or.inl ⟨by simp [described, set], _, filled, rfl⟩

end

/-- Without conditions of the record's own, the root scope holds exactly what the set fields at root
level write, one condition for each in the order of the visit, and so does each join scope for the
record it was opened for; the scopes are those of the set record fields that describe a join. -/
theorem Record.conditions_match_fields (r : Record) (o : Options)
    (own : ∀ step, Call.condition step ∉ r.calls) :
    (o.isStrict = false → ∃ c, r.compile o = .ok c) ∧
      ∀ c, r.compile o = .ok c →
        Scope.SetBy o.driver r c.tree.root ∧
        List.Forall₂ (fun f j => Scope.SetBy o.driver f.2 j.scope)
          ((r.joins o.driver).filter fun f => f.1.describesJoin && !f.2.isZero) c.tree.joins := by
  refine ⟨fun lenient => ⟨r.compiled o, by simp [compile, compiled, lenient]⟩, ?_⟩
  intro c success
  obtain rfl := eq_compiled_of_compile success
  constructor
  · rw [compiled, ConditionTree.run_root]
    exact scope_setBy (no_condition_reached own) .root ""
  · rw [compiled, ConditionTree.run_joins, List.nil_append]
    exact scopes_setBy own ""

/-- Users by name, by birth in some order, by deletion on Postgres, and by their orders. -/
def Record.usersOnPostgres : Record :=
  .made
    [.field (.ofName "name" "type:icontains;table:users") (.text "ann"),
      .field (.ofName "age" "type:gt") (.signed 0),
      .flatten (.held .optional (.made
        [.field (.ofName "born" "type:between;column:birth") (.sequence [.signed 1, .signed 9]),
          .field (.ofName "sort" "type:order;column:created") (.text "Desc")] none)),
      .whenDriver .postgres
        (.made [.field ⟨"gone", "deleted", "users", "type:isnull"⟩ (.present (.flag false))] none),
      .whenDriver .mysql (.made [.field (.ofName "id" "type:eq") (.signed 7)] none),
      .join (.ofName "orders" "type:left;join:orders;on:user_id:id;table:users")
        (.made [.field (.ofName "total" "type:gte;table:orders") (.signed 10)] none)]
    none

/-- The unset and the MySQL field leave no trace; the others follow each other in the order of the
visit. -/
theorem Record.usersOnPostgres_conditions :
    ∃ c, usersOnPostgres.compile ⟨.postgres, .lenient⟩ = .ok c ∧
      Scope.SetBy .postgres usersOnPostgres c.tree.root ∧
      c.tree.root.conjuncts.map (·.template) =
        ["users.name ILIKE ?", "birth BETWEEN ? AND ?", "users.deleted IS NOT NULL"] ∧
      c.tree.root.orderings = ["created DESC"] ∧
      c.tree.joins.map (·.scope.conjuncts.map (·.template)) = [["orders.total >= ?"]] := by
  have own : ∀ step, Call.condition step ∉ usersOnPostgres.calls := by
    intro step
    simp [usersOnPostgres, calls, Call.callsIn, Call.calls]
  obtain ⟨given, matched⟩ := conditions_match_fields usersOnPostgres ⟨.postgres, .lenient⟩ own
  obtain ⟨c, success⟩ := given rfl
  refine ⟨c, success, (matched c success).1, ?_⟩
  obtain rfl := eq_compiled_of_compile success
  decide +kernel

end FilterSql
