import FilterSql.Proofs.Condition.Run
import FilterSql.Proofs.Record.Calls
import FilterSql.Proofs.Record.Compiling
import FilterSql.Proofs.Record.Visits

/-!
# A joined record keeps to its scope

A record behind a join fills the scope of that join with what it would put into
the root scope of a tree of its own, and touches nothing else. Paging texts and
further joins inside it are lost.

Behind `joined_record_isolated` stands a comparison of two runs. Inside the join
the steps are run on a single scope, which takes from them what the root of a tree
would take (`run_walk_eq_root`), and a call that is not about that scope leaves it
alone (`run_call_idle`).
-/

namespace FilterSql

namespace Scope

theorem run_flatMap_congr {α : Type} {f g : α → List Step} (l : List α)
    (same : ∀ a ∈ l, ∀ s : Scope, s.run (f a) = s.run (g a)) (s : Scope) :
    s.run (l.flatMap f) = s.run (l.flatMap g) := by
  induction l generalizing s with
  | nil => rfl
  | cons a rest ih =>
    have later := ih fun b member => same b (List.mem_cons_of_mem a member)
    rw [List.flatMap_cons, List.flatMap_cons, run_append, run_append, same a List.mem_cons_self,
      later]

/-- Elements whose steps leave every scope alone can be left out. -/
theorem run_flatMap_filter {α : Type} {f : α → List Step} {p : α → Bool} (l : List α)
    (idle : ∀ a ∈ l, p a = false → ∀ s : Scope, s.run (f a) = s) (s : Scope) :
    s.run (l.flatMap f) = s.run ((l.filter p).flatMap f) := by
  induction l generalizing s with
  | nil => rfl
  | cons a rest ih =>
    have later := ih fun b member => idle b (List.mem_cons_of_mem a member)
    rw [List.flatMap_cons, run_append]
    cases kept : p a with
    | true => rw [List.filter_cons_of_pos kept, List.flatMap_cons, run_append, later]
    | false =>
      rw [idle a List.mem_cons_self kept, List.filter_cons_of_neg (by simp [kept]), later]

/-- A record field leaves the scope around it alone. -/
theorem run_visitJoin (s : Scope) (place : Place) (path : String) (m : FieldSpec) (zero : Bool)
    (inner : Outcome) : s.run (m.visitJoin place path zero inner).steps = s := by
  rcases m.visitJoin_steps place path zero inner with silent | ⟨l, _, _, _, opened⟩
  · rw [silent]
    rfl
  · rw [opened]
    rfl

end Scope

theorem FieldSpec.steps_visit_path (o : Options) (path path' : String) (m : FieldSpec)
    (content : Datum) : (m.visit o path content).steps = (m.visit o path' content).steps := by
  cases named : m.operator? with
  | none => rw [steps_visit_none named, steps_visit_none named]
  | some op =>
    obtain ⟨d, said, operator⟩ := Option.bind_eq_some_iff.mp named
    rw [steps_visit_some said operator, steps_visit_some said operator]

/-- Whether a call can matter to the scope it is made in: paging texts and joins cannot. -/
def Call.settles : Call → Bool
  | .field m _ => m.operator? != some .page && m.operator? != some .pageSize
  | .join .. => false
  | .condition (.page _) => false
  | .condition (.size _) => false
  | .condition (.join ..) => false
  | _ => true

namespace Record

/-- What a record adds to a scope does not depend on where it is walked. -/
theorem run_walk_place (r : Record) (o : Options) (s : Scope) (place place' : Place)
    (path path' : String) :
    s.run (r.walk o place path).steps = s.run (r.walk o place' path').steps := by
  rw [walk_eq_reached, walk_eq_reached]
  refine Scope.run_flatMap_congr _ (fun c among s => ?_) s
  rcases r.reached_kinds o.driver c among with ⟨m, x, rfl⟩ | ⟨m, inner, rfl⟩ | ⟨step, rfl⟩
  · rw [Call.walk, Call.walk, m.steps_visit_path o path path' x]
  · rw [Call.walk, Call.walk, Scope.run_visitJoin, Scope.run_visitJoin]
  · rfl

/-- What a record puts into an empty scope is its root scope when it is compiled by itself. -/
theorem run_walk_eq_root (r : Record) (o : Options) (place : Place) (path : String) :
    Scope.run {} (r.walk o place path).steps = (r.compiled o).tree.root := by
  rw [compiled, ConditionTree.run_root]
  exact r.run_walk_place o {} place .root path ""

/-- A paging text or a join changes nothing in the scope it is made in. -/
theorem run_call_idle {c : Call} (r : Record) (o : Options) (among : c ∈ r.reached o.driver)
    (idle : c.settles = false) (place : Place) (path : String) (s : Scope) :
    s.run (c.walk o place path).steps = s := by
  rcases r.reached_kinds o.driver c among with ⟨m, x, rfl⟩ | ⟨m, inner, rfl⟩ | ⟨step, rfl⟩
  · rw [Call.walk]
    rcases m.visit_steps o path x with silent | ⟨d, op, said, operator, _, written⟩
    · rw [silent]
      rfl
    · have named : m.operator? = some op := by rw [FieldSpec.operator?, said]; exact operator
      have paging : op = .page ∨ op = .pageSize := by
        apply Decidable.byContradiction
        intro neither
        obtain ⟨notPage, notSize⟩ := not_or.mp neither
        simp [Call.settles, named, notPage, notSize] at idle
      rw [written]
      rcases paging with rfl | rfl <;> rfl
  · rw [Call.walk, Scope.run_visitJoin]
  · cases step with
    | page | size | join => rfl
    | conjunct | disjunct | ordering => cases idle

/-- Records that differ in paging texts and joins only fill a scope alike. -/
theorem run_walk_settled {r s : Record} {o : Options}
    (settled : (s.reached o.driver).filter Call.settles = (r.reached o.driver).filter Call.settles)
    (scope : Scope) (place : Place) (path : String) :
    scope.run (s.walk o place path).steps = scope.run (r.walk o place path).steps := by
  have relevant (t : Record) :
      scope.run (t.walk o place path).steps =
        scope.run (((t.reached o.driver).filter Call.settles).flatMap
          fun c => (c.walk o place path).steps) := by
    rw [walk_eq_reached]
    exact Scope.run_flatMap_filter _
      (fun c among idle scope => run_call_idle t o among idle place path scope) scope
  rw [relevant, relevant, settled]

/-- A record with a single record field compiles to one join scope, filled with what the joined
record puts into a root scope of its own, if the directive describes a join and the joined record
is set. Otherwise it compiles to nothing. -/
theorem compiled_join (m : FieldSpec) (r : Record) (zero : Option Bool) (o : Options) :
    ((m.describesJoin && !r.isZero) = false ∧ ((made [.join m r] zero).compiled o).tree = {}) ∨
      ∃ l, m.joinRequest = .link l ∧ m.describesJoin = true ∧ r.isZero = false ∧
        ((made [.join m r] zero).compiled o).tree =
          { joins := [⟨.left, l.clause, (r.compiled o).tree.root⟩] } := by
  have walked : ((made [.join m r] zero).walk o .root "").steps =
      (m.visitJoin .root "" r.isZero (r.walk o .joined (m.innerPath ""))).steps :=
    List.append_nil _
  unfold compiled
  rw [walked]
  rcases m.steps_visitJoin_root "" r.isZero (r.walk o .joined (m.innerPath "")) with
    ⟨refused, silent⟩ | ⟨l, asked, described, set, opened⟩
  · rw [silent]
    exact Or.inl ⟨refused, rfl⟩
  · have scope := r.run_walk_eq_root o .joined (m.innerPath "")
    rw [compiled] at scope
    rw [opened, ← scope]
    exact Or.inr ⟨l, asked, described, set, rfl⟩

theorem compiled_join_settled {r s : Record} {o : Options} (sameZero : s.isZero = r.isZero)
    (settled : (s.reached o.driver).filter Call.settles = (r.reached o.driver).filter Call.settles)
    (m : FieldSpec) (zero : Option Bool) :
    ((made [.join m s] zero).compiled o).tree = ((made [.join m r] zero).compiled o).tree := by
  have root : (s.compiled o).tree.root = (r.compiled o).tree.root := by
    unfold compiled
    rw [ConditionTree.run_root, ConditionTree.run_root, run_walk_settled settled]
  rcases compiled_join m s zero o with ⟨closed, tree⟩ | ⟨l, asked, described, set, tree⟩ <;>
    rcases compiled_join m r zero o with ⟨closed', tree'⟩ | ⟨l', asked', described', set', tree'⟩
  · rw [tree, tree']
  · simp [sameZero, described', set'] at closed
  · simp [← sameZero, described, set] at closed'
  · obtain rfl := JoinRequest.link.inj (asked.symm.trans asked')
    rw [tree, tree', root]

/-- A joined record fills the one scope that its record field opens with what it compiles to in the
root scope by itself. Nothing else of it is left, and its paging texts and joins make no
difference. -/
theorem joined_record_isolated (m : FieldSpec) (r : Record) (zero : Option Bool) (d : Driver) :
    ∃ c own, (made [.join m r] zero).compile ⟨d, .lenient⟩ = .ok c ∧
      r.compile ⟨d, .lenient⟩ = .ok own ∧
      c.tree.root = {} ∧ c.tree.paging = {} ∧
      (m.describesJoin = false ∨ r.isZero = true → c.tree.joins = []) ∧
      (m.describesJoin = true → r.isZero = false →
        ∃ l, m.joinRequest = .link l ∧ c.tree.joins = [⟨.left, l.clause, own.tree.root⟩]) ∧
      ∀ s : Record, s.isZero = r.isZero →
        (s.reached d).filter Call.settles = (r.reached d).filter Call.settles →
        ∃ e, (made [.join m s] zero).compile ⟨d, .lenient⟩ = .ok e ∧ e.tree = c.tree := by
  refine ⟨_, _, compile_lenient _ d, compile_lenient _ d, ?_⟩
  have unaffected (s : Record) (sameZero : s.isZero = r.isZero)
      (settled : (s.reached d).filter Call.settles = (r.reached d).filter Call.settles) :
      ∃ e, (made [.join m s] zero).compile ⟨d, .lenient⟩ = .ok e ∧
        e.tree = ((made [.join m r] zero).compiled ⟨d, .lenient⟩).tree :=
    ⟨_, compile_lenient _ d, compiled_join_settled sameZero settled m zero⟩
  rcases compiled_join m r zero ⟨d, .lenient⟩ with ⟨closed, tree⟩ | ⟨l, asked, described, set, tree⟩
  · rw [tree] at unaffected ⊢
    refine ⟨rfl, rfl, fun _ => rfl, ?_, unaffected⟩
    intro described set
    simp [described, set] at closed
  · rw [tree] at unaffected ⊢
    refine ⟨rfl, rfl, ?_, fun _ _ => ⟨l, asked, rfl⟩, unaffected⟩
    rintro (rejected | unset)
    · simp [described] at rejected
    · simp [set] at unset

/-- Orders by total; with paging texts and a join of their own, or without. -/
def ordersByTotal (more : List Call) : Record :=
  .made
    [.flatten (.made more none),
      .field (.ofName "total" "type:gte;table:orders") (.signed 10),
      .condition (.disjunct ⟨"orders.paid = ?", [.bool true]⟩)]
    none

def pagingAndJoins : List Call :=
  [.field (.ofName "page" "page") (.signed 3),
    .condition (.size "30"),
    .join (.ofName "lines" "type:left;join:lines;on:order_id:id;table:orders")
      (.made [.field (.ofName "sku" "type:eq") (.text "A1")] none),
    .condition (.join .left "LEFT JOIN notes ON notes.order_id = orders.id"
      [.conjunct ⟨"notes.open = ?", [.bool true]⟩])]

/-- With or without page, size and inner joins the one scope holds the two conditions. -/
theorem ordersByTotal_joined :
    let m := FieldSpec.ofName "orders" "type:left;join:orders;on:user_id:id;table:users"
    ∃ c e, (made [.join m (ordersByTotal [])] none).compile ⟨.mysql, .lenient⟩ = .ok c ∧
      (made [.join m (ordersByTotal pagingAndJoins)] none).compile ⟨.mysql, .lenient⟩ = .ok e ∧
      e.tree = c.tree ∧ c.tree.root = {} ∧ c.tree.paging = {} ∧
      (∃ l own, m.joinRequest = .link l ∧
        (ordersByTotal []).compile ⟨.mysql, .lenient⟩ = .ok own ∧
        c.tree.joins = [⟨.left, l.clause, own.tree.root⟩]) ∧
      c.tree.joins.map (·.clause) = ["LEFT JOIN orders ON orders.user_id = users.id"] ∧
      c.tree.joins.map (·.scope.conjuncts.map (·.template)) = [["orders.total >= ?"]] ∧
      c.tree.joins.map (·.scope.disjuncts.map (·.template)) = [["orders.paid = ?"]] := by
  intro m
  obtain ⟨c, own, joined, alone, root, paging, -, opens, unaffected⟩ :=
    joined_record_isolated m (ordersByTotal []) none .mysql
  obtain ⟨l, asked, joins⟩ := opens (by decide +kernel) rfl
  obtain ⟨e, other, tree⟩ := unaffected (ordersByTotal pagingAndJoins) rfl (by rfl)
  refine ⟨c, e, joined, other, tree, root, paging, ⟨l, own, asked, alone, joins⟩, ?_⟩
  obtain rfl := eq_compiled_of_compile joined
  decide +kernel

end Record

end FilterSql
