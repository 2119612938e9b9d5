import FilterSql.Proofs.Record.Compiling
import FilterSql.Proofs.Record.Likeness
import FilterSql.Proofs.Record.Visits

/-!
# Issues depend on directives only

Which issues a record compiles to is decided by names, directives and tables. A
zero record behind a join opens no scope but is walked as well, and it reports
what a set one reports. The exception is a join scope that no join field opened:
there a set record is refused before it is walked and a zero one is not, so the
walks compared here start elsewhere.

`Record.issues_independent_of_contents` is about lenient and strict compiles. It
compares two records call by call (`Likeness.upToContents`); the walks behind
joins are compared although only one of them may open a scope
(`issues_visitJoin_eq`).
-/

namespace FilterSql

/-- Fields that differ at most in the column they fall back on. -/
structure FieldSpec.SameDirective (m n : FieldSpec) : Prop where
  name : m.name = n.name
  table : m.table = n.table
  tag : m.tag = n.tag

/-- Equality of names, directives and tables. Contents, declared zeros and the conditions of a
record's own may be any. -/
def Likeness.upToContents : Likeness where
  field m _ n _ := m.SameDirective n
  join := FieldSpec.SameDirective
  step _ _ := True
  zero _ _ := True

namespace FieldSpec

/-- The content of a field decides nothing about its issues. -/
theorem issues_visit (o : Options) (path : String) (m : FieldSpec) (content : Datum) :
    (m.visit o path content).issues =
      (m.faults path).issues ++
        if m.operator? = some .left then [⟨path ++ m.name, .scalarJoin⟩] else [] := by
  have operator : m.operator? = m.descriptor?.bind (·.operator) := rfl
  rw [visit_eq, Outcome.issues_append, operator]
  cases said : m.descriptor? with
  | none => simp
  | some d =>
    cases named : d.operator with
    | none => simp [named]
    | some op =>
      by_cases left : op = .left
      · simp [named, left, Outcome.problem]
      · cases content.isZero <;> simp [named, left]

/-- Except in a detached scope, a zero record and a set one report the same. -/
theorem issues_visitJoin {place : Place} (attached : place ≠ .detached) (path : String)
    (m : FieldSpec) (zero : Bool) (inner : Outcome) :
    (m.visitJoin place path zero inner).issues =
      (m.faults path).issues ++
        match m.joinRequest with
        | .none => []
        | .faulty p => [⟨path ++ m.name, p⟩]
        | .link _ => if place = .joined then [⟨path ++ m.name, .nestedJoin⟩] else inner.issues := by
  rw [visitJoin_eq, Outcome.issues_append]
  cases m.joinRequest with
  | none => rfl
  | faulty p => rfl
  | link l =>
    cases place with
    | detached => exact absurd rfl attached
    | joined => rfl
    | root => cases zero <;> rfl

namespace SameDirective

variable {m n : FieldSpec} (same : m.SameDirective n)

include same

theorem faults_eq (path : String) : m.faults path = n.faults path := by
  rw [faults, faults, same.name, same.tag]

theorem descriptor?_eq : m.descriptor? = n.descriptor? := by
  rw [descriptor?, descriptor?, same.tag]

theorem joinRequest_eq : m.joinRequest = n.joinRequest := by
  have table (d : Descriptor) : d.tableOf m = d.tableOf n := by
    rw [Descriptor.tableOf, Descriptor.tableOf, same.table]
  have request (d : Descriptor) : d.joinRequest m = d.joinRequest n := by
    simp only [Descriptor.joinRequest, table]
  simp only [joinRequest, same.descriptor?_eq, request]

theorem issues_visit_eq (o : Options) (path : String) (x y : Datum) :
    (m.visit o path x).issues = (n.visit o path y).issues := by
  have operator : m.operator? = n.operator? := by
    rw [operator?, operator?, same.descriptor?_eq]
  rw [issues_visit, issues_visit, same.faults_eq, operator, same.name]

/-- Fields with one directive report alike, whether their records are zero or not. -/
theorem issues_visitJoin_eq {place : Place} (attached : place ≠ .detached) (path : String)
    (zero zero' : Bool) {inner inner' : Outcome} (within : inner.issues = inner'.issues) :
    (m.visitJoin place path zero inner).issues = (n.visitJoin place path zero' inner').issues := by
  rw [issues_visitJoin attached, issues_visitJoin attached, same.faults_eq, same.joinRequest_eq,
    same.name, within]

end SameDirective

end FieldSpec

/-- Names, directives and tables decide about all issues, except in a detached scope. -/
theorem Likeness.keepsAt_upToContents (o : Options) :
    upToContents.KeepsAt (· ≠ .detached) o fun a b => a.issues = b.issues where
  joined := by decide
  empty := rfl
  append := fun first second => by rw [Outcome.issues_append, Outcome.issues_append, first, second]
  field := fun same path => same.issues_visit_eq o path _ _
  join := by
    intro m n r s same inner within place attached path
    have innerPath : m.innerPath path = n.innerPath path := by
      rw [FieldSpec.innerPath, FieldSpec.innerPath, same.name]
    rw [Call.walk, Call.walk]
    apply same.issues_visitJoin_eq attached
    rw [innerPath]
    exact within _
  condition := fun _ => rfl

/-- Two records that agree on names, directives, tables, drivers and what is absent have the same
issues, so a strict compile refuses both or neither, and both for the same reasons. -/
theorem Record.issues_independent_of_contents {r s : Record}
    (alike : Record.Like .upToContents r s) (d : Driver) :
    (∃ c e, r.compile ⟨d, .lenient⟩ = .ok c ∧ s.compile ⟨d, .lenient⟩ = .ok e ∧
      c.issues = e.issues) ∧
    ((∃ c, r.compile ⟨d, .strict⟩ = .ok c) ↔ ∃ e, s.compile ⟨d, .strict⟩ = .ok e) ∧
    ∀ issues, r.compile ⟨d, .strict⟩ = .error issues ↔ s.compile ⟨d, .strict⟩ = .error issues := by
  have issues (o : Options) : (r.compiled o).issues = (s.compiled o).issues :=
    alike.walk_at (Likeness.keepsAt_upToContents o) (by decide) ""
  refine ⟨⟨_, _, r.compile_lenient d, s.compile_lenient d, issues _⟩, ?_, ?_⟩
  · rw [compile_strict_ok_iff, compile_strict_ok_iff, issues]
  · intro found
    rw [compile_strict_error_iff, compile_strict_error_iff, issues]

/-- Users with their orders, by an amount whose operator is misspelt, and a join inside that one. -/
def Record.misspeltOrders (columns : String) (total : Int64) (own : Step) (zero : Option Bool) :
    Record :=
  .made
    [.condition own,
      .join (.ofName "orders" "type:left;join:orders;on:user_id:id;table:users")
        (.held .optional (.made
          [.field ⟨"total", columns, "", "type:gtt;table:orders"⟩ (.signed total),
            .join (.ofName "lines" "type:left;join:lines;on:order_id:id;table:orders")
              (.made [] none)]
          zero))]
    none

/-- One of the two records opens a scope and the other does not, and both have the two issues. -/
theorem Record.misspeltOrders_refused :
    ∃ c e, (misspeltOrders "total" 10 (.page "3") none).compile ⟨.mysql, .lenient⟩ = .ok c ∧
      (misspeltOrders "sum" 7 (.ordering "id ASC") (some true)).compile ⟨.mysql, .lenient⟩ = .ok e ∧
      c.issues = e.issues ∧ c.tree.joins.length = 1 ∧ e.tree.joins.length = 0 ∧
      (misspeltOrders "sum" 7 (.ordering "id ASC") (some true)).compile ⟨.mysql, .strict⟩ =
        .error [⟨"orders.total", .directive (.unsupportedOperator "gtt")⟩,
          ⟨"orders.lines", .nestedJoin⟩] := by
  have alike : Record.Like .upToContents (misspeltOrders "total" 10 (.page "3") none)
      (misspeltOrders "sum" 7 (.ordering "id ASC") (some true)) := by
    refine .made (.cons (.condition trivial) (.cons (.join ⟨rfl, rfl, rfl⟩ (.held _ (.made (.cons
      (.field ⟨rfl, rfl, rfl⟩) (.cons (.join ⟨rfl, rfl, rfl⟩ (.made .nil trivial)) .nil))
      trivial))) .nil)) trivial
  obtain ⟨⟨c, e, first, second, issues⟩, -, refused⟩ := issues_independent_of_contents alike .mysql
  refine ⟨c, e, first, second, issues, ?_, ?_, (refused _).mp ?_⟩
  · obtain rfl := eq_compiled_of_compile first
    decide +kernel
  · obtain rfl := eq_compiled_of_compile second
    decide +kernel
  · rfl

end FilterSql
