import FilterSql.Record.Walk

/-!
# What one visit can do

The outcome of a field or of a record field, as one equation over what its
directive says. A directive that excludes the field and one that names no
operator come to the same, so both are absent descriptors or requests here.

`visit_eq` and `visitJoin_eq` are these equations, and `visit_steps` and
`visitJoin_steps` invert them: a field yields the steps of its operator or none,
and a record field opens one scope or none. Later modules use these and do not
open the definitions again.
-/

namespace FilterSql

def Directive.descriptor? : Directive → Option Descriptor
  | .excluded => none
  | .search d => some d

namespace FieldSpec

def descriptor? (m : FieldSpec) : Option Descriptor :=
  (Directive.read m.tag).directive.descriptor?

def operator? (m : FieldSpec) : Option Operator :=
  m.descriptor?.bind (·.operator)

/-- The join that a record field asks for, nothing if it is excluded. -/
def joinRequest (m : FieldSpec) : JoinRequest :=
  m.descriptor?.elim .none (·.joinRequest m)

def faults (path : String) (m : FieldSpec) : Outcome :=
  Outcome.faults (path ++ m.name) (Directive.read m.tag).faults

/-- A visit comes to the faults of the directive and what its operator yields for a set content. -/
theorem visit_eq (o : Options) (path : String) (m : FieldSpec) (content : Datum) :
    m.visit o path content =
      m.faults path ++
        match m.descriptor? with
        | none => {}
        | some d =>
          match d.operator with
          | none => {}
          | some .left => .problem (path ++ m.name) .scalarJoin
          | some op =>
            if content.isZero then {}
            else ⟨op.steps o.driver (d.columnOf m) content.toValue, []⟩ := by
  unfold visit faults descriptor?
  dsimp only
  cases (Directive.read m.tag).directive with
  | excluded => rfl
  | search d => rfl

/-- Only a field with an operator of its own looks at its content. -/
theorem visit_cases (o : Options) (path : String) (m : FieldSpec) :
    (∃ outcome : Outcome, outcome.steps = [] ∧ ∀ content, m.visit o path content = outcome) ∨
      ∃ d op, m.descriptor? = some d ∧ d.operator = some op ∧ op ≠ .left ∧
        ∀ content, m.visit o path content =
          m.faults path ++
            if content.isZero then {}
            else ⟨op.steps o.driver (d.columnOf m) content.toValue, []⟩ := by
  cases said : m.descriptor? with
  | none =>
    refine Or.inl ⟨m.faults path ++ {}, rfl, fun content => ?_⟩
    rw [visit_eq, said]
  | some d =>
    cases named : d.operator with
    | none =>
      refine Or.inl ⟨m.faults path ++ {}, rfl, fun content => ?_⟩
      rw [visit_eq, said]
      simp only [named]
    | some op =>
      by_cases joins : op = .left
      · refine Or.inl ⟨m.faults path ++ .problem (path ++ m.name) .scalarJoin, rfl, fun content => ?_⟩
        rw [visit_eq, said]
        simp only [named, joins]
      · refine Or.inr ⟨d, op, rfl, named, joins, fun content => ?_⟩
        rw [visit_eq, said]
        simp only [named]

theorem visitJoin_eq (place : Place) (path : String) (m : FieldSpec) (zero : Bool)
    (inner : Outcome) :
    m.visitJoin place path zero inner =
      m.faults path ++
        match m.joinRequest with
        | .none => {}
        | .faulty p => .problem (path ++ m.name) p
        | .link l =>
          match place, zero with
          | .joined, _ => .problem (path ++ m.name) .nestedJoin
          | _, true => inner.issuesOnly
          | .detached, false => .problem (path ++ m.name) .nestedJoin
          | .root, false => ⟨[.join .left l.clause inner.steps], inner.issues⟩ := by
  unfold visitJoin faults joinRequest descriptor?
  dsimp only
  cases (Directive.read m.tag).directive with
  | excluded => rfl
  | search d => rfl

/-- A field without an operator yields no step. -/
theorem steps_visit_none {m : FieldSpec} (unnamed : m.operator? = none) (o : Options) (path : String)
    (content : Datum) : (m.visit o path content).steps = [] := by
  rw [visit_eq, Outcome.steps_append]
  cases said : m.descriptor? with
  | none => rfl
  | some d =>
    have operator : d.operator = none := by
      rw [operator?, said] at unnamed
      exact unnamed
    simp only [operator]
    rfl

/-- A field with an operator yields the steps of that operator once it is set. -/
theorem steps_visit_some {m : FieldSpec} {d : Descriptor} {op : Operator}
    (said : m.descriptor? = some d) (named : d.operator = some op) (o : Options) (path : String)
    (content : Datum) :
    (m.visit o path content).steps =
      if content.isZero then [] else op.steps o.driver (d.columnOf m) content.toValue := by
  rw [visit_eq, Outcome.steps_append, said]
  by_cases left : op = .left
  · simp [named, left, Operator.steps, Outcome.problem, faults, Outcome.faults]
  · cases content.isZero <;> simp [named, faults, Outcome.faults]

/-- A set field yields the steps of its operator, any other field none. -/
theorem visit_steps (o : Options) (path : String) (m : FieldSpec) (content : Datum) :
    (m.visit o path content).steps = [] ∨
      ∃ d op, m.descriptor? = some d ∧ d.operator = some op ∧ content.isZero = false ∧
        (m.visit o path content).steps =
          op.steps o.driver (d.columnOf m) content.toValue := by
  rcases m.visit_cases o path with ⟨outcome, silent, visited⟩ | ⟨d, op, said, named, _, visited⟩
  · rw [visited]
    exact Or.inl silent
  · rw [visited]
    cases unset : content.isZero with
    | true => exact Or.inl rfl
    | false => exact Or.inr ⟨d, op, said, named, rfl, rfl⟩

/-- A record field opens a scope only at the root, only for a set record and only on a link. -/
theorem visitJoin_steps (place : Place) (path : String) (m : FieldSpec) (zero : Bool)
    (inner : Outcome) :
    (m.visitJoin place path zero inner).steps = [] ∨
      ∃ l, m.joinRequest = .link l ∧ place = .root ∧ zero = false ∧
        (m.visitJoin place path zero inner).steps = [.join .left l.clause inner.steps] := by
  rw [visitJoin_eq]
  cases asked : m.joinRequest with
  | none => exact Or.inl rfl
  | faulty p => exact Or.inl rfl
  | link l =>
    cases place <;> cases zero
    case root.false => exact Or.inr ⟨l, rfl, rfl, rfl, rfl⟩
    all_goals exact Or.inl rfl

/-- A record field yields nothing but scopes. -/
theorem filterMap_visitJoin {α : Type} {read : Step → Option α}
    (passes : ∀ kind clause inner, read (.join kind clause inner) = none) (place : Place)
    (path : String) (m : FieldSpec) (zero : Bool) (inner : Outcome) :
    (m.visitJoin place path zero inner).steps.filterMap read = [] := by
  rcases m.visitJoin_steps place path zero inner with silent | ⟨l, _, _, _, opened⟩
  · rw [silent]
    rfl
  · rw [opened, List.filterMap_cons_none (passes ..)]
    rfl

/-- What a directive of a record field can be reported for: an incomplete join, or none at all. -/
theorem joinRequest_faulty {m : FieldSpec} {p : Problem} (asked : m.joinRequest = .faulty p) :
    p = .incompleteJoin ∨ p = .unqualifiedJoinSource ∨
      m.operator? ≠ some .left ∧ ∃ d : Descriptor, p = .notAJoin d.kind := by
  unfold joinRequest at asked
  unfold operator?
  cases said : m.descriptor? with
  | none => simp [said] at asked
  | some d =>
    rw [said, Option.elim_some, Descriptor.joinRequest] at asked
    cases named : d.operator with
    | none => simp [named] at asked
    | some op =>
      by_cases left : op = .left
      · simp only [named, left] at asked
        split at asked
        · split at asked
          · exact Or.inl (JoinRequest.faulty.inj asked).symm
          · split at asked
            · exact Or.inr (Or.inl (JoinRequest.faulty.inj asked).symm)
            · cases asked
        · exact Or.inl (JoinRequest.faulty.inj asked).symm
      · refine Or.inr (Or.inr ⟨by simp [named, left], d, ?_⟩)
        simpa [named, left, eq_comm] using asked

/-- The directive names a table to join and both columns, and the source table is known. -/
def describesJoin (m : FieldSpec) : Bool :=
  m.descriptor?.any fun d =>
    d.operator == some .left && !d.join.isEmpty && decide (2 ≤ d.on.length) &&
      !(d.tableOf m).isEmpty

/-- The directive describes a join exactly if the request for one has a link. -/
theorem describesJoin_iff (m : FieldSpec) :
    m.describesJoin = true ↔ ∃ l, m.joinRequest = .link l := by
  unfold describesJoin joinRequest
  cases m.descriptor? with
  | none => simp
  | some d =>
    rw [Option.any_some, Option.elim_some]
    unfold Descriptor.joinRequest
    cases d.operator with
    | none => simp
    | some op =>
      by_cases left : op = .left
      · rcases d.on with _ | ⟨joinedColumn, _ | ⟨sourceColumn, rest⟩⟩
        · simp [left]
        · simp [left]
        · cases table : d.join.isEmpty <;> cases source : (d.tableOf m).isEmpty <;>
            simp [left]
      · simp [left]

/-- At the root a set record whose directive describes a join opens a scope, any other none. -/
theorem steps_visitJoin_root (path : String) (m : FieldSpec) (zero : Bool) (inner : Outcome) :
    ((m.describesJoin && !zero) = false ∧ (m.visitJoin .root path zero inner).steps = []) ∨
      ∃ l, m.joinRequest = .link l ∧ m.describesJoin = true ∧ zero = false ∧
        (m.visitJoin .root path zero inner).steps = [.join .left l.clause inner.steps] := by
  have described := m.describesJoin_iff
  rw [visitJoin_eq, Outcome.steps_append]
  cases asked : m.joinRequest with
  | none => simp_all [faults, Outcome.faults]
  | faulty p => simp_all [Outcome.problem, faults, Outcome.faults]
  | link l =>
    have joins : m.describesJoin = true := described.mpr ⟨l, asked⟩
    cases zero with
    | true => exact Or.inl ⟨by simp, rfl⟩
    | false => exact Or.inr ⟨l, rfl, joins, rfl, rfl⟩

end FieldSpec

end FilterSql
