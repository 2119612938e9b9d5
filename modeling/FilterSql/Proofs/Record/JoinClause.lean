import FilterSql.Proofs.Condition.Run
import FilterSql.Proofs.Directive.Settings
import FilterSql.Proofs.Record.Calls
import FilterSql.Proofs.Record.Compiling
import FilterSql.Proofs.Record.FieldSteps

/-!
# Join scopes of record fields

A record field opens a scope only on a link whose joined table, joined column and
source table are named. The source column is the exception: an `on` whose second
value is empty counts as complete, so the clause may end in a bare dot. That is
the only way to open a scope on a link with a part missing.

`Record.join_scopes_named` has the rule with its exception, and
`Record.clause_of_blank_source` an instance of the exception. The requests of a
directive are decided in a fixed order: an unnamed part, then an unknown source
table, then the link (`FieldSpec.joinRequest_unnamed`,
`FieldSpec.joinRequest_unqualified`, `FieldSpec.joinRequest_linked`).
-/

namespace FilterSql

/-- The link that a directive describes, with an empty text where it says nothing. -/
def Descriptor.linkOf (d : Descriptor) (m : FieldSpec) : Link :=
  ⟨d.join, d.on.headD "", d.tableOf m, d.on.tail.headD ""⟩

/-- The source column is written and empty, as in `on:user_id:`. -/
def Descriptor.SourceLeftBlank (d : Descriptor) : Prop :=
  d.on.tail.head? = some ""

instance (d : Descriptor) : Decidable d.SourceLeftBlank :=
  inferInstanceAs (Decidable (_ = _))

/-- A part of the join is not named, where a source column that is left blank passes for named. -/
def Descriptor.Unnamed (d : Descriptor) (m : FieldSpec) : Prop :=
  (d.linkOf m).joined = "" ∨ (d.linkOf m).joinedColumn = "" ∨
    (d.linkOf m).sourceColumn = "" ∧ ¬ d.SourceLeftBlank

/-- A clause on a link with a source table. -/
theorem Link.clause_eq {l : Link} (source : l.source ≠ "") :
    l.clause =
      "LEFT JOIN " ++ l.joined ++ " ON " ++ l.joined ++ "." ++ l.joinedColumn ++ " = " ++
        l.source ++ "." ++ l.sourceColumn := by
  have named : ¬ l.source.isEmpty := by
    rw [String.isEmpty_iff]
    exact source
  have keyword : JoinKind.left.keyword ++ " " = "LEFT JOIN " := rfl
  rw [clause, qualify, if_neg named, keyword]
  simp only [String.append_assoc]

theorem FieldSpec.joinRequest_of_descriptor {m : FieldSpec} {d : Descriptor}
    (said : m.descriptor? = some d) : m.joinRequest = d.joinRequest m := by
  rw [joinRequest, said]
  rfl

theorem Descriptor.named_parts {d : Descriptor} {m : FieldSpec} (named : ¬ d.Unnamed m) :
    d.join.isEmpty = false ∧
      ∃ joinedColumn sourceColumn rest, d.on = joinedColumn :: sourceColumn :: rest := by
  unfold Unnamed linkOf SourceLeftBlank at named
  constructor
  · rw [← Bool.not_eq_true, String.isEmpty_iff]
    exact fun empty => named (Or.inl empty)
  · rcases columns : d.on with _ | ⟨joinedColumn, _ | ⟨sourceColumn, rest⟩⟩
    · rw [columns] at named
      exact absurd (Or.inr (Or.inl rfl)) named
    · rw [columns] at named
      exact absurd (Or.inr (Or.inr ⟨rfl, nofun⟩)) named
    · exact ⟨joinedColumn, sourceColumn, rest, rfl⟩

section
variable {m : FieldSpec} {d : Descriptor} (said : m.descriptor? = some d)
  (left : d.operator = some .left)

include said left

/-- A part without a name is looked for before the source table is. -/
theorem FieldSpec.joinRequest_unnamed (unnamed : d.Unnamed m) :
    m.joinRequest = .faulty .incompleteJoin := by
  have head := Directive.head_on_ne_empty said
  rw [joinRequest_of_descriptor said]
  unfold Descriptor.Unnamed Descriptor.linkOf Descriptor.SourceLeftBlank at unnamed
  simp only [Descriptor.joinRequest, left]
  rcases columns : d.on with _ | ⟨joinedColumn, _ | ⟨sourceColumn, rest⟩⟩
  · rfl
  · rfl
  -- With two values written only the table can be missing: no reading leaves the first one empty,
  -- and the second one counts whatever it says.
  · rw [columns] at head unnamed
    rcases unnamed with table | column | ⟨source, written⟩
    · dsimp only at table ⊢
      rw [table]
      rfl
    · exact absurd (congrArg some column) head
    · exact absurd (congrArg some source) written

theorem FieldSpec.joinRequest_unqualified (named : ¬ d.Unnamed m)
    (unqualified : (d.linkOf m).source = "") :
    m.joinRequest = .faulty .unqualifiedJoinSource := by
  obtain ⟨table, joinedColumn, sourceColumn, rest, columns⟩ := Descriptor.named_parts named
  have source : (d.tableOf m).isEmpty = true := String.isEmpty_iff.mpr unqualified
  rw [joinRequest_of_descriptor said]
  simp only [Descriptor.joinRequest, left, columns, table, source]
  rfl

/-- With all parts named the join is on the link that the directive describes. -/
theorem FieldSpec.joinRequest_linked (named : ¬ d.Unnamed m) (qualified : (d.linkOf m).source ≠ "") :
    m.joinRequest = .link (d.linkOf m) := by
  obtain ⟨table, joinedColumn, sourceColumn, rest, columns⟩ := Descriptor.named_parts named
  have source : (d.tableOf m).isEmpty = false := by
    rw [← Bool.not_eq_true, String.isEmpty_iff]
    exact qualified
  rw [joinRequest_of_descriptor said]
  simp only [Descriptor.joinRequest, Descriptor.linkOf, left, columns, table, source]
  rfl

end

/-- A record field that asks for a link asks for the one that its directive describes. -/
theorem FieldSpec.eq_linkOf_of_joinRequest {m : FieldSpec} {l : Link}
    (asked : m.joinRequest = .link l) :
    ∃ d, m.descriptor? = some d ∧ d.operator = some .left ∧ ¬ d.Unnamed m ∧
      (d.linkOf m).source ≠ "" ∧ l = d.linkOf m := by
  cases said : m.descriptor? with
  | none =>
    rw [joinRequest, said] at asked
    cases asked
  | some d =>
    have left : d.operator = some .left := by
      rw [joinRequest_of_descriptor said, Descriptor.joinRequest] at asked
      cases operator : d.operator with
      | none =>
        rw [operator] at asked
        cases asked
      | some op =>
        rw [operator] at asked
        cases op
        case left => rfl
        all_goals cases asked
    by_cases unnamed : d.Unnamed m
    · rw [joinRequest_unnamed said left unnamed] at asked
      cases asked
    · by_cases source : (d.linkOf m).source = ""
      · rw [joinRequest_unqualified said left unnamed source] at asked
        cases asked
      · rw [joinRequest_linked said left unnamed source] at asked
        exact ⟨d, rfl, left, unnamed, source, (JoinRequest.link.inj asked).symm⟩

theorem FieldSpec.visitJoin_faulty {m : FieldSpec} {p : Problem} (asked : m.joinRequest = .faulty p)
    (place : Place) (path : String) (zero : Bool) (inner : Outcome) :
    m.visitJoin place path zero inner = m.faults path ++ .problem (path ++ m.name) p := by
  rw [visitJoin_eq, asked]

/-- A set record behind such a directive opens one scope. -/
theorem FieldSpec.visitJoin_link {m : FieldSpec} {l : Link} (asked : m.joinRequest = .link l)
    (path : String) (inner : Outcome) :
    m.visitJoin .root path false inner =
      m.faults path ++ ⟨[.join .left l.clause inner.steps], inner.issues⟩ := by
  rw [visitJoin_eq, asked]

/-- The parts of a link that a directive describes completely, up to a blank source column. -/
theorem Descriptor.parts_of_named {d : Descriptor} {m : FieldSpec} (named : ¬ d.Unnamed m) :
    (d.linkOf m).joined ≠ "" ∧ (d.linkOf m).joinedColumn ≠ "" ∧
      ((d.linkOf m).sourceColumn = "" ↔ d.SourceLeftBlank) := by
  refine ⟨fun table => named (Or.inl table), fun column => named (Or.inr (Or.inl column)), ?_⟩
  constructor
  · intro source
    exact Decidable.byContradiction fun written => named (Or.inr (Or.inr ⟨source, written⟩))
  · intro blank
    unfold linkOf
    dsimp only
    rw [List.headD_eq_head?_getD, blank]
    rfl

/-- A join scope of a compiled tree is a condition of the record's own or was opened by a reached
record field that is set. -/
theorem Record.mem_joins_compiled {r : Record} {o : Options} {j : JoinScope}
    (opened : j ∈ (r.compiled o).tree.joins) :
    (∃ step, Call.condition step ∈ r.reached o.driver ∧ step.scope? = some j) ∨
      ∃ m s l, Call.join m s ∈ r.reached o.driver ∧ s.isZero = false ∧
        m.joinRequest = .link l ∧ j.clause = l.clause := by
  rw [compiled, ConditionTree.run_joins, List.nil_append, List.mem_filterMap] at opened
  obtain ⟨step, walked, opens⟩ := opened
  obtain ⟨c, among, yields⟩ := (r.mem_steps_walk o .root "" step).mp walked
  -- Only a record field or a condition of the record's own can have yielded a step with a scope.
  rcases r.reached_kinds o.driver c among with ⟨m, x, rfl⟩ | ⟨m, s, rfl⟩ | ⟨own, rfl⟩
  · rw [List.filterMap_eq_nil_iff.mp (m.scopes_visit o "" x) step yields] at opens
    cases opens
  · rw [Call.walk] at yields
    rcases m.visitJoin_steps .root "" s.isZero (s.walk o .joined (m.innerPath "")) with
      silent | ⟨l, asked, _, set, written⟩
    · rw [silent] at yields
      exact absurd yields List.not_mem_nil
    · rw [written] at yields
      rw [List.mem_singleton.mp yields] at opens
      obtain rfl := Option.some.inj opens
      exact Or.inr ⟨m, s, l, among, set, asked, rfl⟩
  · obtain rfl := List.mem_singleton.mp yields
    exact Or.inl ⟨step, among, opens⟩

/-- Every scope that a record field opens has the clause of the link that its directive describes,
with every part named unless the source column is left blank; a record field with another part
missing is reported and opens nothing, and one whose source column is left blank is not. -/
theorem Record.join_scopes_named (r : Record) (o : Options) :
    (∀ c, r.compile o = .ok c → ∀ j ∈ c.tree.joins,
      (∃ step, Call.condition step ∈ r.reached o.driver ∧ step.scope? = some j) ∨
      ∃ (m : FieldSpec) (s : Record) (d : Descriptor),
        Call.join m s ∈ r.reached o.driver ∧ s.isZero = false ∧ m.descriptor? = some d ∧
        d.operator = some .left ∧
        let l := d.linkOf m
        j.clause =
            "LEFT JOIN " ++ l.joined ++ " ON " ++ l.joined ++ "." ++ l.joinedColumn ++ " = " ++
              l.source ++ "." ++ l.sourceColumn ∧
          l.joined ≠ "" ∧ l.joinedColumn ≠ "" ∧ l.source ≠ "" ∧
          (l.sourceColumn = "" ↔ d.SourceLeftBlank)) ∧
    ∀ (m : FieldSpec) (d : Descriptor), m.descriptor? = some d → d.operator = some .left →
      let l := d.linkOf m
      let unnamed :=
        l.joined = "" ∨ l.joinedColumn = "" ∨ l.sourceColumn = "" ∧ ¬ d.SourceLeftBlank
      ∀ place path zero inner,
        (unnamed →
          m.visitJoin place path zero inner =
            m.faults path ++ .problem (path ++ m.name) .incompleteJoin) ∧
        (¬ unnamed → l.source = "" →
          m.visitJoin place path zero inner =
            m.faults path ++ .problem (path ++ m.name) .unqualifiedJoinSource) ∧
        (¬ unnamed → l.source ≠ "" →
          m.visitJoin .root path false inner =
            m.faults path ++ ⟨[.join .left l.clause inner.steps], inner.issues⟩) := by
  constructor
  · intro c success j opened
    obtain rfl := eq_compiled_of_compile success
    rcases mem_joins_compiled opened with own | ⟨m, s, l, among, set, asked, clause⟩
    · exact Or.inl own
    · obtain ⟨d, said, left, named, source, rfl⟩ := FieldSpec.eq_linkOf_of_joinRequest asked
      obtain ⟨joined, joinedColumn, sourceColumn⟩ := Descriptor.parts_of_named named
      refine Or.inr ⟨m, s, d, among, set, said, left, ?_, joined, joinedColumn, source, sourceColumn⟩
      rw [clause, Link.clause_eq source]
  · intro m d said left l unnamed place path zero inner
    refine ⟨?_, ?_, ?_⟩
    · intro missing
      exact FieldSpec.visitJoin_faulty (FieldSpec.joinRequest_unnamed said left missing) _ _ _ _
    · intro named unqualified
      have asked := FieldSpec.joinRequest_unqualified said left named unqualified
      exact FieldSpec.visitJoin_faulty asked _ _ _ _
    · intro named qualified
      exact FieldSpec.visitJoin_link (FieldSpec.joinRequest_linked said left named qualified) _ _

def Record.ordersJoinedBy (tag : String) : Record :=
  .made
    [.join (.ofName "orders" tag)
      (.made [.field (.ofName "total" "type:gte;table:orders") (.signed 10)] none)]
    none

/-- A strict compile accepts a clause that ends in a bare dot. -/
theorem Record.clause_of_blank_source :
    ∃ c, (ordersJoinedBy "type:left;join:orders;on:user_id:;table:users").compile ⟨.mysql, .strict⟩ =
        .ok c ∧
      c.issues = [] ∧
      c.tree.joins.map (·.clause) = ["LEFT JOIN orders ON orders.user_id = users."] := by
  refine ⟨(ordersJoinedBy "type:left;join:orders;on:user_id:;table:users").compiled ⟨.mysql, .strict⟩,
    rfl, ?_, ?_⟩
  · rfl
  · decide +kernel

/-- A complete directive, one without a source column, and one without a source table. -/
theorem Record.ordersJoinedBy_scopes :
    (∃ c, (ordersJoinedBy "type:left;join:orders;on:user_id:id;table:users").compile
          ⟨.mysql, .strict⟩ = .ok c ∧
      ∃ j ∈ c.tree.joins, ∃ (m : FieldSpec) (d : Descriptor), m.descriptor? = some d ∧
        (d.linkOf m).joined ≠ "" ∧ (d.linkOf m).joinedColumn ≠ "" ∧ (d.linkOf m).source ≠ "" ∧
        ((d.linkOf m).sourceColumn = "" ↔ d.SourceLeftBlank)) ∧
    (let m := FieldSpec.ofName "orders" "type:left;join:orders;on:user_id;table:users"
     m.visitJoin .root "" false {} = m.faults "" ++ .problem "orders" .incompleteJoin) ∧
    (let m := FieldSpec.ofName "orders" "type:left;join:orders;on:user_id:id"
     m.visitJoin .root "" true {} = m.faults "" ++ .problem "orders" .unqualifiedJoinSource) ∧
    (let m := FieldSpec.ofName "orders" "type:left;join:orders;on:user_id:id;table:users"
     m.visitJoin .root "" false {} =
       m.faults "" ++ ⟨[.join .left "LEFT JOIN orders ON orders.user_id = users.id" []], []⟩) := by
  have scopes := Record.join_scopes_named
    (ordersJoinedBy "type:left;join:orders;on:user_id:id;table:users") ⟨.mysql, .strict⟩
  refine ⟨?_, ?_, ?_, ?_⟩
  · refine ⟨_, rfl, _, List.mem_cons_self, ?_⟩
    rcases scopes.1 _ rfl _ List.mem_cons_self with ⟨step, own, _⟩ | ⟨m, s, d, _, _, said, _, _, parts⟩
    · exact absurd own (by simp [ordersJoinedBy, Record.reached, Call.reachedIn, Call.reached])
    · exact ⟨m, d, said, parts⟩
  · exact (scopes.2 _ _ rfl rfl .root "" false {}).1 (by decide +kernel)
  · exact (scopes.2 _ _ rfl rfl .root "" true {}).2.1 (by decide +kernel) (by decide +kernel)
  · have opens := scopes.2 (.ofName "orders" "type:left;join:orders;on:user_id:id;table:users") _
      rfl rfl .root "" false {}
    exact opens.2.2 (by decide +kernel) (by decide +kernel)

end FilterSql
