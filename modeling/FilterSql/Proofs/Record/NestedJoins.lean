import FilterSql.Proofs.Record.IssueIndependence
import FilterSql.Proofs.Record.JoinClause
import FilterSql.Proofs.Record.Scopes

/-!
# Joins do not nest

A walk goes through one record field at most. Inside a joined record a record
field that describes a join is reported and nothing else happens: no scope is
opened, and the record behind it is never looked at. So the paths of issues have
at most one record field in front, and what stands behind a nested join can be
anything.

`Record.joins_never_nest` is the main result. It lists the issues of nested joins
exactly (`nested_issues`), and it replaces what stands behind them by any other
record that is zero or not zero as well (`Record.SameUpToNested`).
-/

namespace FilterSql

def Call.spec? : Call → Option FieldSpec
  | .field m _ => some m
  | .join m _ => some m
  | _ => none

/-- The record fields that describe a join inside a joined record, each behind the record field that
it was reached through, in the order of the visit. -/
def Record.nestedJoins (d : Driver) (r : Record) : List (FieldSpec × FieldSpec) :=
  ((r.joins d).filter fun f => f.1.describesJoin).flatMap fun f =>
    ((f.2.joins d).filter fun g => g.1.describesJoin).map fun g => (f.1, g.1)

/-! ## One call -/

namespace FieldSpec

/-- A directive that describes no complete join is not refused as a nested one. -/
theorem faulty_ne_nestedJoin {m : FieldSpec} {p : Problem} (asked : m.joinRequest = .faulty p) :
    p ≠ .nestedJoin := by
  rcases joinRequest_faulty asked with rfl | rfl | ⟨_, d, rfl⟩ <;> nofun

theorem issues_faults (path : String) (m : FieldSpec) :
    ∀ i ∈ (m.faults path).issues, i.path = path ++ m.name ∧ i.problem ≠ .nestedJoin := by
  intro i member
  obtain ⟨fault, _, rfl⟩ := List.mem_map.mp member
  exact ⟨rfl, nofun⟩

/-- A field reports under its own name, and never a nested join. -/
theorem issues_of_visit (o : Options) (path : String) (m : FieldSpec) (content : Datum) :
    ∀ i ∈ (m.visit o path content).issues, i.path = path ++ m.name ∧ i.problem ≠ .nestedJoin := by
  intro i member
  rw [issues_visit] at member
  rcases List.mem_append.mp member with fault | own
  · exact m.issues_faults path i fault
  · split at own
    · obtain rfl := List.mem_singleton.mp own
      exact ⟨rfl, nofun⟩
    · exact absurd own List.not_mem_nil

/-- A record field that describes no join reports under its own name, and never a nested join. -/
theorem issues_of_undescribed {m : FieldSpec} (undescribed : m.describesJoin = false) {place : Place}
    (attached : place ≠ .detached) (path : String) (zero : Bool) (inner : Outcome) :
    ∀ i ∈ (m.visitJoin place path zero inner).issues,
      i.path = path ++ m.name ∧ i.problem ≠ .nestedJoin := by
  intro i member
  rw [issues_visitJoin attached] at member
  rcases List.mem_append.mp member with fault | own
  · exact m.issues_faults path i fault
  · cases asked : m.joinRequest with
    | none =>
      rw [asked] at own
      exact absurd own List.not_mem_nil
    | faulty p =>
      rw [asked] at own
      obtain rfl := List.mem_singleton.mp own
      exact ⟨rfl, faulty_ne_nestedJoin asked⟩
    | link l =>
      have described := m.describesJoin_iff.mpr ⟨l, asked⟩
      rw [undescribed] at described
      cases described

/-- A record field that describes a join reports what its record does, and inside a joined record
that the join is nested. -/
theorem issues_of_described {m : FieldSpec} (described : m.describesJoin = true) {place : Place}
    (attached : place ≠ .detached) (path : String) (zero : Bool) (inner : Outcome) :
    (m.visitJoin place path zero inner).issues =
      (m.faults path).issues ++
        if place = .joined then [⟨path ++ m.name, .nestedJoin⟩] else inner.issues := by
  obtain ⟨l, asked⟩ := m.describesJoin_iff.mp described
  rw [issues_visitJoin attached, asked]

/-- Inside a joined record nothing depends on the record behind a record field. -/
theorem visitJoin_joined (path : String) (m : FieldSpec) (zero zero' : Bool) (inner inner' : Outcome) :
    m.visitJoin .joined path zero inner = m.visitJoin .joined path zero' inner' := by
  rw [visitJoin_eq, visitJoin_eq]

/-- A faultless directive that describes a join comes to one issue inside a joined record. -/
theorem visitJoin_nested {m : FieldSpec} (described : m.describesJoin = true)
    (faultless : (Directive.read m.tag).faults = []) (path : String) (zero : Bool)
    (inner : Outcome) :
    m.visitJoin .joined path zero inner = .problem (path ++ m.name) .nestedJoin := by
  obtain ⟨l, asked⟩ := m.describesJoin_iff.mp described
  rw [visitJoin_eq, asked, faults, faultless]
  rfl

end FieldSpec

/-! ## A whole walk -/

namespace Record

/-- Inside a joined record every issue has the name of a reached field. -/
theorem path_of_issue_joined {o : Options} {path : String} {r : Record} {i : Issue}
    (reported : i ∈ (r.walk o .joined path).issues) :
    ∃ c ∈ r.reached o.driver, ∃ m, c.spec? = some m ∧ i.path = path ++ m.name := by
  obtain ⟨c, among, own⟩ := mem_issues_walk.mp reported
  refine ⟨c, among, ?_⟩
  rcases r.reached_kinds o.driver c among with ⟨m, x, rfl⟩ | ⟨m, s, rfl⟩ | ⟨step, rfl⟩
  · exact ⟨m, rfl, (m.issues_of_visit o path x i own).1⟩
  · refine ⟨m, rfl, ?_⟩
    rw [Call.walk] at own
    cases described : m.describesJoin with
    | false => exact (FieldSpec.issues_of_undescribed described (by decide) path _ _ i own).1
    | true =>
      rw [FieldSpec.issues_of_described described (by decide)] at own
      rcases List.mem_append.mp own with fault | nested
      · exact (m.issues_faults path i fault).1
      · obtain rfl := List.mem_singleton.mp nested
        rfl
  · exact absurd own List.not_mem_nil

/-- At the root an issue has the name of a reached field, or that of a field reached in a joined
record behind the name of its record field. -/
theorem path_of_issue {o : Options} {r : Record} {i : Issue}
    (reported : i ∈ (r.walk o .root "").issues) :
    (∃ c ∈ r.reached o.driver, ∃ m, c.spec? = some m ∧ i.path = m.name) ∨
      ∃ j s, Call.join j s ∈ r.reached o.driver ∧ j.describesJoin = true ∧
        ∃ c ∈ s.reached o.driver, ∃ m, c.spec? = some m ∧ i.path = j.name ++ "." ++ m.name := by
  obtain ⟨c, among, own⟩ := mem_issues_walk.mp reported
  rcases r.reached_kinds o.driver c among with ⟨m, x, rfl⟩ | ⟨m, s, rfl⟩ | ⟨step, rfl⟩
  · have path := (m.issues_of_visit o "" x i own).1
    rw [String.empty_append] at path
    exact Or.inl ⟨_, among, m, rfl, path⟩
  · rw [Call.walk] at own
    cases described : m.describesJoin with
    | false =>
      have path := (FieldSpec.issues_of_undescribed described (by decide) "" _ _ i own).1
      rw [String.empty_append] at path
      exact Or.inl ⟨_, among, m, rfl, path⟩
    | true =>
      rw [FieldSpec.issues_of_described described (by decide)] at own
      rcases List.mem_append.mp own with fault | inside
      · have path := (m.issues_faults "" i fault).1
        rw [String.empty_append] at path
        exact Or.inl ⟨_, among, m, rfl, path⟩
      · have front : m.innerPath "" = m.name ++ "." := by
          rw [FieldSpec.innerPath, String.empty_append]
        rw [front] at inside
        exact Or.inr ⟨m, s, among, described, path_of_issue_joined inside⟩
  · exact absurd own List.not_mem_nil

/-- The record fields of a record that describe a join. -/
theorem filter_joins (d : Driver) (r : Record) :
    ((r.joins d).filter fun f => f.1.describesJoin) =
      (r.reached d).filterMap fun c => c.join?.filter fun f => f.1.describesJoin := by
  rw [joins, List.filter_filterMap]

theorem nested_issues_visit (o : Options) (path : String) (m : FieldSpec) (content : Datum) :
    (m.visit o path content).issues.filter (·.problem = .nestedJoin) = [] := by
  rw [List.filter_eq_nil_iff]
  intro i member nested
  exact (m.issues_of_visit o path content i member).2 (of_decide_eq_true nested)

/-- The nested joins that a record field reports are those of its record, or itself inside a joined
record, provided that it describes a join. -/
theorem nested_issues_visitJoin {place : Place} (attached : place ≠ .detached) (path : String)
    (m : FieldSpec) (zero : Bool) (inner : Outcome) :
    (m.visitJoin place path zero inner).issues.filter (·.problem = .nestedJoin) =
      if m.describesJoin then
        if place = .joined then [⟨path ++ m.name, .nestedJoin⟩]
        else inner.issues.filter (·.problem = .nestedJoin)
      else [] := by
  cases described : m.describesJoin with
  | false =>
    rw [if_neg Bool.false_ne_true, List.filter_eq_nil_iff]
    intro i member nested
    exact (FieldSpec.issues_of_undescribed described attached path zero inner i member).2
      (of_decide_eq_true nested)
  | true =>
    have faults : (m.faults path).issues.filter (·.problem = .nestedJoin) = [] := by
      rw [List.filter_eq_nil_iff]
      intro i member nested
      exact (m.issues_faults path i member).2 (of_decide_eq_true nested)
    rw [if_pos rfl, FieldSpec.issues_of_described described attached, List.filter_append, faults,
      List.nil_append]
    split <;> rfl

/-- The nested joins that a joined record reports are its record fields that describe one. -/
theorem nested_issues_joined (o : Options) (path : String) (r : Record) :
    (r.walk o .joined path).issues.filter (·.problem = .nestedJoin) =
      ((r.joins o.driver).filter fun f => f.1.describesJoin).map fun f =>
        ⟨path ++ f.1.name, .nestedJoin⟩ := by
  rw [filter_joins, walk_eq_reached, Outcome.ofCalls, List.filter_flatMap, List.map_eq_flatMap]
  apply flatMap_eq_flatMap_filterMap
  intro c among
  rcases r.reached_kinds o.driver c among with ⟨m, x, rfl⟩ | ⟨m, s, rfl⟩ | ⟨step, rfl⟩
  · exact nested_issues_visit o path m x
  · rw [Call.walk, nested_issues_visitJoin (by decide), Call.join?]
    cases described : m.describesJoin <;> simp [Option.filter, described]
  · rfl

/-- The nested joins that a record reports are those inside its joined records, in their order. -/
theorem nested_issues (o : Options) (r : Record) :
    (r.walk o .root "").issues.filter (·.problem = .nestedJoin) =
      (r.nestedJoins o.driver).map fun (j, m) => ⟨j.name ++ "." ++ m.name, .nestedJoin⟩ := by
  rw [nestedJoins, List.map_flatMap, filter_joins, walk_eq_reached, Outcome.ofCalls,
    List.filter_flatMap]
  apply flatMap_eq_flatMap_filterMap
  intro c among
  rcases r.reached_kinds o.driver c among with ⟨m, x, rfl⟩ | ⟨m, s, rfl⟩ | ⟨step, rfl⟩
  · exact nested_issues_visit o "" m x
  · rw [Call.walk, nested_issues_visitJoin (by decide), Call.join?, nested_issues_joined,
      FieldSpec.innerPath, String.empty_append]
    cases described : m.describesJoin <;> simp [Option.filter, described]
  · rfl

end Record

/-! ## What is not visited -/

mutual

/-- Records that differ only in what stands behind the record fields of joined records, and there
agree on being zero. The flag says whether the records are joined themselves. -/
inductive Record.SameUpToNested : Bool → Record → Record → Prop
  | absent {joined : Bool} : Record.SameUpToNested joined .absent .absent
  | held {joined : Bool} (holder : Holder) {r s : Record} (inner : Record.SameUpToNested joined r s) :
      Record.SameUpToNested joined (.held holder r) (.held holder s)
  | made {joined : Bool} {cs ds : List Call} (zero : Option Bool)
      (calls : Call.AllSameUpToNested joined cs ds) :
      Record.SameUpToNested joined (.made cs zero) (.made ds zero)

inductive Call.SameUpToNested : Bool → Call → Call → Prop
  | field {joined : Bool} (m : FieldSpec) (content : Datum) :
      Call.SameUpToNested joined (.field m content) (.field m content)
  | join (m : FieldSpec) {r s : Record} (inner : Record.SameUpToNested true r s) :
      Call.SameUpToNested false (.join m r) (.join m s)
  | nested (m : FieldSpec) {r s : Record} (zero : r.isZero = s.isZero) :
      Call.SameUpToNested true (.join m r) (.join m s)
  | flatten {joined : Bool} {r s : Record} (inner : Record.SameUpToNested joined r s) :
      Call.SameUpToNested joined (.flatten r) (.flatten s)
  | condition {joined : Bool} (step : Step) :
      Call.SameUpToNested joined (.condition step) (.condition step)
  | whenDriver {joined : Bool} (d : Driver) {r s : Record}
      (inner : Record.SameUpToNested joined r s) :
      Call.SameUpToNested joined (.whenDriver d r) (.whenDriver d s)

inductive Call.AllSameUpToNested : Bool → List Call → List Call → Prop
  | nil {joined : Bool} : Call.AllSameUpToNested joined [] []
  | cons {joined : Bool} {c e : Call} {cs es : List Call} (head : Call.SameUpToNested joined c e)
      (rest : Call.AllSameUpToNested joined cs es) :
      Call.AllSameUpToNested joined (c :: cs) (e :: es)

end

mutual

theorem Record.SameUpToNested.isZero_eq :
    {joined : Bool} → {r s : Record} → Record.SameUpToNested joined r s → r.isZero = s.isZero
  | _, _, _, .absent => rfl
  | _, _, _, .held _ inner => inner.isZero_eq
  | _, _, _, .made (some _) _ => rfl
  | _, _, _, .made none calls => calls.allZero_eq

theorem Call.SameUpToNested.isZero_eq :
    {joined : Bool} → {c e : Call} → Call.SameUpToNested joined c e → c.isZero = e.isZero
  | _, _, _, .field _ _ => rfl
  | _, _, _, .join _ inner => inner.isZero_eq
  | _, _, _, .nested _ zero => zero
  | _, _, _, .flatten inner => inner.isZero_eq
  | _, _, _, .condition _ => rfl
  | _, _, _, .whenDriver _ inner => inner.isZero_eq

theorem Call.AllSameUpToNested.allZero_eq :
    {joined : Bool} → {cs es : List Call} → Call.AllSameUpToNested joined cs es →
      Record.allZero cs = Record.allZero es
  | _, _, _, .nil => rfl
  | _, _, _, .cons head rest => by
    rw [Record.allZero, Record.allZero, head.isZero_eq, rest.allZero_eq]

end

mutual

/-- What stands behind a nested join makes no difference to a walk. -/
theorem Record.SameUpToNested.walk_eq (o : Options) :
    {joined : Bool} → {r s : Record} → Record.SameUpToNested joined r s →
      ∀ place path, (joined = true → place = .joined) → r.walk o place path = s.walk o place path
  | _, _, _, .absent => fun _ _ _ => rfl
  | _, _, _, .held _ inner => inner.walk_eq o
  | _, _, _, .made _ calls => calls.walkAll_eq o

theorem Call.SameUpToNested.walk_eq (o : Options) :
    {joined : Bool} → {c e : Call} → Call.SameUpToNested joined c e →
      ∀ place path, (joined = true → place = .joined) → c.walk o place path = e.walk o place path
  | _, _, _, .field _ _ => fun _ _ _ => rfl
  | _, _, _, .join m inner => fun place path _ => by
    rw [Call.walk, Call.walk, inner.isZero_eq, inner.walk_eq o .joined _ fun _ => rfl]
  | _, _, _, .nested m _ => fun place path inside => by
    rw [inside rfl, Call.walk, Call.walk]
    exact m.visitJoin_joined path ..
  | _, _, _, .flatten inner => inner.walk_eq o
  | _, _, _, .condition _ => fun _ _ _ => rfl
  | _, _, _, .whenDriver d inner => fun place path inside => by
    rw [Call.walk, Call.walk, inner.walk_eq o place path inside]

theorem Call.AllSameUpToNested.walkAll_eq (o : Options) :
    {joined : Bool} → {cs es : List Call} → Call.AllSameUpToNested joined cs es →
      ∀ place path, (joined = true → place = .joined) →
        Record.walkAll o place path cs = Record.walkAll o place path es
  | _, _, _, .nil => fun _ _ _ => rfl
  | _, _, _, .cons head rest => fun place path inside => by
    rw [Record.walkAll, Record.walkAll, head.walk_eq o place path inside,
      rest.walkAll_eq o place path inside]

end

/-- The scopes of a tree are those of the set record fields that describe a join and of the record's
own joins at root level, in the order of the visit. An issue names a field at root level, or one of a
joined record behind the one record field that leads to it. Joins inside joined records are each
reported once, in the order of the visit, and do nothing else; what stands behind them can be
replaced by anything that is zero or not as it was. -/
theorem Record.joins_never_nest (r : Record) (d : Driver) :
    ∃ c, r.compile ⟨d, .lenient⟩ = .ok c ∧
      List.Forall₂ (Call.Opens d) ((r.reached d).filter Call.opens) c.tree.joins ∧
      (∀ i ∈ c.issues,
        (∃ e ∈ r.reached d, ∃ m, e.spec? = some m ∧ i.path = m.name) ∨
          ∃ j s, Call.join j s ∈ r.reached d ∧ j.describesJoin = true ∧
            ∃ e ∈ s.reached d, ∃ m, e.spec? = some m ∧ i.path = j.name ++ "." ++ m.name) ∧
      c.issues.filter (·.problem = .nestedJoin) =
        (r.nestedJoins d).map (fun (j, m) => ⟨j.name ++ "." ++ m.name, .nestedJoin⟩) ∧
      (∀ m t path, m.describesJoin = true → (Directive.read m.tag).faults = [] →
        (Call.join m t).walk ⟨d, .lenient⟩ .joined path =
          .problem (path ++ m.name) .nestedJoin) ∧
      ∀ s, Record.SameUpToNested false r s → s.compile ⟨d, .lenient⟩ = .ok c := by
  refine ⟨_, r.compile_lenient d, r.joins_opened d, fun i => path_of_issue,
    r.nested_issues ⟨d, .lenient⟩, ?_, ?_⟩
  · intro m t path described faultless
    rw [Call.walk]
    exact FieldSpec.visitJoin_nested described faultless path ..
  · intro s same
    have walked := same.walk_eq ⟨d, .lenient⟩ .root "" nofun
    rw [s.compile_lenient d, compiled, compiled, walked]

/-- Users with their orders, the lines of an order behind a join inside that one, and notes. -/
def Record.ordersWithLines (lines : Record) : Record :=
  .made
    [.flatten (.made
        [.join (.ofName "orders" "type:left;join:orders;on:user_id:id;table:users")
          (.held .optional (.made
            [.field (.ofName "total" "type:gte;table:orders") (.signed 10),
              .join (.ofName "lines" "type:left;join:lines;on:order_id:id;table:orders") lines]
            none))]
        none),
      .condition (.join .left "LEFT JOIN notes ON notes.user_id = users.id" [])]
    none

/-- The lines are reported once, whatever their record holds. -/
theorem Record.ordersWithLines_joins :
    ∃ c, (ordersWithLines .absent).compile ⟨.mysql, .lenient⟩ = .ok c ∧
      (ordersWithLines (.made [.field (.ofName "sku" "type:sku") (.text "")] none)).compile
        ⟨.mysql, .lenient⟩ = .ok c ∧
      c.tree.joins.map (·.clause) =
        ["LEFT JOIN orders ON orders.user_id = users.id",
          "LEFT JOIN notes ON notes.user_id = users.id"] ∧
      c.issues.filter (·.problem = .nestedJoin) = [⟨"orders.lines", .nestedJoin⟩] ∧
      (Call.join (.ofName "lines" "type:left;join:lines;on:order_id:id;table:orders") .absent).walk
          ⟨.mysql, .lenient⟩ .joined "orders." =
        .problem "orders.lines" .nestedJoin := by
  obtain ⟨c, success, -, -, nested, once, unvisited⟩ :=
    joins_never_nest (ordersWithLines .absent) .mysql
  refine ⟨c, success, unvisited _ ?_, ?_, nested, ?_⟩
  · exact .made _ (.cons (.flatten (.made _ (.cons (.join _ (.held _ (.made _ (.cons (.field _ _)
      (.cons (.nested _ rfl) .nil))))) .nil))) (.cons (.condition _) .nil))
  · obtain rfl := eq_compiled_of_compile success
    decide +kernel
  · exact once _ _ "orders." (by decide +kernel) (by decide +kernel)

end FilterSql
