import FilterSql.Derive.Instance
import FilterSql.Proofs.Derive.Classification
import FilterSql.Proofs.Record.Compiling
import FilterSql.Proofs.Record.IssueIndependence

/-!
# Derived records fit their directives

A directive is read twice: when a record is derived, for the kind of the field,
and when the record is walked. Both readings agree, so a derived record never
joins a content and never searches a record without a join, whatever the
directives say. Fields that take no part leave no trace in the record.

`IsDerived.placed` is the statement over all depths, for records whose parts are
derived as well. `record_follows_classification` adds what a single record does:
its calls in declaration order, when it is zero, and what it does not depend on.
-/

namespace FilterSql

/-- Whether a directive belongs to the other kind of field: a join on a content, or something else
on a record. -/
def Problem.isMisplaced : Problem → Bool
  | .scalarJoin | .notAJoin _ => true
  | _ => false

namespace Derive

def FieldKind.holdsRecord : FieldKind → Bool
  | .join _ | .flatten => true
  | _ => false

/-- The call that a field of a record makes. -/
inductive FieldDefinition.Makes (table : String) (content : String → Datum) (part : String → Record)
    (f : FieldDefinition) : Call → Prop
  | field {tag : String} (kind : f.kind = .scalar tag) :
      Makes table content part f (.field ⟨f.name, f.column, table, tag⟩ (content f.name))
  | join {tag : String} (kind : f.kind = .join tag) :
      Makes table content part f (.join ⟨f.name, f.column, table, tag⟩ (part f.name))
  | flatten (kind : f.kind = .flatten) : Makes table content part f (.flatten (part f.name))

def FieldDefinition.isUnset (content : String → Datum) (part : String → Record)
    (f : FieldDefinition) : Bool :=
  if f.kind.holdsRecord then (part f.name).isZero else (content f.name).isZero

/-- Records that are derived from accepted declarations, the records in their fields as well. -/
inductive IsDerived : Record → Prop
  | absent : IsDerived .absent
  | held {holder : Holder} {r : Record} (inner : IsDerived r) : IsDerived (.held holder r)
  | made {declaration : Declaration} {definition : Definition} {content : String → Datum}
      {part : String → Record} (accepted : Definition.ofDeclaration declaration = .ok definition)
      (parts : ∀ f ∈ definition.visited, f.kind.holdsRecord = true → IsDerived (part f.name)) :
      IsDerived (definition.record content part)

/-! ## The calls of a derived record -/

namespace FieldDefinition

variable (table : String) (content : String → Datum) (part : String → Record)

/-- A field that is visited makes one call, which is zero if its content is; any other field makes
none. -/
theorem call?_cases (f : FieldDefinition) :
    (f.kind.isVisited = true ∧ ∃ c, f.Makes table content part c ∧
        f.call? table content part = some c ∧ c.isZero = f.isUnset content part) ∨
      (f.kind.isVisited = false ∧ f.call? table content part = none) := by
  unfold call? isUnset
  cases kind : f.kind with
  | scalar tag => exact Or.inl ⟨rfl, _, .field kind, rfl, rfl⟩
  | join tag => exact Or.inl ⟨rfl, _, .join kind, rfl, rfl⟩
  | flatten => exact Or.inl ⟨rfl, _, .flatten kind, rfl, rfl⟩
  | excluded | untagged => exact Or.inr ⟨rfl, rfl⟩

/-- The calls are those of the visited fields, in declaration order. -/
theorem calls_made (fs : List FieldDefinition) :
    List.Forall₂ (Makes table content part) (fs.filter (·.kind.isVisited))
      (fs.filterMap (·.call? table content part)) := by
  induction fs with
  | nil => exact .nil
  | cons f rest ih =>
    rcases f.call?_cases table content part with ⟨visited, c, makes, call, _⟩ | ⟨passed, call⟩
    · rw [List.filter_cons_of_pos (by simp [visited]), List.filterMap_cons_some call]
      exact .cons makes ih
    · rw [List.filter_cons_of_neg (by simp [passed]), List.filterMap_cons_none call]
      exact ih

theorem allZero_calls (fs : List FieldDefinition) :
    Record.allZero (fs.filterMap (·.call? table content part)) =
      (fs.filter (·.kind.isVisited)).all (·.isUnset content part) := by
  induction fs with
  | nil => rfl
  | cons f rest ih =>
    rcases f.call?_cases table content part with ⟨visited, c, _, call, zero⟩ | ⟨passed, call⟩
    · rw [List.filter_cons_of_pos (by simp [visited]), List.filterMap_cons_some call, Record.allZero,
        List.all_cons, zero, ih]
    · rw [List.filter_cons_of_neg (by simp [passed]), List.filterMap_cons_none call, ih]

/-- A field that takes no part makes no call. -/
theorem calls_visited (fs : List FieldDefinition) :
    (fs.filter (·.kind.isVisited)).filterMap (·.call? table content part) =
      fs.filterMap (·.call? table content part) := by
  rw [List.filterMap_filter]
  apply List.filterMap_congr
  intro f _
  rcases f.call?_cases table content part with ⟨visited, _⟩ | ⟨passed, call⟩
  · rw [if_pos visited]
  · rw [if_neg (by simp [passed]), call]

/-- A call depends on the content or the record of its own field only. -/
theorem call?_congr (content' : String → Datum) (part' : String → Record) {f : FieldDefinition}
    (same : if f.kind.holdsRecord then part' f.name = part f.name
      else content' f.name = content f.name) :
    f.call? table content' part' = f.call? table content part := by
  unfold call?
  cases kind : f.kind <;> simp_all [FieldKind.holdsRecord]

end FieldDefinition

end Derive

/-! ## The issues of a derived record -/

theorem FieldSpec.operator?_of_read {m : FieldSpec} {d : Descriptor}
    (read : (Directive.read m.tag).directive = .search d) : m.operator? = d.operator := by
  rw [operator?, descriptor?, read]
  rfl

/-- What is wrong inside a directive is never that it stands on the other kind of field. -/
theorem FieldSpec.placed_faults (path : String) (m : FieldSpec) :
    ∀ i ∈ (m.faults path).issues, i.problem.isMisplaced = false := by
  intro i reported
  obtain ⟨fault, _, rfl⟩ := List.mem_map.mp reported
  rfl

/-- A content whose directive is no join is reported for faults of the directive only. -/
theorem FieldSpec.placed_visit {m : FieldSpec} (plain : m.operator? ≠ some .left) (o : Options)
    (path : String) (content : Datum) :
    ∀ i ∈ (m.visit o path content).issues, i.problem.isMisplaced = false := by
  rw [issues_visit, if_neg plain, List.append_nil]
  exact m.placed_faults path

/-- A record whose directive is a join is reported for that join, or for what is inside. -/
theorem FieldSpec.placed_visitJoin {m : FieldSpec} (joins : m.operator? = some .left) {inner : Outcome}
    (inside : ∀ i ∈ inner.issues, i.problem.isMisplaced = false) (place : Place) (path : String)
    (zero : Bool) :
    ∀ i ∈ (m.visitJoin place path zero inner).issues, i.problem.isMisplaced = false := by
  intro i reported
  rw [visitJoin_eq, Outcome.issues_append] at reported
  rcases List.mem_append.mp reported with fault | own
  · exact m.placed_faults path i fault
  · cases asked : m.joinRequest with
    | none => simp [asked] at own
    | faulty p =>
      rw [asked] at own
      obtain rfl := List.mem_singleton.mp own
      rcases joinRequest_faulty asked with rfl | rfl | ⟨other, _⟩
      · rfl
      · rfl
      · exact absurd joins other
    | link l =>
      rw [asked] at own
      have nested : ∀ j ∈ (Outcome.problem (path ++ m.name) .nestedJoin).issues,
          j.problem.isMisplaced = false := by
        intro j only
        obtain rfl := List.mem_singleton.mp only
        rfl
      cases place <;> cases zero
      case joined.false | joined.true | detached.false => exact nested i own
      case root.false | root.true | detached.true => exact inside i own

theorem Record.mem_issues_walkAll {o : Options} {place : Place} {path : String} {i : Issue}
    {cs : List Call} :
    i ∈ (Record.walkAll o place path cs).issues ↔
      ∃ c ∈ cs, i ∈ (c.walk o place path).issues := by
  induction cs with
  | nil => simp [walkAll]
  | cons c rest ih => simp [walkAll, ih]

namespace Derive

/-- A field makes a call that fits its directive. -/
theorem FieldDefinition.placed_call {table : String} {content : String → Datum}
    {part : String → Record} {g : FieldDeclaration} {f : FieldDefinition} {c : Call}
    (classified : g.Classified f.kind) (makes : f.Makes table content part c) (o : Options)
    (inside : f.kind.holdsRecord = true → ∀ place path,
      ∀ i ∈ ((part f.name).walk o place path).issues, i.problem.isMisplaced = false)
    (place : Place) (path : String) :
    ∀ i ∈ (c.walk o place path).issues, i.problem.isMisplaced = false := by
  cases makes with
  | @field tag kind =>
    rw [kind] at classified
    cases classified with
    | @scalar _ d _ read other =>
      have operator : FieldSpec.operator? ⟨f.name, f.column, table, tag⟩ = d.operator :=
        FieldSpec.operator?_of_read read
      rw [Call.walk]
      exact FieldSpec.placed_visit (by rwa [operator]) o path _
  | @join tag kind =>
    rw [kind] at classified inside
    cases classified with
    | @join _ d _ read joins =>
      have operator : FieldSpec.operator? ⟨f.name, f.column, table, tag⟩ = d.operator :=
        FieldSpec.operator?_of_read read
      rw [Call.walk]
      exact FieldSpec.placed_visitJoin (operator.trans joins) (inside rfl _ _) place path _
  | flatten kind =>
    rw [kind] at inside
    exact inside rfl place path

/-- In a derived record every directive belongs to a field of its kind, at any depth. -/
theorem IsDerived.placed {r : Record} (derived : IsDerived r) (o : Options) :
    ∀ place path, ∀ i ∈ (r.walk o place path).issues, i.problem.isMisplaced = false := by
  induction derived with
  | absent => exact fun _ _ _ reported => absurd reported List.not_mem_nil
  | held _ ih => exact ih
  | made accepted _ ih =>
    intro place path i reported
    obtain ⟨c, among, own⟩ := Record.mem_issues_walkAll.mp reported
    obtain ⟨f, defined, call⟩ := List.mem_filterMap.mp among
    obtain ⟨g, _, _, classified⟩ := Definition.classified_of_mem accepted defined
    rcases f.call?_cases _ _ _ with ⟨visited, c', makes, call', _⟩ | ⟨_, none⟩
    · obtain rfl := Option.some.inj (call'.symm.trans call)
      have among : f ∈ Definition.visited _ := List.mem_filter.mpr ⟨defined, visited⟩
      exact FieldDefinition.placed_call classified makes o (ih f among) place path i own
    · rw [none] at call
      cases call

namespace Definition

theorem record_eq_visited (d : Definition) (content : String → Datum) (part : String → Record) :
    d.record content part = .made (d.visited.filterMap (·.call? d.table content part)) none := by
  rw [record, visited, FieldDefinition.calls_visited]

/-- The kinds of the fields of an accepted declaration are those that a walk reads in their
directives. The derived record makes one call for each field that takes part, in declaration order
and of the field's kind, and is zero if they are all unset. With derived records in its fields it is
never reported for a directive of the other kind of field. It is the same record whatever the other
fields are and hold, so at any depth they count neither for its tree nor for its issues. -/
theorem record_follows_classification {declaration : Declaration} {definition : Definition}
    (accepted : ofDeclaration declaration = .ok definition) (content : String → Datum)
    (part : String → Record) :
    List.Forall₂ (fun f d => d.ident = f.ident ∧ f.Classified d.kind) declaration.fields
      definition.fields ∧
    (∃ calls, definition.record content part = .made calls none ∧
      List.Forall₂ (FieldDefinition.Makes definition.table content part) definition.visited calls) ∧
    (definition.record content part).isZero = definition.visited.all (·.isUnset content part) ∧
    ((∀ f ∈ definition.visited, f.kind.holdsRecord = true → IsDerived (part f.name)) →
      ∀ o place path, ∀ i ∈ ((definition.record content part).walk o place path).issues,
        i.problem.isMisplaced = false) ∧
    ∀ (other : Definition) (content' : String → Datum) (part' : String → Record),
      other.table = definition.table → other.visited = definition.visited →
      (∀ f ∈ definition.visited, if f.kind.holdsRecord then part' f.name = part f.name
        else content' f.name = content f.name) →
      other.record content' part' = definition.record content part := by
  refine ⟨fields_classified accepted, ⟨_, rfl, FieldDefinition.calls_made ..⟩,
    FieldDefinition.allZero_calls .., ?_, ?_⟩
  · exact fun parts o => (IsDerived.made accepted parts).placed o
  · intro other content' part' table visited same
    have calls : other.visited.filterMap (·.call? other.table content' part') =
        definition.visited.filterMap (·.call? definition.table content part) := by
      rw [table, visited]
      apply List.filterMap_congr
      intro f member
      exact FieldDefinition.call?_congr _ _ _ _ _ (same f member)
    rw [record_eq_visited, record_eq_visited, calls]

end Definition

/-- Users by name, with directives that change their mind and two fields that take no part. -/
def usersDeclaration : Declaration :=
  { ident := "UserSearch"
    attributes := [.table "users"]
    fields :=
      [⟨"name", [.foreign, .directive "type:icontains"]⟩,
        ⟨"r#type", [.directive "type:left;type:fuzzy"]⟩,
        ⟨"orders", [.directive "type:eq; type : left ;join:orders;on:user_id:id"]⟩,
        ⟨"more", [.word "flatten"]⟩,
        ⟨"secret", [.directive " - "]⟩,
        ⟨"plain", [.foreign]⟩] }

def usersDefinition : Definition :=
  ⟨"UserSearch", [], [], "users",
    [⟨"name", .scalar "type:icontains"⟩,
      ⟨"r#type", .scalar "type:left;type:fuzzy"⟩,
      ⟨"orders", .join "type:eq; type : left ;join:orders;on:user_id:id"⟩,
      ⟨"more", .flatten⟩,
      ⟨"secret", .excluded⟩,
      ⟨"plain", .untagged⟩]⟩

/-- Orders by total, with the lines of an order. -/
def ordersDeclaration : Declaration :=
  { ident := "OrderSearch"
    attributes := [.table "orders"]
    fields :=
      [⟨"total", [.directive "type:gte"]⟩,
        ⟨"lines", [.directive "type:left;join:lines;on:order_id:id"]⟩] }

def ordersDefinition : Definition :=
  ⟨"OrderSearch", [], [], "orders",
    [⟨"total", .scalar "type:gte"⟩, ⟨"lines", .join "type:left;join:lines;on:order_id:id"⟩]⟩

def usersContent (secret : String) (name : String) : Datum :=
  if name = "name" then .text "ann" else if name = "secret" then .text secret else .absent

def usersPart (name : String) : Record :=
  if name = "orders" then
    .held .optional (ordersDefinition.record (fun _ => .signed 10) fun _ => .absent)
  else .absent

/-- The secret makes no difference, and the two issues are about an operator and a nested join. -/
theorem usersDefinition_placed :
    Definition.ofDeclaration usersDeclaration = .ok usersDefinition ∧
      Definition.ofDeclaration ordersDeclaration = .ok ordersDefinition ∧
      (usersDefinition.record (usersContent "") usersPart).isZero = false ∧
      usersDefinition.record (usersContent "x") usersPart =
        usersDefinition.record (usersContent "") usersPart ∧
      ((usersDefinition.record (usersContent "") usersPart).walk {} .root "").issues =
        [⟨"type", .directive (.unsupportedOperator "fuzzy")⟩, ⟨"orders.lines", .nestedJoin⟩] ∧
      ∀ i ∈ ((usersDefinition.record (usersContent "") usersPart).walk {} .root "").issues,
        i.problem.isMisplaced = false := by
  have accepted : Definition.ofDeclaration usersDeclaration = .ok usersDefinition := rfl
  have acceptedOrders : Definition.ofDeclaration ordersDeclaration = .ok ordersDefinition := rfl
  obtain ⟨-, -, zero, placed, same⟩ :=
    Definition.record_follows_classification accepted (usersContent "") usersPart
  refine ⟨accepted, acceptedOrders, zero.trans (by decide +kernel), ?_, by decide +kernel, ?_⟩
  · refine same usersDefinition (usersContent "x") usersPart rfl rfl fun f visited => ?_
    have shown : f.name ≠ "secret" := by
      revert f
      decide +kernel
    split
    · rfl
    · rw [usersContent, usersContent, if_neg shown, if_neg shown]
  · refine placed (fun f _ _ => ?_) {} .root ""
    unfold usersPart
    split
    · exact .held (.made acceptedOrders fun _ _ _ => .absent)
    · exact .absent

end Derive

end FilterSql
