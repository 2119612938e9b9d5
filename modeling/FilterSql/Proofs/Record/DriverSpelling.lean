import FilterSql.Proofs.Record.IssueIndependence
import FilterSql.Proofs.Record.PagingTexts
import FilterSql.Proofs.Record.Scopes

/-!
# What the driver changes in a tree

A record without parts for one driver compiles alike for any two drivers. The
one difference is the word of a match without regard to letter case, which is
`ILIKE` on Postgres and `LIKE` elsewhere. So the trees are compared position by
position, and each position with the call that its predicates come from.

The comparison is `Record.drivers_differ_in_one_word`. Issues, paging texts and
join clauses do not change at all (`issues_driver`, `paging_driver`,
`joins_driver`), and two drivers that both lack a word of their own make one tree.
Placeholders and limits differ as well, but only in the text of a query.
-/

namespace FilterSql

inductive Forall₃ {α β γ : Type} (R : α → β → γ → Prop) : List α → List β → List γ → Prop
  | nil : Forall₃ R [] [] []
  | cons {a : α} {b : β} {c : γ} {as : List α} {bs : List β} {cs : List γ} (head : R a b c)
      (tail : Forall₃ R as bs cs) : Forall₃ R (a :: as) (b :: bs) (c :: cs)

def Driver.anyCaseWord : Driver → String
  | .postgres => "ILIKE"
  | .mysql | .other => "LIKE"

/-- A predicate of a field as it is spelt for two drivers. Only the operators that disregard letter
case leave anything to the driver. -/
inductive FieldSpec.Respells (d e : Driver) (m : FieldSpec) : Predicate → Predicate → Prop
  | anyCase {desc : Descriptor} {op : Operator} {args : List Value} (said : m.descriptor? = some desc)
      (named : desc.operator = some op) (ignores : op ∈ [.iContains, .iStartsWith, .iEndsWith]) :
      Respells d e m ⟨m.target desc ++ " " ++ d.anyCaseWord ++ " ?", args⟩
        ⟨m.target desc ++ " " ++ e.anyCaseWord ++ " ?", args⟩
  | sameCase {op : Operator} {p : Predicate} (named : m.operator? = some op)
      (minds : op ∉ [.iContains, .iStartsWith, .iEndsWith]) : Respells d e m p p

def Call.conjoins : Call → Bool
  | .field m content => m.filters content
  | .condition (.conjunct _) => true
  | _ => false

/-- The predicates that a call adds for two drivers. -/
inductive Call.Spells (d e : Driver) : Call → Predicate → Predicate → Prop
  | field {m : FieldSpec} {content : Datum} {p q : Predicate} (first : m.Writes d content p)
      (second : m.Writes e content q) (respells : m.Respells d e p q) :
      Spells d e (.field m content) p q
  | own {p : Predicate} : Spells d e (.condition (.conjunct p)) p p

/-- A scope as the calls fill it for two drivers. -/
structure Scope.Respelled (d e : Driver) (cs : List Call) (s t : Scope) : Prop where
  conjuncts : Forall₃ (Call.Spells d e) (cs.filter Call.conjoins) s.conjuncts t.conjuncts
  disjuncts : s.disjuncts = t.disjuncts
  orderings : s.orderings = t.orderings

/-- The join scopes that a call opens for two drivers. -/
inductive Call.OpensAlike (d e : Driver) : Call → JoinScope → JoinScope → Prop
  | field {m : FieldSpec} {r : Record} {l : Link} {s t : Scope} (asked : m.joinRequest = .link l)
      (set : r.isZero = false) (filled : Scope.Respelled d e (r.reached d) s t) :
      OpensAlike d e (.join m r) ⟨.left, l.clause, s⟩ ⟨.left, l.clause, t⟩
  | own {kind : JoinKind} {clause : String} {inner : List Step} :
      OpensAlike d e (.condition (.join kind clause inner))
        (JoinScope.run ⟨kind, clause, {}⟩ inner) (JoinScope.run ⟨kind, clause, {}⟩ inner)

namespace Forall₃

variable {α β γ : Type}

/-- Two lists that are related to the same elements, seen from those elements. -/
theorem of_forall₂ {R : α → β → Prop} {S : α → γ → Prop} {T : α → β → γ → Prop} {as : List α}
    {bs : List β} {cs : List γ} (first : List.Forall₂ R as bs) (second : List.Forall₂ S as cs)
    (both : ∀ a ∈ as, ∀ b c, R a b → S a c → T a b c) : Forall₃ T as bs cs := by
  induction first generalizing cs with
  | nil =>
    cases second
    exact .nil
  | cons head _ ih =>
    cases second with
    | cons head' tail =>
      have later := ih tail fun a member => both a (List.mem_cons_of_mem _ member)
      exact .cons (both _ List.mem_cons_self _ _ head head') later

theorem eq {R : α → β → β → Prop} {as : List α} {bs cs : List β}
    (same : ∀ a b c, R a b c → b = c) (aligned : Forall₃ R as bs cs) : bs = cs := by
  induction aligned with
  | nil => rfl
  | cons head _ ih => rw [same _ _ _ head, ih]

end Forall₃

/-! ## One field -/

/-- All that an operator leaves to the driver. -/
theorem Operator.steps_driver (op : Operator) (column : String) (v : Value) :
    (op ∈ [.iContains, .iStartsWith, .iEndsWith] ∧ ∃ args, ∀ d,
        op.steps d column v = [.conjunct ⟨column ++ " " ++ d.anyCaseWord ++ " ?", args⟩]) ∨
      (op ∉ [.iContains, .iStartsWith, .iEndsWith] ∧
        ∀ d e, op.steps d column v = op.steps e column v) := by
  have anyCase (as : Operator) (ignores : as.isCaseInsensitive = true) (pattern : String)
      (d : Driver) : Step.matching d as column pattern =
        .conjunct ⟨column ++ " " ++ d.anyCaseWord ++ " ?", [.text pattern]⟩ := by
    rw [Step.matching, Step.compare, ignores]
    cases d <;> rfl
  cases op with
  | iContains =>
    refine Or.inl ⟨by decide, [.text ("%" ++ v.display ++ "%")], fun d => ?_⟩
    rw [steps, anyCase .iContains rfl]
  | iStartsWith =>
    refine Or.inl ⟨by decide, [.text (v.display ++ "%")], fun d => ?_⟩
    rw [steps, anyCase .iStartsWith rfl]
  | iEndsWith =>
    refine Or.inl ⟨by decide, [.text ("%" ++ v.display)], fun d => ?_⟩
    rw [steps, anyCase .iEndsWith rfl]
  | like | contains | startsWith | endsWith =>
    exact Or.inr ⟨by decide, fun d e => by cases d <;> cases e <;> rfl⟩
  | eq | exact | iExact | gt | gte | lt | lte | oneOf | between | isNull | order | left | page
  | pageSize => exact Or.inr ⟨by decide, fun _ _ => rfl⟩

namespace FieldSpec

/-- All that a field leaves to the driver. -/
theorem steps_visit_driver (m : FieldSpec) (content : Datum) :
    (∃ desc op args, m.descriptor? = some desc ∧ desc.operator = some op ∧
        op ∈ [.iContains, .iStartsWith, .iEndsWith] ∧ ∀ o path, (m.visit o path content).steps =
          [.conjunct ⟨m.target desc ++ " " ++ o.driver.anyCaseWord ++ " ?", args⟩]) ∨
      ((∀ op, m.operator? = some op → content.isZero = false →
          op ∉ [.iContains, .iStartsWith, .iEndsWith]) ∧
        ∀ o o' path path', (m.visit o path content).steps = (m.visit o' path' content).steps) := by
  cases named : m.operator? with
  | none =>
    refine Or.inr ⟨nofun, fun o o' path path' => ?_⟩
    rw [steps_visit_none named, steps_visit_none named]
  | some op =>
    obtain ⟨desc, said, operator⟩ := Option.bind_eq_some_iff.mp named
    cases unset : content.isZero with
    | true =>
      refine Or.inr ⟨nofun, fun o o' path path' => ?_⟩
      rw [steps_visit_some said operator, steps_visit_some said operator, unset, if_pos rfl,
        if_pos rfl]
    | false =>
      have written (o : Options) (path : String) : (m.visit o path content).steps =
          op.steps o.driver (m.target desc) content.toValue := by
        rw [steps_visit_some said operator, unset, if_neg Bool.false_ne_true, columnOf_eq_target]
      rcases op.steps_driver (m.target desc) content.toValue with
        ⟨ignores, args, spelt⟩ | ⟨minds, same⟩
      · refine Or.inl ⟨desc, op, args, said, operator, ignores, fun o path => ?_⟩
        rw [written, spelt]
      · refine Or.inr ⟨?_, fun o o' path path' => ?_⟩
        · intro other again _
          obtain rfl := Option.some.inj again
          exact minds
        · rw [written, written]
          exact same ..

/-- The driver touches predicates only. -/
theorem filterMap_visit_driver {α : Type} {read : Step → Option α}
    (skips : ∀ p, read (.conjunct p) = none) (o o' : Options) (path path' : String) (m : FieldSpec)
    (content : Datum) :
    (m.visit o path content).steps.filterMap read =
      (m.visit o' path' content).steps.filterMap read := by
  rcases m.steps_visit_driver content with ⟨desc, op, args, _, _, _, spelt⟩ | ⟨_, same⟩
  · rw [spelt, spelt, List.filterMap_cons_none (skips _), List.filterMap_cons_none (skips _)]
  · rw [same o o' path path']

theorem set_of_filters {m : FieldSpec} {content : Datum} (filters : m.filters content = true) :
    ∃ op, m.operator? = some op ∧ content.isZero = false := by
  obtain ⟨op, named, compares⟩ := (Option.any_eq_true _ _).mp filters
  simp only [Bool.and_eq_true, Bool.not_eq_true'] at compares
  exact ⟨op, named, compares.1.2⟩

theorem writes_of_conjuncts {o : Options} {path : String} {m : FieldSpec} {content : Datum}
    {p : Predicate} (adds : (m.visit o path content).steps.filterMap Step.conjunct? = [p]) :
    m.filters content = true ∧ m.Writes o.driver content p := by
  rcases m.conjuncts_visit o path content with ⟨filters, p', writes, adds'⟩ | ⟨_, silent⟩
  · obtain rfl := List.singleton_inj.mp (adds'.symm.trans adds)
    exact ⟨filters, writes⟩
  · rw [silent] at adds
    cases adds

/-- The predicates that a field adds for two drivers. -/
theorem spells_of_conjuncts {o o' : Options} {path : String} {m : FieldSpec} {content : Datum}
    {p q : Predicate} (first : (m.visit o path content).steps.filterMap Step.conjunct? = [p])
    (second : (m.visit o' path content).steps.filterMap Step.conjunct? = [q]) :
    Call.Spells o.driver o'.driver (.field m content) p q := by
  obtain ⟨filters, writes⟩ := writes_of_conjuncts first
  obtain ⟨_, writes'⟩ := writes_of_conjuncts second
  refine .field writes writes' ?_
  rcases m.steps_visit_driver content with
    ⟨desc, op, args, said, operator, ignores, spelt⟩ | ⟨minds, same⟩
  · rw [spelt] at first second
    obtain rfl := List.singleton_inj.mp first
    obtain rfl := List.singleton_inj.mp second
    exact .anyCase said operator ignores
  · rw [same o o' path path, second] at first
    obtain rfl := List.singleton_inj.mp first
    obtain ⟨op, named, set⟩ := set_of_filters filters
    exact .sameCase named (minds op named set)

end FieldSpec

/-! ## A whole walk -/

mutual

/-- Without parts for one driver, a walk for any driver comes to the same calls. -/
theorem Record.reached_driver (d e : Driver) :
    (r : Record) → (∀ active s, Call.whenDriver active s ∉ r.calls) → r.reached d = r.reached e
  | .absent => fun _ => rfl
  | .held _ r => r.reached_driver d e
  | .made cs _ => Call.reachedIn_driver d e cs

theorem Call.reached_driver (d e : Driver) :
    (c : Call) → (∀ active s, Call.whenDriver active s ∉ c.calls) → c.reached d = c.reached e
  | .field _ _ => fun _ => rfl
  | .join _ _ => fun _ => rfl
  | .flatten r => fun free =>
    r.reached_driver d e fun active s inside => free active s (List.mem_cons_of_mem _ inside)
  | .condition _ => fun _ => rfl
  | .whenDriver active s => fun free => absurd List.mem_cons_self (free active s)

theorem Call.reachedIn_driver (d e : Driver) :
    (cs : List Call) → (∀ active s, Call.whenDriver active s ∉ Call.callsIn cs) →
      Call.reachedIn d cs = Call.reachedIn e cs
  | [] => fun _ => rfl
  | c :: rest => fun free => by
    rw [Call.reachedIn, Call.reachedIn,
      c.reached_driver d e fun active s inside => free active s (List.mem_append_left _ inside),
      Call.reachedIn_driver d e rest fun active s inside =>
        free active s (List.mem_append_right _ inside)]

end

namespace Record

/-- The `AND` list that a walk fills, call by call. -/
theorem conjuncts_walk (r : Record) (o : Options) (place : Place) (path : String) :
    List.Forall₂ (fun c p => (c.walk o place path).steps.filterMap Step.conjunct? = [p])
      ((r.reached o.driver).filter Call.conjoins)
      ((r.walk o place path).steps.filterMap Step.conjunct?) := by
  rw [walk_eq_reached, Outcome.ofCalls, List.filterMap_flatMap]
  apply forall₂_filter_flatMap
  intro c among
  rcases r.reached_kinds o.driver c among with ⟨m, x, rfl⟩ | ⟨m, s, rfl⟩ | ⟨step, rfl⟩
  · rcases m.conjuncts_visit o path x with ⟨filters, p, _, adds⟩ | ⟨idle, silent⟩
    · exact Or.inl ⟨filters, p, adds, adds⟩
    · exact Or.inr ⟨idle, silent⟩
  · exact Or.inr ⟨rfl, FieldSpec.filterMap_visitJoin (fun _ _ _ => rfl) ..⟩
  · cases step with
    | conjunct p => exact Or.inl ⟨rfl, p, rfl, rfl⟩
    | disjunct | ordering | page | size | join => exact Or.inr ⟨rfl, rfl⟩

section
variable {r : Record} (free : ∀ active s, Call.whenDriver active s ∉ r.calls)

include free

theorem no_driver_joined {d : Driver} {m : FieldSpec} {s : Record}
    (among : Call.join m s ∈ r.reached d) : ∀ active t, Call.whenDriver active t ∉ s.calls :=
  fun active t inside =>
    free active t (r.calls_of_reached d _ among _ (List.mem_cons_of_mem _ inside))

/-- What a walk yields besides predicates and scopes is the same for any driver. -/
theorem filterMap_walk_driver {α : Type} {read : Step → Option α}
    (skips : ∀ p, read (.conjunct p) = none)
    (passes : ∀ kind clause inner, read (.join kind clause inner) = none) (o o' : Options)
    (place : Place) (path : String) :
    (r.walk o place path).steps.filterMap read = (r.walk o' place path).steps.filterMap read := by
  rw [walk_eq_reached, walk_eq_reached, r.reached_driver o.driver o'.driver free, Outcome.ofCalls,
    Outcome.ofCalls, List.filterMap_flatMap, List.filterMap_flatMap]
  apply List.flatMap_congr
  intro c among
  rcases r.reached_kinds o'.driver c among with ⟨m, x, rfl⟩ | ⟨m, s, rfl⟩ | ⟨step, rfl⟩
  · exact m.filterMap_visit_driver skips o o' path path x
  · rw [Call.walk, Call.walk, FieldSpec.filterMap_visitJoin passes,
      FieldSpec.filterMap_visitJoin passes]
  · rfl

/-- The root scope is filled alike for any two drivers. -/
theorem root_respelled (d e : Driver) :
    Scope.Respelled d e (r.reached d) (r.compiled ⟨d, .lenient⟩).tree.root
      (r.compiled ⟨e, .lenient⟩).tree.root := by
  rw [compiled, compiled, ConditionTree.run_root, ConditionTree.run_root, Scope.run_eq, Scope.run_eq]
  constructor
  · have first := r.conjuncts_walk ⟨d, .lenient⟩ .root ""
    have second := r.conjuncts_walk ⟨e, .lenient⟩ .root ""
    rw [← r.reached_driver d e free] at second
    refine Forall₃.of_forall₂ first second fun c member p q adds adds' => ?_
    obtain ⟨among, conjoins⟩ := List.mem_filter.mp member
    rcases r.reached_kinds d c among with ⟨m, x, rfl⟩ | ⟨m, s, rfl⟩ | ⟨step, rfl⟩
    · exact FieldSpec.spells_of_conjuncts adds adds'
    · cases conjoins
    · cases step with
      | conjunct =>
        obtain rfl := List.singleton_inj.mp adds
        obtain rfl := List.singleton_inj.mp adds'
        exact .own
      | disjunct | ordering | page | size | join => cases conjoins
  · exact filterMap_walk_driver free (fun _ => rfl) (fun _ _ _ => rfl) ..
  · exact filterMap_walk_driver free (fun _ => rfl) (fun _ _ _ => rfl) ..

theorem paging_driver (o o' : Options) :
    (r.compiled o).tree.paging = (r.compiled o').tree.paging := by
  have kept (slot : PageSlot) : slot.kept? (r.compiled o).tree.paging =
      slot.kept? (r.compiled o').tree.paging := by
    rw [compiled, compiled, PageSlot.kept?_run, PageSlot.kept?_run,
      filterMap_walk_driver free (fun _ => by cases slot <;> rfl)
        (fun _ _ _ => by cases slot <;> rfl) o o']
  have page : (r.compiled o).tree.paging.page = (r.compiled o').tree.paging.page := kept .page
  have size : (r.compiled o).tree.paging.size = (r.compiled o').tree.paging.size := kept .size
  cases first : (r.compiled o).tree.paging
  cases second : (r.compiled o').tree.paging
  simp_all

/-- Inside a joined record no walk looks behind a record field. -/
theorem issues_joined_driver (o o' : Options) (path : String) :
    (r.walk o .joined path).issues = (r.walk o' .joined path).issues := by
  rw [walk_eq_reached, walk_eq_reached, r.reached_driver o.driver o'.driver free]
  apply List.flatMap_congr
  intro c among
  rcases r.reached_kinds o'.driver c among with ⟨m, x, rfl⟩ | ⟨m, s, rfl⟩ | ⟨step, rfl⟩
  · rw [Call.walk, Call.walk, FieldSpec.issues_visit, FieldSpec.issues_visit]
  · rw [Call.walk, Call.walk, FieldSpec.issues_visitJoin (by decide),
      FieldSpec.issues_visitJoin (by decide), if_pos rfl, if_pos rfl]
  · rfl

/-- The driver decides nothing about the issues. -/
theorem issues_driver (o o' : Options) : (r.compiled o).issues = (r.compiled o').issues := by
  rw [compiled, compiled, walk_eq_reached, walk_eq_reached,
    r.reached_driver o.driver o'.driver free]
  apply List.flatMap_congr
  intro c among
  rcases r.reached_kinds o'.driver c among with ⟨m, x, rfl⟩ | ⟨m, s, rfl⟩ | ⟨step, rfl⟩
  · rw [Call.walk, Call.walk, FieldSpec.issues_visit, FieldSpec.issues_visit]
  · have within := issues_joined_driver (no_driver_joined free among) o o' (m.innerPath "")
    rw [Call.walk, Call.walk, FieldSpec.issues_visitJoin (by decide),
      FieldSpec.issues_visitJoin (by decide), within]
  · rfl

/-- For two drivers the same calls open the same scopes, but for the spelling of predicates. -/
theorem joins_driver (d e : Driver) :
    Forall₃ (Call.OpensAlike d e) ((r.reached d).filter Call.opens)
      (r.compiled ⟨d, .lenient⟩).tree.joins (r.compiled ⟨e, .lenient⟩).tree.joins := by
  have first := r.joins_opened d
  have second := r.joins_opened e
  rw [← r.reached_driver d e free] at second
  refine Forall₃.of_forall₂ first second fun c member j k opens opens' => ?_
  obtain ⟨among, _⟩ := List.mem_filter.mp member
  cases opens with
  | own =>
    cases opens'
    exact .own
  | field asked set compiled =>
    cases opens' with
    | field asked' _ compiled' =>
      obtain rfl := JoinRequest.link.inj (asked.symm.trans asked')
      obtain rfl := eq_compiled_of_compile compiled
      obtain rfl := eq_compiled_of_compile compiled'
      exact .field asked set (root_respelled (no_driver_joined free among) d e)

end

end Record

/-! ## One word -/

section
variable {d e : Driver} (alike : d = .postgres ↔ e = .postgres)

include alike

/-- Drivers that both lack a word of their own use the same one. -/
theorem Driver.anyCaseWord_eq : d.anyCaseWord = e.anyCaseWord := by
  cases d <;> cases e <;> simp_all [anyCaseWord]

theorem Call.Spells.eq {c : Call} {p q : Predicate} (spells : Call.Spells d e c p q) : p = q := by
  cases spells with
  | own => rfl
  | field _ _ respells =>
    cases respells with
    | sameCase => rfl
    | anyCase => rw [Driver.anyCaseWord_eq alike]

theorem Scope.Respelled.eq {cs : List Call} {s t : Scope} (respelled : Scope.Respelled d e cs s t) :
    s = t := by
  obtain ⟨conjuncts, disjuncts, orderings⟩ := respelled
  have same := conjuncts.eq fun _ _ _ => Call.Spells.eq alike
  cases s
  cases t
  simp_all

theorem Call.OpensAlike.eq {c : Call} {j k : JoinScope} (opens : Call.OpensAlike d e c j k) :
    j = k := by
  cases opens with
  | own => rfl
  | field _ _ filled => rw [filled.eq alike]

end

/-- Compiled for any two drivers, a record without parts for one driver gives the same issues, the
same paging texts, the same join scopes in kind and clause, and in each scope the same disjuncts and
orderings. Its predicates agree position by position in the column and the arguments, and in the rest
unless they come from a field that disregards letter case; there the template has the driver's own
word. So two drivers with the same word give the same tree. -/
theorem Record.drivers_differ_in_one_word (r : Record)
    (free : ∀ active s, Call.whenDriver active s ∉ r.calls) (d e : Driver) :
    ∃ c c', r.compile ⟨d, .lenient⟩ = .ok c ∧ r.compile ⟨e, .lenient⟩ = .ok c' ∧
      c.issues = c'.issues ∧
      c.tree.paging = c'.tree.paging ∧
      Scope.Respelled d e (r.reached d) c.tree.root c'.tree.root ∧
      Forall₃ (Call.OpensAlike d e) ((r.reached d).filter Call.opens) c.tree.joins c'.tree.joins ∧
      ((d = .postgres ↔ e = .postgres) → c.tree = c'.tree) := by
  have paging := paging_driver free ⟨d, .lenient⟩ ⟨e, .lenient⟩
  have root := root_respelled free d e
  have joins := joins_driver free d e
  refine ⟨_, _, r.compile_lenient d, r.compile_lenient e, issues_driver free _ _, paging, root, joins,
    fun alike => ?_⟩
  have sameRoot := root.eq alike
  have sameJoins := joins.eq fun _ _ _ => Call.OpensAlike.eq alike
  cases first : (r.compiled ⟨d, .lenient⟩).tree
  cases second : (r.compiled ⟨e, .lenient⟩).tree
  simp_all

/-- Users by name and by a condition of their own, and their orders by note and amount. -/
def Record.usersByName : Record :=
  .made
    [.flatten (.held .optional (.made
        [.field (.ofName "name" "type:icontains;table:users") (.text "ann"),
          .field (.ofName "sort" "type:order;column:created") (.text "Desc")] none)),
      .field (.ofName "city" "type:contains") (.text "york"),
      .condition (.conjunct ⟨"users.age > ?", [.int 17]⟩),
      .join (.ofName "orders" "type:left;join:orders;on:user_id:id;table:users")
        (.made
          [.field (.ofName "note" "type:istartswith;table:orders") (.text "gift"),
            .field (.ofName "total" "type:gte;table:orders") (.signed 10)]
          none)]
    none

/-- Of five templates the two that disregard letter case change. -/
theorem Record.usersByName_words :
    ∃ c c', usersByName.compile ⟨.postgres, .lenient⟩ = .ok c ∧
      usersByName.compile ⟨.mysql, .lenient⟩ = .ok c' ∧
      Scope.Respelled .postgres .mysql (usersByName.reached .postgres) c.tree.root c'.tree.root ∧
      c.tree.root.conjuncts.map (·.template) =
        ["users.name ILIKE ?", "city LIKE ?", "users.age > ?"] ∧
      c'.tree.root.conjuncts.map (·.template) =
        ["users.name LIKE ?", "city LIKE ?", "users.age > ?"] ∧
      c.tree.joins.map (·.scope.conjuncts.map (·.template)) =
        [["orders.note ILIKE ?", "orders.total >= ?"]] ∧
      c'.tree.joins.map (·.scope.conjuncts.map (·.template)) =
        [["orders.note LIKE ?", "orders.total >= ?"]] := by
  have free : ∀ active s, Call.whenDriver active s ∉ usersByName.calls := by
    intro active s
    simp [usersByName, calls, Call.callsIn, Call.calls]
  obtain ⟨c, c', first, second, -, -, root, -, -⟩ :=
    drivers_differ_in_one_word usersByName free .postgres .mysql
  refine ⟨c, c', first, second, root, ?_⟩
  obtain rfl := eq_compiled_of_compile first
  obtain rfl := eq_compiled_of_compile second
  decide +kernel

end FilterSql
