import FilterSql.Proofs.Record.Arguments
import FilterSql.Proofs.Record.FieldSteps
import FilterSql.Proofs.Statement.SinglePlaceholders

/-!
# How comparisons read

A comparison is meant to tie its column to one placeholder, or to two for a range.
Whether it does is decided by the value of the field and not by its operator: the
comparing operators bind whatever value the field has, and a list that is not a
single scalar is then spread over the text as it is for membership.

`Record.comparisons_single` gives the exact condition on the value, `keepsWhole`,
and `Record.equality_of_two_names` is an equality whose value does not meet it.
The placeholders are counted in the text as it is spelled, at its place in the
whole query (`exists_text_of_mem`).
-/

namespace FilterSql

namespace Operator

/-- Whether an operator that compares binds a value without spreading it. Patterns are texts, and a
null test binds nothing. -/
def keepsWhole (v : Value) : Operator → Bool
  | .eq | .exact | .iExact | .gt | .gte | .lt | .lte => v.isSingle
  | .between => (v.elements.take 2).all Value.isSingle
  | .oneOf => (Value.list v.elements).isSingle
  | _ => true

/-- What stands between the column and the placeholder of a comparison with one argument. -/
def word? (driver : Driver) (op : Operator) : Option String :=
  match op with
  | .eq | .exact | .iExact => some "="
  | .gt => some ">"
  | .gte => some ">="
  | .lt => some "<"
  | .lte => some "<="
  | .like | .contains | .iContains | .startsWith | .iStartsWith | .endsWith | .iEndsWith =>
    some (op.patternWord driver)
  | _ => none

/-- A well-formed comparison on a column, `n` arguments being bound before it. Membership is not
among them: it alone may hold any number of placeholders. -/
inductive Reads (driver target : Driver) (column : String) (n : Nat) : Operator → String → Prop
  | tied {op : Operator} {word : String} (ties : op.word? driver = some word) :
      Reads driver target column n op (column ++ " " ++ word ++ " " ++ target.placeholder (n + 1))
  | between :
      Reads driver target column n .between
        (column ++ " BETWEEN " ++ target.placeholder (n + 1) ++ " AND " ++
          target.placeholder (n + 2))
  | null : Reads driver target column n .isNull (column ++ " IS NULL")
  | notNull : Reads driver target column n .isNull (column ++ " IS NOT NULL")

end Operator

theorem Driver.ofList_numbered_mark (d : Driver) (n : Nat) {before : String}
    (plain : Text.Plain before) (rest : String) :
    String.ofList (d.numbered n (before ++ "?" ++ rest).toList) =
      before ++ d.placeholder (n + 1) ++ String.ofList (d.numbered (n + 1) rest.toList) := by
  have first : d.numbered n ('?' :: rest.toList) =
      (d.placeholder (n + 1)).toList ++ d.numbered (n + 1) rest.toList := rfl
  have none : before.toList.count '?' = 0 := plain.count_eq_zero
  rw [String.append_assoc, String.toList_append, String.toList_append, numbered_append,
    numbered_plain d n plain, none, Nat.add_zero]
  change String.ofList (before.toList ++ d.numbered n ('?' :: rest.toList)) = _
  rw [first, String.ofList_append, String.ofList_append, String.ofList_toList,
    String.ofList_toList, String.append_assoc]

namespace Operator.Writes

variable {op : Operator} {driver : Driver} {column : String} {v : Value} {p : Predicate}

/-- The arguments that an operator binds are single if the operator keeps the value whole. -/
theorem single_args_iff (writes : op.Writes driver column v p) :
    (∀ a ∈ p.args, a.isSingle = true) ↔ op.keepsWhole v = true := by
  have one (a : Value) : (∀ b ∈ [a], b.isSingle = true) ↔ a.isSingle = true := by simp
  have always {as : Operator} (whole : as.keepsWhole v = true) {args : List Value}
      (single : ∀ a ∈ args, a.isSingle = true) :
      (∀ a ∈ args, a.isSingle = true) ↔ as.keepsWhole v = true :=
    ⟨fun _ => whole, fun _ => single⟩
  have pattern (s : String) : ∀ a ∈ [Value.text s], a.isSingle = true := by simp [Value.isSingle]
  cases writes with
  | equal among =>
    simp only [List.mem_cons, List.not_mem_nil, or_false] at among
    rcases among with rfl | rfl | rfl
    all_goals exact one v
  | greater | atLeast | less | atMost => exact one v
  | inside among =>
    simp only [List.mem_cons, List.not_mem_nil, or_false] at among
    rcases among with rfl | rfl | rfl
    all_goals exact always rfl (pattern _)
  | atStart among | atEnd among =>
    simp only [List.mem_cons, List.not_mem_nil, or_false] at among
    rcases among with rfl | rfl
    all_goals exact always rfl (pattern _)
  | oneOf => exact one _
  | between bounds => simp [keepsWhole, bounds]
  | null | notNull => exact always rfl (by simp)

/-- With one placeholder for each `?` a predicate other than a membership reads as a comparison. -/
theorem reads (writes : op.Writes driver column v p) (plain : Text.Plain column)
    (compares : op ≠ .oneOf) {target : Driver} {n : Nat} (single : p.Single target n) :
    op.Reads driver target column n (p.text target n) := by
  rw [single]
  have tied {as : Operator} {word : String} (ties : as.word? driver = some word)
      (wordPlain : Text.Plain word) :
      as.Reads driver target column n
        (String.ofList (target.numbered n (column ++ " " ++ word ++ " ?").toList)) := by
    have mark : " ?" = " " ++ "?" := rfl
    have split : column ++ " " ++ word ++ " ?" = column ++ " " ++ word ++ " " ++ "?" ++ "" := by
      rw [mark, ← String.append_assoc, String.append_empty]
    have before : Text.Plain (column ++ " " ++ word ++ " ") := by
      simp only [Text.plain_append]
      exact ⟨⟨⟨plain, by decide⟩, wordPlain⟩, by decide⟩
    rw [split, target.ofList_numbered_mark n before]
    change as.Reads driver target column n
      (column ++ " " ++ word ++ " " ++ target.placeholder (n + 1) ++ "")
    rw [String.append_empty]
    exact .tied ties
  have compared {as : Operator} {word rest : String} (ties : as.word? driver = some word)
      (wordPlain : Text.Plain word) (written : " " ++ word ++ " ?" = rest) :
      as.Reads driver target column n
        (String.ofList (target.numbered n (column ++ rest).toList)) := by
    rw [← written, ← String.append_assoc, ← String.append_assoc]
    exact tied ties wordPlain
  have fixed {rest : String} (restPlain : Text.Plain rest) :
      String.ofList (target.numbered n (column ++ rest).toList) = column ++ rest := by
    rw [target.numbered_plain n (Text.plain_append.mpr ⟨plain, restPlain⟩), String.ofList_toList]
  cases writes with
  | equal among =>
    simp only [List.mem_cons, List.not_mem_nil, or_false] at among
    rcases among with rfl | rfl | rfl
    all_goals exact compared rfl (by decide) rfl
  | greater | atLeast | less | atMost => exact compared rfl (by decide) rfl
  | inside among =>
    simp only [List.mem_cons, List.not_mem_nil, or_false] at among
    rcases among with rfl | rfl | rfl
    all_goals exact tied rfl (Operator.plain_patternWord _ driver)
  | atStart among | atEnd among =>
    simp only [List.mem_cons, List.not_mem_nil, or_false] at among
    rcases among with rfl | rfl
    all_goals exact tied rfl (Operator.plain_patternWord _ driver)
  | oneOf => exact absurd rfl compares
  | between bounds =>
    have split : column ++ " BETWEEN ? AND ?" = column ++ " BETWEEN " ++ "?" ++ " AND ?" := by
      rw [String.append_assoc, String.append_assoc]
      rfl
    have before : Text.Plain (column ++ " BETWEEN ") := Text.plain_append.mpr ⟨plain, by decide⟩
    have second : String.ofList (target.numbered (n + 1) (" AND " ++ "?" ++ "").toList) =
        " AND " ++ target.placeholder (n + 2) ++ "" :=
      target.ofList_numbered_mark (n + 1) (by decide) ""
    dsimp only
    rw [split, target.ofList_numbered_mark n before]
    change Operator.Reads driver target column n .between
      (_ ++ String.ofList (target.numbered (n + 1) (" AND " ++ "?" ++ "").toList))
    rw [second, String.append_empty, ← String.append_assoc]
    exact .between
  | null truth =>
    dsimp only
    rw [fixed (by decide)]
    exact .null
  | notNull truth =>
    dsimp only
    rw [fixed (by decide)]
    exact .notNull

end Operator.Writes

namespace Select

/-- Every predicate of a select is written in its `WHERE` clause. -/
theorem infix_wherePart {s : Select} {p : Predicate} (member : p ∈ s.predicates.map Prod.snd) :
    p.statement <:+: s.wherePart := by
  obtain ⟨t, among, rfl⟩ := List.mem_map.mp member
  unfold wherePart
  cases given : s.predicates with
  | nil =>
    rw [given] at among
    exact absurd among List.not_mem_nil
  | cons first rest =>
    rw [given] at among
    rcases List.mem_cons.mp among with rfl | later
    · exact List.infix_append ..
    · have tied : t.2.statement <:+: Statement.ofText t.1.text ++ t.2.statement :=
        (List.suffix_append ..).isInfix
      have further : t.2.statement <:+: furtherPredicates rest :=
        tied.trans (List.infix_of_mem_flatten (List.mem_map_of_mem later))
      exact further.trans (List.suffix_append ..).isInfix

/-- Every predicate of a select stands in its queries as it is written by itself, its placeholders
numbered after the arguments before it. -/
theorem exists_text_of_mem {s : Select} {p : Predicate} (member : p ∈ s.predicates.map Prod.snd)
    (d : Driver) (q : Query) :
    ∃ n before after, (s.sql d q).text = before ++ p.text d n ++ after := by
  have clause : s.wherePart <:+: s.statement d q := List.infix_append ..
  obtain ⟨before, after, whole⟩ := (infix_wherePart member).trans clause
  refine ⟨(Statement.args before).length, String.ofList (Statement.spell d 0 before),
    String.ofList (Statement.spell d (Statement.args (before ++ p.statement)).length after), ?_⟩
  unfold sql Statement.render Predicate.text
  rw [← whole, Statement.spell_append, Statement.spell_append, String.ofList_append,
    String.ofList_append, Nat.zero_add, Nat.zero_add]

end Select

/-- A predicate is what a field of the record writes with its operator. -/
structure Record.WrittenBy (r : Record) (driver : Driver) (p : Predicate) (m : FieldSpec)
    (content : Datum) (d : Descriptor) (op : Operator) : Prop where
  inside : Call.field m content ∈ r.calls
  said : m.descriptor? = some d
  named : d.operator = some op
  writes : op.Writes driver (m.target d) content.toValue p

/-- Every predicate of a record without conditions of its own comes from one of its fields. -/
theorem Record.exists_writtenBy {r : Record} {o : Options}
    (own : ∀ step, Call.condition step ∉ r.calls) {p : Predicate}
    (member : p ∈ (r.compiled o).tree.predicates) :
    ∃ m content d op, r.WrittenBy o.driver p m content d op := by
  obtain ⟨step, among, written⟩ := ConditionTree.mem_predicates_of_run member
  have kept := Step.keptByJoin_predicates fun p =>
    ∃ m content d op, r.WrittenBy o.driver p m content d op
  refine Record.walk_invariant kept r ?_ .root "" step among p written
  intro c inside
  cases c with
  | field m content =>
    intro path step among p written
    rcases m.visit_yields o path content with ⟨_, silent⟩ | ⟨d, op, said, named, _, _, yields⟩
    · rw [silent] at among
      exact absurd among List.not_mem_nil
    · generalize (m.visit o path content).steps = steps at yields among
      cases yields with
      | predicate writes =>
        rw [List.mem_singleton.mp among] at written
        rw [List.mem_singleton.mp written]
        exact ⟨m, content, d, op, inside, said, named, writes⟩
      | ascending | descending | page | size =>
        rw [List.mem_singleton.mp among] at written
        exact absurd written List.not_mem_nil
      | unbounded | undirected | nothing => exact absurd among List.not_mem_nil
  | condition step => exact absurd inside (own step)
  | join m r => trivial
  | flatten r => trivial
  | whenDriver d r => trivial

/-- Every predicate comes from a field and stands in both queries as it is written by itself. It has
one placeholder for each `?` exactly if the operator keeps the field's value whole, and then it reads
as a comparison, except for a membership. -/
theorem Record.comparisons_single (r : Record)
    (names : ∀ m content, Call.field m content ∈ r.calls → m.PlainNames)
    (own : ∀ step, Call.condition step ∉ r.calls) (o : Options) :
    (o.isStrict = false → ∃ c, r.compile o = .ok c) ∧
      ∀ c, r.compile o = .ok c → ∀ p ∈ c.tree.predicates,
        ∃ m content d op, r.WrittenBy o.driver p m content d op ∧
          (∀ target table columns,
            (∃ n before after, (((Select.fresh table columns).forPage c.tree).sql target .rows).text =
              before ++ p.text target n ++ after) ∧
            ∃ n before after, (((Select.fresh table columns).forCount c.tree).sql target .count).text =
              before ++ p.text target n ++ after) ∧
          ∀ target n,
            (p.Single target n ↔ op.keepsWhole content.toValue = true) ∧
            (op ≠ .oneOf → op.keepsWhole content.toValue = true →
              op.Reads o.driver target (m.target d) n (p.text target n)) := by
  refine ⟨fun lenient => ⟨r.compiled o, by simp [compile, compiled, lenient]⟩, ?_⟩
  intro c success p member
  obtain rfl := eq_compiled_of_compile success
  obtain ⟨m, content, d, op, written⟩ := exists_writtenBy own member
  have plain : Text.Plain (m.target d) := by
    rw [← m.columnOf_eq_target]
    exact (names m content written.inside).columnOf written.said
  have balanced : p.Balanced := written.writes.balanced plain
  have single (target : Driver) (n : Nat) :
      p.Single target n ↔ op.keepsWhole content.toValue = true := by
    rw [balanced.single_iff, written.writes.single_args_iff]
  refine ⟨m, content, d, op, written, ?_, ?_⟩
  · intro target table columns
    have tied : p ∈ (r.compiled o).tree.tied.map Prod.snd := by
      rw [ConditionTree.tied_predicates]
      exact member
    rw [Select.forPage_fresh, Select.forCount_fresh]
    exact ⟨Select.exists_text_of_mem tied target .rows, Select.exists_text_of_mem tied target .count⟩
  · intro target n
    refine ⟨single target n, fun compares whole => ?_⟩
    exact written.writes.reads plain compares ((single target n).mpr whole)

def Record.usersNamed (name low high : Datum) : Record :=
  .made
    [.field (.ofName "name" "type:eq;table:users") name,
      .flatten (.held .optional (.made
        [.field (.ofName "born" "type:between") (.sequence [low, high])] none))]
    none

/-- A comparison with a list of two names is written with two placeholders. -/
theorem Record.equality_of_two_names :
    ∃ c, (usersNamed (.sequence [.text "ann", .text "bob"]) (.signed 1) (.signed 9)).compile
        ⟨.other, .strict⟩ = .ok c ∧
      c.tree.root.conjuncts.map (·.template) = ["users.name = ?", "born BETWEEN ? AND ?"] ∧
      (((Select.fresh "users" "*").forPage c.tree).sql .other .rows).text =
        "SELECT * FROM users WHERE users.name = ?, ? AND born BETWEEN ? AND ?" := by
  refine ⟨_, rfl, ?_, ?_⟩
  · decide +kernel
  · decide +kernel

/-- A name and two bounds, one of them a number in brackets, are compared as they should be. -/
theorem Record.usersNamed_comparisons :
    ∃ c, (usersNamed (.text "ann") (.sequence [.signed 1]) (.signed 9)).compile
        ⟨.postgres, .lenient⟩ = .ok c ∧
      c.tree.predicates.map (·.text .postgres 3) =
        ["users.name = $4", "born BETWEEN $4 AND $5"] ∧
      ∀ p ∈ c.tree.predicates, ∃ (op : Operator) (column : String),
        op.Reads .postgres .postgres column 3 (p.text .postgres 3) := by
  have fields : ∀ m content,
      Call.field m content ∈
          (usersNamed (.text "ann") (.sequence [.signed 1]) (.signed 9)).calls →
        m.PlainNames ∧
          ((m.operator? = some .eq ∧ content = .text "ann") ∨
            (m.operator? = some .between ∧
              content = .sequence [.sequence [.signed 1], .signed 9])) := by
    intro m content member
    simp only [usersNamed, calls, Call.callsIn, Call.calls, List.mem_append, List.mem_cons,
      Call.field.injEq, List.not_mem_nil, reduceCtorEq, or_false, false_or] at member
    rcases member with ⟨rfl, rfl⟩ | ⟨rfl, rfl⟩
    · exact ⟨by decide +kernel, Or.inl ⟨by decide +kernel, rfl⟩⟩
    · exact ⟨by decide +kernel, Or.inr ⟨by decide +kernel, rfl⟩⟩
  have own : ∀ step, Call.condition step ∉
      (usersNamed (.text "ann") (.sequence [.signed 1]) (.signed 9)).calls := by
    intro step
    simp [usersNamed, calls, Call.callsIn, Call.calls]
  obtain ⟨given, comparisons⟩ := comparisons_single _ (fun m content inside => (fields m content inside).1)
    own ⟨.postgres, .lenient⟩
  obtain ⟨c, success⟩ := given rfl
  refine ⟨c, success, ?_, ?_⟩
  · obtain rfl := eq_compiled_of_compile success
    decide +kernel
  · intro p member
    obtain ⟨m, content, d, op, written, -, single⟩ := comparisons c success p member
    have named : m.operator? = some op := by
      rw [FieldSpec.operator?, written.said]
      exact written.named
    refine ⟨op, m.target d, (single .postgres 3).2 ?_ ?_⟩
    all_goals
      rcases (fields m content written.inside).2 with ⟨operator, rfl⟩ | ⟨operator, rfl⟩
      all_goals
        obtain rfl := Option.some.inj (operator.symm.trans named)
        decide +kernel

end FilterSql
