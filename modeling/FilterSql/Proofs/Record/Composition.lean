import FilterSql.Proofs.Condition.Merge
import FilterSql.Proofs.Record.Compiling

/-!
# Compiling in parts

A record that makes the calls of one record and then those of another compiles to
the merge of what the two compile to. No call depends on an earlier one, so the
parts can be compiled in any surroundings.

In `Record.compile_append` the zero that a record declares decides nothing where
the record itself is compiled, so the three of them may be any.
-/

namespace FilterSql

/-- Two results after each other: trees are merged and issues are appended. -/
def Compiled.merge (a b : Compiled) : Compiled :=
  ⟨a.tree.merge b.tree, a.issues ++ b.issues⟩

theorem Outcome.append_assoc (a b c : Outcome) : a ++ b ++ c = a ++ (b ++ c) := by
  change append (append a b) c = append a (append b c)
  simp only [append, List.append_assoc]

theorem Outcome.nil_append (a : Outcome) : {} ++ a = a := rfl

/-- Calls are walked one after the other; those before them make no difference. -/
theorem Record.walkAll_append (o : Options) (place : Place) (path : String) (as bs : List Call) :
    walkAll o place path (as ++ bs) = walkAll o place path as ++ walkAll o place path bs := by
  induction as with
  | nil => exact (Outcome.nil_append _).symm
  | cons c rest ih => rw [List.cons_append, walkAll, walkAll, ih, Outcome.append_assoc]

/-- Whatever zeros the three records declare, the calls of `as` and then those of `bs` compile to
the merge of what the calls of `as` and the calls of `bs` compile to. -/
theorem Record.compile_append (as bs : List Call) (first second both : Option Bool) (d : Driver) :
    ∃ a b, (made as first).compile ⟨d, .lenient⟩ = .ok a ∧
      (made bs second).compile ⟨d, .lenient⟩ = .ok b ∧
      (made (as ++ bs) both).compile ⟨d, .lenient⟩ = .ok (a.merge b) := by
  refine ⟨_, _, compile_lenient _ d, compile_lenient _ d, ?_⟩
  have walked : (made (as ++ bs) both).walk ⟨d, .lenient⟩ .root "" =
      (made as first).walk ⟨d, .lenient⟩ .root "" ++ (made bs second).walk ⟨d, .lenient⟩ .root "" :=
    walkAll_append ..
  have tree : ((made (as ++ bs) both).compiled ⟨d, .lenient⟩).tree =
      ((made as first).compiled ⟨d, .lenient⟩).tree.merge
        ((made bs second).compiled ⟨d, .lenient⟩).tree := by
    unfold compiled
    rw [walked, Outcome.steps_append, ConditionTree.run_append]
  have issues : ((made (as ++ bs) both).compiled ⟨d, .lenient⟩).issues =
      ((made as first).compiled ⟨d, .lenient⟩).issues ++
        ((made bs second).compiled ⟨d, .lenient⟩).issues := by
    unfold compiled
    rw [walked, Outcome.issues_append]
  rw [compile_lenient, Compiled.merge, ← tree, ← issues]

/-- The issue of the first part does not keep the second one from its conditions. -/
example :
    let names : List Call :=
      [.field (.ofName "name" "type:like") (.text "ann"),
        .field (.ofName "age" "type:gt;top") (.signed 3)]
    let orders : List Call :=
      [.join (.ofName "orders" "type:left;join:orders;on:user_id:id;table:users")
          (.made [.field (.ofName "total" "type:gte;table:orders") (.signed 10)] none),
        .field (.ofName "sort" "type:order;column:created") (.text "desc")]
    ((Record.made (names ++ orders) none).compile {}).toOption.map (fun c =>
        (c.tree.root.conjuncts.map (·.template), c.tree.root.orderings,
          c.tree.joins.map (·.scope.conjuncts.map (·.template)), c.issues)) =
      some (["name LIKE ?", "age > ?"], ["created DESC"], [["orders.total >= ?"]],
        [⟨"age", .directive (.unknownKey "top")⟩]) := by
  decide +kernel

end FilterSql
