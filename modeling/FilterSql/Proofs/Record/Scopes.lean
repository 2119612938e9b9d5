import FilterSql.Proofs.Record.FieldConditions
import FilterSql.Proofs.Record.JoinIsolation

/-!
# Which scopes a record opens

The join scopes of a compiled tree, call by call: a set record field whose
directive describes a join opens one, filled with what its record compiles to by
itself, and so does a join among the record's own conditions. No other call does.

In `joins_opened` the scopes and the calls that open them correspond one to one,
in the order of the visit. What a scope is filled with is said in terms of the
record behind it, compiled by itself.
-/

namespace FilterSql

def Call.opens : Call → Bool
  | .join m s => m.describesJoin && !s.isZero
  | .condition (.join ..) => true
  | _ => false

inductive Call.Opens (d : Driver) : Call → JoinScope → Prop
  | field {m : FieldSpec} {s : Record} {l : Link} {alone : Compiled} (asked : m.joinRequest = .link l)
      (set : s.isZero = false) (compiled : s.compile ⟨d, .lenient⟩ = .ok alone) :
      Opens d (.join m s) ⟨.left, l.clause, alone.tree.root⟩
  | own {kind : JoinKind} {clause : String} {inner : List Step} :
      Opens d (.condition (.join kind clause inner)) (JoinScope.run ⟨kind, clause, {}⟩ inner)

namespace Record

/-- The scopes of a compiled tree are those that the reached calls open, in their order. -/
theorem joins_opened (r : Record) (d : Driver) :
    List.Forall₂ (Call.Opens d) ((r.reached d).filter Call.opens)
      (r.compiled ⟨d, .lenient⟩).tree.joins := by
  rw [compiled, ConditionTree.run_joins, List.nil_append, walk_eq_reached, Outcome.ofCalls,
    List.filterMap_flatMap]
  apply forall₂_filter_flatMap
  intro c among
  rcases r.reached_kinds d c among with ⟨m, x, rfl⟩ | ⟨m, s, rfl⟩ | ⟨step, rfl⟩
  · exact Or.inr ⟨rfl, m.scopes_visit ..⟩
  · rw [Call.walk]
    rcases m.steps_visitJoin_root "" s.isZero (s.walk ⟨d, .lenient⟩ .joined (m.innerPath "")) with
      ⟨closed, silent⟩ | ⟨l, asked, described, set, opened⟩
    · rw [silent]
      exact Or.inr ⟨closed, rfl⟩
    · refine Or.inl ⟨by simp [Call.opens, described, set], _, .field asked set rfl, ?_⟩
      rw [opened]
      have filled := s.run_walk_eq_root ⟨d, .lenient⟩ .joined (m.innerPath "")
      simp only [List.filterMap_cons, Step.scope?, JoinScope.run, filled]
      rfl
  · rw [Call.walk]
    cases step with
    | join kind clause inner => exact Or.inl ⟨rfl, _, .own, rfl⟩
    | conjunct | disjunct | ordering | page | size => exact Or.inr ⟨rfl, rfl⟩

end Record

end FilterSql
