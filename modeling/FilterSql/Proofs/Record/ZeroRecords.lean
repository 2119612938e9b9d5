import FilterSql.Proofs.Record.Calls
import FilterSql.Proofs.Record.Visits

/-!
# A zero record writes nothing

Whether a record is zero and what it yields are two recursions of their own. They
agree: every call that can yield a step counts when the record is asked whether it
is zero, except for conditions of its own. So nothing is lost where a zero record
is not visited for its steps.

`Record.zero_record_writes_nothing` is about trees and join scopes alike. Records
that declare whether they are zero are excluded, because the declaration is taken
for an answer whatever the calls would say.
-/

namespace FilterSql

mutual

/-- No record in it declares whether it is zero, so the answer comes from the calls. -/
def Record.undeclared : Record → Bool
  | .absent => true
  | .held _ r => r.undeclared
  | .made calls zero => zero.isNone && Call.undeclaredIn calls

def Call.undeclared : Call → Bool
  | .field .. => true
  | .join _ r => r.undeclared
  | .flatten r => r.undeclared
  | .condition _ => true
  | .whenDriver _ r => r.undeclared

def Call.undeclaredIn : List Call → Bool
  | [] => true
  | c :: rest => c.undeclared && Call.undeclaredIn rest

end

mutual

/-- All that a walk comes to in a zero record is zero. -/
theorem Record.isZero_of_reached (d : Driver) :
    (r : Record) → r.undeclared = true → r.isZero = true → ∀ c ∈ r.reached d, c.isZero = true
  | .absent => fun _ _ _ member => absurd member List.not_mem_nil
  | .held _ r => r.isZero_of_reached d
  | .made cs none => Call.allZero_of_reached d cs
  | .made _ (some _) => fun undeclared => absurd undeclared Bool.false_ne_true

theorem Call.isZero_of_reached (d : Driver) :
    (c : Call) → c.undeclared = true → c.isZero = true → ∀ e ∈ c.reached d, e.isZero = true
  | .field m x => fun _ zero e member => by
    rwa [List.mem_singleton.mp member]
  | .join m r => fun _ zero e member => by
    rwa [List.mem_singleton.mp member]
  | .flatten r => r.isZero_of_reached d
  | .condition step => fun _ zero e member => by
    rwa [List.mem_singleton.mp member]
  | .whenDriver active r => fun undeclared zero e member => by
    rw [Call.reached] at member
    split at member
    · exact r.isZero_of_reached d undeclared zero e member
    · exact absurd member List.not_mem_nil

theorem Call.allZero_of_reached (d : Driver) :
    (cs : List Call) → Call.undeclaredIn cs = true → Record.allZero cs = true →
      ∀ c ∈ Call.reachedIn d cs, c.isZero = true
  | [] => fun _ _ _ member => absurd member List.not_mem_nil
  | c :: rest => fun undeclared zero e member => by
    obtain ⟨undeclared, undeclaredLater⟩ := Bool.and_eq_true_iff.mp undeclared
    obtain ⟨zero, zeroLater⟩ := Bool.and_eq_true_iff.mp zero
    rcases List.mem_append.mp member with here | later
    · exact c.isZero_of_reached d undeclared zero e here
    · exact Call.allZero_of_reached d rest undeclaredLater zeroLater e later

end

/-- An unset field yields no step, whatever its operator is. -/
theorem FieldSpec.steps_visit_unset {m : FieldSpec} {content : Datum}
    (unset : content.isZero = true) (o : Options) (path : String) :
    (m.visit o path content).steps = [] := by
  rcases m.visit_steps o path content with silent | ⟨_, _, _, _, set, _⟩
  · exact silent
  · rw [unset] at set
    cases set

theorem FieldSpec.steps_visitJoin_zero (place : Place) (path : String) (m : FieldSpec)
    (inner : Outcome) : (m.visitJoin place path true inner).steps = [] := by
  rcases m.visitJoin_steps place path true inner with silent | ⟨_, _, _, set, _⟩
  · exact silent
  · cases set

section
variable {r : Record} (own : ∀ step, Call.condition step ∉ r.calls)
  (undeclared : r.undeclared = true) (zero : r.isZero = true)

include own undeclared zero

theorem Record.steps_walk_zero (o : Options) (place : Place) (path : String) :
    (r.walk o place path).steps = [] := by
  rw [walk_eq_reached, Outcome.ofCalls, List.flatMap_eq_nil_iff]
  intro c among
  have unset := r.isZero_of_reached o.driver undeclared zero c among
  rcases r.reached_kinds o.driver c among with ⟨m, x, rfl⟩ | ⟨m, s, rfl⟩ | ⟨step, rfl⟩
  · exact FieldSpec.steps_visit_unset unset o path
  · have zero : s.isZero = true := unset
    rw [Call.walk, zero, FieldSpec.steps_visitJoin_zero]
  · exact absurd among (no_condition_reached own step)

/-- A zero record without conditions of its own leaves a tree as it was, the empty one and its unset
paging texts included, and every join scope, whether a join field opened it or not. -/
theorem Record.zero_record_writes_nothing (o : Options) (path : String) :
    (∀ t : ConditionTree, t.run (r.walk o .root path).steps = t) ∧
      (∀ j : JoinScope, j.run (r.walk o .joined path).steps = j) ∧
      ∀ j : JoinScope, j.run (r.walk o .detached path).steps = j := by
  have silent (place : Place) : (r.walk o place path).steps = [] :=
    steps_walk_zero own undeclared zero o place path
  refine ⟨?_, ?_, ?_⟩
  · intro t
    rw [silent]
    rfl
  · intro j
    rw [silent]
    rfl
  · intro j
    rw [silent]
    rfl

end

/-- Users by nothing: every kind of call, every holder, and every content unset. -/
def Record.unsetUsers : Record :=
  .made
    [.field (.ofName "name" "type:icontains;table:users") (.text ""),
      .field (.ofName "ids" "type:in") (.sequence []),
      .field (.ofName "page" "page") (.unsigned 0),
      .field (.ofName "page_size" "pageSize") .absent,
      .flatten (.held .optional (.made
        [.field (.ofName "sort" "type:order;column:created") (.text "")] none)),
      .whenDriver .postgres
        (.made [.field ⟨"gone", "deleted", "users", "type:isnull"⟩ (.flag false)] none),
      .join (.ofName "orders" "type:left;join:orders;on:user_id:id;table:users")
        (.held .owned (.made
          [.field (.ofName "total" "type:gte;table:orders") (.double ⟨0x8000000000000000⟩)] none)),
      .join (.ofName "invoices" "type:left;join:invoices;on:payer:id;table:users") .absent]
    none

/-- Every kind of call is made, and neither the tree nor the join scope changes. -/
theorem Record.unsetUsers_silent :
    (∀ step, Call.condition step ∉ unsetUsers.calls) ∧ unsetUsers.undeclared = true ∧
      unsetUsers.isZero = true ∧
      ConditionTree.run {} (unsetUsers.walk ⟨.postgres, .lenient⟩ .root "").steps = {} ∧
      JoinScope.run ⟨.left, "LEFT JOIN users ON users.id = t.user_id", {}⟩
          (unsetUsers.walk ⟨.postgres, .lenient⟩ .joined "").steps =
        ⟨.left, "LEFT JOIN users ON users.id = t.user_id", {}⟩ := by
  have own : ∀ step, Call.condition step ∉ unsetUsers.calls := by
    intro step
    simp [unsetUsers, calls, Call.callsIn, Call.calls]
  have undeclared : unsetUsers.undeclared = true := by decide +kernel
  have zero : unsetUsers.isZero = true := by decide +kernel
  obtain ⟨tree, joined, -⟩ :=
    zero_record_writes_nothing own undeclared zero ⟨.postgres, .lenient⟩ ""
  exact ⟨own, undeclared, zero, tree {}, joined _⟩

end FilterSql
