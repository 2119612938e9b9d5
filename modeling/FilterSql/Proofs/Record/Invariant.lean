import FilterSql.Proofs.Condition.Run
import FilterSql.Proofs.Record.Calls
import FilterSql.Proofs.Record.Visits

/-!
# What holds of every step of a walk

A property of steps that each field and each condition of a record establishes
on its own, and that opening a join scope keeps, holds of every step the record
yields, wherever it is walked.

`Record.walk_invariant` is the statement for records; those for a call and for a
list of calls are proved along with it. Whoever uses it owes two facts,
`Call.Ensures` for the single calls and `Step.KeptByJoin`.
-/

namespace FilterSql

/-- What a call must ensure by itself for `P` to hold of the steps of a walk. -/
def Call.Ensures (o : Options) (P : Step → Prop) : Call → Prop
  | .field m content => ∀ path, ∀ step ∈ (m.visit o path content).steps, P step
  | .condition step => P step
  | .join _ _ => True
  | .flatten _ => True
  | .whenDriver _ _ => True

/-- Opening a join scope establishes `P`, given `P` of the steps inside. -/
def Step.KeptByJoin (P : Step → Prop) : Prop :=
  ∀ (l : Link) (inner : List Step), (∀ step ∈ inner, P step) → P (.join .left l.clause inner)

/-- What holds of every predicate inside a join holds of every predicate of the join. -/
theorem Step.keptByJoin_predicates (Q : Predicate → Prop) :
    KeptByJoin fun step => ∀ p ∈ step.predicates, Q p := by
  intro l inner each p member
  rw [Step.predicates, Step.predicatesIn_eq] at member
  obtain ⟨step, among, written⟩ := List.mem_flatMap.mp member
  exact each step among p written

section
variable {o : Options} {P : Step → Prop}

mutual

/-- What every call of a record ensures by itself holds of all steps of its walk. -/
theorem Record.walk_invariant (opens : Step.KeptByJoin P) :
    (r : Record) → (∀ c ∈ r.calls, c.Ensures o P) →
      ∀ place path, ∀ step ∈ (r.walk o place path).steps, P step
  | .absent => fun _ _ _ _ member => absurd member List.not_mem_nil
  | .held _ r => Record.walk_invariant opens r
  | .made cs _ => Call.walkAll_invariant opens cs

theorem Call.walk_invariant (opens : Step.KeptByJoin P) :
    (c : Call) → (∀ e ∈ c.calls, e.Ensures o P) →
      ∀ place path, ∀ step ∈ (c.walk o place path).steps, P step
  | .field m content => fun ensured _ path => ensured (.field m content) List.mem_cons_self path
  | .join m r => fun ensured place path step member => by
    -- The record is walked inside the join, so `P` is needed of its steps there.
    have inner := Record.walk_invariant opens r (fun e inside =>
      ensured e (List.mem_cons_of_mem _ inside)) .joined (m.innerPath path)
    rw [Call.walk] at member
    rcases m.visitJoin_steps place path r.isZero (r.walk o .joined (m.innerPath path)) with
      silent | ⟨l, _, _, _, opened⟩
    · rw [silent] at member
      exact absurd member List.not_mem_nil
    · rw [opened] at member
      rw [List.mem_singleton.mp member]
      exact opens l _ inner
  | .flatten r => fun ensured =>
    Record.walk_invariant opens r fun e inside => ensured e (List.mem_cons_of_mem _ inside)
  | .condition own => fun ensured _ _ step member => by
    rw [List.mem_singleton.mp member]
    exact ensured (.condition own) List.mem_cons_self
  | .whenDriver d r => fun ensured place path step member => by
    rw [Call.walk] at member
    split at member
    · exact Record.walk_invariant opens r
        (fun e inside => ensured e (List.mem_cons_of_mem _ inside)) place path step member
    · exact absurd member List.not_mem_nil

theorem Call.walkAll_invariant (opens : Step.KeptByJoin P) :
    (cs : List Call) → (∀ e ∈ Call.callsIn cs, e.Ensures o P) →
      ∀ place path, ∀ step ∈ (Record.walkAll o place path cs).steps, P step
  | [] => fun _ _ _ _ member => absurd member List.not_mem_nil
  | c :: rest => fun ensured place path step member => by
    rcases List.mem_append.mp member with here | later
    · exact Call.walk_invariant opens c
        (fun e inside => ensured e (List.mem_append_left _ inside)) place path step here
    · exact Call.walkAll_invariant opens rest
        (fun e inside => ensured e (List.mem_append_right _ inside)) place path step later

end

end

end FilterSql
