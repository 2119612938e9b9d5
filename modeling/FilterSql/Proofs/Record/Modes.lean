import FilterSql.Proofs.Record.Compiling
import FilterSql.Proofs.Record.Visits

/-!
# Strict and lenient compiles agree

The mode is handed to every visit, and no visit looks at it: a walk depends on the
options through their driver only. So the two modes differ in what becomes of the
issues and in nothing else.

`compiled_of_mode` is the reason for `strict_agrees_with_lenient`. The driver, on
the other hand, decides which calls are made and how patterns are matched.
-/

namespace FilterSql

variable {o o' : Options}

theorem FieldSpec.visit_of_driver (same : o.driver = o'.driver) (path : String) (m : FieldSpec)
    (content : Datum) : m.visit o path content = m.visit o' path content := by
  rw [visit_eq, visit_eq, same]

mutual

theorem Record.walk_of_driver (same : o.driver = o'.driver) :
    (r : Record) → ∀ place path, r.walk o place path = r.walk o' place path
  | .absent => fun _ _ => rfl
  | .held _ r => Record.walk_of_driver same r
  | .made cs _ => Call.walkAll_of_driver same cs

theorem Call.walk_of_driver (same : o.driver = o'.driver) :
    (c : Call) → ∀ place path, c.walk o place path = c.walk o' place path
  | .field m content => fun _ path => m.visit_of_driver same path content
  | .join m r => fun place path => by
    have inner := Record.walk_of_driver same r .joined (m.innerPath path)
    rw [Call.walk, Call.walk, inner]
  | .flatten r => Record.walk_of_driver same r
  | .condition _ => fun _ _ => rfl
  | .whenDriver d r => fun place path => by
    have active := Record.walk_of_driver same r place path
    rw [Call.walk, Call.walk, active, same]

theorem Call.walkAll_of_driver (same : o.driver = o'.driver) :
    (cs : List Call) → ∀ place path,
      Record.walkAll o place path cs = Record.walkAll o' place path cs
  | [] => fun _ _ => rfl
  | c :: rest => fun place path => by
    have here := Call.walk_of_driver same c place path
    have later := Call.walkAll_of_driver same rest place path
    rw [Record.walkAll, Record.walkAll, here, later]

end

namespace Record

/-- The mode decides nothing about tree and issues. -/
theorem compiled_of_mode (r : Record) (d : Driver) (mode mode' : Mode) :
    r.compiled ⟨d, mode⟩ = r.compiled ⟨d, mode'⟩ := by
  have same : (⟨d, mode⟩ : Options).driver = (⟨d, mode'⟩ : Options).driver := rfl
  rw [compiled, compiled, Record.walk_of_driver same r]

/-- A lenient compile always gives a result. A strict one is refused exactly when the lenient one
has issues, for those issues in their order, and otherwise gives the same tree without issues. -/
theorem strict_agrees_with_lenient (r : Record) (d : Driver) :
    ∃ c, r.compile ⟨d, .lenient⟩ = .ok c ∧
      ((∃ issues, r.compile ⟨d, .strict⟩ = .error issues) ↔ c.issues ≠ []) ∧
      (∀ issues, r.compile ⟨d, .strict⟩ = .error issues ↔ c.issues ≠ [] ∧ issues = c.issues) ∧
      ∀ e, r.compile ⟨d, .strict⟩ = .ok e ↔ c.issues = [] ∧ e.tree = c.tree ∧ e.issues = [] := by
  have modes : r.compiled ⟨d, .strict⟩ = r.compiled ⟨d, .lenient⟩ :=
    r.compiled_of_mode d .strict .lenient
  have refused (issues : List Issue) : r.compile ⟨d, .strict⟩ = .error issues ↔
      (r.compiled ⟨d, .lenient⟩).issues ≠ [] ∧ issues = (r.compiled ⟨d, .lenient⟩).issues := by
    rw [compile_strict_error_iff, modes]
    constructor
    · rintro ⟨rfl, found⟩
      exact ⟨found, rfl⟩
    · rintro ⟨found, rfl⟩
      exact ⟨rfl, found⟩
  refine ⟨_, r.compile_lenient d, ?_, refused, ?_⟩
  · constructor
    · rintro ⟨issues, error⟩
      exact ((refused issues).mp error).1
    · intro found
      exact ⟨_, (refused _).mpr ⟨found, rfl⟩⟩
  · intro e
    constructor
    · intro success
      have clean := compile_strict_ok_iff.mp ⟨e, success⟩
      have result := eq_compiled_of_compile success
      rw [modes] at clean result
      rw [result]
      exact ⟨clean, rfl, clean⟩
    · rintro ⟨clean, tree, none⟩
      have result : e = r.compiled ⟨d, .lenient⟩ := by
        obtain ⟨_, _⟩ := e
        rw [Compiled.mk.injEq]
        exact ⟨tree, none.trans clean.symm⟩
      rw [compile_strict, modes, if_pos clean, result]

/-- A misspelt operator and a record field without a join: a strict compile reports both, a lenient
one goes on with the field that is left. -/
example :
    let users : Record := .made
      [.field (.ofName "name" "type:lkie") (.text "ann"),
        .field (.ofName "age" "type:gt") (.signed 30),
        .join (.ofName "orders" "type:eq") .absent]
      none
    let issues : List Issue :=
      [⟨"name", .directive (.unsupportedOperator "lkie")⟩, ⟨"orders", .notAJoin "eq"⟩]
    let refused : List Issue :=
      match users.compile ⟨.other, .strict⟩ with
      | .error reasons => reasons
      | .ok _ => []
    (users.compile ⟨.other, .lenient⟩).toOption.map
          (fun c => (c.tree.root.conjuncts.map (·.template), c.issues)) =
        some (["age > ?"], issues) ∧
      refused = issues := by
  decide +kernel

end Record

end FilterSql
