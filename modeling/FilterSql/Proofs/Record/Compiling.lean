import FilterSql.Record.Compiled

/-!
# Results of a compile

A lenient compile always gives a result. Whatever gives one gives the tree and
the issues of the walk.

`compile_strict_ok_iff` and `compile_strict_error_iff` say the same of a strict
compile, which looks at nothing but whether there are issues. Later modules speak
of `compiled`, which is total, and come back to `compile` by
`eq_compiled_of_compile`.
-/

namespace FilterSql.Record

/-- What the walk of a record at the root amounts to. -/
def compiled (r : Record) (o : Options) : Compiled :=
  ⟨ConditionTree.run {} (r.walk o .root "").steps, (r.walk o .root "").issues⟩

theorem compile_lenient (r : Record) (d : Driver) :
    r.compile ⟨d, .lenient⟩ = .ok (r.compiled ⟨d, .lenient⟩) := rfl

/-- A strict compile gives the result of the walk, or its issues if there are any. -/
theorem compile_strict (r : Record) (d : Driver) :
    r.compile ⟨d, .strict⟩ =
      if (r.compiled ⟨d, .strict⟩).issues = [] then .ok (r.compiled ⟨d, .strict⟩)
      else .error (r.compiled ⟨d, .strict⟩).issues := by
  have issues : (r.compiled ⟨d, .strict⟩).issues = (r.walk ⟨d, .strict⟩ .root "").issues := rfl
  unfold compile
  rw [issues]
  cases found : (r.walk ⟨d, .strict⟩ .root "").issues with
  | nil => simp [Options.isStrict, found, compiled]
  | cons issue rest => simp [Options.isStrict, found]

/-- A strict compile accepts a record exactly when it has no issues. -/
theorem compile_strict_ok_iff {r : Record} {d : Driver} :
    (∃ c, r.compile ⟨d, .strict⟩ = .ok c) ↔ (r.compiled ⟨d, .strict⟩).issues = [] := by
  rw [compile_strict]
  split <;> simp_all

theorem compile_strict_error_iff {r : Record} {d : Driver} {issues : List Issue} :
    r.compile ⟨d, .strict⟩ = .error issues ↔
      (r.compiled ⟨d, .strict⟩).issues = issues ∧ issues ≠ [] := by
  rw [compile_strict]
  constructor
  · intro refused
    split at refused
    · cases refused
    · next found =>
      obtain rfl := Except.error.inj refused
      exact ⟨rfl, found⟩
  · rintro ⟨rfl, found⟩
    rw [if_neg found]

/-- In either mode a result is that of the walk. -/
theorem eq_compiled_of_compile {r : Record} {o : Options} {c : Compiled}
    (success : r.compile o = .ok c) : c = r.compiled o := by
  unfold compile at success
  dsimp only at success
  split at success
  · cases success
  · exact (Except.ok.inj success).symm

end FilterSql.Record
