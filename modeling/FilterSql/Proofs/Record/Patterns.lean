import FilterSql.Proofs.Record.FieldSteps
import FilterSql.Proofs.Text.Wildcards

/-!
# What pattern operators look for

A pattern operator puts wildcards around the value of its field and leaves the
value as it is. So the operator does what its name says for every value without
a wildcard, and for no other.

`FieldSpec.pattern_literal_iff` covers the seven operators that match patterns. It
speaks of `LIKE` as a relation between a pattern and a text (`Text.like`), in
which no character escapes another one; collations and letter case are left to the
database.
-/

namespace FilterSql

/-- Where an operator looks for its value, if it matches patterns. -/
def Operator.side? : Operator → Option Text.Side
  | .like | .contains | .iContains => some .anywhere
  | .startsWith | .iStartsWith => some .atStart
  | .endsWith | .iEndsWith => some .atEnd
  | _ => none

/-- The patterns as they are written. -/
theorem Text.Side.ofList_pattern (side : Side) (v : String) :
    String.ofList (side.pattern v.toList) =
      match side with
      | anywhere => "%" ++ v ++ "%"
      | atStart => v ++ "%"
      | atEnd => "%" ++ v := by
  cases side with
  | anywhere =>
    rw [pattern, String.ofList_cons, String.ofList_append, String.ofList_toList,
      ← String.append_assoc]
    rfl
  | atStart => rw [pattern, String.ofList_append, String.ofList_toList]
  | atEnd =>
    rw [pattern, String.ofList_cons, String.ofList_toList]
    rfl

theorem Operator.steps_of_side? {op : Operator} {side : Text.Side} (looks : op.side? = some side)
    (driver : Driver) (column v : String) :
    op.steps driver column (.text v) =
      [.conjunct ⟨column ++ " " ++ op.patternWord driver ++ " ?",
        [.text (String.ofList (side.pattern v.toList))]⟩] := by
  rw [side.ofList_pattern]
  cases op with
  | like | contains | iContains | startsWith | iStartsWith | endsWith | iEndsWith =>
    obtain rfl := Option.some.inj looks
    rw [steps, Step.matching_eq, Value.display]
  | eq | exact | iExact | gt | gte | lt | lte | oneOf | between | isNull | order | left | page
  | pageSize => cases looks

/-- A set text field with a pattern operator binds one pattern. It matches exactly the texts that
hold the value where the operator's name says, precisely when the value has no wildcard; a backslash
is a character like any other. -/
theorem FieldSpec.pattern_literal_iff {m : FieldSpec} {op : Operator} {side : Text.Side}
    (named : m.operator? = some op) (looks : op.side? = some side) {content : Datum}
    (set : content.isZero = false) {v : String} (value : content.toValue = .text v) (o : Options)
    (path : String) :
    ∃ d pattern, m.descriptor? = some d ∧
      (m.visit o path content).steps =
        [.conjunct ⟨m.target d ++ " " ++ op.patternWord o.driver ++ " ?", [.text pattern]⟩] ∧
      ((∀ text : String,
          Text.like pattern.toList text.toList = true ↔ side.Holds v.toList text.toList) ↔
        '%' ∉ v.toList ∧ '_' ∉ v.toList) := by
  obtain ⟨d, said, operator⟩ := Option.bind_eq_some_iff.mp named
  have steps := steps_visit_some said operator o path content
  rw [set, value, columnOf_eq_target, Operator.steps_of_side? looks] at steps
  refine ⟨d, _, said, steps, ?_⟩
  rw [← Text.no_wildcard_iff, ← side.pattern_exact_iff, String.toList_ofList]
  constructor
  · intro exact cs
    simpa using exact (String.ofList cs)
  · exact fun exact text => exact text.toList

/-- A name without wildcards is looked for as it is, a discount with one is not. -/
theorem FieldSpec.pattern_literal_discount :
    (∃ d pattern, (ofName "name" "type:icontains;table:users").descriptor? = some d ∧
      ((ofName "name" "type:icontains;table:users").visit ⟨.postgres, .lenient⟩ ""
          (.text "ann")).steps =
        [.conjunct ⟨"users.name ILIKE ?", [.text pattern]⟩] ∧
      ∀ text : String, Text.like pattern.toList text.toList = true ↔ "ann".toList <:+: text.toList) ∧
    (ofName "off" "type:startswith").operator? = some .startsWith ∧
      (Datum.present (.text "50%")).isZero = false ∧
      ∃ pattern, ((ofName "off" "type:startswith").visit {} "" (.present (.text "50%"))).steps =
          [.conjunct ⟨"off LIKE ?", [.text pattern]⟩] ∧
        ¬ ∀ text : String,
          Text.like pattern.toList text.toList = true ↔ "50%".toList <+: text.toList := by
  have name : (ofName "name" "type:icontains;table:users").operator? = some .iContains := by decide
  have off : (ofName "off" "type:startswith").operator? = some .startsWith := by decide
  have ann : (Datum.text "ann").isZero = false := rfl
  have fifty : (Datum.present (.text "50%")).isZero = false := rfl
  refine ⟨?_, off, fifty, ?_⟩
  · obtain ⟨d, pattern, said, steps, exact⟩ :=
      pattern_literal_iff name rfl ann rfl ⟨.postgres, .lenient⟩ ""
    obtain rfl := Option.some.inj said
    exact ⟨_, pattern, rfl, steps, exact.mpr (by decide)⟩
  · obtain ⟨d, pattern, said, steps, exact⟩ :=
      pattern_literal_iff off rfl fifty rfl {} ""
    obtain rfl := Option.some.inj said
    refine ⟨pattern, steps, fun literal => ?_⟩
    exact absurd (exact.mp literal).1 (by decide)

end FilterSql
