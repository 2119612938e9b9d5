import FilterSql.Proofs.Condition.Run
import FilterSql.Proofs.Text.LetterCase
import FilterSql.Record.Field

/-!
# What an operator yields

The steps of a set field, operator by operator: a predicate for an operator that
compares, an ordering, a paging text, or nothing. The templates are written out
here, so that what is proved of them does not rest on how they are put together.

`Operator.Writes` has the predicate of each operator that compares and
`Operator.Yields` the steps of all of them; `yields_steps` ties them to the
program. An operator that cannot use its value, as a range with one bound, yields
no step and reports nothing.
-/

namespace FilterSql

/-- Operators that compare a column with a value. The others order, page or join. -/
def Operator.compares : Operator → Bool
  | .order | .page | .pageSize | .left => false
  | _ => true

def Operator.patternWord (driver : Driver) (op : Operator) : String :=
  if driver = .postgres ∧ op ∈ [.iContains, .iStartsWith, .iEndsWith] then "ILIKE" else "LIKE"

/-- The predicate that an operator writes on a column for a value. -/
inductive Operator.Writes (driver : Driver) (column : String) (v : Value) :
    Operator → Predicate → Prop
  | equal {op : Operator} (among : op ∈ [.eq, .exact, .iExact]) :
      Writes driver column v op ⟨column ++ " = ?", [v]⟩
  | greater : Writes driver column v .gt ⟨column ++ " > ?", [v]⟩
  | atLeast : Writes driver column v .gte ⟨column ++ " >= ?", [v]⟩
  | less : Writes driver column v .lt ⟨column ++ " < ?", [v]⟩
  | atMost : Writes driver column v .lte ⟨column ++ " <= ?", [v]⟩
  | inside {op : Operator} (among : op ∈ [.like, .contains, .iContains]) :
      Writes driver column v op
        ⟨column ++ " " ++ op.patternWord driver ++ " ?",
          [.text ("%" ++ v.display ++ "%")]⟩
  | atStart {op : Operator} (among : op ∈ [.startsWith, .iStartsWith]) :
      Writes driver column v op
        ⟨column ++ " " ++ op.patternWord driver ++ " ?",
          [.text (v.display ++ "%")]⟩
  | atEnd {op : Operator} (among : op ∈ [.endsWith, .iEndsWith]) :
      Writes driver column v op
        ⟨column ++ " " ++ op.patternWord driver ++ " ?",
          [.text ("%" ++ v.display)]⟩
  | oneOf : Writes driver column v .oneOf ⟨column ++ " IN (?)", [.list v.elements]⟩
  | between {low high : Value} {rest : List Value} (bounds : v.elements = low :: high :: rest) :
      Writes driver column v .between ⟨column ++ " BETWEEN ? AND ?", [low, high]⟩
  | null (truth : v.isTruthy = true) : Writes driver column v .isNull ⟨column ++ " IS NULL", []⟩
  | notNull (truth : v.isTruthy = false) :
      Writes driver column v .isNull ⟨column ++ " IS NOT NULL", []⟩

inductive Operator.Yields (driver : Driver) (column : String) (v : Value) :
    Operator → List Step → Prop
  | predicate {op : Operator} {p : Predicate} (writes : op.Writes driver column v p) :
      Yields driver column v op [.conjunct p]
  | unbounded (few : v.elements.length < 2) : Yields driver column v .between []
  | ascending (word : Text.IsWord "asc" v.display) :
      Yields driver column v .order [.ordering (column ++ " ASC")]
  | descending (word : Text.IsWord "desc" v.display) :
      Yields driver column v .order [.ordering (column ++ " DESC")]
  | undirected (notAsc : ¬ Text.IsWord "asc" v.display) (notDesc : ¬ Text.IsWord "desc" v.display) :
      Yields driver column v .order []
  | page : Yields driver column v .page [.page v.display]
  | size : Yields driver column v .pageSize [.size v.display]
  | nothing : Yields driver column v .left []

theorem Step.compare_eq {op rest : String} (column : String) (v : Value)
    (written : " " ++ op ++ " ?" = rest) :
    Step.compare column op v = .conjunct ⟨column ++ rest, [v]⟩ := by
  rw [← written, compare, String.append_assoc, String.append_assoc, String.append_assoc]

/-- `asc` and `desc` name a direction in any letter case, and no other text does. -/
theorem sortDirection?_cases (v : Value) :
    (Text.IsWord "asc" v.display ∧ sortDirection? v = some "ASC") ∨
      (Text.IsWord "desc" v.display ∧ sortDirection? v = some "DESC") ∨
      (¬ Text.IsWord "asc" v.display ∧ ¬ Text.IsWord "desc" v.display ∧
        sortDirection? v = none) := by
  have ascending := Text.lower_eq_iff_isWord "asc" (by simp [Text.Ascii]) v.display
  have descending := Text.lower_eq_iff_isWord "desc" (by simp [Text.Ascii]) v.display
  unfold sortDirection?
  dsimp only
  by_cases asc : Text.lower v.display = "asc"
  · rw [if_pos asc]
    exact Or.inl ⟨ascending.mp asc, rfl⟩
  · rw [if_neg asc]
    by_cases desc : Text.lower v.display = "desc"
    · rw [if_pos desc]
      exact Or.inr (Or.inl ⟨descending.mp desc, rfl⟩)
    · rw [if_neg desc]
      exact Or.inr (Or.inr ⟨mt ascending.mpr asc, mt descending.mpr desc, rfl⟩)

theorem Driver.matchWord_eq_patternWord (driver : Driver) (op : Operator) :
    driver.matchWord op.isCaseInsensitive = op.patternWord driver := by
  cases driver <;> cases op <;> decide

theorem Step.matching_eq (driver : Driver) (op : Operator) (column pattern : String) :
    Step.matching driver op column pattern =
      .conjunct ⟨column ++ " " ++ op.patternWord driver ++ " ?", [.text pattern]⟩ := by
  rw [matching, compare, driver.matchWord_eq_patternWord]

namespace Operator

variable {op : Operator} {driver : Driver} {column : String} {v : Value}

/-- An operator yields what is listed for it, for every value. -/
theorem yields_steps (op : Operator) (driver : Driver) (column : String) (v : Value) :
    op.Yields driver column v (op.steps driver column v) := by
  have compared {as : Operator} {word rest : String} (written : " " ++ word ++ " ?" = rest)
      (writes : as.Writes driver column v ⟨column ++ rest, [v]⟩) :
      as.Yields driver column v [Step.compare column word v] := by
    rw [Step.compare_eq column v written]
    exact .predicate writes
  have matched {as : Operator} {pattern : String}
      (writes : as.Writes driver column v
        ⟨column ++ " " ++ as.patternWord driver ++ " ?", [.text pattern]⟩) :
      as.Yields driver column v [Step.matching driver as column pattern] := by
    rw [Step.matching_eq]
    exact .predicate writes
  cases op with
  | eq => exact compared rfl (.equal (by decide))
  | exact => exact compared rfl (.equal (by decide))
  | iExact => exact compared rfl (.equal (by decide))
  | gt => exact compared rfl .greater
  | gte => exact compared rfl .atLeast
  | lt => exact compared rfl .less
  | lte => exact compared rfl .atMost
  | like => exact matched (.inside (by decide))
  | contains => exact matched (.inside (by decide))
  | iContains => exact matched (.inside (by decide))
  | startsWith => exact matched (.atStart (by decide))
  | iStartsWith => exact matched (.atStart (by decide))
  | endsWith => exact matched (.atEnd (by decide))
  | iEndsWith => exact matched (.atEnd (by decide))
  | oneOf => exact .predicate .oneOf
  | between =>
    rcases bounds : v.elements with _ | ⟨low, _ | ⟨high, rest⟩⟩
    · rw [steps, bounds]
      exact .unbounded (by simp [bounds])
    · rw [steps, bounds]
      exact .unbounded (by simp [bounds])
    · rw [steps, bounds]
      exact .predicate (.between bounds)
  | isNull =>
    cases truth : v.isTruthy with
    | true =>
      rw [steps, truth]
      exact .predicate (.null truth)
    | false =>
      rw [steps, truth]
      exact .predicate (.notNull truth)
  | order =>
    rcases sortDirection?_cases v with ⟨word, found⟩ | ⟨word, found⟩ | ⟨notAsc, notDesc, found⟩
    · have clause : column ++ " " ++ "ASC" = column ++ " ASC" := by rw [String.append_assoc]; rfl
      rw [steps, found]
      dsimp only
      rw [clause]
      exact .ascending word
    · have clause : column ++ " " ++ "DESC" = column ++ " DESC" := by rw [String.append_assoc]; rfl
      rw [steps, found]
      dsimp only
      rw [clause]
      exact .descending word
    · rw [steps, found]
      exact .undirected notAsc notDesc
  | left => exact .nothing
  | page => exact .page
  | pageSize => exact .size

theorem Writes.compares {p : Predicate} (writes : op.Writes driver column v p) :
    op.compares = true ∧ (op = .between → 2 ≤ v.elements.length) := by
  have listed {ops : List Operator} (all : ∀ op ∈ ops, op.compares = true ∧ op ≠ .between)
      (among : op ∈ ops) : op.compares = true ∧ (op = .between → 2 ≤ v.elements.length) :=
    ⟨(all op among).1, fun range => absurd range (all op among).2⟩
  cases writes with
  | equal among => exact listed (by decide) among
  | inside among => exact listed (by decide) among
  | atStart among => exact listed (by decide) among
  | atEnd among => exact listed (by decide) among
  | between bounds => exact ⟨rfl, fun _ => by simp [bounds]⟩
  | greater | atLeast | less | atMost | oneOf | null | notNull => exact ⟨rfl, nofun⟩

/-- No operator adds to the `OR` list. -/
theorem Yields.disjuncts {steps : List Step} (yields : op.Yields driver column v steps) :
    steps.filterMap Step.disjunct? = [] := by
  cases yields <;> rfl

/-- No operator of a plain field opens a scope. -/
theorem Yields.scopes {steps : List Step} (yields : op.Yields driver column v steps) :
    steps.filterMap Step.scope? = [] := by
  cases yields <;> rfl

end Operator

end FilterSql
