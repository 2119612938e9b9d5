import Mathlib.Data.List.Basic
import FilterSql.Proofs.Condition.Run
import FilterSql.Proofs.Record.Calls
import FilterSql.Proofs.Record.Compiling
import FilterSql.Proofs.Record.FieldSteps

/-!
# The first paging text wins

A record offers texts for its page and its page size in the order of the visit:
from set fields, and from conditions of its own. The first that says something is
kept, over the whole walk. What is behind a join offers nothing.

`first_offered_kept` covers both slots and the window. A text may be offered by a
field of any type: what counts is how its value reads, not what it is.
-/

namespace FilterSql

inductive PageSlot where
  | page | size
  deriving DecidableEq, Repr

namespace PageSlot

def operator : PageSlot → Operator
  | page => .page
  | size => .pageSize

/-- The text that a step offers, empty or not. -/
def given? : PageSlot → Step → Option String
  | page, .page text => some text
  | size, .size text => some text
  | _, _ => none

def kept? (paging : PageInput) : PageSlot → Option String
  | page => paging.page
  | size => paging.size

end PageSlot

/-- The text that a call offers: that of a set field with the operator of the slot, or that of a
condition. -/
def Call.offered? (slot : PageSlot) : Call → Option String
  | .field m content =>
    if m.operator? = some slot.operator ∧ content.isZero = false then some content.toValue.display
    else none
  | .condition step => slot.given? step
  | .join .. => none
  | .flatten _ => none
  | .whenDriver .. => none

/-- The texts that a record offers for a driver, in the order of the visit. -/
def Record.offered (d : Driver) (slot : PageSlot) (r : Record) : List String :=
  (r.reached d).filterMap (Call.offered? slot)

theorem findSome?_filter {α β : Type} (f : α → Option β) (p : β → Bool) (l : List α) :
    l.findSome? (fun a => (f a).filter p) = (l.filterMap f).find? p := by
  induction l with
  | nil => rfl
  | cons a rest ih =>
    cases given : f a with
    | none => simp [given, ih]
    | some b => cases kept : p b <;> simp [given, kept, ih]

namespace PageSlot

/-- Of the texts that the steps of a run offer, the first that says something is kept. -/
theorem kept?_run (slot : PageSlot) (steps : List Step) :
    slot.kept? (ConditionTree.run {} steps).paging =
      (steps.filterMap slot.given?).find? fun text => !text.isEmpty := by
  have page : Step.page? = fun step => (PageSlot.page.given? step).filter (!·.isEmpty) := by
    funext step
    cases step <;> simp [Step.page?, given?, Option.filter]
  have size : Step.size? = fun step => (PageSlot.size.given? step).filter (!·.isEmpty) := by
    funext step
    cases step <;> simp [Step.size?, given?, Option.filter]
  rw [ConditionTree.run_paging, page, size, ← findSome?_filter]
  cases slot with
  | page => exact Option.none_or
  | size => exact Option.none_or

/-- An operator offers a paging text exactly if it is that of the slot. -/
theorem given_yields (slot : PageSlot) {op : Operator} {driver : Driver} {column : String}
    {v : Value} {steps : List Step} (yields : op.Yields driver column v steps) :
    steps.filterMap slot.given? = if op = slot.operator then [v.display] else [] := by
  cases yields with
  | predicate writes =>
    have other : op ≠ slot.operator := by
      rintro rfl
      have compares := writes.compares.1
      cases slot <;> cases compares
    rw [if_neg other]
    cases slot <;> rfl
  | unbounded | ascending | descending | undirected | page | size | nothing =>
    cases slot <;> rfl

end PageSlot

/-- A visit offers what its call offers. -/
theorem FieldSpec.given_visit (slot : PageSlot) (o : Options) (path : String) (m : FieldSpec)
    (content : Datum) :
    (m.visit o path content).steps.filterMap slot.given? =
      ((Call.field m content).offered? slot).toList := by
  rw [Call.offered?]
  rcases m.visit_yields o path content with ⟨idle, steps⟩ | ⟨d, op, _, _, named, set, yields⟩
  · have silent : ¬ (m.operator? = some slot.operator ∧ content.isZero = false) := by
      rintro ⟨named, set⟩
      rcases idle with unnamed | unset
      · simp [unnamed] at named
      · simp [unset] at set
    rw [steps, if_neg silent]
    rfl
  · rw [slot.given_yields yields, named]
    by_cases ours : op = slot.operator
    · simp [ours, set]
    · simp [ours]

namespace Record

/-- The steps of a walk offer what the record offers. -/
theorem given_walk (slot : PageSlot) (o : Options) (place : Place) (path : String) (r : Record) :
    (r.walk o place path).steps.filterMap slot.given? = r.offered o.driver slot := by
  rw [walk_eq_reached, Outcome.ofCalls, List.filterMap_flatMap, offered,
    List.filterMap_eq_flatMap_toList (Call.offered? slot)]
  apply List.flatMap_congr
  intro c among
  rcases r.reached_kinds o.driver c among with ⟨m, x, rfl⟩ | ⟨m, s, rfl⟩ | ⟨step, rfl⟩
  · exact m.given_visit slot o path x
  · exact FieldSpec.filterMap_visitJoin (fun _ _ _ => by cases slot <;> rfl) ..
  · rw [Call.walk, Call.offered?, List.filterMap_cons]
    cases slot.given? step <;> rfl

/-- The page and the page size of a record are each the first text offered for it that is not
empty, and unset if there is none. There is a window exactly if both are set, and it is theirs. -/
theorem first_offered_kept (r : Record) (d : Driver) :
    ∃ c, r.compile ⟨d, .lenient⟩ = .ok c ∧
      (∀ slot : PageSlot, slot.kept? c.tree.paging =
        (r.offered d slot).find? fun text => !text.isEmpty) ∧
      ∀ w, c.tree.window = some w ↔
        ∃ page size, c.tree.paging.page = some page ∧ c.tree.paging.size = some size ∧
          w = Window.ofTexts page size := by
  refine ⟨_, r.compile_lenient d, ?_, ?_⟩
  · intro slot
    have offered := r.given_walk slot ⟨d, .lenient⟩ .root ""
    rw [compiled, PageSlot.kept?_run, offered]
  · intro w
    unfold ConditionTree.window PageInput.window
    generalize (r.compiled ⟨d, .lenient⟩).tree.paging = paging
    obtain ⟨_ | page, _ | size⟩ := paging
    · simp
    · simp
    · simp
    · simp [eq_comm]

/-- An empty text is offered and not kept, and a page behind a join is not even offered. -/
example :
    let r := made
      [.field (.ofName "page" "page") (.present (.text "")),
        .join (.ofName "orders" "type:left;join:orders;on:user_id:id;table:users")
          (made [.field (.ofName "page" "page") (.signed 9)] none),
        .flatten (made [.condition (.page "3")] none),
        .field (.ofName "page" "page") (.signed 4)]
      none
    r.offered .mysql .page = ["", "3", "4"] ∧
      (r.compiled ⟨.mysql, .lenient⟩).tree.paging = ⟨some "3", none⟩ := by
  decide +kernel

end Record

end FilterSql
