import Mathlib.Data.List.Basic
import FilterSql.Proofs.Select.Replay

/-!
# What one more `AND` predicate does to a condition

A `WHERE` clause is written flat, so its meaning comes from precedence: it is a
row of alternatives, each a run of predicates tied by `AND`. A predicate added
with `AND` joins the run that it is written in and narrows that alternative. The
exception is the first place of the clause. The connective of the first
predicate is not written, and a predicate put before one that was added with
`OR` is an alternative of its own.

`admits_narrow` is the main result, and `narrow_admits_more` is a tree for which
narrowing fails. That a clause consists of the alternatives it is read as is
proved of its text (`written_as_alternatives`). Predicates may be true or false;
what a database makes of a null is left out.
-/

namespace FilterSql

namespace Select

/-- The alternatives of a condition that goes on after the predicates of one run. -/
def alternativesFrom (run : List Predicate) : List (Connective × Predicate) → List (List Predicate)
  | [] => [run]
  | (.and, p) :: rest => alternativesFrom (run ++ [p]) rest
  | (.or, p) :: rest => run :: alternativesFrom [p] rest

/-- The alternatives of a condition, `AND` binding tighter than `OR`. The connective of the first
predicate does not count. -/
def alternatives : List (Connective × Predicate) → List (List Predicate)
  | [] => []
  | (_, p) :: rest => alternativesFrom [p] rest

/-- Some alternative has nothing but true predicates. -/
def Met (truth : Predicate → Prop) (gs : List (List Predicate)) : Prop :=
  ∃ g ∈ gs, ∀ p ∈ g, truth p

/-- Whether the condition is true when the predicates have the given truth. No condition is true. -/
def Admits (s : Select) (truth : Predicate → Prop) : Prop :=
  s.predicates = [] ∨ Met truth (alternatives s.predicates)

section
variable {truth : Predicate → Prop}

@[simp] theorem met_nil : ¬ Met truth [] := by
  simp [Met]

@[simp] theorem met_cons (g : List Predicate) (gs : List (List Predicate)) :
    Met truth (g :: gs) ↔ (∀ p ∈ g, truth p) ∨ Met truth gs := by
  simp [Met]

/-- A run with fewer predicates under way is met more easily. -/
theorem met_alternativesFrom_mono {run longer : List Predicate} (fewer : run ⊆ longer)
    (rest : List (Connective × Predicate)) (met : Met truth (alternativesFrom longer rest)) :
    Met truth (alternativesFrom run rest) := by
  induction rest generalizing run longer with
  | nil =>
    rw [alternativesFrom, met_cons] at met ⊢
    exact met.imp_left fun each p member => each p (fewer member)
  | cons first rest ih =>
    obtain ⟨connective, q⟩ := first
    cases connective with
    | and =>
      have kept : run ++ [q] ⊆ longer ++ [q] := List.append_subset.mpr
        ⟨List.subset_append_of_subset_left _ fewer, List.subset_append_right _ _⟩
      exact ih kept met
    | or =>
      rw [alternativesFrom, met_cons] at met ⊢
      exact met.imp_left fun each p member => each p (fewer member)

/-- An `AND` predicate written behind others narrows the run that they end in. -/
theorem met_alternativesFrom_insert (run : List Predicate)
    (earlier : List (Connective × Predicate)) (p : Predicate)
    (later : List (Connective × Predicate))
    (met : Met truth (alternativesFrom run (earlier ++ (.and, p) :: later))) :
    Met truth (alternativesFrom run (earlier ++ later)) := by
  induction earlier generalizing run with
  | nil =>
    -- the new predicate lengthens the run under way, whatever connective comes behind it
    exact met_alternativesFrom_mono (List.subset_append_left run [p]) later met
  | cons first earlier ih =>
    obtain ⟨connective, q⟩ := first
    cases connective with
    | and => exact ih _ met
    | or =>
      rw [List.cons_append, alternativesFrom, met_cons] at met ⊢
      exact met.imp_right (ih [q])

end

theorem alternativesFrom_ne_nil (run : List Predicate) (ps : List (Connective × Predicate)) :
    alternativesFrom run ps ≠ [] := by
  induction ps generalizing run with
  | nil => exact List.cons_ne_nil _ _
  | cons first rest ih =>
    obtain ⟨connective, p⟩ := first
    cases connective with
    | and => exact ih _
    | or => exact List.cons_ne_nil _ _

def runText (run : List Predicate) : Statement :=
  (Statement.ofText Connective.and.text).intercalate (run.map Predicate.statement)

def alternativesText (gs : List (List Predicate)) : Statement :=
  (Statement.ofText Connective.or.text).intercalate (gs.map runText)

@[simp] theorem runText_singleton (p : Predicate) : runText [p] = p.statement :=
  List.intercalate_singleton

theorem runText_concat (p : Predicate) (run : List Predicate) (q : Predicate) :
    runText (p :: run ++ [q]) =
      runText (p :: run) ++ Statement.ofText Connective.and.text ++ q.statement := by
  unfold runText
  induction run generalizing p with
  | nil => simp [List.intercalate_cons_cons]
  | cons r run ih =>
    simp only [List.cons_append, List.map_cons, List.intercalate_cons_cons] at ih ⊢
    rw [ih]
    simp only [List.append_assoc]

/-- What is written of a condition are its alternatives. -/
theorem runText_furtherPredicates (p : Predicate) (run : List Predicate)
    (ps : List (Connective × Predicate)) :
    runText (p :: run) ++ furtherPredicates ps =
      alternativesText (alternativesFrom (p :: run) ps) := by
  induction ps generalizing p run with
  | nil =>
    rw [alternativesFrom, alternativesText, List.map_singleton, List.intercalate_singleton]
    exact List.append_nil _
  | cons first rest ih =>
    obtain ⟨connective, q⟩ := first
    rw [furtherPredicates, List.flatMap_cons, ← furtherPredicates]
    cases connective with
    | and =>
      rw [alternativesFrom, List.cons_append, ← ih, ← List.cons_append, runText_concat]
      simp only [List.append_assoc]
    | or =>
      have further : q.statement ++ furtherPredicates rest =
          alternativesText (alternativesFrom [q] rest) := by rw [← ih q [], runText_singleton]
      have some : (alternativesFrom [q] rest).map runText ≠ [] := by
        simpa using alternativesFrom_ne_nil [q] rest
      rw [alternativesFrom, alternativesText, List.map_cons,
        List.intercalate_cons_of_ne_nil some, ← alternativesText, ← further]
      simp only [List.append_assoc]

/-- The `WHERE` clause consists of these alternatives, written without brackets. -/
def WrittenAs (s : Select) (gs : List (List Predicate)) : Prop :=
  s.wherePart = if gs = [] then [] else Statement.ofText " WHERE " ++ alternativesText gs

/-- A condition is read as it is written: its alternatives are those of the `WHERE` clause. -/
theorem written_as_alternatives (s : Select) : s.WrittenAs (alternatives s.predicates) := by
  unfold WrittenAs wherePart
  cases s.predicates with
  | nil => rfl
  | cons first rest =>
    rw [alternatives, if_neg (alternativesFrom_ne_nil _ _), ← runText_furtherPredicates,
      runText_singleton, ← List.append_assoc]

end Select

namespace ConditionTree

/-- The scopes of a tree. -/
inductive Site (t : ConditionTree) where
  | root
  | join (i : Fin t.joins.length)

variable (t : ConditionTree) (p : Predicate)

/-- The tree after a predicate was added with `AND` to one of its scopes. -/
def narrow : t.Site → ConditionTree
  | .root => t.apply (.conjunct p)
  | .join i => { t with joins := t.joins.set i (t.joins[i].run [.conjunct p]) }

/-- The predicates written ahead of one that is added with `AND` to a scope. -/
def ahead : t.Site → List (Connective × Predicate)
  | .root => t.joins.flatMap (·.scope.tied) ++ t.root.conjuncts.map (Connective.and, ·)
  | .join i =>
    (t.joins.take i).flatMap (·.scope.tied) ++ t.joins[i].scope.conjuncts.map (Connective.and, ·)

/-- The predicates written behind one that is added with `AND` to a scope. -/
def behind : t.Site → List (Connective × Predicate)
  | .root => t.root.disjuncts.map (Connective.or, ·)
  | .join i =>
    t.joins[i].scope.disjuncts.map (Connective.or, ·) ++
      (t.joins.drop (i + 1)).flatMap (·.scope.tied) ++ t.root.tied

/-- A predicate added to the scope comes first, before one that was added with `OR`. -/
def OpensWithOr (site : t.Site) : Prop :=
  t.ahead site = [] ∧ (t.behind site).head?.map Prod.fst = some .or

theorem tied_eq (site : t.Site) : t.tied = t.ahead site ++ t.behind site := by
  cases site with
  | root => simp only [tied, ahead, behind, Scope.tied, List.append_assoc]
  | join i =>
    have split : t.joins = t.joins.take i ++ t.joins[i] :: t.joins.drop (i + 1) := by
      rw [Fin.getElem_fin, List.getElem_cons_drop, List.take_append_drop]
    rw [tied, ahead, behind]
    nth_rewrite 1 [split]
    simp only [List.flatMap_append, List.flatMap_cons, Scope.tied, List.append_assoc]

/-- The new predicate is written between what was ahead of it and what was behind it. -/
theorem tied_narrow (site : t.Site) :
    (t.narrow p site).tied = t.ahead site ++ (.and, p) :: t.behind site := by
  cases site with
  | root =>
    simp [tied, narrow, apply, Scope.add, ahead, behind, Scope.tied]
  | join i =>
    simp [tied, narrow, JoinScope.run, Scope.run, Scope.add, ahead, behind, Scope.tied,
      List.set_eq_take_append_cons_drop]

end ConditionTree

namespace Select

section
variable {truth : Predicate → Prop} {earlier later : List (Connective × Predicate)} {p : Predicate}

/-- Behind another predicate, or in front of one that was added with `AND`, the new one narrows. -/
theorem Met.narrowed (inside : earlier ≠ [] ∨ later.head?.map Prod.fst ≠ some .or)
    (met : Met truth (alternatives (earlier ++ (.and, p) :: later))) :
    earlier ++ later = [] ∨ Met truth (alternatives (earlier ++ later)) := by
  cases earlier with
  | cons first earlier => exact .inr (met_alternativesFrom_insert _ earlier p later met)
  | nil =>
    cases later with
    | nil => exact .inl rfl
    | cons first later =>
      obtain ⟨connective, q⟩ := first
      cases connective with
      | or => exact absurd rfl (inside.resolve_left (absurd rfl))
      | and => exact .inr (met_alternativesFrom_mono (List.subset_append_right [p] [q]) later met)

/-- In front of a predicate that was added with `OR`, the new one is an alternative. -/
theorem met_opening (opens : later.head?.map Prod.fst = some .or) :
    Met truth (alternatives ((.and, p) :: later)) ↔
      truth p ∨ (later = [] ∨ Met truth (alternatives later)) := by
  cases later with
  | nil => cases opens
  | cons first later =>
    obtain ⟨connective, q⟩ := first
    obtain rfl : connective = .or := Option.some.inj opens
    rw [alternatives, alternativesFrom, met_cons, alternatives, List.forall_mem_singleton]
    simp only [reduceCtorEq, false_or]

end

/-- The clause is written as the alternatives that it is read as. Whatever is true of the
predicates, one more `AND` predicate in any scope lets in nothing new, unless it comes first in the
clause and the predicate behind it was added with `OR`. There the two are tied by `OR`, and
everything that the new predicate is true of is let in besides. -/
theorem admits_narrow (table columns : String) (t : ConditionTree) (p : Predicate)
    (site : t.Site) :
    ∀ replay ∈ [forPage, forCount], ∀ truth : Predicate → Prop,
      let before := replay (fresh table columns) t
      let after := replay (fresh table columns) (t.narrow p site)
      before.WrittenAs (alternatives before.predicates) ∧
        after.WrittenAs (alternatives after.predicates) ∧
        (¬ t.OpensWithOr site → after.Admits truth → before.Admits truth) ∧
        (t.OpensWithOr site → (after.Admits truth ↔ truth p ∨ before.Admits truth)) := by
  intro replay either truth before after
  have replayed (u : ConditionTree) : (replay (fresh table columns) u).predicates = u.tied := by
    simp only [List.mem_cons, List.not_mem_nil, or_false] at either
    rcases either with rfl | rfl
    · rw [forPage_fresh]
    · rw [forCount_fresh]
  have old : before.predicates = t.ahead site ++ t.behind site := by
    rw [replayed, t.tied_eq site]
  have new : after.predicates = t.ahead site ++ (.and, p) :: t.behind site := by
    rw [replayed, t.tied_narrow]
  have written : after.predicates ≠ [] := by simp [new]
  refine ⟨before.written_as_alternatives, after.written_as_alternatives, ?_⟩
  unfold Admits
  rw [or_iff_right written, new, old]
  constructor
  · intro inside met
    exact met.narrowed (not_and_or.mp inside)
  · rintro ⟨first, opens⟩
    rw [first]
    exact met_opening opens

/-- Unpaid orders of users by name; the condition on the orders is an alternative. -/
def unpaidOrders : ConditionTree :=
  ConditionTree.run {}
    [.join .left "LEFT JOIN orders ON orders.user_id = users.id"
        [.disjunct ⟨"orders.paid IS NULL", []⟩],
      .conjunct ⟨"users.name = ?", [.text "ann"]⟩]

/-- At the root the amount joins the one alternative; in the orders it opens one of its own. -/
theorem unpaidOrders_admits_narrow :
    let total : Predicate := ⟨"orders.total >= ?", [.int 10]⟩
    let paid : Predicate := ⟨"orders.paid IS NULL", []⟩
    let ann : Predicate := ⟨"users.name = ?", [.text "ann"]⟩
    let users := fresh "users" "*"
    ¬ unpaidOrders.OpensWithOr .root ∧
      (users.forCount (unpaidOrders.narrow total .root)).WrittenAs [[paid, ann, total]] ∧
      (users.forCount (unpaidOrders.narrow total .root)).Admits (fun _ => True) ∧
      (users.forCount unpaidOrders).Admits (fun _ => True) ∧
      unpaidOrders.OpensWithOr (.join ⟨0, by decide⟩) ∧
      (users.forPage (unpaidOrders.narrow total (.join ⟨0, by decide⟩))).WrittenAs
        [[total], [paid, ann]] ∧
      (users.forPage (unpaidOrders.narrow total (.join ⟨0, by decide⟩))).Admits
        fun q => q.template = "orders.total >= ?" := by
  intro total paid ann users
  have inside : ¬ unpaidOrders.OpensWithOr .root := fun opens => by cases opens.1
  have opens : unpaidOrders.OpensWithOr (.join ⟨0, by decide⟩) := ⟨rfl, rfl⟩
  have everything : (users.forCount (unpaidOrders.narrow total .root)).Admits fun _ => True :=
    .inr ⟨_, List.mem_cons_self, fun _ _ => trivial⟩
  obtain ⟨-, one, narrows, -⟩ :=
    admits_narrow "users" "*" unpaidOrders total .root forCount (by simp) fun _ => True
  obtain ⟨-, two, -, widens⟩ :=
    admits_narrow "users" "*" unpaidOrders total (.join ⟨0, by decide⟩) forPage (by simp)
      fun q => q.template = "orders.total >= ?"
  exact ⟨inside, one, everything, narrows inside everything, opens, two,
    (widens opens).mpr (.inl rfl)⟩

/-- Filtering by `t.b` after an `OR` on `t.a` lets in what only `t.b` is true of. -/
theorem narrow_admits_more :
    let t := ConditionTree.run {} [.disjunct ⟨"t.a", []⟩]
    let truth : Predicate → Prop := fun q => q.template = "t.b"
    let after := (fresh "t" "*").forPage (t.narrow ⟨"t.b", []⟩ .root)
    (after.sql .other .rows).text = "SELECT * FROM t WHERE t.b OR t.a" ∧
      after.Admits truth ∧ ¬ ((fresh "t" "*").forPage t).Admits truth := by
  intro t truth after
  refine ⟨by decide +kernel, .inr ⟨[⟨"t.b", []⟩], List.mem_cons_self, by simp [truth]⟩, ?_⟩
  have old : ((fresh "t" "*").forPage t).predicates = [(.or, ⟨"t.a", []⟩)] := rfl
  unfold Admits
  rw [old]
  simp [alternatives, alternativesFrom, truth]

end Select

end FilterSql
