import Mathlib.Data.List.Basic
import FilterSql.Proofs.Select.Arguments
import FilterSql.Proofs.Select.Builders

/-!
# Placeholders stay aligned with arguments

The text of a select read off its calls, for templates with any number of `?` and
any arguments. A template is the texts between its `?`, and each `?` becomes the
text of the next argument while there is one. What runs through it all is the
count of scalars bound so far, which numbers the next placeholder. Predicates,
their arguments, the elements of a list and the lists inside it each hand the
count on to what is written behind them.

`placeholders_aligned` holds for any list of calls, any driver and both queries.
The text on the other side (`frontText`, `conditionText`, `backText`) is made from
the select without statements or marks.
-/

namespace FilterSql

namespace Value

mutual

/-- The text of a value behind `n` arguments. A list without elements has no placeholder. -/
def spelled (d : Driver) (n : Nat) : Value → String
  | .list vs => if vs.isEmpty then "NULL" else ", ".intercalate (spelledAll d n vs)
  | _ => d.placeholder (n + 1)

/-- The texts of several values behind `n` arguments, each behind the scalars of those before it. -/
def spelledAll (d : Driver) (n : Nat) : List Value → List String
  | [] => []
  | v :: vs => v.spelled d n :: spelledAll d (n + v.scalars.length) vs

end

mutual

theorem not_list_of_mem_scalars {scalar : Value} :
    (v : Value) → scalar ∈ v.scalars → ∀ vs, scalar ≠ .list vs
  | .list vs, member => not_list_of_mem_scalarsList vs member
  | .null, member | .bool _, member | .int _, member | .uint _, member | .float _, member
  | .text _, member => by
    obtain rfl := List.mem_singleton.mp member
    exact fun _ => nofun

theorem not_list_of_mem_scalarsList {scalar : Value} :
    (vs : List Value) → scalar ∈ scalarsList vs → ∀ ws, scalar ≠ .list ws
  | [], member => absurd member List.not_mem_nil
  | v :: vs, member =>
    (List.mem_append.mp member).elim (not_list_of_mem_scalars v) (not_list_of_mem_scalarsList vs)

end

theorem scalarsList_eq (vs : List Value) : scalarsList vs = vs.flatMap scalars := by
  induction vs with
  | nil => rfl
  | cons v vs ih => rw [scalarsList, ih, List.flatMap_cons]

end Value

/-- What as many `?` as asked for become behind `n` arguments: each the text of the next value, and
those that come after the last value stay. -/
def Value.fillings (d : Driver) (n asked : Nat) (vs : List Value) : List String :=
  spelledAll d n (vs.take asked) ++ List.replicate (asked - vs.length) "?"

section
variable (d : Driver) (n asked : Nat)

@[simp] theorem Value.fillings_zero (vs : List Value) : fillings d n 0 vs = [] := by
  simp [fillings, spelledAll]

theorem Value.fillings_succ_nil :
    fillings d n (asked + 1) [] = "?" :: fillings d n asked [] := by
  simp [fillings, spelledAll, List.replicate_succ]

theorem Value.fillings_succ_cons (v : Value) (vs : List Value) :
    fillings d n (asked + 1) (v :: vs) =
      v.spelled d n :: fillings d (n + v.scalars.length) asked vs := by
  simp [fillings, spelledAll]

end

def Text.filled (texts : List (List Char)) (fillings : List String) : String :=
  String.join (List.zipWith (· ++ ·) (texts.map String.ofList) (fillings ++ [""]))

namespace Predicate

def asked (p : Predicate) : Nat :=
  p.template.toList.count '?'

/-- What a predicate binds: the scalars of as many arguments as are asked for. -/
def bound (p : Predicate) : List Value :=
  (p.args.take p.asked).flatMap Value.scalars

/-- The text of a predicate behind `n` arguments. -/
def spelled (d : Driver) (n : Nat) (p : Predicate) : String :=
  Text.filled (p.template.toList.splitOn '?') (Value.fillings d n p.asked p.args)

end Predicate

namespace Text

theorem filled_cons (text : List Char) (texts : List (List Char)) (filling : String)
    (fillings : List String) :
    filled (text :: texts) (filling :: fillings) =
      String.ofList text ++ filling ++ filled texts fillings :=
  String.join_cons

theorem filled_modifyHead (c : Char) {texts : List (List Char)} (some : texts ≠ [])
    (fillings : List String) :
    filled (texts.modifyHead (c :: ·)) fillings = String.singleton c ++ filled texts fillings := by
  obtain ⟨text, texts, rfl⟩ := List.exists_cons_of_ne_nil some
  unfold filled
  cases fillings with
  | nil => simp [String.ofList_cons]
  | cons filling fillings => simp [String.ofList_cons, String.append_assoc]

end Text

namespace Statement

mutual

theorem spell_ofValue (d : Driver) (n : Nat) :
    (v : Value) → String.ofList (spell d n (ofValue v)) = v.spelled d n
  | .list vs => by
    rw [ofValue, Value.spelled, spell_ofValues d n vs]
  | .null | .bool _ | .int _ | .uint _ | .float _ | .text _ => by
    rw [ofValue, spell, spell, List.append_nil, String.ofList_toList, Value.spelled]
    all_goals nofun

theorem spell_ofValues (d : Driver) (n : Nat) :
    (vs : List Value) → String.ofList (spell d n (ofValues vs)) =
      if vs.isEmpty then "NULL" else ", ".intercalate (Value.spelledAll d n vs)
  | [] => by
    rw [ofValues, spell_ofText, String.ofList_toList]
    rfl
  | [v] => by
    rw [ofValues, spell_ofValue d n v]
    have alone : ", ".intercalate [v.spelled d n] = v.spelled d n := String.intercalate_singleton
    exact alone.symm
  | v :: w :: vs => by
    have later := spell_ofValues d (n + v.scalars.length) (w :: vs)
    rw [ofValues, spell_append, spell_append, spell_ofText, String.ofList_append,
      String.ofList_append, spell_ofValue d n v, args_append, args_ofText, args_ofValue,
      List.append_nil, later, String.ofList_toList]
    exact String.intercalate_cons_cons.symm

end

theorem ofText_append (a b : String) : ofText (a ++ b) = ofText a ++ ofText b := by
  simp [ofText]

theorem ofText_empty : ofText "" = [] := by
  simp [ofText]

/-- A template filled in is its texts with what its `?` become between them. -/
theorem ofList_spell_fill (d : Driver) (n : Nat) (template : List Char) (vs : List Value) :
    String.ofList (spell d n (fill template vs)) =
      Text.filled (template.splitOn '?') (Value.fillings d n (template.count '?') vs) := by
  induction template generalizing n vs with
  | nil =>
    rw [fill, List.count_nil, Value.fillings_zero]
    rfl
  | cons c rest ih =>
    have further : rest.splitOn '?' ≠ [] := List.splitOn_ne_nil '?' rest
    rw [List.splitOn_cons_eq_if_modifyHead]
    by_cases mark : c = '?'
    · subst mark
      rw [if_pos (beq_self_eq_true '?'), List.count_cons_self]
      cases vs with
      | nil =>
        -- without arguments the count stands still, so the rest is numbered as before
        rw [Value.fillings_succ_nil, Text.filled_cons, ← ih n [], fill, spell, String.ofList_cons]
        rfl
      | cons v vs =>
        -- the scalars of the argument move the numbers of the rest
        rw [Value.fillings_succ_cons, Text.filled_cons, ← ih, fill, if_pos rfl, spell_append,
          String.ofList_append, spell_ofValue, args_ofValue, String.ofList_nil,
          String.empty_append]
    · have other : ¬ (c == '?') = true := by simpa using mark
      rw [if_neg other, Text.filled_modifyHead c further, List.count_cons_of_ne mark, ← ih n vs,
        ← String.ofList_cons]
      cases vs with
      | nil => rw [fill, spell]
      | cons v vs => rw [fill, if_neg mark, spell]

end Statement

namespace Predicate

/-- The arguments of a predicate, balanced or not. -/
theorem args_statement (p : Predicate) : p.statement.args = p.bound := by
  rw [statement, Statement.args_fill, Value.scalarsList_eq]
  rfl

theorem ofList_spell_statement (d : Driver) (n : Nat) (p : Predicate) :
    String.ofList (Statement.spell d n p.statement) = p.spelled d n :=
  Statement.ofList_spell_fill d n p.template.toList p.args

example :
    spelled .postgres 4
      ⟨"a IN (?) OR b = ? OR c = ?", [.list [.int 1, .list [], .list [.int 2]], .null]⟩ =
      "a IN ($5, NULL, $6) OR b = $7 OR c = ?" := by
  decide +kernel

end Predicate

def QueryCall.predicate? : QueryCall → Option (Connective × Predicate)
  | .conjunct p => some (.and, p)
  | .disjunct p => some (.or, p)
  | _ => none

namespace Select

/-- Predicates are collected in call order, from whichever scope they come. -/
theorem predicates_callAll (s : Select) (calls : List QueryCall) :
    (s.callAll calls).predicates = s.predicates ++ calls.filterMap QueryCall.predicate? := by
  induction calls generalizing s with
  | nil => exact (List.append_nil _).symm
  | cons c rest ih =>
    change ((s.call c).callAll rest).predicates = _
    rw [ih]
    cases c <;> simp [call, QueryCall.predicate?, List.filterMap_cons]

def headText (s : Select) : Query → String
  | .rows => "SELECT " ++ s.columns ++ " FROM " ++ s.table
  | .count => "SELECT COUNT(*) FROM " ++ s.table

def frontText (s : Select) (q : Query) : String :=
  s.headText q ++ String.join (s.joins.map (" " ++ ·))

def backText (s : Select) (d : Driver) : Query → String
  | .rows => s.orderText ++ s.limitText d ++ s.offsetText
  | .count => ""

def furtherText (d : Driver) (n : Nat) : List (Connective × Predicate) → String
  | [] => ""
  | (connective, p) :: rest =>
    connective.text ++ p.spelled d n ++ furtherText d (n + p.bound.length) rest

def conditionText (d : Driver) : List (Connective × Predicate) → String
  | [] => ""
  | (_, p) :: rest => " WHERE " ++ p.spelled d 0 ++ furtherText d p.bound.length rest

theorem ofList_spell_furtherPredicates (d : Driver) (n : Nat) (ps : List (Connective × Predicate)) :
    String.ofList (Statement.spell d n (furtherPredicates ps)) = furtherText d n ps := by
  induction ps generalizing n with
  | nil => rfl
  | cons first rest ih =>
    obtain ⟨connective, p⟩ := first
    rw [furtherPredicates, List.flatMap_cons, ← furtherPredicates]
    simp only [Statement.spell_append, Statement.spell_ofText, Statement.args_append,
      Statement.args_ofText, String.ofList_append, String.ofList_toList, List.nil_append,
      List.length_nil, Nat.add_zero, p.args_statement, p.ofList_spell_statement, ih, furtherText]

theorem ofList_spell_wherePart (s : Select) (d : Driver) :
    String.ofList (Statement.spell d 0 s.wherePart) = conditionText d s.predicates := by
  unfold wherePart
  cases s.predicates with
  | nil => rfl
  | cons first rest =>
    obtain ⟨connective, p⟩ := first
    simp only [Statement.spell_append, Statement.spell_ofText, Statement.args_append,
      Statement.args_ofText, String.ofList_append, String.ofList_toList, List.nil_append,
      List.length_nil, Nat.zero_add, p.args_statement, p.ofList_spell_statement,
      ofList_spell_furtherPredicates, conditionText]

theorem head_joinPart (s : Select) (q : Query) :
    s.head q ++ s.joinPart = Statement.ofText (s.frontText q) := by
  have joins : s.joinPart = Statement.ofText (String.join (s.joins.map (" " ++ ·))) := by
    unfold joinPart
    induction s.joins with
    | nil => exact Statement.ofText_empty.symm
    | cons clause rest ih =>
      rw [List.flatMap_cons, ih, List.map_cons, String.join_cons,
        Statement.ofText_append (" " ++ clause)]
  rw [frontText, Statement.ofText_append, joins]
  cases q <;> rfl

/-- A query is text around its conditions. -/
theorem statement_eq (s : Select) (d : Driver) (q : Query) :
    s.statement d q =
      Statement.ofText (s.frontText q) ++ s.wherePart ++ Statement.ofText (s.backText d q) := by
  rw [← head_joinPart]
  cases q with
  | rows => rfl
  | count =>
    rw [backText, Statement.ofText_empty]
    rfl

/-- The text of a query: the front, the conditions, and the back. -/
theorem text_sql_eq (s : Select) (d : Driver) (q : Query) :
    (s.sql d q).text = s.frontText q ++ conditionText d s.predicates ++ s.backText d q := by
  rw [sql, statement_eq, Statement.render_between, Statement.render, ofList_spell_wherePart]

/-- Whatever was called, with any templates and arguments, the arguments of a query are what its
predicates bind, in call order, and none of them is a list. The text is that of the predicates in
their places, and cut before each argument it shows the placeholders with the numbers from one on,
one for each argument and in the order of the arguments. -/
theorem placeholders_aligned (table columns : String) (calls : List QueryCall) (d : Driver)
    (q : Query) :
    let s := (fresh table columns).callAll calls
    let predicates := calls.filterMap QueryCall.predicate?
    let marks := s.statement d q
    (s.sql d q).args = predicates.flatMap (fun p => p.2.bound) ∧
      (∀ v ∈ (s.sql d q).args, ∀ vs, v ≠ .list vs) ∧
      (s.sql d q).text = s.frontText q ++ conditionText d predicates ++ s.backText d q ∧
      (s.sql d q).args = marks.pieces.map Prod.fst ∧
      (s.sql d q).text =
        marks.opening ++ Statement.weave d.placeholder (fun _ => "") 0 marks.pieces := by
  intro s predicates marks
  have called : s.predicates = predicates := by
    rw [predicates_callAll]
    rfl
  have args : (s.sql d q).args = predicates.flatMap fun p => p.2.bound := by
    change (s.statement d q).args = _
    simp only [args_statement, called, Predicate.args_statement]
  refine ⟨args, ?_, ?_, Statement.args_eq_pieces _, s.text_sql d q⟩
  · intro v member
    rw [args] at member
    obtain ⟨p, -, bound⟩ := List.mem_flatMap.mp member
    obtain ⟨arg, -, scalar⟩ := List.mem_flatMap.mp bound
    exact Value.not_list_of_mem_scalars arg scalar
  · rw [text_sql_eq, called]

end Select

end FilterSql
