import FilterSql.Proofs.Statement.Spelling
import FilterSql.Select

/-!
# Builders agree with the text

A query written with a builder is the query written as text, for every builder
that appends text as it is and numbers its placeholders. Only Postgres adds
something: a cast behind each placeholder of a number that it has no type for.
Casts carry no arguments, so they move no number behind them.

In `builders_agree_with_text` a builder is known by two laws only
(`QueryBuilder.Appends`), so it may be any builder that obeys them, and
`Builder.appends_ofDriver` says that those of the drivers do.
-/

namespace FilterSql

/-- What is relied on: text is appended as it is, and an argument is counted and the placeholder of
its number appended. -/
structure QueryBuilder.Appends {β : Type} (b : QueryBuilder β) (placeholder : Nat → String) :
    Prop where
  text_empty : b.text b.empty = ""
  binds_empty : b.binds b.empty = 0
  text_push (x : β) (s : String) : b.text (b.push x s) = b.text x ++ s
  binds_push (x : β) (s : String) : b.binds (b.push x s) = b.binds x
  text_bind (x : β) (v : Value) : b.text (b.bind x v) = b.text x ++ placeholder (b.binds x + 1)
  binds_bind (x : β) (v : Value) : b.binds (b.bind x v) = b.binds x + 1

/-- The builders of the drivers do what is relied on. -/
theorem Builder.appends_ofDriver (d : Driver) : (ofDriver d).Appends d.placeholder where
  text_empty := rfl
  binds_empty := rfl
  text_push _ _ := rfl
  binds_push _ _ := rfl
  text_bind _ _ := rfl
  binds_bind _ _ := rfl

/-- What follows the placeholder of an argument on Postgres. -/
def Value.castText : Value → String
  | .uint n => if 9223372036854775807 < n.toNat then "::numeric" else ""
  | _ => ""

namespace Statement

def opening : Statement → String
  | [] => ""
  | .char c :: rest => String.singleton c ++ opening rest
  | .arg _ :: _ => ""

/-- The arguments, each with the text from it to the next one. -/
def pieces : Statement → List (Value × String)
  | [] => []
  | .char _ :: rest => pieces rest
  | .arg v :: rest => (v, opening rest) :: pieces rest

/-- A placeholder that shows its number. -/
def numbered (number : Nat) : String :=
  "$" ++ Decimal.ofNat number

/-- Pieces after each other when `n` arguments came before: of each, the placeholder, what is said
`after` its argument, and the text. -/
def weave (placeholder : Nat → String) (after : Value → String) (n : Nat) :
    List (Value × String) → String
  | [] => ""
  | (v, text) :: rest =>
    placeholder (n + 1) ++ after v ++ text ++ weave placeholder after (n + 1) rest

theorem args_eq_pieces (s : Statement) : s.args = s.pieces.map Prod.fst := by
  induction s with
  | nil => rfl
  | cons mark rest ih =>
    cases mark with
    | char c => exact ih
    | arg v => rw [args_arg, ih, pieces, List.map_cons]

/-- The text of a statement is its opening and its pieces, with nothing after an argument. -/
theorem ofList_spell (d : Driver) (n : Nat) (s : Statement) :
    String.ofList (spell d n s) = s.opening ++ weave d.placeholder (fun _ => "") n s.pieces := by
  induction s generalizing n with
  | nil => rfl
  | cons mark rest ih =>
    cases mark with
    | char c => rw [spell, String.ofList_cons, ih, opening, pieces, String.append_assoc]
    | arg v =>
      rw [spell, String.ofList_append, String.ofList_toList, ih, opening, pieces, weave,
        String.empty_append, String.append_empty, String.append_assoc]

end Statement

namespace QueryBuilder

def castText (d : Driver) (v : Value) : String :=
  if needsCast d v then "::numeric" else ""

theorem castText_mysql : castText .mysql = fun _ => "" := by
  funext v
  cases v <;> rfl

theorem castText_postgres : castText .postgres = Value.castText := by
  funext v
  cases v with
  | uint n =>
    have limit : Int64.maxValue.toInt < n.toNat ↔ 9223372036854775807 < n.toNat := by
      have greatest : Int64.maxValue.toInt = 9223372036854775807 := by decide
      omega
    simp [castText, needsCast, Value.castText, limit]
  | null | bool | int | float | text | list => rfl

section
variable {β : Type} {b : QueryBuilder β} {placeholder : Nat → String}
  (appends : b.Appends placeholder) (d : Driver)

include appends

theorem text_add_char (x : β) (c : Char) :
    b.text (b.add d x (.char c)) = b.text x ++ String.singleton c :=
  appends.text_push x _

theorem binds_add_char (x : β) (c : Char) : b.binds (b.add d x (.char c)) = b.binds x :=
  appends.binds_push x _

theorem text_add_arg (x : β) (v : Value) :
    b.text (b.add d x (.arg v)) = b.text x ++ placeholder (b.binds x + 1) ++ castText d v := by
  unfold add castText
  dsimp only
  split
  · rw [appends.text_push, appends.text_bind]
  · rw [appends.text_bind, String.append_empty]

theorem binds_add_arg (x : β) (v : Value) : b.binds (b.add d x (.arg v)) = b.binds x + 1 := by
  unfold add
  dsimp only
  split
  · rw [appends.binds_push, appends.binds_bind]
  · exact appends.binds_bind x _

/-- Writing on from any builder appends the opening and the pieces; the number of arguments that
it holds already is all that matters of it. -/
theorem text_foldl (s : Statement) (x : β) :
    b.text (s.foldl (b.add d) x) =
      b.text x ++ (s.opening ++ Statement.weave placeholder (castText d) (b.binds x) s.pieces) := by
  induction s generalizing x with
  | nil => exact String.append_empty.symm
  | cons mark rest ih =>
    cases mark with
    | char c =>
      rw [List.foldl_cons, ih, text_add_char appends, binds_add_char appends, Statement.opening,
        Statement.pieces]
      simp only [String.append_assoc]
    | arg v =>
      rw [List.foldl_cons, ih, text_add_arg appends, binds_add_arg appends, Statement.opening,
        Statement.pieces, Statement.weave, String.empty_append]
      simp only [String.append_assoc]

theorem binds_foldl (s : Statement) (x : β) :
    b.binds (s.foldl (b.add d) x) = b.binds x + s.args.length := by
  induction s generalizing x with
  | nil => rfl
  | cons mark rest ih =>
    cases mark with
    | char c => rw [List.foldl_cons, ih, binds_add_char appends, Statement.args_char]
    | arg v =>
      rw [List.foldl_cons, ih, binds_add_arg appends, Statement.args_arg, List.length_cons]
      omega

/-- A builder writes the opening and then, piece by piece, a placeholder, a cast and the text. -/
theorem text_write (s : Statement) :
    b.text (b.write d s) =
      s.opening ++ Statement.weave placeholder (castText d) 0 s.pieces := by
  rw [write, text_foldl appends, appends.text_empty, appends.binds_empty, String.empty_append]

theorem binds_write (s : Statement) : b.binds (b.write d s) = s.args.length := by
  rw [write, binds_foldl appends, appends.binds_empty, Nat.zero_add]

end

end QueryBuilder

namespace Select

/-- The text of a query in pieces. -/
theorem text_sql (s : Select) (d : Driver) (q : Query) :
    (s.sql d q).text =
      (s.statement d q).opening ++
        Statement.weave d.placeholder (fun _ => "") 0 (s.statement d q).pieces :=
  Statement.ofList_spell d 0 _

/-- On MySQL a builder holds the text itself. On Postgres the text and what a builder holds are
made of the same pieces, one for each argument, and a builder holds a cast behind the placeholders
of unsigned numbers above the signed range. On both, as many arguments are bound as the text has. -/
theorem builders_agree_with_text {μ π : Type} {mysql : QueryBuilder μ} {postgres : QueryBuilder π}
    (unnumbered : mysql.Appends fun _ => "?") (counting : postgres.Appends Statement.numbered)
    (s : Select) (q : Query) :
    mysql.text (s.build mysql .mysql q) = (s.sql .mysql q).text ∧
      mysql.binds (s.build mysql .mysql q) = (s.sql .mysql q).args.length ∧
      let marks := s.statement .postgres q
      (s.sql .postgres q).args = marks.pieces.map Prod.fst ∧
      (s.sql .postgres q).text =
        marks.opening ++ Statement.weave Statement.numbered (fun _ => "") 0 marks.pieces ∧
      postgres.text (s.build postgres .postgres q) =
        marks.opening ++ Statement.weave Statement.numbered Value.castText 0 marks.pieces ∧
      postgres.binds (s.build postgres .postgres q) = (s.sql .postgres q).args.length := by
  refine ⟨?_, QueryBuilder.binds_write unnumbered .mysql _, Statement.args_eq_pieces _, ?_, ?_,
    QueryBuilder.binds_write counting .postgres _⟩
  · rw [build, QueryBuilder.text_write unnumbered, QueryBuilder.castText_mysql, text_sql]
    rfl
  · rw [text_sql]
    rfl
  · rw [build, QueryBuilder.text_write counting, QueryBuilder.castText_postgres]

/-- Rows by number in a nested list, or by size with a `?` too many, from the sixth on. -/
def numbersInLists : Select :=
  (ofTable "t").callAll
    [.conjunct ⟨"id IN (?)",
        [.list [.uint 9223372036854775808, .list [.uint 9223372036854775807, .list []], .null]]⟩,
      .disjunct ⟨"size = ? OR size IS ?", [.uint 18446744073709551615]⟩,
      .offset 5]

/-- Numbers beyond the signed range are cast on Postgres; the `?` too many stays. -/
theorem numbersInLists_builders :
    (Builder.ofDriver .mysql).Appends (fun _ => "?") ∧
      (Builder.ofDriver .postgres).Appends Statement.numbered ∧
      (numbersInLists.build (Builder.ofDriver .mysql) .mysql .rows).text =
        (numbersInLists.sql .mysql .rows).text ∧
      (numbersInLists.sql .postgres .rows).text =
        "SELECT * FROM t WHERE id IN ($1, $2, NULL, $3) OR size = $4 OR size IS ? OFFSET 5" ∧
      (numbersInLists.build (Builder.ofDriver .postgres) .postgres .rows).text =
        "SELECT * FROM t WHERE id IN ($1::numeric, $2, NULL, $3) OR size = $4::numeric" ++
          " OR size IS ? OFFSET 5" ∧
      (numbersInLists.build (Builder.ofDriver .postgres) .postgres .rows).binds = 4 := by
  have unnumbered : (Builder.ofDriver .mysql).Appends fun _ => "?" := Builder.appends_ofDriver .mysql
  have counting : (Builder.ofDriver .postgres).Appends Statement.numbered :=
    Builder.appends_ofDriver .postgres
  obtain ⟨same, -, -, text, cast, binds⟩ :=
    builders_agree_with_text unnumbered counting numbersInLists .rows
  simp only [Builder.text_ofDriver, Builder.binds_ofDriver] at same cast binds
  refine ⟨unnumbered, counting, same, text.trans ?_, cast.trans ?_, binds.trans ?_⟩
  · decide +kernel
  · decide +kernel
  · decide +kernel

end Select

end FilterSql
