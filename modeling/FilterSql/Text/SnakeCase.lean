import FilterSql.Text.LetterCase

/-!
# Snake case

A name is cut into words and the words are written in lower case with
underscores between them. A word ends at an underscore, which is removed, and
where the kind of character changes: between a letter and a digit, from lower to
upper case, and before the last capital of a run of capitals that a lower case
letter follows (`HTTPServer` is `http_server`). Words may be empty, so leading,
trailing and doubled underscores survive.

Letters of any script have their case, but they must be precomposed: a combining
mark is taken for a character of its own, so nothing ends between it and a
capital. Digits are those of ASCII.
-/

namespace FilterSql.Text

/-- Whether a word ends between `a` and `b`, where `b` is followed by the characters `next`. -/
def wordEnds (a b : Char) (next : List Char) : Bool :=
  (isLower a && isUpper b) ||
    ((isLower a || isUpper a) && b.isDigit) ||
    (a.isDigit && (isLower b || isUpper b)) ||
    (isUpper a && isUpper b && (next.head?.any isLower))

def words : List Char → List (List Char)
  | [] => [[]]
  | '_' :: r => [] :: words r
  | [c] => [[c]]
  | a :: b :: r =>
    if wordEnds a b r then [a] :: words (b :: r)
    else
      match words (b :: r) with
      | [] => [[a]]
      | w :: ws => (a :: w) :: ws

def snakeCase (name : String) : String :=
  String.ofList (['_'].intercalate ((words name.toList).map (lowered false)))

example : snakeCase "HTTPServer" = "http_server" ∧ snakeCase "ŠkolaId" = "škola_id" ∧
    snakeCase "_ΕΊΔΟΣ1" = "_είδος_1" := by
  decide +kernel

end FilterSql.Text
