import FilterSql.Text.Hidden

/-!
# String literals

A text as a double-quoted literal of generated source code. Quotes, backslashes
and line breaks have short escapes, and characters that a reader of the source
could not see are written by their code point.
-/

namespace FilterSql.Text

/-- The character by its code point, in lower-case hexadecimal digits. -/
def codePoint (c : Char) : List Char :=
  '\\' :: 'u' :: '{' :: Nat.toDigits 16 c.toNat ++ ['}']

/-- A null character before an octal digit, which would read as part of its short escape. -/
def nullEscape (next : List Char) : List Char :=
  if next.head?.any fun c => '0' ≤ c && c ≤ '7' then ['\\', 'x', '0', '0'] else ['\\', '0']

/-- A character of a literal, given those that follow it. -/
def escapeLiteral (c : Char) (next : List Char) : List Char :=
  if c = '\x00' then nullEscape next
  else if c = '\t' then ['\\', 't']
  else if c = '\n' then ['\\', 'n']
  else if c = '\r' then ['\\', 'r']
  else if c = '"' then ['\\', '"']
  else if c = '\\' then ['\\', '\\']
  else if isHidden c then codePoint c
  else [c]

def literalBody : List Char → List Char
  | [] => []
  | c :: r => escapeLiteral c r ++ literalBody r

def literal (s : String) : String :=
  String.ofList ('"' :: literalBody s.toList ++ ['"'])

end FilterSql.Text
