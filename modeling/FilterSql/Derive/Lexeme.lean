import FilterSql.Text.Blank
import FilterSql.Text.Literal

/-!
# Lexemes

The smallest parts of the source text of a declaration: names, lifetimes, literals,
punctuation marks and brackets. Blanks and comments only separate them, and a
documentation comment stands for the attribute that it abbreviates. Every text has
lexemes: what is no part of the language counts as a mark, and what is left open
ends with the text.
-/

namespace FilterSql.Derive

inductive Bracket where
  | round | square | curly
  deriving DecidableEq, Repr

inductive Lexeme where
  /-- A name or a keyword; a raw name keeps its mark. -/
  | name (text : String)
  /-- A lifetime with its quote. -/
  | lifetime (text : String)
  /-- A number, a character or a string, as it is written. -/
  | literal (text : String)
  /-- A punctuation mark; `joint` when the next one follows without a blank. -/
  | mark (c : Char) (joint : Bool)
  | opening (b : Bracket)
  | closing (b : Bracket)
  deriving DecidableEq, Repr

namespace Bracket

def opens : Bracket → String
  | round => "("
  | square => "["
  | curly => "\x7b"

def closes : Bracket → String
  | round => ")"
  | square => "]"
  | curly => "\x7d"

def lexeme? (c : Char) : Option Lexeme :=
  [round, square, curly].findSome? fun b =>
    if String.singleton c = b.opens then some (.opening b)
    else if String.singleton c = b.closes then some (.closing b)
    else none

end Bracket

namespace Lexeme

/-! ### Characters and words -/

/-- Blanks between lexemes: white space and the two marks that set a direction of writing. -/
def isBlank (c : Char) : Bool :=
  Text.isBlank c || c == '\u200E' || c == '\u200F'

/-- ASCII letters, underscores and all characters beyond ASCII that are no blanks begin a name. -/
def beginsName (c : Char) : Bool :=
  c.isAlpha || c == '_' || (0x80 ≤ c.toNat && !isBlank c)

def continuesName (c : Char) : Bool :=
  beginsName c || c.isDigit

/-- Characters that are punctuation marks. A quote is one at the head of a lifetime. -/
def isMark (c : Char) : Bool :=
  "~!@#$%^&*-=+|;:,<.>/?'".toList.contains c

/-- Words that the declaration language keeps for itself; they cannot be names. -/
def reservedWords : List String :=
  ["_", "abstract", "as", "async", "await", "become", "box", "break", "const", "continue", "crate",
    "do", "dyn", "else", "enum", "extern", "false", "final", "fn", "for", "if", "impl", "in", "let",
    "loop", "macro", "match", "mod", "move", "mut", "override", "priv", "pub", "ref", "return",
    "Self", "self", "static", "struct", "super", "trait", "true", "try", "type", "typeof", "unsafe",
    "unsized", "use", "virtual", "where", "while", "yield"]

def beginsComment : List Char → Bool
  | '/' :: '/' :: _ | '/' :: '*' :: _ => true
  | _ => false

/-! ### Extents

How many characters belong to a lexeme that has begun. -/

def nameExtent (s : List Char) : Nat :=
  (s.takeWhile continuesName).length

/-- The rest of a literal between quotes, with the closing one. A backslash takes the next
character along. -/
def quotedExtent (quote : Char) : List Char → Nat
  | [] => 0
  | '\\' :: _ :: s => 2 + quotedExtent quote s
  | c :: s => if c = quote then 1 else 1 + quotedExtent quote s

/-- The rest of a raw string, up to a quote with as many hash marks as stand before it. -/
def rawExtent (hashes : List Char) : List Char → Nat
  | [] => 0
  | c :: s =>
    if c = '"' ∧ hashes.isPrefixOf s then 1 + hashes.length else 1 + rawExtent hashes s

/-- The rest of a comment with so many levels open. -/
def commentExtent : Nat → List Char → Nat
  | _, [] => 0
  | depth, '*' :: '/' :: s => if depth ≤ 1 then 2 else 2 + commentExtent (depth - 1) s
  | depth, '/' :: '*' :: s => 2 + commentExtent (depth + 1) s
  | depth, _ :: s => 1 + commentExtent depth s

/-- The characters before the end of a line: a line feed, or a carriage return that stands before
one. -/
def lineExtent : List Char → Nat
  | [] | '\n' :: _ | '\r' :: '\n' :: _ => 0
  | _ :: s => 1 + lineExtent s

/-- A name that follows a literal at once belongs to it. -/
def suffixExtent (s : List Char) : Nat :=
  if s.head?.any beginsName then nameExtent s else 0

def continuesDigits (c : Char) : Bool :=
  c.isDigit || c == '_'

/-- The exponent of a number after its letter, if it has a digit. A sign stands before the first
digit. -/
def exponentExtent? (s : List Char) : Option Nat :=
  let gap := (s.takeWhile (· == '_')).length
  let sign := if (s.drop gap).head?.any (fun c => c == '+' || c == '-') then 1 else 0
  let digits := (s.drop (gap + sign)).takeWhile continuesDigits
  if digits.any Char.isDigit then some (gap + sign + digits.length) else none

/-- The extent of a number with a point or an exponent, without a suffix. A point belongs to the
number unless a second one or a name follows; the letter of an exponent without digits is left to
the suffix. -/
def fractionExtent? (s : List Char) : Option Nat :=
  let isLetter (c : Char) : Bool := c == 'e' || c == 'E'
  let whole := (s.takeWhile continuesDigits).length
  match s.drop whole with
  | '.' :: t =>
    if t.head?.any (fun c => c == '.' || beginsName c) then none
    else
      let n := whole + 1 + (t.takeWhile continuesDigits).length
      match s.drop n with
      | c :: u => some (if isLetter c then n + ((exponentExtent? u).map (1 + ·)).getD 0 else n)
      | [] => some n
  | c :: u => if isLetter c then (exponentExtent? u).map (whole + 1 + ·) else none
  | [] => none

/-- The extent of a number from its first digit. Without a point or an exponent its base, digits and
suffix look like a name. -/
def numberExtent (s : List Char) : Nat :=
  (fractionExtent? s).getD (nameExtent s)

/-! ### Reading

Each reader takes what follows the first character or characters of a lexeme and gives the lexemes
with the number of characters taken. -/

/-- The attribute that a documentation comment abbreviates; `inner` for one about what it stands
in. -/
def documentation (inner : Bool) (text : List Char) : List Lexeme :=
  [mark '#' false] ++ (if inner then [mark '!' false] else []) ++
    [opening .square, name "doc", mark '=' false, literal (Text.literal (String.ofList text)),
      closing .square]

/-- A comment up to the line end, after its two slashes. A third slash makes it documentation, a
fourth does not. -/
def readLineComment (s : List Char) : List Lexeme × Nat :=
  let line := s.take (lineExtent s)
  (match line with
    | '/' :: '/' :: _ => []
    | '/' :: text => documentation false text
    | '!' :: text => documentation true text
    | _ => [],
    line.length)

/-- A comment between marks, after the opening one. A second star makes it documentation unless
another one or the closing mark follows at once. -/
def readComment (s : List Char) : List Lexeme × Nat :=
  let n := commentExtent 1 s
  (match s.take (n - 2) with
    | '*' :: '*' :: _ | ['*'] => []
    | '*' :: text => documentation false text
    | '!' :: text => documentation true text
    | _ => [],
    n)

/-- The literal that ends after so many of the characters behind the first one, and its suffix. -/
def readLiteral (c : Char) (s : List Char) (n : Nat) : List Lexeme × Nat :=
  let m := n + suffixExtent (s.drop n)
  ([literal (String.ofList (c :: s.take m))], m)

/-- What begins like a name, after its first character: it may be a raw name or the letters before
the quote of a literal. -/
def readName (c : Char) (s : List Char) : List Lexeme × Nat :=
  let n := nameExtent s
  let word := c :: s.take n
  let rest := s.drop n
  let text (extent : Nat) : String := String.ofList (c :: s.take extent)
  let raw := word = ['r'] ∨ word = ['b', 'r'] ∨ word = ['c', 'r']
  let plain := word = ['b'] ∨ word = ['c']
  let hashes := rest.takeWhile (· == '#')
  match rest.drop hashes.length with
  | '"' :: t =>
    if raw then readLiteral c s (n + hashes.length + 1 + rawExtent hashes t)
    else if plain ∧ hashes = [] then readLiteral c s (n + 1 + quotedExtent '"' t)
    else ([name (text n)], n)
  | '\'' :: t =>
    if word = ['b'] ∧ hashes = [] then readLiteral c s (n + 1 + quotedExtent '\'' t)
    else ([name (text n)], n)
  | d :: t =>
    if word = ['r'] ∧ hashes = ['#'] ∧ beginsName d then
      let m := n + 2 + nameExtent t
      ([name (text m)], m)
    else ([name (text n)], n)
  | [] => ([name (text n)], n)

/-- What begins with a single quote, after it: a character, or a lifetime. -/
def readQuote (s : List Char) : List Lexeme × Nat :=
  let text (extent : Nat) : String := String.ofList ('\'' :: s.take extent)
  match s with
  | '\\' :: _ => readLiteral '\'' s (quotedExtent '\'' s)
  | _ :: '\'' :: _ => readLiteral '\'' s 2
  | 'r' :: '#' :: t =>
    let n := 2 + nameExtent t
    ([lifetime (text n)], n)
  | _ =>
    let n := nameExtent s
    ([lifetime (text n)], n)

/-- The lexemes that begin with a character, and how many of the following ones they take. -/
def read (c : Char) (s : List Char) : List Lexeme × Nat :=
  match Bracket.lexeme? c, c, s with
  | some b, _, _ => ([b], 0)
  | none, '/', '/' :: t => let (ls, n) := readLineComment t; (ls, n + 1)
  | none, '/', '*' :: t => let (ls, n) := readComment t; (ls, n + 1)
  | none, '"', _ => readLiteral c s (quotedExtent '"' s)
  | none, '\'', _ => readQuote s
  | none, _, _ =>
    if isBlank c then ([], 0)
    else if beginsName c then readName c s
    else if c.isDigit then readLiteral c s (numberExtent (c :: s) - 1)
    else ([mark c (s.head?.any isMark && !beginsComment s)], 0)

def ofChars : List Char → List Lexeme
  | [] => []
  | c :: s =>
    let (ls, n) := read c s
    ls ++ ofChars (s.drop n)
termination_by s => s.length
decreasing_by
  simp only [List.length_drop, List.length_cons]
  omega

def ofText (s : String) : List Lexeme :=
  ofChars s.toList

end Lexeme

end FilterSql.Derive
