import FilterSql.Number.Decimal

/-!
# JSON documents

The syntax of JSON as data, and its compact text. A number keeps the digits it
was written with, so that reading a document decides nothing about its range. A
text is a sequence of characters in which a surrogate escape without its partner
is kept as a gap: such a text is well formed as syntax but denotes no string.
-/

namespace FilterSql

/-- A number as written: `whole.fraction` times ten to the exponent. -/
structure Json.Numeral where
  negative : Bool
  /-- The digits before the point; no leading zero unless it is the only digit. -/
  whole : List Char
  /-- The digits after the point; none if there is no point. -/
  fraction : List Char
  exponent : Option Int
  deriving DecidableEq, Repr

/-- A JSON document. In a text, `none` stands for a surrogate escape without its partner. -/
inductive Json where
  | null
  | bool (b : Bool)
  | number (n : Json.Numeral)
  | text (units : List (Option Char))
  | array (items : List Json)
  | object (members : List (List (Option Char) × Json))
  deriving Repr, Inhabited

namespace Json

def ofString (s : String) : Json :=
  .text (s.toList.map some)

/-- The string that a text denotes, if every surrogate escape has its partner. -/
def string? (units : List (Option Char)) : Option String :=
  (units.mapM id).map String.ofList

def ofInt (n : Int) : Json :=
  .number ⟨decide (n < 0), Nat.toDigits 10 n.natAbs, [], none⟩

mutual

/-- How deep arrays and objects are nested: zero for a scalar. -/
def nesting : Json → Nat
  | array items => nestingItems items + 1
  | object members => nestingMembers members + 1
  | _ => 0

def nestingItems : List Json → Nat
  | [] => 0
  | j :: js => max j.nesting (nestingItems js)

def nestingMembers : List (List (Option Char) × Json) → Nat
  | [] => 0
  | (_, j) :: ms => max j.nesting (nestingMembers ms)

end

/-! ### Compact text -/

def hex4 (n : Nat) : List Char :=
  [n / 4096 % 16, n / 256 % 16, n / 16 % 16, n % 16].map Nat.digitChar

/-- A character inside a quoted text: only quotes, backslashes and control characters are
escaped, with the short form where there is one. -/
def escape (c : Char) : List Char :=
  if c = '"' then ['\\', '"']
  else if c = '\\' then ['\\', '\\']
  else if c = '\x08' then ['\\', 'b']
  else if c = '\x0c' then ['\\', 'f']
  else if c = '\n' then ['\\', 'n']
  else if c = '\r' then ['\\', 'r']
  else if c = '\t' then ['\\', 't']
  else if c.toNat < 0x20 then '\\' :: 'u' :: hex4 c.toNat
  else [c]

/-- A text between quotes; a gap is written as a lone surrogate escape. -/
def quote (units : List (Option Char)) : List Char :=
  '"' :: units.flatMap (fun u => u.elim ('\\' :: 'u' :: hex4 0xD800) escape) ++ ['"']

def Numeral.render (n : Numeral) : List Char :=
  (if n.negative then ['-'] else []) ++ n.whole ++
    (if n.fraction.isEmpty then [] else '.' :: n.fraction) ++
    (match n.exponent with
      | none => []
      | some e => 'e' :: (Decimal.ofInt e).toList)

mutual

def render : Json → List Char
  | null => "null".toList
  | bool true => "true".toList
  | bool false => "false".toList
  | number n => n.render
  | text units => quote units
  | array items => '[' :: renderItems items ++ [']']
  | object members => '{' :: renderMembers members ++ ['}']

def renderItems : List Json → List Char
  | [] => []
  | [j] => j.render
  | j :: k :: js => j.render ++ ',' :: renderItems (k :: js)

def renderMembers : List (List (Option Char) × Json) → List Char
  | [] => []
  | [(key, j)] => quote key ++ ':' :: j.render
  | (key, j) :: m :: ms => quote key ++ ':' :: j.render ++ ',' :: renderMembers (m :: ms)

end

end Json

end FilterSql
