import FilterSql.Derive.Passage

/-!
# Grammar rules

The rules of the declaration language lead back to one another: types hold expressions
and expressions hold types. Each reader therefore takes the reader of all rules as an
argument, and what the rules share is read here: names, literals, blocks and attributes.
-/

namespace FilterSql.Derive.Grammar

/-- The rules that others lead back to. -/
inductive Rule where
  /-- A type; `sums` if plus signs may join bounds to it. -/
  | type (sums : Bool)
  | bounds
  /-- An expression; `braces` if a path may have fields in braces after it. -/
  | expression (braces : Bool)
  /-- An expression without binary operators. -/
  | operand (braces : Bool)
  /-- The expression of a statement or of an arm. -/
  | branch
  | pattern
  /-- A pattern, or several with bars between them. -/
  | alternatives
  | statements
  /-- What a `use` brings in. -/
  | imports
  deriving DecidableEq, Repr

abbrev Reader := Rule → Passage → Passage

/-! ### Names and literals -/

def seesPathWord (p : Passage) : Bool :=
  p.seesName || p.word?.any ["super", "self", "Self", "crate"].contains

def plainPath (p : Passage) : Passage :=
  (p.passMarks "::").steps fun p =>
    if seesPathWord p then
      let q := p.pass
      (q.passMarks "::", q.sees "::")
    else (p, false)

/-- The value of a digit; letters of either case follow the numerals. -/
def digitValue (c : Char) : Nat :=
  if c.isDigit then c.toNat - '0'.toNat else c.toLower.toNat - 'a'.toNat + 10

/-- An index in decimal digits, whatever base it is written in. -/
def indexText (t : String) : String :=
  let (base, digits) : Nat × List Char :=
    match t.toList with
    | '0' :: 'x' :: ds => (16, ds)
    | '0' :: 'o' :: ds => (8, ds)
    | '0' :: 'b' :: ds => (2, ds)
    | ds => (10, ds)
  toString ((digits.filter (· != '_')).foldl (fun n c => n * base + digitValue c) 0)

def member (p : Passage) : Passage :=
  match p.literal? with
  | some t => (p.skip 1).write [⟨indexText t, false⟩]
  | none => p.pass

section

variable (recur : Reader)

/-! ### Blocks and constants -/

def block (p : Passage) : Passage :=
  p.within .curly (recur .statements)

/-- Whether a constant comes next where a type might: a literal, a negative number or a block. -/
def seesConstant (p : Passage) : Bool :=
  p.seesLiteral || p.sees "-" && (p.skip 1).seesNumber || p.seesGroup .curly

/-- A constant. A minus sign is a token of its own. -/
def constant (p : Passage) : Passage :=
  if p.seesGroup .curly then block recur p
  else if p.sees "-" then p.pass.pass
  else p.pass

/-! ### Attributes -/

/-- The content of an attribute: a path, with arguments that nobody reads or with an expression. -/
def attributeBody (p : Passage) : Passage :=
  let q := if p.seesWord "unsafe" then p.pass else plainPath p
  if q.bracket?.isSome then q.pass
  else if q.seesBut "=" ["==", "=>"] then recur (.expression true) (q.passMarks "=")
  else q

/-- The attributes of what follows them, or of what they stand in. -/
def attributes (p : Passage) : Passage :=
  p.steps fun p =>
    let q := (p.passMarks "#").passMarks "!"
    if p.sees "#" && q.seesGroup .square then (q.within .square (attributeBody recur), true)
    else (p, false)

end

end FilterSql.Derive.Grammar
