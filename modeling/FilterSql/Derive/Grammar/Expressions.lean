import FilterSql.Derive.Grammar.Patterns

/-!
# Expressions

An expression is a row of operands with operators between them; how they group plays no
part in how they are written. Where a block follows an expression, as after a condition,
a path takes no fields in braces.
-/

namespace FilterSql.Derive.Grammar

/-- The operators between two operands. Where several fit, the first one does. -/
def binaryOperators : List String :=
  ["+=", "-=", "*=", "/=", "%=", "^=", "&=", "|=", "<<=", ">>=", "&&", "||", "<<", ">>", "==", "<=",
    "!=", ">=", "+", "-", "*", "/", "%", "^", "&", "|", "<", ">"]

def seesExpression (p : Passage) : Bool :=
  p.word?.any (· != "as") || p.bracket?.isSome || p.literal?.isSome || p.seesLifetime ||
    p.seesBut "!" ["!="] || p.seesBut "-" ["-=", "->"] || p.seesBut "*" ["*="] ||
    p.seesBut "|" ["|="] || p.seesBut "&" ["&="] || p.seesBut "<" ["<=", "<<="] ||
    ["..", "::", "#"].any p.sees

def seesBinder (p : Passage) : Bool :=
  let content := p.skip 2
  p.seesWord "for" && (p.skip 1).sees "<" && (content.seesLifetime || content.sees ">")

variable (recur : Reader)

def anyExpression : Passage → Passage :=
  recur (.expression true)

/-- An expression before a block. -/
def headExpression : Passage → Passage :=
  recur (.expression false)

/-! ### Suffixes -/

/-- A field or a method by its name, with the arguments of the method's types, or a field by its
index. -/
def namedAccess (p : Passage) : Passage :=
  let q := member p
  if q.sees "::" then angleArguments recur (q.passMarks "::") else q

/-- What follows the point of a field or a method. A number with a point in it is a row of indices;
when it ends with its point, something else is accessed after them. -/
def access (p : Passage) : Passage :=
  match p.literal?.filter (·.contains '.') with
  | some t =>
    let indices := ((t.splitOn ".").filter (!·.isEmpty)).map indexText
    let q := (p.skip 1).write ((indices.intersperse ".").map fun i => ⟨i, false⟩)
    if t.endsWith "." then namedAccess recur (q.write [⟨".", false⟩]) else q
  | none => namedAccess recur p

/-- What is applied to an operand: calls, fields, indices and question marks. -/
def suffixes (p : Passage) : Passage :=
  p.steps fun p =>
    if p.seesGroup .round then (p.within .round (·.list (anyExpression recur)), true)
    else if p.seesBut "." [".."] then (access recur (p.passMarks "."), true)
    else if p.seesGroup .square then (p.within .square (anyExpression recur), true)
    else if p.sees "?" then (p.passMarks "?", true)
    else (p, false)

/-! ### Forms that end with a block -/

def conditional (p : Passage) : Passage :=
  p.steps fun p =>
    let q := block recur (headExpression recur p.pass)
    if q.seesWord "else" then
      let r := q.pass
      if r.seesWord "if" then (r, true) else (block recur r, false)
    else (q, false)

def arm (p : Passage) : Passage :=
  let q := recur .alternatives (attributes recur p)
  let q := if q.seesWord "if" then anyExpression recur q.pass else q
  (recur .branch (q.passMarks "=>")).passMarks ","

def selection (p : Passage) : Passage :=
  (headExpression recur p.pass).within .curly fun p =>
    (attributes recur p).steps fun p => if p.isAtEnd then (p, false) else (arm recur p, true)

def loop (p : Passage) : Passage :=
  if p.seesWord "while" then block recur (headExpression recur p.pass)
  else if p.seesWord "for" then
    let q := (recur .alternatives p.pass).passWord "in"
    block recur (headExpression recur q)
  else block recur (p.passWord "loop")

def seesBlockForm (p : Passage) : Bool :=
  p.seesGroup .curly || p.seesLifetime ||
    p.word?.any ["if", "while", "loop", "match", "unsafe"].contains ||
    p.word?.any ["try", "const"].contains && (p.skip 1).seesGroup .curly ||
    p.seesWord "for" && !seesBinder p

def blockForm (p : Passage) : Passage :=
  if p.seesLifetime then loop recur (p.pass.passMarks ":")
  else if p.seesWord "if" then conditional recur p
  else if p.seesWord "match" then selection recur p
  else if p.word?.any ["unsafe", "try", "const"].contains then block recur p.pass
  else loop recur p

/-! ### Other operands -/

def seesClosure (p : Passage) : Bool :=
  let next := p.skip 1
  p.sees "|" || p.word?.any ["move", "static"].contains || seesBinder p ||
    p.seesWord "const" && !next.seesGroup .curly ||
    p.seesWord "async" && (next.sees "|" || next.seesWord "move")

def closureArgument (p : Passage) : Passage :=
  let q := recur .pattern (attributes recur p)
  if q.sees ":" then recur (.type true) (q.passMarks ":") else q

/-- A closure. The bars around its arguments are two tokens, whatever stands between them. -/
def closure (braces : Bool) (p : Passage) : Passage :=
  let p := ["const", "static", "async", "move"].foldl Passage.passWord (binder recur p)
  let q := (p.passMarks "|").steps fun p =>
    if p.sees "|" then (p, false)
    else
      let q := closureArgument recur p
      (q.passMarks ",", q.sees ",")
  let q := q.passMarks "|"
  if q.sees "->" then block recur (recur (.type true) (q.passMarks "->"))
  else recur (.expression braces) q

/-- A field of a record with its value, or the record that gives the other fields. -/
def fieldValue (p : Passage) : Passage :=
  let p := attributes recur p
  if p.sees ".." then
    let q := p.passMarks ".."
    if q.isAtEnd then q else anyExpression recur q
  else
    let q := member p
    if q.sees ":" then anyExpression recur (q.passMarks ":") else q

/-- A path as an operand, with the arguments of a macro or the fields of a record. -/
def pathOperand (braces : Bool) (p : Passage) : Passage :=
  let q := qualifiedPath recur false p
  if q.seesBut "!" ["!="] && (q.skip 1).bracket?.isSome then (q.passMarks "!").pass
  else if braces then q.within .curly (·.list (fieldValue recur))
  else q

/-- What an array holds: elements, or one and its number. -/
def elements (p : Passage) : Passage :=
  let q := p.list (anyExpression recur)
  if q.sees ";" then anyExpression recur (q.passMarks ";") else q

def jump (braces : Bool) (p : Passage) : Passage :=
  let leaves := p.seesWord "break"
  let q := if leaves || p.seesWord "continue" then p.pass.passLifetime else p.pass
  if !p.seesWord "continue" && seesExpression q && (braces || !leaves || !q.seesGroup .curly) then
    anyExpression recur q
  else q

def endsRange (braces : Bool) (p : Passage) : Bool :=
  p.isAtEnd || p.seesBut "." [".."] || p.seesWord "as" || !braces && p.seesGroup .curly ||
    [",", ";", "?", "=>", "=", "+", "/", "%", "^", ">", "<=", "!=", "-=", "*=", "&=", "|=",
      "<<="].any p.sees

def range (braces : Bool) (p : Passage) : Passage :=
  if p.sees "..=" then recur (.operand braces) (p.passMarks "..=")
  else
    let q := p.passMarks ".."
    if endsRange braces q then q else recur (.operand braces) q

/-- An operand without what is applied to it. -/
def atom (braces : Bool) (p : Passage) : Passage :=
  let next := p.skip 1
  if p.seesLiteral then p.pass
  else if p.seesWord "async" &&
      (next.seesGroup .curly || next.seesWord "move" && (p.skip 2).seesGroup .curly) then
    block recur (p.pass.passWord "move")
  else if seesClosure p then closure recur braces p
  else if p.seesWord "builtin" && next.sees "#" then (p.pass.passMarks "#").pass.pass
  else if seesBlockForm p then blockForm recur p
  else if seesPath p || p.seesWord "try" then pathOperand recur braces p
  else if p.seesGroup .round then p.within .round (·.list (anyExpression recur))
  else if p.seesGroup .square then p.within .square (elements recur)
  else if p.word?.any ["break", "continue", "return", "yield"].contains then jump recur braces p
  else if p.seesWord "let" then
    recur (.operand braces) ((recur .alternatives p.pass).passMarks "=")
  else if p.sees ".." then range recur braces p
  else if p.seesWord "_" then p.pass
  else p

/-- An operand with the marks before it and the suffixes after it. The mark of a reference belongs
to one operand, so that two of them are two tokens. -/
def operand (braces : Bool) (p : Passage) : Passage :=
  let q := attributes recur p
  let next := q.skip 1
  if q.sees "&" then
    let q := q.passMarks "&"
    let raw := q.seesWord "raw" && ((next.skip 1).seesWord "mut" || (next.skip 1).seesWord "const")
    recur (.operand braces) (if raw then q.pass.pass else q.passWord "mut")
  else if ["*", "!", "-"].any q.sees then recur (.operand braces) q.pass
  else if q.seesWord "become" then p.verbatim fun p => anyExpression recur (attributes recur p).pass
  else suffixes recur (atom recur braces q)

/-! ### Operators -/

/-- What follows an operand: operators with further operands, ranges and casts. -/
def furtherOperands (braces : Bool) (p : Passage) : Passage :=
  p.steps fun p =>
    match binaryOperators.find? p.sees with
    | some op => (recur (.operand braces) (p.passMarks op), true)
    | none =>
      if p.seesBut "=" ["=>"] then (recur (.operand braces) (p.passMarks "="), true)
      else if p.sees ".." then (range recur braces p, true)
      else if p.seesWord "as" then (recur (.type false) p.pass, true)
      else (p, false)

def expression (braces : Bool) (p : Passage) : Passage :=
  furtherOperands recur braces (operand recur braces p)

/-- The expression of a statement or of an arm. One that ends with a block goes on only with a field
or a question mark. -/
def branch (p : Passage) : Passage :=
  let q := attributes recur p
  if seesBlockForm q then
    let r := blockForm recur q
    if r.seesBut "." [".."] || r.sees "?" then furtherOperands recur true (suffixes recur r) else r
  else expression recur true p

end FilterSql.Derive.Grammar
