import FilterSql.Derive.Grammar.Expressions

/-!
# Statements

The content of a block: bindings, expressions and items. The members of traits,
implementations and modules are read like the items of a block.
-/

namespace FilterSql.Derive.Grammar

/-! ### What comes next -/

/-- Words that may stand before an item or a function. -/
def qualifiers : List String :=
  ["default", "const", "async", "unsafe", "extern", "safe", "auto"]

def itemWords : List String :=
  ["use", "fn", "mod", "type", "struct", "enum", "trait", "impl", "macro"]

def seesItem (p : Passage) : Bool :=
  let next := p.skip 1
  let function (p : Passage) : Bool := p.word?.any ["unsafe", "extern", "fn"].contains
  match p.word? with
  | some "pub" | some "extern" => true
  | some "crate" => !next.sees "::"
  | some "static" => next.seesWord "mut" || next.seesName
  | some "const" =>
    !(next.seesGroup .curly || next.sees "|" || next.seesWord "static" || next.seesWord "move" ||
      next.seesWord "async" && !function (p.skip 2))
  | some "unsafe" => !next.seesGroup .curly
  | some "async" => function next
  | some "union" => next.seesName
  | some "auto" => next.seesWord "trait"
  | some "default" => next.word?.any (qualifiers ++ itemWords).contains
  | some w => itemWords.contains w
  | none => false

/-- The path of a macro whose call is a statement of its own, if one comes next: it defines a name,
or its arguments stand in braces and nothing is accessed in its result. -/
def macroPath? (p : Passage) : Option Passage :=
  let q := plainPath p
  let next := q.skip 1
  let result := q.skip 2
  let named := next.seesName || next.seesWord "try"
  let closed := next.seesGroup .curly && !(result.seesBut "." [".."] || result.sees "?")
  if (seesPathWord p || p.sees "::") && q.sees "!" && (named || closed) then some q else none

def visibility (p : Passage) : Passage :=
  if p.seesWord "pub" || p.seesWord "crate" then
    let q := p.pass
    match q.rest with
    | .group .round (.leaf (.name t) :: _) :: _ =>
      if ["crate", "self", "super", "in"].contains t then q.pass else q
    | _ => q
  else p

def qualified (p : Passage) : Passage :=
  p.steps fun p =>
    let q := p.pass
    let q := if p.seesWord "extern" && q.literal?.isSome then q.pass else q
    let more := q.word?.any (qualifiers ++ itemWords).contains
    if p.word?.any qualifiers.contains && more then (q, true) else (p, false)

variable (recur : Reader)

/-! ### Items -/

/-- A mark and what it introduces, if the mark comes next. -/
def after (mark : String) (f : Passage → Passage) (p : Passage) : Passage :=
  if p.sees mark then f (p.passMarks mark) else p

def generics (p : Passage) : Passage :=
  if p.sees "<" then
    let (xs, q) := (p.skip 1).items (Parameter.read recur)
    (q.skip 1).write (Parameter.angled Parameter.full (Parameter.arrange xs))
  else p

def functionParameter (p : Passage) : Passage :=
  let typed (p : Passage) : Passage :=
    if p.sees "..." then p.passMarks "..." else recur (.type true) p
  let p := attributes recur p
  if p.sees "..." then typed p
  else if p.sees "&" && (p.skip 1).seesLifetime then
    ((p.passMarks "&").pass.passWord "mut").pass
  else after ":" typed (recur .pattern p)

def function (p : Passage) : Passage :=
  let q := (generics recur p.pass.pass).within .round (·.list (functionParameter recur))
  block recur (whereClause recur (after "->" (recur (.type true)) q))

def constantItem (p : Passage) : Passage :=
  let q := generics recur (p.pass.passWord "mut").pass
  whereClause recur (after "=" (anyExpression recur) (after ":" (recur (.type true)) q))

def typeItem (p : Passage) : Passage :=
  let q := after ":" (recur .bounds) (generics recur p.pass.pass)
  whereClause recur (after "=" (recur (.type true)) (whereClause recur q))

def fields (p : Passage) : Passage :=
  let head (p : Passage) : Passage := visibility (attributes recur p)
  (p.within .curly (·.list fun p => after ":" (recur (.type true)) (head p).pass)).within .round
    (·.list fun p => recur (.type true) (head p))

def variant (p : Passage) : Passage :=
  after "=" (anyExpression recur) (fields recur (attributes recur p).pass)

def traitItem (p : Passage) : Passage :=
  let q := generics recur p.pass.pass
  let (ts, r) := (q.skip 1).aside (recur .bounds)
  let q := if !q.sees ":" then q else if ts.isEmpty then r else r.write (⟨":", false⟩ :: ts)
  block recur (whereClause recur (after "=" (recur .bounds) q))

/-- Whether an angle sign begins parameters and not a path. -/
def seesGenerics (p : Passage) : Bool :=
  let first := p.skip 1
  let second := p.skip 2
  p.sees "<" && (first.sees ">" || first.sees "#" || first.seesWord "const" ||
    (first.seesLifetime || first.seesName) &&
      (second.seesBut ":" ["::"] || [">", ",", "="].any second.sees))

def implementation (p : Passage) : Passage :=
  let q := if seesGenerics p.pass then generics recur p.pass else p.pass
  let q := (q.passWord "const").passMarks "!"
  let q := recur (.type true) q
  let q := if q.seesWord "for" then recur (.type true) q.pass else q
  block recur (whereClause recur q)

def item (p : Passage) : Passage :=
  let p := qualified (visibility p)
  let q := p.pass
  match p.word? with
  | some "fn" => function recur p
  | some "const" | some "static" => constantItem recur p
  | some "type" => typeItem recur p
  | some "use" => recur .imports q
  | some "struct" | some "union" =>
    whereClause recur (fields recur (whereClause recur (generics recur q.pass)))
  | some "enum" =>
    (whereClause recur (generics recur q.pass)).within .curly (·.list (variant recur))
  | some "trait" => traitItem recur p
  | some "impl" => implementation recur p
  | some "mod" => block recur q.pass
  | some "macro" => q.pass.pass.pass
  | some "extern" =>
    if q.seesWord "crate" then recur .imports q
    else block recur (if q.literal?.isSome then q.pass else q)
  | _ => q

/-- What a `use` brings in: paths, in braces where they share a beginning. -/
def imports (p : Passage) : Passage :=
  p.steps fun p =>
    if p.isAtEnd || p.sees ";" then (p, false)
    else if p.sees "::" then (p.passMarks "::", true)
    else if p.seesGroup .curly then (p.within .curly (recur .imports), true)
    else (p.pass, true)

/-! ### Statements -/

def binding (p : Passage) : Passage :=
  let q := after ":" (recur (.type true)) (recur .pattern p.pass)
  let q := after "=" (anyExpression recur) q
  if q.seesWord "else" then block recur q.pass else q

/-- A statement without the semicolon after it. -/
def statement (p : Passage) : Passage :=
  let q := attributes recur p
  match macroPath? q with
  | some path =>
    let r := path.passMarks "!"
    if r.bracket?.isSome then r.pass else r.pass.pass
  | none =>
    if q.seesWord "let" then binding recur q
    else if seesItem q then item recur q
    else recur .branch q

def statements (p : Passage) : Passage :=
  p.steps fun p =>
    if p.isAtEnd then (p, false)
    else if p.sees ";" then (p.passMarks ";", true)
    else (statement recur p, true)

end FilterSql.Derive.Grammar
