import FilterSql.Derive.Grammar.Types

/-!
# Patterns

Patterns, alone and as alternatives.

A name alone is bound by its pattern. Whatever else begins with a name is read as
a path, with its fields in brackets or braces, as the end of a range or as a
macro. A range may lack its upper part.
-/

namespace FilterSql.Derive.Grammar

variable (recur : Reader)

/-! ### Ranges -/

/-- The mark of a range. The old mark with three points is written as the new one. -/
def rangeMark (p : Passage) : Passage :=
  if p.sees "..." then (p.skip 3).write [⟨"..=", false⟩]
  else if p.sees "..=" then p.passMarks "..="
  else p.passMarks ".."

def rangeBound (p : Passage) : Passage :=
  if p.seesWord "const" then block recur p.pass
  else if p.sees "-" || p.seesLiteral then constant recur p
  else if seesPath p then qualifiedPath recur false p
  else p

def rangeEnd (p : Passage) : Passage :=
  if p.sees ".." then rangeBound recur (rangeMark p) else p

/-! ### Patterns -/

/-- Whether a path comes next and not a name that the pattern binds. -/
def seesPathPattern (p : Passage) : Bool :=
  let next := p.skip 1
  p.sees "::" || p.sees "<" || p.word?.any ["Self", "super", "crate"].contains ||
    p.seesWord "self" && next.sees "::" ||
    p.seesName &&
      (["::", "!", ".."].any next.sees || next.seesGroup .curly || next.seesGroup .round)

def fieldPattern (p : Passage) : Passage :=
  let p := attributes recur p
  if p.sees ".." then p.passMarks ".."
  else if p.word?.any ["box", "ref", "mut"].contains then
    (((p.passWord "box").passWord "ref").passWord "mut").pass
  else
    let q := member p
    if q.sees ":" then recur .alternatives (q.passMarks ":") else q

/-- A pattern that begins with a path: a macro, the fields of a record, a range or a constant. -/
def pathPattern (p : Passage) : Passage :=
  let q := qualifiedPath recur false p
  if q.seesBut "!" ["!="] then (q.passMarks "!").pass
  else
    match q.bracket? with
    | some .curly => q.within .curly (·.list (fieldPattern recur))
    | some .round => q.within .round (·.list (recur .alternatives))
    | _ => rangeEnd recur q

/-- A pattern without alternatives outside brackets. -/
def pattern (p : Passage) : Passage :=
  if seesPathPattern p then pathPattern recur p
  else if p.seesWord "_" then p.pass
  else if p.seesWord "box" then p.verbatim fun p => recur .pattern p.pass
  else if p.sees "-" || p.seesLiteral || p.seesWord "const" then
    rangeEnd recur (rangeBound recur p)
  else if p.seesName || p.word?.any ["ref", "mut", "self"].contains then
    let q := ((p.passWord "ref").passWord "mut").pass
    if q.sees "@" then recur .pattern (q.passMarks "@") else q
  else if p.sees "&" then recur .pattern ((p.passMarks "&").passWord "mut")
  else if p.seesGroup .round then p.within .round (·.list (recur .alternatives))
  else if p.seesGroup .square then p.within .square (·.list (recur .alternatives))
  else rangeEnd recur p

/-- Patterns with bars between them, and perhaps one before the first. -/
def alternatives (p : Passage) : Passage :=
  (p.passMarks "|").steps fun p =>
    let q := pattern recur p
    if q.seesBut "|" ["||", "|="] then (q.passMarks "|", true) else (q, false)

end FilterSql.Derive.Grammar
