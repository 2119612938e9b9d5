import FilterSql.Derive.Parameter

/-!
# Types

Paths with their arguments, bounds and types. Arguments between angle signs are written
with lifetimes first. A closing angle sign is a token of its own, whatever follows it.
-/

namespace FilterSql.Derive.Grammar

variable (recur : Reader)

/-! ### Arguments -/

/-- Whether a lifetime comes next that is an argument and not the first of several bounds. -/
def seesLifetimeArgument (p : Passage) : Bool :=
  p.seesLifetime && !(p.skip 1).sees "+"

/-- An argument between angle signs: a lifetime, a constant or a type, or the name of an associated
item with what it equals or its bounds. -/
def angleArgument (p : Passage) : Passage :=
  if seesLifetimeArgument p then p.pass
  else if seesConstant p then constant recur p
  else
    let q := recur (.type true) p
    let r := q.passMarks "="
    if !q.sees "=" then if q.sees ":" then recur .bounds (q.passMarks ":") else q
    else if seesConstant r then constant recur r
    else recur (.type true) r

def angleArguments (p : Passage) : Passage :=
  let (xs, q) := (p.passMarks "<").items fun p =>
    let (ts, q) := p.aside (angleArgument recur)
    ((seesLifetimeArgument p, ts), q)
  let arranged := Separated.lifetimesFirst (·.1) xs
  (q.write (Separated.tokens (arranged.map (·.map (·.2))))).passMarks ">"

/-- Arguments in round brackets and a result, after a path of a type. Colons before the bracket are
left out. -/
def roundArguments (p : Passage) : Passage :=
  let q := if p.sees "::" && (p.skip 2).seesGroup .round then p.skip 2 else p
  if q.seesGroup .round then
    let q := q.within .round (·.list (recur (.type true)))
    if q.sees "->" then recur (.type false) (q.passMarks "->") else q
  else q

/-! ### Paths -/

/-- A name of a path with its arguments. In a type they follow at once, in an expression after
colons. The words for modules take none. -/
def segment (typed : Bool) (p : Passage) : Passage :=
  let q := p.pass
  if p.word?.any ["super", "self", "crate", "try"].contains then q
  else if typed && q.seesBut "<" ["<=", "<<="] || q.sees "::" && (q.skip 2).sees "<" then
    angleArguments recur (q.passMarks "::")
  else q

def furtherSegments (typed : Bool) (p : Passage) : Passage :=
  p.steps fun p =>
    if p.sees "::" && !(p.skip 2).seesGroup .round then
      (segment recur typed (p.passMarks "::"), true)
    else (p, false)

def path (typed : Bool) (p : Passage) : Passage :=
  furtherSegments recur typed (segment recur typed (p.passMarks "::"))

def qualifiedPath (typed : Bool) (p : Passage) : Passage :=
  if p.sees "<" then
    let q := recur (.type true) (p.passMarks "<")
    let q := if q.seesWord "as" then path recur true q.pass else q
    furtherSegments recur typed (q.passMarks ">")
  else path recur typed p

def seesPath (p : Passage) : Bool :=
  seesPathWord p || p.sees "::" || p.sees "<"

/-! ### Bounds -/

def binder (p : Passage) : Passage :=
  if p.seesWord "for" then
    let (xs, q) := (p.pass.passMarks "<").items (Parameter.read recur)
    (q.write (Separated.tokens (xs.map (·.map Parameter.full)))).passMarks ">"
  else p

def constancy (p : Passage) : Passage :=
  if p.seesGroup .square then p.pass else (p.passMarks "~").passWord "const"

/-- A bound by a trait. The mark of an optional one is written before the lifetimes that are bound
in it. -/
def traitBound (p : Passage) : Passage :=
  let (lifetimes, q) := p.aside (binder recur)
  let q := (q.passMarks "?").write lifetimes
  roundArguments recur (path recur true (if lifetimes.isEmpty then binder recur q else q))

def seesConstancy (p : Passage) : Bool :=
  let q : Passage := (p.aside (binder recur)).2
  q.seesGroup .square || q.seesWord "const" || q.sees "~"

/-- One bound. Those with a condition of constancy are written as they stand. -/
def bound (p : Passage) : Passage :=
  let content : Passage :=
    match p.rest with
    | .group .round ts :: _ => ⟨[], ts⟩
    | _ => p
  if p.seesLifetime then p.pass
  else if p.seesWord "use" then angleArguments recur p.pass
  else if seesConstancy recur content then
    p.verbatim fun p =>
      if p.seesGroup .round then p.pass
      else traitBound recur (constancy (binder recur p))
  else if p.seesGroup .round then p.within .round (traitBound recur)
  else traitBound recur p

def seesBound (p : Passage) : Bool :=
  p.word?.any (· != "where") || p.seesLifetime || p.seesGroup .round || p.seesGroup .square ||
    ["::", "?", "~"].any p.sees

/-- Bounds with plus signs between them, and perhaps one after the last. -/
def bounds (p : Passage) : Passage :=
  p.steps fun p =>
    if seesBound p then
      let q := bound recur p
      (q.passMarks "+", q.sees "+")
    else (p, false)

/-- Bounds, or a single one where plus signs may not join them. -/
def boundsOf (sums : Bool) (p : Passage) : Passage :=
  if sums then bounds recur p else bound recur p

/-- A `where` clause; it is left out when it has no predicate. -/
def whereClause (p : Passage) : Passage :=
  if p.seesWord "where" then
    let predicate (p : Passage) : Passage :=
      if p.seesLifetime && (p.skip 1).sees ":" then recur .bounds (p.pass.passMarks ":")
      else recur .bounds ((recur (.type true) (binder recur p)).passMarks ":")
    let (ts, q) := (p.skip 1).aside (·.steps fun p =>
      if p.isAtEnd || p.seesGroup .curly || [",", ";", "="].any p.sees then (p, false)
      else
        let q := predicate p
        (q.passMarks ",", q.sees ","))
    q.write (if ts.isEmpty then [] else ⟨"where", false⟩ :: ts)
  else p

/-! ### Types -/

/-- The content of round brackets among types: the types of a tuple, or bounds. -/
def roundType (p : Passage) : Passage :=
  if p.seesLifetime then recur .bounds p
  else if p.sees "?" then traitBound recur p
  else p.list (recur (.type true))

def functionArgument (p : Passage) : Passage :=
  let p := attributes recur p
  let next := p.skip 1
  let typed (p : Passage) : Passage :=
    if p.sees "..." then p.passMarks "..." else recur (.type true) p
  if p.seesWord "mut" then p.verbatim fun p => typed (p.pass.pass.passMarks ":")
  else if p.word?.isSome && (next.seesBut ":" ["::"] || next.sees ":" && (p.skip 2).sees "...") then
    typed (p.pass.passMarks ":")
  else typed p

def functionType (p : Passage) : Passage :=
  let q := p.passWord "unsafe"
  let r := q.passWord "extern"
  let r := if q.seesWord "extern" && r.literal?.isSome then r.pass else r
  let r := (r.passWord "fn").within .round (·.list (functionArgument recur))
  if r.sees "->" then recur (.type false) (r.passMarks "->") else r

/-- A path as a type, with arguments in round brackets or of a macro, or with further bounds. -/
def pathType (sums : Bool) (p : Passage) : Passage :=
  let q := roundArguments recur (qualifiedPath recur true p)
  if q.seesBut "!" ["!="] then (q.passMarks "!").pass
  else if sums && q.sees "+" && !p.sees "<" then recur .bounds (q.passMarks "+")
  else q

/-- A type. The mark of a reference belongs to one type, so that two of them are two tokens. -/
def type (sums : Bool) (p : Passage) : Passage :=
  let p := binder recur p
  match p.bracket? with
  | some .round =>
    let q := p.within .round (roundType recur)
    if sums && q.sees "+" then recur .bounds (q.passMarks "+") else q
  | some .square =>
    p.within .square fun p =>
      let q := recur (.type true) p
      if q.sees ";" then recur (.expression true) (q.passMarks ";") else q
  | some .curly => p
  | none =>
    if p.word?.any ["fn", "unsafe", "extern"].contains then functionType recur p
    else if seesPath p then pathType recur sums p
    else if p.seesWord "dyn" then
      if p.pass.sees "*" then p.verbatim fun p => boundsOf recur sums (p.pass.passMarks "*")
      else boundsOf recur sums p.pass
    else if p.seesWord "impl" then boundsOf recur sums p.pass
    else if p.sees "*" then
      recur (.type false) (((p.passMarks "*").passWord "const").passWord "mut")
    else if p.sees "&" then
      recur (.type false) ((p.passMarks "&").passLifetime.passWord "mut")
    else if p.seesBut "!" ["!="] then p.passMarks "!"
    else if p.seesWord "_" then p.pass
    else if p.seesLifetime then recur .bounds p
    else p

end FilterSql.Derive.Grammar
