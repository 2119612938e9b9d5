import FilterSql.Derive.Grammar.Basic

/-!
# Generic parameters

The parameters of a declaration, and the two forms in which generated code takes them
up: declared anew with their bounds, and passed on by name. Defaults are in neither
form.
-/

namespace FilterSql.Derive

inductive ParameterKind where
  | lifetime | type | constant
  deriving DecidableEq, Repr

structure Parameter where
  attributes : List Token
  kind : ParameterKind
  name : String
  /-- The bounds, or the type of a constant. -/
  bounds : List Token
  /-- What the parameter is where nothing is passed on for it. -/
  default : List Token
  deriving DecidableEq, Repr

namespace Parameter

def read (recur : Grammar.Reader) (p : Passage) : Parameter × Passage :=
  let (attributes, p) := p.aside (Grammar.attributes recur)
  let kind : ParameterKind :=
    if p.seesWord "const" then .constant else if p.seesLifetime then .lifetime else .type
  let p := if kind = .constant then p.skip 1 else p
  let name := p.leafText
  let p := p.skip 1
  let after (mark : String) (p : Passage) (f : Passage → Passage) : List Token × Passage :=
    if p.sees mark then (p.skip 1).aside f else ([], p)
  let (bounds, p) := after ":" p (recur (if kind = .constant then .type true else .bounds))
  let (default, p) := after "=" p fun p =>
    if kind = .constant then Grammar.constant recur p else recur (.type true) p
  (⟨attributes, kind, name, bounds, default⟩, p)

/-- The parameter declared anew. A colon without bounds is left out. -/
def declared (p : Parameter) : List Token :=
  p.attributes ++ (if p.kind = .constant then [⟨"const", false⟩] else []) ++ [⟨p.name, false⟩] ++
    if p.bounds.isEmpty then [] else ⟨":", false⟩ :: p.bounds

def full (p : Parameter) : List Token :=
  p.declared ++ if p.default.isEmpty then [] else ⟨"=", false⟩ :: p.default

def passed (p : Parameter) : List Token :=
  [⟨p.name, false⟩]

/-- Lifetimes stand before the other parameters. -/
def arrange (xs : List (Separated Parameter)) : List (Separated Parameter) :=
  Separated.lifetimesFirst (·.kind = .lifetime) xs

def angled (form : Parameter → List Token) (xs : List (Separated Parameter)) : List Token :=
  if xs.isEmpty then []
  else ⟨"<", false⟩ :: Separated.tokens (xs.map (·.map form)) ++ [⟨">", false⟩]

end Parameter

end FilterSql.Derive
