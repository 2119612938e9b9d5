import FilterSql.Derive.Separated

/-!
# Passages

A text on its way through a grammar: the tokens that are written so far, and the trees
that are still to be read. Operators are written as one token each, whatever marks
touched them in the source. Reading does not fail. Where the grammar expects something
else, nothing is taken, and what is left of a bracket's content is written as it stands.
-/

namespace FilterSql.Derive

structure Passage where
  /-- The tokens, the last one first. -/
  written : List Token := []
  rest : List Tree
  deriving Repr

namespace Passage

/-! ### Looking ahead -/

def isAtEnd (p : Passage) : Bool :=
  p.rest.isEmpty

def skip (p : Passage) (n : Nat) : Passage :=
  { p with rest := p.rest.drop n }

/-- Whether marks come next. All but the last one touch their successors. -/
def beginWith : List Char → List Tree → Bool
  | [], _ => true
  | [c], .leaf (.mark d _) :: _ => c == d
  | c :: cs, .leaf (.mark d joint) :: ts => c == d && joint && beginWith cs ts
  | _, _ => false

/-- Whether an operator comes next, or a longer one that begins with it. -/
def sees (p : Passage) (operator : String) : Bool :=
  beginWith operator.toList p.rest

/-- Whether an operator comes next that is none of the longer ones. -/
def seesBut (p : Passage) (operator : String) (longer : List String) : Bool :=
  p.sees operator && !longer.any p.sees

def leafText (p : Passage) : String :=
  match p.rest with
  | .leaf l :: _ => l.token.text
  | _ => ""

def word? (p : Passage) : Option String :=
  match p.rest with
  | .leaf (.name t) :: _ => some t
  | _ => none

def seesWord (p : Passage) (w : String) : Bool :=
  p.word? == some w

/-- Whether a name comes next that is no keyword. -/
def seesName (p : Passage) : Bool :=
  p.word?.any (!Lexeme.reservedWords.contains ·)

def seesLifetime (p : Passage) : Bool :=
  match p.rest with
  | .leaf (.lifetime _) :: _ => true
  | _ => false

def literal? (p : Passage) : Option String :=
  match p.rest with
  | .leaf (.literal t) :: _ => some t
  | _ => none

def seesNumber (p : Passage) : Bool :=
  p.literal?.any (·.front.isDigit)

/-- Whether a literal comes next; the truth values are literals. -/
def seesLiteral (p : Passage) : Bool :=
  p.literal?.isSome || p.seesWord "true" || p.seesWord "false"

def bracket? (p : Passage) : Option Bracket :=
  match p.rest with
  | .group b _ :: _ => some b
  | _ => none

def seesGroup (p : Passage) (b : Bracket) : Bool :=
  p.bracket? == some b

/-! ### Passing on -/

def write (p : Passage) (ts : List Token) : Passage :=
  { p with written := ts.reverse ++ p.written }

/-- The next tree. A mark no longer touches what follows it; a group stays as it is. -/
def pass (p : Passage) : Passage :=
  match p.rest with
  | [] => p
  | .leaf l :: ts => ⟨⟨l.token.text, false⟩ :: p.written, ts⟩
  | t :: ts => ⟨t.tokens.reverse ++ p.written, ts⟩

def passMarks (p : Passage) (operator : String) : Passage :=
  if p.sees operator then ⟨⟨operator, false⟩ :: p.written, p.rest.drop operator.length⟩ else p

def passWord (p : Passage) (w : String) : Passage :=
  if p.seesWord w then p.pass else p

def passLifetime (p : Passage) : Passage :=
  if p.seesLifetime then p.pass else p

/-- A group of this kind, if one comes next, with its content read by `f`. -/
def within (p : Passage) (b : Bracket) (f : Passage → Passage) : Passage :=
  match p.rest with
  | .group c body :: ts =>
    if c = b then
      let q := f ⟨⟨b.opens, false⟩ :: p.written, body⟩
      ⟨⟨b.closes, false⟩ :: (q.write (Tree.tokensOf q.rest)).written, ts⟩
    else p
  | _ => p

/-- What `f` takes, written as it stands. -/
def verbatim (p : Passage) (f : Passage → Passage) : Passage :=
  let rest := (f p).rest
  { p with rest := rest }.write (Tree.tokensOf (p.rest.take (p.rest.length - rest.length)))

/-- The tokens that `f` writes, apart from those before them. -/
def aside (p : Passage) (f : Passage → Passage) : List Token × Passage :=
  let q := f ⟨[], p.rest⟩
  (q.written.reverse, { p with rest := q.rest })

/-! ### Repetition -/

/-- Steps, as long as each asks for another one. Each takes a tree, so that there are no more steps
than trees. -/
def steps (p : Passage) (step : Passage → Passage × Bool) : Passage :=
  go p.rest.length p
where
  go : Nat → Passage → Passage
    | 0, p => p
    | n + 1, p =>
      let (q, more) := step p
      if more then go n q else q

def list (p : Passage) (item : Passage → Passage) : Passage :=
  p.steps fun p =>
    if p.isAtEnd then (p, false)
    else
      let q := item p
      (q.passMarks ",", q.sees ",")

/-- Items up to the end or to a closing angle sign, with commas between them; none is written. -/
def items {α : Type} (p : Passage) (item : Passage → α × Passage) : List (Separated α) × Passage :=
  go p.rest.length p
where
  go : Nat → Passage → List (Separated α) × Passage
    | 0, p => ([], p)
    | n + 1, p =>
      if p.isAtEnd || p.sees ">" then ([], p)
      else
        let (x, q) := item p
        if q.sees "," then
          let (xs, r) := go n (q.skip 1)
          (⟨x, true⟩ :: xs, r)
        else ([⟨x, false⟩], q)

end Passage

end FilterSql.Derive
