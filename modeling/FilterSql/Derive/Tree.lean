import FilterSql.Derive.Lexeme

/-!
# Token trees

Lexemes with their brackets matched. Every sequence of lexemes has trees: a bracket
that is left open ends with the text, and one that closes nothing is passed over. The
tokens of a tree are what is written for it where nobody reads it as part of a
declaration, in the arguments of an attribute or of a macro.
-/

namespace FilterSql.Derive

structure Token where
  text : String
  /-- Whether the next token follows without a blank. -/
  joint : Bool := false
  deriving DecidableEq, Repr

def Token.texts : List Token → List String
  | [] => []
  | t :: ts =>
    match t.joint, texts ts with
    | true, u :: us => (t.text ++ u) :: us
    | _, us => t.text :: us

inductive Tree where
  /-- A lexeme other than a bracket. -/
  | leaf (l : Lexeme)
  | group (b : Bracket) (body : List Tree)
  deriving Repr

def Lexeme.token : Lexeme → Token
  | name t | lifetime t | literal t => ⟨t, false⟩
  | mark c joint => ⟨String.singleton c, joint⟩
  | opening b => ⟨b.opens, false⟩
  | closing b => ⟨b.closes, false⟩

namespace Tree

mutual

/-- The tokens of a tree, with the marks that touch each other in the source. -/
def tokens : Tree → List Token
  | leaf l => [l.token]
  | group b body => ⟨b.opens, false⟩ :: tokensOf body ++ [⟨b.closes, false⟩]

def tokensOf : List Tree → List Token
  | [] => []
  | t :: ts => t.tokens ++ tokensOf ts

end

end Tree

/-- The trees of a text that is being read, the last one first: those in the innermost open bracket,
and the open brackets from the inside out with the trees before them. -/
structure OpenTrees where
  body : List Tree := []
  outer : List (Bracket × List Tree) := []
  deriving Repr

namespace OpenTrees

def close (s : OpenTrees) : OpenTrees :=
  match s.outer with
  | [] => s
  | (b, ts) :: outer => ⟨.group b s.body.reverse :: ts, outer⟩

def step (s : OpenTrees) : Lexeme → OpenTrees
  | .opening b => ⟨[], (b, s.body) :: s.outer⟩
  | .closing _ => s.close
  | l => { s with body := .leaf l :: s.body }

/-- All trees, once everything that is open ends. -/
def trees : List Tree → List (Bracket × List Tree) → List Tree
  | body, [] => body.reverse
  | body, (b, ts) :: outer => trees (.group b body.reverse :: ts) outer

end OpenTrees

def Tree.ofLexemes (ls : List Lexeme) : List Tree :=
  let s := ls.foldl OpenTrees.step {}
  OpenTrees.trees s.body s.outer

end FilterSql.Derive
