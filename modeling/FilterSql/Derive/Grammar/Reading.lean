import FilterSql.Derive.Grammar.Statements

/-!
# Reading by the grammar

The rules tied together. Each of them takes a lexeme before it leads back to itself, and
only a few lead to each other without one, so that a multiple of the number of lexemes
bounds the depth.
-/

namespace FilterSql.Derive.Grammar

/-- The reader of each rule, given the reader of the rules that it leads to. -/
def ruleReader (recur : Reader) : Reader
  | .type sums => type recur sums
  | .bounds => bounds recur
  | .expression braces => expression recur braces
  | .operand braces => operand recur braces
  | .branch => branch recur
  | .pattern => pattern recur
  | .alternatives => alternatives recur
  | .statements => statements recur
  | .imports => imports recur

def read : Nat → Reader
  | 0 => fun _ p => p
  | n + 1 => ruleReader (read n)

def lexemesOf (texts : List String) : List Lexeme :=
  [Lexeme.mark ',' false].intercalate (texts.map Lexeme.ofText)

/-- The rules on texts with so many lexemes. -/
def readerFor (ls : List Lexeme) : Reader :=
  read (8 * ls.length + 8)

/-- The parameters that texts declare, lifetimes first. -/
def parametersOf (texts : List String) : List (Separated Parameter) :=
  let ls := lexemesOf texts
  Parameter.arrange ((Passage.items ⟨[], Tree.ofLexemes ls⟩ (Parameter.read (readerFor ls))).1)

def clauseOf (texts : List String) : List Token :=
  let ls := lexemesOf texts
  (whereClause (readerFor ls) ⟨[], Tree.ofLexemes (.name "where" :: ls)⟩).written.reverse

end FilterSql.Derive.Grammar
