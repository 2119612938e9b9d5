import FilterSql.Derive.Definition
import FilterSql.Derive.Grammar.Reading

/-!
# Generated code

The implementation that is generated for a definition, as tokens with single
spaces between them. It visits each field that takes part, and is zero when all
of them are.
-/

namespace FilterSql.Derive

/-! ### Fields -/

namespace FieldDefinition

def reference (f : FieldDefinition) : List String :=
  ["&", "self", ".", f.ident]

/-- The description of a field with a directive. The table is left out when there is none. -/
def description (f : FieldDefinition) (table tag : String) : List String :=
  ["&", "::", "search_core", "::", "FieldMeta", "::", "new",
    "(", Text.literal f.name, ",", Text.literal tag, ")",
    ".", "column", "(", Text.literal f.column, ")"] ++
  if table.isEmpty then [] else [".", "table", "(", Text.literal table, ")"]

def visitCode (table : String) (f : FieldDefinition) : List String :=
  match f.kind with
  | .scalar tag =>
    ["walker", ".", "field", "("] ++ f.description table tag ++ [","] ++ f.reference ++ [")", ";"]
  | .join tag =>
    ["walker", ".", "join", "("] ++ f.description table tag ++ [","] ++ f.reference ++ [")", ";"]
  | .flatten => ["walker", ".", "flatten", "("] ++ f.reference ++ [")", ";"]
  | .excluded | .untagged => []

/-- The zero test of a field: contents and records have one of their own. -/
def zeroCode (f : FieldDefinition) : List String :=
  match f.kind with
  | .scalar _ => ["&&", "::", "search_core", "::", "SearchValue", "::", "is_zero", "("] ++
    f.reference ++ [")"]
  | .join _ | .flatten => ["&&", "::", "search_core", "::", "Search", "::", "is_zero", "("] ++
    f.reference ++ [")"]
  | .excluded | .untagged => []

end FieldDefinition

/-! ### The implementation -/

namespace Definition

def parameters (d : Definition) : List String :=
  Token.texts (Parameter.angled Parameter.declared (Grammar.parametersOf d.generics))

def arguments (d : Definition) : List String :=
  Token.texts (Parameter.angled Parameter.passed (Grammar.parametersOf d.generics))

def whereClause (d : Definition) : List String :=
  Token.texts (Grammar.clauseOf d.bounds)

def braced (tokens : List String) : List String :=
  "\x7b" :: tokens ++ ["\x7d"]

def codeTokens (d : Definition) : List String :=
  ["impl"] ++ d.parameters ++ ["::", "search_core", "::", "Search", "for", d.ident] ++
    d.arguments ++ d.whereClause ++
    braced (
      ["#", "[", "allow", "(", "unused_variables", ")", "]",
        "fn", "walk", "(", "&", "self", ",", "walker", ":",
        "&", "mut", "::", "search_core", "::", "Walker", "<", "'_", ">", ")"] ++
      braced (d.visited.flatMap (·.visitCode d.table)) ++
      ["fn", "is_zero", "(", "&", "self", ")", "->", "bool"] ++
      braced ("true" :: d.visited.flatMap (·.zeroCode)))

def code (d : Definition) : String :=
  " ".intercalate d.codeTokens

end Definition

end FilterSql.Derive
