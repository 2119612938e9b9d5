import FilterSql.Derive.Lexeme

/-!
# Record declarations

The source form of a record type from which a filter record is derived: what kind
of item it is, its generic parameters, its fields, and the attributes on all of
them. Attributes are kept by the form of their arguments; types play no part.
-/

namespace FilterSql.Derive

inductive Shape where
  | struct | tuple | unit | enumeration | union
  deriving DecidableEq, Repr

inductive Attribute where
  /-- `search` with one string. -/
  | directive (tag : String)
  /-- `search` with the table name. -/
  | table (name : String)
  /-- `search` with one word. -/
  | word (w : String)
  /-- `search` in any other form, as it is written. -/
  | unusual (text : String)
  /-- Not a `search` attribute. -/
  | foreign
  deriving DecidableEq, Repr

structure FieldDeclaration where
  ident : String
  attributes : List Attribute
  deriving DecidableEq, Repr

structure Declaration where
  shape : Shape := .struct
  ident : String
  attributes : List Attribute := []
  /-- The generic parameters as they are written. -/
  generics : List String := []
  /-- The bounds of the `where` clause as they are written. -/
  bounds : List String := []
  fields : List FieldDeclaration := []
  deriving DecidableEq, Repr

namespace Attribute

def isSearch : Attribute → Bool
  | foreign => false
  | _ => true

/-- The arguments of an attribute as it is written: what stands between its brackets, which may be
of any kind. -/
def arguments? (text : String) : Option (List Lexeme) :=
  match Lexeme.ofText text with
  | .name _ :: .opening _ :: ls => some ls.dropLast
  | _ => none

/-- Whether the attribute is its name alone, with or without empty brackets. -/
def isBare : Attribute → Bool
  | unusual text =>
    match Lexeme.ofText text with
    | [.name _] | [.name _, .opening _, .closing _] => true
    | _ => false
  | _ => false

/-- The name at the head of a text. A reserved word is no name unless it is written as a raw one. -/
def leadingName? : List Lexeme → Option String
  | .name n :: _ => if Lexeme.reservedWords.contains n then none else some n
  | _ => none

/-- The name that the arguments of a `search` attribute begin with. -/
def leadingWord? : Attribute → Option String
  | directive _ | foreign => none
  | table _ => some "table"
  | word w => leadingName? (Lexeme.ofText w)
  | unusual text => (arguments? text).bind leadingName?

end Attribute

end FilterSql.Derive
