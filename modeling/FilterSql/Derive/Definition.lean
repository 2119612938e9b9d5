import FilterSql.Directive.Basic
import FilterSql.Derive.Declaration
import FilterSql.Text.SnakeCase

/-!
# Record definitions

What a declaration means: the table of the record and, for each field, how it is
visited. A declaration is refused with the first fault in a fixed order: its own
attributes and its shape come before any field, fields in declaration order, and
the attributes of a field in theirs.

The reader stops at the first fault and is silent about later ones.
`Proofs/Derive/Acceptance` has the grammar that it accepts and the fault that it
finds, without reading in order.
-/

namespace FilterSql.Derive

inductive FieldKind where
  | scalar (tag : String)
  /-- A record on a joined table. -/
  | join (tag : String)
  /-- A record whose fields belong to the same scope. -/
  | flatten
  | excluded
  | untagged
  deriving DecidableEq, Repr

structure FieldDefinition where
  /-- The name as it is written, with the mark of a raw name. -/
  ident : String
  kind : FieldKind
  deriving DecidableEq, Repr

structure Definition where
  ident : String
  generics : List String
  bounds : List String
  /-- The table of the fields; empty for none. -/
  table : String
  fields : List FieldDefinition
  deriving DecidableEq, Repr

inductive Fault where
  /-- A `search` attribute on the item that is not one table name. -/
  | itemAttribute
  /-- Not a struct with named fields. -/
  | shape
  /-- A second `search` attribute on a field. -/
  | duplicate
  /-- A `search` attribute on a field with another word than `flatten`. -/
  | unexpectedWord
  /-- A `search` attribute on a field that holds neither a string nor a word alone. -/
  | malformed
  deriving DecidableEq, Repr

def Fault.message? : Fault → Option String
  | duplicate => some "duplicate #[search] attribute"
  | unexpectedWord => some "expected a search annotation string or `flatten`"
  | itemAttribute | shape | malformed => none

namespace FieldKind

def ofTag (tag : String) : FieldKind :=
  let a := (Directive.read tag).directive
  if a = .excluded then excluded
  else if a.isJoin then join tag
  else scalar tag

def ofAttribute (a : Attribute) : Except Fault FieldKind :=
  match a with
  | .directive tag => .ok (ofTag tag)
  | .word "flatten" => .ok flatten
  | _ =>
    match a.leadingWord? with
    | some w => .error (if w = "flatten" then .malformed else .unexpectedWord)
    | none => .error .malformed

/-- Excluded and untagged fields take no part in the record. -/
def isVisited : FieldKind → Bool
  | excluded | untagged => false
  | _ => true

def tag? : FieldKind → Option String
  | scalar tag | join tag => some tag
  | _ => none

/-- The kind of a field from its attributes, given the kind that earlier ones set. -/
def ofAttributes : Option FieldKind → List Attribute → Except Fault FieldKind
  | kind, [] => .ok (kind.getD untagged)
  | kind, a :: as =>
    if !a.isSearch then ofAttributes kind as
    else if kind.isSome then .error .duplicate
    else
      match ofAttribute a with
      | .ok k => ofAttributes (some k) as
      | .error f => .error f

end FieldKind

namespace FieldDefinition

/-- The name of a field without the mark of a raw name. -/
def name (f : FieldDefinition) : String :=
  match f.ident.toList with
  | 'r' :: '#' :: s => String.ofList s
  | _ => f.ident

/-- The column of a field whose directive names none: its name in snake case, as far as the name is
written with precomposed letters. -/
def column (f : FieldDefinition) : String :=
  Text.snakeCase f.name

def ofDeclaration (f : FieldDeclaration) : Except Fault FieldDefinition :=
  match FieldKind.ofAttributes none f.attributes with
  | .ok kind => .ok ⟨f.ident, kind⟩
  | .error fault => .error fault

/-- The definitions of several fields, or the fault of the first one that has a fault. -/
def ofDeclarations : List FieldDeclaration → Except Fault (List FieldDefinition)
  | [] => .ok []
  | f :: fs =>
    match ofDeclaration f with
    | .error fault => .error fault
    | .ok d =>
      match ofDeclarations fs with
      | .error fault => .error fault
      | .ok ds => .ok (d :: ds)

end FieldDefinition

namespace Definition

/-- The table that the attributes of an item name, given the one that earlier ones named. -/
def tableOf : Option String → List Attribute → Except Fault (Option String)
  | table, [] => .ok table
  | table, a :: as =>
    if !a.isSearch || a.isBare then tableOf table as
    else
      match table, a with
      | none, .table name => tableOf (some name) as
      | _, _ => .error .itemAttribute

def ofDeclaration (d : Declaration) : Except Fault Definition :=
  match tableOf none d.attributes with
  | .error fault => .error fault
  | .ok table =>
    if d.shape ≠ .struct then .error .shape
    else
      match FieldDefinition.ofDeclarations d.fields with
      | .error fault => .error fault
      | .ok fields => .ok ⟨d.ident, d.generics, d.bounds, table.getD "", fields⟩

def visited (d : Definition) : List FieldDefinition :=
  d.fields.filter (·.kind.isVisited)

end Definition

end FilterSql.Derive
