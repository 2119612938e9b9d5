import FilterSql.Directive.Operator
import FilterSql.Text.Blank

/-!
# Field directives

A directive is a text of segments separated by semicolons; a segment is a key
with values separated by colons. Reading never fails: what cannot be used is
skipped and listed as a fault. Each segment is read on its own into a `Setting`,
and the settings are carried out in order, so the last one of a key wins.

`Proofs/Directive/Writing` has the texts that a descriptor can be written as, and
`Proofs/Directive/Omissions` what a reading without a fault may still leave out.
-/

namespace FilterSql

/-- The keys that take a value. -/
inductive Directive.Key where
  | type | column | table | join | on
  deriving DecidableEq, Repr

def Directive.Key.word : Directive.Key → String
  | type => "type"
  | column => "column"
  | table => "table"
  | join => "join"
  | on => "on"

/-- Something in a directive that had to be ignored. -/
inductive Directive.Fault where
  | unknownKey (key : String)
  | missingValue (key : Directive.Key)
  | unsupportedOperator (token : String)
  | missingOperator
  deriving DecidableEq, Repr

/-- What a directive says about a field. A text is empty where it says nothing. -/
structure Descriptor where
  /-- The operator that `kind` names, if it names one. -/
  operator : Option Operator := none
  kind : String := ""
  column : String := ""
  table : String := ""
  /-- For a join: the joined column, then the source column. -/
  on : List String := []
  /-- For a join: the joined table. -/
  join : String := ""
  deriving DecidableEq, Repr

inductive Directive where
  /-- The field takes no part in the search. -/
  | excluded
  | search (d : Descriptor)
  deriving DecidableEq, Repr

/-- What one segment of a directive asks for. -/
inductive Directive.Setting where
  | kind (token : String)
  | column (name : String)
  | table (name : String)
  | join (table : String)
  | on (columns : List String)
  /-- Nothing: the segment is of no use. -/
  | ignored (fault : Directive.Fault)
  deriving DecidableEq, Repr

namespace Directive

/-- The texts between the colons of a segment, without the blanks around them. -/
def tokens (segment : List Char) : List String :=
  (segment.splitOn ':').map fun t => String.ofList (Text.trim t)

/-- The segments of a directive without the blanks around them; empty ones say nothing. -/
def segments (s : List Char) : List (List Char) :=
  ((s.splitOn ';').map Text.trim).filter fun t => !t.isEmpty

namespace Setting

/-- The setting of a key from its values: the first one counts and must not be empty. -/
def ofKey (key : Key) (values : List String) (make : String → Setting) : Setting :=
  match values.head? with
  | some v => if v.isEmpty then .ignored (.missingValue key) else make v
  | none => .ignored (.missingValue key)

/-- The setting that the tokens of a segment ask for. A join takes all values of `on`; the two
paging operators may stand alone as a key. -/
def ofTokens : List String → Setting
  | [] => .ignored (.unknownKey "")
  | key :: values =>
    if key = "type" then ofKey .type values .kind
    else if key = "column" then ofKey .column values .column
    else if key = "table" then ofKey .table values .table
    else if key = "join" then ofKey .join values .join
    else if key = "on" then ofKey .on values fun _ => .on values
    else if key = "page" ∨ key = "pageSize" then .kind key
    else .ignored (.unknownKey key)

def fault? : Setting → Option Fault
  | ignored f => some f
  | _ => none

end Setting

def settings (s : List Char) : List Setting :=
  (segments s).map fun t => Setting.ofTokens (tokens t)

/-- The descriptor with a setting carried out; the operator is looked up afterwards. -/
def apply (d : Descriptor) : Setting → Descriptor
  | .kind t => { d with kind := t }
  | .column n => { d with column := n }
  | .table n => { d with table := n }
  | .join t => { d with join := t }
  | .on cs => { d with on := cs }
  | .ignored _ => d

/-- The fault of a kind that names no operator. -/
def kindFaults (kind : String) : List Fault :=
  if (Operator.ofToken? kind).isSome then []
  else if kind.isEmpty then [.missingOperator]
  else [.unsupportedOperator kind]

/-- A directive with everything that had to be ignored while reading it. -/
structure Reading where
  directive : Directive
  faults : List Fault
  deriving DecidableEq, Repr

/-- Reads a directive. A lone hyphen excludes the field. -/
def read (s : String) : Reading :=
  if Text.trim s.toList = ['-'] then ⟨.excluded, []⟩
  else
    let written := settings s.toList
    let d := written.foldl apply {}
    ⟨.search { d with operator := Operator.ofToken? d.kind },
      written.filterMap Setting.fault? ++ kindFaults d.kind⟩

def isJoin : Directive → Bool
  | excluded => false
  | search d => d.operator == some .left

def Fault.message : Fault → String
  | unknownKey key => "unknown annotation key `" ++ key ++ "`"
  | missingValue key => "annotation key `" ++ key.word ++ "` has no value"
  | unsupportedOperator token => "unsupported operator `" ++ token ++ "`"
  | missingOperator => "annotation names no operator"

end Directive

end FilterSql
