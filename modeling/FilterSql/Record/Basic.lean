import FilterSql.Condition.Step
import FilterSql.Driver
import FilterSql.Record.Datum

/-!
# Filter records

A filter record is what it offers when it is visited: its fields with their
directives and contents, the records it contains, and conditions of its own.
Contents are data; directives, names and tables are not.
-/

namespace FilterSql

/-- What is known of a field before its content. -/
structure FieldSpec where
  name : String
  /-- The column when the directive names none. -/
  column : String
  /-- The table when the directive names none; empty for no table. -/
  table : String
  /-- The directive. -/
  tag : String
  deriving DecidableEq, Repr

/-- A field whose column is named like it, without a table. -/
def FieldSpec.ofName (name tag : String) : FieldSpec :=
  ⟨name, name, "", tag⟩

/-- How a record is held. The holder makes no difference to what the record amounts to. -/
inductive Holder where
  | optional | owned | borrowed
  deriving DecidableEq, Repr

mutual

/-- A filter record, by what it does when it is visited. -/
inductive Record where
  /-- An optional record that is not there. -/
  | absent
  | held (holder : Holder) (r : Record)
  /-- The calls that the record makes when it is visited. It may declare itself zero or not. -/
  | made (calls : List Call) (zero : Option Bool)

/-- One thing that a record does when it is visited. -/
inductive Call where
  | field (spec : FieldSpec) (content : Datum)
  | join (spec : FieldSpec) (record : Record)
  /-- A record whose fields belong to the current scope. -/
  | flatten (record : Record)
  /-- A condition of the record's own. -/
  | condition (step : Step)
  /-- A record that is visited for one driver only. -/
  | whenDriver (driver : Driver) (record : Record)

end

instance : Inhabited Record := ⟨.absent⟩

mutual

/-- Whether a record sets nothing. Conditions of its own do not count. -/
def Record.isZero : Record → Bool
  | .absent => true
  | .held _ r => r.isZero
  | .made _ (some zero) => zero
  | .made calls none => Record.allZero calls

def Call.isZero : Call → Bool
  | .field _ content => content.isZero
  | .join _ r => r.isZero
  | .flatten r => r.isZero
  | .condition _ => true
  | .whenDriver _ r => r.isZero

def Record.allZero : List Call → Bool
  | [] => true
  | c :: cs => c.isZero && Record.allZero cs

end

end FilterSql
