import FilterSql.Derive.Definition
import FilterSql.Record.Basic

/-!
# Derived records

The filter record that a definition makes of the contents of its fields: one call
for each field that takes part, in declaration order.
-/

namespace FilterSql.Derive

def FieldDefinition.spec (f : FieldDefinition) (table tag : String) : FieldSpec :=
  ⟨f.name, f.column, table, tag⟩

/-- The call for a field, if it takes part. The kind of the field decides whether its content or
its record is used. -/
def FieldDefinition.call? (table : String) (content : String → Datum) (part : String → Record)
    (f : FieldDefinition) : Option Call :=
  match f.kind with
  | .scalar tag => some (.field (f.spec table tag) (content f.name))
  | .join tag => some (.join (f.spec table tag) (part f.name))
  | .flatten => some (.flatten (part f.name))
  | .excluded | .untagged => none

/-- The record of a definition, from the contents and the records of its fields by name. -/
def Definition.record (d : Definition) (content : String → Datum) (part : String → Record) :
    Record :=
  .made (d.fields.filterMap (·.call? d.table content part)) none

end FilterSql.Derive
