import FilterSql.Value

/-!
# Field contents

The typed content of a record field. Of a content two things matter: whether it
is unset, in which case the field filters nothing, and the value it is bound as.
The two are decided by the type, so an option holding zero is set although the
value that it is bound as is the zero of its kind.
-/

namespace FilterSql

inductive Datum where
  | signed (n : Int64)
  | unsigned (n : UInt64)
  | double (x : Binary64)
  | single (x : Binary32)
  | flag (b : Bool)
  | text (s : String)
  | absent
  | present (d : Datum)
  | sequence (ds : List Datum)
  /-- The content of a type that decides both questions itself. -/
  | custom (unset : Bool) (value : Value)
  deriving Repr, Inhabited

namespace Datum

/-- A value as content: unset when it is the zero of its kind. -/
def ofValue (v : Value) : Datum :=
  custom v.isZero v

def isZero : Datum → Bool
  | signed n => n == 0
  | unsigned n => n == 0
  | double x => x.isZero
  | single x => x.widen.isZero
  | flag b => !b
  | text s => s.isEmpty
  | absent => true
  | present _ => false
  | sequence ds => ds.isEmpty
  | custom unset _ => unset

mutual

def toValue : Datum → Value
  | signed n => .int n
  | unsigned n => .uint n
  | double x => .float x
  | single x => .float x.widen
  | flag b => .bool b
  | text s => .text s
  | absent => .null
  | present d => d.toValue
  | sequence ds => .list (toValues ds)
  | custom _ v => v

def toValues : List Datum → List Value
  | [] => []
  | d :: ds => d.toValue :: toValues ds

end

end Datum

end FilterSql
