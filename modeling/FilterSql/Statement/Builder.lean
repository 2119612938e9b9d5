import FilterSql.Statement.Basic
import FilterSql.Driver

/-!
# Bound statements

A query builder takes text and arguments one after the other and writes a
placeholder for each argument. Which builder it is stays open: a statement is
written with any. The two drivers with a builder of their own are covered.
Postgres has no unsigned 64-bit type: a number above the signed range is bound as
text and cast.
-/

namespace FilterSql

/-- What a statement is written with, and what can be seen of it afterwards. -/
structure QueryBuilder (β : Type) where
  empty : β
  push : β → String → β
  /-- Binds an argument and writes its placeholder. -/
  bind : β → Value → β
  text : β → String
  /-- How many arguments are bound. -/
  binds : β → Nat

namespace QueryBuilder

/-- Whether a value exceeds the signed range and is bound through a cast. -/
def needsCast (d : Driver) : Value → Bool
  | .uint n => d = .postgres && Int64.maxValue.toInt < n.toNat
  | _ => false

/-- What an argument is bound as: on Postgres an unsigned number becomes a signed one, or a text
if there is none. -/
def bound (d : Driver) : Value → Value
  | .uint n =>
    if needsCast d (.uint n) then .text (Decimal.ofNat n.toNat)
    else if d = .postgres then .int n.toInt64
    else .uint n
  | v => v

variable {β : Type} (b : QueryBuilder β) (d : Driver)

def add (x : β) : Mark → β
  | .char c => b.push x (String.singleton c)
  | .arg v =>
    let x := b.bind x (bound d v)
    if needsCast d v then b.push x "::numeric" else x

def write (s : Statement) : β :=
  s.foldl (b.add d) b.empty

end QueryBuilder

/-- What is kept of a builder once it is written: its text and the number of its arguments. -/
structure Builder where
  text : String := ""
  binds : Nat := 0
  deriving DecidableEq, Repr

namespace Builder

def push (b : Builder) (s : String) : Builder :=
  { b with text := b.text ++ s }

def bind (b : Builder) (d : Driver) : Builder :=
  { text := b.text ++ d.placeholder (b.binds + 1), binds := b.binds + 1 }

/-- A driver's builder, as far as `Builder` keeps it. -/
def ofDriver (d : Driver) : QueryBuilder Builder where
  empty := {}
  push := push
  bind b _ := b.bind d
  text := text
  binds := binds

@[simp] theorem text_ofDriver (d : Driver) (b : Builder) : (ofDriver d).text b = b.text := rfl

@[simp] theorem binds_ofDriver (d : Driver) (b : Builder) : (ofDriver d).binds b = b.binds := rfl

end Builder

end FilterSql
