import FilterSql.Number.Decimal
import FilterSql.Text.Blank

/-!
# Paging

A page number and a page size arrive as texts and are kept as such: the first
non-empty text of each is taken and later ones are ignored. The window of rows is
worked out only when it is asked for, and only if both texts were given.

Numbers are signed words of 64 bits and are multiplied with a clamp, never modulo
a power of two. What that comes to over the integers is stated in
`Proofs/Paging/Resolution`.
-/

namespace FilterSql

/-- The rows that a query returns. -/
inductive Window where
  /-- All of them. -/
  | unbounded
  /-- At most `limit` rows after the first `offset`. -/
  | page (offset limit : UInt64)
  deriving DecidableEq, Repr

namespace Window

def offset : Window → UInt64
  | unbounded => 0
  | page offset _ => offset

def limit : Window → Option UInt64
  | unbounded => none
  | page _ limit => some limit

/-- The page size in place of one that is not positive. -/
def defaultSize : Int64 := 10

/-- The page size that asks for all rows. -/
def unboundedSize : Int64 := -1

/-- The number in a text, or zero if the text is no 64-bit integer. -/
def number (s : String) : Int64 :=
  (Decimal.readInt64? (Text.trim s.toList)).getD 0

/-- The product, kept inside the signed range. -/
def saturatingMul (a b : Int64) : Int64 :=
  Int64.ofInt (max Int64.minValue.toInt (min (a.toInt * b.toInt) Int64.maxValue.toInt))

/-- The window of a page number and a page size. A page number below one is the first page. -/
def ofNumbers (page size : Int64) : Window :=
  if size = unboundedSize then unbounded
  else
    let first := if page < 1 then 1 else page
    let rows := if size ≤ 0 then defaultSize else size
    .page (saturatingMul (first - 1) rows).toUInt64 rows.toUInt64

def ofTexts (page size : String) : Window :=
  ofNumbers (number page) (number size)

end Window

/-- The paging texts of a record, each unset until a non-empty one arrives. -/
structure PageInput where
  page : Option String := none
  size : Option String := none
  deriving DecidableEq, Repr, Inhabited

namespace PageInput

/-- Whether a slot takes a text: it is still unset and the text says something. -/
def takes (slot : Option String) (s : String) : Bool :=
  slot.isNone && !s.isEmpty

/-- A slot after a text was offered to it. -/
def offer (slot : Option String) (s : String) : Option String :=
  if takes slot s then some s else slot

def setPage (p : PageInput) (s : String) : PageInput :=
  { p with page := offer p.page s }

def setSize (p : PageInput) (s : String) : PageInput :=
  { p with size := offer p.size s }

def window (p : PageInput) : Option Window :=
  match p.page, p.size with
  | some page, some size => some (Window.ofTexts page size)
  | _, _ => none

end PageInput

end FilterSql
