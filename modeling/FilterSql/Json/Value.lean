import FilterSql.Json.Reader
import FilterSql.Number.Nearest
import FilterSql.Value

/-!
# Values as JSON

A value has an untagged JSON form: each kind is recognised by its syntax alone.
So an unsigned number that also fits the signed range comes back signed, and NaN
and the infinities, which JSON cannot write, are `null`. Objects are no values.
Finite floating-point numbers are read but have no written form here.
-/

namespace FilterSql

namespace Json.Numeral

/-- The greatest significand that is kept when a number is read as a double. -/
def maxSignificand : Nat := UInt64.size - 1

/-- The digits before the point: as many as the significand holds, and how many follow them. -/
def wholePart (digits : List Char) : Nat × Int :=
  digits.foldl (fun (m, dropped) c =>
    let m' := m * 10 + (c.toNat - 48)
    if dropped = 0 ∧ m' ≤ maxSignificand then (m', 0) else (m, dropped + 1)) (0, 0)

/-- The digits after the point, as long as the significand holds them. -/
def appendFraction : Nat → Int → List Char → Nat × Int
  | m, e, [] => (m, e)
  | m, e, c :: r =>
    let m' := m * 10 + (c.toNat - 48)
    if m' ≤ maxSignificand then appendFraction m' (e - 1) r else (m, e)

/-- The number is read as this significand times this power of ten: digits that a significand of
64 bits cannot hold are cut off. -/
def scientific (n : Numeral) : Nat × Int :=
  let (m, e) := wholePart n.whole
  let (m, e) := appendFraction m e n.fraction
  (m, e + n.exponent.getD 0)

/-- `x * 10 ^ e` by rounded operations, or `none` if it is too large. Powers beyond `10 ^ 308` are
divided out in steps; three steps take every significand to zero. -/
def scaled : Nat → Binary64 → Int → Option Binary64
  | 0, x, _ => some x
  | k + 1, x, e =>
    if e.natAbs ≤ 308 then
      let power := Binary64.ofNat (Decimal.pow10 e.natAbs)
      if 0 ≤ e then
        let y := x.mulMagnitude power
        if y.isFinite then some y else none
      else some (x.divMagnitude power)
    else if x.isZero then some x
    else if 0 ≤ e then none
    else scaled k (x.divMagnitude (Binary64.ofNat (Decimal.pow10 308))) (e + 308)

/-- The double that a number is read as. The significand and the power of ten are each rounded
before the product or quotient is, so the result may be a unit off the nearest double. -/
def toBinary64? (n : Numeral) : Option Binary64 := do
  let (m, e) := n.scientific
  let x ← scaled 4 (Binary64.ofNat m) e
  some (if n.negative then x.neg else x)

/-- A number without point and exponent is an integer if one of the two ranges holds it; negative
zero is a double. -/
def toValue? (n : Numeral) : Option Value :=
  let double := n.toBinary64?.map Value.float
  if n.fraction.isEmpty && n.exponent.isNone then
    let m := Nat.ofDigitChars 10 n.whole 0
    if n.negative ∧ m = 0 then double
    else
      match Decimal.toInt64? (if n.negative then -(m : Int) else m) with
      | some i => some (.int i)
      | none =>
        if !n.negative ∧ m < UInt64.size then some (.uint (UInt64.ofNat m)) else double
  else double

end Json.Numeral

namespace Value

mutual

/-- The JSON form of a value without finite floating-point numbers. -/
def toJson? : Value → Option Json
  | null => some .null
  | bool b => some (.bool b)
  | int n => some (Json.ofInt n.toInt)
  | uint n => some (Json.ofInt n.toNat)
  | float x => if x.isFinite then none else some .null
  | text s => some (Json.ofString s)
  | list vs => (toJsonList? vs).map Json.array

def toJsonList? : List Value → Option (List Json)
  | [] => some []
  | v :: vs => do
    let j ← v.toJson?
    let js ← toJsonList? vs
    some (j :: js)

end

mutual

def ofJson? : Json → Option Value
  | .null => some null
  | .bool b => some (bool b)
  | .number n => n.toValue?
  | .text units => (Json.string? units).map text
  | .array items => (ofJsonList? items).map list
  | .object _ => none

def ofJsonList? : List Json → Option (List Value)
  | [] => some []
  | j :: js => do
    let v ← ofJson? j
    let vs ← ofJsonList? js
    some (v :: vs)

end

/-- How deep the lists of a value that is read may nest. -/
def maxNesting : Nat := 127

def json? (v : Value) : Option String :=
  v.toJson?.map fun j => String.ofList j.render

def readJson? (s : String) : Option Value := do
  let j ← Json.read? s
  if j.nesting ≤ maxNesting then ofJson? j else none

end Value

end FilterSql
