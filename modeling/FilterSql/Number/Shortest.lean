import FilterSql.Number.Binary64
import FilterSql.Number.Decimal

/-!
# Shortest decimal text

A finite double is written with the fewest decimal digits that read back as the
same double; of several such digit strings the nearest to the number is taken,
and of two equally near ones the larger. The digits are written positionally,
without an exponent, whatever the magnitude.
-/

namespace FilterSql.Binary64

/-- The fractions strictly between which, or on which when the significand is even, a decimal
reads back as the number. Below a power of two the neighbours are half as far apart. -/
structure Interval where
  low : Nat
  value : Nat
  high : Nat
  /-- The common denominator of the three. -/
  den : Nat
  closed : Bool

/-- The interval of the decimals that read back as the magnitude of a finite number. -/
def interval (x : Binary64) : Interval :=
  let m := x.significand
  let up := 1 <<< x.scale.toNat
  let lowGap := if x.fraction = 0 && x.exponentBits > 1 then 1 else 2
  { low := (4 * m - lowGap) * up
    value := 4 * m * up
    high := (4 * m + 2) * up
    den := 4 <<< (-x.scale).toNat
    closed := m % 2 == 0 }

namespace Interval

def holds (i : Interval) (place : Int) (n : Nat) : Bool :=
  let v := n * Decimal.pow10 place.toNat * i.den
  let p := Decimal.pow10 (-place).toNat
  if i.closed then i.low * p ≤ v && v ≤ i.high * p else i.low * p < v && v < i.high * p

/-- The nearest multiple of `10 ^ place` in the interval, of two equally near ones the larger.
Only the two neighbours of the value can be nearest. -/
def nearestAt (i : Interval) (place : Int) : Option Nat :=
  let num := i.value * Decimal.pow10 (-place).toNat
  let den := i.den * Decimal.pow10 place.toNat
  let n := num / den
  let upper := decide (2 * (num % den) ≥ den)
  match i.holds place n, i.holds place (n + 1) with
  | true, true => some (if upper then n + 1 else n)
  | true, false => some n
  | false, true => some (n + 1)
  | false, false => none

/-- The first hit from `place` downwards, with the place where it lies. -/
def firstHit (i : Interval) (place : Int) : Nat → Option (Nat × Int)
  | 0 => none
  | k + 1 =>
    match i.nearestAt place with
    | some n => some (n, place)
    | none => i.firstHit (place - 1) k

end Interval

/-- A place at most three above the leading digit: a bit is a little less than 0.30103 decimal
digits. -/
def leadingPlace (x : Binary64) : Int :=
  (x.significand.log2 + 1 + x.scale) * 30103 / 100000 + 2

/-- The digits and the place of the last one: the magnitude reads back from `n * 10 ^ place`. -/
def shortest (x : Binary64) : Nat × Int :=
  if x.isZero then (0, 0)
  else
    -- seventeen digits always suffice, after three places that may hold none
    (x.interval.firstHit x.leadingPlace 20).getD (0, 0)

def positional (n : Nat) (place : Int) : List Char :=
  let ds := Nat.toDigits 10 n
  if 0 ≤ place then ds ++ (if n = 0 then [] else List.replicate place.toNat '0')
  else
    let k := (-place).toNat
    let padded := List.replicate (k + 1 - ds.length) '0' ++ ds
    padded.take (padded.length - k) ++ '.' :: padded.drop (padded.length - k)

/-- The text of a double: its shortest digits, or one of the words for the rest. -/
def text (x : Binary64) : String :=
  if x.isNaN then "NaN"
  else
    let magnitude :=
      if x.isFinite then positional x.shortest.1 x.shortest.2 else "inf".toList
    String.ofList (if x.isNegative then '-' :: magnitude else magnitude)

end FilterSql.Binary64
