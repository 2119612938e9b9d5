import FilterSql.Number.Binary64

/-!
# The nearest double

The double nearest to a positive fraction of natural numbers, a tie going to the
even significand. Products and quotients of doubles are rounded through it: the
exact result is a fraction, and rounding it once is what the operation means.
-/

namespace FilterSql

def divNearestEven (num den : Nat) : Nat :=
  let q := num / den
  let r := num % den
  if 2 * r > den || (2 * r == den && q % 2 == 1) then q + 1 else q

namespace Binary64

/-- The exponent `e` at which `num / den` has a significand of 53 bits, that is
`2 ^ 52 ≤ num / (den * 2 ^ e) < 2 ^ 53`; small numbers stop at the subnormal exponent. -/
def nearestScale (num den : Nat) : Int :=
  let l : Int := num.log2 - den.log2
  let below : Bool := num <<< (-l).toNat < den <<< l.toNat
  max ((if below then l - 1 else l) - 52) (-1074)

/-- The double nearest to `num / den`, infinity from the overflow threshold on. -/
def nearest (num den : Nat) : Binary64 :=
  if num = 0 then zero
  else
    let e := nearestScale num den
    let m := divNearestEven (num <<< (-e).toNat) (den <<< e.toNat)
    -- a significand that rounds up to `2 ^ 53` carries into the exponent bits
    let bits := ((e + 1074).toNat <<< 52) + m
    if bits < infinity.bits.toNat then ⟨UInt64.ofNat bits⟩ else infinity

def ofNat (n : Nat) : Binary64 :=
  nearest n 1

/-- The rounded product of the magnitudes of two finite numbers. -/
def mulMagnitude (x y : Binary64) : Binary64 :=
  nearest (x.ratio.1 * y.ratio.1) (x.ratio.2 * y.ratio.2)

/-- The rounded quotient of the magnitudes of two finite numbers, `y` not zero. -/
def divMagnitude (x y : Binary64) : Binary64 :=
  nearest (x.ratio.1 * y.ratio.2) (x.ratio.2 * y.ratio.1)

end Binary64

end FilterSql
