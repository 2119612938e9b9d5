/-!
# Double-precision numbers by their bits

A 64-bit floating-point number is kept as its bit pattern, so two numbers are
equal exactly when their bits are, signed zeros and NaN payloads included. All
arithmetic on them in this library is on the integers that the bits encode; the
hardware's operations are not used.
-/

namespace FilterSql

/-- A 64-bit floating-point number: sign bit, eleven exponent bits, 52 fraction bits. -/
structure Binary64 where
  bits : UInt64
  deriving DecidableEq, Repr

/-- A 32-bit floating-point number: sign bit, eight exponent bits, 23 fraction bits. -/
structure Binary32 where
  bits : UInt32
  deriving DecidableEq, Repr

namespace Binary64

/-- Whether the sign bit is set; also true of negative zero. -/
def isNegative (x : Binary64) : Bool :=
  x.bits.toNat >>> 63 == 1

def exponentBits (x : Binary64) : Nat :=
  (x.bits.toNat >>> 52) % 0x800

def fraction (x : Binary64) : Nat :=
  x.bits.toNat % 0x10000000000000

/-- Finite numbers are those whose exponent bits are not all set. -/
def isFinite (x : Binary64) : Bool :=
  x.exponentBits != 2047

def isNaN (x : Binary64) : Bool :=
  !x.isFinite && x.fraction != 0

/-- Both zeros, the negative one too. -/
def isZero (x : Binary64) : Bool :=
  x.exponentBits == 0 && x.fraction == 0

/-- The magnitude of a finite number is `significand * 2 ^ scale`. -/
def significand (x : Binary64) : Nat :=
  if x.exponentBits = 0 then x.fraction else 0x10000000000000 + x.fraction

/-- The exponent of two that goes with `significand`. -/
def scale (x : Binary64) : Int :=
  (max x.exponentBits 1 : Nat) - 1075

/-- The magnitude of a finite number as a fraction of natural numbers. -/
def ratio (x : Binary64) : Nat × Nat :=
  (x.significand <<< x.scale.toNat, 1 <<< (-x.scale).toNat)

def neg (x : Binary64) : Binary64 :=
  ⟨x.bits ^^^ 0x8000000000000000⟩

def zero : Binary64 := ⟨0⟩

def infinity : Binary64 := ⟨0x7FF0000000000000⟩

end Binary64

/-- Widening is exact: a subnormal is normalised, an infinity stays one, and a NaN keeps its
sign and payload. -/
def Binary32.widen (x : Binary32) : Binary64 :=
  let n := x.bits.toNat
  let sign := (n >>> 31) <<< 63
  let e := (n >>> 23) % 0x100
  let f := n % 0x800000
  let magnitude :=
    if e = 255 then (2047 <<< 52) + (f <<< 29)
    else if e ≠ 0 then ((e + 896) <<< 52) + (f <<< 29)
    else if f = 0 then 0
    else
      -- a subnormal with leading bit `k` is `2 ^ (k - 149)` and a fraction of that
      let k := f.log2
      ((k + 874) <<< 52) + ((f - (1 <<< k)) <<< (52 - k))
  ⟨UInt64.ofNat (sign + magnitude)⟩

end FilterSql
