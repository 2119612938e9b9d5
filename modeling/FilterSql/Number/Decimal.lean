/-!
# Decimal integers

Signed 64-bit integers as decimal text. Writing gives the digits with a minus
sign where needed; reading takes one optional sign and at least one ASCII digit,
leading zeros allowed, and refuses what lies outside the range.
-/

namespace FilterSql.Decimal

def pow10 (k : Nat) : Nat :=
  Nat.pow 10 k

def ofNat (n : Nat) : String :=
  String.ofList (Nat.toDigits 10 n)

/-- The decimal digits of an integer, after a minus sign if it is negative. -/
def ofInt (n : Int) : String :=
  if n < 0 then String.ofList ('-' :: Nat.toDigits 10 n.natAbs) else ofNat n.natAbs

/-- The natural number that a non-empty run of ASCII digits denotes. -/
def readNat? (s : List Char) : Option Nat :=
  if !s.isEmpty && s.all (·.isDigit) then some (Nat.ofDigitChars 10 s 0) else none

/-- The integer that a run of ASCII digits with an optional sign denotes. -/
def readInt? : List Char → Option Int
  | '+' :: ds => (readNat? ds).map Int.ofNat
  | '-' :: ds => (readNat? ds).map fun n => -(n : Int)
  | ds => (readNat? ds).map Int.ofNat

def toInt64? (n : Int) : Option Int64 :=
  if Int64.minValue.toInt ≤ n ∧ n ≤ Int64.maxValue.toInt then some (Int64.ofInt n) else none

def readInt64? (s : List Char) : Option Int64 :=
  (readInt? s).bind toInt64?

end FilterSql.Decimal
