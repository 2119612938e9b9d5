import FilterSql.Json.Basic

/-!
# Reading JSON

The strict grammar: one document with white space around its tokens, no trailing
commas, no leading zeros, no raw control characters in texts. Nesting is not
limited here. Each reader takes a text and gives what stands at its head together
with the rest.
-/

namespace FilterSql.Json

/-- Space, tab, line feed and carriage return separate tokens; other blanks do not. -/
def isSpace (c : Char) : Bool :=
  c = ' ' || c = '\t' || c = '\n' || c = '\r'

def skipSpace (s : List Char) : List Char :=
  s.dropWhile isSpace

def hexDigit? (c : Char) : Option Nat :=
  if '0' ≤ c ∧ c ≤ '9' then some (c.toNat - 48)
  else if 'a' ≤ c ∧ c ≤ 'f' then some (c.toNat - 87)
  else if 'A' ≤ c ∧ c ≤ 'F' then some (c.toNat - 55)
  else none

def readHex4 : List Char → Option (Nat × List Char)
  | a :: b :: c :: d :: r => do
    let a ← hexDigit? a
    let b ← hexDigit? b
    let c ← hexDigit? c
    let d ← hexDigit? d
    some (a * 4096 + b * 256 + c * 16 + d, r)
  | _ => none

/-- The second code unit of a surrogate pair, if an escape for one follows. -/
def readLowSurrogate : List Char → Option (Nat × List Char)
  | '\\' :: 'u' :: r => (readHex4 r).filter fun p => 0xDC00 ≤ p.1 && p.1 < 0xE000
  | _ => none

/-- The unit that a `\u` escape denotes. A surrogate pair is one character; a surrogate without
its partner is a gap, and what follows it is read on its own. -/
def readUnicode (s : List Char) : Option (Option Char × List Char) := do
  let (hi, r) ← readHex4 s
  if hi < 0xD800 || 0xE000 ≤ hi then some (some (Char.ofNat hi), r)
  else if 0xDC00 ≤ hi then some (none, r)
  else
    match readLowSurrogate r with
    | some (lo, r') => some (some (Char.ofNat (0x10000 + (hi - 0xD800) * 1024 + (lo - 0xDC00))), r')
    | none => some (none, r)

def shortEscape? (c : Char) : Option Char :=
  if c = '"' || c = '\\' || c = '/' then some c
  else if c = 'b' then some '\x08'
  else if c = 'f' then some '\x0c'
  else if c = 'n' then some '\n'
  else if c = 'r' then some '\r'
  else if c = 't' then some '\t'
  else none

def readUnit : List Char → Option (Option Char × List Char)
  | [] => none
  | '\\' :: 'u' :: r => readUnicode r
  | '\\' :: c :: r => (shortEscape? c).map fun d => (some d, r)
  | c :: r => if c.toNat < 0x20 || c = '\\' then none else some (some c, r)

/-- The units up to the closing quote. The fuel bounds their number. -/
def readUnits : Nat → List Char → Option (List (Option Char) × List Char)
  | 0, _ => none
  | _ + 1, '"' :: r => some ([], r)
  | n + 1, s => do
    let (u, r) ← readUnit s
    let (us, r) ← readUnits n r
    some (u :: us, r)

def readText : List Char → Option (List (Option Char) × List Char)
  | '"' :: r => readUnits (r.length + 1) r
  | _ => none

def readDigits (s : List Char) : List Char × List Char :=
  (s.takeWhile Char.isDigit, s.dropWhile Char.isDigit)

/-- The digits after a point; without a point there are none. -/
def readFraction : List Char → Option (List Char × List Char)
  | '.' :: s =>
    match readDigits s with
    | ([], _) => none
    | (ds, r) => some (ds, r)
  | s => some ([], s)

def readExponent : List Char → Option (Option Int × List Char)
  | [] => some (none, [])
  | c :: s =>
    if c = 'e' || c = 'E' then
      let (negative, s) :=
        match s with
        | '+' :: r => (false, r)
        | '-' :: r => (true, r)
        | s => (false, s)
      match readDigits s with
      | ([], _) => none
      | (ds, r) =>
        let n : Int := Nat.ofDigitChars 10 ds 0
        some (some (if negative then -n else n), r)
    else some (none, c :: s)

/-- A number. A zero at the start is the only digit before the point. -/
def readNumeral (s : List Char) : Option (Numeral × List Char) := do
  let (negative, s) :=
    match s with
    | '-' :: r => (true, r)
    | s => (false, s)
  let (whole, s) := readDigits s
  if whole.isEmpty || (whole.head? == some '0' && whole.length > 1) then none
  else
    let (fraction, s) ← readFraction s
    let (exponent, s) ← readExponent s
    some (⟨negative, whole, fraction, exponent⟩, s)

mutual

def readDocument : Nat → List Char → Option (Json × List Char)
  | 0, _ => none
  | n + 1, s =>
    match skipSpace s with
    | 'n' :: 'u' :: 'l' :: 'l' :: r => some (.null, r)
    | 't' :: 'r' :: 'u' :: 'e' :: r => some (.bool true, r)
    | 'f' :: 'a' :: 'l' :: 's' :: 'e' :: r => some (.bool false, r)
    | '"' :: r => (readText ('"' :: r)).map fun p => (.text p.1, p.2)
    | '[' :: r =>
      match skipSpace r with
      | ']' :: r => some (.array [], r)
      | r => (readItems n r).map fun p => (.array p.1, p.2)
    | '{' :: r =>
      match skipSpace r with
      | '}' :: r => some (.object [], r)
      | r => (readMembers n r).map fun p => (.object p.1, p.2)
    | r => (readNumeral r).map fun p => (.number p.1, p.2)

/-- At least one item, up to the closing bracket. -/
def readItems : Nat → List Char → Option (List Json × List Char)
  | 0, _ => none
  | n + 1, s => do
    let (j, r) ← readDocument n s
    match skipSpace r with
    | ']' :: r => some ([j], r)
    | ',' :: r =>
      let (js, r) ← readItems n r
      some (j :: js, r)
    | _ => none

/-- At least one member, up to the closing brace. -/
def readMembers : Nat → List Char → Option (List (List (Option Char) × Json) × List Char)
  | 0, _ => none
  | n + 1, s => do
    let (key, r) ← readText (skipSpace s)
    match skipSpace r with
    | ':' :: r =>
      let (j, r) ← readDocument n r
      match skipSpace r with
      | '}' :: r => some ([(key, j)], r)
      | ',' :: r =>
        let (ms, r) ← readMembers n r
        some ((key, j) :: ms, r)
      | _ => none
    | _ => none

end

/-- The document that a whole text is, with white space allowed around it. -/
def read? (s : String) : Option Json :=
  match readDocument (2 * s.length + 2) s.toList with
  | some (j, r) => if (skipSpace r).isEmpty then some j else none
  | none => none

end FilterSql.Json
