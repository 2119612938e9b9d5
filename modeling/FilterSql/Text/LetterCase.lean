import FilterSql.Text.Capitals

/-!
# Letter case

Upper and lower case of single characters and of texts, in any script. A text is
lowered letter by letter, except that a capital sigma at the end of a word
becomes a final sigma. Each character is taken by itself: a combining mark has no
case of its own and is no part of the letter ahead of it, and it ends a word.
-/

namespace FilterSql.Text

def isUpper (c : Char) : Bool :=
  if c.toNat < 128 then c.isUpper
  else !isTitle c && capitals.any (·.covers c.toNat)

def isLower (c : Char) : Bool :=
  if c.toNat < 128 then c.isLower
  else capitals.any (·.yields c.toNat) || loneSmall.contains c.toNat

def isCased (c : Char) : Bool :=
  isUpper c || isLower c || isTitle c

/-- The lower case form; that of the dotted capital I is a small i and a combining dot. -/
def toLower (c : Char) : List Char :=
  if c.toNat < 128 then [c.toLower]
  else if c.toNat = 0x130 then [Char.ofNat 0x69, Char.ofNat 0x307]
  else
    match capitals.find? (·.covers c.toNat) with
    | some r => [Char.ofNat (r.smallOf c.toNat)]
    | none => [c]

/-- Whether the character is a capital sigma at the end of a word. -/
def endsAsSigma (behindLetter : Bool) (c : Char) (next : List Char) : Bool :=
  c.toNat == 0x3A3 && behindLetter && !next.head?.any isCased

/-- The lower case of a text that stands behind a letter or does not. -/
def lowered (behindLetter : Bool) : List Char → List Char
  | [] => []
  | c :: s =>
    (if endsAsSigma behindLetter c s then [Char.ofNat 0x3C2] else toLower c) ++
      lowered (isCased c) s

def lower (s : String) : String :=
  String.ofList (lowered false s.toList)

end FilterSql.Text
