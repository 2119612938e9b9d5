/-!
# Blank characters

The white space that is removed from both ends of a directive token, of a
driver name and of a page number. It is the Unicode property `White_Space`, not
the six characters of `Char.isWhitespace`; zero-width characters and the
information separators U+001C to U+001F are no blanks.
-/

namespace FilterSql.Text

/-- Membership in the Unicode property `White_Space`. -/
def isBlank (c : Char) : Bool :=
  let n := c.toNat
  (0x09 ≤ n && n ≤ 0x0D) || n == 0x20 || n == 0x85 || n == 0xA0 || n == 0x1680 ||
    (0x2000 ≤ n && n ≤ 0x200A) || n == 0x2028 || n == 0x2029 || n == 0x202F ||
    n == 0x205F || n == 0x3000

def trim (s : List Char) : List Char :=
  ((s.dropWhile isBlank).reverse.dropWhile isBlank).reverse

@[simp] theorem trim_nil : trim [] = [] := rfl

end FilterSql.Text
