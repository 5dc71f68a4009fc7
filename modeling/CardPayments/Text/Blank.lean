/-!
# White space

Two sets of blanks are in use. A text is stripped of every character that separates words or lines
or sits in the ASCII separator block; a whole number is stripped of the characters with the
White_Space property, which leaves the four ASCII separators alone.
-/

namespace CardPayments.Text

/-- The characters with the White_Space property. -/
def isWhiteSpace (c : Char) : Bool :=
  let n := c.toNat
  (0x9 ≤ n && n ≤ 0xd) || n == 0x20 || n == 0x85 || n == 0xa0 || n == 0x1680 ||
    (0x2000 ≤ n && n ≤ 0x200a) || n == 0x2028 || n == 0x2029 || n == 0x202f || n == 0x205f ||
    n == 0x3000

/-- White space, together with the four ASCII information separators. -/
def isBlank (c : Char) : Bool :=
  isWhiteSpace c || (0x1c ≤ c.toNat && c.toNat ≤ 0x1f)

/-- The characters without those at either end that satisfy the predicate. -/
def strip (p : Char → Bool) (cs : List Char) : List Char :=
  ((cs.dropWhile p).reverse.dropWhile p).reverse

/-- The text without the blanks at either end. -/
def trim (s : String) : String := String.ofList (strip isBlank s.toList)

/-- A text that consists of blanks alone, or of nothing. -/
def isAllBlank (s : String) : Bool := s.toList.all isBlank

end CardPayments.Text
