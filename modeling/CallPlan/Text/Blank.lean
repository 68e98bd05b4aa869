/-!
# CallPlan.Text.Blank

Blank characters, the removal of blanks at the ends of a text, and its words. There are two sets:
the white space of every script, and with it the four information separators that count as blanks
in running text but not around numbers.
-/

namespace CallPlan

namespace Text

/-- White space of every script. -/
def isWhiteSpace (c : Char) : Bool :=
  let n := c.toNat
  (9 ≤ n && n ≤ 13) || n = 0x20 || n = 0x85 || n = 0xa0 || n = 0x1680 ||
    (0x2000 ≤ n && n ≤ 0x200a) || n = 0x2028 || n = 0x2029 || n = 0x202f || n = 0x205f ||
    n = 0x3000

/-- Blanks of running text: white space and the information separators. -/
def isBlank (c : Char) : Bool :=
  isWhiteSpace c || (0x1c ≤ c.toNat && c.toNat ≤ 0x1f)

/-- A list of characters without those at either end that satisfy the test. -/
def trimBy (p : Char → Bool) (cs : List Char) : List Char :=
  ((cs.dropWhile p).reverse.dropWhile p).reverse

/-- A text without blanks at its ends. -/
def strip (s : String) : String := String.ofList (trimBy isBlank s.toList)

/-- The words of a text between spaces and line breaks. -/
def words (s : String) : List String :=
  ((s.splitOn "\n").flatMap (·.splitOn " ")).filter (!·.isEmpty)

end Text

end CallPlan
