/-!
# Blank characters

White space in the sense of the Unicode property White_Space: twenty-five
characters in ten ranges. Texts are trimmed of it at one end or at both, and a
projection is freed of it everywhere.
-/

namespace RestQuery
namespace Text

/-- The closed ranges of code points that are white space, ascending and
apart. -/
def blankRanges : List (Nat × Nat) :=
  [(0x09, 0x0D), (0x20, 0x20), (0x85, 0x85), (0xA0, 0xA0), (0x1680, 0x1680),
    (0x2000, 0x200A), (0x2028, 0x2029), (0x202F, 0x202F), (0x205F, 0x205F),
    (0x3000, 0x3000)]

/-- The character is white space. -/
def isBlank (c : Char) : Bool :=
  blankRanges.any fun range => range.1 ≤ c.toNat && c.toNat ≤ range.2

/-- Drop the longest run of elements satisfying `p` from the end. -/
def dropEndWhile (p : Char → Bool) (s : List Char) : List Char :=
  (s.reverse.dropWhile p).reverse

/-- The text without white space at its start. -/
def trimStart (s : List Char) : List Char := s.dropWhile isBlank

/-- The text without white space at its start and at its end. -/
def trim (s : List Char) : List Char := dropEndWhile isBlank (trimStart s)

/-- The text without any white space. -/
def withoutBlanks (s : List Char) : List Char := s.filter fun c => !isBlank c

end Text
end RestQuery
