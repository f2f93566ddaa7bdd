/-!
This module contains the white space of Unicode and the trimming of texts. Besides the characters with the
White_Space property the four separators `U+001C` to `U+001F` count as blank.
-/

namespace Readiness
namespace Text

/-- Closed ranges of code points, ascending and apart. -/
def spaceRanges : List (Nat × Nat) :=
  [(0x09, 0x0D), (0x20, 0x20), (0x85, 0x85), (0xA0, 0xA0), (0x1680, 0x1680), (0x2000, 0x200A), (0x2028, 0x2029),
   (0x202F, 0x202F), (0x205F, 0x205F), (0x3000, 0x3000)]

def inRanges (ranges : List (Nat × Nat)) (n : Nat) : Bool :=
  ranges.any fun r => r.1 ≤ n && n ≤ r.2

/-- Whether a character has the property White_Space. -/
def isSpace (c : Char) : Bool :=
  inRanges spaceRanges c.toNat

def isBlank (c : Char) : Bool :=
  isSpace c || (0x1C ≤ c.toNat && c.toNat ≤ 0x1F)

/-- Drops the characters of a class at both ends. -/
def trimBy (p : Char → Bool) (l : List Char) : List Char :=
  ((l.dropWhile p).reverse.dropWhile p).reverse

/-- Drops blanks at both ends. -/
def trimChars (l : List Char) : List Char :=
  trimBy isBlank l

def trim (s : String) : String :=
  String.ofList (trimChars s.toList)

end Text
end Readiness
