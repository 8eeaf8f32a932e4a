import ImageConfig.Text.Ranges

/-!
# Trimming

Characters with the property White_Space are taken from both ends of a text.
-/

namespace ImageConfig.Text

/-- The ranges of characters that are white space. -/
def whiteSpaceRanges : List (Nat × Nat) :=
  [(0x9, 0xD), (0x20, 0x20), (0x85, 0x85), (0xA0, 0xA0), (0x1680, 0x1680), (0x2000, 0x200A),
    (0x2028, 0x2029), (0x202F, 0x202F), (0x205F, 0x205F), (0x3000, 0x3000)]

/-- Whether a character is white space. -/
def isWhiteSpace (char : Char) : Bool := inRanges whiteSpaceRanges char

/-- The characters without white space at the beginning. -/
def trimStart (chars : List Char) : List Char := chars.dropWhile isWhiteSpace

/-- The text without white space at its ends. -/
def trimmed (text : String) : String :=
  String.ofList (trimStart (trimStart text.toList).reverse).reverse

end ImageConfig.Text
