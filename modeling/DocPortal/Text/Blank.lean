import DocPortal.Text.Range

/-!
# Blanks

The characters that leave room between words, in every script: spaces, tabs and the ends of lines. A text may be
freed from the blanks at its ends.
-/

namespace DocPortal.Text

/-- Borders of the blank code points. -/
def blankBorders : List Nat := [
    0x9, 0xE, 0x20, 0x21, 0x85, 0x86, 0xA0, 0xA1, 0x1680, 0x1681, 0x2000, 0x200B, 0x2028, 0x202A,
    0x202F, 0x2030, 0x205F, 0x2060, 0x3000, 0x3001]

/-- Whether a character is a blank. -/
def isBlank (c : Char) : Bool := insideBorders blankBorders c.toNat

/-- The characters of a text without the blanks at its ends. -/
def strip (s : List Char) : List Char :=
  ((s.dropWhile isBlank).reverse.dropWhile isBlank).reverse

end DocPortal.Text
