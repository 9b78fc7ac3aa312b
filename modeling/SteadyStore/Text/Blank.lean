import SteadyStore.Text.Ranges
/-!
# Blanks

The characters with the property White_Space, and the text that is left when
they are removed from both ends.
-/

namespace SteadyStore

/-- The characters with the property White_Space. -/
def blankRanges : CodeRanges :=
  [(9, 13), (32, 32), (133, 133), (160, 160), (5760, 5760), (8192, 8202), (8232, 8233),
   (8239, 8239), (8287, 8287), (12288, 12288)]

/-- The character separates words in any script. -/
def isBlank (c : Char) : Bool := blankRanges.contains c

/-- The characters up to the last that is no blank. -/
def trimTrailingBlanks (cs : List Char) : List Char := (cs.reverse.dropWhile isBlank).reverse

/-- The characters left when the blanks at both ends are dropped. -/
def trimBlanks (cs : List Char) : List Char := trimTrailingBlanks (cs.dropWhile isBlank)

end SteadyStore
