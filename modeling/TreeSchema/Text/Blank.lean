/-
This file says which characters are blank and takes the blanks off both ends of
a text.
-/
import TreeSchema.Text.Ranges

namespace TreeSchema.Text

/-- The Unicode white space, with the four ASCII separators. -/
def blankRanges : Ranges :=
  [(9, 13), (28, 32), (133, 133), (160, 160), (5760, 5760), (8192, 8202), (8232, 8233),
   (8239, 8239), (8287, 8287), (12288, 12288)]

def isBlank (character : Char) : Bool :=
  blankRanges.covers character

/-- The characters without the blanks at both ends. -/
def stripList (characters : List Char) : List Char :=
  ((characters.dropWhile isBlank).reverse.dropWhile isBlank).reverse

/-- The text without the blanks at both ends. -/
def strip (text : String) : String :=
  String.ofList (stripList text.toList)

end TreeSchema.Text
