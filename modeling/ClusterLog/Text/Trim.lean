import ClusterLog.Text.Class

/-!
# Trimming

Text without the blanks at its ends.
-/

namespace ClusterLog.Text

/-- Drop the characters of a class from the end. -/
def dropEndWhile (drop : Char → Bool) (text : List Char) : List Char :=
  (text.reverse.dropWhile drop).reverse

/-- Drop the blanks from both ends. -/
def trim (text : List Char) : List Char :=
  dropEndWhile isBlank (text.dropWhile isBlank)

/-- Whether a text holds nothing but blanks. -/
def isBlankText (text : List Char) : Bool :=
  text.all isBlank

end ClusterLog.Text
