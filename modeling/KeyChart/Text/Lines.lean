/-!
# Lines of text

A line ends with `\n` or `\r\n`. What follows the last line end is a line only
if it is not empty, and a `\r` elsewhere is part of its line.
-/

namespace KeyChart.Text

/-- A line without the `\r` of its line end. -/
def dropReturn (line : List Char) : List Char :=
  if line.getLast? = some '\r' then line.dropLast else line

/-- The lines of a text; `line` is what is already read of the first one. -/
def splitLines (line : List Char) : List Char → List (List Char)
  | [] => if line.isEmpty then [] else [line]
  | c :: rest =>
    if c = '\n' then dropReturn line :: splitLines [] rest else splitLines (line ++ [c]) rest

/-- The lines of a text. -/
def lines (s : String) : List String := (splitLines [] s.toList).map String.ofList

end KeyChart.Text
