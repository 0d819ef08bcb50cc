/-! Lines and pieces of a text, as lists of characters. -/

namespace Relmap.Text

/-- A line ends with a line feed, or with a carriage return before one. What follows the last line
feed is a line unless it is empty, and a carriage return in any other place is part of its line. -/
def lines : List Char → List (List Char)
  | [] => []
  | '\n' :: rest => [] :: lines rest
  | '\r' :: '\n' :: rest => [] :: lines rest
  | c :: rest =>
    match lines rest with
    | [] => [[c]]
    | line :: others => (c :: line) :: others

/-- The pieces between the marks. There is one more of them than there are marks. -/
def split (mark : Char) : List Char → List (List Char)
  | [] => [[]]
  | c :: rest =>
    if c = mark then [] :: split mark rest
    else
      match split mark rest with
      | [] => [[c]]
      | piece :: others => (c :: piece) :: others

end Relmap.Text
